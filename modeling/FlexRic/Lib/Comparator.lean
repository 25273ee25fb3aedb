import Mathlib.Data.Set.Defs
import Mathlib.Order.Lattice
import Mathlib.Tactic.Common

/-! # Comparators

A comparison function that answers `1`, `0` or `-1`, as ordered containers of C programs take one: `1`
puts the first key before the second, `-1` after it, `0` makes no difference between them. It orders
keys totally, but two different keys may compare `0`. -/

namespace FlexRic

universe u v

/-- A three-way comparison that is a weak order: oriented, and transitive in "not after". -/
structure Comparator (α : Type u) where
  cmp : α → α → Int
  range : ∀ a b, cmp a b = 1 ∨ cmp a b = 0 ∨ cmp a b = -1
  symm : ∀ a b, cmp b a = -cmp a b
  trans : ∀ {a b c}, 0 ≤ cmp a b → 0 ≤ cmp b c → 0 ≤ cmp a c

namespace Comparator
variable {α : Type u} {β : Type v} (C : Comparator α)

/-- Two keys that the comparison does not tell apart. -/
def Same (a b : α) : Prop := C.cmp a b = 0

instance (a b : α) : Decidable (C.Same a b) := inferInstanceAs (Decidable (C.cmp a b = 0))

theorem same_iff {a b : α} : C.Same a b ↔ C.cmp a b = 0 := Iff.rfl

@[simp] theorem cmp_self (a : α) : C.cmp a a = 0 := by
  have := C.symm a a
  omega

theorem Same.refl (a : α) : C.Same a a := C.cmp_self a

variable {C}

theorem Same.symm {a b : α} (h : C.Same a b) : C.Same b a := by
  have := C.symm a b
  unfold Same at h ⊢
  omega

theorem Same.trans {a b c : α} (h₁ : C.Same a b) (h₂ : C.Same b c) : C.Same a c := by
  unfold Same at *
  have hac : 0 ≤ C.cmp a c := C.trans (b := b) (by omega) (by omega)
  have hca : 0 ≤ C.cmp c a := C.trans (b := b) (by have := C.symm b c; omega) (by have := C.symm a b; omega)
  have := C.symm a c
  omega

/-- The comparison tells different keys apart: it is a strict total order. -/
def Strict (C : Comparator α) : Prop := ∀ a b, C.Same a b → a = b

/-- The comparison does not tell keys apart that compare `0`. -/
theorem Same.cmp_left {a b : α} (h : C.Same a b) (c : α) : C.cmp a c = C.cmp b c := by
  have key : ∀ {x y : α}, C.Same x y → 0 ≤ C.cmp x c → 0 ≤ C.cmp y c := fun hxy hx =>
    C.trans (Int.le_of_eq (Eq.symm hxy.symm)) hx
  have key' : ∀ {x y : α}, C.Same x y → 0 ≤ C.cmp c x → 0 ≤ C.cmp c y := fun hxy hx =>
    C.trans hx (Int.le_of_eq (Eq.symm hxy))
  have e1 := C.symm a c
  have e2 := C.symm b c
  have h1 := key h
  have h2 := key h.symm
  have h3 := key' h
  have h4 := key' h.symm
  rcases C.range a c with ha | ha | ha <;> rcases C.range b c with hb | hb | hb <;> omega

theorem Same.cmp_right {a b : α} (h : C.Same a b) (c : α) : C.cmp c a = C.cmp c b := by
  rw [C.symm a c, C.symm b c, h.cmp_left]

/-! ### Building comparators -/

/-- The comparison of keys by a field of a linear order, the smaller one first. -/
def by_ [LinearOrder β] (f : α → β) : Comparator α where
  cmp a b := if f a < f b then 1 else if f b < f a then -1 else 0
  range a b := by
    split
    · simp
    · split <;> simp
  symm a b := by
    rcases lt_trichotomy (f a) (f b) with h | h | h
    · simp [h, h.not_gt]
    · simp [h]
    · simp [h, h.not_gt]
  trans := by
    intro a b c hab hbc
    have le_of : ∀ x y : α, 0 ≤ (if f x < f y then (1 : Int) else if f y < f x then -1 else 0) → f x ≤ f y := by
      intro x y h
      by_contra hn
      have hlt := not_le.mp hn
      simp [hlt, hlt.not_gt] at h
    have hle := (le_of a b hab).trans (le_of b c hbc)
    simp only [hle.not_gt, if_false]
    split <;> simp

/-- The comparison of what `f` reads of the keys. -/
def comap (f : α → β) (C : Comparator β) : Comparator α where
  cmp a b := C.cmp (f a) (f b)
  range a b := C.range (f a) (f b)
  symm a b := C.symm (f a) (f b)
  trans h₁ h₂ := C.trans h₁ h₂

/-- The opposite comparison. -/
def reverse (C : Comparator α) : Comparator α where
  cmp a b := C.cmp b a
  range a b := C.range b a
  symm a b := C.symm b a
  trans h₁ h₂ := C.trans h₂ h₁

/-- Compare by `C` first, and by `D` where `C` makes no difference. -/
def lex (C D : Comparator α) : Comparator α where
  cmp a b := if C.cmp a b = 0 then D.cmp a b else C.cmp a b
  range a b := by
    split
    · exact D.range a b
    · exact C.range a b
  symm a b := by
    have hC := C.symm a b
    have hD := D.symm a b
    by_cases h : C.cmp a b = 0
    · rw [if_pos (by omega), if_pos h, hD]
    · rw [if_neg (by omega), if_neg h, hC]
  trans := by
    intro a b c hab hbc
    have hC : ∀ x y : α, 0 ≤ (if C.cmp x y = 0 then D.cmp x y else C.cmp x y) → 0 ≤ C.cmp x y := by
      intro x y h
      by_cases h0 : C.cmp x y = 0
      · omega
      · rwa [if_neg h0] at h
    have hac := C.trans (hC a b hab) (hC b c hbc)
    by_cases h0 : C.cmp a c = 0
    · -- Equal ends force the middle to be equal to both.
      have hca : 0 ≤ C.cmp c a := by have := C.symm a c; omega
      have hba : 0 ≤ C.cmp b a := C.trans (hC b c hbc) hca
      have hcb : 0 ≤ C.cmp c b := C.trans hca (hC a b hab)
      have e1 : C.cmp a b = 0 := by have := C.symm a b; have := hC a b hab; omega
      have e2 : C.cmp b c = 0 := by have := C.symm b c; have := hC b c hbc; omega
      rw [if_pos e1] at hab
      rw [if_pos e2] at hbc
      rw [if_pos h0]
      exact D.trans hab hbc
    · rw [if_neg h0]
      exact hac

/-- The comparison `f`, which agrees with `C` on all keys, as a comparator. -/
def ofEq (C : Comparator α) (f : α → α → Int) (h : ∀ a b, f a b = C.cmp a b) : Comparator α where
  cmp := f
  range a b := by rw [h]; exact C.range a b
  symm a b := by rw [h, h]; exact C.symm a b
  trans := by
    intro a b c
    rw [h, h, h]
    exact C.trans

@[simp] theorem ofEq_cmp (C : Comparator α) (f : α → α → Int) (h : ∀ a b, f a b = C.cmp a b) :
    (C.ofEq f h).cmp = f := rfl

/-- The comparison of pointers by what they point to, the null pointer first. -/
def option (C : Comparator α) : Comparator (Option α) where
  cmp
    | none, none => 0
    | none, some _ => 1
    | some _, none => -1
    | some a, some b => C.cmp a b
  range a b := by
    cases a <;> cases b <;> simp only [true_or, or_true]
    exact C.range _ _
  symm a b := by
    cases a <;> cases b <;> simp only [Int.neg_zero, Int.neg_neg]
    exact C.symm _ _
  trans := by
    intro a b c
    cases a <;> cases b <;> cases c <;> simp only [Int.reduceNeg, Int.reduceLE, false_implies, implies_true]
    exact C.trans

/-! ### The comparisons written out -/

section Written
variable [LinearOrder β] (f : α → β) (D : Comparator α) (a b : α)

theorem by_cmp : (by_ f).cmp a b = if f a < f b then 1 else if f a > f b then -1 else 0 := rfl

theorem reverse_by_cmp : (reverse (by_ f)).cmp a b = if f a < f b then -1 else if f a > f b then 1 else 0 := by
  simp only [reverse, by_]
  rcases lt_trichotomy (f a) (f b) with h | h | h
  · simp [h, h.not_gt]
  · simp [h]
  · simp [h, h.not_gt]

theorem lex_by_cmp :
    (lex (by_ f) D).cmp a b = if f a < f b then 1 else if f a > f b then -1 else D.cmp a b := by
  simp only [lex, by_]
  rcases lt_trichotomy (f a) (f b) with h | h | h
  · simp [h]
  · simp [h]
  · simp [h, h.not_gt]

theorem lex_reverse_by_cmp :
    (lex (reverse (by_ f)) D).cmp a b = if f a < f b then -1 else if f a > f b then 1 else D.cmp a b := by
  simp only [lex, reverse, by_]
  rcases lt_trichotomy (f a) (f b) with h | h | h
  · simp [h, h.not_gt]
  · simp [h]
  · simp [h, h.not_gt]

end Written

/-! ### Which keys they do not tell apart -/

@[simp] theorem same_by [LinearOrder β] {f : α → β} {a b : α} : (by_ f).Same a b ↔ f a = f b := by
  simp only [Same, by_]
  rcases lt_trichotomy (f a) (f b) with h | h | h
  · simp [h, h.ne]
  · simp [h]
  · simp [h, h.not_gt, h.ne']

@[simp] theorem same_comap {f : α → β} {C : Comparator β} {a b : α} :
    (comap f C).Same a b ↔ C.Same (f a) (f b) := Iff.rfl

@[simp] theorem same_reverse {a b : α} : (reverse C).Same a b ↔ C.Same a b :=
  ⟨fun h => Same.symm (a := b) h, fun h => h.symm⟩

@[simp] theorem same_lex {D : Comparator α} {a b : α} : (lex C D).Same a b ↔ C.Same a b ∧ D.Same a b := by
  simp only [Same, lex]
  split
  · next h => simp [h]
  · next h => simp [h]

@[simp] theorem same_ofEq {f : α → α → Int} {h : ∀ a b, f a b = C.cmp a b} {a b : α} :
    (C.ofEq f h).Same a b ↔ C.Same a b := by
  simp only [Same, ofEq_cmp, h]

@[simp] theorem same_option {a b : Option α} :
    (option C).Same a b ↔ (a = none ↔ b = none) ∧ ∀ x ∈ a, ∀ y ∈ b, C.Same x y := by
  cases a <;> cases b <;> simp [Same, option]

end Comparator

/-! ### Comparisons as they are handed to containers -/

/-- On the keys of `S` the comparison `cmp` is a strict total order, whose equality is `eq`. -/
structure StrictOn {α : Type u} (cmp : α → α → Int) (eq : α → α → Bool) (S : Set α) : Prop where
  range : ∀ a ∈ S, ∀ b ∈ S, cmp a b = 1 ∨ cmp a b = 0 ∨ cmp a b = -1
  symm : ∀ a ∈ S, ∀ b ∈ S, cmp b a = -cmp a b
  trans : ∀ a ∈ S, ∀ b ∈ S, ∀ c ∈ S, 0 ≤ cmp a b → 0 ≤ cmp b c → 0 ≤ cmp a c
  trans_lt : ∀ a ∈ S, ∀ b ∈ S, ∀ c ∈ S, cmp a b = 1 → cmp b c = 1 → cmp a c = 1
  zero : ∀ a ∈ S, ∀ b ∈ S, cmp a b = 0 ↔ eq a b

/-- A comparator is strict on keys of which it finds only those equal that `eq` does. -/
theorem Comparator.strictOn {α : Type u} (C : Comparator α) {eq : α → α → Bool} {S : Set α}
    (h : ∀ a ∈ S, ∀ b ∈ S, C.Same a b ↔ eq a b) : StrictOn C.cmp eq S where
  range a _ b _ := C.range a b
  symm a _ b _ := C.symm a b
  trans _ _ _ _ _ _ := C.trans
  trans_lt a _ b _ c _ hab hbc := by
    have hac : 0 ≤ C.cmp a c := C.trans (b := b) (by omega) (by omega)
    rcases C.range a c with hc | hc | hc
    · exact hc
    · -- Were the ends equal, the middle would not come after them.
      have hba : C.cmp b a = C.cmp b c := (show C.Same a c from hc).cmp_right b
      have := C.symm a b
      omega
    · omega
  zero := h

/-- A comparison that on the keys of `S` answers as a strict one does is strict there too. -/
theorem StrictOn.congr {α : Type u} {cmp cmp' : α → α → Int} {eq : α → α → Bool} {S : Set α}
    (h : StrictOn cmp eq S) (he : ∀ a ∈ S, ∀ b ∈ S, cmp' a b = cmp a b) : StrictOn cmp' eq S where
  range a ha b hb := by
    rw [he a ha b hb]
    exact h.range a ha b hb
  symm a ha b hb := by
    rw [he a ha b hb, he b hb a ha]
    exact h.symm a ha b hb
  trans a ha b hb c hc := by
    rw [he a ha b hb, he b hb c hc, he a ha c hc]
    exact h.trans a ha b hb c hc
  trans_lt a ha b hb c hc := by
    rw [he a ha b hb, he b hb c hc, he a ha c hc]
    exact h.trans_lt a ha b hb c hc
  zero a ha b hb := by
    rw [he a ha b hb]
    exact h.zero a ha b hb

end FlexRic
