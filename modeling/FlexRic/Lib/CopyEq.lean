import Mathlib.Data.Set.Basic
import FlexRic.Lib.Carried
import FlexRic.Lib.Equality

/-! # Comparisons beside copies

A value that is copied and found equal to itself, and sets of values on which copies and comparisons are right. -/

namespace FlexRic

variable {α : Type} {cp : α → Except String α} {eq : α → α → Except String Bool} {P : α → Prop} {as : List α}

/-- The copy of the value is the value, and the comparison finds no difference between the two. -/
def Kept (cp : α → Except String α) (eq : α → α → Except String Bool) (a : α) : Prop :=
  cp a = .ok a ∧ eq a a = .ok true

/-- The comparison is right about any two values of the set, and the copies of its values are equal to them. -/
def RightOn (cp : α → Except String α) (eq : α → α → Except String Bool) (s : Set α) : Prop :=
  (∀ a ∈ s, ∀ b ∈ s, Says (eq a b) (a = b)) ∧ ∀ a ∈ s, cp a = .ok a

theorem says_self {a : α} : Says (eq a a) (a = a) ↔ eq a a = .ok true := by
  rw [says_iff_or]
  simp

/-- A comparison that finds a value equal to itself is right about two values when they are equal or it says no. -/
theorem says_iff_eq_or {a b : α} (hself : eq a a = .ok true) : Says (eq a b) (a = b) ↔ a = b ∨ eq a b = .ok false := by
  by_cases hab : a = b
  · subst hab
    exact iff_of_true (says_self.mpr hself) (.inl rfl)
  · rw [says_iff_or]
    simp [hab]

/-- `P` is what a value needs by itself, and `R` tells when the comparison of two such values says no. -/
theorem rightOn_iff {R : α → α → Prop} {s : Set α} (hkept : ∀ a, Kept cp eq a ↔ P a)
    (hapart : ∀ a b, P a → P b → (eq a b = .ok false ↔ R a b)) :
    RightOn cp eq s ↔ ∀ a ∈ s, P a ∧ ∀ b ∈ s, a = b ∨ R a b := by
  constructor
  · rintro ⟨heq, hcp⟩ a ha
    have hP (b : α) (hb : b ∈ s) : P b := (hkept b).mp ⟨hcp b hb, says_self.mp (heq b hb b hb)⟩
    refine ⟨hP a ha, fun b hb => ?_⟩
    rw [← hapart a b (hP a ha) (hP b hb)]
    exact (says_iff_eq_or (says_self.mp (heq a ha a ha))).mp (heq a ha b hb)
  · intro h
    have hself (a : α) (ha : a ∈ s) : Kept cp eq a := (hkept a).mpr (h a ha).1
    refine ⟨fun a ha b hb => (says_iff_eq_or (hself a ha).2).mpr ?_, fun a ha => (hself a ha).1⟩
    rw [hapart a b (h a ha).1 (h b hb).1]
    exact (h a ha).2 b hb

/-- A comparison that does not fail on two such values misses what it takes for alike. -/
theorem rightOn_iff_of_tells {A : α → α → Prop} {s : Set α} (hkept : ∀ a, Kept cp eq a ↔ P a)
    (htells : ∀ a b, P a → P b → Tells (eq a b) (A a b) False) :
    RightOn cp eq s ↔ ∀ a ∈ s, P a ∧ ∀ b ∈ s, a = b ∨ ¬A a b :=
  rightOn_iff hkept fun a b ha hb => (htells a b ha hb).eq_false_iff

theorem forall_kept (h : ∀ a ∈ as, Kept cp eq a ↔ P a) :
    (∀ a ∈ as, P a) ↔ (∀ a ∈ as, cp a = .ok a) ∧ ∀ a ∈ as, eq a a = .ok true := by
  constructor
  · intro hP
    exact ⟨fun a ha => ((h a ha).mpr (hP a ha)).1, fun a ha => ((h a ha).mpr (hP a ha)).2⟩
  · rintro ⟨hcp, heq⟩ a ha
    exact (h a ha).mp ⟨hcp a ha, heq a ha⟩

theorem forall_some_kept {o : Option α} (h : ∀ a, Kept cp eq a ↔ P a) :
    (∀ a ∈ o, P a) ↔ (∀ a ∈ o, cp a = .ok a) ∧ ∀ a ∈ o, eq a a = .ok true := by
  cases o with
  | none => simp
  | some a => simpa [Kept] using (h a).symm

/-- What is copied is found equal to itself. -/
theorem kept_iff_of_cp {a : α} {p : Prop} (hcp : cp a = .ok a ↔ p) (hself : p → eq a a = .ok true) : Kept cp eq a ↔ p := by
  rw [Kept, hcp]
  exact and_iff_left_of_imp hself

/-- A value behind a tag is kept when the value is. -/
theorem kept_wrap {β : Type} {mk : α → β} {cpOut : β → Except String β} {eqOut : β → β → Except String Bool} {a : α}
    (hcp : cpOut (mk a) = cp a >>= fun b => .ok (mk b)) (heq : eqOut (mk a) (mk a) = eq a a)
    (hmk : Function.Injective mk) : Kept cpOut eqOut (mk a) ↔ Kept cp eq a := by
  rw [Kept, hcp, heq, bind_mk_eq_ok hmk, Kept]

theorem eqPresent_self {o : Option α} : eqPresent eq o o = .ok true ↔ ∀ a ∈ o, eq a a = .ok true := by
  cases o with
  | none => simp [eqPresent]
  | some a => simp [eqPresent]

end FlexRic
