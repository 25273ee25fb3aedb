import FlexRic.Ds.BiMap
import FlexRic.Lib.Sequence

/-! # The two sides of a map stay inverse to each other

An extraction by right key compares the key it was given with the one in the map, and it does so with the
comparison of the left keys. It goes through when that comparison makes no difference between the two. -/

namespace FlexRic.Ds

universe u v

variable {α : Type u} {β : Type v} {C₁ : Comparator α} {C₂ : Comparator β}

namespace BiMap
variable {m m' : BiMap C₁ C₂} {op : Op α β} {ops : List (Op α β)} {out : Key α β}

/-- The pairs of the map, as the left side has them. -/
def pairs (m : BiMap C₁ C₂) : List (α × β) := m.left.toList

/-- Each side has the pairs of the other, and they have the same size. -/
structure Inverse (m : BiMap C₁ C₂) : Prop where
  swap : m.right.toList.Perm (m.pairs.map Prod.swap)
  size : m.left.size = m.right.size

/-- The operation adds a pair, or takes out the pair with the key it was given and returns the other key; no
assertion fails and the sides stay inverse. -/
def Exact (m : BiMap C₁ C₂) : Op α β → Prop
  | .insert key1 key2 => ∃ m', m.apply (.insert key1 key2) = .ok (m', .none) ∧ m'.Inverse ∧
      m'.pairs.Perm ((key1, key2) :: m.pairs)
  | .extractLeft key1 => ∃ m' key2, m.apply (.extractLeft key1) = .ok (m', .right key2) ∧ m'.Inverse ∧
      m.pairs.Perm ((key1, key2) :: m'.pairs)
  | .extractRight key2 leftComp => ∃ m' key1, m.apply (.extractRight key2 leftComp) = .ok (m', .left key1) ∧
      m'.Inverse ∧ m.pairs.Perm ((key1, key2) :: m'.pairs)

/-- What is asked of the callers: they insert keys that are new on both sides, and extract keys that are there. -/
def Proper (m : BiMap C₁ C₂) : Op α β → Prop
  | .insert key1 key2 => (∀ e ∈ m.pairs, e.1 ≠ key1) ∧ ∀ e ∈ m.pairs, e.2 ≠ key2
  | .extractLeft key1 => ∃ e ∈ m.pairs, e.1 = key1
  | .extractRight key2 _ => ∃ e ∈ m.pairs, e.2 = key2

/-- The comparison of the left tree makes no difference between a right key and the one in the map. -/
def Alike (_ : BiMap C₁ C₂) : Op α β → Prop
  | .extractRight key2 leftComp => leftComp key2 key2 = 0
  | _ => True

instance [DecidableEq α] [DecidableEq β] (m : BiMap C₁ C₂) : ∀ op, Decidable (m.Proper op)
  | .insert _ _ => inferInstanceAs (Decidable (_ ∧ _))
  | .extractLeft key1 => inferInstanceAs (Decidable (∃ e ∈ m.pairs, e.1 = key1))
  | .extractRight key2 _ => inferInstanceAs (Decidable (∃ e ∈ m.pairs, e.2 = key2))

instance (m : BiMap C₁ C₂) : ∀ op, Decidable (m.Alike op)
  | .insert _ _ | .extractLeft _ => .isTrue trivial
  | .extractRight key2 leftComp => inferInstanceAs (Decidable (leftComp key2 key2 = 0))

/-- The map while `ops` is still to come. -/
structure Sound (m : BiMap C₁ C₂) (ops : List (Op α β)) : Prop where
  holds : m.Holds m.pairs
  leftKeys : LeftKeys C₁ m.pairs
  rightKeys : RightKeys C₂ m.pairs
  proper : Throughout apply Proper m ops

theorem Holds.inverse {es : List (α × β)} (h : m.Holds es) : m.Inverse where
  swap := h.right.trans (h.left.symm.map _)
  size := h.size_left.trans h.size_right.symm

theorem Sound.remove (h : m.Sound (op :: ops)) {e : α × β} {rest : List (α × β)} (hp : m.pairs.Perm (e :: rest))
    (hm : m'.Holds rest) (ho : m.apply op = .ok (m', out)) : m'.Sound ops where
  holds := hm.perm hm.left.symm
  leftKeys := (List.pairwise_cons.mp (h.leftKeys.perm hp)).2.perm hm.left.symm fun hab hba => hab hba.symm
  rightKeys := (List.pairwise_cons.mp (h.rightKeys.perm hp)).2.perm hm.left.symm fun hab hba => hab hba.symm
  proper := h.proper.2 m' out ho

theorem Sound.insert {key1 : α} {key2 : β} (h₁ : C₁.Strict) (h₂ : C₂.Strict)
    (h : m.Sound (.insert key1 key2 :: ops)) : (m.insert key1 key2).Sound ops := by
  have hp : (m.insert key1 key2).pairs.Perm ((key1, key2) :: m.pairs) := m.left.toList_insert key1 key2
  obtain ⟨hn₁, hn₂⟩ := h.proper.1
  refine ⟨(h.holds.insert key1 key2).perm hp.symm, ?_, ?_, h.proper.2 _ _ rfl⟩
  · refine LeftKeys.perm (List.pairwise_cons.mpr ⟨fun e he hs => ?_, h.leftKeys⟩) hp.symm
    exact hn₁ e he (h₁ _ _ hs).symm
  · refine RightKeys.perm (List.pairwise_cons.mpr ⟨fun e he hs => ?_, h.rightKeys⟩) hp.symm
    exact hn₂ e he (h₂ _ _ hs).symm

/-- A left key that is there is extracted with the key it was inserted with. -/
theorem Sound.extractLeft {key1 : α} (h : m.Sound (.extractLeft key1 :: ops)) :
    ∃ key2 m' rest, m.apply (.extractLeft key1) = .ok (m', .right key2) ∧ m.pairs.Perm ((key1, key2) :: rest) ∧
      m'.Holds rest := by
  obtain ⟨⟨a, b⟩, he, rfl⟩ := h.proper.1
  obtain ⟨m', rest, hx, hp, hm⟩ := h.holds.extractLeft h.leftKeys h.rightKeys he (Comparator.Same.refl C₁ a)
  exact ⟨b, m', rest, by simp [apply, hx], hp, hm⟩

/-- A right key that is there is extracted with the key it was inserted with, unless the assertion fails. -/
theorem Sound.extractRight {key2 : β} {leftComp : β → β → Int} (h : m.Sound (.extractRight key2 leftComp :: ops))
    (h₂ : C₂.Strict) : ∃ key1 rest, m.pairs.Perm ((key1, key2) :: rest) ∧
      if leftComp key2 key2 = 0 then
        ∃ m', m.apply (.extractRight key2 leftComp) = .ok (m', .left key1) ∧ m'.Holds rest
      else m.apply (.extractRight key2 leftComp) = .error "cmp == 0" := by
  obtain ⟨⟨a, b⟩, he, rfl⟩ := h.proper.1
  rcases h.holds.extractRight_cases h.leftKeys leftComp b with ⟨hn, -⟩ | ⟨a', b', rest, hp, hs, hif⟩
  · exact absurd (Comparator.Same.refl C₂ b) (hn (a, b) he)
  · obtain rfl : b = b' := h₂ _ _ hs
    refine ⟨a', rest, hp, ?_⟩
    split at hif
    · next hc =>
      obtain ⟨m', hx, hm⟩ := hif
      rw [if_pos hc]
      exact ⟨m', by simp [apply, hx], hm⟩
    · next hc =>
      rw [if_neg hc]
      simp [apply, hif]

theorem Sound.exact_iff (h₁ : C₁.Strict) (h₂ : C₂.Strict) (h : m.Sound (op :: ops)) : m.Exact op ↔ m.Alike op := by
  cases op with
  | insert key1 key2 =>
    have hs := h.insert h₁ h₂
    exact ⟨fun _ => trivial, fun _ => ⟨_, rfl, hs.holds.inverse, m.left.toList_insert key1 key2⟩⟩
  | extractLeft key1 =>
    obtain ⟨key2, m', rest, ho, hp, hm⟩ := h.extractLeft
    exact ⟨fun _ => trivial, fun _ => ⟨m', key2, ho, hm.inverse, hp.trans (hm.left.symm.cons _)⟩⟩
  | extractRight key2 leftComp =>
    obtain ⟨key1, rest, hp, hif⟩ := h.extractRight h₂
    constructor
    · rintro ⟨m', key1', ho, -⟩
      by_contra hc
      have hne : ¬leftComp key2 key2 = 0 := hc
      rw [if_neg hne, ho] at hif
      cases hif
    · intro hc
      have h0 : leftComp key2 key2 = 0 := hc
      rw [if_pos h0] at hif
      obtain ⟨m', ho, hm⟩ := hif
      exact ⟨m', key1, ho, hm.inverse, hp.trans (hm.left.symm.cons _)⟩

theorem Sound.step (h₁ : C₁.Strict) (h₂ : C₂.Strict) (h : m.Sound (op :: ops)) (ha : m.Alike op)
    (ho : m.apply op = .ok (m', out)) : m'.Sound ops := by
  cases op with
  | insert key1 key2 =>
    obtain ⟨rfl, -⟩ := Prod.mk.inj (Except.ok.inj ho)
    exact h.insert h₁ h₂
  | extractLeft key1 =>
    obtain ⟨key2, m₁, rest, ho', hp, hm⟩ := h.extractLeft
    obtain ⟨rfl, -⟩ := Prod.mk.inj (Except.ok.inj (ho'.symm.trans ho))
    exact h.remove hp hm ho
  | extractRight key2 leftComp =>
    obtain ⟨key1, rest, hp, hif⟩ := h.extractRight h₂
    have h0 : leftComp key2 key2 = 0 := ha
    rw [if_pos h0] at hif
    obtain ⟨m₁, ho', hm⟩ := hif
    obtain ⟨rfl, -⟩ := Prod.mk.inj (Except.ok.inj (ho'.symm.trans ho))
    exact h.remove hp hm ho

/-- The operations of a sequence do what is asked of them exactly when the comparison of the left tree never tells
a right key from the one in the map. -/
theorem exact_iff_alike (h₁ : C₁.Strict) (h₂ : C₂.Strict)
    (hp : Throughout apply Proper (init : BiMap C₁ C₂) ops) :
    Throughout apply Exact (init : BiMap C₁ C₂) ops ↔ Throughout apply Alike (init : BiMap C₁ C₂) ops :=
  throughout_iff (I := Sound) (fun _ _ _ h => h.exact_iff h₁ h₂) (fun _ _ _ _ _ h ha ho => h.step h₁ h₂ ha ho)
    ⟨holds_init, .nil, .nil, hp⟩

/-! ### Left keys that are longer than right keys -/

/-- Numbers, the smaller one first, of any width. -/
def wordOrder : Comparator Nat := .by_ id

theorem wordOrder_strict : wordOrder.Strict := fun _ _ h => Comparator.same_by.mp h

/-- What the comparison of keys of eight bytes makes of two keys of four bytes, with what lies behind each of them
in memory. -/
def compBeyond (behind1 behind2 : Nat) (key2 key3 : Nat) : Int :=
  wordOrder.cmp (key2 + 4294967296 * behind1) (key3 + 4294967296 * behind2)

/-- Three pairs, two of them extracted by a right key that has as many bytes as a left key. -/
def alikeOps : List (Op Nat Nat) :=
  [.insert 10 1, .insert 11 2, .insert 12 3, .extractRight 2 wordOrder.cmp, .extractLeft 10,
    .extractRight 3 wordOrder.cmp]

theorem exact_alikeOps : Throughout apply Exact (init : BiMap wordOrder wordOrder) alikeOps :=
  (exact_iff_alike wordOrder_strict wordOrder_strict (by decide +kernel)).mpr (by decide +kernel)

/-- One pair, extracted by its right key of four bytes; the four bytes behind the key given are zero, those behind
the key in the map are not. -/
def beyondOps : List (Op Nat Nat) := [.insert 10 1, .extractRight 1 (compBeyond 0 1)]

theorem extractRight_beyond_fails :
    wordOrder.Strict ∧ Throughout apply Proper (init : BiMap wordOrder wordOrder) beyondOps ∧
      failure? apply (init : BiMap wordOrder wordOrder) beyondOps = some "cmp == 0" ∧
      ¬Throughout apply Exact (init : BiMap wordOrder wordOrder) beyondOps := by
  have hf : failure? apply (init : BiMap wordOrder wordOrder) beyondOps = some "cmp == 0" := by decide +kernel
  refine ⟨wordOrder_strict, by decide +kernel, hf, not_throughout_of_failure hf ?_⟩
  intro m op h
  cases op with
  | insert =>
    obtain ⟨_, ho, _⟩ := h
    exact ⟨_, ho⟩
  | extractLeft =>
    obtain ⟨_, _, ho, _⟩ := h
    exact ⟨_, ho⟩
  | extractRight =>
    obtain ⟨_, _, ho, _⟩ := h
    exact ⟨_, ho⟩

end BiMap

end FlexRic.Ds
