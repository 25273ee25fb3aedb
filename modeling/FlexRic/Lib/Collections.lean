import Mathlib.Data.List.Perm.Basic
import Mathlib.Tactic.Common

/-! # Collections

Collections whose order does not matter: the messages with an address among all messages, and two parties that keep the
same collection because they make the same changes to it. -/

namespace FlexRic

universe u v w

variable {α : Type u} {β : Type v} {γ : Type w}

/-! ### Changes -/

/-- What is done with an element. -/
inductive Change
  | adds
  | removes
  | leaves

namespace Change

/-- The collection `l` becomes `l'`. -/
def Makes (c : Change) (e : α) (l l' : List α) : Prop :=
  match c with
  | adds => l'.Perm (e :: l)
  | removes => l.Perm (e :: l')
  | leaves => l'.Perm l

variable {c : Change} {e : α} {b : β} {l l' k k' : List α} {f : α → Option β}

/-- What is read of the element is added, or removed. -/
theorem Makes.filterMap (h : c.Makes e l l') (he : f e = some b) : c.Makes b (l.filterMap f) (l'.filterMap f) := by
  cases c with
  | adds => exact (List.Perm.filterMap f h).trans (.of_eq (List.filterMap_cons_some he))
  | removes => exact (List.Perm.filterMap f h).trans (.of_eq (List.filterMap_cons_some he))
  | leaves => exact List.Perm.filterMap f h

/-- Of an element of which nothing is read, nothing changes. -/
theorem Makes.filterMap_none (h : c.Makes e l l') (he : f e = none) : (l'.filterMap f).Perm (l.filterMap f) := by
  cases c with
  | adds => exact (List.Perm.filterMap f h).trans (.of_eq (List.filterMap_cons_none he))
  | removes => exact ((List.Perm.filterMap f h).trans (.of_eq (List.filterMap_cons_none he))).symm
  | leaves => exact List.Perm.filterMap f h

/-- The same change of the same collection -/
theorem Makes.perm (h : c.Makes e l l') (h' : c.Makes e k k') (hp : l.Perm k) : l'.Perm k' := by
  cases c with
  | adds => exact h.trans ((hp.cons e).trans h'.symm)
  | removes => exact (List.perm_cons e).mp (h.symm.trans (hp.trans h'))
  | leaves => exact h.trans (hp.trans h'.symm)

end Change

/-! ### Messages by their address -/

/-- What is read of the first element comes first. -/
theorem filterMap_cons_toList (f : β → Option γ) (b : β) (l : List β) :
    (b :: l).filterMap f = (f b).toList ++ l.filterMap f := by
  rw [List.filterMap_cons]
  cases f b <;> rfl

theorem perm_cons_of_length_le_one {l l' : List β} {b : β} (h : l.Perm (b :: l')) (hl : l.length ≤ 1) :
    l = [b] ∧ l' = [] := by
  rw [h.length_eq, List.length_cons] at hl
  obtain rfl : l' = [] := List.length_eq_zero_iff.mp (Nat.le_zero.mp (Nat.le_of_succ_le_succ hl))
  exact ⟨List.perm_singleton.mp h, rfl⟩

variable [DecidableEq α]

/-- The messages with the address. -/
def addressed (k : α) (l : List (α × β)) : List β := l.filterMap fun e => if e.1 = k then some e.2 else none

section Addressed
variable {k k' : α} {l l' : List (α × β)} {b : β} {e : α × β} {i : Nat}

@[simp] theorem addressed_nil : addressed k ([] : List (α × β)) = [] := rfl

theorem mem_addressed : b ∈ addressed k l ↔ (k, b) ∈ l := by
  rw [addressed, List.mem_filterMap]
  constructor
  · rintro ⟨⟨k', b'⟩, hm, he⟩
    dsimp only at he
    split at he
    · next hk =>
      obtain rfl := Option.some.inj he
      exact hk ▸ hm
    · cases he
  · exact fun hm => ⟨_, hm, if_pos rfl⟩

@[simp] theorem addressed_append : addressed k (l ++ l') = addressed k l ++ addressed k l' := List.filterMap_append

theorem addressed_cons_self : addressed k ((k, b) :: l) = b :: addressed k l := by
  simp [addressed]

theorem addressed_cons_ne (h : k' ≠ k) : addressed k ((k', b) :: l) = addressed k l := by
  simp [addressed, h]

theorem addressed_cons : addressed k (e :: l) = (if e.1 = k then [e.2] else []) ++ addressed k l := by
  obtain ⟨k', b⟩ := e
  split
  · next h =>
    subst h
    exact addressed_cons_self
  · next h => exact addressed_cons_ne h

theorem addressed_singleton : addressed k [e] = if e.1 = k then [e.2] else [] := by
  rw [addressed_cons, addressed_nil, List.append_nil]

theorem addressed_perm (h : l.Perm l') : (addressed k l).Perm (addressed k l') := h.filterMap _

end Addressed

end FlexRic
