import FlexRic.Lib.Except

/-! # Programs that work on memory

A memory gives the cell at an address, if one is allocated there; the address `0` is `NULL` and never is. A
program changes the state it works on, or an assertion in it fails. -/

namespace FlexRic

universe u v

abbrev Ptr := Nat

/-- The cells that are allocated. -/
abbrev Memory (β : Type u) := Ptr → Option β

namespace Memory
variable {β : Type u} (m : Memory β) {a b : Ptr} (c : β)

def write (a : Ptr) (c : β) : Memory β := fun x => if x = a then some c else m x

def free (a : Ptr) : Memory β := fun x => if x = a then none else m x

@[simp] theorem write_self : m.write a c a = some c := if_pos rfl

theorem write_ne (h : b ≠ a) : m.write a c b = m b := if_neg h

theorem free_ne (h : b ≠ a) : m.free a b = m b := if_neg h

end Memory

abbrev Prog (σ α : Type u) := StateT σ (Except String) α

namespace Prog
variable {σ α γ : Type u} {s t : σ} {a : α}

/-- `assert(c)` -/
def assert {σ : Type u} (c : Prop) [Decidable c] (msg : String) : Prog σ PUnit :=
  fun s => if c then .ok (⟨⟩, s) else .error msg

/-- A program whose first part goes through does what its second part does from there. -/
theorem bind_ok {m : Prog σ α} (f : α → Prog σ γ) (h : m s = .ok (a, t)) : (m >>= f) s = f a t := by
  simp only [Bind.bind, StateT.bind, h, Except.bind]

@[simp] theorem pure_ok (a : α) (s : σ) : (pure a : Prog σ α) s = .ok (a, s) := rfl

theorem assert_ok {c : Prop} [Decidable c] {msg : String} (h : c) (s : σ) :
    assert c msg s = .ok (⟨⟩, s) := if_pos h

end Prog

end FlexRic
