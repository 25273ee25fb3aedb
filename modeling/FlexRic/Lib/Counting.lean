import Mathlib.Algebra.GroupWithZero.Nat
import FlexRic.Lib.Carried

/-! # Numbers that an operation keeps

What is counted in a value is counted again in what an operation makes of it. -/

namespace FlexRic

variable {ε α β γ δ : Type}

/-- The sum over a list, and over what a pointer points to. -/
def total (m : α → Nat) (l : List α) : Nat := (l.map m).sum

def totalOf (m : α → Nat) (o : Option α) : Nat := (o.map m).getD 0

/-- The operation keeps the number of each value that it does not refuse. -/
def KeepsCount (f : α → Except ε β) (m : α → Nat) (n : β → Nat) : Prop := ∀ a b, f a = .ok b → n b = m a

namespace KeepsCount
variable {m : α → Nat} {n : β → Nat}

/-- A constant is the same on both sides, alone and before a number that is kept. -/
theorem const {f : α → Except ε β} {c : Nat} : KeepsCount f (fun _ => c) fun _ => c := fun _ _ _ => rfl

theorem plus {f : α → Except ε β} {c : Nat} (h : KeepsCount f m n) :
    KeepsCount f (fun a => c + m a) fun b => c + n b :=
  fun a b hb => congrArg (c + ·) (h a b hb)

theorem mapM {f : α → Except ε β} (h : KeepsCount f m n) : KeepsCount (List.mapM f) (total m) (total n) := by
  intro l bs hbs
  induction l generalizing bs with
  | nil =>
    obtain rfl := Except.ok.inj hbs
    rfl
  | cons a l ih =>
    rw [List.mapM_cons] at hbs
    obtain ⟨b, hb, hbs⟩ := Except.bind_eq_ok.mp hbs
    obtain ⟨bs', hbs', hbs⟩ := Except.bind_eq_ok.mp hbs
    obtain rfl := Except.ok.inj hbs
    have hl := ih bs' hbs'
    simp only [total, List.map_cons, List.sum_cons] at hl ⊢
    rw [h a b hb, hl]

section Lists
variable {f : α → Except String β} {size : Nat → Prop} [DecidablePred size] {msg : String}

theorem mapSized (h : KeepsCount f m n) : KeepsCount (mapSized size msg f) (total m) (total n) :=
  fun l bs hbs => h.mapM l bs (mapSized_eq_ok.mp hbs).2

theorem mapNonempty (h : KeepsCount f m n) : KeepsCount (mapNonempty size msg f) (total m) (totalOf (total n)) := by
  intro l o ho
  unfold FlexRic.mapNonempty at ho
  split at ho
  · next hl =>
    obtain rfl := Except.ok.inj ho
    rw [hl]
    rfl
  · obtain ⟨bs, hbs, ho⟩ := Except.bind_eq_ok.mp ho
    obtain rfl := Except.ok.inj ho
    exact h.mapSized l bs hbs

end Lists

theorem mapOptional {f : α → Except ε β} (h : KeepsCount f m n) :
    KeepsCount (mapOptional f) (totalOf m) (totalOf n) := by
  intro o o' ho
  obtain ⟨rfl, rfl⟩ | ⟨a, b, rfl, hb, rfl⟩ := mapOptional_eq_ok.mp ho
  · rfl
  · exact h a b hb

end KeepsCount

end FlexRic
