import Mathlib.Tactic.Common

/-! # Operations that assert something

An operation returns its result, or the text of the assertion that fails in it. -/

namespace FlexRic

universe u v w

variable {ε : Type v} {α β : Type u} {γ : Type w}

@[simp] theorem Except.pure_eq (a : α) : (pure a : Except ε α) = .ok a := rfl
@[simp] theorem Except.ok_bind (a : α) (f : α → Except ε β) : ((.ok a : Except ε α) >>= f) = f a := rfl
@[simp] theorem Except.error_bind (msg : ε) (f : α → Except ε β) : ((.error msg : Except ε α) >>= f) = .error msg := rfl

theorem Except.bind_eq_ok {x : Except ε α} {f : α → Except ε β} {b : β} :
    (x >>= f) = .ok b ↔ ∃ a, x = .ok a ∧ f a = .ok b := by
  cases x <;> simp

theorem Except.isOk_iff {x : Except ε α} : x.isOk = true ↔ ∃ a, x = .ok a := by
  cases x <;> simp [Except.isOk, Except.toBool]

/-- `assert(c)` -/
def require (c : Prop) [Decidable c] (msg : String) : Except String Unit := if c then .ok () else .error msg

theorem require_eq_ok {c : Prop} [Decidable c] {msg : String} {u : Unit} : require c msg = .ok u ↔ c := by
  unfold require
  split <;> simp_all

theorem require_of {c : Prop} [Decidable c] {msg : String} (h : c) : require c msg = .ok () := if_pos h

/-- A list of operations goes through when every one of them does. -/
theorem Except.mapM_isOk_iff {f : γ → Except ε β} {l : List γ} :
    (∃ bs, l.mapM f = .ok bs) ↔ ∀ a ∈ l, ∃ b, f a = .ok b := by
  induction l with
  | nil => simp
  | cons a l ih =>
    simp only [List.mapM_cons, Except.bind_eq_ok, Except.pure_eq, Except.ok.injEq, List.forall_mem_cons, ← ih]
    constructor
    · rintro ⟨_, b, hb, bs, hbs, -⟩
      exact ⟨⟨b, hb⟩, bs, hbs⟩
    · rintro ⟨⟨b, hb⟩, bs, hbs⟩
      exact ⟨b :: bs, b, hb, bs, hbs, rfl⟩

/-- An operation on a list whose result is known for every element that it does not refuse. -/
theorem Except.mapM_eq_ok_iff {f : γ → Except ε β} {P : γ → Prop} {g : γ → β} {l : List γ} {bs : List β}
    (h : ∀ a b, f a = .ok b ↔ P a ∧ b = g a) : l.mapM f = .ok bs ↔ (∀ a ∈ l, P a) ∧ bs = l.map g := by
  induction l generalizing bs with
  | nil => simp [eq_comm]
  | cons a l ih =>
    simp only [List.mapM_cons, Except.bind_eq_ok, h, ih, Except.pure_eq, Except.ok.injEq, List.forall_mem_cons,
      List.map_cons]
    constructor
    · rintro ⟨_, ⟨ha, rfl⟩, _, ⟨hl, rfl⟩, rfl⟩
      exact ⟨⟨ha, hl⟩, rfl⟩
    · rintro ⟨⟨ha, hl⟩, rfl⟩
      exact ⟨_, ⟨ha, rfl⟩, _, ⟨hl, rfl⟩, rfl⟩

/-- A list comes out as it went in when each of its elements does. -/
theorem Except.mapM_eq_self {f : β → Except ε β} {l : List β} : l.mapM f = .ok l ↔ ∀ a ∈ l, f a = .ok a := by
  induction l with
  | nil => simp
  | cons a l ih => simp [List.mapM_cons, Except.bind_eq_ok, ih]

theorem Except.length_of_mapM {f : γ → Except ε β} {l : List γ} {bs : List β} (h : l.mapM f = .ok bs) :
    bs.length = l.length := by
  induction l generalizing bs with
  | nil =>
    obtain rfl := Except.ok.inj h
    rfl
  | cons a l ih =>
    rw [List.mapM_cons] at h
    obtain ⟨b, -, h⟩ := Except.bind_eq_ok.mp h
    obtain ⟨bs', hbs, h⟩ := Except.bind_eq_ok.mp h
    obtain rfl := Except.ok.inj h
    rw [List.length_cons, List.length_cons, ih hbs]

/-- What one operation makes of a list, another one makes the list of again, when it does so for each element. -/
theorem Except.mapM_round_trip {f : γ → Except ε β} {g : β → Except ε γ} {l : List γ} {bs : List β}
    (h : l.mapM f = .ok bs) : bs.mapM g = .ok l ↔ ∀ a ∈ l, ∀ b, f a = .ok b → g b = .ok a := by
  induction l generalizing bs with
  | nil =>
    obtain rfl := Except.ok.inj h
    simp
  | cons a l ih =>
    rw [List.mapM_cons] at h
    obtain ⟨b, hb, h⟩ := Except.bind_eq_ok.mp h
    obtain ⟨bs', hbs, h⟩ := Except.bind_eq_ok.mp h
    obtain rfl := Except.ok.inj h
    rw [List.mapM_cons, List.forall_mem_cons, ← ih hbs]
    constructor
    · intro h
      obtain ⟨a', ha, h⟩ := Except.bind_eq_ok.mp h
      obtain ⟨l', hl, h⟩ := Except.bind_eq_ok.mp h
      obtain ⟨rfl, rfl⟩ := List.cons.inj (Except.ok.inj h)
      refine ⟨fun b' hb' => ?_, hl⟩
      obtain rfl := Except.ok.inj (hb.symm.trans hb')
      exact ha
    · rintro ⟨ha, hl⟩
      rw [ha b hb, hl]
      rfl

/-- A list goes there and back, when nothing stops any element on the way there. -/
theorem Except.mapM_map {f : γ → β} {g : β → Except ε γ} {l : List γ} (h : ∀ a ∈ l, g (f a) = .ok a) :
    (l.map f).mapM g = .ok l := by
  induction l with
  | nil => rfl
  | cons a l ih =>
    obtain ⟨ha, hl⟩ := List.forall_mem_cons.mp h
    rw [List.map_cons, List.mapM_cons, ha, ih hl]
    rfl

end FlexRic
