import FlexRic.Lib.Except

/-! # Sequences of operations

An operation of a component takes a request in a state: it gives the next state and an answer, or an
assertion in it fails. What is required of each operation is required in the state where its turn comes. -/

namespace FlexRic

universe u v w

variable {σ : Type u} {ε : Type v} {ω : Type w} {op : σ → ε → Except String (σ × ω)}

/-- The operations one after the other. -/
def execAll (op : σ → ε → Except String (σ × ω)) : σ → List ε → Except String σ
  | s, [] => .ok s
  | s, e :: es =>
    match op s e with
    | .error msg => .error msg
    | .ok (t, _) => execAll op t es

/-- `P` holds of every operation of the sequence, in the state where its turn comes. -/
def Throughout (op : σ → ε → Except String (σ × ω)) (P : σ → ε → Prop) : σ → List ε → Prop
  | _, [] => True
  | s, e :: es => P s e ∧ ∀ t out, op s e = .ok (t, out) → Throughout op P t es

instance decidableThroughout (P : σ → ε → Prop) [∀ s e, Decidable (P s e)] :
    ∀ s es, Decidable (Throughout op P s es)
  | _, [] => .isTrue trivial
  | s, e :: es =>
    match h : op s e with
    | .error _ => decidable_of_iff (P s e) ⟨fun hp => ⟨hp, fun t out ho => by simp [h] at ho⟩, And.left⟩
    | .ok (t, _) =>
      have := decidableThroughout P t es
      decidable_of_iff (P s e ∧ Throughout op P t es)
        ⟨fun hp => ⟨hp.1, fun t' out ho => by
          obtain ⟨rfl, -⟩ := Prod.mk.inj (Except.ok.inj (h.symm.trans ho))
          exact hp.2⟩, fun hp => ⟨hp.1, hp.2 t _ h⟩⟩

/-- The assertion that fails in a sequence of operations. -/
def failure? (op : σ → ε → Except String (σ × ω)) (s : σ) (es : List ε) : Option String :=
  match execAll op s es with
  | .error msg => some msg
  | .ok _ => none

section Throughout
variable {P Q R : σ → ε → Prop} {s : σ} {es : List ε}

/-- Operations that are each granted to go through go through one after the other. -/
theorem Throughout.execAll_isOk (h : Throughout op P s es) (hok : ∀ s e, P s e → ∃ r, op s e = .ok r) :
    ∃ t, execAll op s es = .ok t := by
  induction es generalizing s with
  | nil => exact ⟨s, rfl⟩
  | cons e es ih =>
    obtain ⟨⟨t, out⟩, ho⟩ := hok s e h.1
    obtain ⟨u, hu⟩ := ih (h.2 t out ho)
    exact ⟨u, by rw [execAll, ho]; exact hu⟩

/-- A sequence in which an assertion fails has an operation that is not as required. -/
theorem not_throughout_of_failure {msg : String} (h : failure? op s es = some msg)
    (hok : ∀ s e, P s e → ∃ r, op s e = .ok r) : ¬Throughout op P s es := by
  intro ht
  obtain ⟨t, he⟩ := ht.execAll_isOk hok
  rw [failure?, he] at h
  cases h

/-- Two requirements that agree wherever the bookkeeping `I` of the state and of what is still to come is
right are met by the same sequences, when an operation that meets one of them keeps `I` right. -/
theorem throughout_iff {I : σ → List ε → Prop} (hiff : ∀ s e es, I s (e :: es) → (P s e ↔ Q s e))
    (hstep : ∀ s e es t out, I s (e :: es) → Q s e → op s e = .ok (t, out) → I t es) (h₀ : I s es) :
    Throughout op P s es ↔ Throughout op Q s es := by
  induction es generalizing s with
  | nil => exact Iff.rfl
  | cons e es ih =>
    have hpq := hiff s e es h₀
    constructor
    · rintro ⟨hp, h⟩
      exact ⟨hpq.mp hp, fun t out ho => (ih (hstep s e es t out h₀ (hpq.mp hp) ho)).mp (h t out ho)⟩
    · rintro ⟨hq, h⟩
      exact ⟨hpq.mpr hq, fun t out ho => (ih (hstep s e es t out h₀ hq ho)).mpr (h t out ho)⟩

/-- What the operations keep right grants every one of them what is required. -/
theorem throughout_of {I : σ → List ε → Prop} (hP : ∀ s e es, I s (e :: es) → P s e)
    (hstep : ∀ s e es t out, I s (e :: es) → op s e = .ok (t, out) → I t es) (h₀ : I s es) :
    Throughout op P s es := by
  induction es generalizing s with
  | nil => trivial
  | cons e es ih => exact ⟨hP s e es h₀, fun t out ho => ih (hstep s e es t out h₀ ho)⟩

end Throughout

end FlexRic
