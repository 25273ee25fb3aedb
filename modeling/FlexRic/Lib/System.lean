import Mathlib.Data.List.Induction
import Mathlib.Data.List.Perm.Basic
import Mathlib.Tactic.Common

/-! # Systems that take steps, and what their runs keep

A system has an initial state and a step function. A step is taken, or it cannot be taken now, or an
assertion fails in it and the process ends. A run is guarded by a condition on each of its steps: what the
environment promises, or what a result is about. -/

namespace FlexRic

universe u v

/-- What an attempt to take a step comes to. -/
inductive Outcome (σ : Type u)
  | blocked
  | abort (msg : String)
  | next (s : σ)
  deriving Repr, DecidableEq

namespace Outcome
variable {σ : Type u} {τ : Type u}

def bind : Outcome σ → (σ → Outcome τ) → Outcome τ
  | blocked, _ => blocked
  | abort msg, _ => abort msg
  | next s, f => f s

instance : Monad Outcome where
  pure := next
  bind := bind

/-- Wait for `c`. -/
def await (c : Prop) [Decidable c] : Outcome PUnit := if c then next ⟨⟩ else blocked

/-- `assert(c)` -/
def check (c : Prop) [Decidable c] (msg : String) : Outcome PUnit := if c then next ⟨⟩ else abort msg

/-- The result of an operation that asserts something and never waits. -/
def ofExcept : Except String σ → Outcome σ
  | .error msg => abort msg
  | .ok s => next s

/-- The value of a list at an index, when it is there. -/
def ofOption : Option σ → Outcome σ
  | none => blocked
  | some s => next s

/-- The step is taken, to a state that passes the test. -/
def passes (x : Outcome σ) (p : σ → Bool) : Bool :=
  match x with
  | next s => p s
  | _ => false

theorem passes_eq_true {x : Outcome σ} {p : σ → Bool} : x.passes p = true ↔ ∃ s, x = next s ∧ p s = true := by
  cases x <;> simp [passes]

/-- The assertion that fails. -/
def abort? : Outcome σ → Option String
  | abort msg => some msg
  | _ => none

theorem abort?_eq_some {x : Outcome σ} {msg : String} : x.abort? = some msg ↔ x = abort msg := by
  cases x <;> simp [abort?]

@[simp] theorem pure_eq (s : σ) : (pure s : Outcome σ) = next s := rfl
@[simp] theorem next_bind (s : σ) (f : σ → Outcome τ) : (next s >>= f) = f s := rfl
@[simp] theorem abort_bind (msg : String) (f : σ → Outcome τ) : ((abort msg : Outcome σ) >>= f) = abort msg := rfl
@[simp] theorem blocked_bind (f : σ → Outcome τ) : ((blocked : Outcome σ) >>= f) = blocked := rfl

theorem bind_eq_next {x : Outcome σ} {f : σ → Outcome τ} {t : τ} :
    (x >>= f) = next t ↔ ∃ s, x = next s ∧ f s = next t := by
  cases x <;> simp

theorem bind_eq_abort {x : Outcome σ} {f : σ → Outcome τ} {msg : String} :
    (x >>= f) = abort msg ↔ x = abort msg ∨ ∃ s, x = next s ∧ f s = abort msg := by
  cases x <;> simp

section Tests
variable {c : Prop} [Decidable c] {msg msg' : String} {u : PUnit}

@[simp] theorem await_eq_next : await c = next u ↔ c := by
  unfold await
  split <;> simp_all

@[simp] theorem await_ne_abort : ¬await c = abort msg := by
  unfold await
  split <;> simp

@[simp] theorem check_eq_next : check c msg = next u ↔ c := by
  unfold check
  split <;> simp_all

@[simp] theorem check_eq_abort : check c msg = abort msg' ↔ ¬c ∧ msg = msg' := by
  unfold check
  split <;> simp_all

theorem check_of (h : c) : check c msg = next ⟨⟩ := if_pos h

theorem await_of (h : c) : await c = next ⟨⟩ := if_pos h

end Tests

@[simp] theorem ofExcept_eq_next {x : Except String σ} {s : σ} : ofExcept x = next s ↔ x = .ok s := by
  cases x <;> simp [ofExcept]

@[simp] theorem ofExcept_eq_abort {x : Except String σ} {msg : String} :
    ofExcept x = abort msg ↔ x = .error msg := by
  cases x <;> simp [ofExcept]

@[simp] theorem ofOption_eq_next {x : Option σ} {s : σ} : ofOption x = next s ↔ x = some s := by
  cases x <;> simp [ofOption]

@[simp] theorem ofOption_ne_abort {x : Option σ} {msg : String} : ¬ofOption x = abort msg := by
  cases x <;> simp [ofOption]

/-! ### Assertions that do not fail -/

/-- None of the assertions fails. -/
def Avoids (texts : List String) (x : Outcome σ) : Prop := ∀ msg ∈ texts, x ≠ abort msg

section Avoids
variable {texts : List String} {x : Outcome σ} {f : σ → Outcome τ} {c : Prop} [Decidable c] {msg : String}

theorem Avoids.bind (hx : x.Avoids texts) (hf : ∀ s, x = next s → (f s).Avoids texts) : (x >>= f).Avoids texts := by
  intro msg hm h
  rcases bind_eq_abort.mp h with h | ⟨s, hs, h⟩
  · exact hx msg hm h
  · exact hf s hs msg hm h

theorem avoids_next {s : σ} : (next s).Avoids texts := fun _ _ => nofun

theorem avoids_blocked : (blocked : Outcome σ).Avoids texts := fun _ _ => nofun

theorem avoids_await : (await c).Avoids texts := fun _ _ => await_ne_abort

theorem avoids_check (h : c ∨ msg ∉ texts) : (check c msg).Avoids texts := by
  intro msg' hm he
  obtain ⟨hc, rfl⟩ := check_eq_abort.mp he
  exact h.elim hc fun hn => hn hm

theorem avoids_ofExcept {x : Except String σ} (h : ∀ msg, x = .error msg → msg ∉ texts) : (ofExcept x).Avoids texts :=
  fun msg hm he => h msg (ofExcept_eq_abort.mp he) hm

theorem avoids_ofOption {x : Option σ} : (ofOption x).Avoids texts := fun _ _ => ofOption_ne_abort

end Avoids

end Outcome

/-- A system: where it starts, and what a step does. -/
structure System (σ : Type u) (α : Type v) where
  init : σ
  step : σ → α → Outcome σ

namespace System
variable {σ : Type u} {α : Type v} (M : System σ α)

/-- The runs of the system all of whose steps fit the guard, with the actions taken. -/
inductive Run (G : σ → α → Prop) : List α → σ → Prop
  | nil : Run G [] M.init
  | snoc {as : List α} {s t : σ} {a : α} : Run G as s → G s a → M.step s a = .next t → Run G (as ++ [a]) t

/-- A state that some guarded run ends in. -/
def Reachable (G : σ → α → Prop) (s : σ) : Prop := ∃ as, M.Run G as s

/-- No condition on the steps. -/
def Any : σ → α → Prop := fun _ _ => True

instance (s : σ) (a : α) : Decidable (Any s a) := .isTrue trivial

variable {M} {G H : σ → α → Prop} {as bs : List α} {s t : σ} {a : α}

theorem Run.mono (h : M.Run G as s) (hGH : ∀ s a, G s a → H s a) : M.Run H as s := by
  induction h with
  | nil => exact .nil
  | snoc _ hg hs ih => exact .snoc ih (hGH _ _ hg) hs

/-- What holds at the start and what guarded steps preserve holds wherever a run ends. -/
theorem Run.invariant {I : σ → Prop} (h : M.Run G as s) (h₀ : I M.init)
    (hstep : ∀ s a t, I s → G s a → M.step s a = .next t → I t) : I s := by
  induction h with
  | nil => exact h₀
  | snoc _ hg hs ih => exact hstep _ _ _ ih hg hs

/-- The same with the actions taken in view. -/
theorem Run.invariant_trace {I : List α → σ → Prop} (h : M.Run G as s) (h₀ : I [] M.init)
    (hstep : ∀ as s a t, M.Run G as s → I as s → G s a → M.step s a = .next t → I (as ++ [a]) t) : I as s := by
  induction h with
  | nil => exact h₀
  | snoc hr hg hs ih => exact hstep _ _ _ _ hr ih hg hs

theorem Run.snoc_inv (h : M.Run G (as ++ [a]) t) : ∃ s, M.Run G as s ∧ G s a ∧ M.step s a = .next t := by
  generalize hb : as ++ [a] = bs at h
  cases h with
  | nil => simp at hb
  | snoc hr hg hs =>
    obtain ⟨rfl, rfl⟩ : as = _ ∧ a = _ := by simpa using hb
    exact ⟨_, hr, hg, hs⟩

/-- A run's actions lead to one state only. -/
theorem Run.unique (h : M.Run G as s) (h' : M.Run H as t) : s = t := by
  induction h generalizing t with
  | nil =>
    generalize hb : ([] : List α) = bs at h'
    cases h' with
    | nil => rfl
    | snoc => simp at hb
  | snoc _ _ hs ih =>
    obtain ⟨s', hr', -, hs'⟩ := h'.snoc_inv
    rw [ih hr', hs'] at hs
    exact (Outcome.next.inj hs).symm

theorem Run.initial (h : M.Run G (as ++ bs) t) : ∃ s, M.Run G as s := by
  induction bs using List.reverseRecOn generalizing t with
  | nil => exact ⟨t, by simpa using h⟩
  | append_singleton bs b ih =>
    rw [← List.append_assoc] at h
    obtain ⟨s, hr, -, -⟩ := h.snoc_inv
    exact ih hr

/-! ### Taking steps one after the other -/

/-- The state after the actions, when every one of them can be taken and fits the guard. -/
def exec (M : System σ α) (G : σ → α → Prop) [∀ s a, Decidable (G s a)] : σ → List α → Outcome σ
  | s, [] => .next s
  | s, a :: as => if G s a then M.step s a >>= fun t => exec M G t as else .blocked

theorem exec_cons [∀ s a, Decidable (G s a)] (hg : G s a) (hs : M.step s a = .next t) :
    M.exec G s (a :: as) = M.exec G t as := by
  rw [exec, if_pos hg, hs]
  rfl

theorem Run.of_exec [∀ s a, Decidable (G s a)] (hr : M.Run G as s) (h : M.exec G s bs = .next t) :
    M.Run G (as ++ bs) t := by
  induction bs generalizing as s with
  | nil =>
    obtain rfl : s = t := Outcome.next.inj h
    simpa using hr
  | cons b bs ih =>
    rw [exec] at h
    split at h
    · next hg =>
      obtain ⟨s', hs, h⟩ := Outcome.bind_eq_next.mp h
      simpa using ih (.snoc hr hg hs) h
    · cases h

/-- A concrete run, by evaluation. -/
theorem run_of_exec [∀ s a, Decidable (G s a)] (h : M.exec G M.init bs = .next t) : M.Run G bs t := by
  simpa using Run.of_exec (.nil : M.Run G [] M.init) h

/-- A concrete run to a state that passes a test, by evaluation. -/
theorem exists_run_of_exec [∀ s a, Decidable (G s a)] {p : σ → Bool} (h : (M.exec G M.init bs).passes p = true) :
    ∃ s, M.Run G bs s ∧ p s = true := by
  obtain ⟨s, hs, hp⟩ := Outcome.passes_eq_true.mp h
  exact ⟨s, run_of_exec hs, hp⟩

/-! ### Properties along a run -/

/-- The property holds in every state that the actions lead through, the first and the last included. -/
def Along (M : System σ α) (P : σ → Prop) (as : List α) : Prop := ∀ bs s, bs <+: as → M.Run Any bs s → P s

/-- Two properties that agree as long as the bookkeeping `K` is right hold along the same runs, when a step
from a state with one of them keeps `K` right. -/
theorem along_iff {P Q K : σ → Prop} (h₀ : K M.init) (hiff : ∀ s, M.Reachable Any s → K s → (P s ↔ Q s))
    (hstep : ∀ s a t, M.Reachable Any s → K s → Q s → M.step s a = .next t → K t) :
    M.Along P as ↔ M.Along Q as := by
  have key : ∀ bs s, M.Run Any bs s → bs <+: as → (M.Along P as ∨ M.Along Q as) → K s := by
    intro bs s hr
    induction hr with
    | nil => exact fun _ _ => h₀
    | @snoc bs s t a hr _ hs ih =>
      intro hb h
      have hb' : bs <+: as := (List.prefix_append bs [a]).trans hb
      have hk := ih hb' h
      have hq : Q s := h.elim (fun hp => (hiff s ⟨bs, hr⟩ hk).mp (hp bs s hb' hr)) fun hq => hq bs s hb' hr
      exact hstep s a t ⟨bs, hr⟩ hk hq hs
  constructor
  · exact fun h bs s hb hr => (hiff s ⟨bs, hr⟩ (key bs s hr hb (.inl h))).mp (h bs s hb hr)
  · exact fun h bs s hb hr => (hiff s ⟨bs, hr⟩ (key bs s hr hb (.inr h))).mpr (h bs s hb hr)

/-! ### Systems that follow another system -/

section Follows
universe w x
variable {τ : Type w} {β : Type x}

/-- A system follows a second one when each of its steps is a step of the second, or none at all. `M`, run under the
guard `G`, follows `N`, run under `H`: states correspond by `R`, and a step of `M` from a state that a run has come to is
matched by a step of `N`, or it keeps the correspondence. -/
structure Follows (M : System σ α) (G : σ → α → Prop) (N : System τ β) (H : τ → β → Prop) (R : σ → τ → Prop) : Prop where
  init : R M.init N.init
  step : ∀ as s a s' bs t, M.Run G as s → N.Run H bs t → R s t → G s a → M.step s a = .next s' →
    R s' t ∨ ∃ b t', H t b ∧ N.step t b = .next t' ∧ R s' t'

variable {M : System σ α} {G : σ → α → Prop} {N : System τ β} {H : τ → β → Prop} {R : σ → τ → Prop} {as : List α} {s : σ}

/-- A run of the one corresponds to a run of the other. -/
theorem Follows.run (h : Follows M G N H R) (hr : M.Run G as s) : ∃ bs t, N.Run H bs t ∧ R s t := by
  induction hr with
  | nil => exact ⟨[], N.init, .nil, h.init⟩
  | snoc hr hg hs ih =>
    obtain ⟨bs, t, hn, hrel⟩ := ih
    rcases h.step _ _ _ _ bs t hr hn hrel hg hs with hrel | ⟨b, t', hb, ht, hrel⟩
    · exact ⟨bs, t, hn, hrel⟩
    · exact ⟨bs ++ [b], t', hn.snoc hb ht, hrel⟩

/-- What every run of the followed system keeps, the corresponding states of the other have. -/
theorem Follows.keeps {I : τ → Prop} (h : Follows M G N H R) (hI : ∀ bs t, N.Run H bs t → I t) (hr : M.Run G as s) :
    ∃ t, R s t ∧ I t := by
  obtain ⟨bs, t, hn, hrel⟩ := h.run hr
  exact ⟨t, hrel, hI bs t hn⟩

/-- A part of the state follows a system of its own. -/
theorem follows_part (π : σ → τ) (h₀ : π M.init = N.init)
    (hstep : ∀ as s a s', M.Run G as s → N.Reachable H (π s) → G s a → M.step s a = .next s' →
      π s' = π s ∨ ∃ b, H (π s) b ∧ N.step (π s) b = .next (π s')) :
    Follows M G N H fun s t => t = π s where
  init := h₀.symm
  step as s a s' bs t hr hn ht hg hs := by
    subst ht
    rcases hstep as s a s' hr ⟨bs, hn⟩ hg hs with heq | ⟨b, hb, hb'⟩
    · exact .inl heq.symm
    · exact .inr ⟨b, _, hb, hb', rfl⟩

/-- The part of a state that a run has come to, is one that a run of the followed system comes to. -/
theorem reachable_part {π : σ → τ} (h : Follows M G N H fun s t => t = π s) (hr : M.Run G as s) :
    N.Reachable H (π s) := by
  obtain ⟨bs, t, hn, rfl⟩ := h.run hr
  exact ⟨bs, hn⟩

end Follows

end System

/-! ### The thread that takes a step, among the threads of a list -/

section Threads
variable {α : Type u} {β : Type v} {l : List α} {i : Nat} {x y : α} {f : α → Option β}

theorem perm_eraseIdx (h : l[i]? = some x) : l.Perm (x :: l.eraseIdx i) := by
  obtain ⟨hi, rfl⟩ := List.getElem?_eq_some_iff.mp h
  exact (List.getElem_cons_eraseIdx_perm hi).symm

theorem perm_set (h : l[i]? = some x) (y : α) : (l.set i y).Perm (y :: l.eraseIdx i) := by
  obtain ⟨hi, -⟩ := List.getElem?_eq_some_iff.mp h
  exact List.set_perm_cons_eraseIdx hi y

/-- What is read of the threads stays, when it does of the one that takes the step. -/
theorem filterMap_set (h : l[i]? = some x) (hf : f y = f x) : ((l.set i y).filterMap f).Perm (l.filterMap f) := by
  refine ((perm_set h y).filterMap f).trans (.trans ?_ ((perm_eraseIdx h).filterMap f).symm)
  rw [List.filterMap_cons, List.filterMap_cons, hf]

/-- What is read of the threads: of one of them, and of the others. -/
theorem filterMap_eraseIdx (h : l[i]? = some x) (f : α → Option β) :
    (l.filterMap f).Perm ((f x).toList ++ (l.eraseIdx i).filterMap f) := by
  refine ((perm_eraseIdx h).filterMap f).trans ?_
  rw [List.filterMap_cons]
  cases f x <;> exact .refl _

theorem filterMap_set_eraseIdx (h : l[i]? = some x) (y : α) (f : α → Option β) :
    ((l.set i y).filterMap f).Perm ((f y).toList ++ (l.eraseIdx i).filterMap f) := by
  refine ((perm_set h y).filterMap f).trans ?_
  rw [List.filterMap_cons]
  cases f y <;> exact .refl _

end Threads

end FlexRic
