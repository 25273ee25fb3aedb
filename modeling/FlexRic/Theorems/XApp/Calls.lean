import FlexRic.XApp.Calls

/-! # The registry along a run of calls

The keys of the registry are never given twice, and an identifier is a key: identifiers are distinct, and there are
65535 of them for the whole life of the xApp. -/

namespace FlexRic.XApp
open Ds E2ap

variable {κ : Type}

/-- The procedure that a call registers, under its request identifier. -/
def Call.entry : Call κ → Nat → Option (ActProcEntry κ)
  | .report id rfId cb, k => some ⟨.ricSubscriptionProcedureActive, ⟨k, 0, rfId⟩, cb, id⟩
  | .control id ranFuncId, k => some ⟨.ricControlProcedureActive, ⟨k, 0, ranFuncId⟩, none, id⟩
  | .controlRaw id ranFuncId _ _, k => some ⟨.ricControlProcedureActive, ⟨k, 0, ranFuncId⟩, none, id⟩
  | .rmReport _, _ => none

def Call.kind : Call κ → RequestKind
  | .report .. => .subscription
  | .rmReport _ => .subscriptionDelete
  | .control .. | .controlRaw .. => .control

/-- The call generates a request, and its arguments pass the assertions on them. -/
def Call.Generates : Call κ → Prop
  | .report _ rfId _ => validRanFuncId rfId = true
  | .rmReport _ => False
  | .control _ ranFuncId => validRanFuncId ranFuncId = true
  | .controlRaw _ ranFuncId hdr msg => validRanFuncId ranFuncId = true ∧ hdr.length > 0 ∧ msg.length > 0

namespace Calls
variable {s t : Calls κ} {c : Call κ} {r : Request} {ps : List (Nat × ActProcEntry κ)}

/-- The procedure is the one of the call's request: the one that the call has registered, or, when the call removes
a subscription, that subscription. -/
def IsProcedure (s : Calls κ) (c : Call κ) (r : Request) (v : ActProcEntry κ) : Prop :=
  v.id = r.id ∧
    match c with
    | .rmReport ricReqId => (ricReqId.toNat, v) ∈ s.subscriptions
    | c => c.entry r.id.ricReqId = some v

/-- What holds between any two steps of a run. -/
structure Law (s : Calls κ) : Prop where
  generates : ∀ c, c.Generates → s.ui = .idle →
    ((∃ t r, s.step (.call c) = .next t ∧ t.ui = .waiting c r ∧ r.id.ricReqId < 65536 ∧
      ∀ e ∈ s.actProc.active, e.1 ≠ r.id.ricReqId) ↔ s.generated < 65535)
  finds : ∀ c r, s.ui = .waiting c r →
    ∃ v p, s.actProc.findActProc r.id.ricReqId = .ok (some v, p) ∧ s.IsProcedure c r v
  removes : ∀ c r ok, s.ui = .answered c r ok → r.kind ≠ .subscription →
    ∃ v p, (r.id.ricReqId, v) ∈ s.actProc.active ∧ s.IsProcedure c r v ∧
      s.actProc.rmActProc r.id.ricReqId = .ok p ∧ p.active = s.actProc.active.filter (·.1 ≠ r.id.ricReqId)
  returned : s.ui = .idle → s.actProc.active = s.subscriptions

/-! ### The invariant -/

/-- The registry during a call: the subscriptions, and the procedure that the call has registered. -/
def Serves (s : Calls κ) (c : Call κ) (r : Request) (ps : List (Nat × ActProcEntry κ)) : Prop :=
  r.kind = c.kind ∧ ∃ v, (r.id.ricReqId, v) ∈ ps ∧ v.id = r.id ∧
    match c with
    | .rmReport ricReqId => r.id.ricReqId = ricReqId.toNat ∧ ps = s.subscriptions
    | c => c.entry r.id.ricReqId = some v ∧ ps = s.subscriptions ++ [(r.id.ricReqId, v)]

/-- The registry has these procedures between two steps. -/
def Position (s : Calls κ) (ps : List (Nat × ActProcEntry κ)) : Prop :=
  match s.ui with
  | .idle => ps = s.subscriptions
  | .waiting c r | .answered c r _ => s.Serves c r ps

structure Inv (s : Calls κ) : Prop where
  procs : ∃ ps, s.actProc.Procs ps ∧ s.Position ps
  keyId : s.actProc.keyId = s.generated + 1
  bound : s.generated ≤ 65535

theorem inv_init : (init : Calls κ).Inv := ⟨⟨[], ActProcReg.procs_init, rfl⟩, rfl, Nat.zero_le _⟩

theorem generateRicGenId_eq (hp : s.actProc.Procs ps) (hk : s.actProc.keyId = s.generated + 1)
    (hb : s.generated ≤ 65535) {rf : Nat} (hrf : validRanFuncId rf = true) (type : ActProcType) (id : GlobalE2NodeId)
    (cb : Option κ) :
    ∃ p, p.keyId = s.generated + 1 + 1 ∧
      p.Procs (ps ++ [(s.generated + 1, ⟨type, ⟨s.generated + 1, 0, rf⟩, cb, id⟩)]) ∧
      s.generateRicGenId type rf id cb =
        if s.generated < 65535 then .next (⟨s.generated + 1, 0, rf⟩, { s with actProc := p, generated := s.generated + 1 })
        else .abort "Overflow detected" := by
  obtain ⟨p, hadd, hk', hp'⟩ := hp.addActProc (by omega) type ⟨0, 0, rf⟩ id cb
  rw [hk] at hadd hk' hp'
  refine ⟨p, hk', hp', ?_⟩
  rw [generateRicGenId, Outcome.check_of hrf, Outcome.next_bind, hadd]
  by_cases hlt : s.generated < 65535
  · rw [if_pos hlt]
    show (Outcome.check (s.generated + 1 < 65536) _ >>= _) = _
    rw [Outcome.check_of (by omega)]
    rfl
  · rw [if_neg hlt]
    show (Outcome.check (s.generated + 1 < 65536) _ >>= _) = _
    rw [Outcome.check, if_neg (by omega)]
    rfl

/-- What a call that generates a request does up to its wait. -/
theorem enter_eq (hp : s.actProc.Procs ps) (hk : s.actProc.keyId = s.generated + 1) (hb : s.generated ≤ 65535)
    (hc : c.Generates) :
    ∃ p v, p.keyId = s.generated + 1 + 1 ∧ p.Procs (ps ++ [(s.generated + 1, v)]) ∧
      c.entry (s.generated + 1) = some v ∧ v.id.ricReqId = s.generated + 1 ∧
      s.enter c =
        if s.generated < 65535 then
          .next { s with ui := .waiting c ⟨c.kind, v.id⟩, actProc := p, generated := s.generated + 1 }
        else .abort "Overflow detected" := by
  cases c with
  | report id rf cb =>
    obtain ⟨p, hk', hp', he⟩ := generateRicGenId_eq hp hk hb hc .ricSubscriptionProcedureActive id cb
    refine ⟨p, _, hk', hp', rfl, rfl, ?_⟩
    rw [enter, he]
    split <;> rfl
  | rmReport k => cases hc
  | control id rf =>
    obtain ⟨p, hk', hp', he⟩ := generateRicGenId_eq hp hk hb hc .ricControlProcedureActive id none
    refine ⟨p, _, hk', hp', rfl, rfl, ?_⟩
    rw [enter, he]
    split <;> rfl
  | controlRaw id rf hdr msg =>
    obtain ⟨hrf, hhdr, hmsg⟩ := hc
    obtain ⟨p, hk', hp', he⟩ := generateRicGenId_eq hp hk hb hrf .ricControlProcedureActive id none
    refine ⟨p, _, hk', hp', rfl, rfl, ?_⟩
    rw [enter, Outcome.check_of hrf, Outcome.next_bind, Outcome.check_of hhdr, Outcome.next_bind,
      Outcome.check_of hmsg, Outcome.next_bind, he]
    split <;> rfl

theorem generates_of_generateRicGenId {type : ActProcType} {rf : Nat} {id : GlobalE2NodeId} {cb : Option κ}
    {x : RicGenId × Calls κ} (h : s.generateRicGenId type rf id cb = .next x) : validRanFuncId rf = true := by
  obtain ⟨_, hrf, -⟩ := Outcome.bind_eq_next.mp h
  exact Outcome.check_eq_next.mp hrf

theorem generates_of_enter (h : s.enter c = .next t) : c.Generates ∨ ∃ k, c = .rmReport k := by
  cases c with
  | report id rf cb =>
    obtain ⟨_, hg, -⟩ := Outcome.bind_eq_next.mp h
    exact .inl (generates_of_generateRicGenId hg)
  | rmReport k => exact .inr ⟨k, rfl⟩
  | control id rf =>
    obtain ⟨_, hg, -⟩ := Outcome.bind_eq_next.mp h
    exact .inl (generates_of_generateRicGenId hg)
  | controlRaw id rf hdr msg =>
    obtain ⟨_, hrf, h⟩ := Outcome.bind_eq_next.mp h
    obtain ⟨_, hhdr, h⟩ := Outcome.bind_eq_next.mp h
    obtain ⟨_, hmsg, -⟩ := Outcome.bind_eq_next.mp h
    exact .inl ⟨Outcome.check_eq_next.mp hrf, Outcome.check_eq_next.mp hhdr, Outcome.check_eq_next.mp hmsg⟩

/-- What the handler of an answer does. -/
theorem handleAnswer_inv {failure : Bool} (h : s.handleAnswer c r failure = .next t) :
    ∃ ans p ok, s.actProc.findActProc r.id.ricReqId = .ok (ans, p) ∧
      t = { s with actProc := p, ui := .answered c r ok } := by
  obtain ⟨kind, id⟩ := r
  cases kind <;> cases failure
  all_goals
    first
    | cases h
    | obtain ⟨⟨ans, p⟩, hf, h⟩ := Outcome.bind_eq_next.mp h
      have hf := Outcome.ofExcept_eq_next.mp hf
  case control.true => exact ⟨ans, p, false, hf, (Outcome.next.inj h).symm⟩
  all_goals
    obtain ⟨_, -, h⟩ := Outcome.bind_eq_next.mp h
    exact ⟨ans, p, true, hf, (Outcome.next.inj h).symm⟩

/-- The subscriptions that a call does not remove. -/
def kept (s : Calls κ) : Call κ → List (Nat × ActProcEntry κ)
  | .rmReport ricReqId => s.subscriptions.filter (·.1 ≠ ricReqId.toNat)
  | _ => s.subscriptions

theorem Serves.filter (hp : s.actProc.Procs ps) (h : s.Serves c r ps) : ps.filter (·.1 ≠ r.id.ricReqId) = s.kept c := by
  obtain ⟨-, v, -, -, h⟩ := h
  cases c with
  | rmReport k =>
    obtain ⟨hk, rfl⟩ := h
    rw [hk, kept]
  | report | control | controlRaw =>
    obtain ⟨-, rfl⟩ := h
    exact hp.filter_last

theorem Serves.keeps (h : s.Serves c r ps) (hs : t.subscriptions = s.subscriptions) : t.Serves c r ps := by
  obtain ⟨hkind, v, hv, hid, h⟩ := h
  refine ⟨hkind, v, hv, hid, ?_⟩
  cases c <;> simpa only [hs] using h

theorem Inv.enter (hi : s.Inv) (hui : s.ui = .idle) (h : s.enter c = .next t) : t.Inv := by
  obtain ⟨⟨ps, hp, hpos⟩, hk, hb⟩ := hi
  rw [Position, hui] at hpos
  subst hpos
  rcases generates_of_enter h with hc | ⟨k, rfl⟩
  · obtain ⟨p, v, hk', hp', hentry, hid, he⟩ := enter_eq hp hk hb hc
    rw [h] at he
    split at he
    · next hlt =>
      obtain rfl := Outcome.next.inj he
      refine ⟨⟨_, hp', rfl, v, ?_, rfl, ?_⟩, hk', hlt⟩
      · rw [hid]
        exact List.mem_append_right _ List.mem_cons_self
      · cases c with
        | rmReport => cases hc
        | report | control | controlRaw =>
          show Call.entry _ v.id.ricReqId = some v ∧ _ = s.subscriptions ++ [(v.id.ricReqId, v)]
          rw [hid]
          exact ⟨hentry, rfl⟩
    · cases he
  · obtain ⟨_, -, h⟩ := Outcome.bind_eq_next.mp h
    obtain ⟨⟨ans, p⟩, hf, h⟩ := Outcome.bind_eq_next.mp h
    obtain ⟨hp', hk', hans⟩ := hp.findActProc_inv (Outcome.ofExcept_eq_next.mp hf)
    cases ans with
    | none => cases h
    | some v =>
      obtain rfl := Outcome.next.inj h
      have hv := (hans v).mp rfl
      have hid := hp.ricReqId_eq hv
      refine ⟨⟨_, hp', rfl, v, ?_, rfl, hid, rfl⟩, hk'.trans hk, hb⟩
      show (v.id.ricReqId, v) ∈ _
      rw [hid]
      exact hv

theorem Inv.leave {ok : Bool} (hi : s.Inv) (hui : s.ui = .answered c r ok) (h : s.leave c r = .next t) : t.Inv := by
  obtain ⟨⟨ps, hp, hpos⟩, hk, hb⟩ := hi
  rw [Position, hui] at hpos
  have hfilter := Serves.filter hp hpos
  obtain ⟨-, v, hv, -, hcase⟩ := hpos
  obtain ⟨p, hrm, hk', hp'⟩ := hp.rmActProc hv
  rw [hfilter] at hp'
  cases c with
  | report id rf cb =>
    obtain rfl := Outcome.next.inj h
    obtain ⟨hentry, rfl⟩ := hcase
    refine ⟨⟨_, hp, ?_⟩, hk, hb⟩
    rw [Position, ← Option.some.inj hentry]
  | rmReport k =>
    obtain ⟨hid, -⟩ := hcase
    rw [hid] at hrm
    obtain ⟨_, hr, h⟩ := Outcome.bind_eq_next.mp h
    obtain rfl := Except.ok.inj (hrm.symm.trans (Outcome.ofExcept_eq_next.mp hr))
    obtain rfl := Outcome.next.inj h
    exact ⟨⟨_, hp', rfl⟩, hk'.trans hk, hb⟩
  | control | controlRaw =>
    obtain ⟨_, hr, h⟩ := Outcome.bind_eq_next.mp h
    obtain rfl := Except.ok.inj (hrm.symm.trans (Outcome.ofExcept_eq_next.mp hr))
    obtain rfl := Outcome.next.inj h
    exact ⟨⟨_, hp', rfl⟩, hk'.trans hk, hb⟩

theorem Inv.step {act : CallAct κ} (hi : s.Inv) (h : s.step act = .next t) : t.Inv := by
  cases act with
  | call c =>
    rw [Calls.step] at h
    split at h
    · next hui => exact hi.enter hui h
    · cases h
  | answer failure =>
    rw [Calls.step] at h
    split at h
    · next c r hui =>
      obtain ⟨⟨ps, hp, hpos⟩, hk, hb⟩ := hi
      obtain ⟨ans, p, ok, hf, rfl⟩ := handleAnswer_inv h
      obtain ⟨hp', hk', -⟩ := hp.findActProc_inv hf
      rw [Position, hui] at hpos
      exact ⟨⟨ps, hp', hpos.keeps rfl⟩, hk'.trans hk, hb⟩
    · cases h
  | return_ =>
    rw [Calls.step] at h
    split at h
    · next hui => exact hi.leave hui h
    · cases h
  | indication k =>
    obtain ⟨⟨ps, hp, hpos⟩, hk, hb⟩ := hi
    obtain ⟨⟨ans, p⟩, hf, h⟩ := Outcome.bind_eq_next.mp h
    obtain ⟨hp', hk', -⟩ := hp.findActProc_inv (Outcome.ofExcept_eq_next.mp hf)
    obtain rfl := Outcome.next.inj h
    refine ⟨⟨ps, hp', ?_⟩, hk'.trans hk, hb⟩
    unfold Position at hpos ⊢
    show (match s.ui with
      | .idle => _
      | .waiting c r | .answered c r _ => _)
    cases hui : s.ui with
    | idle => simpa only [hui] using hpos
    | waiting c r | answered c r ok =>
      simp only [hui] at hpos
      exact Serves.keeps hpos rfl

theorem inv_of_run {as : List (CallAct κ)} (h : (calls κ).Run System.Any as s) : s.Inv :=
  h.invariant inv_init fun _ _ _ hi _ hs => hi.step hs

/-! ### The law -/

theorem Serves.isProcedure (h : s.Serves c r ps) :
    ∃ v, (r.id.ricReqId, v) ∈ ps ∧ s.IsProcedure c r v := by
  obtain ⟨-, v, hv, hid, hcase⟩ := h
  refine ⟨v, hv, hid, ?_⟩
  cases c with
  | rmReport k =>
    obtain ⟨hk, rfl⟩ := hcase
    exact hk ▸ hv
  | report | control | controlRaw => exact hcase.1

theorem Inv.law (hi : s.Inv) : s.Law := by
  obtain ⟨⟨ps, hp, hpos⟩, hk, hb⟩ := hi
  refine ⟨fun c hc hui => ?_, fun c r hui => ?_, fun c r ok hui _ => ?_, fun hui => ?_⟩
  · obtain ⟨p, v, -, -, -, hid, he⟩ := enter_eq hp hk hb hc
    have hstep : s.step (.call c) = s.enter c := by
      rw [Calls.step, hui]
    rw [hstep, he]
    constructor
    · rintro ⟨t, r, ht, -⟩
      by_contra hlt
      rw [if_neg hlt] at ht
      cases ht
    · intro hlt
      refine ⟨_, _, if_pos hlt, rfl, ?_, ?_⟩
      · rw [hid]
        omega
      · intro e hmem
        rw [hp.active] at hmem
        have hlt := (hp.key_lt hmem).2
        rw [hk] at hlt
        rw [hid]
        exact hlt.ne
  · rw [Position, hui] at hpos
    obtain ⟨v, hv, hproc⟩ := Serves.isProcedure hpos
    obtain ⟨p, hf, -, -⟩ := hp.findActProc hv
    exact ⟨v, p, hf, hproc⟩
  · rw [Position, hui] at hpos
    obtain ⟨v, hv, hproc⟩ := Serves.isProcedure hpos
    obtain ⟨p, hrm, -, hp'⟩ := hp.rmActProc hv
    refine ⟨v, p, hp.active.symm ▸ hv, hproc, hrm, ?_⟩
    rw [hp'.active, hp.active]
  · rw [Position, hui] at hpos
    rw [hp.active, hpos]

/-- In every run of calls, and between any two of its steps: a request is generated, with an identifier of 16 bits
that no active procedure has, exactly when fewer than 65535 requests were generated before it; the answer of a
request finds its procedure, and what is removed is that procedure; and between calls the registry has the
subscriptions that were made and not removed. -/
theorem registryOfCalls_of_run (as : List (CallAct κ)) (s : Calls κ) (h : (calls κ).Run System.Any as s) : s.Law :=
  (inv_of_run h).law

/-- A subscription, its response, and its return. -/
theorem registryOfCalls_of_run_report : ∃ s : Calls Unit, s.ui = .idle ∧ s.generated = 1 ∧ s.Law := by
  have h : (calls Unit).Run System.Any [.call (.report gnb 142 (some ())), .answer false, .return_] _ :=
    System.run_of_exec rfl
  exact ⟨_, rfl, rfl, registryOfCalls_of_run _ _ h⟩

/-! ### The last identifier -/

/-- At most one procedure is active. -/
def OneActive (s : Calls κ) (_ : CallAct κ) : Prop := s.actProc.active.length ≤ 1

/-- A control request with its acknowledge, in an xApp without subscriptions. -/
theorem control_returns {as : List (CallAct κ)} (hr : (calls κ).Run OneActive as s) (hui : s.ui = .idle)
    (hsub : s.subscriptions = []) (hlt : s.generated < 65535) :
    ∃ t, (calls κ).Run OneActive (as ++ [.call (.control gnb 142)] ++ [.answer false] ++ [.return_]) t ∧
      t.ui = .idle ∧ t.subscriptions = [] ∧ t.generated = s.generated + 1 := by
  have hi := inv_of_run (hr.mono fun _ _ _ => trivial)
  obtain ⟨⟨ps, hp, hpos⟩, hk, hb⟩ := hi
  rw [Position, hui, hsub] at hpos
  subst hpos
  obtain ⟨p, v, -, hp', hentry, hid, he⟩ := enter_eq (c := .control gnb 142) hp hk hb rfl
  rw [if_pos hlt] at he
  have hcall : (calls κ).step s (.call (.control gnb 142)) = s.enter (.control gnb 142) := by
    show s.step (.call (.control gnb 142)) = _
    rw [Calls.step, hui]
  rw [he] at hcall
  have hr₁ := hr.snoc (show s.actProc.active.length ≤ 1 by rw [hp.active]; exact Nat.zero_le _) hcall
  rw [List.nil_append] at hp'
  have hmem : (v.id.ricReqId, v) ∈ [(s.generated + 1, v)] := by
    rw [hid]
    exact List.mem_cons_self
  obtain ⟨p₂, hf, -, hp₂⟩ := hp'.findActProc hmem
  have hr₂ := hr₁.snoc (a := .answer false) (show p.active.length ≤ 1 by rw [hp'.active]; exact Nat.le_refl _) (by
    show (Outcome.ofExcept _ >>= _) = _
    rw [hf]
    rfl)
  obtain ⟨p₃, hrm, -, -⟩ := hp₂.rmActProc hmem
  have hr₃ := hr₂.snoc (a := .return_) (show p₂.active.length ≤ 1 by rw [hp₂.active]; exact Nat.le_refl _) (by
    show (Outcome.ofExcept _ >>= _) = _
    rw [hrm]
    rfl)
  exact ⟨_, hr₃, rfl, hsub, rfl⟩

theorem controls_return {n : Nat} (hn : n ≤ 65535) :
    ∃ as s, (calls κ).Run OneActive as s ∧ s.ui = .idle ∧ s.subscriptions = [] ∧ s.generated = n := by
  induction n with
  | zero => exact ⟨[], _, .nil, rfl, rfl, rfl⟩
  | succ n ih =>
    obtain ⟨as, s, hr, hui, hsub, hgen⟩ := ih (Nat.le_of_succ_le hn)
    obtain ⟨t, hr', hui', hsub', hgen'⟩ := control_returns hr hui hsub (hgen ▸ hn)
    exact ⟨_, t, hr', hui', hsub', by rw [hgen', hgen]⟩

/-- After 65535 acknowledged control requests no procedure is active, and the next one aborts the xApp. -/
theorem identifiers_run_out : ∃ as s, (calls Unit).Run OneActive as s ∧ s.ui = .idle ∧ s.actProc.active = [] ∧
    s.step (.call (.control gnb 142)) = .abort "Overflow detected" := by
  obtain ⟨as, s, hr, hui, hsub, hgen⟩ := @controls_return Unit 65535 (Nat.le_refl _)
  obtain ⟨⟨ps, hp, hpos⟩, hk, hb⟩ := inv_of_run (hr.mono fun _ _ _ => trivial)
  rw [Position, hui, hsub] at hpos
  subst hpos
  obtain ⟨p, v, -, -, -, -, he⟩ := enter_eq (c := .control gnb 142) hp hk hb rfl
  refine ⟨as, s, hr, hui, hp.active, ?_⟩
  rw [Calls.step, hui]
  exact he.trans (if_neg (by omega))

end Calls

end FlexRic.XApp
