import FlexRic.Theorems.XApp.Requests

/-! # The subscriptions of an xApp

What a call makes of the subscriptions when it returns: that of a `report` is added, that of a `rmReport` is removed, and
until then they stay as they are. -/

namespace FlexRic.XApp
open Agent Ds E2ap Ep

variable {κ ρ : Type}

namespace Calls
variable {s t : Calls κ} {c : Call κ} {r : Request} {k : Nat} {v : ActProcEntry κ} {ps : List (Nat × ActProcEntry κ)}

/-- The subscriptions, when the call with the request has returned -/
def leftBy (s : Calls κ) (c : Call κ) (r : Request) : List (Nat × ActProcEntry κ) :=
  match c with
  | .report id rfId cb => s.subscriptions ++ [(r.id.ricReqId, ⟨.ricSubscriptionProcedureActive, ⟨r.id.ricReqId, 0, rfId⟩, cb, id⟩)]
  | .rmReport ricReqId => s.subscriptions.filter (·.1 ≠ ricReqId.toNat)
  | .control .. | .controlRaw .. => s.subscriptions

/-- The subscriptions, when there is no call -/
def afterCall (s : Calls κ) : List (Nat × ActProcEntry κ) :=
  match s.ui with
  | .idle => s.subscriptions
  | .waiting c r | .answered c r _ => s.leftBy c r

theorem afterCall_of_idle (h : s.ui = .idle) : s.afterCall = s.subscriptions := by rw [afterCall, h]

theorem subscriptions_of_enter (h : s.enter c = .next t) : t.subscriptions = s.subscriptions := by
  have generated : ∀ {type rf id cb x}, s.generateRicGenId type rf id cb = .next x → x.2.subscriptions = s.subscriptions := by
    intro type rf id cb x h
    obtain ⟨_, -, h⟩ := Outcome.bind_eq_next.mp h
    obtain ⟨⟨n, p⟩, -, h⟩ := Outcome.bind_eq_next.mp h
    obtain ⟨_, -, h⟩ := Outcome.bind_eq_next.mp h
    obtain rfl := Outcome.next.inj h
    rfl
  cases c with
  | report | control =>
    obtain ⟨x, hx, h⟩ := Outcome.bind_eq_next.mp h
    obtain rfl := Outcome.next.inj h
    exact generated hx
  | rmReport k =>
    obtain ⟨_, -, h⟩ := Outcome.bind_eq_next.mp h
    obtain ⟨⟨ans, p⟩, -, h⟩ := Outcome.bind_eq_next.mp h
    cases ans with
    | none => cases h
    | some v =>
      obtain rfl := Outcome.next.inj h
      rfl
  | controlRaw =>
    obtain ⟨_, -, h⟩ := Outcome.bind_eq_next.mp h
    obtain ⟨_, -, h⟩ := Outcome.bind_eq_next.mp h
    obtain ⟨_, -, h⟩ := Outcome.bind_eq_next.mp h
    obtain ⟨x, hx, h⟩ := Outcome.bind_eq_next.mp h
    obtain rfl := Outcome.next.inj h
    exact generated hx

theorem subscriptions_of_return (h : s.step .return_ = .next t) : t.subscriptions = s.afterCall := by
  rw [Calls.step] at h
  split at h
  · next c r ok hui =>
    rw [afterCall, hui]
    cases c with
    | report =>
      obtain rfl := Outcome.next.inj h
      rfl
    | rmReport | control | controlRaw =>
      obtain ⟨_, -, h⟩ := Outcome.bind_eq_next.mp h
      obtain rfl := Outcome.next.inj h
      rfl
  · cases h

/-- A list of procedures has one of each key. -/
theorem perm_filter_ne (hp : s.actProc.Procs ps) (hv : (k, v) ∈ ps) : ps.Perm ((k, v) :: ps.filter (·.1 ≠ k)) := by
  have hn : (ps.map Prod.fst).Nodup := hp.nodup_keys
  have hnodup : ps.Nodup := List.Nodup.of_map _ hn
  refine (List.perm_ext_iff_of_nodup hnodup (List.nodup_cons.mpr ⟨?_, hnodup.filter _⟩)).mpr fun e => ?_
  · intro hm
    simpa using (List.mem_filter.mp hm).2
  · rw [List.mem_cons, List.mem_filter]
    constructor
    · intro he
      by_cases hek : e.1 = k
      · exact .inl (List.inj_on_of_nodup_map hn he hv hek)
      · exact .inr ⟨he, decide_eq_true hek⟩
    · rintro (rfl | ⟨he, -⟩)
      · exact hv
      · exact he

/-- The procedure of a call, and what the call makes of it -/
theorem Inv.procedure (hi : s.Inv) (hr : s.ui.request? = some r) : ∃ v, v.id = r.id ∧
    (r.id.ricReqId, v) ∈ s.actProc.active ∧ r.kind.change.Makes (r.id.ricReqId, v) s.subscriptions s.afterCall := by
  obtain ⟨⟨ps, hp, hpos⟩, -, -⟩ := hi
  have main : ∀ c, s.Serves c r ps → s.afterCall = s.leftBy c r → ∃ v, v.id = r.id ∧
      (r.id.ricReqId, v) ∈ s.actProc.active ∧ r.kind.change.Makes (r.id.ricReqId, v) s.subscriptions s.afterCall := by
    rintro c ⟨hkind, v, hv, hid, hcase⟩ hleft
    refine ⟨v, hid, hp.active.symm ▸ hv, ?_⟩
    rw [hleft, hkind]
    cases c with
    | report id rfId cb =>
      obtain ⟨hentry, -⟩ := hcase
      obtain rfl := Option.some.inj hentry
      exact List.perm_append_singleton ..
    | rmReport k =>
      obtain ⟨hk, rfl⟩ := hcase
      rw [leftBy, ← hk]
      exact perm_filter_ne hp hv
    | control | controlRaw => exact .refl _
  cases hui : s.ui with
  | idle =>
    rw [hui] at hr
    cases hr
  | waiting c r' | answered c r' ok =>
    rw [hui] at hr
    obtain rfl := Option.some.inj hr
    rw [Position, hui] at hpos
    exact main c hpos (by rw [afterCall, hui])

end Calls

/-- The queues leave the subscriptions to the calls. -/
theorem Delivery.subscriptions_of_step {s d : Delivery κ ρ} {sm : SmAgIfRd ρ} {enable : Bool} {b : DeliveryAct κ ρ}
    (hb : ∀ c, b ≠ .calls c) (h : s.step sm enable b = .next d) :
    d.calls.subscriptions = s.calls.subscriptions ∧ d.calls.afterCall = s.calls.afterCall := by
  rcases calls_of_step hb h with hcalls | ⟨_, _, p, -, hcalls⟩
  · rw [hcalls]
    exact ⟨rfl, rfl⟩
  · rw [hcalls]
    exact ⟨rfl, rfl⟩

namespace Process
variable {s t : Process κ ρ} {ap : ActProc} {sm : Plugins ρ} {enable : Bool}

/-- The subscriptions, when there is no call -/
def afterCall (s : Process κ ρ) : List (Nat × ActProcEntry κ) := s.delivery.calls.afterCall

def subscriptions (s : Process κ ρ) : List (Nat × ActProcEntry κ) := s.delivery.calls.subscriptions

/-- What the call of the API has asked for is at the node that the procedure names. -/
theorem Orderly.procedure (h : s.Orderly sm) {r : Request} (hr : s.ui.request? = some r) : ∃ v c, v.id = r.id ∧
    (r.id, c) ∈ s.made ∧ (∃ kind, c.asks = some (kind, v.e2Node)) ∧
      r.kind.change.Makes (r.id.ricReqId, v) s.subscriptions s.afterCall := by
  obtain ⟨ap, hk⟩ := h.kept
  obtain ⟨v, hid, hv, hcase⟩ := hk.calls.procedure (hk.call.trans hr)
  obtain ⟨c, hm, hentry⟩ := h.registers.active _ _ hv
  refine ⟨v, c, hid, hid ▸ hm, ?_, hcase⟩
  cases c with
  | report | control | controlRaw =>
    obtain rfl := Option.some.inj hentry
    exact ⟨_, rfl⟩
  | rmReport => cases hentry

/-- A step changes the subscriptions when a call returns, as the call says. -/
theorem subscriptions_of_step (hk : s.Kept ap) {a : ProcessAct κ} (hs : s.step sm.agIf enable a = .next t) :
    (s.ui = .idle ∧ t.subscriptions = s.subscriptions ∧ t.ui.unsent?.isSome) ∨
      (t.ui.unsent? = s.ui.unsent? ∧
        ((t.subscriptions = s.subscriptions ∧ t.afterCall = s.afterCall) ∨
          ∃ r, s.ui = .woken r ∧ t.subscriptions = s.afterCall ∧ t.afterCall = s.afterCall)) := by
  obtain ⟨-, -, -, ⟨c, body, rfl⟩ | ⟨-, -, hui, hd | ⟨b, hb, -, hb', -⟩ | ⟨calls, r, hw, hret, hd⟩⟩⟩ := step_cases hs
  · obtain ⟨calls, r, hui, -, hc, -, rfl⟩ := call_inv hs
    rw [Calls.step, hk.idle hui] at hc
    exact .inl ⟨hui, Calls.subscriptions_of_enter hc, rfl⟩
  · refine .inr ⟨hui, .inl ⟨?_, ?_⟩⟩
    · rw [subscriptions, subscriptions, hd]
    · rw [afterCall, afterCall, hd]
  · exact .inr ⟨hui, .inl (Delivery.subscriptions_of_step hb hb')⟩
  · refine .inr ⟨hui, .inr ⟨r, hw, ?_, ?_⟩⟩
    · rw [subscriptions, hd]
      exact Calls.subscriptions_of_return hret
    · rw [afterCall, hd]
      exact (Calls.afterCall_of_idle (Calls.idle_of_return hret)).trans (Calls.subscriptions_of_return hret)

/-- The handlers of the event loop leave the subscriptions to the calls. -/
theorem subscriptions_of_handle {m : XappMsg} (hs : s.handle sm enable m = .next t) :
    t.ui = s.ui ∧ t.subscriptions = s.subscriptions ∧ t.afterCall = s.afterCall := by
  refine ⟨(handle_frame hs).2.1, ?_⟩
  have answered : ∀ (calls : Calls κ) ok, (answered calls ok).subscriptions = calls.subscriptions ∧
      (answered calls ok).afterCall = calls.afterCall := by
    intro calls ok
    unfold Process.answered Calls.afterCall
    split
    · next hui => rw [hui]; exact ⟨rfl, rfl⟩
    · exact ⟨rfl, rfl⟩
  obtain ⟨-, -, ⟨m', a, u, -, -, hu, rfl⟩ | ⟨m', data, rd, d, -, -, -, hd, rfl⟩ | ⟨xappId, -, -, rfl⟩⟩ := handle_inv hs
  · obtain ⟨_, p, -, hdel, -⟩ := handleAnswer_inv hu
    show u.subscriptions = s.subscriptions ∧ u.afterCall = s.afterCall
    rw [subscriptions, afterCall, hdel]
    exact answered { s.delivery.calls with actProc := p } a.success
  · exact Delivery.subscriptions_of_step (b := .receive _) (fun _ => nofun) hd
  · exact ⟨rfl, rfl⟩

end Process

end FlexRic.XApp
