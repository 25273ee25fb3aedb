import FlexRic.Theorems.XApp.Process

/-! # What an xApp has asked for, and what it was told

The requests that were sent are those that the calls have made, but for the one that waits to be sent. Every
indication that has arrived is one that was received, and its procedure is that of a call. -/

namespace FlexRic.XApp
open Agent Ds E2ap

variable {κ ρ : Type}

/-- What a call asks a node for. One that removes a subscription refers to the call that has made it. -/
def Call.asks : Call κ → Option (RequestKind × GlobalE2NodeId)
  | .report node _ _ => some (.subscription, node)
  | .control node _ | .controlRaw node _ _ _ => some (.control, node)
  | .rmReport _ => none

/-- What is asked for under an identifier. -/
abbrev Ask := RicGenId × Option (RequestKind × GlobalE2NodeId)

/-- What a message to the iApp asks for. -/
def askOf (req : E42Request) : Ask := (req.ricId, some (req.kind, req.e2NodeId))

/-- The message of a node; a setup response is none. -/
def XappMsg.node? : XappMsg → Option NodeMsg
  | .setupResponse _ => none
  | .node m => some m

def E42Msg.e42Request? : E42Msg → Option E42Request
  | .request req => some req
  | _ => none

/-- The message as the request of a call; the setup request is none. -/
def E42Msg.request? : E42Msg → Option Request
  | .setupRequest _ => none
  | .request req => some ⟨req.kind, req.ricId⟩
  | .deleteRequest req => some ⟨.subscriptionDelete, req.ricId⟩

/-- The steps of the queues, but for the one that receives an indication, let the arrivals be. -/
theorem Delivery.arrived_of_step {s d : Delivery κ ρ} {sm : SmAgIfRd ρ} {enable : Bool} {b : DeliveryAct κ ρ}
    (hb : ∀ c, b ≠ .calls c) (hb' : ∀ ind, b ≠ .receive ind) (h : s.step sm enable b = .next d) :
    d.arrived = s.arrived := by
  cases b with
  | calls c => exact absurd rfl (hb c)
  | receive ind => exact absurd rfl (hb' ind)
  | loop =>
    rw [Delivery.step, Delivery.goOn] at h
    split at h
    · cases h
    · split at h
      · obtain ⟨_, -, h⟩ := Outcome.bind_eq_next.mp h
        exact Outcome.next.inj h ▸ rfl
      · exact Outcome.next.inj h ▸ rfl
    · exact Outcome.next.inj h ▸ rfl
  | dispatcher =>
    obtain ⟨_, -, h⟩ := Outcome.bind_eq_next.mp h
    exact Outcome.next.inj h ▸ rfl
  | database =>
    rw [Delivery.step] at h
    split at h
    · obtain ⟨_, -, h⟩ := Outcome.bind_eq_next.mp h
      exact Outcome.next.inj h ▸ rfl
    · cases h
  | wakeDispatcher | wakeDatabase => exact Outcome.next.inj h ▸ rfl

/-- What has arrived, after the look-up of an indication. -/
theorem Delivery.receive_inv {s d : Delivery κ ρ} {sm : SmAgIfRd ρ} {enable : Bool} {ind : Indication ρ}
    (h : s.step sm enable (.receive ind) = .next d) :
    d.arrived = s.arrived ++ [(ind, s.calls.actProc.procedure ind.ricReqId)] := by
  rw [Delivery.step] at h
  split at h
  · obtain ⟨_, -, h⟩ := Outcome.bind_eq_next.mp h
    obtain ⟨_, -, h⟩ := Outcome.bind_eq_next.mp h
    exact Outcome.next.inj h ▸ rfl
  · cases h

namespace Process
variable {s t : Process κ ρ} {ap : ActProc} {sm : Plugins ρ} {enable : Bool}

/-! ### The requests that were sent -/

/-- The call has made a request that is not sent yet. -/
def unsent (s : Process κ ρ) : Bool := s.ui.unsent?.any fun r => r.kind ≠ .subscriptionDelete

/-- What the process has asked for, the newest first. -/
def asked (s : Process κ ρ) : List Ask :=
  (if s.unsent then s.made.tail else s.made).map fun e => (e.1, e.2.asks)

theorem asked_eq (hm : t.made = s.made) (hu : t.ui.unsent? = s.ui.unsent?) : t.asked = s.asked := by
  rw [asked, asked, unsent, unsent, hm, hu]

/-- The request of the call that waits is of the kind of the call. -/
theorem Kept.kind (hk : s.Kept ap) {c : Call κ} {r : Request} (hc : s.delivery.calls.ui = .waiting c r) :
    r.kind = c.kind := by
  obtain ⟨⟨ps, -, hpos⟩, -, -⟩ := hk.calls
  rw [Calls.Position, hc] at hpos
  exact hpos.1

/-- Its identifiers are those of a request that was made, and fit into 16 bits. -/
theorem Registers.wire (h : s.Registers) (hk : s.Kept ap) {c : Call κ} {r : Request}
    (hc : s.delivery.calls.ui = .waiting c r) : XApp.wire r.id = r.id := by
  obtain ⟨⟨ps, hp, hpos⟩, hkey, hb⟩ := hk.calls
  rw [Calls.Position, hc] at hpos
  obtain ⟨-, v, hv, hid, hshape⟩ := hpos
  have hmade : ∃ c', (r.id, c') ∈ s.made := by
    by_cases hkind : c.kind = .subscriptionDelete
    · obtain ⟨c', hm, -⟩ := h.active _ v (hp.active.symm ▸ hv)
      exact ⟨c', hid ▸ hm⟩
    · exact ⟨c, List.mem_of_mem_head? (h.call c r hc hkind)⟩
  obtain ⟨c', hm⟩ := hmade
  have := h.bound _ hm
  refine wire_eq ?_
  dsimp only at this
  omega

theorem asked_of_step (hk : s.Kept ap) {a : ProcessAct κ} (hs : s.step sm.agIf enable a = .next t) :
    t.asked = s.asked := by
  obtain ⟨-, -, -, ⟨c, body, rfl⟩ | ⟨hmade, -, hui, -⟩⟩ := step_cases hs
  · obtain ⟨ap', hk', -⟩ := hk.call_step hs
    obtain ⟨calls, r, hui, -, -, hc, rfl⟩ := call_inv hs
    have hkind : r.kind = c.kind := hk'.kind hc
    have hun : s.unsent = false := by rw [unsent, hui]; rfl
    cases c with
    | rmReport k =>
      have ht : unsent { s.withCalls calls with body, ui := .entered r, made := madeBy s.made r.id (.rmReport k) } = false := by
        simp [unsent, UiPc.unsent?, hkind, Call.kind]
      rw [asked, asked, ht, hun]
      rfl
    | report | control | controlRaw =>
      rw [asked, asked, hun]
      simp [unsent, UiPc.unsent?, hkind, Call.kind, madeBy]
  · exact asked_eq hmade hui

theorem handle_frame {m : XappMsg} (hs : s.handle sm enable m = .next t) :
    t.made = s.made ∧ t.ui = s.ui ∧ ∀ x, s.id = some x → t.id = some x := by
  obtain ⟨-, -, ⟨m', a, u, -, -, hu, rfl⟩ | ⟨m', data, rd, d, -, -, -, -, rfl⟩ | ⟨xappId, -, hid, rfl⟩⟩ := handle_inv hs
  · obtain ⟨rv, p, -, -, -, hid, hmade, hui, -⟩ := handleAnswer_inv hu
    exact ⟨hmade, hui, fun x hx => hid.trans hx⟩
  · exact ⟨rfl, rfl, fun _ hx => hx⟩
  · exact ⟨rfl, rfl, fun x hx => nomatch hid.symm.trans hx⟩

theorem handle_received {m : XappMsg} (hs : s.handle sm enable m = .next t) :
    t.received = m.node?.toList ++ s.received := by
  obtain ⟨-, -, ⟨m', a, u, rfl, -, hu, rfl⟩ | ⟨m', data, rd, d, rfl, -, -, -, rfl⟩ | ⟨xappId, rfl, -, rfl⟩⟩ := handle_inv hs
  · obtain ⟨_, _, -, -, -, -, -, -, hrec, -⟩ := handleAnswer_inv hu
    exact congrArg (m' :: ·) hrec
  · rfl
  · rfl

theorem mem_asked {e : Ask} (he : e ∈ s.asked) : ∃ e' ∈ s.made, (e'.1, e'.2.asks) = e := by
  obtain ⟨e', hm, heq⟩ := List.mem_map.mp he
  refine ⟨e', ?_, heq⟩
  split at hm
  · exact List.mem_of_mem_tail hm
  · exact hm

theorem send_frame {msg : E42Msg} (hs : s.send = .next (t, msg)) : t.delivery = s.delivery ∧ t.received = s.received := by
  unfold Process.send at hs
  split at hs
  · dsimp only at hs
    split at hs
    · obtain ⟨_, -, hs⟩ := Outcome.bind_eq_next.mp hs
      obtain ⟨rfl, -⟩ := Prod.mk.inj (Outcome.next.inj hs)
      exact ⟨rfl, rfl⟩
    · obtain ⟨rfl, -⟩ := Prod.mk.inj (Outcome.next.inj hs)
      exact ⟨rfl, rfl⟩
    · cases hs
  · cases hs

theorem asked_of_handle {m : XappMsg} (hs : s.handle sm enable m = .next t) : t.asked = s.asked :=
  asked_eq (handle_frame hs).1 (by rw [(handle_frame hs).2.1])

/-- What is sent is the request of the call, under the identifier of the xApp. -/
theorem send_inv (h : s.Registers) (hk : s.Kept ap) {msg : E42Msg} (hs : s.send = .next (t, msg)) : ∃ xappId ui,
    s.id = some xappId ∧ t = { s with ui } ∧ (s.ui.request?.isSome ∧ msg.request? = s.ui.request?) ∧
      ((∃ req, msg = .request req ∧ req.xappId = xappId ∧ t.asked = askOf req :: s.asked) ∨
        ∃ req, msg = .deleteRequest req ∧ req.xappId = xappId ∧ t.asked = s.asked) := by
  obtain ⟨xappId, c, r, ui, hid, hc, hr, hun, hun', rfl, rfl, -, -⟩ := hk.send hs
  have hkind := hk.kind hc
  have hw := h.wire hk hc
  have ht : unsent { s with ui } = false := by rw [unsent, hun']; rfl
  refine ⟨xappId, ui, hid, rfl, ?_, ?_⟩
  · have hreq : some r = some (⟨c.kind, XApp.wire r.id⟩ : Request) := by rw [hw, ← hkind]
    rw [hr]
    refine ⟨rfl, ?_⟩
    rw [hreq]
    cases c <;> rfl
  · have hus : s.unsent = decide (r.kind ≠ .subscriptionDelete) := by rw [unsent, hun]; rfl
    by_cases hdel : c.kind = .subscriptionDelete
    · cases c with
      | report | control | controlRaw => cases hdel
      | rmReport k =>
        refine .inr ⟨_, rfl, rfl, ?_⟩
        rw [asked, asked, ht, hus, hkind, hdel]
        rfl
    · have hhead := h.call c r hc hdel
      have hmade : s.made = (r.id, c) :: s.made.tail := (List.cons_head?_tail hhead).symm
      have hask : asked { s with ui } = (r.id, c.asks) :: s.asked := by
        rw [asked, asked, ht, hus, hkind, decide_eq_true hdel, if_neg Bool.false_ne_true, if_pos rfl]
        dsimp only
        rw [hmade]
        rfl
      rw [← hw] at hask
      cases c with
      | rmReport => exact absurd rfl hdel
      | report | control | controlRaw => exact .inl ⟨_, rfl, rfl, hask⟩

/-! ### The indications that have arrived -/

/-- What has arrived was received, and read by the service model; and its procedure is that of a call. -/
structure Traced (sm : Plugins ρ) (s : Process κ ρ) : Prop where
  received : ∀ e ∈ s.delivery.arrived, ∃ m data, .indication m ∈ s.received ∧ m.ricId.ricReqId = e.1.ricReqId ∧
    indSmPayload m = .ok data ∧ sm.onIndication m.ricId.ranFuncId data = .ok e.1.rd
  procedure : ∀ e ∈ s.delivery.arrived, ∀ v, e.2 = some v → ∃ c, (v.id, c) ∈ s.made ∧ c.entry e.1.ricReqId = some v

theorem traced_init : (init : Process κ ρ).Traced sm := ⟨nofun, nofun⟩

theorem Traced.move (h : s.Traced sm) (ha : t.delivery.arrived = s.delivery.arrived) (hr : ∀ m ∈ s.received, m ∈ t.received)
    (hm : ∀ e ∈ s.made, e ∈ t.made) : t.Traced sm where
  received e he := by
    obtain ⟨m, data, hmem, hrest⟩ := h.received e (ha ▸ he)
    exact ⟨m, data, hr _ hmem, hrest⟩
  procedure e he v hv := by
    obtain ⟨c, hmem, hc⟩ := h.procedure e (ha ▸ he) v hv
    exact ⟨c, hm _ hmem, hc⟩

theorem made_of_step {a : ProcessAct κ} (hs : s.step sm.agIf enable a = .next t) : ∀ e ∈ s.made, e ∈ t.made := by
  obtain ⟨-, -, -, ⟨c, body, rfl⟩ | ⟨hmade, -, -, -⟩⟩ := step_cases hs
  · obtain ⟨calls, r, -, -, -, -, rfl⟩ := call_inv hs
    intro e he
    cases c with
    | rmReport => exact he
    | report | control | controlRaw => exact List.mem_cons_of_mem _ he
  · exact fun e he => hmade ▸ he

theorem Traced.step (h : s.Traced sm) {a : ProcessAct κ} (hs : s.step sm.agIf enable a = .next t) : t.Traced sm := by
  obtain ⟨-, hrec, -, hcase⟩ := step_cases hs
  refine h.move ?_ (fun m hm => hrec ▸ hm) (made_of_step hs)
  rcases hcase with ⟨c, body, rfl⟩ | ⟨-, -, -, hd | ⟨b, hb, hb', hd, -⟩ | ⟨calls, _, -, -, hd⟩⟩
  · obtain ⟨calls, r, -, -, -, -, rfl⟩ := call_inv hs
    rfl
  · rw [hd]
  · exact Delivery.arrived_of_step hb hb' hd
  · rw [hd]

theorem Traced.handle (h : s.Traced sm) (hr : s.Registers) (hk : s.Kept ap) {m : XappMsg}
    (hs : s.handle sm enable m = .next t) : t.Traced sm := by
  obtain ⟨-, -, ⟨m', a, u, -, -, hu, rfl⟩ | ⟨m', data, rd, d, -, hdata, hrd, hd, rfl⟩ | ⟨xappId, -, -, rfl⟩⟩ :=
    handle_inv hs
  · obtain ⟨rv, p, -, hdel, -, -, hmade, -, hrec, -⟩ := handleAnswer_inv hu
    refine h.move ?_ (fun m hm => List.mem_cons_of_mem _ (hrec ▸ hm)) fun e he => hmade ▸ he
    dsimp only
    rw [hdel]
  · have ha := Delivery.receive_inv hd
    constructor
    · intro e he
      rcases List.mem_append.mp (ha ▸ he) with he | he
      · obtain ⟨m, data, hmem, hrest⟩ := h.received e he
        exact ⟨m, data, List.mem_cons_of_mem _ hmem, hrest⟩
      · obtain rfl := List.mem_singleton.mp he
        exact ⟨m', data, List.mem_cons_self, rfl, hdata, hrd⟩
    · intro e he v hv
      rcases List.mem_append.mp (ha ▸ he) with he | he
      · exact h.procedure e he v hv
      · obtain rfl := List.mem_singleton.mp he
        obtain ⟨⟨ps, hp, -⟩, -, -⟩ := hk.calls
        exact hr.active _ v (hp.active.symm ▸ (Delivery.procedure_eq_some hp).mp hv)
  · exact h.move rfl (fun _ hm => hm) fun _ he => he

/-! ### The answers that were heard -/

/-- The answers that are signalled, or about to be, were received. -/
structure Heard (s : Process κ ρ) : Prop where
  signalled : ∀ a ∈ s.signalled, ∃ m ∈ s.received, answer? m = some a
  loop : ∀ a, s.loop = .signalling a → ∃ m ∈ s.received, answer? m = some a

theorem heard_init : (init : Process κ ρ).Heard := ⟨nofun, nofun⟩

theorem Heard.step (h : s.Heard) {a : ProcessAct κ} (hs : s.step sm.agIf enable a = .next t) : t.Heard := by
  obtain ⟨-, hrec, ⟨hsig, hl⟩ | ⟨a, hl, hl', hsig⟩, -⟩ := step_cases hs
  · exact ⟨by rw [hsig, hrec]; exact h.signalled, by rw [hl, hrec]; exact h.loop⟩
  · refine ⟨fun a' ha' => ?_, fun a' ha' => nomatch hl'.symm.trans ha'⟩
    rw [hrec]
    rcases List.mem_cons.mp (hsig ▸ ha') with rfl | ha'
    · exact h.loop _ hl
    · exact h.signalled a' ha'

theorem Heard.handle (h : s.Heard) {m : XappMsg} (hs : s.handle sm enable m = .next t) : t.Heard := by
  have more : ∀ {m' : NodeMsg} {a : Answer}, (∃ m ∈ s.received, answer? m = some a) →
      ∃ m ∈ m' :: s.received, answer? m = some a := fun ⟨m, hm, ha⟩ => ⟨m, List.mem_cons_of_mem _ hm, ha⟩
  obtain ⟨hl, -, ⟨m', a, u, -, ha, hu, rfl⟩ | ⟨m', data, rd, d, -, -, -, -, rfl⟩ | ⟨xappId, -, -, rfl⟩⟩ := handle_inv hs
  · obtain ⟨_, _, -, -, hl', -, -, -, hrec, hsig, -⟩ := handleAnswer_inv hu
    refine ⟨fun a' ha' => ?_, fun a' ha' => ?_⟩
    · dsimp only at ha' ⊢
      rw [hrec]
      exact more (h.signalled a' (hsig ▸ ha'))
    · obtain rfl := LoopPc.signalling.inj (hl'.symm.trans ha')
      exact ⟨m', List.mem_cons_self, ha⟩
  · exact ⟨fun a' ha' => more (h.signalled a' ha'), fun a' ha' => more (h.loop a' ha')⟩
  · exact ⟨h.signalled, h.loop⟩

/-! ### All of it -/

/-- What every step of the process keeps. -/
structure Orderly (sm : Plugins ρ) (s : Process κ ρ) : Prop where
  kept : ∃ ap, s.Kept ap
  registers : s.Registers
  traced : s.Traced sm
  heard : s.Heard

theorem orderly_init : (init : Process κ ρ).Orderly sm := ⟨⟨_, kept_init⟩, registers_init, traced_init, heard_init⟩

theorem Orderly.step (h : s.Orderly sm) {a : ProcessAct κ} (hs : s.step sm.agIf enable a = .next t) : t.Orderly sm := by
  obtain ⟨ap, hk⟩ := h.kept
  refine ⟨?_, h.registers.step hk hs, h.traced.step hs, h.heard.step hs⟩
  rcases hk.step hs with ⟨_, ap', hk', -⟩ | ⟨hk', -⟩
  · exact ⟨ap', hk'⟩
  · exact ⟨ap, hk'⟩

theorem Orderly.send (h : s.Orderly sm) {msg : E42Msg} (hs : s.send = .next (t, msg)) : t.Orderly sm := by
  obtain ⟨ap, hk⟩ := h.kept
  obtain ⟨_, _, _, _, -, -, -, -, -, -, rfl, hk', -⟩ := hk.send hs
  exact ⟨⟨ap, hk'⟩, h.registers.same rfl rfl, h.traced.move rfl (fun _ hm => hm) fun _ he => he, h.heard.signalled,
    h.heard.loop⟩

theorem Orderly.send_id (h : s.Orderly sm) {msg : E42Msg} (hs : s.send = .next (t, msg)) : t.id = s.id := by
  obtain ⟨ap, hk⟩ := h.kept
  obtain ⟨_, _, -, rfl, -⟩ := send_inv h.registers hk hs
  rfl

theorem Orderly.handle (h : s.Orderly sm) {m : XappMsg} (hs : s.handle sm enable m = .next t) : t.Orderly sm := by
  obtain ⟨ap, hk⟩ := h.kept
  refine ⟨⟨ap, ?_⟩, h.registers.handle hk hs, h.traced.handle h.registers hk hs, h.heard.handle hs⟩
  obtain ⟨hl, -, ⟨m', a, u, -, -, hu, rfl⟩ | ⟨m', data, rd, d, -, -, -, hd, rfl⟩ | ⟨xappId, -, -, rfl⟩⟩ := handle_inv hs
  · exact (hk.handleAnswer hl hu).1.move rfl rfl
  · exact (hk.delivery (a := .receive _) nofun hd).move rfl rfl
  · exact hk.move rfl rfl

end Process

end FlexRic.XApp
