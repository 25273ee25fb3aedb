import FlexRic.Agent.Process
import FlexRic.Theorems.Agent.AsyncSteps
import FlexRic.Theorems.Agent.IndEvents

/-! # What an agent sends is about what it was asked

An answer has the identifiers of its request. An indication has those of a subscription that the agent was sent:
whatever the agent keeps of subscriptions, in the two trees of its table, in the queue and in the hands of its
threads, came with a subscription request. -/

namespace FlexRic.Agent
open Ds E2ap

/-! ### What the agent keeps of its subscriptions -/

/-- The subscriptions that the agent may send an indication for, with their service models -/
inductive AsyncEvents.Keeps (s : AsyncEvents) : RicGenId → Option SmAgent → Prop
  | left {e : Nat × IndEvent} : e ∈ s.agent.indEvent.left.toList → Keeps s e.2.ricId e.2.sm
  | right {e : IndEvent × Nat} : e ∈ s.agent.indEvent.right.toList → Keeps s e.1.ricId e.1.sm
  | queue {ev : AindEvent} : ev ∈ s.aind → Keeps s ev.ricId ev.sm
  | pushing {r : UInt32} {ev : AindEvent} : .pushing r ev ∈ s.calls → Keeps s ev.ricId ev.sm
  | sending {ev : AindEvent} : s.loop = .sending ev → Keeps s ev.ricId ev.sm

/-- The identifiers that the agent may send an indication under. -/
def AsyncEvents.Knows (s : AsyncEvents) (id : RicGenId) : Prop := ∃ sm, s.Keeps id sm

theorem smPluginAg_id {p : PluginAg} {key : Nat} {sm : SmAgent} (h : smPluginAg p key = .ok sm) : sm.id = key := by
  unfold smPluginAg at h
  split at h
  · cases h
  · split at h
    · cases h
    · split at h
      · next hid => exact Except.ok.inj h ▸ hid
      · cases h

section Handlers
variable {ag ag' : E2Agent} {sdr : RicSubscriptionDeleteRequest} {sr : RicSubscriptionRequest} {t : SubscribeTimer}
  {fd : Nat} {ans : SubscriptionAnswer}

/-- A delete adds nothing to either tree. -/
theorem trees_of_delete (h : ag.handle (.deleteRequest sdr) = .ok (ag', ans)) :
    (∀ e ∈ ag'.indEvent.left.toList, e ∈ ag.indEvent.left.toList) ∧
      ∀ e ∈ ag'.indEvent.right.toList, e ∈ ag.indEvent.right.toList := by
  obtain ⟨released, hs, -⟩ := handle_deleteRequest_inv h
  obtain ⟨ev, fd, -, hr⟩ := stopIndEvent_inv hs
  refine ⟨fun e he => ?_, fun e he => hr.mem_iff.mpr (List.mem_cons_of_mem _ he)⟩
  unfold E2Agent.stopIndEvent at hs
  split at hs
  · cases hs
  · split at hs
    · cases hs
    · obtain ⟨⟨fd', m⟩, hx, hs⟩ := Except.bind_eq_ok.mp hs
      obtain ⟨e', hl⟩ := BiMap.extractRight_left hx
      have hm : ag'.indEvent = m := by
        dsimp only at hs
        split at hs
        · obtain ⟨io, -, hs⟩ := Except.bind_eq_ok.mp hs
          rw [← (Prod.mk.inj (Except.ok.inj hs)).1]
        · rw [← (Prod.mk.inj (Except.ok.inj hs)).1]
      subst hm
      exact hl.mem_iff.mpr (List.mem_cons_of_mem _ he)

/-- A subscription request adds its own subscription to both. -/
theorem trees_of_request (h : ag.handle (.request sr t fd) = .ok (ag', ans)) : ∃ fd' ev, ev.ricId = sr.ricId ∧
    (∃ sm, ev.sm = some sm ∧ smPluginAg ag.plugin sr.ricId.ranFuncId = .ok sm) ∧
      ag'.indEvent.left.toList.Perm ((fd', ev) :: ag.indEvent.left.toList) ∧
        ag'.indEvent.right.toList.Perm ((ev, fd') :: ag.indEvent.right.toList) := by
  obtain ⟨action, sm, -, hsm, -, ⟨-, -, rfl⟩ | ⟨-, rfl⟩⟩ := handle_request_eq_ok.mp h
  · exact ⟨fd, ⟨sr.ricId, some sm, action.id, t.actDef⟩, rfl, ⟨sm, rfl, hsm⟩, AssocRbTree.toList_insert ..,
      AssocRbTree.toList_insert ..⟩
  · exact ⟨0, ⟨sr.ricId, some sm, action.id, t.actDef⟩, rfl, ⟨sm, rfl, hsm⟩, AssocRbTree.toList_insert ..,
      AssocRbTree.toList_insert ..⟩

end Handlers

namespace AsyncEvents
variable {s t : AsyncEvents} {a : Act} {id : RicGenId} {sm : Option SmAgent}

/-- What holds of the subscriptions in each of the places. -/
theorem Keeps.imp {P : RicGenId → Option SmAgent → Prop} (h : t.Keeps id sm)
    (hl : ∀ e ∈ t.agent.indEvent.left.toList, P e.2.ricId e.2.sm)
    (hr : ∀ e ∈ t.agent.indEvent.right.toList, P e.1.ricId e.1.sm) (hq : ∀ ev ∈ t.aind, P ev.ricId ev.sm)
    (hp : ∀ r ev, .pushing r ev ∈ t.calls → P ev.ricId ev.sm) (hs : ∀ ev, t.loop = .sending ev → P ev.ricId ev.sm) :
    P id sm := by
  cases h with
  | left h => exact hl _ h
  | right h => exact hr _ h
  | queue h => exact hq _ h
  | pushing h => exact hp _ _ h
  | sending h => exact hs _ h

/-- A step that leaves the table as it is. -/
theorem Keeps.back (h : t.Keeps id sm) (hag : t.agent = s.agent) (hq : ∀ ev ∈ t.aind, s.Keeps ev.ricId ev.sm)
    (hp : ∀ r ev, .pushing r ev ∈ t.calls → s.Keeps ev.ricId ev.sm)
    (hs : ∀ ev, t.loop = .sending ev → s.Keeps ev.ricId ev.sm) : s.Keeps id sm :=
  h.imp (fun _ he => .left (hag ▸ he)) (fun _ he => .right (hag ▸ he)) hq hp hs

/-- The agent comes to keep a subscription by the request for it, with the service model that is loaded for it. -/
theorem keeps_of_step (h : s.step a = .next t) (hk : t.Keeps id sm) : s.Keeps id sm ∨ ∃ sr tm fd sm',
    a = .message (.request sr tm fd) ∧ id = sr.ricId ∧ sm = some sm' ∧
      smPluginAg s.agent.plugin id.ranFuncId = .ok sm' := by
  cases a with
  | call r d =>
    obtain rfl := step_call_inv h
    refine .inl (hk.back rfl (fun _ h => .queue h) (fun r' ev hm => ?_) fun _ h => .sending h)
    rcases List.mem_append.mp hm with hm | hm
    · exact .pushing hm
    · cases List.mem_singleton.mp hm
  | lookup i =>
    obtain ⟨r, d, tries, c, -, rfl, hc⟩ := step_lookup_inv h
    refine .inl (hk.back rfl (fun _ h => .queue h) (fun r' ev hm => ?_) fun _ h => .sending h)
    rcases List.mem_or_eq_of_mem_set hm with hm | rfl
    · exact .pushing hm
    · rcases hc with ⟨-, hc⟩ | ⟨indEv, fd, hf, hc⟩
      · cases hc
      · obtain ⟨-, rfl⟩ := AsyncCall.pushing.inj hc
        exact .right (AssocRbTree.mem_of_findIf hf).1
  | push i =>
    obtain ⟨r, aind, hi, rfl⟩ := step_push_inv h
    refine .inl (hk.back rfl (fun ev hm => ?_) (fun r' ev hm => ?_) fun _ h => .sending h)
    · rcases List.mem_append.mp hm with hm | hm
      · exact .queue hm
      · obtain rfl := List.mem_singleton.mp hm
        exact .pushing (List.mem_of_getElem? hi)
    · rcases List.mem_or_eq_of_mem_set hm with hm | hm
      · exact .pushing hm
      · cases hm
  | write i =>
    obtain ⟨r, -, rfl⟩ := step_write_inv h
    exact .inl (hk.back rfl (fun _ h => .queue h) (fun _ _ hm => .pushing (List.mem_of_mem_eraseIdx hm)) fun _ h => .sending h)
  | epoll =>
    obtain ⟨hl, -, ⟨-, rfl⟩ | ⟨-, rfl⟩⟩ := step_epoll_inv h
    · exact .inl (hk.back rfl (fun _ h => .queue h) (fun _ _ h => .pushing h) nofun)
    · exact .inl (hk.back rfl (fun _ h => .queue h) (fun _ _ h => .pushing h) fun _ h => .sending h)
  | pop =>
    obtain ⟨aiEv, aind, -, hq, rfl⟩ := step_pop_inv h
    refine .inl (hk.back rfl (fun ev hm => .queue (hq ▸ List.mem_cons_of_mem _ hm)) (fun _ _ h => .pushing h) fun ev hl => ?_)
    obtain rfl := AgentLoop.sending.inj hl
    exact .queue (hq ▸ List.mem_cons_self)
  | send data =>
    obtain ⟨aiEv, -, rfl⟩ := step_send_inv h
    exact .inl (hk.back rfl (fun _ h => .queue h) (fun _ _ h => .pushing h) nofun)
  | consume =>
    obtain ⟨-, -, rfl⟩ := step_consume_inv h
    exact .inl (hk.back rfl (fun _ h => .queue h) (fun _ _ h => .pushing h) nofun)
  | message e =>
    obtain ⟨agent, ans, -, ho, rfl⟩ := step_message_inv h
    cases e with
    | request sr tm fd =>
      obtain ⟨fd', ev, hid, hsm, hl, hr⟩ := trees_of_request ho
      rw [← hid] at hsm
      let New (id : RicGenId) (sm : Option SmAgent) : Prop :=
        id = ev.ricId ∧ ∃ sm', sm = some sm' ∧ smPluginAg s.agent.plugin id.ranFuncId = .ok sm'
      have hnew : s.Keeps id sm ∨ New id sm := by
        refine hk.imp (P := fun id sm => s.Keeps id sm ∨ New id sm) (fun e he => ?_) (fun e he => ?_)
          (fun _ hm => .inl (.queue hm)) (fun _ _ hm => .inl (.pushing hm)) fun _ hs => .inl (.sending hs)
        · rcases List.mem_cons.mp (hl.mem_iff.mp he) with rfl | he
          · exact .inr ⟨rfl, hsm⟩
          · exact .inl (.left he)
        · rcases List.mem_cons.mp (hr.mem_iff.mp he) with rfl | he
          · exact .inr ⟨rfl, hsm⟩
          · exact .inl (.right he)
      exact hnew.imp_right fun ⟨hid', sm', hsm'⟩ => ⟨sr, tm, fd, sm', rfl, hid'.trans hid, hsm'⟩
    | deleteRequest sdr =>
      obtain ⟨hl, hr⟩ := trees_of_delete ho
      exact .inl (hk.imp (fun e he => .left (hl e he)) (fun e he => .right (hr e he)) (fun _ h => .queue h) (fun _ _ h => .pushing h)
        fun _ h => .sending h)

theorem knows_of_step (h : s.step a = .next t) (hk : t.Knows id) :
    s.Knows id ∨ ∃ sr tm fd, a = .message (.request sr tm fd) ∧ id = sr.ricId := by
  obtain ⟨sm, hk⟩ := hk
  rcases keeps_of_step h hk with hk | ⟨sr, tm, fd, _, ha, hid, -⟩
  · exact .inl ⟨sm, hk⟩
  · exact .inr ⟨sr, tm, fd, ha, hid⟩

/-- The service models are those of the RAN functions of the subscriptions. -/
def Loaded (s : AsyncEvents) : Prop := ∀ id sm, s.Keeps id sm → sm.map SmAgent.id = some id.ranFuncId

theorem loaded_init {ag : E2Agent} (h : ag.indEvent = .init) : (init ag).Loaded := by
  intro id sm hk
  cases hk with
  | left he => exact absurd (h ▸ he) List.not_mem_nil
  | right he => exact absurd (h ▸ he) List.not_mem_nil
  | queue he => cases he
  | pushing he => cases he
  | sending he => cases he

theorem Loaded.step (hl : s.Loaded) (h : s.step a = .next t) : t.Loaded := by
  intro id sm hk
  rcases keeps_of_step h hk with hk | ⟨_, _, _, sm', -, -, rfl, hsm⟩
  · exact hl id sm hk
  · exact congrArg some (smPluginAg_id hsm)

/-- Only the messages of the RIC change the table. -/
theorem agent_of_step (h : s.step a = .next t) (ha : ∀ e, a ≠ .message e) : t.agent = s.agent := by
  cases a with
  | call r d => obtain rfl := step_call_inv h; rfl
  | lookup i => obtain ⟨_, _, _, _, -, rfl, -⟩ := step_lookup_inv h; rfl
  | push i => obtain ⟨_, _, -, rfl⟩ := step_push_inv h; rfl
  | write i => obtain ⟨_, -, rfl⟩ := step_write_inv h; rfl
  | epoll => obtain ⟨-, -, ⟨-, rfl⟩ | ⟨-, rfl⟩⟩ := step_epoll_inv h <;> rfl
  | pop => obtain ⟨_, _, -, -, rfl⟩ := step_pop_inv h; rfl
  | send data => obtain ⟨_, -, rfl⟩ := step_send_inv h; rfl
  | consume => obtain ⟨-, -, rfl⟩ := step_consume_inv h; rfl
  | message e => exact absurd rfl (ha e)

end AsyncEvents

/-! ### The steps that send -/

namespace Process
variable {cfg : Setting} {s t : Process} {q : NodeRequest} {k : SmAnswer} {m : NodeMsg} {data : SmIndData} {fd : Nat}
  {id : RicGenId}

theorem stepSending_inv {a : AsyncEvents.Act} (h : s.stepSending a = .next (t, m)) : ∃ async am,
    s.async.step a = .next async ∧ async.sent.head? = some am ∧ m = nodeMsg am ∧ t = ⟨async, m :: s.sent⟩ := by
  obtain ⟨async, hs, h⟩ := Outcome.bind_eq_next.mp h
  obtain ⟨am, ha, h⟩ := Outcome.bind_eq_next.mp h
  obtain ⟨rfl, rfl⟩ := Prod.mk.inj (Outcome.next.inj h)
  exact ⟨async, am, hs, Outcome.ofOption_eq_next.mp ha, rfl, rfl⟩

theorem step_inv {a : AsyncEvents.Act} (h : s.step a = .next t) :
    ∃ async, s.async.step a = .next async ∧ t = { s with async } ∧ ∀ e, a ≠ .message e := by
  cases a
  case send | message => cases h
  all_goals
    obtain ⟨async, hs, h⟩ := Outcome.bind_eq_next.mp h
    exact ⟨async, hs, (Outcome.next.inj h).symm, nofun⟩

theorem sendAperiodic_inv (h : s.sendAperiodic data = .next (t, m)) : ∃ aiEv async,
    s.async.loop = .sending aiEv ∧ s.async.step (.send data) = .next async ∧
      m = .indication (generateAindication data aiEv) ∧ t = ⟨async, m :: s.sent⟩ := by
  obtain ⟨async, am, hs, ha, rfl, rfl⟩ := stepSending_inv h
  obtain ⟨aiEv, hl, rfl⟩ := AsyncEvents.step_send_inv hs
  obtain rfl := Option.some.inj ha
  exact ⟨aiEv, _, hl, hs, rfl, rfl⟩

theorem sendPeriodic_inv (h : s.sendPeriodic cfg fd data = .next (t, m)) : ∃ e iEv,
    s.async.agent.indEvent.left.findIf (fd == ·) = some (e, iEv) ∧ m = .indication (generateIndication data iEv) ∧
      t = { s with sent := m :: s.sent } := by
  obtain ⟨_, -, h⟩ := Outcome.bind_eq_next.mp h
  split at h
  · cases h
  · next e iEv hf =>
    obtain ⟨_, -, h⟩ := Outcome.bind_eq_next.mp h
    obtain ⟨rfl, rfl⟩ := Prod.mk.inj (Outcome.next.inj h)
    exact ⟨e, iEv, hf, rfl, rfl⟩

theorem handleControlRequest_inv {ctrlOut : List UInt8} (h : s.handleControlRequest id ctrlOut = .next (t, m)) :
    m = .controlAcknowledge ⟨id, none, baFromCtrlOut ctrlOut⟩ ∧ t = { s with sent := m :: s.sent } := by
  obtain ⟨_, -, h⟩ := Outcome.bind_eq_next.mp h
  obtain ⟨_, -, h⟩ := Outcome.bind_eq_next.mp h
  obtain ⟨rfl, rfl⟩ := Prod.mk.inj (Outcome.next.inj h)
  exact ⟨rfl, rfl⟩

/-- An answer is of the kind of its request, and has its identifiers. -/
theorem handle_inv (h : s.handle cfg q k = .next (t, m)) : m.answers? = some q.kind ∧ m.ricId = q.ricId ∧
    t.sent = m :: s.sent ∧
    ((q.kind = .control ∧ t.async = s.async) ∨
      (q.kind ≠ .control ∧ s.async.step (.message (subscriptionEvent cfg q k)) = .next t.async)) := by
  have sending : s.stepSending (.message (subscriptionEvent cfg q k)) = .next (t, m) →
      ∃ ans, s.async.agent.handle (subscriptionEvent cfg q k) = .ok (t.async.agent, ans) ∧
        m = nodeMsg (AsyncEvents.answer ans) ∧ t.sent = m :: s.sent ∧
        s.async.step (.message (subscriptionEvent cfg q k)) = .next t.async := by
    intro h
    obtain ⟨async, am, hs, ha, rfl, rfl⟩ := stepSending_inv h
    obtain ⟨agent, ans, -, ho, rfl⟩ := AsyncEvents.step_message_inv hs
    obtain rfl := Option.some.inj ha
    exact ⟨ans, ho, rfl, rfl, hs⟩
  cases hk : q.kind with
  | control =>
    rw [handle, hk] at h
    obtain ⟨rfl, rfl⟩ := handleControlRequest_inv h
    exact ⟨rfl, rfl, rfl, .inl ⟨rfl, rfl⟩⟩
  | subscription =>
    rw [handle, hk] at h
    obtain ⟨ans, ho, rfl, hsent, hs⟩ := sending h
    rw [subscriptionEvent, if_pos hk] at ho
    obtain ⟨_, _, -, -, rfl, -⟩ := handle_request_eq_ok.mp ho
    exact ⟨rfl, rfl, hsent, .inr ⟨nofun, hs⟩⟩
  | subscriptionDelete =>
    rw [handle, hk] at h
    obtain ⟨ans, ho, rfl, hsent, hs⟩ := sending h
    rw [subscriptionEvent, if_neg (by rw [hk]; nofun)] at ho
    obtain ⟨_, -, rfl⟩ := handle_deleteRequest_inv ho
    exact ⟨rfl, rfl, hsent, .inr ⟨nofun, hs⟩⟩

/-- A request leaves the agent with the subscriptions that it had, and that of the request. -/
theorem knows_of_handle (h : s.handle cfg q k = .next (t, m)) (hk : t.async.Knows id) :
    s.async.Knows id ∨ (q.kind = .subscription ∧ id = q.ricId) := by
  obtain ⟨-, -, -, ⟨-, heq⟩ | ⟨-, hs⟩⟩ := handle_inv h
  · exact .inl (heq ▸ hk)
  · rcases AsyncEvents.knows_of_step hs hk with hk | ⟨sr, tm, fd, he, rfl⟩
    · exact .inl hk
    · have he := AsyncEvents.Act.message.inj he
      rw [subscriptionEvent] at he
      split at he
      · next hq =>
        obtain ⟨rfl, -⟩ := SubscriptionEvent.request.inj he
        exact .inr ⟨hq, rfl⟩
      · cases he

/-- The identifiers of the subscriptions in the agent's table -/
def table (s : Process) : List RicGenId := s.async.agent.indEvent.right.toList.map fun e => e.1.ricId

/-- What a request does to the table: a subscription adds its identifiers, and a deletion removes them. -/
theorem table_of_handle (h : s.handle cfg q k = .next (t, m)) : q.kind.change.Makes q.ricId s.table t.table := by
  obtain ⟨-, -, -, ⟨hk, heq⟩ | ⟨hk, hs⟩⟩ := handle_inv h
  · rw [hk, table, table, heq]
    exact .refl _
  · obtain ⟨agent, ans, -, ho, ht⟩ := AsyncEvents.step_message_inv hs
    have hag : t.async.agent = agent := by rw [ht]
    cases hkind : q.kind with
    | control => exact absurd hkind hk
    | subscription =>
      rw [subscriptionEvent, if_pos hkind] at ho
      obtain ⟨fd, ev, hid, -, -, hr⟩ := trees_of_request ho
      have hev : ev.ricId = q.ricId := hid
      rw [table, table, hag, ← hev]
      exact hr.map fun e => e.1.ricId
    | subscriptionDelete =>
      rw [subscriptionEvent, if_neg (by rw [hkind]; nofun)] at ho
      obtain ⟨released, hstop, -⟩ := handle_deleteRequest_inv ho
      obtain ⟨ev, fd, hid, hr⟩ := stopIndEvent_inv hstop
      have hev : ev.ricId = q.ricId := hid
      rw [table, table, hag, ← hev]
      exact hr.map fun e => e.1.ricId

end Process

end FlexRic.Agent
