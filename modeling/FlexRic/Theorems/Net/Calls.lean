import FlexRic.Theorems.Net.Answers
import FlexRic.Theorems.Sm.Procedures

/-! # What the calls return, and what the callbacks are given

A call returns what the agent of its node has answered to its request, and a callback is given what the agent of the
node has sent for the subscription that has the callback. -/

namespace FlexRic.XApp.Xapp

/-- The answer that has arrived answers the request of the call, and none was signalled for it. -/
theorem Inv.fresh {X : Xapp} {a : Answer} (h : X.Inv) (ha : X.toXapp = [a]) :
    ∃ r, X.ui.request? = some r ∧ a.Answers r ∧ X.Fresh r := by
  obtain ⟨-, r, hr, hat, hcase⟩ := h.onItsWay ha
  refine ⟨r, hr, hat.1, ?_⟩
  rcases hcase with ⟨hui, -⟩ | ⟨-, hf, -⟩
  · have hpos := h.position
    simp only [Position, hui] at hpos
    exact hpos.2.2.1
  · exact hf

end FlexRic.XApp.Xapp

namespace FlexRic.Net.Network
open Agent Ds E2ap Ep IApp Ric XApp

variable {ι κ ρ : Type} [DecidableEq ι] {cfg : Config ι ρ} {s t : Network ι κ ρ} {a : Act ι κ} {x : ι} {as : List (Act ι κ)}

/-! ### The queues of the xApps -/

/-- The identifiers last, the queues of the xApps have room, and the indications that are received are of a type that is
handled, for subscriptions with callbacks. -/
def Served (cfg : Config ι ρ) (s : Network ι κ ρ) (a : Act ι κ) : Prop :=
  IdLeft s a ∧ (∀ x b, a = .xapp x b → Process.Admissible cfg.plugins.agIf cfg.enable (s.xapps x) b) ∧
    ∀ x i e, a = .xappReceive x i → s.toXapp[i]? = some e → Process.Receives cfg.plugins cfg.enable (s.xapps x) e.2

theorem mem_toOption {ε α : Type} {e : Except ε α} {b : α} : b ∈ e.toOption ↔ e = .ok b := by
  cases e with
  | error => simp [Except.toOption]
  | ok => simp [Except.toOption]

instance (p : XApp.Process κ ρ) : ∀ m, Decidable (Process.Receives cfg.plugins cfg.enable p m)
  | .node (.indication m) => decidable_of_iff (∀ data ∈ (Process.indSmPayload m).toOption,
      ∀ rd ∈ (cfg.plugins.onIndication m.ricId.ranFuncId data).toOption,
        Delivery.Admissible cfg.plugins.agIf cfg.enable p.delivery (.receive ⟨m.ricId.ricReqId, rd⟩))
    ⟨fun h data rd hd hr => h data (mem_toOption.mpr hd) rd (mem_toOption.mpr hr),
      fun h data hd rd hr => h data rd (mem_toOption.mp hd) (mem_toOption.mp hr)⟩
  | .setupResponse _ | .node (.subscriptionResponse _) | .node (.subscriptionDeleteResponse _)
  | .node (.controlAcknowledge _) | .node (.controlFailure _) => .isTrue trivial

instance (s : Network ι κ ρ) : ∀ a, Decidable (Served cfg s a)
  | .xapp x b => decidable_of_iff (Process.Admissible cfg.plugins.agIf cfg.enable (s.xapps x) b)
    ⟨fun h => ⟨nofun, fun _ _ he => by obtain ⟨rfl, rfl⟩ := Act.xapp.inj he; exact h, nofun⟩, fun h => h.2.1 x b rfl⟩
  | .xappReceive x i => decidable_of_iff (∀ e ∈ s.toXapp[i]?, Process.Receives cfg.plugins cfg.enable (s.xapps x) e.2)
    ⟨fun h => ⟨nofun, nofun, fun _ _ e he => by obtain ⟨rfl, rfl⟩ := Act.xappReceive.inj he; exact h e⟩,
      fun h e he => h.2.2 x i e rfl he⟩
  | .ric a => decidable_of_iff (IdLeft s (.ric a)) ⟨fun h => ⟨h, nofun, nofun⟩, fun h => h.1⟩
  | .setup .. | .xappSend _ | .iappReceive _ | .agent .. | .agentAperiodic .. | .agentPeriodic .. | .agentReceive .. =>
    .isTrue ⟨nofun, nofun, nofun⟩

/-- Every xApp of the network has its queues as in `Delivery`. -/
theorem delivery_of_run (hapart : Apart cfg) (h : (network κ cfg).Run (Served cfg) as s) (x : ι) : (s.xapps x).Told ∧
    (delivery κ cfg.plugins.agIf cfg.enable).Reachable (Delivery.Admissible cfg.plugins.agIf cfg.enable)
      (s.xapps x).delivery := by
  refine h.invariant_trace (I := fun _ s => ∀ x, (s.xapps x).Told ∧
    (delivery κ cfg.plugins.agIf cfg.enable).Reachable (Delivery.Admissible cfg.plugins.agIf cfg.enable)
      (s.xapps x).delivery) (fun x => ⟨Process.told_init, [], .nil⟩) ?_ x
  intro as s a t hr ih hg (hs : step cfg s a = .next t) y
  have moved : ∀ {p : XApp.Process κ ρ} {x : ι}, (p.Told ∧ (p.delivery = (s.xapps x).delivery ∨
      ∃ b, Delivery.Admissible cfg.plugins.agIf cfg.enable (s.xapps x).delivery b ∧
        (s.xapps x).delivery.step cfg.plugins.agIf cfg.enable b = .next p.delivery)) →
      (Function.update s.xapps x p y).Told ∧ (delivery κ cfg.plugins.agIf cfg.enable).Reachable
        (Delivery.Admissible cfg.plugins.agIf cfg.enable) (Function.update s.xapps x p y).delivery := by
    rintro p x ⟨htold, hd⟩
    rw [Function.update_apply]
    split
    · refine ⟨htold, ?_⟩
      rcases hd with hd | ⟨b, hb, hd⟩
      · exact hd ▸ (ih x).2
      · obtain ⟨bs, hbs⟩ := (ih x).2
        exact ⟨bs ++ [b], hbs.snoc hb hd⟩
    · exact ih y
  cases a with
  | setup x n => obtain ⟨-, rfl⟩ := setup_inv hs; exact ih y
  | xapp x a =>
    obtain ⟨p, hp, rfl⟩ := xapp_inv hs
    exact moved (Process.step_delivery (ih x).1 (hg.2.1 x a rfl) hp)
  | xappSend x =>
    obtain ⟨p, msg, hp, rfl⟩ := xappSend_inv hs
    obtain ⟨ap, hk⟩ := (orderly_of_run hr x).kept
    obtain ⟨_, _, -, rfl, -, -⟩ := Process.send_inv (orderly_of_run hr x).registers hk hp
    exact moved ⟨(ih x).1.move rfl rfl rfl, .inl rfl⟩
  | xappReceive x i =>
    obtain ⟨info, msg, p, hi, hpeer, hp, rfl⟩ := xappReceive_inv hs
    obtain ⟨z, hz⟩ := (connected_of_run hr hapart).answers _ (List.mem_of_getElem? hi)
    dsimp only at hz
    obtain rfl := hapart z x (hz ▸ hpeer)
    subst hz
    obtain ⟨ap, hk⟩ := (orderly_of_run hr z).kept
    refine moved (Process.handle_delivery hk (ih z).1 (hg.2.2 z i _ rfl hi) (fun m a hm ha => ?_) hp)
    -- What the threads of the xApp see: the answer is the only one, and is new to the request of the call.
    obtain ⟨X, hsee, hX⟩ := (follows_xapp hapart z).keeps (I := Xapp.Inv) (fun _ _ => Xapp.inv_of_run)
      (hr.mono fun _ _ hg => hg.1)
    obtain ⟨ap', -, hthr⟩ := hsee.threads
    have hmem : a ∈ s.answersFor (cfg.addr z) := by
      refine List.mem_filterMap.mpr ⟨m, mem_addressed.mpr (List.mem_filterMap.mpr ⟨_, List.mem_of_getElem? hi, ?_⟩), ha⟩
      rw [hm]
      rfl
    obtain ⟨hone, -⟩ := perm_cons_of_length_le_one (hsee.answered.trans (List.perm_cons_erase hmem)) hX.length_toXapp
    obtain ⟨r, hr', hans, hfresh⟩ := hX.fresh hone
    rw [hthr] at hr' hfresh
    exact ⟨r, hr', hans, hfresh⟩
  | iappReceive i => obtain ⟨_, _, _, -, -, rfl⟩ := iappReceive_inv hs; exact ih y
  | ric a =>
    obtain ⟨_, -, ⟨_, _, -, -, rfl⟩ | ⟨_, _, _, _, -, -, -, -, rfl⟩ | ⟨-, rfl⟩⟩ := ric_inv hs <;> exact ih y
  | agent n a => obtain ⟨_, -, rfl⟩ := agent_inv hs; exact ih y
  | agentAperiodic n data => obtain ⟨_, _, -, rfl⟩ := agentAperiodic_inv hs; exact ih y
  | agentPeriodic n fd data => obtain ⟨_, _, -, rfl⟩ := agentPeriodic_inv hs; exact ih y
  | agentReceive n i k => obtain ⟨_, _, _, -, -, -, rfl⟩ := agentReceive_inv hs; exact ih y

/-! ### Where a message comes from -/

/-- The message of a node that an xApp has received: the agent has sent it, about a request that the xApp has made. -/
structure Origin (cfg : Config ι ρ) (s : Network ι κ ρ) (x : ι) (m : NodeMsg) (i : Issue) (src : NodeMsg) : Prop where
  issued : i ∈ s.ric.issued
  info : i.info = cfg.addr x
  made : ∃ c, (i.req.ricId, c) ∈ (s.xapps x).made ∧ c.asks = some (i.req.kind, i.req.e2NodeId)
  sent : src ∈ (s.agents i.req.e2NodeId).sent
  srcId : src.ricId = i.ricId
  answer : m = answerToXapp i.entry.2 src
  ricId : m.ricId = i.req.ricId

theorem origin_of_received (hapart : Apart cfg) (h : (network κ cfg).Run IdLeft as s) {m : NodeMsg}
    (hm : m ∈ (s.xapps x).received) : ∃ i src, Origin cfg s x m i src := by
  obtain ⟨bs, hr⟩ := ric_reachable h
  have hfwd := mem_addressed.mp ((received_of_run hapart h x).mem_iff.mpr (List.mem_append_right _ hm))
  obtain ⟨f, hf, heq⟩ := List.mem_map.mp hfwd
  obtain ⟨hinfo, rfl⟩ := Prod.mk.inj heq
  have hsrc : f.source ∈ s.ric.fromNodes :=
    (Routing.conserved_of_run hr).mem_iff.mpr (List.mem_append_right _ (List.mem_map.mpr ⟨f, hf, rfl⟩))
  obtain ⟨i, hi, hid⟩ := issue_of_fromNodes h hsrc
  have howner := (owner_iff (fun _ _ => id) h).mpr ⟨hi, hid.symm⟩
  have hto := forXapp_of_forwarded hapart (fun _ _ => id) h hf
  rw [Routing.forXapp, howner] at hto
  obtain ⟨hinfo', hsent⟩ := Prod.mk.inj (Option.some.inj hto)
  obtain ⟨y, c, hy, hmade, hc⟩ := made_of_issued hapart h hi
  obtain rfl := hapart.injective (hy.symm.trans (hinfo'.trans hinfo))
  refine ⟨i, f.source, hi, hy, ⟨c, hmade, hc⟩, ?_, hid, hsent.symm, hsent ▸ ricId_answerToXapp hid⟩
  refine ((sentByAgents_of_run (fun _ _ => id) h).sent i.req.e2NodeId).mem_iff.mp (List.mem_filter.mpr ⟨hsrc, ?_⟩)
  rw [ofNode, howner]
  exact decide_eq_true rfl

/-! ### The calls -/

/-- The answer is no failure. -/
def succeeds : NodeMsg → Bool
  | .controlFailure _ => false
  | _ => true

/-- The agent of the node has answered the request of the xApp, with this outcome. -/
structure AnsweredBy (cfg : Config ι ρ) (s : Network ι κ ρ) (x : ι) (r : Request) (ok : Bool) (i : Issue) (m : NodeMsg) :
    Prop where
  issued : i ∈ s.ric.issued
  info : i.info = cfg.addr x
  ricId : i.req.ricId = r.id
  made : ∃ c, (r.id, c) ∈ (s.xapps x).made ∧ c.asks = some (i.req.kind, i.req.e2NodeId)
  sent : m ∈ (s.agents i.req.e2NodeId).sent
  about : m.ricId = i.ricId
  kind : m.answers? = some r.kind
  outcome : ok = succeeds m

/-- In every run in which the identifiers last, every call that has returned has returned what the agent of the node
that it names has answered to its own request. -/
theorem returned_of_run (hapart : Apart cfg) (h : (network κ cfg).Run IdLeft as s) (x : ι) {r : Request} {ok : Bool}
    (hr : (r, ok) ∈ (s.xapps x).returned) : ∃ i m, AnsweredBy cfg s x r ok i m := by
  obtain ⟨X, hsee, hX⟩ := (follows_xapp hapart x).keeps (I := Xapp.Inv) (fun _ _ => Xapp.inv_of_run) h
  obtain ⟨ap, -, hthr⟩ := hsee.threads
  have hret : (r, ok) ∈ X.returned := by
    rw [hthr]
    exact hr
  obtain ⟨a, ha, ⟨hkind, hid⟩, hok⟩ := hX.outcomes r ok hret
  rw [hthr] at ha
  obtain ⟨m', hm', ham⟩ := (orderly_of_run h x).heard.signalled a ha
  obtain ⟨i, m, ho⟩ := origin_of_received hapart h hm'
  have hanswer : answer? (answerToXapp i.entry.2 m) = some a := ho.answer ▸ ham
  have hm'id : m'.ricId = a.id := by
    cases m' with
    | indication => cases ham
    | subscriptionResponse | subscriptionDeleteResponse | controlAcknowledge | controlFailure =>
      obtain rfl := Option.some.inj ham
      rfl
  have hreq : i.req.ricId = r.id := ho.ricId.symm.trans (hm'id.trans hid)
  have hshape : m.answers? = some a.kind ∧ a.success = succeeds m := by
    cases m with
    | indication => cases hanswer
    | subscriptionResponse | subscriptionDeleteResponse | controlAcknowledge | controlFailure =>
      obtain rfl := Option.some.inj hanswer
      exact ⟨rfl, rfl⟩
  exact ⟨i, m, ho.issued, ho.info, hreq, hreq ▸ ho.made, ho.sent, ho.srcId, hkind ▸ hshape.1, hok ▸ hshape.2⟩

/-- The subscription of the first xApp was made. -/
theorem returned_of_run_two : ∃ s, (network Unit twoXapps).Run IdLeft bothServed s ∧
    (⟨.subscription, ⟨1, 0, 142⟩⟩, true) ∈ (s.xapps 0).returned ∧
      ∃ i m, AnsweredBy twoXapps s 0 ⟨.subscription, ⟨1, 0, 142⟩⟩ true i m := by
  obtain ⟨s, hr, -, hs, -⟩ := bothServed_run
  exact ⟨s, hr, hs, returned_of_run twoXapps_apart hr 0 hs⟩

/-! ### The callbacks -/

/-- The agent of the node has sent the data, for the subscription of the xApp with the callback. -/
structure GivenBy (cfg : Config ι ρ) (s : Network ι κ ρ) (x : ι) (d : MsgDispatch κ ρ) (i : Issue) (m : RicIndication) :
    Prop where
  issued : i ∈ s.ric.issued
  info : i.info = cfg.addr x
  node : i.req.e2NodeId = d.e2Node
  made : (i.req.ricId, .report d.e2Node i.req.ricId.ranFuncId d.smCb) ∈ (s.xapps x).made
  sent : .indication m ∈ (s.agents d.e2Node).sent
  about : m.ricId = i.ricId
  data : ∃ data, Process.indSmPayload m = .ok data ∧ cfg.plugins.onIndication m.ricId.ranFuncId data = .ok d.rd

/-- A callback is there for the calls that make a subscription. -/
theorem report_of_entry {c : Call κ} {k : Nat} {v : ActProcEntry κ} (h : c.entry k = some v) (hcb : v.smCb ≠ none) :
    c = .report v.e2Node v.id.ranFuncId v.smCb := by
  cases c with
  | report id rfId cb =>
    obtain rfl := Option.some.inj h
    rfl
  | control | controlRaw =>
    obtain rfl := Option.some.inj h
    exact absurd rfl hcb
  | rmReport => cases h

/-- In every run in which the identifiers last and the queues have room: what a callback was given is what the agent of
the node has sent for the subscription that was made with the callback. -/
theorem called_of_run (hapart : Apart cfg) (h : (network κ cfg).Run (Served cfg) as s) (x : ι) {d : MsgDispatch κ ρ}
    (hd : d ∈ (s.xapps x).delivery.msgDisp.called) : ∃ i m, GivenBy cfg s x d i m := by
  have hid : (network κ cfg).Run IdLeft as s := h.mono fun _ _ hg => hg.1
  obtain ⟨bs, hdel⟩ := (delivery_of_run hapart h x).2
  obtain ⟨ms, hhas, hms⟩ := (Delivery.inv_of_run hdel).msgDisp
  have ho := orderly_of_run h x
  have hdms : d ∈ ms := hhas.called_pending ▸ List.mem_append_left _ hd
  obtain ⟨e, he, hde⟩ := List.mem_filterMap.mp (hms ▸ List.mem_append_left _ hdms :
    d ∈ (s.xapps x).delivery.deliveries)
  obtain ⟨v, hv, rfl⟩ := Option.map_eq_some_iff.mp hde
  obtain ⟨m', data, hm', hreq, hdata, hrd⟩ := ho.traced.received e he
  obtain ⟨c, hmade, hentry⟩ := ho.traced.procedure e he v hv
  obtain rfl := report_of_entry hentry (hhas.callback _ hdms)
  obtain ⟨i, src, hor⟩ := origin_of_received hapart hid hm'
  -- The request of the indication is that of the procedure: they have one identifier.
  obtain ⟨c', hmade', hasks⟩ := hor.made
  have hvid : v.id.ricReqId = e.1.ricReqId :=
    (congrArg (fun w : ActProcEntry κ => w.id.ricReqId) (Option.some.inj hentry)).symm
  have hids : i.req.ricId.ricReqId = v.id.ricReqId := by
    rw [← hor.ricId, hvid, ← hreq]
    rfl
  obtain ⟨hrid, rfl⟩ := Prod.mk.inj (List.inj_on_of_nodup_map ho.registers.nodup hmade' hmade hids)
  have hnode : i.req.e2NodeId = v.e2Node := (Prod.mk.inj (Option.some.inj hasks)).2.symm
  obtain ⟨m, rfl⟩ : ∃ m, src = .indication m := by
    cases src with
    | indication m => exact ⟨m, rfl⟩
    | subscriptionResponse | subscriptionDeleteResponse | controlAcknowledge | controlFailure => cases hor.answer
  obtain rfl := NodeMsg.indication.inj hor.answer
  exact ⟨i, m, hor.issued, hor.info, hnode, hrid.symm ▸ hmade, hnode ▸ hor.sent, hor.srcId, data, hdata, hrd⟩

/-! ### What the RAN has read

With the service models loaded, the data of an indication is what the service model of the subscription makes of what
the RAN reads at the time. -/

/-- An agent, the service model that it asks for the data of an indication with the action definition, and the data -/
structure Report where
  node : GlobalE2NodeId
  sm : SmAgent
  actDef : Nat
  data : SmIndData

/-- The report that a step of an agent sends. -/
def report? (s : Network ι κ ρ) : Act ι κ → Option Report
  | .agentPeriodic n fd data => do
    let (_, iEv) ← (s.agents n).async.agent.indEvent.left.findIf (fd == ·)
    let sm ← iEv.sm
    return ⟨n, sm, iEv.actDef, data⟩
  | .agentAperiodic n data =>
    match (s.agents n).async.loop with
    | .sending ev => ev.sm.map fun sm => ⟨n, sm, ev.indData, data⟩
    | _ => none
  | _ => none

/-- The data of a report is what the service model makes of what the RAN of the node may read. -/
def Report.Of (reads : GlobalE2NodeId → Sm.SmIoAgRan → Prop) (r : Report) : Prop :=
  ∃ io, reads r.node io ∧ Sm.onIndicationAg io r.sm r.actDef = .ok r.data

/-- The queues have room as in `Served`, and the agents report what is read. -/
def Reporting (cfg : Config ι ρ) (reads : GlobalE2NodeId → Sm.SmIoAgRan → Prop) (s : Network ι κ ρ) (a : Act ι κ) : Prop :=
  Served cfg s a ∧ ∀ r, s.report? a = some r → r.Of reads

/-- The service models of the agent's subscriptions are those of their RAN functions, and every indication that it has
sent has a report. -/
structure Reported (reads : GlobalE2NodeId → Sm.SmIoAgRan → Prop) (n : GlobalE2NodeId) (p : Agent.Process) : Prop where
  loaded : p.async.Loaded
  sent : ∀ m, .indication m ∈ p.sent → ∃ r : Report, r.node = n ∧ r.sm.id = m.ricId.ranFuncId ∧
    r.data = ⟨m.hdr, m.msg, m.callProcessId⟩ ∧ r.Of reads

section Reports
variable {reads : GlobalE2NodeId → Sm.SmIoAgRan → Prop} {n : GlobalE2NodeId} {p q : Agent.Process}

theorem Reported.of_eq (h : Reported reads n p) (hl : q.async.Loaded) (hs : q.sent = p.sent) : Reported reads n q :=
  ⟨hl, fun m hm => h.sent m (hs ▸ hm)⟩

theorem Reported.add (h : Reported reads n p) (hl : q.async.Loaded) {m : RicIndication} (hs : q.sent = .indication m :: p.sent)
    {r : Report} (hn : r.node = n) (hid : r.sm.id = m.ricId.ranFuncId) (hdata : r.data = ⟨m.hdr, m.msg, m.callProcessId⟩)
    (hr : r.Of reads) : Reported reads n q := by
  refine ⟨hl, fun m' hm => ?_⟩
  rcases List.mem_cons.mp (hs ▸ hm) with he | hm
  · obtain rfl := NodeMsg.indication.inj he
    exact ⟨r, hn, hid, hdata, hr⟩
  · exact h.sent m' hm

omit [DecidableEq ι] in
/-- A step of the agent of one node -/
theorem reported_update (h : ∀ n, Reported reads n (s.agents n)) (hp : Reported reads n p) (n' : GlobalE2NodeId) :
    Reported reads n' (Function.update s.agents n p n') := by
  rw [Function.update_apply]
  split
  · next he => exact he ▸ hp
  · exact h n'

theorem Reported.step (h : ∀ n, Reported reads n (s.agents n)) (hg : ∀ r, s.report? a = some r → r.Of reads)
    (hs : step cfg s a = .next t) : ∀ n, Reported reads n (t.agents n) := by
  cases a with
  | setup x n => obtain ⟨-, rfl⟩ := setup_inv hs; exact h
  | xapp x a => obtain ⟨_, -, rfl⟩ := xapp_inv hs; exact h
  | xappSend x => obtain ⟨_, _, -, rfl⟩ := xappSend_inv hs; exact h
  | xappReceive x i => obtain ⟨_, _, _, -, -, -, rfl⟩ := xappReceive_inv hs; exact h
  | iappReceive i => obtain ⟨_, _, _, -, -, rfl⟩ := iappReceive_inv hs; exact h
  | ric a =>
    obtain ⟨_, -, ⟨_, _, -, -, rfl⟩ | ⟨_, _, _, _, -, -, -, -, rfl⟩ | ⟨-, rfl⟩⟩ := ric_inv hs <;> exact h
  | agent n a =>
    obtain ⟨p, hp, rfl⟩ := agent_inv hs
    obtain ⟨async, has, rfl, -⟩ := Process.step_inv hp
    exact reported_update h ((h n).of_eq ((h n).loaded.step has) rfl)
  | agentAperiodic n data =>
    obtain ⟨p, m, hp, rfl⟩ := agentAperiodic_inv hs
    obtain ⟨ev, async, hl, has, rfl, rfl⟩ := Process.sendAperiodic_inv hp
    obtain ⟨sm, hsm, hid⟩ := Option.map_eq_some_iff.mp ((h n).loaded _ _ (.sending hl))
    have hr : s.report? (.agentAperiodic n data) = some ⟨n, sm, ev.indData, data⟩ := by
      rw [report?, hl]
      exact congrArg (Option.map fun sm => Report.mk n sm ev.indData data) hsm
    exact reported_update h ((h n).add ((h n).loaded.step has) rfl (r := ⟨n, sm, ev.indData, data⟩) rfl hid rfl (hg _ hr))
  | agentPeriodic n fd data =>
    obtain ⟨p, m, hp, rfl⟩ := agentPeriodic_inv hs
    obtain ⟨e, iEv, hf, rfl, rfl⟩ := Process.sendPeriodic_inv hp
    have hloaded : iEv.sm.map SmAgent.id = some iEv.ricId.ranFuncId :=
      (h n).loaded _ _ (.left (AssocRbTree.mem_of_findIf hf).1)
    obtain ⟨sm, hsm, hid⟩ := Option.map_eq_some_iff.mp hloaded
    have hr : s.report? (.agentPeriodic n fd data) = some ⟨n, sm, iEv.actDef, data⟩ := by
      simp only [report?, hf, hsm, Option.bind_eq_bind, Option.bind_some, Option.pure_def]
    exact reported_update h ((h n).add (h n).loaded rfl (r := ⟨n, sm, iEv.actDef, data⟩) rfl hid rfl (hg _ hr))
  | agentReceive n i k =>
    obtain ⟨q, p, m, hq, rfl, hp, rfl⟩ := agentReceive_inv hs
    obtain ⟨hans, -, hsent, hasync⟩ := Process.handle_inv hp
    have hl : p.async.Loaded := by
      rcases hasync with ⟨-, heq⟩ | ⟨-, has⟩
      · exact heq ▸ (h _).loaded
      · exact (h _).loaded.step has
    refine reported_update h ⟨hl, fun m' hm => ?_⟩
    rcases List.mem_cons.mp (hsent ▸ hm) with rfl | hm
    · cases hans
    · exact (h _).sent m' hm

/-- The RAN of the node has read what the xApp was given, for the RAN function that the call names. -/
structure ReadBy (s : Network ι κ Sm.RdInd) (reads : GlobalE2NodeId → Sm.SmIoAgRan → Prop) (x : ι)
    (d : MsgDispatch κ Sm.RdInd) (ricId : RicGenId) (io : Sm.SmIoAgRan) : Prop where
  made : (ricId, .report d.e2Node ricId.ranFuncId d.smCb) ∈ (s.xapps x).made
  read : reads d.e2Node io
  received : (ricId.ranFuncId, d.rd) ∈ Sm.received io
  holds : d.rd.Holds io ↔ (ricId.ranFuncId = Sm.smPdcpId → io.pdcp.records.items ≠ []) ∧
    (ricId.ranFuncId = Sm.smTcId → io.tc.NoIds)

/-- With the service models at both ends, in every run in which the identifiers last and the queues have room: what a
callback was given is what the RAN of its node has read, for the RAN function of its subscription. -/
theorem statistics_of_run {cfg : Config ι Sm.RdInd} {s : Network ι κ Sm.RdInd} (hapart : Apart cfg)
    (hric : cfg.plugins.onIndication = Sm.onIndicationRic) (h : (network κ cfg).Run (Reporting cfg reads) as s) (x : ι)
    {d : MsgDispatch κ Sm.RdInd} (hd : d ∈ (s.xapps x).delivery.msgDisp.called) : ∃ ricId io, ReadBy s reads x d ricId io := by
  obtain ⟨i, m, hg⟩ := called_of_run hapart (h.mono fun _ _ hg => hg.1) x hd
  obtain ⟨r, hn, hid, hdata, io, hio, henc⟩ := (h.invariant (I := fun s => ∀ n, Reported reads n (s.agents n))
    (fun n => ⟨Agent.AsyncEvents.loaded_init rfl, fun _ hm => absurd hm List.not_mem_nil⟩)
    (fun _ _ _ hi hg hs => Reported.step hi hg.2 hs) d.e2Node).sent m hg.sent
  obtain ⟨data, hpay, hon⟩ := hg.data
  have heq : data = r.data := by
    unfold Process.indSmPayload at hpay
    split at hpay
    · cases hpay
    · rw [hdata, ← Except.ok.inj hpay]
  rw [hric, heq, ← hid] at hon
  have hmem := ((Sm.received_of_indication henc).mp hon).1
  have hfunc : r.sm.id = i.req.ricId.ranFuncId := by
    rw [hid, hg.about]
    rfl
  exact ⟨i.req.ricId, io, hg.made, hn ▸ hio, hfunc ▸ hmem, hfunc ▸ Sm.holds_iff_of_received hmem⟩

/-- The type of the data -/
def rdType : Sm.RdInd → SmAgIfRdInd
  | .mac _ => .macStatsV0
  | .rlc _ => .rlcStatsV0
  | .pdcp _ => .pdcpStatsV0
  | .slice _ => .sliceStatsV0
  | .tc _ => .tcStatsV0
  | .gtp _ => .gtpStatsV0

/-- The two xApps with the service models -/
def twoMonitors : Config (Fin 2) Sm.RdInd := { twoXapps with plugins := ⟨⟨rdType, fun _ => .ok ()⟩, Sm.onIndicationRic⟩ }

/-- What the MAC service model makes of what a RAN reads that has nothing to report. -/
def quietData : SmIndData := (Sm.onIndicationAg Sm.quietRan ⟨142, false⟩ 0).toOption.getD ⟨[], [], none⟩

/-- The step, with this data where it is one of a timer -/
def withData (data : SmIndData) : Act ι κ → Act ι κ
  | .agentPeriodic n fd _ => .agentPeriodic n fd data
  | a => a

/-- The callback of the first xApp was given what the gNB has read. -/
theorem statistics_of_run_two : ∃ as s d ricId io,
    (network Unit twoMonitors).Run (Reporting twoMonitors fun _ io => io = Sm.quietRan) as s ∧
      d ∈ (s.xapps 0).delivery.msgDisp.called ∧ ReadBy s (fun _ io => io = Sm.quietRan) 0 d ricId io := by
  have h : ((network Unit twoMonitors).exec (fun s a => Served twoMonitors s a ∧
      ∀ r ∈ s.report? a, (Sm.onIndicationAg Sm.quietRan r.sm r.actDef).toOption = some r.data)
      (network Unit twoMonitors).init (bothServed.map (withData quietData))).passes (fun s =>
        (s.xapps 0).delivery.msgDisp.called.head?.isSome) = true := by
    decide +kernel
  obtain ⟨s, hr, hs⟩ := System.exists_run_of_exec h
  have hr' : (network Unit twoMonitors).Run (Reporting twoMonitors fun _ io => io = Sm.quietRan) _ s :=
    hr.mono fun _ _ hg => ⟨hg.1, fun r hr => ⟨_, rfl, mem_toOption.mp (hg.2 r hr)⟩⟩
  obtain ⟨d, hd⟩ := Option.isSome_iff_exists.mp hs
  have hm := List.mem_of_mem_head? hd
  obtain ⟨ricId, io, hread⟩ := statistics_of_run twoXapps_apart rfl hr' 0 hm
  exact ⟨_, s, d, ricId, io, hr', hm, hread⟩

end Reports

end FlexRic.Net.Network
