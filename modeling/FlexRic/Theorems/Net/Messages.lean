import FlexRic.Theorems.Net.Owners

/-! # Messages of nodes, from the agent to the xApp

What the agents have sent is, for every xApp, on its way or received, once; and a message is on its way to the xApp
whose request it is about, under the identifiers of that request. -/

namespace FlexRic.Ric.Routing
open Ds E2ap Ep IApp

/-- The request with the identifiers -/
def owner (s : Routing) (id : RicGenId) : Option Issue := s.issued.find? fun i => i.ricId = id

/-- What an xApp shall be sent for a message of a node, and the address it shall be sent to -/
def forXapp (s : Routing) (m : NodeMsg) : Option (SctpInfo × NodeMsg) :=
  (s.owner m.ricId).map fun i => (i.info, answerToXapp i.entry.2 m)

section Owner
variable {cfg : Config} {s t : Routing} {a : Act} {id : RicGenId} {i : Issue} {as : List Act}

/-- As long as the identifiers last, there is one request for each. -/
theorem owner_eq_some (h : s.Ids) (hn : s.issued.length ≤ 64515) : s.owner id = some i ↔ i ∈ s.issued ∧ i.ricId = id := by
  constructor
  · intro hf
    exact ⟨List.mem_of_find?_eq_some hf, by simpa using List.find?_some hf⟩
  · rintro ⟨hi, rfl⟩
    cases hf : s.owner i.ricId with
    | none => exact absurd (decide_eq_true rfl) (List.find?_eq_none.mp hf i hi)
    | some j =>
      have hj : j.ricId = i.ricId := by simpa using List.find?_some hf
      have heq : j.id = i.id := congrArg RicGenId.ricReqId hj
      rw [List.inj_on_of_nodup_map (h.numbered.nodup hn) (List.mem_of_find?_eq_some hf) hi heq]

theorem owner_eq (hi : t.issued = s.issued) : t.owner id = s.owner id := by rw [owner, owner, hi]

/-- Every message that a node has sent is about a request. -/
theorem issue_of_fromNodes (h : (routing cfg).Run System.Any as s) {m : NodeMsg} (hm : m ∈ s.fromNodes) :
    ∃ i ∈ s.issued, m.ricId = i.ricId := by
  have hi := ids_of_run h
  rcases List.mem_append.mp ((conserved_of_run h).mem_iff.mp hm) with hm | hm
  · rcases List.mem_append.mp hm with hm | hm
    · exact hi.carried _ (.toRic hm)
    · obtain ⟨w, hw, rfl⟩ := List.mem_map.mp hm
      exact hi.carried _ (.worker hw)
  · obtain ⟨f, hf, rfl⟩ := List.mem_map.mp hm
    obtain ⟨i, his, hid, -⟩ := hi.sent f hf
    exact ⟨i, his, hid⟩

end Owner

end FlexRic.Ric.Routing

namespace FlexRic.Net.Network
open Agent Ds E2ap Ep IApp Ric XApp

variable {ι κ ρ : Type} {cfg : Config ι ρ} {s t : Network ι κ ρ} {a : Act ι κ}

/-! ### The identifiers last -/

/-- There is an identifier left for the next request. -/
def IdLeft (s : Network ι κ ρ) (a : Act ι κ) : Prop := a = .ric .takeId → s.ric.issued.length < 64515

instance (s : Network ι κ ρ) : ∀ a, Decidable (IdLeft s a)
  | .ric .takeId => decidable_of_iff (s.ric.issued.length < 64515) ⟨fun h _ => h, fun h => h rfl⟩
  | .setup .. | .xapp .. | .xappSend _ | .xappReceive .. | .iappReceive _ | .agent .. | .agentAperiodic ..
  | .agentPeriodic .. | .agentReceive .. => .isTrue nofun
  | .ric (.e42Setup ..) | .ric .register | .ric (.e42Request ..) | .ric (.e42Delete _) | .ric (.createTimer _) | .ric .arm
  | .ric .send | .ric .record | .ric (.nodeAnswer ..) | .ric (.nodeIndicate _) | .ric (.take _) | .ric (.rmFd _)
  | .ric (.lookup _) | .ric (.forward _) | .ric (.epoll _) | .ric .pendEvent => .isTrue nofun

section Issued
variable [DecidableEq ι]

theorem issued_of_step (hs : step cfg s a = .next t) (ha : a ≠ .ric .takeId) : t.ric.issued = s.ric.issued := by
  cases a with
  | setup x n => obtain ⟨-, rfl⟩ := setup_inv hs; rfl
  | xapp x a => obtain ⟨_, -, rfl⟩ := xapp_inv hs; rfl
  | xappSend x => obtain ⟨_, _, -, rfl⟩ := xappSend_inv hs; rfl
  | xappReceive x i => obtain ⟨_, _, _, -, -, -, rfl⟩ := xappReceive_inv hs; rfl
  | iappReceive i =>
    obtain ⟨info, msg, _, -, hr, rfl⟩ := iappReceive_inv hs
    exact Routing.issued_of_step hr (by cases msg <;> nofun)
  | ric a =>
    have hne : a ≠ .takeId := fun he => ha (he ▸ rfl)
    obtain ⟨_, hr, ⟨_, _, -, -, rfl⟩ | ⟨_, _, _, _, -, -, -, -, rfl⟩ | ⟨-, rfl⟩⟩ := ric_inv hs <;>
      exact Routing.issued_of_step hr hne
  | agent n a => obtain ⟨_, -, rfl⟩ := agent_inv hs; rfl
  | agentAperiodic n data => obtain ⟨_, _, -, rfl⟩ := agentAperiodic_inv hs; rfl
  | agentPeriodic n fd data => obtain ⟨_, _, -, rfl⟩ := agentPeriodic_inv hs; rfl
  | agentReceive n i k => obtain ⟨_, _, _, -, -, -, rfl⟩ := agentReceive_inv hs; rfl

theorem mem_issued_of_step (hs : step cfg s a = .next t) {i : Issue} (hi : i ∈ s.ric.issued) : i ∈ t.ric.issued := by
  by_cases ha : a = .ric .takeId
  · subst ha
    obtain ⟨ric, hr, ⟨_, _, he, -⟩ | ⟨_, _, _, _, he, -⟩ | ⟨-, rfl⟩⟩ := ric_inv hs
    · cases he
    · cases he
    · exact Routing.issued_mono hr hi
  · exact issued_of_step hs ha ▸ hi

variable {G : Network ι κ ρ → Act ι κ → Prop} {as : List (Act ι κ)}

theorem length_issued_of_run (hG : ∀ s a, G s a → IdLeft s a) (h : (network κ cfg).Run G as s) :
    s.ric.issued.length ≤ 64515 := by
  refine h.invariant (I := fun s => s.ric.issued.length ≤ 64515) (Nat.zero_le _) ?_
  intro s a t hi hg (hs : step cfg s a = .next t)
  by_cases ha : a = .ric .takeId
  · subst ha
    obtain ⟨ric, hr, ⟨_, _, he, -⟩ | ⟨_, _, _, _, he, -⟩ | ⟨-, rfl⟩⟩ := ric_inv hs
    · cases he
    · cases he
    · obtain ⟨_, _, -, rfl⟩ := Routing.takeId_inv hr
      exact hG _ _ hg rfl
  · rw [issued_of_step hs ha]
    exact hi

theorem owner_iff (hG : ∀ s a, G s a → IdLeft s a) (h : (network κ cfg).Run G as s) {id : RicGenId} {i : Issue} :
    s.ric.owner id = some i ↔ i ∈ s.ric.issued ∧ i.ricId = id :=
  Routing.owner_eq_some (ids_of_run h) (length_issued_of_run hG h)

theorem issue_of_fromNodes (h : (network κ cfg).Run G as s) {m : NodeMsg} (hm : m ∈ s.ric.fromNodes) :
    ∃ i ∈ s.ric.issued, m.ricId = i.ricId :=
  (ric_reachable h).elim fun _ hr => Routing.issue_of_fromNodes hr hm

end Issued

/-! ### What the agents have sent -/

/-- The request that the message is about names the node. -/
def ofNode (ric : Routing) (n : GlobalE2NodeId) (m : NodeMsg) : Bool :=
  (ric.owner m.ricId).any fun i => i.req.e2NodeId = n

/-- An agent knows of subscriptions that name its node, and the messages about requests that name a node are those that
the agent of the node has sent. -/
structure SentByAgents (s : Network ι κ ρ) : Prop where
  known : ∀ n id, (s.agents n).async.Knows id → ∃ i ∈ s.ric.issued, id = i.ricId ∧ i.req.e2NodeId = n
  sent : ∀ n, (s.ric.fromNodes.filter (ofNode s.ric n)).Perm (s.agents n).sent

theorem sentByAgents_init : (init cfg : Network ι κ ρ).SentByAgents := by
  refine ⟨fun n id ⟨_, hk⟩ => ?_, fun n => .refl _⟩
  cases hk with
  | left h => cases h
  | right h => cases h
  | queue h => cases h
  | pushing h => cases h
  | sending h => cases h

/-- A step in which no agent sends -/
theorem SentByAgents.move (h : s.SentByAgents) (hi : ∀ i ∈ s.ric.issued, i ∈ t.ric.issued)
    (hf : t.ric.fromNodes = s.ric.fromNodes) (ho : ∀ m ∈ s.ric.fromNodes, t.ric.owner m.ricId = s.ric.owner m.ricId)
    (hk : ∀ n id, (t.agents n).async.Knows id → (s.agents n).async.Knows id)
    (hs : ∀ n, (t.agents n).sent = (s.agents n).sent) : t.SentByAgents where
  known n id hid := by
    obtain ⟨i, his, hrest⟩ := h.known n id (hk n id hid)
    exact ⟨i, hi i his, hrest⟩
  sent n := by
    rw [hf, hs]
    refine .trans (.of_eq (List.filter_congr fun m hm => ?_)) (h.sent n)
    rw [ofNode, ofNode, ho m hm]

/-- A step in which the agent of the node sends a message about a request that names the node -/
theorem SentByAgents.add (h : s.SentByAgents) {n : GlobalE2NodeId} {p : Agent.Process} {ric : Routing} {m : NodeMsg}
    {i : Issue} (hi : ric.issued = s.ric.issued) (hf : ric.fromNodes = m :: s.ric.fromNodes)
    (hm : ric.owner m.ricId = some i) (hn : i.req.e2NodeId = n) (hp : p.sent = m :: (s.agents n).sent)
    (hk : ∀ id, p.async.Knows id → ∃ i ∈ s.ric.issued, id = i.ricId ∧ i.req.e2NodeId = n) :
    SentByAgents { s with ric, agents := Function.update s.agents n p } where
  known n' id hid := by
    dsimp only at hid ⊢
    rw [hi]
    rw [Function.update_apply] at hid
    split at hid
    · next he => exact he ▸ hk id hid
    · exact h.known n' id hid
  sent n' := by
    have hof : ∀ m', ofNode ric n' m' = ofNode s.ric n' m' := fun m' => by rw [ofNode, ofNode, Routing.owner_eq hi]
    have hold : s.ric.fromNodes.filter (ofNode ric n') = s.ric.fromNodes.filter (ofNode s.ric n') :=
      List.filter_congr fun m' _ => hof m'
    have hown : ofNode ric n' m = decide (n = n') := by
      rw [ofNode, hm, ← hn]
      rfl
    dsimp only
    rw [hf, Function.update_apply]
    split
    · next he =>
      subst he
      rw [List.filter_cons_of_pos (by rw [hown]; exact decide_eq_true rfl), hold, hp]
      exact (h.sent n').cons m
    · next he =>
      rw [List.filter_cons_of_neg (by rw [hown]; simpa using fun hh => he hh.symm), hold]
      exact h.sent n'

/-- What an agent keeps and has sent, after a step of another process -/
theorem agents_update {n : GlobalE2NodeId} {p : Agent.Process} {P : Agent.Process → Agent.Process → Prop} (hp : P p (s.agents n))
    (hrefl : ∀ q, P q q) (n' : GlobalE2NodeId) : P (Function.update s.agents n p n') (s.agents n') := by
  rw [Function.update_apply]
  split
  · next h => exact h ▸ hp
  · exact hrefl _

section Steps
variable [DecidableEq ι]

/-- Only the agents add to what the nodes have sent. -/
theorem SentByAgents.step (h : s.SentByAgents) (ha : s.ric.Asked) (hw : ∀ id i, s.ric.owner id = some i ↔ i ∈ s.ric.issued ∧ i.ricId = id)
    (ht : ∀ m ∈ s.ric.fromNodes, t.ric.owner m.ricId = s.ric.owner m.ricId) (hs : step cfg s a = .next t) :
    t.SentByAgents := by
  have hmem := fun i hi => mem_issued_of_step hs (i := i) hi
  cases a with
  | setup x n => obtain ⟨-, rfl⟩ := setup_inv hs; exact h.move hmem rfl ht (fun _ _ hk => hk) fun _ => rfl
  | xapp x a => obtain ⟨_, -, rfl⟩ := xapp_inv hs; exact h.move hmem rfl ht (fun _ _ hk => hk) fun _ => rfl
  | xappSend x => obtain ⟨_, _, -, rfl⟩ := xappSend_inv hs; exact h.move hmem rfl ht (fun _ _ hk => hk) fun _ => rfl
  | xappReceive x i =>
    obtain ⟨_, _, _, -, -, -, rfl⟩ := xappReceive_inv hs
    exact h.move hmem rfl ht (fun _ _ hk => hk) fun _ => rfl
  | iappReceive i =>
    obtain ⟨info, msg, ric, -, hr, rfl⟩ := iappReceive_inv hs
    exact h.move hmem (Routing.nodes_frame hr (by cases msg <;> rfl)).2 ht (fun _ _ hk => hk) fun _ => rfl
  | ric a =>
    obtain ⟨ric, hr, ⟨_, _, rfl, -, rfl⟩ | ⟨_, _, _, _, rfl, -, -, -, rfl⟩ | ⟨hin, rfl⟩⟩ := ric_inv hs
    · exact h.move hmem (Routing.nodes_frame hr rfl).2 ht (fun _ _ hk => hk) fun _ => rfl
    · exact h.move hmem (Routing.nodes_frame hr rfl).2 ht (fun _ _ hk => hk) fun _ => rfl
    · exact h.move hmem (Routing.nodes_frame hr (Act.ofNode_of_inner hin)).2 ht (fun _ _ hk => hk) fun _ => rfl
  | agent n a =>
    obtain ⟨p, hp, rfl⟩ := agent_inv hs
    obtain ⟨async, has, rfl, hmsg⟩ := Process.step_inv hp
    refine h.move hmem rfl ht (agents_update (P := fun p q => ∀ id, p.async.Knows id → q.async.Knows id) (fun id hk => ?_)
      fun _ _ hk => hk) (agents_update (P := fun p q => p.sent = q.sent) rfl fun _ => rfl)
    rcases AsyncEvents.knows_of_step has hk with hk | ⟨_, _, _, rfl, -⟩
    · exact hk
    · exact absurd rfl (hmsg _)
  | agentAperiodic n data =>
    obtain ⟨p, m, hp, rfl⟩ := agentAperiodic_inv hs
    obtain ⟨aiEv, async, hl, has, rfl, rfl⟩ := Process.sendAperiodic_inv hp
    obtain ⟨i, hi, hid, hn⟩ := h.known n _ ⟨_, .sending hl⟩
    refine h.add rfl rfl ((hw _ _).mpr ⟨hi, hid.symm⟩) hn rfl fun id hk => ?_
    rcases AsyncEvents.knows_of_step has hk with hk | ⟨_, _, _, he, -⟩
    · exact h.known n id hk
    · cases he
  | agentPeriodic n fd data =>
    obtain ⟨p, m, hp, rfl⟩ := agentPeriodic_inv hs
    obtain ⟨e, iEv, hf, rfl, rfl⟩ := Process.sendPeriodic_inv hp
    obtain ⟨i, hi, hid, hn⟩ := h.known n _ ⟨_, .left (AssocRbTree.mem_of_findIf hf).1⟩
    exact h.add rfl rfl ((hw _ _).mpr ⟨hi, hid.symm⟩) hn rfl fun id hk => h.known n id hk
  | agentReceive n i k =>
    obtain ⟨q, p, m, hq, rfl, hp, rfl⟩ := agentReceive_inv hs
    obtain ⟨-, hid, hsent, -⟩ := Process.handle_inv hp
    obtain ⟨j, hj, hask⟩ := ha.held q (.inr (List.mem_of_getElem? hq))
    refine h.add rfl rfl ((hw _ _).mpr ⟨hj, hask.ricId.symm.trans hid.symm⟩) hask.node.symm hsent fun id hk => ?_
    rcases Process.knows_of_handle hp hk with hk | ⟨-, rfl⟩
    · exact h.known _ id hk
    · exact ⟨j, hj, hask.ricId, hask.node.symm⟩

variable {G : Network ι κ ρ → Act ι κ → Prop} {as : List (Act ι κ)}

theorem sentByAgents_of_run (hG : ∀ s a, G s a → IdLeft s a) (h : (network κ cfg).Run G as s) : s.SentByAgents := by
  refine h.invariant_trace (I := fun _ s => s.SentByAgents) sentByAgents_init fun as s a t hr ih hg hs => ?_
  refine ih.step (asked_of_run hr) (fun id i => owner_iff hG hr) (fun m hm => ?_) hs
  obtain ⟨i, hi, hid⟩ := issue_of_fromNodes hr hm
  rw [(owner_iff hG hr).mpr ⟨hi, hid.symm⟩, (owner_iff hG (hr.snoc hg hs)).mpr ⟨mem_issued_of_step hs hi, hid.symm⟩]

end Steps

/-! ### What the xApps have received -/

/-- The messages of nodes among those for the xApps -/
def nodeMsgs (l : List (SctpInfo × XappMsg)) : List (SctpInfo × NodeMsg) :=
  l.filterMap fun e => e.2.node?.map fun m => (e.1, m)

theorem nodeMsgs_append (l l' : List (SctpInfo × XappMsg)) : nodeMsgs (l ++ l') = nodeMsgs l ++ nodeMsgs l' :=
  List.filterMap_append

theorem nodeMsgs_perm {l : List (SctpInfo × XappMsg)} {info : SctpInfo} {msg : XappMsg} {i : Nat} (h : l[i]? = some (info, msg)) :
    (nodeMsgs l).Perm ((msg.node?.map fun m => (info, m)).toList ++ nodeMsgs (l.eraseIdx i)) := by
  refine ((perm_eraseIdx h).filterMap _).trans ?_
  cases msg <;> exact .refl _

/-- What was forwarded to the address of an xApp is on its way to the xApp, or was received. -/
def Received (cfg : Config ι ρ) (s : Network ι κ ρ) : Prop :=
  ∀ x, (addressed (cfg.addr x) (s.ric.forwarded.map fun f => (f.info, f.sent))).Perm
    (addressed (cfg.addr x) (nodeMsgs s.toXapp) ++ (s.xapps x).received)

section Received
variable [DecidableEq ι]

omit [DecidableEq ι] in
/-- A step in which nothing is forwarded or received -/
theorem Received.move (h : Received cfg s) (hf : t.ric.forwarded = s.ric.forwarded) (hn : nodeMsgs t.toXapp = nodeMsgs s.toXapp)
    (hr : ∀ x, (t.xapps x).received = (s.xapps x).received) : Received cfg t := by
  intro x
  rw [hf, hn, hr]
  exact h x

theorem Received.step (h : Received cfg s) (hapart : Apart cfg) (hc : Connected cfg s) (hs : step cfg s a = .next t) :
    Received cfg t := by
  cases a with
  | setup x n => obtain ⟨-, rfl⟩ := setup_inv hs; exact h
  | xapp x a =>
    obtain ⟨p, hp, rfl⟩ := xapp_inv hs
    exact h.move rfl rfl (xapps_update Process.received (Process.step_cases hp).2.1)
  | xappSend x =>
    obtain ⟨p, msg, hp, rfl⟩ := xappSend_inv hs
    exact h.move rfl rfl (xapps_update Process.received (Process.send_frame hp).2)
  | xappReceive x i =>
    obtain ⟨info, msg, p, hi, hpeer, hp, rfl⟩ := xappReceive_inv hs
    obtain ⟨y, hy⟩ := hc.answers _ (List.mem_of_getElem? hi)
    dsimp only at hy
    obtain rfl := hapart y x (hy ▸ hpeer)
    subst hy
    intro z
    refine (h z).trans ?_
    have hperm := addressed_perm (k := cfg.addr z) (nodeMsgs_perm hi)
    rw [addressed_append] at hperm
    refine (hperm.append_right _).trans ?_
    dsimp only
    rw [Function.update_apply]
    split
    · next hzy =>
      subst hzy
      rw [Process.handle_received hp]
      cases msg with
      | setupResponse xappId => exact .refl _
      | node m =>
        show (addressed (cfg.addr z) [(cfg.addr z, m)] ++ _ ++ _).Perm (_ ++ m :: _)
        rw [addressed_cons_self]
        exact List.perm_middle.symm
    · next hzy =>
      have hnone : addressed (cfg.addr z) (msg.node?.map fun m => (cfg.addr y, m)).toList = [] := by
        cases msg with
        | setupResponse => rfl
        | node m => exact addressed_cons_ne fun he => hzy (hapart.injective he).symm
      rw [hnone]
      exact .refl _
  | iappReceive i =>
    obtain ⟨info, msg, ric, -, hr, rfl⟩ := iappReceive_inv hs
    refine h.move ?_ rfl fun _ => rfl
    cases msg with
    | setupRequest n => obtain ⟨-, rfl⟩ := Routing.e42Setup_inv hr; rfl
    | request req => obtain ⟨-, -, rfl⟩ := Routing.e42Request_inv hr; rfl
    | deleteRequest req => obtain ⟨-, _, -, rfl⟩ := Routing.e42Delete_inv hr; rfl
  | ric a =>
    obtain ⟨ric, hr, ⟨xappId, info, rfl, hl, rfl⟩ | ⟨j, m, xr, info, rfl, -, -, rfl, rfl⟩ | ⟨hin, rfl⟩⟩ := ric_inv hs
    · obtain ⟨_, _, _, -, -, rfl⟩ := Routing.register_inv hr
      refine h.move rfl ?_ fun _ => rfl
      rw [nodeMsgs_append]
      exact List.append_nil _
    · intro x
      dsimp only
      rw [List.map_cons, nodeMsgs_append, addressed_append, addressed_cons, List.append_assoc,
        show nodeMsgs [(info, XappMsg.node (answerToXapp xr m))] = [(info, answerToXapp xr m)] from rfl, addressed_singleton]
      exact ((h x).append_left _).trans (List.perm_append_comm_assoc ..)
    · exact h.move (Routing.inner_frame hr hin).2.2.1 rfl fun _ => rfl
  | agent n a => obtain ⟨_, -, rfl⟩ := agent_inv hs; exact h
  | agentAperiodic n data => obtain ⟨_, _, -, rfl⟩ := agentAperiodic_inv hs; exact h
  | agentPeriodic n fd data => obtain ⟨_, _, -, rfl⟩ := agentPeriodic_inv hs; exact h
  | agentReceive n i k => obtain ⟨_, _, _, -, -, -, rfl⟩ := agentReceive_inv hs; exact h

variable {G : Network ι κ ρ → Act ι κ → Prop} {as : List (Act ι κ)}

theorem received_of_run (hapart : Apart cfg) (h : (network κ cfg).Run G as s) : Received cfg s :=
  h.invariant_trace (I := fun _ s => Received cfg s) (fun _ => .refl _) fun _ _ _ _ hr hi _ hs =>
    hi.step hapart (connected_of_run hr hapart) hs

/-! ### From the agent to the xApp -/

/-- What was forwarded was sent to the address of the request. -/
theorem forXapp_of_forwarded (hapart : Apart cfg) (hG : ∀ s a, G s a → IdLeft s a) (h : (network κ cfg).Run G as s)
    {f : Forwarded} (hf : f ∈ s.ric.forwarded) : s.ric.forXapp f.source = some (f.info, f.sent) := by
  obtain ⟨bs, hr⟩ := ric_reachable h
  obtain ⟨i, hi, hid, hsent, hinfo⟩ := (ids_of_run h).sent f hf
  obtain ⟨x, hx, hxid⟩ := (owned_of_run h hapart).sender (i.info, i.req)
    (List.mem_append_right _ (List.mem_append_right _ (List.mem_map.mpr ⟨i, hi, rfl⟩)))
  have hreg := (connected_of_run h hapart).connected x _ hxid
  have heq := List.inj_on_of_nodup_map (Routing.xapps_nodup_of_run hr) hinfo hreg rfl
  dsimp only at hx
  rw [Routing.forXapp, (owner_iff hG h).mpr ⟨hi, hid.symm⟩, Option.map_some, hsent, (Prod.mk.inj heq).2, hx]

/-- What is on its way to the address: from a node, with a worker, and from the iApp -/
def onItsWay (s : Network ι κ ρ) (info : SctpInfo) : List NodeMsg :=
  addressed info ((s.ric.toRic ++ s.ric.workers.map Worker.msg).filterMap s.ric.forXapp) ++ addressed info (nodeMsgs s.toXapp)

/-- What the messages of the nodes come to. -/
structure MessageLaw (cfg : Config ι ρ) (s : Network ι κ ρ) : Prop where
  /-- What the nodes have sent about requests that name them is what their agents have sent. -/
  sent : ∀ n, (s.ric.fromNodes.filter (ofNode s.ric n)).Perm (s.agents n).sent
  /-- Every message is about a request that an xApp has made, at the node that the request names. -/
  owned : ∀ m ∈ s.ric.fromNodes, ∃ x i c, s.ric.owner m.ricId = some i ∧ i.info = cfg.addr x ∧
    (i.req.ricId, c) ∈ (s.xapps x).made ∧ c.asks = some (i.req.kind, i.req.e2NodeId)
  /-- What was sent about the requests of an xApp is on its way to it, or was received, each message once. -/
  received : ∀ x, (addressed (cfg.addr x) (s.ric.fromNodes.filterMap s.ric.forXapp)).Perm
    (s.onItsWay (cfg.addr x) ++ (s.xapps x).received)

/-- The request behind an identifier, as it was made -/
theorem made_of_issued (hapart : Apart cfg) (h : (network κ cfg).Run G as s) {i : Issue} (hi : i ∈ s.ric.issued) :
    ∃ x c, i.info = cfg.addr x ∧ (i.req.ricId, c) ∈ (s.xapps x).made ∧ c.asks = some (i.req.kind, i.req.e2NodeId) := by
  have hm : (i.info, i.req) ∈ s.requests :=
    List.mem_append_right _ (List.mem_append_right _ (List.mem_map.mpr ⟨i, hi, rfl⟩))
  have how := owned_of_run h hapart
  obtain ⟨x, hx, -⟩ := how.sender _ hm
  dsimp only at hx
  have ha := (how.asked x).mem_iff.mp (List.mem_map.mpr ⟨_, mem_addressed.mpr (hx ▸ hm), rfl⟩)
  obtain ⟨⟨id, c⟩, he, heq⟩ := Process.mem_asked ha
  obtain ⟨rfl, hc⟩ := Prod.mk.inj heq
  exact ⟨x, c, hx, he, hc⟩

/-- In every run in which the identifiers last. -/
theorem messageLaw_of_run (hapart : Apart cfg) (h : (network κ cfg).Run IdLeft as s) : MessageLaw cfg s where
  sent := (sentByAgents_of_run (fun _ _ => id) h).sent
  owned m hm := by
    obtain ⟨i, hi, hid⟩ := issue_of_fromNodes h hm
    obtain ⟨x, c, hx, hmade, hc⟩ := made_of_issued hapart h hi
    exact ⟨x, i, c, (owner_iff (fun _ _ => id) h).mpr ⟨hi, hid.symm⟩, hx, hmade, hc⟩
  received x := by
    obtain ⟨bs, hr⟩ := ric_reachable h
    have hfwd : (s.ric.forwarded.map Forwarded.source).filterMap s.ric.forXapp = s.ric.forwarded.map fun f => (f.info, f.sent) := by
      rw [List.filterMap_map, ← List.filterMap_eq_map]
      exact List.filterMap_congr fun f hf => forXapp_of_forwarded hapart (fun _ _ => id) h hf
    refine (addressed_perm ((Routing.conserved_of_run hr).filterMap _)).trans ?_
    rw [List.filterMap_append, addressed_append, hfwd, onItsWay, List.append_assoc]
    exact (received_of_run hapart h x).append_left _

end Received

/-- Both are connected, and each has sent a request for a subscription of its own. -/
def bothAsk : List (Act (Fin 2) Unit) :=
  [.setup 0 1, .setup 1 1, .iappReceive 1, .ric .register, .iappReceive 0, .ric .register, .xappReceive 0 1, .xappReceive 1 0,
    .xapp 0 (.call (.report gnb 142 (some ())) [1]), .xapp 1 (.call (.report gnb 142 (some ())) [2]),
    .xapp 0 (.register 7), .xappSend 0, .xapp 0 .wait, .xapp 1 (.register 7), .xappSend 1, .xapp 1 .wait]

/-- The iApp takes the request at the index, which is given a timer. -/
def takeRequest (i fd : Nat) : List (Act (Fin 2) Unit) :=
  [.iappReceive i, .ric .takeId, .ric (.createTimer fd), .ric .arm, .ric .send, .ric .record]

/-- The RIC forwards the first message of a node, the answer to a request. -/
def forwardAnswer : List (Act (Fin 2) Unit) := [.ric (.take 0), .ric (.rmFd 0), .ric (.lookup 0), .ric (.forward 0)]

/-- The request that was sent last is answered first, and an indication comes after the answers. -/
def bothServed : List (Act (Fin 2) Unit) :=
  bothAsk ++ takeRequest 1 9 ++ takeRequest 0 10 ++
    [.agentReceive gnb 1 ⟨⟨10, 0⟩, 11, []⟩, .agentReceive gnb 0 ⟨⟨10, 0⟩, 12, []⟩, .agentPeriodic gnb 11 ⟨[], [], none⟩] ++
    forwardAnswer ++ forwardAnswer ++ [.ric (.take 0), .ric (.lookup 0), .ric (.forward 0)] ++
    [.xappReceive 0 0, .xappReceive 1 0, .xapp 0 .signal, .xapp 0 .resume, .xapp 1 .signal, .xapp 1 .resume,
      .xappReceive 0 0, .xapp 0 .goOn, .xapp 0 .goOn, .xapp 0 .dispatcher, .xapp 0 .dispatcher]

/-- What has come of it in the end -/
theorem bothServed_run : ∃ s, (network Unit twoXapps).Run IdLeft bothServed s ∧ (s.ric.fromNodes.length = 3 ∧
    (s.xapps 0).received.length = 2 ∧ (s.xapps 1).received.length = 1) ∧
      (⟨.subscription, ⟨1, 0, 142⟩⟩, true) ∈ (s.xapps 0).returned ∧ (s.agents gnb).table.length = 2 := by
  have h : ((network Unit twoXapps).exec IdLeft (network Unit twoXapps).init bothServed).passes (fun s =>
      decide ((s.ric.fromNodes.length = 3 ∧ (s.xapps 0).received.length = 2 ∧ (s.xapps 1).received.length = 1) ∧
        (⟨.subscription, ⟨1, 0, 142⟩⟩, true) ∈ (s.xapps 0).returned ∧ (s.agents gnb).table.length = 2)) = true := by
    decide +kernel
  obtain ⟨s, hr, hs⟩ := System.exists_run_of_exec h
  exact ⟨s, hr, of_decide_eq_true hs⟩

theorem messageLaw_of_run_two : ∃ s, (network Unit twoXapps).Run IdLeft bothServed s ∧ s.ric.fromNodes.length = 3 ∧
    (s.xapps 0).received.length = 2 ∧ (s.xapps 1).received.length = 1 ∧ MessageLaw twoXapps s := by
  obtain ⟨s, hr, ⟨h₁, h₂, h₃⟩, -⟩ := bothServed_run
  exact ⟨s, hr, h₁, h₂, h₃, messageLaw_of_run twoXapps_apart hr⟩

end FlexRic.Net.Network
