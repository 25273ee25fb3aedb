import FlexRic.Theorems.Net.Messages
import FlexRic.Theorems.XApp.SyncAnswers

/-! # The iApp, the RIC and the agents answer every request once

A request that an xApp has sent is on its way to the iApp, with its loop, on its way to the node; then its answer is on
its way to the RIC or with a worker, until the iApp forwards it. It is in one of these places, once.

For the two threads of an xApp, whatever is behind the socket is a peer that answers every request once, whenever it
likes. So every xApp of the network runs through the states of `Xapp`: the requests that are open, wherever they are,
are those that the peer has not answered. -/

namespace FlexRic.Ric
open Ds E2ap Ep IApp XApp

namespace Routing

/-- The request of an xApp, of this kind, behind the identifiers, and the address that it came from -/
def ask (s : Routing) (kind : RequestKind) (id : RicGenId) : Option (SctpInfo × Request) :=
  (s.owner id).map fun i => (i.info, ⟨kind, i.req.ricId⟩)

theorem ask_of_owner {s : Routing} (kind : RequestKind) {id : RicGenId} {i : Issue} (h : s.owner id = some i) :
    s.ask kind id = some (i.info, ⟨kind, i.req.ricId⟩) := by rw [ask, h, Option.map_some]

/-- The request that a message of a node answers -/
def askAnswered (s : Routing) (m : NodeMsg) : Option (SctpInfo × Request) := m.answers?.bind fun kind => s.ask kind m.ricId

/-- The request that the loop gives an identifier next, as the xApp knows it -/
def stampingAsk (s : Routing) : List (SctpInfo × Request) :=
  (s.loop.stamping?.map fun e => (e.1, ⟨e.2.kind, e.2.ricId⟩)).toList

/-- The requests that the RIC has taken and no node has answered, by the addresses that they came from -/
def unanswered (s : Routing) : List (SctpInfo × Request) :=
  s.stampingAsk ++ (s.loop.request?.toList ++ s.toNode).filterMap fun q => s.ask q.kind q.ricId

/-- The requests whose answers the RIC has not forwarded -/
def answered (s : Routing) : List (SctpInfo × Request) := (s.toRic ++ s.workers.map Worker.msg).filterMap s.askAnswered

section Steps
variable {cfg : Config} {s t : Routing} {a : Act} {i : Issue}

/-- The identifiers that are carried have the owner that they had. -/
def KeepsOwners (s t : Routing) : Prop := ∀ id, s.Carries id → t.owner id = s.owner id

theorem KeepsOwners.ask (h : s.KeepsOwners t) {kind : RequestKind} {id : RicGenId} (hid : s.Carries id) :
    t.ask kind id = s.ask kind id := by rw [Routing.ask, Routing.ask, h id hid]

theorem KeepsOwners.askAnswered (h : s.KeepsOwners t) {m : NodeMsg} (hm : s.Carries m.ricId) :
    t.askAnswered m = s.askAnswered m := by
  unfold Routing.askAnswered
  cases m.answers? with
  | none => rfl
  | some kind => exact h.ask hm

/-- What the requests for the nodes are, when the owners are the same -/
theorem KeepsOwners.held (h : s.KeepsOwners t) {l : List NodeRequest} (hl : ∀ q ∈ l, s.Carries q.ricId) :
    l.filterMap (fun q => t.ask q.kind q.ricId) = l.filterMap fun q => s.ask q.kind q.ricId :=
  List.filterMap_congr fun q hq => h.ask (hl q hq)

theorem KeepsOwners.answers (h : s.KeepsOwners t) {l : List NodeMsg} (hl : ∀ m ∈ l, s.Carries m.ricId) :
    l.filterMap t.askAnswered = l.filterMap s.askAnswered := List.filterMap_congr fun m hm => h.askAnswered (hl m hm)

theorem carries_of_held {q : NodeRequest} (hq : q ∈ s.loop.request?.toList ++ s.toNode) : s.Carries q.ricId := by
  rcases List.mem_append.mp hq with hq | hq
  · exact .loop (Option.mem_toList.mp hq)
  · exact .toNode hq

theorem carries_of_answers {m : NodeMsg} (hm : m ∈ s.toRic ++ s.workers.map Worker.msg) : s.Carries m.ricId := by
  rcases List.mem_append.mp hm with hm | hm
  · exact .toRic hm
  · obtain ⟨w, hw, rfl⟩ := List.mem_map.mp hm
    exact .worker hw

/-- A step that moves requests, but for those that have no identifier yet -/
theorem unanswered_move (h : s.KeepsOwners t) (hst : t.stampingAsk = s.stampingAsk)
    (hq : (t.loop.request?.toList ++ t.toNode).Perm (s.loop.request?.toList ++ s.toNode)) :
    t.unanswered.Perm s.unanswered := by
  unfold unanswered
  rw [hst]
  exact ((hq.filterMap _).trans (.of_eq (h.held fun _ => carries_of_held))).append_left _

theorem answered_move (h : s.KeepsOwners t)
    (hm : (t.toRic ++ t.workers.map Worker.msg).Perm (s.toRic ++ s.workers.map Worker.msg)) : t.answered.Perm s.answered :=
  (hm.filterMap _).trans (.of_eq (h.answers fun _ => carries_of_answers))

/-- The inner steps keep both. -/
theorem open_of_inner (hs : step cfg s a = .next t) (ha : a.inner = true) (hk : s.KeepsOwners t)
    (hw : ∀ i, i ∈ t.issued → t.owner i.ricId = some i) : t.unanswered.Perm s.unanswered ∧ t.answered.Perm s.answered := by
  cases a with
  | e42Setup | register | e42Request | e42Delete | nodeAnswer | nodeIndicate | forward => cases ha
  | takeId =>
    obtain ⟨req, info, hl, rfl⟩ := takeId_inv hs
    refine ⟨.of_eq ?_, answered_move hk (.refl _)⟩
    have hid : stamp req.ricId s.freshId = Issue.ricId ⟨s.freshId, req, info⟩ := stamp_of_lt req.ricReqId_lt
    have hnew := ask_of_owner req.kind (hw ⟨s.freshId, req, info⟩ List.mem_cons_self)
    rw [← hid] at hnew
    have hheld := hk.held (l := s.toNode) fun q hq => .toNode hq
    unfold unanswered stampingAsk
    rw [hl]
    simp only [IappPc.stamping?, IappPc.request?, Option.map_none, Option.toList_none, List.nil_append, Option.toList_some,
      List.singleton_append, Option.map_some]
    rw [filterMap_cons_toList, hheld]
    dsimp only
    rw [hnew]
    rfl
  | createTimer fd =>
    obtain ⟨q, entry, hl, -, -, rfl⟩ := createTimer_inv hs
    refine ⟨unanswered_move hk (by rw [stampingAsk, stampingAsk, hl]; rfl) ?_, answered_move hk (.refl _)⟩
    rw [hl]
    exact .refl _
  | arm =>
    obtain ⟨q, fd, entry, hl, rfl⟩ := arm_inv hs
    refine ⟨unanswered_move hk (by rw [stampingAsk, stampingAsk, hl]; rfl) ?_, answered_move hk (.refl _)⟩
    rw [hl]
    exact .refl _
  | send =>
    obtain ⟨q, entry, hl, rfl⟩ := send_inv hs
    have hafter : (IappPc.afterSend entry).request? = none ∧ (IappPc.afterSend entry).stamping? = none := by
      cases entry <;> exact ⟨rfl, rfl⟩
    refine ⟨unanswered_move hk (by rw [stampingAsk, stampingAsk, hl]; exact congrArg _ (congrArg _ hafter.2)) ?_,
      answered_move hk (.refl _)⟩
    rw [hl, hafter.1]
    exact List.perm_append_singleton q s.toNode
  | record =>
    obtain ⟨entry, map, hl, -, rfl⟩ := record_inv hs
    refine ⟨unanswered_move hk (by rw [stampingAsk, stampingAsk, hl]; rfl) ?_, answered_move hk (.refl _)⟩
    rw [hl]
    exact .refl _
  | take i =>
    have move : ∀ {m : NodeMsg} {w : Worker}, s.toRic[i]? = some m → w.msg = m →
        (s.toRic.eraseIdx i ++ (w :: s.workers).map Worker.msg).Perm (s.toRic ++ s.workers.map Worker.msg) := by
      rintro m w hm rfl
      exact List.perm_middle.trans ((perm_eraseIdx hm).append_right _).symm
    obtain ⟨m, hm, ⟨_, fd, _, -, -, rfl⟩ | ⟨-, -, -, rfl⟩⟩ := take_inv hs
    · exact ⟨unanswered_move hk rfl (.refl _), answered_move hk (move (w := .stopping fd m) hm rfl)⟩
    · exact ⟨unanswered_move hk rfl (.refl _), answered_move hk (move (w := .looking m) hm rfl)⟩
  | rmFd j =>
    obtain ⟨fd, m, hj, rfl⟩ := rmFd_inv hs
    exact ⟨unanswered_move hk rfl (.refl _), answered_move hk ((((perm_set hj (.looking m)).map Worker.msg).trans
      ((perm_eraseIdx hj).map Worker.msg).symm).append_left _)⟩
  | lookup j =>
    obtain ⟨m, x, hj, -, -, -, -, rfl⟩ := lookup_inv hs
    exact ⟨unanswered_move hk rfl (.refl _), answered_move hk ((((perm_set hj (.forwarding m x)).map Worker.msg).trans
      ((perm_eraseIdx hj).map Worker.msg).symm).append_left _)⟩
  | epoll fds =>
    obtain ⟨-, -, rfl⟩ := epoll_inv hs
    exact ⟨unanswered_move hk rfl (.refl _), answered_move hk (.refl _)⟩
  | pendEvent =>
    obtain ⟨_, _, _, -, -, rfl⟩ := pendEvent_inv hs
    exact ⟨unanswered_move hk rfl (.refl _), answered_move hk (.refl _)⟩

/-- A deletion that the loop takes is unanswered from then on. -/
theorem unanswered_delete {req : E42DeleteRequest} (hs : step cfg s (.e42Delete req) = .next t) (hi : s.Ids)
    (hw : ∀ i, i ∈ s.issued → s.owner i.ricId = some i) : ∃ i ∈ s.issued, i.req.ricId = req.ricId ∧ i.req.xappId = req.xappId ∧
      t.unanswered = (i.info, ⟨.subscriptionDelete, req.ricId⟩) :: s.unanswered := by
  obtain ⟨hl, n, hn, rfl⟩ := e42Delete_inv hs
  obtain ⟨i, hm, rfl, hx⟩ := hi.issue_of_find hl hn
  obtain ⟨hid, hxapp⟩ := XappRicId.mk.inj hx
  refine ⟨i, hm, hid.symm, hxapp.symm, ?_⟩
  have hask : s.ask .subscriptionDelete { req.ricId with ricReqId := i.id } = some (i.info, ⟨.subscriptionDelete, req.ricId⟩) := by
    rw [hid]
    exact ask_of_owner _ (hw i hm)
  unfold unanswered stampingAsk
  rw [hl]
  simp only [IappPc.stamping?, IappPc.request?, Option.map_none, Option.toList_none, List.nil_append, Option.toList_some,
    List.singleton_append]
  rw [filterMap_cons_toList]
  exact congrArg (fun o : Option (SctpInfo × Request) => o.toList ++ _) hask

/-- A node that answers a request takes it from those that are unanswered to those that are answered. -/
theorem open_of_nodeAnswer {j : Nat} {m : NodeMsg} (hs : step cfg s (.nodeAnswer j m) = .next t) :
    ∃ q, s.toNode[j]? = some q ∧ s.unanswered.Perm ((s.ask q.kind q.ricId).toList ++ t.unanswered) ∧
      ((s.ask q.kind q.ricId).toList ++ s.answered).Perm t.answered := by
  obtain ⟨q, subscribed, hq, hkind, hid, -, rfl⟩ := nodeAnswer_inv hs
  have hask : s.askAnswered m = s.ask q.kind q.ricId := by rw [askAnswered, hkind, Option.bind_some, hid]
  refine ⟨q, hq, ?_, ?_⟩
  · refine ((((perm_eraseIdx hq).append_left _).filterMap _).append_left _).trans ?_
    rw [List.filterMap_append, filterMap_cons_toList]
    refine ((List.perm_append_comm_assoc ..).append_left _).trans ((List.perm_append_comm_assoc ..).trans (.of_eq ?_))
    rw [← List.filterMap_append]
    rfl
  · show (_ ++ (s.toRic ++ s.workers.map Worker.msg).filterMap s.askAnswered).Perm
      ((s.toRic ++ [m] ++ s.workers.map Worker.msg).filterMap s.askAnswered)
    simp only [List.filterMap_append, List.append_assoc]
    rw [show [m].filterMap s.askAnswered = (s.ask q.kind q.ricId).toList by
      rw [filterMap_cons_toList, hask]
      exact List.append_nil _]
    exact List.perm_append_comm_assoc ..

theorem open_of_nodeIndicate {m : RicIndication} (hs : step cfg s (.nodeIndicate m) = .next t) :
    t.unanswered = s.unanswered ∧ t.answered = s.answered := by
  obtain ⟨-, rfl⟩ := nodeIndicate_inv hs
  refine ⟨rfl, ?_⟩
  show ((s.toRic ++ [NodeMsg.indication m]) ++ s.workers.map Worker.msg).filterMap s.askAnswered = _
  unfold answered
  simp only [List.filterMap_append]
  exact congrArg (· ++ _) (List.append_nil _)

/-- What is forwarded is answered no longer: it is done. -/
theorem answered_forward {j : Nat} {m : NodeMsg} {x : XappRicId} {f : Forwarded} (hj : s.workers[j]? = some (.forwarding m x)) :
    s.answered.Perm ((s.askAnswered m).toList ++
      answered { s with workers := s.workers.eraseIdx j, forwarded := f :: s.forwarded }) := by
  have hw : (s.toRic ++ s.workers.map Worker.msg).Perm (m :: (s.toRic ++ (s.workers.eraseIdx j).map Worker.msg)) :=
    (((perm_eraseIdx hj).map Worker.msg).append_left _).trans List.perm_middle
  refine (hw.filterMap s.askAnswered).trans ?_
  rw [filterMap_cons_toList]
  exact .refl _

end Steps

end Routing

end FlexRic.Ric

namespace FlexRic.XApp.Xapp

/-- No more than one answer is on its way to an xApp. -/
theorem Inv.length_toXapp {X : Xapp} (h : X.Inv) : X.toXapp.length ≤ 1 := by
  cases hX : X.toXapp with
  | nil => exact Nat.zero_le _
  | cons b rest =>
    obtain ⟨rfl, -⟩ := h.onItsWay hX
    exact Nat.le_refl _

end FlexRic.XApp.Xapp

namespace FlexRic.Net.Network
open Agent Ds E2ap Ep IApp Ric XApp

variable {ι κ ρ : Type} {cfg : Config ι ρ} {s t : Network ι κ ρ} {a : Act ι κ} {x : ι}

/-! ### The open requests -/

/-- The requests that are on their way to the iApp, as their xApps know them -/
def queuedAsks (l : List (SctpInfo × E42Msg)) : List (SctpInfo × Request) :=
  l.filterMap fun e => e.2.request?.map fun r => (e.1, r)

/-- The requests that are sent and no node has answered, by the addresses of their xApps -/
def unanswered (s : Network ι κ ρ) : List (SctpInfo × Request) := queuedAsks s.toIapp ++ s.ric.unanswered

/-- The requests that are sent and whose answer is not forwarded -/
def openRequests (s : Network ι κ ρ) : List (SctpInfo × Request) := s.unanswered ++ s.ric.answered

/-- The request that an agent answers -/
def answeredAsk (s : Network ι κ ρ) : Act ι κ → List (SctpInfo × Request)
  | .agentReceive _ i _ => (s.ric.toNode[i]?.bind fun q => s.ric.ask q.kind q.ricId).toList
  | _ => []

/-- The requests behind an answer of a worker, which the iApp forwards -/
def forwardedAsk (s : Network ι κ ρ) : Act ι κ → List (SctpInfo × Request)
  | .ric (.forward j) =>
    match s.ric.workers[j]? with
    | some w => (s.ric.askAnswered w.msg).toList
    | none => []
  | _ => []

/-- The request that an xApp sends -/
def sentAsk (cfg : Config ι ρ) (s : Network ι κ ρ) : Act ι κ → List (SctpInfo × Request)
  | .xappSend x => ((s.xapps x).ui.request?.map fun r => (cfg.addr x, r)).toList
  | _ => []

theorem queuedAsks_append (l l' : List (SctpInfo × E42Msg)) : queuedAsks (l ++ l') = queuedAsks l ++ queuedAsks l' :=
  List.filterMap_append

theorem queuedAsks_perm {l : List (SctpInfo × E42Msg)} {info : SctpInfo} {msg : E42Msg} {i : Nat}
    (h : l[i]? = some (info, msg)) :
    (queuedAsks l).Perm ((msg.request?.map fun r => (info, r)).toList ++ queuedAsks (l.eraseIdx i)) := by
  refine ((perm_eraseIdx h).filterMap _).trans ?_
  cases msg <;> exact .refl _

section Steps
variable [DecidableEq ι] {G : Network ι κ ρ → Act ι κ → Prop} {as : List (Act ι κ)}

/-- The owner of what is carried, after a step -/
theorem keepsOwners_of_step (hG : ∀ s a, G s a → IdLeft s a) (h : (network κ cfg).Run G as s) (hg : G s a)
    (hs : step cfg s a = .next t) : s.ric.KeepsOwners t.ric := by
  intro id hid
  obtain ⟨i, hi, rfl⟩ := (ids_of_run h).carried id hid
  rw [(owner_iff hG h).mpr ⟨hi, rfl⟩, (owner_iff hG (h.snoc hg hs)).mpr ⟨mem_issued_of_step hs hi, rfl⟩]

/-- The address behind an identifier that an xApp was given -/
theorem addr_of_issued (hapart : Apart cfg) (h : (network κ cfg).Run G as s) {i : Issue} (hi : i ∈ s.ric.issued)
    (hid : (s.xapps x).id = some i.req.xappId) : i.info = cfg.addr x := by
  obtain ⟨bs, hr⟩ := ric_reachable h
  obtain ⟨y, hy, hyid⟩ := (owned_of_run h hapart).sender (i.info, i.req)
    (List.mem_append_right _ (List.mem_append_right _ (List.mem_map.mpr ⟨i, hi, rfl⟩)))
  have hconn := (connected_of_run h hapart).connected
  have heq := List.inj_on_of_nodup_map (Routing.xapps_nodup_of_run hr) (hconn x _ hid) (hconn y _ hyid) rfl
  exact hy.trans (Prod.mk.inj heq).2.symm

/-- What a step does to the open requests: an xApp sends one, an agent answers one, the iApp forwards the answer to one,
or they stay. -/
theorem open_of_step (hapart : Apart cfg) (hG : ∀ s a, G s a → IdLeft s a) (h : (network κ cfg).Run G as s)
    (hg : G s a) (hs : step cfg s a = .next t) :
    (sentAsk cfg s a ++ s.unanswered).Perm (answeredAsk s a ++ t.unanswered) ∧
      (answeredAsk s a ++ s.ric.answered).Perm (forwardedAsk s a ++ t.ric.answered) := by
  have hkeep := keepsOwners_of_step hG h hg hs
  have same : t.toIapp = s.toIapp → s.ric.unanswered.Perm t.ric.unanswered → s.ric.answered.Perm t.ric.answered →
      s.unanswered.Perm t.unanswered ∧ s.ric.answered.Perm t.ric.answered := by
    intro hq hu ha
    rw [unanswered, unanswered, hq]
    exact ⟨hu.append_left _, ha⟩
  cases a with
  | setup x n =>
    obtain ⟨-, rfl⟩ := setup_inv hs
    refine ⟨?_, .refl _⟩
    show s.unanswered.Perm (queuedAsks (s.toIapp ++ _) ++ _)
    rw [queuedAsks_append]
    exact .of_eq (congrArg (· ++ s.ric.unanswered) (List.append_nil _).symm)
  | xapp x a => obtain ⟨_, -, rfl⟩ := xapp_inv hs; exact same rfl (.refl _) (.refl _)
  | xappSend x =>
    obtain ⟨p, msg, hp, rfl⟩ := xappSend_inv hs
    obtain ⟨ap, hk⟩ := (orderly_of_run h x).kept
    obtain ⟨xappId, ui, -, rfl, ⟨-, hreq⟩, -⟩ := Process.send_inv (orderly_of_run h x).registers hk hp
    refine ⟨?_, .refl _⟩
    show (((s.xapps x).ui.request?.map _).toList ++ (queuedAsks s.toIapp ++ _)).Perm (queuedAsks (s.toIapp ++ _) ++ _)
    rw [queuedAsks_append, ← hreq, List.append_assoc]
    refine (List.perm_append_comm_assoc ..).trans (List.Perm.append_left _ ?_)
    cases msg <;> exact .refl _
  | xappReceive x i => obtain ⟨_, _, _, -, -, -, rfl⟩ := xappReceive_inv hs; exact same rfl (.refl _) (.refl _)
  | iappReceive i =>
    obtain ⟨info, msg, ric, hi, hr, rfl⟩ := iappReceive_inv hs
    have hmsg : ric.unanswered = (msg.request?.map fun r => (info, r)).toList ++ s.ric.unanswered ∧
        ric.answered = s.ric.answered := by
      cases msg with
      | setupRequest n =>
        obtain ⟨hl, rfl⟩ := Routing.e42Setup_inv hr
        refine ⟨?_, rfl⟩
        unfold Routing.unanswered Routing.stampingAsk
        rw [hl]
        rfl
      | request req =>
        obtain ⟨hl, -, rfl⟩ := Routing.e42Request_inv hr
        refine ⟨?_, rfl⟩
        unfold Routing.unanswered Routing.stampingAsk
        rw [hl]
        rfl
      | deleteRequest req =>
        obtain ⟨j, hj, hid, hxapp, hopen⟩ := Routing.unanswered_delete hr (ids_of_run h)
          fun i hi => (owner_iff hG h).mpr ⟨hi, rfl⟩
        obtain ⟨y, rfl, hyid⟩ := (owned_of_run h hapart).deletes _ _ (List.mem_of_getElem? hi)
        rw [hopen, addr_of_issued hapart h hj (hyid.trans (congrArg some hxapp.symm))]
        obtain ⟨-, _, -, rfl⟩ := Routing.e42Delete_inv hr
        exact ⟨rfl, rfl⟩
    refine ⟨?_, .of_eq hmsg.2.symm⟩
    show (queuedAsks s.toIapp ++ s.ric.unanswered).Perm (queuedAsks (s.toIapp.eraseIdx i) ++ ric.unanswered)
    rw [hmsg.1]
    refine ((queuedAsks_perm hi).append_right _).trans ?_
    rw [List.append_assoc]
    exact List.perm_append_comm_assoc ..
  | ric a =>
    obtain ⟨ric, hr, ⟨xappId, info, rfl, hl, rfl⟩ | ⟨j, m, xr, info, rfl, hj, -, rfl, rfl⟩ | ⟨hin, rfl⟩⟩ := ric_inv hs
    · obtain ⟨_, _, _, -, -, rfl⟩ := Routing.register_inv hr
      refine same rfl (.of_eq ?_) (.refl _)
      unfold Routing.unanswered Routing.stampingAsk
      rw [hl]
      rfl
    · refine ⟨.refl _, ?_⟩
      show s.ric.answered.Perm (_ ++ _)
      rw [forwardedAsk, hj]
      exact Routing.answered_forward hj
    · obtain ⟨hu, ha⟩ := Routing.open_of_inner hr hin hkeep fun i hi => (owner_iff hG (h.snoc hg hs)).mpr ⟨hi, rfl⟩
      cases a with
      | forward => cases hin
      | _ => exact same rfl hu.symm ha.symm
  | agent n a => obtain ⟨_, -, rfl⟩ := agent_inv hs; exact same rfl (.refl _) (.refl _)
  | agentAperiodic n data =>
    obtain ⟨p, m, hp, rfl⟩ := agentAperiodic_inv hs
    obtain ⟨aiEv, async, hl, -, rfl, rfl⟩ := Process.sendAperiodic_inv hp
    have hind := (known_of_run h).indicates cfg (n := n) (m := generateAindication data aiEv) ⟨_, .sending hl⟩
    obtain ⟨hu, ha⟩ := Routing.open_of_nodeIndicate hind
    exact same rfl (.of_eq hu.symm) (.of_eq ha.symm)
  | agentPeriodic n fd data =>
    obtain ⟨p, m, hp, rfl⟩ := agentPeriodic_inv hs
    obtain ⟨e, iEv, hf, rfl, rfl⟩ := Process.sendPeriodic_inv hp
    have hind := (known_of_run h).indicates cfg (n := n) (m := generateIndication data iEv) ⟨_, .left (AssocRbTree.mem_of_findIf hf).1⟩
    obtain ⟨hu, ha⟩ := Routing.open_of_nodeIndicate hind
    exact same rfl (.of_eq hu.symm) (.of_eq ha.symm)
  | agentReceive n i k =>
    obtain ⟨q, p, m, hq, rfl, hp, rfl⟩ := agentReceive_inv hs
    obtain ⟨hans, hid, -, -⟩ := Process.handle_inv hp
    have hstep : s.ric.step cfg.ric (.nodeAnswer i m) = .next (Network.answered s.ric i q m) := by
      simp only [Routing.step, hq, Outcome.ofOption, Outcome.next_bind, Outcome.await_of (And.intro hans hid)]
      rfl
    obtain ⟨q', hq', hu, ha⟩ := Routing.open_of_nodeAnswer hstep
    obtain rfl := Option.some.inj (hq.symm.trans hq')
    have hask : answeredAsk s (.agentReceive q.e2NodeId i k : Act ι κ) = (s.ric.ask q.kind q.ricId).toList := by
      rw [answeredAsk, hq]
      rfl
    rw [hask]
    exact ⟨(hu.append_left _).trans (List.perm_append_comm_assoc ..), ha⟩

theorem openRequests_of_step (hapart : Apart cfg) (hG : ∀ s a, G s a → IdLeft s a) (h : (network κ cfg).Run G as s)
    (hg : G s a) (hs : step cfg s a = .next t) :
    (sentAsk cfg s a ++ s.openRequests).Perm (forwardedAsk s a ++ t.openRequests) := by
  obtain ⟨hu, ha⟩ := open_of_step hapart hG h hg hs
  rw [openRequests, openRequests, ← List.append_assoc]
  refine (hu.append_right _).trans (.trans ?_ ((ha.append_left t.unanswered).trans (List.perm_append_comm_assoc ..)))
  rw [List.append_assoc]
  exact List.perm_append_comm_assoc ..

end Steps

/-! ### What an xApp sees of the network -/

/-- The answers for an xApp that have not arrived -/
def answersFor (s : Network ι κ ρ) (info : SctpInfo) : List Answer := (addressed info (nodeMsgs s.toXapp)).filterMap answer?

/-- How the two threads of an xApp see the network: their requests that are open, and the answers on their way. -/
structure Sees (cfg : Config ι ρ) (x : ι) (s : Network ι κ ρ) (X : Xapp) : Prop where
  threads : ∃ ap, (s.xapps x).Kept ap ∧ X = (s.xapps x).threads ap X.toIapp X.toXapp
  asked : X.toIapp.Perm (addressed (cfg.addr x) s.openRequests)
  answered : X.toXapp.Perm (s.answersFor (cfg.addr x))

variable {X : Xapp}

/-- A step that the threads do not see -/
theorem Sees.still (h : Sees cfg x s X) (hx : t.xapps x = s.xapps x)
    (ho : (addressed (cfg.addr x) s.openRequests).Perm (addressed (cfg.addr x) t.openRequests))
    (hn : t.answersFor (cfg.addr x) = s.answersFor (cfg.addr x)) : Sees cfg x t X :=
  ⟨hx.symm ▸ h.threads, h.asked.trans ho, hn.symm ▸ h.answered⟩

/-- The answer of a node, after the iApp's handler, is the reply to the request. -/
theorem answer?_answerToXapp {i : Issue} {m : NodeMsg} {kind : RequestKind} (hm : m.answers? = some kind)
    (hid : m.ricId = i.ricId) : ∃ failure, answer? (answerToXapp i.entry.2 m) = some (.reply ⟨kind, i.req.ricId⟩ failure) := by
  have hsub := ricId_answerToXapp hid
  cases m with
  | subscriptionResponse m =>
    obtain rfl := Option.some.inj hm
    exact ⟨none, congrArg (fun id => some (Answer.subscriptionResponse id)) hsub⟩
  | subscriptionDeleteResponse m =>
    obtain rfl := Option.some.inj hm
    exact ⟨none, rfl⟩
  | controlAcknowledge m =>
    obtain rfl := Option.some.inj hm
    exact ⟨none, rfl⟩
  | controlFailure m =>
    obtain rfl := Option.some.inj hm
    exact ⟨some m.cause, rfl⟩
  | indication m => cases hm

/-- What answers no request is not an answer after the iApp's handler either. -/
theorem answer?_of_not_answers {xr : XappRicId} {m : NodeMsg} (hm : m.answers? = none) :
    answer? (answerToXapp xr m) = none := by
  cases m with
  | indication => rfl
  | subscriptionResponse | subscriptionDeleteResponse | controlAcknowledge | controlFailure => cases hm

theorem answersFor_append (s : Network ι κ ρ) (info : SctpInfo) (e : SctpInfo × XappMsg) :
    answersFor { s with toXapp := s.toXapp ++ [e] } info =
      s.answersFor info ++ (addressed info (nodeMsgs [e])).filterMap answer? := by
  rw [answersFor, nodeMsgs_append, addressed_append, List.filterMap_append, answersFor]

/-- What a step shows of an xApp: what it was, or what a step of its threads leaves -/
def Shows (cfg : Config ι ρ) (x : ι) (X : Xapp) (t : Network ι κ ρ) : Prop :=
  Sees cfg x t X ∨ ∃ b X', XApp.xapp.step X b = .next X' ∧ Sees cfg x t X'

/-- An answer that another xApp receives was not for this one. -/
theorem answersFor_receive_other {y : ι} {msg : XappMsg} {i : Nat} (hi : s.toXapp[i]? = some (cfg.addr y, msg))
    (hne : cfg.addr y ≠ cfg.addr x) {xapps : ι → XApp.Process κ ρ} :
    (s.answersFor (cfg.addr x)).Perm
      (answersFor { s with xapps, toXapp := s.toXapp.eraseIdx i } (cfg.addr x)) := by
  refine ((addressed_perm (nodeMsgs_perm hi)).filterMap answer?).trans (.of_eq ?_)
  rw [addressed_append]
  cases msg with
  | setupResponse => rfl
  | node m =>
    show (addressed (cfg.addr x) [(cfg.addr y, m)] ++ _).filterMap answer? = _
    rw [addressed_cons_ne hne]
    rfl

/-- A worker forwards the answer to a request, to the xApp that has made it. -/
theorem Sees.answer (failure : Option Cause) {r : Request} (h : Sees cfg x s X)
    (hx : t.xapps x = s.xapps x)
    (hopen : (addressed (cfg.addr x) s.openRequests).Perm (r :: addressed (cfg.addr x) t.openRequests))
    (hans : t.answersFor (cfg.addr x) = s.answersFor (cfg.addr x) ++ [.reply r failure]) : Shows cfg x X t := by
  have hmem := (h.asked.trans hopen).mem_iff.mpr List.mem_cons_self
  obtain ⟨k, hk⟩ := List.getElem?_of_mem hmem
  obtain ⟨ap, hkept, hX'⟩ := h.threads
  refine .inr ⟨.answer k failure, { X with
    toIapp := X.toIapp.eraseIdx k, toXapp := X.toXapp ++ [.reply r failure] }, ?_, ⟨ap, ?_⟩, ?_, ?_⟩
  · show (Outcome.ofOption X.toIapp[k]? >>= _) = _
    rw [hk]
    rfl
  · rw [hx]
    exact ⟨hkept, by rw [hX']; rfl⟩
  · exact (List.perm_cons _).mp ((perm_eraseIdx hk).symm.trans (h.asked.trans hopen))
  · exact (h.answered.append_right _).trans (.of_eq hans.symm)

/-- The network after a worker has forwarded the message -/
def forwarded (s : Network ι κ ρ) (j : Nat) (m : NodeMsg) (xr : XappRicId) (info : SctpInfo) : Network ι κ ρ :=
  { s with
    ric := { s.ric with
      workers := s.ric.workers.eraseIdx j, forwarded := ⟨m, info, answerToXapp xr m⟩ :: s.ric.forwarded },
    toXapp := s.toXapp ++ [(info, .node (answerToXapp xr m))] }

section Follows
variable [DecidableEq ι]

/-- Whatever an xApp sends or does is a step of its threads, or none. -/
theorem Sees.process (h : Sees cfg x s X) {p : XApp.Process κ ρ} {a : ProcessAct κ}
    (hp : (s.xapps x).step cfg.plugins.agIf cfg.enable a = .next p) :
    Shows cfg x X { s with xapps := Function.update s.xapps x p } := by
  obtain ⟨ap, hk, hX⟩ := h.threads
  have hx : Function.update s.xapps x p x = p := Function.update_self ..
  rcases hk.step hp with ⟨b, ap', hk', hb⟩ | ⟨hk', hb⟩
  · refine .inr ⟨b, p.threads ap' X.toIapp X.toXapp, ?_, ⟨ap', ?_⟩, h.asked, h.answered⟩
    · rw [hX]
      exact hb _ _
    · dsimp only
      rw [hx]
      exact ⟨hk', rfl⟩
  · refine .inl ⟨⟨ap, ?_⟩, h.asked, h.answered⟩
    dsimp only
    rw [hx]
    exact ⟨hk', hX.trans (hb _ _).symm⟩

/-- An xApp that receives a message takes the only answer that is on its way, or no answer. -/
theorem Sees.receive (h : Sees cfg x s X) (hi : X.Inv) {p : XApp.Process κ ρ} {msg : XappMsg} {i : Nat}
    (hm : s.toXapp[i]? = some (cfg.addr x, msg)) (hp : (s.xapps x).handle cfg.plugins cfg.enable msg = .next p) :
    Shows cfg x X { s with xapps := Function.update s.xapps x p, toXapp := s.toXapp.eraseIdx i } := by
  obtain ⟨ap, hk, hX⟩ := h.threads
  have hx : Function.update s.xapps x p x = p := Function.update_self ..
  have hperm : (s.answersFor (cfg.addr x)).Perm ((msg.node?.bind answer?).toList ++
      answersFor { s with toXapp := s.toXapp.eraseIdx i } (cfg.addr x)) := by
    refine ((addressed_perm (nodeMsgs_perm hm)).filterMap answer?).trans (.of_eq ?_)
    rw [addressed_append, List.filterMap_append]
    cases msg with
    | setupResponse => rfl
    | node m =>
      show ((addressed (cfg.addr x) [(cfg.addr x, m)]).filterMap answer?) ++ _ = _
      rw [addressed_cons_self, filterMap_cons_toList]
      exact congrArg (· ++ _) (List.append_nil _)
  obtain ⟨hl, -, ⟨m', a, u, rfl, ha, hu, rfl⟩ | ⟨m', data, rd, d, rfl, -, -, hd, rfl⟩ | ⟨id, rfl, -, rfl⟩⟩ :=
    Process.handle_inv hp
  · -- The answer is the only one on its way.
    obtain ⟨hk', hstep⟩ := hk.handleAnswer hl hu
    rw [show (XappMsg.node m').node?.bind answer? = some a from ha] at hperm
    have hto := h.answered.trans hperm
    obtain ⟨hone, hnone⟩ := perm_cons_of_length_le_one hto hi.length_toXapp
    refine .inr ⟨.handle, u.threads ap X.toIapp [], ?_, ⟨ap, ?_⟩, h.asked, ?_⟩
    · rw [hX, hone]
      exact hstep X.toIapp []
    · dsimp only
      rw [hx]
      exact ⟨hk'.move rfl rfl, rfl⟩
    · exact .of_eq hnone.symm
  · refine .inl ⟨⟨ap, ?_⟩, h.asked, h.answered.trans hperm⟩
    dsimp only
    rw [hx]
    exact ⟨(hk.delivery (a := .receive _) nofun hd).move rfl rfl, hX⟩
  · refine .inl ⟨⟨ap, ?_⟩, h.asked, h.answered.trans hperm⟩
    dsimp only
    rw [hx]
    exact ⟨hk.move rfl rfl, hX⟩

variable {as : List (Act ι κ)} {bs : List XApp.Act} {y : ι}

/-- A step that neither sends a request of an xApp nor forwards an answer leaves its requests as they are. -/
theorem asked_still (hapart : Apart cfg) (hr : (network κ cfg).Run IdLeft as s) (hg : IdLeft s a)
    (hs : step cfg s a = .next t) (hsent : sentAsk cfg s a = []) (hfwd : forwardedAsk s a = []) :
    (addressed (cfg.addr x) s.openRequests).Perm (addressed (cfg.addr x) t.openRequests) := by
  have hopen := openRequests_of_step hapart (fun _ _ => id) hr hg hs
  rw [hsent, hfwd] at hopen
  exact addressed_perm hopen

theorem update_xapps_other {p : XApp.Process κ ρ} (hy : y ≠ x) : Function.update s.xapps y p x = s.xapps x :=
  Function.update_of_ne (Ne.symm hy) ..

/-- The request that an xApp sends is open from then on. -/
theorem Sees.xappSend (h : Sees cfg x s X) (hapart : Apart cfg) (hr : (network κ cfg).Run IdLeft as s)
    (hg : IdLeft s (.xappSend y)) (hs : step cfg s (.xappSend y) = .next t) : Shows cfg x X t := by
  have hopen := openRequests_of_step hapart (fun _ _ => id) hr hg hs
  obtain ⟨p, msg, hp, rfl⟩ := xappSend_inv hs
  by_cases hy : y = x
  · subst hy
    obtain ⟨ap, hk, hX'⟩ := h.threads
    obtain ⟨xappId, c, r, ui, -, -, hreq, -, -, -, rfl, hk', hstep⟩ := hk.send hp
    have hperm := addressed_perm (k := cfg.addr y) hopen
    rw [sentAsk, hreq] at hperm
    refine .inr ⟨.send, Process.threads { s.xapps y with ui } ap (X.toIapp ++ [r]) X.toXapp, ?_, ⟨ap, ?_⟩, ?_, h.answered⟩
    · rw [hX']
      exact hstep _ _
    · dsimp only
      rw [Function.update_self]
      exact ⟨hk', rfl⟩
    · refine (List.perm_append_singleton r X.toIapp).trans ((h.asked.cons r).trans (.trans (.of_eq ?_) hperm))
      exact addressed_cons_self.symm
  · have hother : addressed (cfg.addr x) (sentAsk cfg s (.xappSend y : Act ι κ)) = [] := by
      rw [sentAsk]
      cases (s.xapps y).ui.request? with
      | none => rfl
      | some r => exact addressed_cons_ne fun he => hy (hapart.injective he)
    refine .inl (h.still (update_xapps_other hy) ?_ rfl)
    have hperm := addressed_perm (k := cfg.addr x) hopen
    rw [addressed_append, hother] at hperm
    exact hperm

theorem Sees.xappReceive {i : Nat} (h : Sees cfg x s X) (hapart : Apart cfg) (hX : XApp.xapp.Run System.Any bs X)
    (hr : (network κ cfg).Run IdLeft as s) (hg : IdLeft s (.xappReceive y i))
    (hs : step cfg s (.xappReceive y i) = .next t) : Shows cfg x X t := by
  have hasked := asked_still (x := x) hapart hr hg hs rfl rfl
  obtain ⟨info, msg, p, hi, hpeer, hp, rfl⟩ := xappReceive_inv hs
  obtain ⟨z, hz⟩ := (connected_of_run hr hapart).answers _ (List.mem_of_getElem? hi)
  dsimp only at hz
  obtain rfl := hapart z y (hz ▸ hpeer)
  subst hz
  by_cases hy : z = x
  · subst hy
    exact h.receive (Xapp.inv_of_run hX) hi hp
  · refine .inl ⟨?_, h.asked.trans hasked, ?_⟩
    · dsimp only
      rw [update_xapps_other hy]
      exact h.threads
    · exact h.answered.trans (answersFor_receive_other hi fun he => hy (hapart.injective he))

/-- What a worker forwards goes to the address that the request came from. -/
theorem forwarded_info {j : Nat} {m : NodeMsg} {xr : XappRicId} {info : SctpInfo} (hapart : Apart cfg)
    (hr : (network κ cfg).Run IdLeft as s) (hg : IdLeft s (.ric (.forward j)))
    (hj : s.ric.workers[j]? = some (.forwarding m xr))
    (hs : step cfg s (.ric (.forward j)) = .next (forwarded s j m xr info)) :
    ∃ i, s.ric.owner m.ricId = some i ∧ m.ricId = i.ricId ∧ xr = i.entry.2 ∧ info = i.info := by
  obtain ⟨i, hi, hid, rfl⟩ := (ids_of_run hr).found m xr (List.mem_of_getElem? hj)
  have howner := (owner_iff (fun _ _ => id) hr).mpr ⟨hi, hid.symm⟩
  have hto := forXapp_of_forwarded hapart (fun _ _ => id) (hr.snoc hg hs) (f := ⟨m, info, answerToXapp i.entry.2 m⟩)
    List.mem_cons_self
  have hfor : s.ric.forXapp m = some (i.info, answerToXapp i.entry.2 m) := by
    rw [Routing.forXapp, howner]
    rfl
  exact ⟨i, howner, hid, rfl, (Prod.mk.inj (Option.some.inj (hto.symm.trans hfor))).1⟩

/-- What a worker forwards is the answer to the xApp that the request came from, or an indication. -/
theorem Sees.forward {j : Nat} {m : NodeMsg} {xr : XappRicId} {info : SctpInfo} (h : Sees cfg x s X) (hapart : Apart cfg)
    (hr : (network κ cfg).Run IdLeft as s) (hg : IdLeft s (.ric (.forward j)))
    (hj : s.ric.workers[j]? = some (.forwarding m xr))
    (hs : step cfg s (.ric (.forward j)) = .next (forwarded s j m xr info)) :
    Shows cfg x X (forwarded s j m xr info) := by
  obtain ⟨i, howner, hid, rfl, rfl⟩ := forwarded_info hapart hr hg hj hs
  have hans : (forwarded s j m i.entry.2 i.info).answersFor (cfg.addr x) = s.answersFor (cfg.addr x) ++ _ :=
    answersFor_append { s with ric := (forwarded s j m i.entry.2 i.info).ric } (cfg.addr x)
      (i.info, .node (answerToXapp i.entry.2 m))
  have hnode : nodeMsgs [(i.info, XappMsg.node (answerToXapp i.entry.2 m))] = [(i.info, answerToXapp i.entry.2 m)] := rfl
  rw [hnode, addressed_singleton] at hans
  have hwj : forwardedAsk s (.ric (.forward j) : Act ι κ) = (s.ric.askAnswered m).toList := by rw [forwardedAsk, hj]; rfl
  have hperm := addressed_perm (k := cfg.addr x) (openRequests_of_step hapart (fun _ _ => id) hr hg hs)
  rw [hwj, addressed_append, addressed_append] at hperm
  cases hm : m.answers? with
  | none =>
    rw [Routing.askAnswered, hm] at hperm
    refine .inl (h.still rfl hperm (hans.trans ?_))
    split
    · rw [filterMap_cons_toList, answer?_of_not_answers hm]
      exact List.append_nil _
    · exact List.append_nil _
  | some kind =>
    have hask : s.ric.askAnswered m = some (i.info, ⟨kind, i.req.ricId⟩) := by
      rw [Routing.askAnswered, hm]
      exact Routing.ask_of_owner kind howner
    obtain ⟨failure, hreply⟩ := answer?_answerToXapp hm hid
    rw [hask, Option.toList_some, addressed_singleton] at hperm
    by_cases hx : i.info = cfg.addr x
    · rw [if_pos hx] at hans hperm
      refine h.answer failure rfl hperm (hans.trans ?_)
      rw [filterMap_cons_toList, hreply]
      rfl
    · rw [if_neg hx] at hans hperm
      exact .inl (h.still rfl hperm (hans.trans (List.append_nil _)))

/-- A step of the RIC: the iApp registers an xApp, a worker forwards an answer, or the request stays where it is. -/
theorem Sees.ric {a : Ric.Act} (h : Sees cfg x s X) (hapart : Apart cfg) (hr : (network κ cfg).Run IdLeft as s)
    (hg : IdLeft s (.ric a)) (hs : step cfg s (.ric a) = .next t) : Shows cfg x X t := by
  obtain ⟨ric, -, ⟨xappId, info, rfl, -, rfl⟩ | ⟨j, m, xr, info, rfl, hj, -, rfl, rfl⟩ | ⟨hin, rfl⟩⟩ := ric_inv hs
  · refine .inl (h.still rfl (asked_still hapart hr hg hs rfl rfl) ?_)
    exact (answersFor_append { s with ric } (cfg.addr x) (info, .setupResponse xappId)).trans (List.append_nil _)
  · exact h.forward hapart hr hg hj hs
  · have hno : forwardedAsk s (.ric a : Act ι κ) = [] := by
      cases a with
      | forward => cases hin
      | _ => rfl
    exact .inl (h.still rfl (asked_still hapart hr hg hs rfl hno) rfl)

theorem Sees.step (h : Sees cfg x s X) (hapart : Apart cfg) (hX : XApp.xapp.Run System.Any bs X)
    (hr : (network κ cfg).Run IdLeft as s) (hg : IdLeft s a) (hs : step cfg s a = .next t) : Shows cfg x X t := by
  have still := asked_still (x := x) hapart hr hg hs
  cases a with
  | setup y n => obtain ⟨-, rfl⟩ := setup_inv hs; exact .inl (h.still rfl (still rfl rfl) rfl)
  | xapp y a =>
    obtain ⟨p, hp, rfl⟩ := xapp_inv hs
    by_cases hy : y = x
    · subst hy
      exact h.process hp
    · exact .inl (h.still (update_xapps_other hy) (still rfl rfl) rfl)
  | xappSend y => exact h.xappSend hapart hr hg hs
  | xappReceive y i => exact h.xappReceive hapart hX hr hg hs
  | iappReceive i => obtain ⟨_, _, _, -, -, rfl⟩ := iappReceive_inv hs; exact .inl (h.still rfl (still rfl rfl) rfl)
  | ric a => exact h.ric hapart hr hg hs
  | agent n a => obtain ⟨_, -, rfl⟩ := agent_inv hs; exact .inl (h.still rfl (still rfl rfl) rfl)
  | agentAperiodic n data => obtain ⟨_, _, -, rfl⟩ := agentAperiodic_inv hs; exact .inl (h.still rfl (still rfl rfl) rfl)
  | agentPeriodic n fd data => obtain ⟨_, _, -, rfl⟩ := agentPeriodic_inv hs; exact .inl (h.still rfl (still rfl rfl) rfl)
  | agentReceive n i k => obtain ⟨_, _, _, -, -, -, rfl⟩ := agentReceive_inv hs; exact .inl (h.still rfl (still rfl rfl) rfl)

/-- For each xApp, the network behaves like a peer that answers every request once. -/
theorem follows_xapp (hapart : Apart cfg) (x : ι) :
    System.Follows (network κ cfg) IdLeft XApp.xapp System.Any (Sees cfg x) where
  init := ⟨⟨.init, Process.kept_init, rfl⟩, .refl _, .refl _⟩
  step as s a t bs X hr hX h hg hs := by
    rcases h.step hapart hX hr hg hs with hsee | ⟨b, X', hb, hsee⟩
    · exact .inl hsee
    · exact .inr ⟨b, X', trivial, hb, hsee⟩

end Follows

end FlexRic.Net.Network
