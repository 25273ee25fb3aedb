import FlexRic.Theorems.Ric.ConnectionSteps

/-! # Shutdowns and setup requests that are handled at the same time

A shutdown finds its node in all three registries when the worker that sets the node up is far enough: the
address has to be registered when the shutdown arrives, and the node to be in `conn_e2_nodes` when its handler
gets there. Nothing makes the event loop wait for either. -/

namespace FlexRic.Ric
open Ds E2ap Ep MsgHand IApp XApp

namespace Connections

/-- The node that the worker has yet to put into `conn_e2_nodes`. -/
def Worker.unconnected? : Worker → Option GlobalE2NodeId
  | .adding req _ => some req.id
  | .connecting id _ _ => some id
  | _ => none

/-- The node that the worker has yet to add to the iApp's registry. -/
def Worker.unadded? : Worker → Option GlobalE2NodeId
  | .adding req _ => some req.id
  | _ => none

/-- The node that a shutdown has yet to erase from `conn_e2_nodes`. -/
def RicLoop.erasing? : RicLoop → Option GlobalE2NodeId
  | .erasing id => some id
  | _ => none

/-- The node that a shutdown has yet to remove from the iApp's registry. -/
def RicLoop.removing? : RicLoop → Option GlobalE2NodeId
  | .erasing id | .removing id => some id
  | _ => none

/-- The node of a queued request, and its address. -/
def entryOf (q : E2SetupRequest × SctpInfo) : GlobalE2NodeId × SctpInfo := (q.1.id, q.2)

/-- Every node that is connected is in each registry, or on its way there; every node that is not is in none,
or on its way out. `es` is what `ep.e2_nodes` holds. -/
structure Conserved (s : Connections) (es : Connected) : Prop where
  holds : s.reg.e2Nodes.Holds es
  live : s.live.Perm (es ++ s.queued.map entryOf)
  conn : (s.live.map Prod.fst ++ s.loop.erasing?.toList).Perm
    (s.reg.connIds ++ (s.queued.map (·.1.id) ++ s.workers.filterMap Worker.unconnected?))
  iapp : (s.live.map Prod.fst ++ s.loop.removing?.toList).Perm
    (ids s.reg.iappE2Nodes ++ (s.queued.map (·.1.id) ++ s.workers.filterMap Worker.unadded?))
  nodup : (s.live.map Prod.fst ++ s.loop.removing?.toList).Nodup
  peers : PeersApart s.live

/-- What the nodes keep to: a node sets up, from an address, when neither is connected, and it shuts down from
the same address. -/
def Admitted (s : Connections) : Act → Prop
  | .setupArrives req info => ∀ e ∈ s.live, e.1 ≠ req.id ∧ ¬info.SamePeer e.2
  | .shutdownArrives info => ∃ e ∈ s.live, info.SamePeer e.2 ∧ SameTail info e.2
  | _ => True

/-- The shutdown handler is not ahead of the worker that sets its node up. -/
def InTime (s : Connections) : Act → Prop
  | .shutdownArrives info => ∀ q ∈ s.queued, ¬info.SamePeer q.2
  | .erase => ∀ w ∈ s.workers, ∀ id, w.unconnected? = some id → s.loop ≠ .erasing id
  | _ => True

section Conserved
variable {plugins : List Nat} {s t : Connections} {es : Connected} {a : Act} {id : GlobalE2NodeId} {info : SctpInfo}

theorem conserved_init : init.Conserved [] := ⟨BiMap.holds_init, .refl _, .refl _, .refl _, .nil, .nil⟩

theorem Conserved.live_nodup (h : s.Conserved es) : (s.live.map Prod.fst).Nodup :=
  (List.nodup_append.mp h.nodup).1

/-- The steps that leave the registries and the way to them alone. -/
theorem Conserved.frame (h : s.Conserved es) (hr : t.reg = s.reg) (hq : t.queued = s.queued) (hl : t.live = s.live)
    (he : t.loop.erasing? = s.loop.erasing?) (hm : t.loop.removing? = s.loop.removing?)
    (hc : (t.workers.filterMap Worker.unconnected?).Perm (s.workers.filterMap Worker.unconnected?))
    (ha : (t.workers.filterMap Worker.unadded?).Perm (s.workers.filterMap Worker.unadded?)) : t.Conserved es where
  holds := by rw [hr]; exact h.holds
  live := by rw [hl, hq]; exact h.live
  conn := by rw [hl, he, hr, hq]; exact h.conn.trans ((hc.symm.append_left _).append_left _)
  iapp := by rw [hl, hm, hr, hq]; exact h.iapp.trans ((ha.symm.append_left _).append_left _)
  nodup := by rw [hl, hm]; exact h.nodup
  peers := by rw [hl]; exact h.peers

theorem Conserved.leftKeys (h : s.Conserved es) : BiMap.LeftKeys globalE2NodeIdOrder es := by
  have hn : ((es ++ s.queued.map entryOf).map Prod.fst).Nodup := (h.live.map _).nodup_iff.mp h.live_nodup
  rw [List.map_append] at hn
  rw [BiMap.LeftKeys]
  simp only [same_globalE2NodeId]
  exact List.pairwise_map.mp (List.nodup_append.mp hn).1

theorem Conserved.peersApart (h : s.Conserved es) : PeersApart es :=
  (List.pairwise_append.mp (h.peers.perm h.live)).1

/-- What a shutdown takes out of `ep.e2_nodes`, when the address of its node is there. -/
theorem Conserved.rmSockAddr (h : s.Conserved es) (ha : s.Admitted (.shutdownArrives info))
    (hi : s.InTime (.shutdownArrives info)) : ∃ e rest m, es.Perm (e :: rest) ∧ info.SamePeer e.2 ∧ m.Holds rest ∧
      s.reg.rmSockAddr info = .ok (e.1, { s.reg with e2Nodes := m }) := by
  rcases rmSockAddr_cases h.holds h.leftKeys h.peersApart info with ⟨hn, -⟩ | ⟨e, rest, m, hp, hpeer, -, hm, hr⟩
  · obtain ⟨e, he, hpeer, htail⟩ := ha
    rcases List.mem_append.mp (h.live.mem_iff.mp he) with he | he
    · exact absurd htail (hn e he hpeer)
    · obtain ⟨q, hq, rfl⟩ := List.mem_map.mp he
      exact absurd hpeer (hi q hq)
  · exact ⟨e, rest, m, hp, hpeer, hm, hr⟩

theorem Conserved.setupArrives {req : E2SetupRequest} (h : s.Conserved es) (hl : s.loop = .idle)
    (ha : s.Admitted (.setupArrives req info)) :
    ({ s with queued := s.queued ++ [(req, info)], live := (req.id, info) :: s.live } : Connections).Conserved es where
  holds := h.holds
  live := by
    refine (h.live.cons _).trans ?_
    rw [List.map_append, ← List.append_assoc]
    exact (List.perm_append_singleton ..).symm
  conn := by
    refine List.perm_iff_count.mpr fun id => ?_
    have hc := h.conn.count_eq id
    simp only [List.map_cons, List.map_append, List.map_nil, List.cons_append, List.count_append, List.count_cons,
      List.count_nil] at hc ⊢
    omega
  iapp := by
    refine List.perm_iff_count.mpr fun id => ?_
    have hc := h.iapp.count_eq id
    simp only [List.map_cons, List.map_append, List.map_nil, List.cons_append, List.count_append, List.count_cons,
      List.count_nil] at hc ⊢
    omega
  nodup := by
    have hn := h.nodup
    simp only [hl, RicLoop.removing?, Option.toList, List.append_nil] at hn ⊢
    refine List.nodup_cons.mpr ⟨?_, hn⟩
    intro hm
    obtain ⟨e, he, hid⟩ := List.mem_map.mp hm
    exact (ha e he).1 hid
  peers := List.pairwise_cons.mpr ⟨fun e he => (ha e he).2, h.peers⟩

theorem Conserved.shutdownArrives (h : s.Conserved es) (hl : s.loop = .idle) (ha : s.Admitted (.shutdownArrives info))
    (hi : s.InTime (.shutdownArrives info)) {reg : Registries} (hr : s.reg.rmSockAddr info = .ok (id, reg)) :
    ∃ rest, ({ s with reg, loop := .erasing id, live := s.live.filter fun e => ¬info.SamePeer e.2 } :
      Connections).Conserved rest := by
  obtain ⟨e, rest, m, hp, hpeer, hm, he⟩ := h.rmSockAddr ha hi
  obtain ⟨rfl, rfl⟩ : e.1 = id ∧ { s.reg with e2Nodes := m } = reg := by
    rw [he] at hr
    exact Prod.mk.inj (Except.ok.inj hr)
  have hlive := h.live.trans (hp.append_right _)
  have hrest := filter_peer h.peers hlive hpeer
  have hids : (s.live.map Prod.fst).Perm
      (e.1 :: (s.live.filter fun e => ¬info.SamePeer e.2).map Prod.fst) := (hlive.map _).trans ((hrest.map _).cons _)
  -- The node moves from the connected ones to the one that the handler takes out.
  have hmove : (s.live.map Prod.fst ++ s.loop.erasing?.toList).Perm
      ((s.live.filter fun e => ¬info.SamePeer e.2).map Prod.fst ++ [e.1]) := by
    rw [hl]
    exact ((hids.append_right _).trans (by simp [RicLoop.erasing?])).trans (List.perm_append_singleton ..).symm
  have hmove' : (s.live.map Prod.fst ++ s.loop.removing?.toList).Perm
      ((s.live.filter fun e => ¬info.SamePeer e.2).map Prod.fst ++ [e.1]) := by
    rw [hl] at hmove ⊢
    exact hmove
  exact ⟨rest, {
    holds := hm
    live := hrest.symm
    conn := hmove.symm.trans h.conn
    iapp := hmove'.symm.trans h.iapp
    nodup := hmove'.nodup_iff.mp h.nodup
    peers := h.peers.filter _ }⟩

theorem Conserved.erase (h : s.Conserved es) (hl : s.loop = .erasing id) {reg : Registries}
    (hr : s.reg.eraseE2Node id = .ok reg) : ({ s with reg, loop := .removing id } : Connections).Conserved es := by
  have hp := connIds_eraseE2Node hr
  obtain ⟨-, rfl⟩ := eraseE2Node_eq_ok.mp hr
  refine { h with conn := ?_, iapp := ?_, nodup := ?_ }
  · refine List.perm_iff_count.mpr fun id' => ?_
    have hc := h.conn.count_eq id'
    have hc' := hp.count_eq id'
    simp only [hl, RicLoop.erasing?, Option.toList, List.append_nil, List.count_append, List.count_cons,
      List.count_nil] at hc hc' ⊢
    omega
  · have hi := h.iapp
    rw [hl] at hi
    exact hi
  · have hn := h.nodup
    rw [hl] at hn
    exact hn

theorem Conserved.remove (h : s.Conserved es) (hl : s.loop = .removing id) {reg : Registries}
    (hr : s.reg.rmE2NodeIapp id = .ok reg) :
    ({ s with reg, loop := .notifying .counting } : Connections).Conserved es := by
  obtain ⟨i, hi, rfl⟩ := rmE2NodeIapp_eq_ok.mp hr
  refine { h with conn := ?_, iapp := ?_, nodup := ?_ }
  · have hc := h.conn
    rw [hl] at hc
    exact hc
  · refine List.perm_iff_count.mpr fun id' => ?_
    have hc := h.iapp.count_eq id'
    have hc' := (ids_rmRegE2Node hi).count_eq id'
    simp only [hl, RicLoop.removing?, Option.toList, List.append_nil, List.count_append, List.count_cons,
      List.count_nil] at hc hc' ⊢
    omega
  · simpa [RicLoop.removing?] using h.live_nodup

theorem Conserved.regSockAddr {req : E2SetupRequest} {i : Nat} (h : s.Conserved es)
    (hq : s.queued[i]? = some (req, info)) : ({ s with
      reg := s.reg.regSockAddr req.id info
      queued := s.queued.eraseIdx i
      workers := .adding req info :: s.workers } : Connections).Conserved ((req.id, info) :: es) := by
  have hids := (perm_eraseIdx hq).map (·.1.id)
  refine { h with holds := h.holds.insert _ _, live := ?_, conn := ?_, iapp := ?_ }
  · refine h.live.trans ((((perm_eraseIdx hq).map entryOf).append_left _).trans ?_)
    exact List.perm_middle
  · refine h.conn.trans (List.perm_iff_count.mpr fun id => ?_)
    have hc := hids.count_eq id
    simp only [Registries.connIds, Registries.regSockAddr, List.map_cons, List.filterMap_cons, Worker.unconnected?,
      List.count_append, List.count_cons] at hc ⊢
    omega
  · refine h.iapp.trans (List.perm_iff_count.mpr fun id => ?_)
    have hc := hids.count_eq id
    simp only [Registries.regSockAddr, List.map_cons, List.filterMap_cons, Worker.unadded?, List.count_append,
      List.count_cons] at hc ⊢
    omega

theorem Conserved.addE2Node {req : E2SetupRequest} {j : Nat} {reg : Registries} {ans : E2SetupResponse}
    (h : s.Conserved es) (hj : s.workers[j]? = some (.adding req info)) (hr : s.reg.addE2NodeIapp req = .ok reg) :
    ({ s with reg, workers := s.workers.set j (.connecting req.id ans info) } : Connections).Conserved es := by
  obtain ⟨-, -, rfl⟩ := addE2NodeIapp_eq_ok.mp hr
  have hu : ((s.workers.set j (.connecting req.id ans info)).filterMap Worker.unconnected?).Perm
      (s.workers.filterMap Worker.unconnected?) := filterMap_set hj rfl
  refine { h with conn := h.conn.trans ((hu.symm.append_left _).append_left _), iapp := ?_ }
  refine h.iapp.trans (List.perm_iff_count.mpr fun id => ?_)
  have hw := ((perm_eraseIdx hj).filterMap Worker.unadded?).count_eq id
  have hw' := ((perm_set hj (.connecting req.id ans info)).filterMap Worker.unadded?).count_eq id
  have hc := (ids_insert (r := s.reg.iappE2Nodes) req.id req.ranFuncItem).count_eq id
  simp only [List.filterMap_cons, Worker.unadded?, List.count_append, List.count_cons] at hw hw' hc ⊢
  omega

theorem Conserved.connect {j : Nat} {ans : E2SetupResponse} (h : s.Conserved es)
    (hj : s.workers[j]? = some (.connecting id ans info)) : ({ s with
      reg.connE2Nodes := s.reg.connE2Nodes ++ [initE2Node id ans.accepted]
      workers := s.workers.set j (.notifying ans info .counting) } : Connections).Conserved es := by
  have hu : ((s.workers.set j (.notifying ans info .counting)).filterMap Worker.unadded?).Perm
      (s.workers.filterMap Worker.unadded?) := filterMap_set hj rfl
  refine { h with iapp := h.iapp.trans ((hu.symm.append_left _).append_left _), conn := ?_ }
  refine h.conn.trans (List.perm_iff_count.mpr fun id' => ?_)
  have hw := ((perm_eraseIdx hj).filterMap Worker.unconnected?).count_eq id'
  have hw' := ((perm_set hj (.notifying ans info .counting)).filterMap Worker.unconnected?).count_eq id'
  simp only [Registries.connIds, initE2Node, List.map_append, List.map_cons, List.map_nil, List.filterMap_cons,
    Worker.unconnected?, List.count_append, List.count_cons, List.count_nil] at hw hw' ⊢
  omega

theorem Conserved.setNotice {who : Notifier} {m : Notice} (h : s.Conserved es) (hn : s.notice? who = some m)
    (n : Option Notice) : (s.setNotice n who).Conserved es := by
  rcases setNotice_cases hn with ⟨j, ans, inf, -, hj, he⟩ | ⟨-, hl, he⟩
  · rw [he]
    refine h.frame rfl rfl rfl rfl rfl (filterMap_set hj ?_) (filterMap_set hj ?_) <;> cases n <;> rfl
  · rw [he]
    refine h.frame rfl rfl rfl ?_ ?_ (.refl _) (.refl _) <;> rw [hl] <;> cases n <;> rfl

theorem Conserved.step (h : s.Conserved es) (ha : s.Admitted a) (hi : s.InTime a)
    (hs : Connections.step plugins s a = .next t) : ∃ es', t.Conserved es' := by
  cases a with
  | setupArrives req info =>
    obtain ⟨hl, rfl⟩ := setupArrives_inv hs
    exact ⟨es, h.setupArrives hl ha⟩
  | shutdownArrives info =>
    obtain ⟨hl, id, reg, hr, rfl⟩ := shutdownArrives_inv hs
    exact h.shutdownArrives hl ha hi hr
  | erase =>
    obtain ⟨id, reg, hl, -, hr, rfl⟩ := erase_inv hs
    exact ⟨es, h.erase hl hr⟩
  | remove =>
    obtain ⟨id, reg, hl, hr, rfl⟩ := remove_inv hs
    exact ⟨es, h.remove hl hr⟩
  | regSockAddr i =>
    obtain ⟨req, info, hq, rfl⟩ := regSockAddr_inv hs
    exact ⟨_, h.regSockAddr hq⟩
  | addE2Node j =>
    obtain ⟨req, info, reg, ans, hj, hr, -, rfl⟩ := addE2Node_inv hs
    exact ⟨es, h.addE2Node hj hr⟩
  | connect j =>
    obtain ⟨id, ans, info, hj, -, rfl⟩ := connect_inv hs
    exact ⟨es, h.connect hj⟩
  | respond j =>
    obtain ⟨ans, info, hj, rfl⟩ := respond_inv hs
    have hc := (perm_eraseIdx hj).filterMap Worker.unconnected?
    have ha := (perm_eraseIdx hj).filterMap Worker.unadded?
    rw [List.filterMap_cons_none rfl] at hc ha
    exact ⟨es, h.frame rfl rfl rfl rfl rfl hc.symm ha.symm⟩
  | notify who =>
    obtain ⟨n, n', sent, hn, -, rfl⟩ := notify_inv hs
    have hset := h.setNotice hn n'
    cases sent with
    | none => exact ⟨es, hset⟩
    | some m => exact ⟨es, hset.frame rfl rfl rfl rfl rfl (.refl _) (.refl _)⟩
  | e42Setup n info =>
    obtain ⟨-, rfl⟩ := e42Setup_inv hs
    exact ⟨es, h.frame rfl rfl rfl rfl rfl (.refl _) (.refl _)⟩
  | registerXapp =>
    obtain ⟨_, _, _, _, -, -, rfl⟩ := registerXapp_inv hs
    exact ⟨es, h.frame rfl rfl rfl rfl rfl (.refl _) (.refl _)⟩
  | respondXapp =>
    obtain ⟨_, _, _, -, rfl⟩ := respondXapp_inv hs
    exact ⟨es, h.frame rfl rfl rfl rfl rfl (.refl _) (.refl _)⟩
  | xappReads p =>
    obtain ⟨_, _, _, -, -, rfl⟩ := xappReads_inv hs
    exact ⟨es, h.frame rfl rfl rfl rfl rfl (.refl _) (.refl _)⟩

/-- What the nodes keep to, and the order of the handlers. -/
def Orderly (s : Connections) (a : Act) : Prop := s.Admitted a ∧ s.InTime a

theorem conserved_of_run {as : List Act} (h : (connections plugins).Run Orderly as s) : ∃ es, s.Conserved es :=
  h.invariant (I := fun s => ∃ es, s.Conserved es) ⟨[], conserved_init⟩
    fun _ _ _ ⟨_, hi⟩ hg hs => hi.step hg.1 hg.2 hs

end Conserved

/-! ### What a shutdown finds -/

/-- No setup request waits, and no handler of a setup request or of a shutdown is running. -/
def Settled (s : Connections) : Prop := s.queued = [] ∧ s.workers = [] ∧ s.loop = .idle

/-- The law of the shutdown: the handler finds its node in each of the registries and takes that node, and no
other, out; and once all handlers have finished, the registries have the nodes that are connected. -/
structure ShutdownLaw (plugins : List Nat) (s : Connections) : Prop where
  found : ∀ info e, s.loop = .idle → e ∈ s.live → info.SamePeer e.2 → SameTail info e.2 →
    s.InTime (.shutdownArrives info) → ∃ t, step plugins s (.shutdownArrives info) = .next t ∧
      t.loop = .erasing e.1 ∧ s.reg.e2Nodes.left.toList.Perm (e :: t.reg.e2Nodes.left.toList) ∧
      t.reg.connE2Nodes = s.reg.connE2Nodes ∧ t.reg.iappE2Nodes = s.reg.iappE2Nodes
  erased : ∀ id, s.loop = .erasing id → s.connLocked = false → s.InTime .erase →
    ∃ t, step plugins s .erase = .next t ∧ t.loop = .removing id ∧ s.reg.connIds.Perm (id :: t.reg.connIds) ∧
      t.reg.e2Nodes = s.reg.e2Nodes ∧ t.reg.iappE2Nodes = s.reg.iappE2Nodes
  removed : ∀ id, s.loop = .removing id → ∃ t, step plugins s .remove = .next t ∧
    (ids s.reg.iappE2Nodes).Perm (id :: ids t.reg.iappE2Nodes) ∧
    t.reg.e2Nodes = s.reg.e2Nodes ∧ t.reg.connE2Nodes = s.reg.connE2Nodes
  settled : s.Settled → Tracks s.reg s.live ∧ Agree s.reg

section Law
variable {plugins : List Nat} {s : Connections} {as : List Act} {es : Connected} {id : GlobalE2NodeId}
  {info : SctpInfo}

theorem Conserved.settled (h : s.Conserved es) (hs : s.Settled) : Tracks s.reg s.live := by
  obtain ⟨hq, hw, hl⟩ := hs
  have hlive := h.live
  have hconn := h.conn
  have hiapp := h.iapp
  simp only [hq, hw, hl, RicLoop.erasing?, RicLoop.removing?, Option.toList, List.map_nil, List.filterMap_nil,
    List.append_nil] at hlive hconn hiapp
  exact ⟨h.holds.perm hlive.symm, hconn.symm, hiapp.symm, h.live_nodup⟩

/-- A node that is on its way out has no request that waits or that a worker handles. -/
theorem Conserved.not_queued (h : s.Conserved es) (hm : s.loop.removing? = some id) : id ∉ s.queued.map (·.1.id) := by
  intro hin
  obtain ⟨q, hq, rfl⟩ := List.mem_map.mp hin
  have hlive : entryOf q ∈ s.live := h.live.mem_iff.mpr (List.mem_append_right _ (List.mem_map_of_mem hq))
  have hn := h.nodup
  rw [hm, Option.toList, List.nodup_append] at hn
  exact hn.2.2 _ (List.mem_map_of_mem hlive) _ (List.mem_singleton.mpr rfl) rfl

theorem Conserved.erasing_mem (h : s.Conserved es) (hl : s.loop = .erasing id) (hi : s.InTime .erase) :
    id ∈ s.reg.connIds := by
  have hm : id ∈ s.live.map Prod.fst ++ s.loop.erasing?.toList := by simp [hl, RicLoop.erasing?]
  rcases List.mem_append.mp (h.conn.mem_iff.mp hm) with hm | hm
  · exact hm
  · rcases List.mem_append.mp hm with hm | hm
    · exact absurd hm (h.not_queued (by rw [hl]; rfl))
    · obtain ⟨w, hw, hid⟩ := List.mem_filterMap.mp hm
      exact absurd hl (hi w hw id hid)

theorem Conserved.removing_mem (h : s.Conserved es) (hl : s.loop = .removing id) : id ∈ ids s.reg.iappE2Nodes := by
  have hm : id ∈ s.live.map Prod.fst ++ s.loop.removing?.toList := by simp [hl, RicLoop.removing?]
  rcases List.mem_append.mp (h.iapp.mem_iff.mp hm) with hm | hm
  · exact hm
  · exfalso
    rcases List.mem_append.mp hm with hm | hm
    · exact h.not_queued (by rw [hl]; rfl) hm
    · -- A worker that has yet to add the node has yet to connect it, and then the node is connected.
      obtain ⟨w, hw, hid⟩ := List.mem_filterMap.mp hm
      have hu : w.unconnected? = some id := by
        cases w <;> simp [Worker.unadded?] at hid
        simp [Worker.unconnected?, hid]
      have hlive : id ∈ s.live.map Prod.fst := by
        have hin : id ∈ s.live.map Prod.fst ++ s.loop.erasing?.toList := h.conn.mem_iff.mpr
          (List.mem_append_right _ (List.mem_append_right _ (List.mem_filterMap.mpr ⟨w, hw, hu⟩)))
        simpa [hl, RicLoop.erasing?] using hin
      have hn := h.nodup
      rw [hl, RicLoop.removing?, Option.toList, List.nodup_append] at hn
      exact hn.2.2 _ hlive _ (List.mem_singleton.mpr rfl) rfl

end Law

instance (s : Connections) : (a : Act) → Decidable (s.Admitted a)
  | .setupArrives req info => inferInstanceAs (Decidable (∀ e ∈ s.live, e.1 ≠ req.id ∧ ¬info.SamePeer e.2))
  | .shutdownArrives info => inferInstanceAs (Decidable (∃ e ∈ s.live, info.SamePeer e.2 ∧ SameTail info e.2))
  | .erase | .remove | .regSockAddr _ | .addE2Node _ | .connect _ | .respond _ | .notify _ | .e42Setup .. |
    .registerXapp | .respondXapp | .xappReads _ => .isTrue trivial

instance (s : Connections) : (a : Act) → Decidable (s.InTime a)
  | .shutdownArrives info => inferInstanceAs (Decidable (∀ q ∈ s.queued, ¬info.SamePeer q.2))
  | .erase => decidable_of_iff (∀ w ∈ s.workers, ∀ id ∈ w.unconnected?, s.loop ≠ .erasing id) Iff.rfl
  | .setupArrives .. | .remove | .regSockAddr _ | .addE2Node _ | .connect _ | .respond _ | .notify _ | .e42Setup .. |
    .registerXapp | .respondXapp | .xappReads _ => .isTrue trivial

instance (s : Connections) (a : Act) : Decidable (s.Orderly a) := inferInstanceAs (Decidable (_ ∧ _))

/-- The steps of the worker that sets a node up, while no xApp is registered. -/
def setUp (req : E2SetupRequest) (info : SctpInfo) : List Act :=
  [.setupArrives req info, .regSockAddr 0, .addE2Node 0, .connect 0, .notify (.worker 0), .respond 0]

end Connections

end FlexRic.Ric
