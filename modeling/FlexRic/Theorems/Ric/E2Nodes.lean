import FlexRic.Ric.E2Nodes
import FlexRic.Theorems.IApp.Maps
import FlexRic.Theorems.MsgHand.RegE2Nodes

/-! # Events of nodes, handled one at a time

The three registries agree after every event as long as no node and no address sets up twice, and every
shutdown comes from an address that is registered. Nothing handles the other cases: a request that is sent
again aborts the RIC, and so does a shutdown that none of the registered requests matches. -/

namespace FlexRic.Ric
open Ds E2ap Ep MsgHand IApp

/-! ### What the operations do -/

/-- The identifier can be copied. -/
def Supported : NodeCompId → Prop
  | .ng _ => True
  | .e1 id | .f1 id => id < 2 ^ 36
  | .xn | .w1 | .s1 | .x2 => False

theorem cpNodeCompId_eq_ok {c c' : NodeCompId} : cpNodeCompId c = .ok c' ↔ Supported c ∧ c' = c := by
  cases c <;> simp only [cpNodeCompId, Supported]
  case e1 id | f1 id => split <;> simp_all [eq_comm]
  all_goals simp [eq_comm]

/-- The answer to a request, when there is one. -/
def answerTo (req : E2SetupRequest) : E2SetupResponse where
  transId := req.transId
  plmn := req.id.plmn
  nearRicId := 25
  accepted := req.ranFuncItem.map RanFunction.id
  rejected := []
  compConfigAddAck := req.compConfAdd.map fun c => ⟨c.e2NodeCompInterfaceType, c.e2NodeCompId, .success⟩

/-- The RIC has an answer to the request: it knows the RAN functions, and the components are as many as an
answer may have and of the supported types. -/
structure Answerable (plugins : List Nat) (req : E2SetupRequest) : Prop where
  functions : req.ranFuncItem ≠ []
  known : ∀ rf ∈ req.ranFuncItem, rf.id ∈ plugins
  configs : 0 < req.compConfAdd.length ∧ req.compConfAdd.length < 1025
  supported : ∀ c ∈ req.compConfAdd, Supported c.e2NodeCompId

section Operations
variable {plugins : List Nat} {xapps : MapXapps} {req : E2SetupRequest} {r t : Registries} {id : GlobalE2NodeId}
  {info : SctpInfo}

theorem acceptRanFunc_eq_ok {accepted : List Nat} : acceptRanFunc plugins req = .ok accepted ↔
    (∀ rf ∈ req.ranFuncItem, rf.id ∈ plugins) ∧ accepted = req.ranFuncItem.map RanFunction.id := by
  refine Except.mapM_eq_ok_iff fun rf id => ?_
  by_cases h : rf.id ∈ plugins <;> simp [h, eq_comm]

/-- The loop over the configurations makes the list of acknowledges, whatever identifiers can be copied. -/
theorem acks_eq_ok {cp : NodeCompId → Except String NodeCompId} {P : NodeCompId → Prop}
    {acks : List NodeCompConfigAddAck}
    (hcp : ∀ c c', cp c = .ok c' ↔ P c ∧ c' = c) :
    (req.compConfAdd.mapM fun c => do
      let e2NodeCompId ← cp c.e2NodeCompId
      return ({ e2NodeCompInterfaceType := c.e2NodeCompInterfaceType, e2NodeCompId, outcome := .success } :
        NodeCompConfigAddAck)) = .ok acks ↔
      (∀ c ∈ req.compConfAdd, P c.e2NodeCompId) ∧ acks = (answerTo req).compConfigAddAck := by
  refine Except.mapM_eq_ok_iff fun c ack => ?_
  rw [Except.bind_eq_ok]
  constructor
  · rintro ⟨_, hc, hack⟩
    obtain ⟨hs, rfl⟩ := (hcp _ _).mp hc
    exact ⟨hs, (Except.ok.inj hack).symm⟩
  · rintro ⟨hs, rfl⟩
    exact ⟨_, (hcp _ _).mpr ⟨hs, rfl⟩, rfl⟩

theorem generateSetupResponse_eq_ok {ans : E2SetupResponse} : generateSetupResponse plugins req = .ok ans ↔
    ((∀ rf ∈ req.ranFuncItem, rf.id ∈ plugins) ∧ (0 < req.compConfAdd.length ∧ req.compConfAdd.length < 1025) ∧
      ∀ c ∈ req.compConfAdd, Supported c.e2NodeCompId) ∧ ans = answerTo req := by
  simp only [generateSetupResponse, Except.bind_eq_ok, acceptRanFunc_eq_ok]
  constructor
  · rintro ⟨_, ⟨hknown, rfl⟩, h⟩
    split at h
    · cases h
    · next hc =>
      obtain ⟨acks, hk, h⟩ := Except.bind_eq_ok.mp h
      obtain ⟨hsupported, rfl⟩ := (acks_eq_ok fun _ _ => cpNodeCompId_eq_ok).mp hk
      exact ⟨⟨hknown, not_not.mp hc, hsupported⟩, (Except.ok.inj h).symm⟩
  · rintro ⟨⟨hknown, hc, hsupported⟩, rfl⟩
    refine ⟨_, ⟨hknown, rfl⟩, ?_⟩
    rw [if_neg (not_not.mpr hc)]
    exact Except.bind_eq_ok.mpr ⟨_, (acks_eq_ok fun _ _ => cpNodeCompId_eq_ok).mpr ⟨hsupported, rfl⟩, rfl⟩

/-- Two addresses of one peer that `bi_map_extract_right` takes for one: what the left comparator reads of
them besides is the same. -/
def SameTail (a b : SctpInfo) : Prop :=
  a.sinZero0 = b.sinZero0 ∧ a.sinZero4 = b.sinZero4 ∧ unusedWord a = unusedWord b

instance (a b : SctpInfo) : Decidable (SameTail a b) := inferInstanceAs (Decidable (_ ∧ _))

theorem cmpNodeIdOfSctpInfo_eq_zero {a b : SctpInfo} (h : a.SamePeer b) :
    cmpNodeIdOfSctpInfo a b = 0 ↔ SameTail a b := by
  obtain ⟨hp, ha, hf⟩ := h
  simp only [cmpNodeIdOfSctpInfo, typeWord, hp, hf, lt_irrefl, gt_iff_lt, if_false, cmpE2apPlmn, plmnWords, ha, SameTail]
  grind

theorem addE2NodeIapp_eq_ok : r.addE2NodeIapp req = .ok t ↔ req.ranFuncItem ≠ [] ∧ req.id ∉ ids r.iappE2Nodes ∧
    t = { r with iappE2Nodes := r.iappE2Nodes.insert req.id req.ranFuncItem } := by
  unfold Registries.addE2NodeIapp
  split
  · next h => simp [h]
  · next h =>
    rw [Except.bind_eq_ok]
    constructor
    · rintro ⟨_, ha, ht⟩
      obtain ⟨-, hn, rfl⟩ := addRegE2Node_eq_ok.mp ha
      exact ⟨h, hn, (Except.ok.inj ht).symm⟩
    · rintro ⟨-, hn, rfl⟩
      exact ⟨_, addRegE2Node_eq_ok.mpr ⟨h, hn, rfl⟩, rfl⟩

/-- The identities in `conn_e2_nodes`. -/
def Registries.connIds (r : Registries) : List GlobalE2NodeId := r.connE2Nodes.map E2Node.id

theorem eraseE2Node_eq_ok : r.eraseE2Node id = .ok t ↔
    id ∈ r.connIds ∧ t = { r with connE2Nodes := r.connE2Nodes.eraseP (·.id = id) } := by
  unfold Registries.eraseE2Node Registries.connIds
  rw [List.mem_map]
  split
  · next h => exact ⟨fun ht => ⟨h, (Except.ok.inj ht).symm⟩, fun ht => congrArg _ ht.2.symm⟩
  · next h => exact ⟨nofun, fun ht => absurd ht.1 h⟩

/-- Exactly one entry leaves `conn_e2_nodes`. -/
theorem connIds_eraseE2Node (h : r.eraseE2Node id = .ok t) : r.connIds.Perm (id :: t.connIds) := by
  obtain ⟨hm, rfl⟩ := eraseE2Node_eq_ok.mp h
  obtain ⟨n, hn, hid⟩ := List.mem_map.mp hm
  obtain ⟨n', l₁, l₂, -, hn', hl, he⟩ := List.exists_of_eraseP (p := fun n : E2Node => n.id = id) hn (by simpa using hid)
  obtain rfl : n'.id = id := by simpa using hn'
  simp only [Registries.connIds, he]
  rw [hl, List.map_append, List.map_append, List.map_cons]
  exact List.perm_middle

theorem rmE2NodeIapp_eq_ok : r.rmE2NodeIapp id = .ok t ↔
    ∃ i, rmRegE2Node r.iappE2Nodes id = .ok i ∧ t = { r with iappE2Nodes := i } := by
  rw [Registries.rmE2NodeIapp, Except.bind_eq_ok]
  exact exists_congr fun i => and_congr_right fun _ => ⟨fun h => (Except.ok.inj h).symm, fun h => congrArg _ h.symm⟩

/-- The identifiers of the registered xApps are those that were given: from 7 on, cut to 16 bits. -/
def NumberedInTurn (xapps : MapXapps) : Prop := ∀ i < xapps.size, Registered xapps ((7 + i) % 65536)

theorem NumberedInTurn.find (h : NumberedInTurn xapps) {i : Nat} (hi : i ∈ List.range' 7 xapps.size) :
    ∃ info, findMapXappsSad xapps (i % 65536) = .ok info := by
  rw [List.mem_range'_1] at hi
  have hr := h (i - 7) (by omega)
  rw [show 7 + (i - 7) = i by omega] at hr
  rcases findMapXappsSad_cases xapps (i % 65536) with ⟨hn, -⟩ | ⟨info, -, hok⟩
  · exact absurd hr hn
  · exact ⟨info, hok⟩

theorem notifyXapps_isOk (h : NumberedInTurn xapps) (r : Registries) : ∃ ms, r.notifyXapps xapps = .ok ms := by
  simp only [Registries.notifyXapps]
  split
  · exact ⟨[], rfl⟩
  · rw [Registries.generateUpdateE2Node, Except.mapM_isOk_iff]
    intro i hi
    obtain ⟨info, hf⟩ := h.find hi
    exact ⟨_, by rw [hf]; rfl⟩

end Operations

/-! ### Which nodes are connected -/

/-- The nodes that are connected, and the addresses their requests came from. -/
abbrev Connected := List (GlobalE2NodeId × SctpInfo)

/-- No address is that of two nodes. -/
def PeersApart (conn : Connected) : Prop := conn.Pairwise fun a b => ¬a.2.SamePeer b.2

/-- The registries hold the nodes, each of them once. -/
structure Tracks (r : Registries) (conn : Connected) : Prop where
  nodes : r.e2Nodes.Holds conn
  connE2Nodes : r.connIds.Perm (conn.map Prod.fst)
  iapp : (ids r.iappE2Nodes).Perm (conn.map Prod.fst)
  nodup : (conn.map Prod.fst).Nodup

/-- The registries agree: they have the same nodes, each of them once, and the two sides of `ep.e2_nodes` are
inverse to each other. -/
structure Agree (r : Registries) : Prop where
  mirror : ∀ id info, (id, info) ∈ r.e2Nodes.left.toList ↔ (info, id) ∈ r.e2Nodes.right.toList
  ids : (r.e2Nodes.left.toList.map Prod.fst).Nodup
  peers : r.e2Nodes.right.toList.Pairwise fun a b => ¬a.1.SamePeer b.1
  connE2Nodes : r.connIds.Perm (r.e2Nodes.left.toList.map Prod.fst)
  iapp : (MsgHand.ids r.iappE2Nodes).Perm (r.e2Nodes.left.toList.map Prod.fst)

section Events
variable {plugins : List Nat} {xapps : MapXapps} {req : E2SetupRequest} {r t : Registries} {info : SctpInfo}
  {conn : Connected} {ms : List Sent}

theorem Tracks.init : Tracks .init [] := ⟨BiMap.holds_init, .refl _, .refl _, .nil⟩

theorem PeersApart.perm {conn' : Connected} (h : PeersApart conn) (hp : conn.Perm conn') : PeersApart conn' :=
  hp.pairwise h fun hab hba => hab (SctpInfo.SamePeer.symm hba)

theorem PeersApart.eq_of_samePeer (h : PeersApart conn) {e e' : GlobalE2NodeId × SctpInfo} (he : e ∈ conn)
    (he' : e' ∈ conn) (hs : e.2.SamePeer e'.2) : e = e' := by
  by_contra hne
  have hsymm : Std.Symm fun a b : GlobalE2NodeId × SctpInfo => ¬a.2.SamePeer b.2 :=
    ⟨fun _ _ hab hba => hab (SctpInfo.SamePeer.symm hba)⟩
  exact List.Pairwise.forall h he he' hne hs

/-- What is left to ask of registries that hold the nodes. -/
theorem Tracks.agree_iff (h : Tracks r conn) : Agree r ↔ PeersApart conn := by
  have hl : (r.e2Nodes.left.toList.map Prod.fst).Perm (conn.map Prod.fst) := h.nodes.left.map _
  have hpeers : r.e2Nodes.right.toList.Pairwise (fun a b => ¬a.1.SamePeer b.1) ↔ PeersApart conn := by
    rw [h.nodes.right.pairwise_iff fun hab hba => hab (SctpInfo.SamePeer.symm hba), List.pairwise_map]
    rfl
  constructor
  · exact fun ha => hpeers.mp ha.peers
  · intro hp
    exact {
      mirror := fun id info => h.nodes.mem_left.trans h.nodes.mem_right.symm
      ids := hl.nodup_iff.mpr h.nodup
      peers := hpeers.mpr hp
      connE2Nodes := h.connE2Nodes.trans hl.symm
      iapp := h.iapp.trans hl.symm }

theorem Tracks.leftKeys (h : Tracks r conn) : BiMap.LeftKeys globalE2NodeIdOrder conn := by
  rw [BiMap.LeftKeys]
  simp only [same_globalE2NodeId]
  exact List.pairwise_map.mp h.nodup

/-- What a setup request that is handled does to the registries. -/
theorem setupRequest_inv (h : r.setupRequest plugins xapps req info = .ok (t, ms)) :
    Answerable plugins req ∧ req.id ∉ ids r.iappE2Nodes ∧ ∃ accepted, t = {
      e2Nodes := r.e2Nodes.insert req.id info
      connE2Nodes := r.connE2Nodes ++ [⟨req.id, accepted⟩]
      iappE2Nodes := r.iappE2Nodes.insert req.id req.ranFuncItem } := by
  obtain ⟨r₁, h₁, h⟩ := Except.bind_eq_ok.mp h
  obtain ⟨ans, hans, h⟩ := Except.bind_eq_ok.mp h
  obtain ⟨ms', -, h⟩ := Except.bind_eq_ok.mp h
  obtain ⟨hrf, hid, rfl⟩ := addE2NodeIapp_eq_ok.mp h₁
  obtain ⟨rfl, -⟩ := Prod.mk.inj (Except.ok.inj h)
  obtain ⟨⟨hk, hc, hs⟩, -⟩ := generateSetupResponse_eq_ok.mp hans
  exact ⟨⟨hrf, hk, hc, hs⟩, hid, ans.accepted, rfl⟩

/-- A setup request of a node that is not connected is handled when there is an answer to it. -/
theorem setupRequest_isOk (hx : NumberedInTurn xapps) (ha : Answerable plugins req) (hid : req.id ∉ ids r.iappE2Nodes)
    (info : SctpInfo) : ∃ t ms, r.setupRequest plugins xapps req info = .ok (t, ms) := by
  have hans := generateSetupResponse_eq_ok.mpr ⟨⟨ha.known, ha.configs, ha.supported⟩, rfl⟩
  have h₁ : (r.regSockAddr req.id info).addE2NodeIapp req = .ok _ := addE2NodeIapp_eq_ok.mpr ⟨ha.functions, hid, rfl⟩
  obtain ⟨ms, hms⟩ := notifyXapps_isOk hx { r.regSockAddr req.id info with
    iappE2Nodes := r.iappE2Nodes.insert req.id req.ranFuncItem
    connE2Nodes := r.connE2Nodes ++ [initE2Node req.id (answerTo req).accepted] }
  exact ⟨_, _, Except.bind_eq_ok.mpr ⟨_, h₁, Except.bind_eq_ok.mpr ⟨_, hans,
    Except.bind_eq_ok.mpr ⟨ms, hms, rfl⟩⟩⟩⟩

theorem Tracks.setup (h : Tracks r conn) (hs : r.setupRequest plugins xapps req info = .ok (t, ms)) :
    Tracks t ((req.id, info) :: conn) := by
  obtain ⟨-, hid, accepted, rfl⟩ := setupRequest_inv hs
  refine ⟨h.nodes.insert _ _, ?_, (ids_insert _ _).trans (h.iapp.cons _), ?_⟩
  · rw [Registries.connIds, List.map_append]
    exact (List.perm_append_singleton ..).trans (h.connE2Nodes.cons _)
  · exact List.nodup_cons.mpr ⟨fun hm => hid (h.iapp.mem_iff.mpr hm), h.nodup⟩

theorem Tracks.perm {conn' : Connected} (h : Tracks r conn) (hp : conn.Perm conn') : Tracks r conn' :=
  ⟨h.nodes.perm hp, h.connE2Nodes.trans (hp.map _), h.iapp.trans (hp.map _), (hp.map _).nodup_iff.mp h.nodup⟩

/-- The registered address that a shutdown comes from, with the same padding and the same stream, is taken
out with its node; or there is none, and an assertion fails. -/
theorem rmSockAddr_cases (h : r.e2Nodes.Holds conn) (hk : BiMap.LeftKeys globalE2NodeIdOrder conn)
    (hp : PeersApart conn) (info : SctpInfo) :
    ((∀ e ∈ conn, info.SamePeer e.2 → ¬SameTail info e.2) ∧ ∃ msg, r.rmSockAddr info = .error msg) ∨
    ∃ e rest m, conn.Perm (e :: rest) ∧ info.SamePeer e.2 ∧ SameTail info e.2 ∧ m.Holds rest ∧
      r.rmSockAddr info = .ok (e.1, { r with e2Nodes := m }) := by
  unfold Registries.rmSockAddr rmMapSadE2Node
  rcases h.extractRight_cases hk cmpNodeIdOfSctpInfo info with ⟨hn, he⟩ | ⟨a, b, rest, hperm, hs, hif⟩
  · exact .inl ⟨fun e hm hpeer => absurd (same_sctpInfo.mpr hpeer) (hn e hm), _, by rw [he]; rfl⟩
  · have hpeer := same_sctpInfo.mp hs
    split at hif
    · next hc =>
      obtain ⟨m, he, hh⟩ := hif
      exact .inr ⟨(a, b), rest, m, hperm, hpeer, (cmpNodeIdOfSctpInfo_eq_zero hpeer).mp hc, hh, by rw [he]; rfl⟩
    · next hc =>
      refine .inl ⟨?_, _, by rw [hif]; rfl⟩
      intro e hm hpeer' htail
      -- The address is that of one node only, so `e` is the pair that was found.
      have hab : (a, b) ∈ conn := hperm.mem_iff.mpr (List.mem_cons_self ..)
      have heq : e = (a, b) := hp.eq_of_samePeer hm hab (.trans (.symm hpeer') hpeer)
      subst heq
      exact hc ((cmpNodeIdOfSctpInfo_eq_zero hpeer').mpr htail)

/-- When an address is that of one node, leaving its node out leaves the others. -/
theorem filter_peer {e : GlobalE2NodeId × SctpInfo} {rest : Connected} (hp : PeersApart conn)
    (hperm : conn.Perm (e :: rest)) (hpeer : info.SamePeer e.2) :
    rest.Perm (conn.filter fun e => ¬info.SamePeer e.2) := by
  have hp' : PeersApart (e :: rest) := hp.perm hperm
  have hrest : ∀ e' ∈ rest, ¬info.SamePeer e'.2 := fun e' he' hs => by
    exact (List.pairwise_cons.mp hp').1 e' he' (.trans (.symm hpeer) hs)
  refine List.Perm.trans ?_ (hperm.filter _).symm
  rw [List.filter_cons_of_neg (by simpa using hpeer), List.filter_eq_self.mpr (by simpa using hrest)]

/-- A shutdown from a registered address takes that address's node, and no other, out of the registries; any
other shutdown fails an assertion. -/
theorem Tracks.shutdown (h : Tracks r conn) (hp : PeersApart conn) (hx : NumberedInTurn xapps) (info : SctpInfo) :
    ((∀ e ∈ conn, info.SamePeer e.2 → ¬SameTail info e.2) ∧ ∃ msg, r.shutdown xapps info = .error msg) ∨
    (∃ e ∈ conn, info.SamePeer e.2 ∧ SameTail info e.2) ∧ ∃ t ms, r.shutdown xapps info = .ok (t, ms) ∧
      Tracks t (conn.filter fun e => ¬info.SamePeer e.2) := by
  rcases rmSockAddr_cases h.nodes h.leftKeys hp info with ⟨hn, msg, he⟩ | ⟨e, rest, m, hperm, hpeer, htail, hm, he⟩
  · exact .inl ⟨hn, msg, by rw [Registries.shutdown, he]; rfl⟩
  · refine .inr ⟨⟨e, hperm.mem_iff.mpr (List.mem_cons_self ..), hpeer, htail⟩, ?_⟩
    have hids : (conn.map Prod.fst).Perm (e.1 :: rest.map Prod.fst) := hperm.map _
    have hconn := h.connE2Nodes.trans hids
    have h₁ : ({ r with e2Nodes := m } : Registries).eraseE2Node e.1 = .ok _ :=
      eraseE2Node_eq_ok.mpr ⟨hconn.mem_iff.mpr (List.mem_cons_self ..), rfl⟩
    have hiapp := h.iapp.trans hids
    obtain ⟨i, hi⟩ := rmRegE2Node_of_mem (hiapp.mem_iff.mpr (List.mem_cons_self ..))
    obtain ⟨ms, hms⟩ := notifyXapps_isOk hx {
      e2Nodes := m
      connE2Nodes := r.connE2Nodes.eraseP (·.id = e.1)
      iappE2Nodes := i }
    refine ⟨_, ms, Except.bind_eq_ok.mpr ⟨_, he, Except.bind_eq_ok.mpr ⟨_, h₁, Except.bind_eq_ok.mpr
      ⟨_, rmE2NodeIapp_eq_ok.mpr ⟨i, hi, rfl⟩, Except.bind_eq_ok.mpr ⟨ms, hms, rfl⟩⟩⟩⟩, ?_⟩
    refine Tracks.perm ⟨hm, ?_, ?_, ?_⟩ (filter_peer hp hperm hpeer)
    · exact List.Perm.cons_inv ((connIds_eraseE2Node h₁).symm.trans hconn)
    · exact List.Perm.cons_inv ((ids_rmRegE2Node hi).symm.trans hiapp)
    · exact (List.nodup_cons.mp (hids.nodup_iff.mp h.nodup)).2

end Events

/-! ### Sequences of events -/

/-- The registries agree after every event, and no assertion fails. -/
def RegistryLaw (plugins : List Nat) (xapps : MapXapps) (r : Registries) (evs : List NodeEvent) : Prop :=
  ∀ es, es <+: evs → ∃ t, r.handleAll plugins xapps es = .ok t ∧ Agree t

/-- Every setup request has an answer, and neither its node nor its address is connected; every shutdown comes
from the address of a connected node, with the padding and the stream of the setup request. -/
def Admissible (plugins : List Nat) (conn : Connected) : List NodeEvent → Prop
  | [] => True
  | .setupRequest req info :: evs => Answerable plugins req ∧
      (∀ e ∈ conn, e.1 ≠ req.id ∧ ¬info.SamePeer e.2) ∧ Admissible plugins ((req.id, info) :: conn) evs
  | .shutdown info :: evs => (∃ e ∈ conn, info.SamePeer e.2 ∧ SameTail info e.2) ∧
      Admissible plugins (conn.filter fun e => ¬info.SamePeer e.2) evs

section Law
variable {plugins : List Nat} {xapps : MapXapps} {r : Registries} {conn : Connected} {ev : NodeEvent}
  {evs : List NodeEvent}

theorem registryLaw_nil : RegistryLaw plugins xapps r [] ↔ Agree r := by
  constructor
  · intro h
    obtain ⟨t, ht, ha⟩ := h [] (List.prefix_refl _)
    exact Except.ok.inj ht ▸ ha
  · rintro h es hes
    obtain rfl := List.prefix_nil.mp hes
    exact ⟨r, rfl, h⟩

theorem registryLaw_cons : RegistryLaw plugins xapps r (ev :: evs) ↔
    Agree r ∧ ∃ t ms, r.handle plugins xapps ev = .ok (t, ms) ∧ RegistryLaw plugins xapps t evs := by
  constructor
  · intro h
    obtain ⟨_, ht, ha⟩ := h [] List.nil_prefix
    obtain ⟨_, hall, -⟩ := h [ev] (List.prefix_cons_inj ev |>.mpr List.nil_prefix)
    obtain ⟨⟨t, ms⟩, hev, -⟩ := Except.bind_eq_ok.mp hall
    refine ⟨Except.ok.inj ht ▸ ha, t, ms, hev, ?_⟩
    intro es hes
    obtain ⟨u, hu, hau⟩ := h (ev :: es) ((List.prefix_cons_inj ev).mpr hes)
    rw [Registries.handleAll, hev] at hu
    exact ⟨u, hu, hau⟩
  · rintro ⟨ha, t, ms, hev, h⟩ es hes
    cases es with
    | nil => exact ⟨r, rfl, ha⟩
    | cons e es =>
      obtain ⟨rfl, hes'⟩ := List.cons_prefix_cons.mp hes
      obtain ⟨u, hu, hau⟩ := h es hes'
      exact ⟨u, by rw [Registries.handleAll, hev]; exact hu, hau⟩

theorem RegistryLaw.agree (h : RegistryLaw plugins xapps r evs) : Agree r := by
  obtain ⟨_, ht, ha⟩ := h [] List.nil_prefix
  exact Except.ok.inj ht ▸ ha

theorem Tracks.law_iff (h : Tracks r conn) (hp : PeersApart conn) (hx : NumberedInTurn xapps) :
    RegistryLaw plugins xapps r evs ↔ Admissible plugins conn evs := by
  induction evs generalizing r conn with
  | nil => exact registryLaw_nil.trans ⟨fun _ => trivial, fun _ => h.agree_iff.mpr hp⟩
  | cons ev evs ih =>
    rw [registryLaw_cons]
    cases ev with
    | setupRequest req info =>
      constructor
      · rintro ⟨-, t, ms, hs, hlaw⟩
        have ht := h.setup hs
        have hp' := ht.agree_iff.mp hlaw.agree
        obtain ⟨ha, hid, -⟩ := setupRequest_inv hs
        refine ⟨ha, ?_, (ih ht hp').mp hlaw⟩
        intro e he
        refine ⟨fun heq => ?_, (List.pairwise_cons.mp hp').1 e he⟩
        exact hid (h.iapp.mem_iff.mpr (List.mem_map.mpr ⟨e, he, heq⟩))
      · rintro ⟨ha, hnew, hadm⟩
        have hid : req.id ∉ ids r.iappE2Nodes := by
          intro hm
          obtain ⟨e, he, hee⟩ := List.mem_map.mp (h.iapp.mem_iff.mp hm)
          exact (hnew e he).1 hee
        obtain ⟨t, ms, hs⟩ := setupRequest_isOk hx ha hid info
        have hp' : PeersApart ((req.id, info) :: conn) := List.pairwise_cons.mpr ⟨fun e he => (hnew e he).2, hp⟩
        exact ⟨h.agree_iff.mpr hp, t, ms, hs, (ih (h.setup hs) hp').mpr hadm⟩
    | shutdown info =>
      have hp' : PeersApart (conn.filter fun e => ¬info.SamePeer e.2) := hp.filter _
      rcases h.shutdown hp hx info with ⟨hn, msg, he⟩ | ⟨hfound, t, ms, hs, ht⟩
      · constructor
        · rintro ⟨-, t, ms, hs, -⟩
          rw [Registries.handle, he] at hs
          cases hs
        · rintro ⟨⟨e, hm, hpeer, htail⟩, -⟩
          exact absurd htail (hn e hm hpeer)
      · constructor
        · rintro ⟨-, t', ms', hs', hlaw⟩
          rw [Registries.handle, hs] at hs'
          obtain ⟨rfl, -⟩ := Prod.mk.inj (Except.ok.inj hs')
          exact ⟨hfound, (ih ht hp').mp hlaw⟩
        · rintro ⟨-, hadm⟩
          exact ⟨h.agree_iff.mpr hp, t, ms, hs, (ih ht hp').mpr hadm⟩

end Law

theorem answerable_setupOf (id : GlobalE2NodeId) : Answerable [2] (setupOf id) where
  functions := List.cons_ne_nil _ _
  known := by
    intro rf hrf
    obtain rfl := List.mem_singleton.mp hrf
    exact List.mem_singleton.mpr rfl
  configs := ⟨Nat.zero_lt_one, Nat.lt_of_sub_eq_succ rfl⟩
  supported := by
    intro c hc
    obtain rfl := List.mem_singleton.mp hc
    show 1 < 2 ^ 36
    decide

end FlexRic.Ric
