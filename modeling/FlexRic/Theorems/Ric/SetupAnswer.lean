import FlexRic.Ric.SetupAnswer
import FlexRic.Theorems.Ric.E2Nodes

/-! # Which setup requests are answered, and how

The RIC rejects nothing. It accepts the RAN functions of a request one and all, and stops at an assertion when one of
them has no plug-in. -/

namespace FlexRic.Ric
open Ds E2ap Ep MsgHand IApp

/-! ### Plug-ins -/

/-- The RAN function has a plug-in. -/
def Loaded (sms : List SmRic) (id : Nat) : Prop := ∃ sm ∈ sms, sm.ranFuncId = id

/-- The RAN functions that the RIC knows. -/
def keys (smDs : PluginRic) : List Nat := smDs.toList.map Prod.fst

section Plugins
variable {smDs smDs' : PluginRic} {sms : List SmRic} {id : Nat} {req : E2SetupRequest}

theorem loadPluginRic_eq_ok {sm : SmRic} :
    loadPluginRic smDs sm = .ok smDs' ↔ 0 < sm.ranFuncId ∧ smDs' = smDs.insert sm.ranFuncId sm := by
  rw [loadPluginRic, Except.bind_eq_ok]
  constructor
  · rintro ⟨_, hid, h⟩
    exact ⟨require_eq_ok.mp hid, (Except.ok.inj h).symm⟩
  · rintro ⟨hid, rfl⟩
    exact ⟨(), require_of hid, rfl⟩

theorem keys_insert (sm : SmRic) : (keys (smDs.insert sm.ranFuncId sm)).Perm (sm.ranFuncId :: keys smDs) :=
  (smDs.toList_insert ..).map _

theorem mem_keys_of_load (h : sms.foldlM loadPluginRic smDs = .ok smDs') :
    id ∈ keys smDs' ↔ Loaded sms id ∨ id ∈ keys smDs := by
  induction sms generalizing smDs with
  | nil =>
    obtain rfl := Except.ok.inj h
    simp [Loaded]
  | cons sm sms ih =>
    rw [List.foldlM_cons] at h
    obtain ⟨smDs₁, hload, h⟩ := Except.bind_eq_ok.mp h
    obtain ⟨-, rfl⟩ := loadPluginRic_eq_ok.mp hload
    rw [ih h, (keys_insert sm).mem_iff, List.mem_cons, Loaded, Loaded, List.exists_mem_cons_iff, eq_comm (a := id)]
    exact or_left_comm.trans or_assoc.symm

theorem mem_keys_iff (h : initPluginRic sms = .ok smDs) : id ∈ keys smDs ↔ Loaded sms id := by
  rw [mem_keys_of_load h, keys, AssocRbTree.toList_init, List.map_nil, or_iff_left List.not_mem_nil]

theorem acceptRanFuncId_eq (smDs : PluginRic) (id : Nat) : acceptRanFuncId smDs id =
    if id ∈ keys smDs then .ok id else .error "Unknown RAN function ID from the agent received" := by
  rw [acceptRanFuncId]
  cases hf : smDs.findIf fun key => eqRanFuncId id key with
  | none =>
    have hnone : id ∉ keys smDs := by
      intro hm
      obtain ⟨e, he, rfl⟩ := List.mem_map.mp hm
      simpa [eqRanFuncId] using AssocRbTree.findIf_eq_none.mp hf e he
    rw [if_neg hnone]
  | some e =>
    obtain ⟨key, sm⟩ := e
    obtain ⟨hm, heq⟩ := AssocRbTree.mem_of_findIf hf
    obtain rfl : id = key := by simpa [eqRanFuncId] using heq
    have hid : id ∈ keys smDs := List.mem_map_of_mem hm
    rw [if_pos hid]
    dsimp only
    rw [require_of rfl]
    rfl

/-- The search in the tree tells what membership among its keys does. -/
theorem acceptRanFuncIn_eq : acceptRanFuncIn smDs req = acceptRanFunc (keys smDs) req := by
  simp only [acceptRanFuncIn, acceptRanFuncId_eq]
  rfl

end Plugins

/-! ### The answer -/

/-- The identifier can be copied in the version. -/
def SupportedIn : E2apVersion → NodeCompId → Prop
  | .v2, c => Supported c
  | .v3, .e1 _ => False
  | .v3, c => Supported c

/-- The RIC has an answer to the request: as `Answerable`, for the plug-ins and the version. -/
structure AnswerableIn (v : E2apVersion) (sms : List SmRic) (req : E2SetupRequest) : Prop where
  functions : req.ranFuncItem ≠ []
  loaded : ∀ rf ∈ req.ranFuncItem, Loaded sms rf.id
  configs : 0 < req.compConfAdd.length ∧ req.compConfAdd.length < 1025
  supported : ∀ c ∈ req.compConfAdd, SupportedIn v c.e2NodeCompId

section Answer
variable {v : E2apVersion} {smDs : PluginRic} {sms : List SmRic} {req : E2SetupRequest} {ans : E2SetupResponse}
  {xapps : MapXapps} {r t : Registries} {ms : List Sent}

theorem cpNodeCompIdIn_eq_ok {c c' : NodeCompId} : cpNodeCompIdIn v c = .ok c' ↔ SupportedIn v c ∧ c' = c := by
  cases v with
  | v2 => exact cpNodeCompId_eq_ok
  | v3 =>
    cases c <;> simp only [cpNodeCompIdIn, cpNodeCompIdV3, SupportedIn, Supported]
    case f1 id => split <;> simp_all [eq_comm]
    all_goals simp [eq_comm]

theorem generateSetupResponseIn_eq_ok : generateSetupResponseIn v smDs req = .ok ans ↔
    ((∀ rf ∈ req.ranFuncItem, rf.id ∈ keys smDs) ∧ (0 < req.compConfAdd.length ∧ req.compConfAdd.length < 1025) ∧
      ∀ c ∈ req.compConfAdd, SupportedIn v c.e2NodeCompId) ∧ ans = answerTo req := by
  simp only [generateSetupResponseIn, acceptRanFuncIn_eq, Except.bind_eq_ok, acceptRanFunc_eq_ok]
  constructor
  · rintro ⟨_, ⟨hknown, rfl⟩, _, hc, acks, hk, h⟩
    obtain ⟨hsupported, rfl⟩ := (acks_eq_ok fun _ _ => cpNodeCompIdIn_eq_ok).mp hk
    exact ⟨⟨hknown, require_eq_ok.mp hc, hsupported⟩, (Except.ok.inj h).symm⟩
  · rintro ⟨⟨hknown, hc, hsupported⟩, rfl⟩
    exact ⟨_, ⟨hknown, rfl⟩, (), require_of hc, _,
      (acks_eq_ok fun _ _ => cpNodeCompIdIn_eq_ok).mpr ⟨hsupported, rfl⟩, rfl⟩

/-- What the sequences of events of nodes are handled with is the answer in version 2. -/
theorem generateSetupResponseIn_v2 : generateSetupResponseIn .v2 smDs req = generateSetupResponse (keys smDs) req := by
  simp only [generateSetupResponseIn, generateSetupResponse, acceptRanFuncIn_eq]
  refine bind_congr fun accepted => ?_
  by_cases hc : 0 < req.compConfAdd.length ∧ req.compConfAdd.length < 1025
  · rw [require_of hc, if_neg (not_not.mpr hc)]
    rfl
  · rw [require, if_neg hc, if_pos hc]
    rfl

theorem printSetupRequest_of {id : GlobalE2NodeId} (h : id.type ≠ .eNBMbmsSta) : printSetupRequest id = .ok () := by
  refine require_of ?_
  rw [id.cuDuId_isSome, NodeIsMonolithic]
  revert h
  cases id.type <;> simp [NgranNode.hasCuDuId]

/-- Handling the events of nodes is handling their requests, and knowing where they came from. -/
theorem setupRequest_eq {info : SctpInfo} (hid : req.id.type ≠ .eNBMbmsSta) :
    r.setupRequest (keys smDs) xapps req info = do
      let (r, ans, updates) ← (r.regSockAddr req.id info).handleSetupRequest .v2 smDs xapps req
      return (r, updates ++ [.toNode info ans]) := by
  rw [Registries.setupRequest, Registries.handleSetupRequest, printSetupRequest_of hid, generateSetupResponseIn_v2]
  simp only [Except.ok_bind, bind_assoc]
  rfl

end Answer

/-! ### The node in the registries -/

/-- The registries once the node of an answered request is in them. -/
def Registries.withNode (r : Registries) (req : E2SetupRequest) : Registries :=
  { r with
    connE2Nodes := r.connE2Nodes ++ [⟨req.id, (answerTo req).accepted⟩]
    iappE2Nodes := r.iappE2Nodes.insert req.id req.ranFuncItem }

/-- The acknowledge repeats what the configuration is about. -/
def Acknowledges (c : NodeComponentConfigAdd) (ack : NodeCompConfigAddAck) : Prop :=
  ack.e2NodeCompInterfaceType = c.e2NodeCompInterfaceType ∧ ack.e2NodeCompId = c.e2NodeCompId

/-- The answer `ans` splits the RAN functions of the request into those with a plug-in and the others, and acknowledges
each configuration in its place; what the registries `t` have and `r` had not is the node with the RAN functions that were
accepted. -/
structure Answered (sms : List SmRic) (r : Registries) (req : E2SetupRequest) (t : Registries) (ans : E2SetupResponse) :
    Prop where
  disjoint : ∀ id ∈ ans.accepted, id ∉ ans.rejected.map Prod.fst
  requested : ∀ id, id ∈ ans.accepted ∨ id ∈ ans.rejected.map Prod.fst ↔ id ∈ req.ranFuncItem.map RanFunction.id
  loaded : ∀ id ∈ req.ranFuncItem.map RanFunction.id, id ∈ ans.accepted ↔ Loaded sms id
  acks : List.Forall₂ Acknowledges req.compConfAdd ans.compConfigAddAck
  connE2Nodes : t.connE2Nodes = r.connE2Nodes ++ [⟨req.id, ans.accepted⟩]
  iappE2Nodes : ∃ rfs, t.iappE2Nodes.toList.Perm ((req.id, rfs) :: r.iappE2Nodes.toList) ∧
    rfs.map RanFunction.id = ans.accepted

section Registries
variable {v : E2apVersion} {smDs : PluginRic} {sms : List SmRic} {req : E2SetupRequest} {ans : E2SetupResponse}
  {xapps : MapXapps} {r t : Registries} {ms : List Sent}

theorem answered_answerTo (h : ∀ rf ∈ req.ranFuncItem, Loaded sms rf.id) :
    Answered sms r req (r.withNode req) (answerTo req) where
  disjoint := fun _ _ => List.not_mem_nil
  requested := fun _ => or_iff_left List.not_mem_nil
  loaded := by
    intro id hid
    obtain ⟨rf, hrf, rfl⟩ := List.mem_map.mp hid
    exact iff_of_true hid (h rf hrf)
  acks := List.forall₂_map_right_iff.mpr (List.forall₂_same.mpr fun _ _ => ⟨rfl, rfl⟩)
  connE2Nodes := rfl
  iappE2Nodes := ⟨req.ranFuncItem, toList_insert .., rfl⟩

theorem answerableIn_iff (hp : initPluginRic sms = .ok smDs) : AnswerableIn v sms req ↔
    req.ranFuncItem ≠ [] ∧ generateSetupResponseIn v smDs req = .ok (answerTo req) := by
  simp only [generateSetupResponseIn_eq_ok, mem_keys_iff hp, and_true]
  constructor
  · intro h
    exact ⟨h.functions, h.loaded, h.configs, h.supported⟩
  · rintro ⟨hfunctions, hloaded, hconfigs, hsupported⟩
    exact ⟨hfunctions, hloaded, hconfigs, hsupported⟩

/-- A request is handled when there is an answer to it, and then it gets that answer. -/
theorem handleSetupRequest_eq_ok (hp : initPluginRic sms = .ok smDs) (hid : req.id.type ≠ .eNBMbmsSta)
    (hnew : req.id ∉ ids r.iappE2Nodes) : r.handleSetupRequest v smDs xapps req = .ok (t, ans, ms) ↔
      AnswerableIn v sms req ∧ t = r.withNode req ∧ ans = answerTo req ∧ t.notifyXapps xapps = .ok ms := by
  rw [answerableIn_iff hp, Registries.handleSetupRequest, printSetupRequest_of hid, Except.ok_bind, Except.bind_eq_ok]
  constructor
  · rintro ⟨_, hadd, h⟩
    obtain ⟨hf, -, rfl⟩ := addE2NodeIapp_eq_ok.mp hadd
    obtain ⟨ans', hans, h⟩ := Except.bind_eq_ok.mp h
    obtain ⟨ms', hms, h⟩ := Except.bind_eq_ok.mp h
    obtain ⟨-, rfl⟩ := generateSetupResponseIn_eq_ok.mp hans
    cases h
    exact ⟨⟨hf, hans⟩, rfl, rfl, hms⟩
  · rintro ⟨⟨hf, hans⟩, rfl, rfl, hms⟩
    exact ⟨_, addE2NodeIapp_eq_ok.mpr ⟨hf, hnew, rfl⟩, Except.bind_eq_ok.mpr ⟨_, hans,
      Except.bind_eq_ok.mpr ⟨ms, hms, rfl⟩⟩⟩

end Registries

/-- The setup request of a node with two RAN functions, for concrete runs. -/
def twoFunctions : E2SetupRequest :=
  ⟨0, gnb, [⟨[], 2, 1, []⟩, ⟨[], 3, 1, []⟩], [⟨.ng, .ng [65]⟩, ⟨.f1, .f1 1⟩]⟩

theorem numberedInTurn_init : NumberedInTurn .init := fun i hi => absurd hi (Nat.not_lt_zero i)

/-- The plug-in for one of them only. -/
def plugin2 : PluginRic := AssocRbTree.init.insert 2 ⟨2⟩

end FlexRic.Ric
