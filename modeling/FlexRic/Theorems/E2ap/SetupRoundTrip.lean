import FlexRic.E2ap.DecSetupAsn
import FlexRic.Theorems.E2ap.NodeIdAsn
import FlexRic.Theorems.E2ap.RoundTrip
import FlexRic.Lib.Carried

/-! # What the PDUs of the messages about nodes carry

Five messages have the identity of a node, and it arrives in all of them in the same way. The rest of a message arrives
as it was, unless its lists are longer or its strings shorter than what the decoders admit. -/

namespace FlexRic.E2ap.Setup

/-! ### Messages in range, messages that are carried, and what arrives of them -/

/-- The numbers and the strings are those that the decoders admit. -/
structure RanFunctionCarried (f : RanFunction) : Prop where
  id_le : f.id ≤ maxRanFuncId
  rev_le : f.rev ≤ maxRanFuncRev
  definition_ne : f.definition ≠ []
  oid_ne : f.oid ≠ []

/-- A name is not empty. -/
def NodeCompId.Carried : NodeCompId → Prop
  | .ng amfName => amfName ≠ []
  | .s1 mmeName => mmeName ≠ []
  | _ => True

structure NodeComponentConfigAdd.Carried (c : NodeComponentConfigAdd) : Prop where
  id : c.e2NodeCompId.Carried
  request_ne : c.request ≠ []
  response_ne : c.response ≠ []

structure E2SetupRequest.Carried (m : E2SetupRequest) : Prop where
  ranFuncItem_lt : m.ranFuncItem.length < maxNumRanFuncId
  ranFuncItem : ∀ f ∈ m.ranFuncItem, RanFunctionCarried f
  compConfAdd_lt : m.compConfAdd.length < 1024
  compConfAdd : ∀ c ∈ m.compConfAdd, c.Carried

structure E2SetupResponse.Carried (m : E2SetupResponse) : Prop where
  one_list : m.accepted = [] ∨ m.rejected = []
  accepted_lt : m.accepted.length < maxNumRanFuncId
  accepted : ∀ id ∈ m.accepted, id.toNat < maxRanFuncId
  rejected : ∀ f ∈ m.rejected, f.1.toNat < maxRanFuncId
  compConfigAddAck_lt : m.compConfigAddAck.length < maxNumE2NodeComponents
  compConfigAddAck : ∀ c ∈ m.compConfigAddAck, c.e2NodeCompId.Carried

namespace Msg

/-- The numbers are in the ranges of their types, and the networks have codes. -/
def InRange : Msg → Prop
  | e2SetupRequest m => m.id.InRange
  | e2SetupResponse m => m.plmn.Valid
  | e42SetupRequest _ => True
  | e42SetupResponse _ nodes | e42UpdateE2Node _ nodes => nodes.length < 256 ∧ ∀ n ∈ nodes, n.1.InRange
  | e42RicSubscriptionRequest _ id sr => id.InRange ∧ (FunctionalMsg.subscriptionRequest sr).InRange
  | e42RicSubscriptionDeleteRequest _ sdr => sdr.ricId.InRange
  | e42RicControlRequest _ id ctrlReq => id.InRange ∧ ctrlReq.ricId.InRange

/-- The message has nothing that its decoder refuses. -/
def Carried : Msg → Prop
  | e2SetupRequest m => m.Carried
  | e2SetupResponse m => m.Carried
  | e42SetupRequest ranFuncItem => ranFuncItem ≠ [] ∧ ∀ f ∈ ranFuncItem, RanFunctionCarried f
  | e42SetupResponse _ nodes | e42UpdateE2Node _ nodes => ∀ n ∈ nodes, ∀ f ∈ n.2, RanFunctionCarried f
  | e42RicSubscriptionRequest _ _ sr => (FunctionalMsg.subscriptionRequest sr).Carried
  | e42RicSubscriptionDeleteRequest _ sdr => sdr.ricId.ranFuncId < maxRanFuncId
  | e42RicControlRequest _ _ ctrlReq => ctrlReq.ricId.ranFuncId < maxRanFuncId

/-- What arrives of a node and its RAN functions -/
def receivedNode (n : E2NodeConnected) : E2NodeConnected := (n.1.received, n.2)

/-- What arrives of a message; a RIC has an identity of 20 bits. -/
def received : Msg → Msg
  | e2SetupRequest m => e2SetupRequest { m with id := m.id.received }
  | e2SetupResponse m => e2SetupResponse { m with nearRicId := m.nearRicId % 2 ^ 20 }
  | e42SetupRequest ranFuncItem => e42SetupRequest ranFuncItem
  | e42SetupResponse xappId nodes => e42SetupResponse xappId (nodes.map receivedNode)
  | e42UpdateE2Node xappId nodes => e42UpdateE2Node xappId (nodes.map receivedNode)
  | e42RicSubscriptionRequest xappId id sr => e42RicSubscriptionRequest xappId id.received sr
  | e42RicSubscriptionDeleteRequest xappId sdr => e42RicSubscriptionDeleteRequest xappId sdr
  | e42RicControlRequest xappId id ctrlReq => e42RicControlRequest xappId id.received ctrlReq

/-- The identities of nodes in a message -/
def nodeIds : Msg → List GlobalE2NodeId
  | e2SetupRequest m => [m.id]
  | e42SetupResponse _ nodes | e42UpdateE2Node _ nodes => nodes.map Prod.fst
  | e42RicSubscriptionRequest _ id _ | e42RicControlRequest _ id _ => [id]
  | e2SetupResponse _ | e42SetupRequest _ | e42RicSubscriptionDeleteRequest .. => []

/-- The identities of the message arrive as they are. -/
def Exact (m : Msg) : Prop :=
  (∀ id ∈ m.nodeIds, id.Exact) ∧ ∀ sr, m = e2SetupResponse sr → sr.nearRicId < 2 ^ 20

theorem nodeIds_received (m : Msg) : m.received.nodeIds = m.nodeIds.map GlobalE2NodeId.received := by
  cases m <;> simp [received, nodeIds, receivedNode, Function.comp_def]

theorem received_of_exact {m : Msg} (h : m.Exact) : m.received = m := by
  obtain ⟨hids, hric⟩ := h
  have hnodes {nodes : List E2NodeConnected} (h : ∀ id ∈ nodes.map Prod.fst, id.Exact) :
      nodes.map receivedNode = nodes := by
    refine (List.map_congr_left fun n hn => ?_).trans (List.map_id nodes)
    rw [receivedNode, GlobalE2NodeId.received_of_exact (h n.1 (List.mem_map_of_mem hn))]
    rfl
  cases m with
  | e2SetupRequest m => rw [received, GlobalE2NodeId.received_of_exact (hids m.id (List.mem_singleton_self _))]
  | e2SetupResponse m => rw [received, Nat.mod_eq_of_lt (hric m rfl)]
  | e42SetupRequest => rfl
  | e42SetupResponse xappId nodes => rw [received, hnodes hids]
  | e42UpdateE2Node xappId nodes => rw [received, hnodes hids]
  | e42RicSubscriptionRequest xappId id sr =>
    rw [received, GlobalE2NodeId.received_of_exact (hids id (List.mem_singleton_self _))]
  | e42RicSubscriptionDeleteRequest => rfl
  | e42RicControlRequest xappId id ctrlReq =>
    rw [received, GlobalE2NodeId.received_of_exact (hids id (List.mem_singleton_self _))]

end Msg

/-! ### Elements -/

@[simp]
theorem checkIe_self {V : Type} {id : IeId} {c : Criticality} {v : V} : checkIe ⟨id, c, v⟩ id c = .ok () := by
  rw [checkIe, require_of rfl, Except.ok_bind, require_of rfl]

@[simp]
theorem ownValue_own {id : IeId} {v : IeValue} : ownValue (.own ⟨id, .reject, v⟩) id = .ok v := by
  rw [ownValue, checkIe_self]
  rfl

theorem decMessage_of {present : PduPresent} {code : ProcedureCode} {c : Criticality} {value : MessageValue}
    {ies : List PduIe} {crit : Option Criticality} (hc : ∀ c' ∈ crit, c = c') :
    decMessage ⟨present, code, c, value, ies⟩ present code crit value = .ok () := by
  simp only [decMessage, require_of, require_of hc, Except.ok_bind]

section Pdu
variable {p : Pdu} {ies : List PduIe}

theorem decTransactionId_of {transId : UInt8} (hp : p.ies = transactionIdIe transId :: ies) :
    decTransactionId p = .ok transId := by
  have h0 : ieAt p 0 = .ok (transactionIdIe transId) := by simp [ieAt, hp]
  rw [decTransactionId, h0, Except.ok_bind, transactionIdIe, ownValue_own, Except.ok_bind]
  simp only [require_of (show transId.toNat < 256 from transId.toNat_lt), Except.ok_bind, UInt8.ofNat_toNat, Except.pure_eq]

theorem decXappId_of {xappId : UInt16} (hp : p.ies = xappIdIe xappId :: ies) : decXappId p = .ok xappId := by
  have h0 : ieAt p 0 = .ok (xappIdIe xappId) := by simp [ieAt, hp]
  rw [decXappId, h0, Except.ok_bind, xappIdIe, ownValue_own, Except.ok_bind]
  simp only [UInt16.ofNat_toNat, Except.pure_eq]

theorem decGlobalE2NodeIdAt_of {id : GlobalE2NodeId} {v : GlobalE2NodeIdAsn} {ie : PduIe} (hid : id.InRange)
    (h : encGlobalE2NodeId id = .ok v) (hp : p.ies = ie :: globalE2NodeIdIe v :: ies) :
    decGlobalE2NodeIdAt p 1 = .ok id.received := by
  have h1 : ieAt p 1 = .ok (globalE2NodeIdIe v) := by simp [ieAt, hp]
  rw [decGlobalE2NodeIdAt, h1, Except.ok_bind, globalE2NodeIdIe, ownValue_own, Except.ok_bind]
  exact decGlobalE2NodeId_enc hid h

/-- The identifier of a request, after the elements of `before` -/
theorem decRicIdAt_of {r : RicGenId} (before : List PduIe) {crit : Option Criticality} {bounded : Bool}
    {bound : Option Nat} {l : List (E2ap.Ie E2ap.IeValue)} (hr : r.InRange) (hc : ∀ c ∈ crit, Criticality.reject = c)
    (hb : ∀ b ∈ bound, r.ranFuncId < b) (hp : p.ies = before ++ functionalIes (idIes r ++ l)) :
    decRicIdAt p before.length crit bounded bound = .ok r := by
  obtain ⟨hreq, hinst, hfunc⟩ := hr
  have h0 : functionalAt p before.length = .ok ⟨.ricRequestId, .reject, .ricRequestId r.ricReqId r.ricInstId⟩ := by
    simp [functionalAt, ieAt, hp, functionalIes, idIes]
  have h1 : functionalAt p (before.length + 1) = .ok ⟨.ranFunctionId, .reject, .ranFunctionId r.ranFuncId⟩ := by
    simp [functionalAt, ieAt, hp, functionalIes, idIes]
  rw [decRicIdAt, h0, h1]
  simp only [Except.ok_bind, decRicRequestId_eq hreq hinst hc, decRanFunctionId_eq hfunc hc, if_pos hb, Except.pure_eq]

end Pdu

/-- A loop over a list that is left out when it is empty -/
theorem foldlM_unlessEmpty {S A : Type} {f : S → PduIe → Except String S} {ie : List A → PduIe} {l : List A} {s s' : S}
    (hnil : l = [] → s' = s) (h : l ≠ [] → f s (ie l) = .ok s') : (unlessEmpty ie l).foldlM f s = .ok s' := by
  by_cases hl : l = []
  · rw [unlessEmpty, if_pos hl, hnil hl]
    rfl
  · rw [unlessEmpty, if_neg hl, List.foldlM_cons, h hl]
    rfl

theorem length_unlessEmpty {A : Type} {ie : List A → PduIe} {l : List A} :
    (unlessEmpty ie l).length = if l = [] then 0 else 1 := by
  unfold unlessEmpty
  split <;> rfl

theorem reverse_unlessEmpty {A : Type} {ie : List A → PduIe} {l : List A} :
    (unlessEmpty ie l).reverse = unlessEmpty ie l := by
  unfold unlessEmpty
  split <;> rfl

/-! ### RAN functions and components -/

theorem decRanFunction_enc {f : RanFunction} (h : RanFunctionCarried f) : decRanFunction (encRanFunction f) = .ok f := by
  have hrev : -1 < (f.rev : Int) ∧ (f.rev : Int) ≤ maxRanFuncRev := ⟨by omega, Int.ofNat_le.mpr h.rev_le⟩
  rw [decRanFunction, encRanFunction]
  simp only [require_of h.id_le, require_of hrev, copyOstringToBa_of_ne h.definition_ne, copyOstringToBa_of_ne h.oid_ne,
    Except.ok_bind, Int.toNat_natCast, Except.pure_eq]

theorem decRanFunction_list {l : List RanFunction} (h : ∀ f ∈ l, RanFunctionCarried f) :
    (l.map encRanFunction).mapM decRanFunction = .ok l :=
  Except.mapM_map fun f hf => decRanFunction_enc (h f hf)

theorem decNodeComponentId_enc {id : NodeCompId} {v : NodeComponentIdAsn} (hid : id.Carried)
    (h : encNodeComponentId id = .ok v) : decNodeComponentId id.type v = .ok id := by
  cases id with
  | xn | x2 => cases h
  | ng name | s1 name =>
    obtain rfl := Except.ok.inj h
    simp only [NodeCompId.type, decNodeComponentId, require_of, copyOstringToBa_of_ne hid, Except.ok_bind, Except.pure_eq]
  | e1 n | f1 n | w1 n =>
    obtain rfl := Except.ok.inj h
    simp only [NodeCompId.type, decNodeComponentId, require_of, Except.ok_bind, UInt64.ofNat_toNat, Except.pure_eq]

theorem decConfigAddition_enc {c : NodeComponentConfigAdd} {ie : Ie (Option ConfigAdditionItem)} (hc : c.Carried)
    (h : encConfigAddition c = .ok ie) : decConfigAddition ie = .ok c := by
  obtain ⟨id, hid, h⟩ := Except.bind_eq_ok.mp h
  obtain rfl := Except.ok.inj h
  rw [decConfigAddition, checkIe_self]
  simp only [Except.ok_bind, decNodeComponentId_enc hc.id hid, copyOstringToBa_of_ne hc.request_ne,
    copyOstringToBa_of_ne hc.response_ne, Except.pure_eq]

theorem decFailureCause_enc {o : Option Cause} {v : Option CauseAsn} (h : encFailureCause o = .ok v) :
    decFailureCause v = .ok o := by
  cases o with
  | none =>
    obtain rfl := Except.ok.inj h
    rfl
  | some c =>
    rw [encFailureCause] at h
    cases hc : encCause c with
    | error => simp [hc, Except.map] at h
    | ok v =>
      rw [hc] at h
      obtain rfl := Except.ok.inj h
      rw [decFailureCause, decCause_encCause hc]
      rfl

theorem decConfigAdditionAck_enc {c : NodeCompConfigAddAck} {ie : Ie (Option ConfigAdditionAckItem)}
    (hc : c.e2NodeCompId.Carried) (h : encConfigAdditionAck c = .ok ie) : decConfigAdditionAck ie = .ok c := by
  obtain ⟨id, hid, h⟩ := Except.bind_eq_ok.mp h
  obtain ⟨cause, hcause, h⟩ := Except.bind_eq_ok.mp h
  obtain rfl := Except.ok.inj h
  rw [decConfigAdditionAck, checkIe_self]
  simp only [Except.ok_bind, decNodeComponentId_enc hc hid, decFailureCause_enc hcause, Except.pure_eq]

/-! ### E2 setup -/

theorem decSetupRequest_enc {m : E2SetupRequest} {pdu : Pdu} (hid : m.id.InRange) (hm : m.Carried)
    (h : encSetupRequest m = .ok pdu) : decSetupRequest pdu = .ok { m with id := m.id.received } := by
  obtain ⟨_, -, h⟩ := Except.bind_eq_ok.mp h
  obtain ⟨id, henc, h⟩ := Except.bind_eq_ok.mp h
  obtain ⟨_, hne, h⟩ := Except.bind_eq_ok.mp h
  obtain ⟨config, hconfig, h⟩ := Except.bind_eq_ok.mp h
  obtain rfl := Except.ok.inj h
  rw [require_eq_ok] at hne
  have config_count : config.length = m.compConfAdd.length := Except.length_of_mapM hconfig
  have config_sized : 0 < config.length ∧ config.length < 1024 :=
    config_count ▸ ⟨List.length_pos_iff.mpr hne, hm.compConfAdd_lt⟩
  have config_decoded : config.mapM decConfigAddition = .ok m.compConfAdd :=
    (Except.mapM_round_trip hconfig).mpr fun c hc ie hie => decConfigAddition_enc (hm.compConfAdd c hc) hie
  have ran_sized : (m.ranFuncItem.map encRanFunction).length < maxNumRanFuncId := by
    rw [List.length_map]
    exact hm.ranFuncItem_lt
  rw [decSetupRequest, decMessage_of (by simp), Except.ok_bind, require_of, Except.ok_bind]
  · rw [decTransactionId_of rfl, Except.ok_bind, decGlobalE2NodeIdAt_of hid henc rfl, Except.ok_bind]
    -- The loop begins at the last element.
    show List.foldlM _ _ (unlessEmpty ranFunctionsAddedIe m.ranFuncItem ++ [_]).reverse = _
    rw [List.reverse_append, List.reverse_singleton, List.singleton_append, List.foldlM_cons, reverse_unlessEmpty]
    simp only [decSetupRequestIe, require_of, require_of config_sized, config_decoded, Except.ok_bind, Except.pure_eq]
    refine foldlM_unlessEmpty (fun hnil => by rw [hnil]) fun _ => ?_
    simp only [ranFunctionsAddedIe, decSetupRequestIe, require_of, require_of ran_sized,
      decRanFunction_list hm.ranFuncItem, Except.ok_bind, Except.pure_eq]
  · simp only [List.length_append, length_unlessEmpty, List.length_cons, List.length_nil]
    split <;> decide

theorem decAccepted_enc {id : UInt16} (h : id.toNat < maxRanFuncId) : decAccepted (encAccepted id) = .ok id := by
  rw [decAccepted, encAccepted, checkIe_self]
  simp only [Except.ok_bind, require_of h, UInt16.ofNat_toNat, Except.pure_eq]

/-- The causes of a response have a switch of their own, with the bounds of the encoder. -/
theorem decNotAdmittedCause_encCause {c : Cause} {v : CauseAsn} (h : encCause c = .ok v) :
    decNotAdmittedCause v = .ok c := by
  have hdec := decCause_encCause h
  cases v with
  | ricRequest n =>
    obtain ⟨_, -, hc⟩ := Except.bind_eq_ok.mp hdec
    obtain rfl := Except.ok.inj hc
    obtain ⟨_, hn, -⟩ := Except.bind_eq_ok.mp h
    rw [decNotAdmittedCause, require_of (require_eq_ok.mp hn).2]
    rfl
  | e2Node => cases hdec
  | nothing | ricService | transport | protocol | misc => exact hdec

theorem decRejected_enc {f : UInt16 × Cause} {ie : Ie (Option RanFunctionIdCauseItem)} (hf : f.1.toNat < maxRanFuncId)
    (h : encRejected f = .ok ie) : decRejected ie = .ok f := by
  obtain ⟨cause, hcause, h⟩ := Except.bind_eq_ok.mp h
  obtain rfl := Except.ok.inj h
  rw [decRejected, checkIe_self]
  simp only [Except.ok_bind, require_of hf, decNotAdmittedCause_encCause hcause, UInt16.ofNat_toNat, Except.pure_eq]

theorem decGlobalRicId_of {p : Pdu} {ie : PduIe} {ies : List PduIe} {plmn : E2apPlmn} {nearRicId : Nat}
    (hplmn : plmn.Valid) (hp : p.ies = ie ::
      .own ⟨.globalRicId, .reject, .globalRicId (encPlmn plmn) (encMacroEnbId nearRicId)⟩ :: ies) :
    decGlobalRicId p = .ok (plmn, nearRicId % 2 ^ 20) := by
  have h1 : ieAt p 1 = .ok (.own ⟨.globalRicId, .reject, .globalRicId (encPlmn plmn) (encMacroEnbId nearRicId)⟩) := by
    simp [ieAt, hp]
  rw [decGlobalRicId, h1, Except.ok_bind, ownValue_own, Except.ok_bind]
  simp only [decMacroEnbId_enc, decPlmn_encPlmn hplmn, Except.ok_bind, Except.pure_eq]

theorem decSetupResponse_enc {m : E2SetupResponse} {pdu : Pdu} (hplmn : m.plmn.Valid) (hm : m.Carried)
    (h : encSetupResponse m = .ok pdu) :
    decSetupResponse pdu = .ok { m with nearRicId := m.nearRicId % 2 ^ 20 } := by
  obtain ⟨_, -, h⟩ := Except.bind_eq_ok.mp h
  obtain ⟨_, -, h⟩ := Except.bind_eq_ok.mp h
  obtain ⟨_, -, h⟩ := Except.bind_eq_ok.mp h
  obtain ⟨rejected, hrejected, h⟩ := Except.bind_eq_ok.mp h
  obtain ⟨_, hccaa, h⟩ := Except.bind_eq_ok.mp h
  obtain ⟨config, hconfig, h⟩ := Except.bind_eq_ok.mp h
  obtain rfl := Except.ok.inj h
  have config_sized : config.length < maxNumE2NodeComponents :=
    Except.length_of_mapM hconfig ▸ hm.compConfigAddAck_lt
  have config_decoded : config.mapM decConfigAdditionAck = .ok m.compConfigAddAck :=
    (Except.mapM_round_trip hconfig).mpr fun c hc ie hie => decConfigAdditionAck_enc (hm.compConfigAddAck c hc) hie
  have rejected_decoded : rejected.mapM decRejected = .ok m.rejected :=
    (Except.mapM_round_trip hrejected).mpr fun f hf ie hie => decRejected_enc (hm.rejected f hf) hie
  have rejected_eq_nil : rejected = [] → m.rejected = [] := by
    intro hnil
    rw [hnil] at rejected_decoded
    exact (Except.ok.inj rejected_decoded).symm
  have accepted_sized : (m.accepted.map encAccepted).length < maxNumRanFuncId := by
    rw [List.length_map]
    exact hm.accepted_lt
  have accepted_decoded : (m.accepted.map encAccepted).mapM decAccepted = .ok m.accepted :=
    Except.mapM_map fun id hid => decAccepted_enc (hm.accepted id hid)
  rw [decSetupResponse, decMessage_of (by simp), Except.ok_bind, require_of, Except.ok_bind]
  · rw [decTransactionId_of rfl, Except.ok_bind, decGlobalRicId_of hplmn rfl, Except.ok_bind]
    -- The loop begins at the last element.
    show List.foldlM _ _ (unlessEmpty _ m.accepted ++ unlessEmpty _ rejected ++ [_]).reverse = _
    rw [List.reverse_append, List.reverse_singleton, List.singleton_append, List.foldlM_cons, List.reverse_append,
      reverse_unlessEmpty, reverse_unlessEmpty]
    simp only [decSetupResponseIe, require_of, require_of config_sized, config_decoded, Except.ok_bind, Except.pure_eq]
    rw [List.foldlM_append]
    refine Except.bind_eq_ok.mpr ⟨⟨m.transId, m.plmn, m.nearRicId % 2 ^ 20, [], m.rejected, m.compConfigAddAck⟩,
      foldlM_unlessEmpty (fun hnil => by rw [rejected_eq_nil hnil]) fun _ => ?_,
      foldlM_unlessEmpty (fun hnil => by rw [hnil]) fun _ => ?_⟩
    · simp only [decSetupResponseIe, require_of, rejected_decoded, Except.ok_bind, Except.pure_eq]
    · simp only [decSetupResponseIe, require_of, require_of accepted_sized, accepted_decoded, Except.ok_bind,
        Except.pure_eq]
  · have hone : m.accepted = [] ∨ rejected = [] := by
      refine hm.one_list.imp_right fun hnil => ?_
      rw [hnil] at hrejected
      exact (Except.ok.inj hrejected).symm
    simp only [List.length_append, length_unlessEmpty, List.length_cons, List.length_nil]
    rcases hone with hnil | hnil
    · rw [if_pos hnil]
      split <;> decide
    · rw [if_pos hnil]
      split <;> decide

/-! ### E42 -/

theorem decE42SetupRequest_enc {l : List RanFunction} {pdu : Pdu} (hne : l ≠ []) (hl : ∀ f ∈ l, RanFunctionCarried f)
    (h : encE42SetupRequest l = .ok pdu) : decE42SetupRequest pdu = .ok l := by
  obtain ⟨_, -, h⟩ := Except.bind_eq_ok.mp h
  obtain rfl := Except.ok.inj h
  rw [unlessEmpty, if_neg hne, decE42SetupRequest, decMessage_of (by simp), Except.ok_bind,
    require_of (by simp), Except.ok_bind]
  refine Except.bind_eq_ok.mpr ⟨ranFunctionsAddedIe l, rfl, ?_⟩
  rw [ranFunctionsAddedIe, ownValue_own, Except.ok_bind]
  exact decRanFunction_list hl

theorem decNodeConnected_enc {n : E2NodeConnected} {ie : PduIe} (hid : n.1.InRange)
    (hl : ∀ f ∈ n.2, RanFunctionCarried f) (h : encNodeConnected n = .ok ie) :
    decNodeConnected ie = .ok (Msg.receivedNode n) := by
  obtain ⟨id, henc, h⟩ := Except.bind_eq_ok.mp h
  obtain rfl := Except.ok.inj h
  rw [decNodeConnected, ownValue_own, Except.ok_bind]
  simp only [decConnectedList, checkIe_self, decGlobalE2NodeId_enc hid henc, decRanFunction_list hl, Except.ok_bind,
    Except.pure_eq, Msg.receivedNode]

/-- Both messages with nodes have their list in the same elements. -/
theorem decNodes_enc {xappId : UInt16} {nodes : List E2NodeConnected} {p : Pdu} {ies : List PduIe}
    (hlen : nodes.length < 256) (hids : ∀ n ∈ nodes, n.1.InRange) (hl : ∀ n ∈ nodes, ∀ f ∈ n.2, RanFunctionCarried f)
    (henc : nodes.mapM encNodeConnected = .ok ies) (hp : p.ies = xappIdIe xappId :: ies) :
    decNodes p = .ok (xappId, nodes.map Msg.receivedNode) := by
  have nodes_carried : CarriedAs (List.mapM encNodeConnected) (List.mapM decNodeConnected) nodes
      (nodes.map Msg.receivedNode) (∀ n ∈ nodes, True) :=
    CarriedAs.mapM fun n hn => CarriedAs.of_ok fun ie hie => decNodeConnected_enc (hids n hn) (hl n hn) hie
  have nodes_decoded : ies.mapM decNodeConnected = .ok (nodes.map Msg.receivedNode) :=
    nodes_carried.ok (fun _ _ => trivial) henc
  have hdrop : p.ies.drop 1 = ies := by rw [hp, List.drop_one, List.tail_cons]
  rw [decNodes, require_of (by simp [hp]), Except.ok_bind, decXappId_of hp, Except.ok_bind, hdrop, nodes_decoded,
    Except.ok_bind, carried, List.length_map, Nat.mod_eq_of_lt hlen, List.take_of_length_le (by rw [List.length_map])]
  rfl

theorem decE42SubscriptionRequest_enc {xappId : UInt16} {id : GlobalE2NodeId} {sr : RicSubscriptionRequest} {pdu : Pdu}
    (hid : id.InRange) (hr : (FunctionalMsg.subscriptionRequest sr).InRange)
    (hm : (FunctionalMsg.subscriptionRequest sr).Carried) (h : encE42SubscriptionRequest xappId id sr = .ok pdu) :
    decE42SubscriptionRequest pdu = .ok (xappId, id.received, sr) := by
  obtain ⟨hric, hnumbers⟩ := hr
  obtain ⟨htrigger, hne, hactions⟩ := hm
  obtain ⟨_, -, h⟩ := Except.bind_eq_ok.mp h
  obtain ⟨_, hlen, h⟩ := Except.bind_eq_ok.mp h
  obtain ⟨v, henc, h⟩ := Except.bind_eq_ok.mp h
  obtain ⟨actions, hmapM, h⟩ := Except.bind_eq_ok.mp h
  obtain rfl := Except.ok.inj h
  rw [require_eq_ok] at hlen
  have actions_count : actions.length = sr.action.length := Except.length_of_mapM hmapM
  have actions_sized : actions.length > 0 ∧ actions.length ≤ maxNumActionDef :=
    actions_count ▸ ⟨List.length_pos_iff.mpr hne, hlen⟩
  have actions_decoded : actions.mapM decAction = .ok sr.action := (decAction_list hnumbers hmapM).mpr hactions
  rw [decE42SubscriptionRequest, decMessage_of (by simp), Except.ok_bind, require_of (by rfl), Except.ok_bind,
    decXappId_of rfl, Except.ok_bind, decGlobalE2NodeIdAt_of hid henc rfl, Except.ok_bind]
  refine Except.bind_eq_ok.mpr ⟨sr.ricId, decRicIdAt_of [xappIdIe xappId, globalE2NodeIdIe v] hric (by simp) (by simp) rfl, ?_⟩
  refine Except.bind_eq_ok.mpr ⟨_, rfl, ?_⟩
  simp only [E2ap.checkIe_some, decEventTrigger_eq_ok.mpr htrigger, require_of actions_sized, actions_decoded,
    Except.ok_bind, Except.pure_eq]

theorem decE42SubscriptionDeleteRequest_enc {xappId : UInt16} {sdr : RicSubscriptionDeleteRequest}
    (hr : sdr.ricId.InRange) (hfunc : sdr.ricId.ranFuncId < maxRanFuncId) :
    decE42SubscriptionDeleteRequest (encE42SubscriptionDeleteRequest xappId sdr) = .ok (xappId, sdr) := by
  rw [decE42SubscriptionDeleteRequest, encE42SubscriptionDeleteRequest, decMessage_of (by simp), Except.ok_bind,
    decXappId_of rfl, Except.ok_bind]
  refine Except.bind_eq_ok.mpr ⟨sdr.ricId, ?_, rfl⟩
  refine decRicIdAt_of [xappIdIe xappId] hr (by simp) (by simpa using hfunc) (?_ : _ = _ ++ functionalIes (_ ++ []))
  rw [List.append_nil]
  rfl

theorem decE42ControlRequest_enc {xappId : UInt16} {id : GlobalE2NodeId} {req : RicControlRequest} {pdu : Pdu}
    (hid : id.InRange) (hr : req.ricId.InRange) (hfunc : req.ricId.ranFuncId < maxRanFuncId)
    (h : encE42ControlRequest xappId id req = .ok pdu) : decE42ControlRequest pdu = .ok (xappId, id.received, req) := by
  obtain ⟨_, hhdr, h⟩ := Except.bind_eq_ok.mp h
  obtain ⟨_, hmsg, h⟩ := Except.bind_eq_ok.mp h
  obtain ⟨v, henc, h⟩ := Except.bind_eq_ok.mp h
  obtain ⟨l, hl, h⟩ := Except.bind_eq_ok.mp h
  obtain ⟨hcp, rfl⟩ := encOptional_eq_ok.mp hl
  obtain rfl := Except.ok.inj h
  rw [require_eq_ok] at hhdr hmsg
  rw [decE42ControlRequest, decMessage_of (by simp), Except.ok_bind, decXappId_of rfl, Except.ok_bind,
    decGlobalE2NodeIdAt_of hid henc rfl, Except.ok_bind, List.append_assoc, List.append_assoc]
  refine Except.bind_eq_ok.mpr ⟨req.ricId, decRicIdAt_of [xappIdIe xappId, globalE2NodeIdIe v] hr (by simp)
    (by simpa using hfunc) rfl, ?_⟩
  refine Except.bind_eq_ok.mpr ⟨req, ?_, rfl⟩
  show List.foldlM decE42ControlRequestIe _ (List.map .functional _) = _
  rw [List.foldlM_map, ← decControlRequestIe_loop hhdr hmsg hcp, List.append_assoc]
  rfl

/-! ### Every message -/

/-- The type of the PDU that the message is mapped to -/
def Msg.type : Msg → E2MsgType
  | e2SetupRequest _ => .e2SetupRequest
  | e2SetupResponse _ => .e2SetupResponse
  | e42SetupRequest _ => .e42SetupRequest
  | e42SetupResponse .. => .e42SetupResponse
  | e42UpdateE2Node .. => .e42UpdateE2Node
  | e42RicSubscriptionRequest .. => .e42RicSubscriptionRequest
  | e42RicSubscriptionDeleteRequest .. => .e42RicSubscriptionDeleteRequest
  | e42RicControlRequest .. => .e42RicControlRequest

theorem getMsgType_encMsg {m : Msg} {pdu : Pdu} (h : encMsg m = .ok pdu) :
    getMsgType ⟨pdu.present, pdu.procedureCode, pdu.criticality, .other, []⟩ = .ok m.type := by
  cases m with
  | e2SetupRequest m =>
    obtain ⟨_, -, h⟩ := Except.bind_eq_ok.mp h
    obtain ⟨_, -, h⟩ := Except.bind_eq_ok.mp h
    obtain ⟨_, -, h⟩ := Except.bind_eq_ok.mp h
    obtain ⟨_, -, h⟩ := Except.bind_eq_ok.mp h
    obtain rfl := Except.ok.inj h
    rfl
  | e2SetupResponse m =>
    obtain ⟨_, -, h⟩ := Except.bind_eq_ok.mp h
    obtain ⟨_, -, h⟩ := Except.bind_eq_ok.mp h
    obtain ⟨_, -, h⟩ := Except.bind_eq_ok.mp h
    obtain ⟨_, -, h⟩ := Except.bind_eq_ok.mp h
    obtain ⟨_, -, h⟩ := Except.bind_eq_ok.mp h
    obtain ⟨_, -, h⟩ := Except.bind_eq_ok.mp h
    obtain rfl := Except.ok.inj h
    rfl
  | e42SetupRequest l =>
    obtain ⟨_, -, h⟩ := Except.bind_eq_ok.mp h
    obtain rfl := Except.ok.inj h
    rfl
  | e42SetupResponse xappId nodes | e42UpdateE2Node xappId nodes =>
    obtain ⟨_, -, h⟩ := Except.bind_eq_ok.mp h
    obtain rfl := Except.ok.inj h
    rfl
  | e42RicSubscriptionRequest xappId id sr =>
    obtain ⟨_, -, h⟩ := Except.bind_eq_ok.mp h
    obtain ⟨_, -, h⟩ := Except.bind_eq_ok.mp h
    obtain ⟨_, -, h⟩ := Except.bind_eq_ok.mp h
    obtain ⟨_, -, h⟩ := Except.bind_eq_ok.mp h
    obtain rfl := Except.ok.inj h
    rfl
  | e42RicSubscriptionDeleteRequest xappId sdr =>
    obtain rfl := Except.ok.inj h
    rfl
  | e42RicControlRequest xappId id req =>
    obtain ⟨_, -, h⟩ := Except.bind_eq_ok.mp h
    obtain ⟨_, -, h⟩ := Except.bind_eq_ok.mp h
    obtain ⟨_, -, h⟩ := Except.bind_eq_ok.mp h
    obtain ⟨_, -, h⟩ := Except.bind_eq_ok.mp h
    obtain rfl := Except.ok.inj h
    rfl

theorem decPdu_encMsg {m : Msg} {pdu : Pdu} (hr : m.InRange) (hm : m.Carried) (h : encMsg m = .ok pdu) :
    decPdu pdu = .ok m.received := by
  rw [decPdu, getMsgType_encMsg h, Except.ok_bind]
  cases m with
  | e2SetupRequest m =>
    exact Except.bind_eq_ok.mpr ⟨_, decSetupRequest_enc hr hm h, rfl⟩
  | e2SetupResponse m =>
    exact Except.bind_eq_ok.mpr ⟨_, decSetupResponse_enc hr hm h, rfl⟩
  | e42SetupRequest l =>
    exact Except.bind_eq_ok.mpr ⟨_, decE42SetupRequest_enc hm.1 hm.2 h, rfl⟩
  | e42SetupResponse xappId nodes =>
    obtain ⟨ies, hies, h⟩ := Except.bind_eq_ok.mp h
    obtain rfl := Except.ok.inj h
    refine Except.bind_eq_ok.mpr ⟨(xappId, nodes.map Msg.receivedNode), ?_, rfl⟩
    rw [decE42SetupResponse, decMessage_of (by simp), Except.ok_bind]
    exact decNodes_enc hr.1 hr.2 hm hies rfl
  | e42UpdateE2Node xappId nodes =>
    obtain ⟨ies, hies, h⟩ := Except.bind_eq_ok.mp h
    obtain rfl := Except.ok.inj h
    refine Except.bind_eq_ok.mpr ⟨(xappId, nodes.map Msg.receivedNode), ?_, rfl⟩
    rw [decE42UpdateE2Node, decMessage_of (by simp), Except.ok_bind]
    exact decNodes_enc hr.1 hr.2 hm hies rfl
  | e42RicSubscriptionRequest xappId id sr =>
    exact Except.bind_eq_ok.mpr ⟨_, decE42SubscriptionRequest_enc hr.1 hr.2 hm h, rfl⟩
  | e42RicSubscriptionDeleteRequest xappId sdr =>
    obtain rfl := Except.ok.inj h
    exact Except.bind_eq_ok.mpr ⟨_, decE42SubscriptionDeleteRequest_enc hr hm, rfl⟩
  | e42RicControlRequest xappId id req =>
    exact Except.bind_eq_ok.mpr ⟨_, decE42ControlRequest_enc hr.1 hr.2 hm h, rfl⟩

/-- A message arrives with the identities that `received` gives its nodes, which are those that it had unless one is of
a CU-UP or of an eNB with more than a macro identity; so no two other nodes become equal. -/
theorem messages_received (m : Msg) (pdu : Pdu) (hr : m.InRange) (hm : m.Carried) (h : encMsg m = .ok pdu) :
    decPdu pdu = .ok m.received ∧ m.received.nodeIds = m.nodeIds.map GlobalE2NodeId.received ∧
      (m.Exact → decPdu pdu = .ok m) ∧
      ∀ a b : GlobalE2NodeId, a.Exact → b.Exact → a.received = b.received → a = b := by
  have hdec := decPdu_encMsg hr hm h
  refine ⟨hdec, m.nodeIds_received, fun hexact => ?_, fun a b ha hb hab => ?_⟩
  · rw [hdec, Msg.received_of_exact hexact]
  · rwa [GlobalE2NodeId.received_of_exact ha, GlobalE2NodeId.received_of_exact hb] at hab

/-- A gNB with a RAN function and a DU of it, in an update for an xApp -/
def updateOfDu : Msg :=
  .e42UpdateE2Node 7 [(gnb, [⟨[1], 2, 1, [2]⟩]), (⟨.gNBDu, ⟨505, 1, 2⟩, 3584, 0, some 5, rfl⟩, [])]

theorem update_received : ∃ pdu, encMsg updateOfDu = .ok pdu ∧ decPdu pdu = .ok updateOfDu := by
  have hr : updateOfDu.InRange := by
    simp [updateOfDu, Msg.InRange, GlobalE2NodeId.InRange, E2apPlmn.Valid, gnb]
  have hm : updateOfDu.Carried := by
    simp only [updateOfDu, Msg.Carried, List.forall_mem_cons, List.not_mem_nil, false_imp_iff, implies_true, and_true]
    exact ⟨by decide, by decide, by decide, by decide⟩
  have hexact : updateOfDu.Exact := by
    simp [updateOfDu, Msg.Exact, Msg.nodeIds, GlobalE2NodeId.Exact, gnb]
  exact ⟨_, rfl, (messages_received updateOfDu _ hr hm rfl).2.2.1 hexact⟩

/-- The setup request of a part of a gNB -/
def setupOfPart (type : NgranNode) (h : type.hasCuDuId = true) : Msg :=
  .e2SetupRequest ⟨0, ⟨type, ⟨505, 1, 2⟩, 3584, 0, some 5, h.symm⟩, [], [⟨.f1 1, [1], [2]⟩]⟩

/-- A CU-UP and a CU with the same numbers are one node at the receiver. -/
theorem cuup_received_as_cu :
    (∃ pdu, encMsg (setupOfPart .gNBCuup rfl) = .ok pdu ∧ encMsg (setupOfPart .gNBCu rfl) = .ok pdu) ∧
      (encMsg (setupOfPart .gNBCuup rfl) >>= decPdu) = .ok (setupOfPart .gNBCu rfl) ∧
      setupOfPart .gNBCu rfl ≠ setupOfPart .gNBCuup rfl :=
  ⟨⟨_, rfl, rfl⟩, by decide +kernel, by decide⟩

end FlexRic.E2ap.Setup
