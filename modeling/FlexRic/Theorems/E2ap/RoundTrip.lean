import FlexRic.E2ap.DecAsn
import Mathlib.Data.List.TakeDrop

/-! # What the PDUs of the functional procedures carry

A message that is mapped to a PDU is decoded as the same message unless it is of a few kinds that the decoders refuse
or change. The kinds differ from message to message, so there is one lemma for each. -/

namespace FlexRic.E2ap

/-! ### Messages in range, and messages that are carried -/

/-- The identifiers are in the ranges of their types, and a setup request admits the RAN function. -/
def RicGenId.InRange (r : RicGenId) : Prop :=
  r.ricReqId < maxRicRequestId ∧ r.ricInstId < maxRicInstanceId ∧ r.ranFuncId ≤ maxRanFuncId

namespace FunctionalMsg

def ricId : FunctionalMsg → RicGenId
  | subscriptionRequest m => m.ricId
  | subscriptionResponse m => m.ricId
  | subscriptionDeleteRequest m => m.ricId
  | subscriptionDeleteResponse m => m.ricId
  | indication m => m.ricId
  | controlRequest m => m.ricId
  | controlAcknowledge m => m.ricId
  | controlFailure m _ => m.ricId

/-- The other numbers of the message are in the ranges of their types. -/
def NumbersInRange : FunctionalMsg → Prop
  | subscriptionRequest m => ∀ a ∈ m.action, a.id < maxRicActionId
  | subscriptionResponse m =>
    (∀ id ∈ m.admitted, id < maxRicActionId) ∧ ∀ a ∈ m.notAdmitted, a.1 < maxRicActionId
  | indication m =>
    m.actionId < maxRicActionId ∧ (∀ sn ∈ m.sn, sn < maxRicIndicationSn) ∧ m.type < maxRicIndicationType
  | _ => True

/-- Every number of the message is in the range of its type. -/
def InRange (m : FunctionalMsg) : Prop := m.ricId.InRange ∧ m.NumbersInRange

end FunctionalMsg

/-- The definition is not an empty one, and the subsequent action does not wait for zero. -/
def RicAction.Carried (a : RicAction) : Prop :=
  a.definition ≠ some [] ∧ ∀ s ∈ a.subseqAction, s.timeToWaitMs ≠ some 0

/-- The message has nothing that its decoder refuses or changes. -/
def FunctionalMsg.Carried : FunctionalMsg → Prop
  | subscriptionRequest m =>
    m.eventTrigger.length < 2147483648 ∧ m.action ≠ [] ∧ ∀ a ∈ m.action, a.Carried
  | subscriptionResponse m => m.ricId.ranFuncId < maxNumRanFuncId ∧ m.notAdmitted = []
  | subscriptionDeleteRequest m => m.ricId.ranFuncId < maxRanFuncId
  | subscriptionDeleteResponse m => m.ricId.ranFuncId < maxRanFuncId
  | indication m => m.ricId.ranFuncId < maxRanFuncId
  | controlRequest m => m.ricId.ranFuncId < maxRanFuncId
  | controlAcknowledge m => m.ricId.ranFuncId < maxRanFuncId
  | controlFailure m crit => m.ricId.ranFuncId < maxNumRanFuncId ∧ crit = none

/-! ### What the messages have in common -/

theorem checkIe_of {V : Type} {id : ProtocolIeId} {c : Criticality} {v : V} {crit : Option Criticality}
    (hc : ∀ c' ∈ crit, c = c') : checkIe ⟨id, c, v⟩ id crit = .ok () := by
  rw [checkIe, require_of rfl, Except.ok_bind, require_of hc]

@[simp]
theorem checkIe_some {V : Type} {id : ProtocolIeId} {c : Criticality} {v : V} : checkIe ⟨id, c, v⟩ id (some c) = .ok () :=
  checkIe_of (by simp)

@[simp]
theorem checkIe_none {V : Type} {id : ProtocolIeId} {c : Criticality} {v : V} : checkIe ⟨id, c, v⟩ id none = .ok () :=
  checkIe_of (by simp)

section RicId
variable {r : RicGenId} {crit : Option Criticality}

theorem decRicRequestId_eq (hreq : r.ricReqId < maxRicRequestId) (hinst : r.ricInstId < maxRicInstanceId)
    (hc : ∀ c ∈ crit, Criticality.reject = c) (bounded : Bool) :
    decRicRequestId ⟨.ricRequestId, .reject, .ricRequestId r.ricReqId r.ricInstId⟩ crit bounded =
      .ok (r.ricReqId, r.ricInstId) := by
  simp only [decRicRequestId, checkIe_of hc, require_of fun _ => hinst, require_of fun _ => hreq, Except.ok_bind]
  simp only [maxRicRequestId, maxRicInstanceId] at hreq hinst
  rw [Nat.mod_eq_of_lt hinst, Nat.mod_eq_of_lt (by omega)]
  rfl

theorem decRanFunctionId_eq (hfunc : r.ranFuncId ≤ maxRanFuncId) (hc : ∀ c ∈ crit, Criticality.reject = c)
    (bound : Option Nat) :
    decRanFunctionId ⟨.ranFunctionId, .reject, .ranFunctionId r.ranFuncId⟩ crit bound =
      if ∀ b ∈ bound, r.ranFuncId < b then .ok r.ranFuncId else .error "RANfunctionID" := by
  simp only [maxRanFuncId] at hfunc
  simp only [decRanFunctionId, checkIe_of hc, Except.ok_bind, Nat.mod_eq_of_lt (show r.ranFuncId < 65536 by omega)]
  unfold require
  split <;> rfl

/-- The first two elements are decoded as they were encoded, when the RAN function is below the bound. -/
theorem decRicId_bind_eq_ok {M : Type} {p : Pdu} {ies : List (Ie IeValue)} {bounded : Bool} {bound : Option Nat}
    {f : RicGenId → Except String M} {m : M} (hp : p.ies = idIes r ++ ies) (hr : r.InRange)
    (hc : ∀ c ∈ crit, Criticality.reject = c) :
    (decRicId p crit bounded bound >>= f) = .ok m ↔ (∀ b ∈ bound, r.ranFuncId < b) ∧ f r = .ok m := by
  obtain ⟨hreq, hinst, hfunc⟩ := hr
  have h0 : ieAt p 0 = .ok ⟨.ricRequestId, .reject, .ricRequestId r.ricReqId r.ricInstId⟩ := by simp [ieAt, hp, idIes]
  have h1 : ieAt p 1 = .ok ⟨.ranFunctionId, .reject, .ranFunctionId r.ranFuncId⟩ := by simp [ieAt, hp, idIes]
  rw [decRicId, h0, h1]
  simp only [Except.ok_bind, decRicRequestId_eq hreq hinst hc, decRanFunctionId_eq hfunc hc]
  split
  case isTrue h => exact (and_iff_right h).symm
  case isFalse h => exact iff_of_false (by simp) fun h' => h h'.1

end RicId

theorem decMessage_of {present : PduPresent} {code : ProcedureCode} {c : Criticality} {value : MessageValue}
    {ies : List (Ie IeValue)} {crit : Option Criticality} (hc : ∀ c' ∈ crit, c = c') :
    decMessage ⟨present, code, c, value, ies⟩ present code crit value = .ok () := by
  simp only [decMessage, require_of, require_of hc, Except.ok_bind]

theorem copyOstringToBa_of_ne {b : List UInt8} (h : b ≠ []) : copyOstringToBa b = .ok b := by
  simp [copyOstringToBa, require_of h]

theorem decCause_encCause {c : Cause} {v : CauseAsn} (h : encCause c = .ok v) : decCause v = .ok c := by
  obtain ⟨present, value⟩ := c
  unfold encCause at h
  split at h <;> first | cases h | skip
  all_goals
    obtain ⟨_, hv, h⟩ := Except.bind_eq_ok.mp h
    obtain rfl := Except.ok.inj h
    have hv := require_eq_ok.mp hv
    simp only at *
    subst_vars
    rw [decCause, require_of (by omega)]
    rfl

theorem encOptional_eq_ok {ie : List UInt8 → Ie IeValue} {msg : String} {o : Option (List UInt8)}
    {l : List (Ie IeValue)} : encOptional ie msg o = .ok l ↔ (∀ b ∈ o, b ≠ []) ∧ l = o.toList.map ie := by
  cases o with
  | none => simp [encOptional, eq_comm]
  | some b => simp [encOptional, Except.bind_eq_ok, require_eq_ok, @eq_comm _ [ie b]]

/-- A loop over the elements that goes over an optional one. -/
theorem foldlM_optional {S V : Type} {f : S → Ie IeValue → Except String S} {ie : V → Ie IeValue} {o : Option V}
    (set : Option V → S) (h : ∀ v ∈ o, f (set none) (ie v) = .ok (set (some v))) :
    (o.toList.map ie).foldlM f (set none) = .ok (set o) := by
  cases o with
  | none => rfl
  | some v => simp [h v rfl]

/-! ### Deletes of subscriptions -/

theorem decSubscriptionDeleteRequest_enc {m : RicSubscriptionDeleteRequest} (hr : m.ricId.InRange) :
    decSubscriptionDeleteRequest (encSubscriptionDeleteRequest m) = .ok m ↔ m.ricId.ranFuncId < maxRanFuncId := by
  rw [decSubscriptionDeleteRequest, encSubscriptionDeleteRequest, decMessage_of (by simp), Except.ok_bind,
    decRicId_bind_eq_ok (List.append_nil _).symm hr (by simp)]
  simp

theorem decSubscriptionDeleteResponse_enc {m : RicSubscriptionDeleteResponse} (hr : m.ricId.InRange) :
    decSubscriptionDeleteResponse (encSubscriptionDeleteResponse m) = .ok m ↔ m.ricId.ranFuncId < maxRanFuncId := by
  rw [decSubscriptionDeleteResponse, encSubscriptionDeleteResponse, decMessage_of (by simp), Except.ok_bind,
    decRicId_bind_eq_ok (List.append_nil _).symm hr (by simp)]
  simp

/-! ### Subscriptions -/

theorem decDefinition_eq_ok {o : Option (List UInt8)} : decDefinition o = .ok o ↔ o ≠ some [] := by
  cases o with
  | none => simp [decDefinition]
  | some b => by_cases hb : b = [] <;> simp [decDefinition, copyOstringToBa, require, Except.map, hb]

theorem decSubseqAction_enc {a : RicSubsequentAction} {v : RicSubsequentActionAsn} (h : encSubseqAction a = .ok v) :
    decSubseqAction v = a ↔ a.timeToWaitMs ≠ some 0 := by
  obtain ⟨type, _ | t⟩ := a
  · obtain rfl := Except.ok.inj h
    simp [decSubseqAction]
  · obtain ⟨_, ht, h⟩ := Except.bind_eq_ok.mp h
    obtain rfl := Except.ok.inj h
    have ht : t < 18 := require_eq_ok.mp ht
    by_cases h0 : t = 0
    · simp [decSubseqAction, h0]
    · simp [decSubseqAction, h0, Nat.mod_eq_of_lt (show t < 4294967296 by omega)]

theorem encAction_inv {a : RicAction} {ie : Ie (Option RicActionToBeSetupItem)} (h : encAction a = .ok ie) :
    ∃ subseq, ie = ⟨.ricActionToBeSetupItem, .reject, some ⟨a.id, a.type, a.definition, subseq⟩⟩ ∧
      (subseq.map decSubseqAction = a.subseqAction ↔ ∀ s ∈ a.subseqAction, s.timeToWaitMs ≠ some 0) := by
  unfold encAction at h
  cases hsub : a.subseqAction with
  | none =>
    rw [hsub] at h
    obtain rfl := Except.ok.inj h
    exact ⟨none, rfl, by simp⟩
  | some s =>
    rw [hsub] at h
    cases hv : encSubseqAction s with
    | error => simp [hv, Except.map] at h
    | ok v =>
      simp only [hv, Except.map, Except.ok_bind] at h
      obtain rfl := Except.ok.inj h
      exact ⟨some v, rfl, by simp [decSubseqAction_enc hv]⟩

theorem decAction_enc {a : RicAction} {ie : Ie (Option RicActionToBeSetupItem)} (ha : a.id < maxRicActionId)
    (h : encAction a = .ok ie) : decAction ie = .ok a ↔ a.Carried := by
  simp only [maxRicActionId] at ha
  obtain ⟨subseq, rfl, subseq_carried⟩ := encAction_inv h
  rw [RicAction.Carried, ← decDefinition_eq_ok, ← subseq_carried, decAction, checkIe_none, Except.ok_bind]
  constructor
  · intro h
    obtain ⟨d, hd, h⟩ := Except.bind_eq_ok.mp h
    have h := Except.ok.inj h
    exact ⟨hd.trans (congrArg (Except.ok ·.definition) h), congrArg RicAction.subseqAction h⟩
  · rintro ⟨hd, hsub⟩
    simp only [hd, hsub, Except.ok_bind, Nat.mod_eq_of_lt ha, Except.pure_eq]

theorem decAction_list {l : List RicAction} {actions : List (Ie (Option RicActionToBeSetupItem))}
    (hid : ∀ a ∈ l, a.id < maxRicActionId) (h : l.mapM encAction = .ok actions) :
    actions.mapM decAction = .ok l ↔ ∀ a ∈ l, a.Carried := by
  rw [Except.mapM_round_trip h]
  refine forall₂_congr fun a ha => ?_
  obtain ⟨ie, hie⟩ := Except.mapM_isOk_iff.mp ⟨_, h⟩ a ha
  constructor
  · intro hdec
    exact (decAction_enc (hid a ha) hie).mp (hdec ie hie)
  · intro hcarried ie' hie'
    exact (decAction_enc (hid a ha) hie').mpr hcarried

theorem decEventTrigger_eq_ok {b : List UInt8} : decEventTrigger b = .ok b ↔ b.length < 2147483648 := by
  unfold decEventTrigger
  split
  case isTrue h =>
    rw [Except.ok.injEq, List.take_eq_self_iff]
    omega
  case isFalse h => exact iff_of_false (by simp) (by omega)

theorem decSubscriptionRequest_enc {m : RicSubscriptionRequest} {pdu : Pdu} (hr : m.ricId.InRange)
    (hn : (FunctionalMsg.subscriptionRequest m).NumbersInRange) (h : encSubscriptionRequest m = .ok pdu) :
    decSubscriptionRequest pdu = .ok m ↔ (FunctionalMsg.subscriptionRequest m).Carried := by
  obtain ⟨_, -, h⟩ := Except.bind_eq_ok.mp h
  obtain ⟨_, hlen, h⟩ := Except.bind_eq_ok.mp h
  obtain ⟨actions, hactions, h⟩ := Except.bind_eq_ok.mp h
  obtain rfl := Except.ok.inj h
  rw [require_eq_ok] at hlen
  have actions_carried := decAction_list hn hactions
  have actions_count : actions.length = m.action.length := Except.length_of_mapM hactions
  rw [decSubscriptionRequest, decMessage_of (by simp), Except.ok_bind, require_of (by rfl), Except.ok_bind,
    decRicId_bind_eq_ok rfl hr (by simp), and_iff_right (by simp)]
  simp only [FunctionalMsg.Carried, ← decEventTrigger_eq_ok, ← actions_carried]
  constructor
  · intro h
    obtain ⟨_, hie, h⟩ := Except.bind_eq_ok.mp h
    obtain rfl := Except.ok.inj hie
    obtain ⟨_, -, h⟩ := Except.bind_eq_ok.mp h
    obtain ⟨eventTrigger, het, h⟩ := Except.bind_eq_ok.mp h
    obtain ⟨_, hcount, h⟩ := Except.bind_eq_ok.mp h
    obtain ⟨action, haction, h⟩ := Except.bind_eq_ok.mp h
    have h := Except.ok.inj h
    exact ⟨het.trans (congrArg (Except.ok ·.eventTrigger) h),
      List.ne_nil_of_length_pos (actions_count ▸ (require_eq_ok.mp hcount).1),
      haction.trans (congrArg (Except.ok ·.action) h)⟩
  · rintro ⟨het, hne, haction⟩
    have hcount : actions.length > 0 ∧ actions.length ≤ maxNumActionDef :=
      ⟨actions_count ▸ List.length_pos_iff.mpr hne, actions_count ▸ hlen⟩
    refine Except.bind_eq_ok.mpr ⟨_, rfl, ?_⟩
    simp only [checkIe_some, het, require_of hcount, haction, Except.ok_bind, Except.pure_eq]

theorem decAdmitted_encAdmitted {id : Nat} (h : id < maxRicActionId) : decAdmitted (encAdmitted id) = .ok id := by
  rw [decAdmitted, encAdmitted, checkIe_some]
  simp only [Except.ok_bind, require_of h]
  simp only [maxRicActionId] at h
  rw [Nat.mod_eq_of_lt h]
  rfl

theorem decAdmitted_list {l : List Nat} (h : ∀ id ∈ l, id < maxRicActionId) :
    (l.map encAdmitted).mapM decAdmitted = .ok l :=
  Except.mapM_map fun id hid => decAdmitted_encAdmitted (h id hid)

/-- The list of actions that are not admitted is lost. -/
theorem decSubscriptionResponse_enc {m : RicSubscriptionResponse} {pdu : Pdu} (hr : m.ricId.InRange)
    (hn : (FunctionalMsg.subscriptionResponse m).NumbersInRange) (h : encSubscriptionResponse m = .ok pdu) :
    decSubscriptionResponse pdu = .ok m ↔ (FunctionalMsg.subscriptionResponse m).Carried := by
  obtain ⟨hadmitted, -⟩ := hn
  obtain ⟨notAdmitted, hna, h⟩ := Except.bind_eq_ok.mp h
  obtain rfl := Except.ok.inj h
  rw [decSubscriptionResponse, decMessage_of (by simp), Except.ok_bind, decRicId_bind_eq_ok rfl hr (by simp),
    FunctionalMsg.Carried]
  refine and_congr (by simp) ⟨fun h => ?_, fun hnone => ?_⟩
  · obtain ⟨_, hie, h⟩ := Except.bind_eq_ok.mp h
    obtain rfl := Except.ok.inj hie
    obtain ⟨_, -, h⟩ := Except.bind_eq_ok.mp h
    obtain ⟨_, -, h⟩ := Except.bind_eq_ok.mp h
    obtain ⟨_, -, h⟩ := Except.bind_eq_ok.mp h
    exact (congrArg RicSubscriptionResponse.notAdmitted (Except.ok.inj h)).symm
  · obtain rfl : notAdmitted = [] := by
      rw [hnone] at hna
      exact (Except.ok.inj hna).symm
    refine Except.bind_eq_ok.mpr ⟨_, rfl, ?_⟩
    simp only [checkIe_some, decAdmitted_list hadmitted, Except.ok_bind]
    refine Except.bind_eq_ok.mpr ⟨[], rfl, ?_⟩
    rw [List.take_nil, ← hnone]
    rfl

/-! ### Indications and control -/

theorem decRicActionId_of {v : Nat} (h : v < maxRicActionId) :
    decRicActionId ⟨.ricActionId, .reject, .ricActionId v⟩ = .ok v := by
  simp only [decRicActionId, checkIe_some, require_of h, Except.ok_bind]
  simp only [maxRicActionId] at h
  rw [Nat.mod_eq_of_lt h]
  rfl

theorem decIndicationIe_sn {ind : RicIndication} {v : Nat} (h : v < maxRicIndicationSn) :
    decIndicationIe ind ⟨.ricIndicationSn, .reject, .ricIndicationSn v⟩ = .ok { ind with sn := some v } := by
  simp only [decIndicationIe, require_of, require_of h, Except.ok_bind]
  simp only [maxRicIndicationSn] at h
  rw [Nat.mod_eq_of_lt h]
  rfl

theorem decIndication_enc {m : RicIndication} {pdu : Pdu} (hr : m.ricId.InRange)
    (hn : (FunctionalMsg.indication m).NumbersInRange) (h : encIndication m = .ok pdu) :
    decIndication pdu = .ok m ↔ m.ricId.ranFuncId < maxRanFuncId := by
  obtain ⟨haction, hsn, htype⟩ := hn
  obtain ⟨_, hhdr, h⟩ := Except.bind_eq_ok.mp h
  obtain ⟨_, hmsg, h⟩ := Except.bind_eq_ok.mp h
  obtain ⟨l, hl, h⟩ := Except.bind_eq_ok.mp h
  obtain ⟨hcp, rfl⟩ := encOptional_eq_ok.mp hl
  obtain rfl := Except.ok.inj h
  rw [require_eq_ok] at hhdr hmsg
  rw [decIndication, decMessage_of (by simp), Except.ok_bind,
    decRicId_bind_eq_ok (List.append_assoc _ _ _) hr (by simp)]
  refine (and_iff_left ?_).trans (by simp)
  -- The third element, and then the loop over the others, which come in three groups.
  refine Except.bind_eq_ok.mpr ⟨_, rfl, Except.bind_eq_ok.mpr ⟨m.actionId, decRicActionId_of haction, ?_⟩⟩
  have sn_decoded := foldlM_optional (fun sn : Option Nat => (⟨m.ricId, m.actionId, sn, 0, [], [], none⟩ : RicIndication))
    fun sn h => decIndicationIe_sn (hsn sn h)
  have hdr_msg_decoded : [⟨.ricIndicationType, .reject, .ricIndicationType m.type⟩,
        ⟨.ricIndicationHeader, .reject, .ricIndicationHeader m.hdr⟩,
        ⟨.ricIndicationMessage, .reject, .ricIndicationMessage m.msg⟩].foldlM decIndicationIe
          ⟨m.ricId, m.actionId, m.sn, 0, [], [], none⟩ =
      .ok ⟨m.ricId, m.actionId, m.sn, m.type, m.hdr, m.msg, none⟩ := by
    simp [decIndicationIe, require_of, require_of htype, copyOstringToBa_of_ne hhdr, copyOstringToBa_of_ne hmsg]
  have callProcessId_decoded : (m.callProcessId.toList.map callProcessIdIe).foldlM decIndicationIe
      ⟨m.ricId, m.actionId, m.sn, m.type, m.hdr, m.msg, none⟩ = .ok m :=
    foldlM_optional (fun cp => { m with callProcessId := cp }) fun b h => by
      simp [decIndicationIe, callProcessIdIe, require_of, copyOstringToBa_of_ne (hcp b h)]
  show List.foldlM _ _ (m.sn.toList.map _ ++ _ ++ _) = _
  simp only [List.foldlM_append, sn_decoded, hdr_msg_decoded, callProcessId_decoded, Except.ok_bind]

theorem decControlRequestIe_loop {m : RicControlRequest} (hhdr : m.hdr ≠ []) (hmsg : m.msg ≠ [])
    (hcp : ∀ b ∈ m.callProcessId, b ≠ []) :
    List.foldlM decControlRequestIe ⟨m.ricId, none, [], [], none⟩ (m.callProcessId.toList.map callProcessIdIe ++
      [⟨.ricControlHeader, .reject, .ricControlHeader m.hdr⟩,
        ⟨.ricControlMessage, .reject, .ricControlMessage m.msg⟩] ++
      m.ackReq.toList.map (fun a => ⟨.ricControlAckRequest, .reject, .ricControlAckRequest a.value⟩)) = .ok m := by
  have callProcessId_decoded : (m.callProcessId.toList.map callProcessIdIe).foldlM decControlRequestIe
      ⟨m.ricId, none, [], [], none⟩ = .ok ⟨m.ricId, m.callProcessId, [], [], none⟩ :=
    foldlM_optional (fun cp => (⟨m.ricId, cp, [], [], none⟩ : RicControlRequest)) fun b h => by
      simp [decControlRequestIe, callProcessIdIe, copyOstringToBa_of_ne (hcp b h)]
  have hdr_msg_decoded : [⟨.ricControlHeader, .reject, .ricControlHeader m.hdr⟩,
        ⟨.ricControlMessage, .reject, .ricControlMessage m.msg⟩].foldlM decControlRequestIe
          ⟨m.ricId, m.callProcessId, [], [], none⟩ =
      .ok ⟨m.ricId, m.callProcessId, m.hdr, m.msg, none⟩ := by
    simp [decControlRequestIe, copyOstringToBa_of_ne hhdr, copyOstringToBa_of_ne hmsg]
  have ackReq_decoded : (m.ackReq.toList.map fun a =>
        ⟨.ricControlAckRequest, .reject, .ricControlAckRequest a.value⟩).foldlM decControlRequestIe
          ⟨m.ricId, m.callProcessId, m.hdr, m.msg, none⟩ = .ok m :=
    foldlM_optional (fun a => { m with ackReq := a }) fun a _ => by
      cases a <;> simp [decControlRequestIe, RicControlAckReq.value]
  simp only [List.foldlM_append, callProcessId_decoded, hdr_msg_decoded, ackReq_decoded, Except.ok_bind]

theorem decControlRequest_enc {m : RicControlRequest} {pdu : Pdu} (hr : m.ricId.InRange)
    (h : encControlRequest m = .ok pdu) : decControlRequest pdu = .ok m ↔ m.ricId.ranFuncId < maxRanFuncId := by
  obtain ⟨_, hhdr, h⟩ := Except.bind_eq_ok.mp h
  obtain ⟨_, hmsg, h⟩ := Except.bind_eq_ok.mp h
  obtain ⟨l, hl, h⟩ := Except.bind_eq_ok.mp h
  obtain ⟨hcp, rfl⟩ := encOptional_eq_ok.mp hl
  obtain rfl := Except.ok.inj h
  rw [require_eq_ok] at hhdr hmsg
  rw [decControlRequest, decMessage_of (by simp), Except.ok_bind,
    decRicId_bind_eq_ok ((List.append_assoc _ _ _).trans (List.append_assoc _ _ _)) hr (by simp)]
  refine (and_iff_left ?_).trans (by simp)
  exact decControlRequestIe_loop hhdr hmsg hcp

theorem decControlAck_enc {m : RicControlAcknowledge} {pdu : Pdu} (hr : m.ricId.InRange)
    (h : encControlAck m = .ok pdu) : decControlAck pdu = .ok m ↔ m.ricId.ranFuncId < maxRanFuncId := by
  obtain ⟨l, hl, h⟩ := Except.bind_eq_ok.mp h
  obtain ⟨hcp, rfl⟩ := encOptional_eq_ok.mp hl
  obtain ⟨l, hl, h⟩ := Except.bind_eq_ok.mp h
  obtain ⟨hco, rfl⟩ := encOptional_eq_ok.mp hl
  obtain rfl := Except.ok.inj h
  rw [decControlAck, decMessage_of (by simp), Except.ok_bind,
    decRicId_bind_eq_ok (List.append_assoc _ _ _) hr (by simp)]
  refine (and_iff_left ?_).trans (by simp)
  have callProcessId_decoded : (m.callProcessId.toList.map callProcessIdIe).foldlM decControlAckIe
      ⟨m.ricId, none, none⟩ = .ok ⟨m.ricId, m.callProcessId, none⟩ :=
    foldlM_optional (fun cp => (⟨m.ricId, cp, none⟩ : RicControlAcknowledge)) fun b h => by
      simp [decControlAckIe, callProcessIdIe, require_of, copyOstringToBa_of_ne (hcp b h)]
  have controlOutcome_decoded : (m.controlOutcome.toList.map controlOutcomeIe).foldlM decControlAckIe
      ⟨m.ricId, m.callProcessId, none⟩ = .ok m :=
    foldlM_optional (fun co => { m with controlOutcome := co }) fun b h => by
      simp [decControlAckIe, controlOutcomeIe, require_of, copyOstringToBa_of_ne (hco b h)]
  show List.foldlM _ _ (m.callProcessId.toList.map _ ++ _) = _
  simp only [List.foldlM_append, callProcessId_decoded, controlOutcome_decoded, Except.ok_bind]

theorem decControlFailure_enc {m : RicControlFailure} {pdu : Pdu} (hr : m.ricId.InRange)
    (h : encControlFailure m = .ok pdu) : decControlFailure pdu = .ok m ↔ m.ricId.ranFuncId < maxNumRanFuncId := by
  obtain ⟨l, hl, h⟩ := Except.bind_eq_ok.mp h
  obtain ⟨hcp, rfl⟩ := encOptional_eq_ok.mp hl
  obtain ⟨cause, hcause, h⟩ := Except.bind_eq_ok.mp h
  obtain ⟨l, hl, h⟩ := Except.bind_eq_ok.mp h
  obtain ⟨hco, rfl⟩ := encOptional_eq_ok.mp hl
  obtain rfl := Except.ok.inj h
  rw [decControlFailure, decMessage_of (by simp), Except.ok_bind,
    decRicId_bind_eq_ok ((List.append_assoc _ _ _).trans (List.append_assoc _ _ _)) hr (by simp)]
  refine (and_iff_left ?_).trans (by simp)
  have callProcessId_decoded : (m.callProcessId.toList.map callProcessIdIe).foldlM decControlFailureIe
      ⟨m.ricId, none, ⟨0, 0⟩, none⟩ = .ok ⟨m.ricId, m.callProcessId, ⟨0, 0⟩, none⟩ :=
    foldlM_optional (fun cp => (⟨m.ricId, cp, ⟨0, 0⟩, none⟩ : RicControlFailure)) fun b h => by
      simp [decControlFailureIe, callProcessIdIe, require_of, copyOstringToBa_of_ne (hcp b h)]
  have cause_decoded : [⟨.cause, .ignore, .cause cause⟩].foldlM decControlFailureIe
      ⟨m.ricId, m.callProcessId, ⟨0, 0⟩, none⟩ = .ok ⟨m.ricId, m.callProcessId, m.cause, none⟩ := by
    simp [decControlFailureIe, require_of, decCause_encCause hcause]
  have controlOutcome_decoded : (m.controlOutcome.toList.map controlOutcomeIe).foldlM decControlFailureIe
      ⟨m.ricId, m.callProcessId, m.cause, none⟩ = .ok m :=
    foldlM_optional (fun co => { m with controlOutcome := co }) fun b h => by
      simp [decControlFailureIe, controlOutcomeIe, require_of, copyOstringToBa_of_ne (hco b h)]
  show List.foldlM _ _ (m.callProcessId.toList.map _ ++ _ ++ _) = _
  simp only [List.foldlM_append, callProcessId_decoded, cause_decoded, controlOutcome_decoded, Except.ok_bind]

/-! ### Every message -/

/-- The decoded message is that of the kind that was decoded. -/
theorem map_eq_ok_iff {A B : Type} {x : Except String A} {C : A → B} {a : A} (hC : ∀ {a b}, C a = C b → a = b) :
    (do return C (← x)) = (.ok (C a) : Except String B) ↔ x = .ok a := by
  cases x with
  | error => simp
  | ok b => exact ⟨fun h => congrArg Except.ok (hC (Except.ok.inj h)), fun h => congrArg (Except.ok ∘ C) (Except.ok.inj h)⟩

/-- The type of the PDU that the message is mapped to -/
def FunctionalMsg.type : FunctionalMsg → E2MsgType
  | subscriptionRequest _ => .ricSubscriptionRequest
  | subscriptionResponse _ => .ricSubscriptionResponse
  | subscriptionDeleteRequest _ => .ricSubscriptionDeleteRequest
  | subscriptionDeleteResponse _ => .ricSubscriptionDeleteResponse
  | indication _ => .ricIndication
  | controlRequest _ => .ricControlRequest
  | controlAcknowledge _ => .ricControlAcknowledge
  | controlFailure _ _ => .ricControlFailure

theorem getMsgType_encPdu {m : FunctionalMsg} {pdu : Pdu} (h : encPdu m = .ok pdu) : getMsgType pdu = .ok m.type := by
  cases m with
  | subscriptionRequest m =>
    obtain ⟨_, -, h⟩ := Except.bind_eq_ok.mp h
    obtain ⟨_, -, h⟩ := Except.bind_eq_ok.mp h
    obtain ⟨_, -, h⟩ := Except.bind_eq_ok.mp h
    obtain rfl := Except.ok.inj h
    rfl
  | subscriptionResponse m =>
    obtain ⟨_, -, h⟩ := Except.bind_eq_ok.mp h
    obtain rfl := Except.ok.inj h
    rfl
  | subscriptionDeleteRequest m =>
    obtain rfl := Except.ok.inj h
    rfl
  | subscriptionDeleteResponse m =>
    obtain rfl := Except.ok.inj h
    rfl
  | indication m =>
    obtain ⟨_, -, h⟩ := Except.bind_eq_ok.mp h
    obtain ⟨_, -, h⟩ := Except.bind_eq_ok.mp h
    obtain ⟨_, -, h⟩ := Except.bind_eq_ok.mp h
    obtain rfl := Except.ok.inj h
    rfl
  | controlRequest m =>
    obtain ⟨_, -, h⟩ := Except.bind_eq_ok.mp h
    obtain ⟨_, -, h⟩ := Except.bind_eq_ok.mp h
    obtain ⟨_, -, h⟩ := Except.bind_eq_ok.mp h
    obtain rfl := Except.ok.inj h
    rfl
  | controlAcknowledge m =>
    obtain ⟨_, -, h⟩ := Except.bind_eq_ok.mp h
    obtain ⟨_, -, h⟩ := Except.bind_eq_ok.mp h
    obtain rfl := Except.ok.inj h
    rfl
  | controlFailure m =>
    obtain ⟨_, -, h⟩ := Except.bind_eq_ok.mp h
    obtain ⟨_, -, h⟩ := Except.bind_eq_ok.mp h
    obtain ⟨_, -, h⟩ := Except.bind_eq_ok.mp h
    obtain rfl := Except.ok.inj h
    rfl

/-- A message that is encoded is decoded as the same message, if and only if it is carried. -/
theorem decPdu_encPdu {m : FunctionalMsg} {pdu : Pdu} (hm : m.InRange) (h : encPdu m = .ok pdu) :
    decPdu pdu = .ok m ↔ m.Carried := by
  obtain ⟨hr, hn⟩ := hm
  rw [decPdu, getMsgType_encPdu h, Except.ok_bind]
  cases m with
  | subscriptionRequest m =>
    exact (map_eq_ok_iff FunctionalMsg.subscriptionRequest.inj).trans (decSubscriptionRequest_enc hr hn h)
  | subscriptionResponse m =>
    exact (map_eq_ok_iff FunctionalMsg.subscriptionResponse.inj).trans (decSubscriptionResponse_enc hr hn h)
  | subscriptionDeleteRequest m =>
    obtain rfl := Except.ok.inj h
    exact (map_eq_ok_iff FunctionalMsg.subscriptionDeleteRequest.inj).trans (decSubscriptionDeleteRequest_enc hr)
  | subscriptionDeleteResponse m =>
    obtain rfl := Except.ok.inj h
    exact (map_eq_ok_iff FunctionalMsg.subscriptionDeleteResponse.inj).trans (decSubscriptionDeleteResponse_enc hr)
  | indication m => exact (map_eq_ok_iff FunctionalMsg.indication.inj).trans (decIndication_enc hr hn h)
  | controlRequest m => exact (map_eq_ok_iff FunctionalMsg.controlRequest.inj).trans (decControlRequest_enc hr h)
  | controlAcknowledge m => exact (map_eq_ok_iff FunctionalMsg.controlAcknowledge.inj).trans (decControlAck_enc hr h)
  | controlFailure m crit =>
    rw [FunctionalMsg.Carried, ← decControlFailure_enc hr h]
    cases crit with
    | none =>
      exact (map_eq_ok_iff fun h => (FunctionalMsg.controlFailure.inj h).1).trans (and_iff_left rfl).symm
    | some crit =>
      -- The diagnostics are not encoded, and the decoder leaves them out.
      refine iff_of_false (fun h => ?_) (by simp)
      obtain ⟨_, -, h⟩ := Except.bind_eq_ok.mp (show (decControlFailure pdu >>= fun m => _) = _ from h)
      cases (FunctionalMsg.controlFailure.inj (Except.ok.inj h)).2

/-- An indication with a sequence number and a call process is carried. -/
theorem indication_carried :
    decPdu (⟨.initiatingMessage, .ricIndication, .ignore, .ricIndication,
      [⟨.ricRequestId, .reject, .ricRequestId 1021 0⟩, ⟨.ranFunctionId, .reject, .ranFunctionId 2⟩,
        ⟨.ricActionId, .reject, .ricActionId 1⟩, ⟨.ricIndicationSn, .reject, .ricIndicationSn 7⟩,
        ⟨.ricIndicationType, .reject, .ricIndicationType 0⟩, ⟨.ricIndicationHeader, .reject, .ricIndicationHeader [1]⟩,
        ⟨.ricIndicationMessage, .reject, .ricIndicationMessage [2, 3]⟩,
        ⟨.ricCallProcessId, .reject, .ricCallProcessId [4]⟩]⟩) =
      .ok (.indication ⟨⟨1021, 0, 2⟩, 1, some 7, 0, [1], [2, 3], some [4]⟩) :=
  (decPdu_encPdu
    ⟨by simp [RicGenId.InRange, FunctionalMsg.ricId, maxRicRequestId, maxRicInstanceId, maxRanFuncId],
      by simp [FunctionalMsg.NumbersInRange, maxRicActionId, maxRicIndicationSn, maxRicIndicationType]⟩ rfl).mpr
    (show 2 < maxRanFuncId by decide)

/-- A response with an action that is not admitted is decoded as one without. -/
theorem not_admitted_action_is_lost :
    (FunctionalMsg.subscriptionResponse ⟨⟨1021, 0, 2⟩, [0], [(1, ⟨1, 4⟩)]⟩).InRange ∧
      (encPdu (.subscriptionResponse ⟨⟨1021, 0, 2⟩, [0], [(1, ⟨1, 4⟩)]⟩) >>= decPdu) =
        .ok (.subscriptionResponse ⟨⟨1021, 0, 2⟩, [0], []⟩) ∧
      FunctionalMsg.subscriptionResponse ⟨⟨1021, 0, 2⟩, [0], []⟩ ≠
        .subscriptionResponse ⟨⟨1021, 0, 2⟩, [0], [(1, ⟨1, 4⟩)]⟩ := by
  refine ⟨?_, by decide +kernel, by decide⟩
  simp [FunctionalMsg.InRange, RicGenId.InRange, FunctionalMsg.ricId, FunctionalMsg.NumbersInRange, maxRicRequestId,
    maxRicInstanceId, maxRanFuncId, maxRicActionId]

end FlexRic.E2ap
