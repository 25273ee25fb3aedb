import FlexRic.E2ap.EncAsn

/-! # From PDUs to messages

The decoders of the functional procedures (`e2ap_msg_dec_asn.c`), and which of them `e2ap_get_msg_type` selects. -/

namespace FlexRic.E2ap

/-- `copy_cause` of the decoder -/
def decCause : CauseAsn → Except String Cause
  | .nothing => .error "Not Implemented!"
  | .ricRequest v => do
    require (v < 14) "src.choice.ricRequest < 14"
    return ⟨1, v⟩
  | .ricService v => do
    require (v < 3) "src.choice.ricService < 3"
    return ⟨2, v⟩
  | .transport v => do
    require (v < 2) "src.choice.transport < 2"
    return ⟨3, v⟩
  | .protocol v => do
    require (v < 7) "src.choice.protocol < 7"
    return ⟨4, v⟩
  | .misc v => do
    require (v < 4) "src.choice.misc < 4"
    return ⟨5, v⟩
  | .e2Node _ => .error "Invalid code path"

/-- The causes of `e2ap_dec_subscription_response`, which has a switch of its own -/
def decNotAdmittedCause : CauseAsn → Except String Cause
  | .ricRequest v => do
    require (v < 11) "src->cause.choice.ricRequest < 11"
    return ⟨1, v⟩
  | .e2Node _ => .error "Invalid code path. Error caused assigned"
  | c => decCause c

/-- `copy_ostring_to_ba` -/
def copyOstringToBa (b : List UInt8) : Except String (List UInt8) := do
  require (b ≠ []) "src.size > 0 && src.buf != NULL"
  return b

/-- The message of the PDU is the expected one; some decoders do not look at the criticality. -/
def decMessage (p : Pdu) (present : PduPresent) (code : ProcedureCode) (crit : Option Criticality)
    (value : MessageValue) : Except String Unit := do
  require (p.present = present) "pdu->present"
  require (p.procedureCode = code) "procedureCode"
  require (∀ c ∈ crit, p.criticality = c) "criticality"
  require (p.value = value) "value.present"

/-- `protocolIEs.list.array[i]` -/
def ieAt (p : Pdu) (i : Nat) : Except String (Ie IeValue) :=
  match p.ies[i]? with
  | some ie => .ok ie
  | none => .error "protocolIEs.list.array"

/-- The element is the one that is expected, and critical where the decoder looks at that. -/
def checkIe {V : Type} (ie : Ie V) (id : ProtocolIeId) (crit : Option Criticality) : Except String Unit := do
  require (ie.id = id) "ie->id"
  require (∀ c ∈ crit, ie.criticality = c) "ie->criticality"

/-- The request identifier, below the bounds of `global_consts.h` where the decoder asserts that -/
def decRicRequestId (ie : Ie IeValue) (crit : Option Criticality) (bounded : Bool) : Except String (Nat × Nat) := do
  checkIe ie .ricRequestId crit
  match ie.value with
  | .ricRequestId req inst => do
    require (bounded = true → inst < maxRicInstanceId) "RICrequestID.ricInstanceID < MAX_RIC_INSTANCE_ID"
    require (bounded = true → req < maxRicRequestId) "RICrequestID.ricRequestorID < MAX_RIC_REQUEST_ID"
    return (req % 4294967296, inst % 65536)
  | _ => .error "value.present == PR_RICrequestID"

/-- The identifier of the RAN function, below the bound that the decoder asserts -/
def decRanFunctionId (ie : Ie IeValue) (crit : Option Criticality) (bound : Option Nat) : Except String Nat := do
  checkIe ie .ranFunctionId crit
  match ie.value with
  | .ranFunctionId v => do
    require (∀ b ∈ bound, v < b) "RANfunctionID"
    return v % 65536
  | _ => .error "value.present == PR_RANfunctionID"

/-- `ric_id`, from the first two elements -/
def decRicId (p : Pdu) (crit : Option Criticality) (bounded : Bool) (bound : Option Nat) : Except String RicGenId := do
  let (req, inst) ← decRicRequestId (← ieAt p 0) crit bounded
  let func ← decRanFunctionId (← ieAt p 1) crit bound
  return ⟨req, inst, func⟩

/-! ### Subscriptions -/

/-- The time to wait is there when it is not zero. -/
def decSubseqAction (a : RicSubsequentActionAsn) : RicSubsequentAction :=
  ⟨a.ricSubsequentActionType, if a.ricTimeToWait ≠ 0 then some (a.ricTimeToWait % 4294967296) else none⟩

def decDefinition : Option (List UInt8) → Except String (Option (List UInt8))
  | none => .ok none
  | some b => (copyOstringToBa b).map some

def decAction (ie : Ie (Option RicActionToBeSetupItem)) : Except String RicAction := do
  checkIe ie .ricActionToBeSetupItem none
  match ie.value with
  | some src => do
    let definition ← decDefinition src.ricActionDefinition
    return ⟨src.ricActionId % 256, src.ricActionType, definition, src.ricSubsequentAction.map decSubseqAction⟩
  | none => .error "value.present == PR_RICaction_ToBeSetup_Item"

/-- The event trigger; its size is an `int`, and an allocation of a negative size fails. -/
def decEventTrigger (b : List UInt8) : Except String (List UInt8) :=
  if b.length % 4294967296 < 2147483648 then .ok (b.take (b.length % 4294967296))
  else .error "calloc(1, size_event_trigger)"

/-- `e2ap_dec_subscription_request` -/
def decSubscriptionRequest (p : Pdu) : Except String RicSubscriptionRequest := do
  decMessage p .initiatingMessage .ricSubscription none .ricSubscriptionRequest
  require (p.ies.length = 3) "out->protocolIEs.list.count == 3"
  let ricId ← decRicId p (some .reject) false none
  let subDet ← ieAt p 2
  checkIe subDet .ricSubscriptionDetails (some .reject)
  match subDet.value with
  | .ricSubscriptionDetails eventTrigger actions => do
    let eventTrigger ← decEventTrigger eventTrigger
    require (actions.length > 0 ∧ actions.length ≤ maxNumActionDef) "len_ra > 0 && len_ra <= MAX_NUM_ACTION_DEF"
    let action ← actions.mapM decAction
    return ⟨ricId, eventTrigger, action⟩
  | _ => .error "value.present == PR_RICsubscriptionDetails"

def decAdmitted (ie : Ie (Option Nat)) : Except String Nat := do
  checkIe ie .ricActionAdmittedItem (some .ignore)
  match ie.value with
  | some id => do
    require (id < maxRicActionId) "src->ricActionID < MAX_RIC_ACTION_ID"
    return id % 256
  | none => .error "value.present == PR_RICaction_Admitted_Item"

def decNotAdmitted (ie : Ie (Option RicActionNotAdmittedItem)) : Except String (Nat × Cause) := do
  checkIe ie .ricActionNotAdmittedItem (some .reject)
  match ie.value with
  | some src => do
    let cause ← decNotAdmittedCause src.cause
    return (src.ricActionId % 256, cause)
  | none => .error "value.present == PR_RICaction_NotAdmitted_Item"

/-- The array `not_admitted`, when there is a fourth element -/
def decNotAdmittedList (p : Pdu) : Except String (List (Nat × Cause)) :=
  if p.ies.length > 3 then do
    let ie ← ieAt p 3
    checkIe ie .ricActionsNotAdmitted (some .reject)
    match ie.value with
    | .ricActionNotAdmittedList l => do
      require (l.length < 17) "sz_not_ad < 17"
      l.mapM decNotAdmitted
    | _ => .error "value.present == PR_RICaction_NotAdmitted_List"
  else .ok []

/-- `e2ap_dec_subscription_response`. It fills the array `not_admitted` and leaves `len_na` zero: the message has as
many actions that are not admitted. -/
def decSubscriptionResponse (p : Pdu) : Except String RicSubscriptionResponse := do
  decMessage p .successfulOutcome .ricSubscription (some .reject) .ricSubscriptionResponse
  let ricId ← decRicId p (some .reject) true (some maxNumRanFuncId)
  let actAdmList ← ieAt p 2
  checkIe actAdmList .ricActionsAdmitted (some .reject)
  match actAdmList.value with
  | .ricActionAdmittedList l => do
    let admitted ← l.mapM decAdmitted
    let notAdmitted ← decNotAdmittedList p
    let lenNa := 0
    return ⟨ricId, admitted, notAdmitted.take lenNa⟩
  | _ => .error "value.present == PR_RICaction_Admitted_List"

/-- `e2ap_dec_subscription_delete_request` -/
def decSubscriptionDeleteRequest (p : Pdu) : Except String RicSubscriptionDeleteRequest := do
  decMessage p .initiatingMessage .ricSubscriptionDelete (some .reject) .ricSubscriptionDeleteRequest
  let ricId ← decRicId p (some .reject) false (some maxRanFuncId)
  return ⟨ricId⟩

/-- `e2ap_dec_subscription_delete_response` -/
def decSubscriptionDeleteResponse (p : Pdu) : Except String RicSubscriptionDeleteResponse := do
  decMessage p .successfulOutcome .ricSubscriptionDelete (some .reject) .ricSubscriptionDeleteResponse
  let ricId ← decRicId p (some .reject) false (some maxRanFuncId)
  return ⟨ricId⟩

/-! ### Indications and control -/

/-- The action of an indication -/
def decRicActionId (ie : Ie IeValue) : Except String Nat := do
  checkIe ie .ricActionId (some .reject)
  match ie.value with
  | .ricActionId v => do
    require (v < maxRicActionId) "RICactionID < MAX_RIC_ACTION_ID"
    return v % 256
  | _ => .error "value.present == PR_RICactionID"

/-- One turn of the loop of `e2ap_dec_indication` -/
def decIndicationIe (ind : RicIndication) (ie : Ie IeValue) : Except String RicIndication := do
  require (ie.criticality = .reject) "ric_ind->criticality == Criticality_reject"
  match ie.id, ie.value with
  | .ricIndicationSn, .ricIndicationSn v => do
    require (v < maxRicIndicationSn) "RICindicationSN < MAX_RIC_INDICATION_SN"
    return { ind with sn := some (v % 65536) }
  | .ricIndicationType, .ricIndicationType v => do
    require (v < maxRicIndicationType) "RICindicationType < MAX_RIC_INDICATION_TYPE"
    return { ind with type := v }
  | .ricIndicationHeader, .ricIndicationHeader v => return { ind with hdr := ← copyOstringToBa v }
  | .ricIndicationMessage, .ricIndicationMessage v => return { ind with msg := ← copyOstringToBa v }
  | .ricCallProcessId, .ricCallProcessId v => return { ind with callProcessId := some (← copyOstringToBa v) }
  | _, _ => .error "id == ProtocolIE_ID_id_RICindicationSN || ..."

/-- `e2ap_dec_indication` -/
def decIndication (p : Pdu) : Except String RicIndication := do
  decMessage p .initiatingMessage .ricIndication (some .ignore) .ricIndication
  let ricId ← decRicId p (some .reject) true (some maxRanFuncId)
  let actionId ← decRicActionId (← ieAt p 2)
  (p.ies.drop 3).foldlM decIndicationIe ⟨ricId, actionId, none, 0, [], [], none⟩

/-- One turn of the loop of `e2ap_dec_control_request`, which does not look at the criticality -/
def decControlRequestIe (ctrl : RicControlRequest) (ie : Ie IeValue) : Except String RicControlRequest :=
  match ie.id, ie.value with
  | .ricCallProcessId, .ricCallProcessId v => return { ctrl with callProcessId := some (← copyOstringToBa v) }
  | .ricControlHeader, .ricControlHeader v => return { ctrl with hdr := ← copyOstringToBa v }
  | .ricControlMessage, .ricControlMessage v => return { ctrl with msg := ← copyOstringToBa v }
  | .ricControlAckRequest, .ricControlAckRequest v =>
    match v with
    | 0 => .ok { ctrl with ackReq := some .noAck }
    | 1 => .ok { ctrl with ackReq := some .ack }
    | 2 => .ok { ctrl with ackReq := some .nack }
    | _ => .error "RICcontrolAckRequest < 3"
  | _, _ => .error "id == ProtocolIE_ID_id_RICcallProcessID || ..."

/-- `e2ap_dec_control_request` -/
def decControlRequest (p : Pdu) : Except String RicControlRequest := do
  decMessage p .initiatingMessage .ricControl none .ricControlRequest
  let ricId ← decRicId p none true (some maxRanFuncId)
  (p.ies.drop 2).foldlM decControlRequestIe ⟨ricId, none, [], [], none⟩

/-- One turn of the loop of `e2ap_dec_control_ack` -/
def decControlAckIe (ctrl : RicControlAcknowledge) (ie : Ie IeValue) : Except String RicControlAcknowledge := do
  require (ie.criticality = .reject) "ric_ctrl->criticality == Criticality_reject"
  match ie.id, ie.value with
  | .ricCallProcessId, .ricCallProcessId v => return { ctrl with callProcessId := some (← copyOstringToBa v) }
  | .ricControlOutcome, .ricControlOutcome v => return { ctrl with controlOutcome := some (← copyOstringToBa v) }
  | _, _ => .error "id == ProtocolIE_ID_id_RICcallProcessID || id == ProtocolIE_ID_id_RICcontrolOutcome"

/-- `e2ap_dec_control_ack` -/
def decControlAck (p : Pdu) : Except String RicControlAcknowledge := do
  decMessage p .successfulOutcome .ricControl (some .reject) .ricControlAcknowledge
  let ricId ← decRicId p (some .reject) true (some maxRanFuncId)
  (p.ies.drop 2).foldlM decControlAckIe ⟨ricId, none, none⟩

/-- One turn of the loop of `e2ap_dec_control_failure` -/
def decControlFailureIe (cf : RicControlFailure) (ie : Ie IeValue) : Except String RicControlFailure :=
  match ie.id, ie.value with
  | .ricCallProcessId, .ricCallProcessId v => do
    require (ie.criticality = .reject) "cf_ie->criticality == Criticality_reject"
    return { cf with callProcessId := some (← copyOstringToBa v) }
  | .cause, .cause v => do
    require (ie.criticality = .ignore) "cf_ie->criticality == Criticality_ignore"
    return { cf with cause := ← decCause v }
  | .ricControlOutcome, .ricControlOutcome v => do
    require (ie.criticality = .reject) "cf_ie->criticality == Criticality_reject"
    return { cf with controlOutcome := some (← copyOstringToBa v) }
  | .criticalityDiagnostics, _ => .error "Not implemented"
  | _, _ => .error "cf_ie->id == ProtocolIE_ID_id_RICcallProcessID || ..."

/-- `e2ap_dec_control_failure` -/
def decControlFailure (p : Pdu) : Except String RicControlFailure := do
  decMessage p .unsuccessfulOutcome .ricControl (some .reject) .ricControlFailure
  let ricId ← decRicId p (some .reject) false (some maxNumRanFuncId)
  (p.ies.drop 2).foldlM decControlFailureIe ⟨ricId, none, ⟨0, 0⟩, none⟩

/-! ### Which decoder -/

/-- `e2_msg_type_t`, the types that `e2ap_get_msg_type` returns -/
inductive E2MsgType
  | ricSubscriptionRequest
  | ricSubscriptionResponse
  | ricSubscriptionFailure
  | ricSubscriptionDeleteRequest
  | ricSubscriptionDeleteResponse
  | ricSubscriptionDeleteFailure
  | ricIndication
  | ricControlRequest
  | ricControlAcknowledge
  | ricControlFailure
  | e2apErrorIndication
  | e2SetupRequest
  | e2SetupResponse
  | e2SetupFailure
  | e2apResetRequest
  | e2apResetResponse
  | ricServiceUpdate
  | ricServiceUpdateAcknowledge
  | ricServiceUpdateFailure
  | ricServiceQuery
  | e2NodeConfigurationUpdate
  | e2NodeConfigurationUpdateAcknowledge
  | e2NodeConfigurationUpdateFailure
  | e2ConnectionUpdate
  | e2ConnectionUpdateAcknowledge
  | e2ConnectionUpdateFailure
  | e42SetupRequest
  | e42SetupResponse
  | e42RicSubscriptionRequest
  | e42RicSubscriptionDeleteRequest
  | e42RicControlRequest
  | e42UpdateE2Node
  deriving DecidableEq, Repr

/-- One of three types, by what is present in the PDU -/
def byPresent (p : PduPresent) (initiating successful unsuccessful : E2MsgType) : Except String E2MsgType :=
  match p with
  | .initiatingMessage => .ok initiating
  | .successfulOutcome => .ok successful
  | .unsuccessfulOutcome => .ok unsuccessful
  | .nothing => .error "index != E2AP_PDU_PR_NOTHING"

/-- `e2ap_get_msg_type` -/
def getMsgType (p : Pdu) : Except String E2MsgType :=
  match p.procedureCode with
  | .e2setup => byPresent p.present .e2SetupRequest .e2SetupResponse .e2SetupFailure
  | .errorIndication => byPresent p.present .e2apErrorIndication .e2apErrorIndication .e2apErrorIndication
  | .reset => byPresent p.present .e2apResetRequest .e2apResetResponse .e2apResetResponse
  | .ricControl => byPresent p.present .ricControlRequest .ricControlAcknowledge .ricControlFailure
  | .ricIndication => byPresent p.present .ricIndication .ricIndication .ricIndication
  | .ricServiceQuery => byPresent p.present .ricServiceQuery .ricServiceQuery .ricServiceQuery
  | .ricServiceUpdate =>
    byPresent p.present .ricServiceUpdate .ricServiceUpdateAcknowledge .ricServiceUpdateFailure
  | .ricSubscription =>
    byPresent p.present .ricSubscriptionRequest .ricSubscriptionResponse .ricSubscriptionFailure
  | .ricSubscriptionDelete =>
    byPresent p.present .ricSubscriptionDeleteRequest .ricSubscriptionDeleteResponse .ricSubscriptionDeleteFailure
  | .e2nodeConfigurationUpdate =>
    byPresent p.present .e2NodeConfigurationUpdate .e2NodeConfigurationUpdateAcknowledge
      .e2NodeConfigurationUpdateFailure
  | .e2connectionUpdate =>
    byPresent p.present .e2ConnectionUpdate .e2ConnectionUpdateAcknowledge .e2ConnectionUpdateFailure
  | .e42setup => byPresent p.present .e42SetupRequest .e42SetupResponse .e2SetupFailure
  | .e42RicSubscription =>
    byPresent p.present .e42RicSubscriptionRequest .ricSubscriptionResponse .ricSubscriptionFailure
  | .e42RicSubscriptionDelete =>
    byPresent p.present .e42RicSubscriptionDeleteRequest .ricSubscriptionDeleteResponse .ricSubscriptionDeleteFailure
  | .e42RicControl => byPresent p.present .e42RicControlRequest .ricControlAcknowledge .ricControlFailure
  | .e42updateE2node => byPresent p.present .e42UpdateE2Node .e42UpdateE2Node .e42UpdateE2Node

/-- `dec_msg`, for the types of the functional procedures -/
def decMsg : E2MsgType → Option (Pdu → Except String FunctionalMsg)
  | .ricSubscriptionRequest => some fun p => return .subscriptionRequest (← decSubscriptionRequest p)
  | .ricSubscriptionResponse => some fun p => return .subscriptionResponse (← decSubscriptionResponse p)
  | .ricSubscriptionDeleteRequest =>
    some fun p => return .subscriptionDeleteRequest (← decSubscriptionDeleteRequest p)
  | .ricSubscriptionDeleteResponse =>
    some fun p => return .subscriptionDeleteResponse (← decSubscriptionDeleteResponse p)
  | .ricIndication => some fun p => return .indication (← decIndication p)
  | .ricControlRequest => some fun p => return .controlRequest (← decControlRequest p)
  | .ricControlAcknowledge => some fun p => return .controlAcknowledge (← decControlAck p)
  | .ricControlFailure => some fun p => return .controlFailure (← decControlFailure p) none
  | _ => none

/-- `e2ap_msg_dec_asn`, from the PDU on -/
def decPdu (p : Pdu) : Except String FunctionalMsg := do
  let t ← getMsgType p
  match decMsg t with
  | some dec => dec p
  | none => .error "asn->dec_msg[msg_type] != NULL"

end FlexRic.E2ap
