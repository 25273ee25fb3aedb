import FlexRic.E2ap.Pdu

/-! # From messages to PDUs

The functions `e2ap_enc_*_asn_pdu` of the functional procedures (`e2ap_msg_enc_asn.c`). -/

namespace FlexRic.E2ap

/-- `copy_cause` of the encoder: the values of the enumerations are below these bounds. -/
def encCause (c : Cause) : Except String CauseAsn :=
  match c.present with
  | 1 => do
    require (0 ≤ c.value ∧ c.value < 11) "src.ricRequest < 11"
    return .ricRequest c.value
  | 2 => do
    require (0 ≤ c.value ∧ c.value < 3) "src.ricService < 3"
    return .ricService c.value
  | 3 => do
    require (0 ≤ c.value ∧ c.value < 2) "src.transport < 2"
    return .transport c.value
  | 4 => do
    require (0 ≤ c.value ∧ c.value < 7) "src.protocol < 7"
    return .protocol c.value
  | 5 => do
    require (0 ≤ c.value ∧ c.value < 4) "src.misc < 4"
    return .misc c.value
  | 0 => .error "Not Implemented!"
  | _ => .error "Invalid code path. Error caused assigned"

/-- The elements that every message begins with -/
def idIes (r : RicGenId) : List (Ie IeValue) :=
  [⟨.ricRequestId, .reject, .ricRequestId r.ricReqId r.ricInstId⟩, ⟨.ranFunctionId, .reject, .ranFunctionId r.ranFuncId⟩]

/-- An optional octet string that is asserted not to be empty when it is there -/
def encOptional (ie : List UInt8 → Ie IeValue) (msg : String) : Option (List UInt8) → Except String (List (Ie IeValue))
  | none => .ok []
  | some b => do
    require (b ≠ []) msg
    return [ie b]

def callProcessIdIe (b : List UInt8) : Ie IeValue := ⟨.ricCallProcessId, .reject, .ricCallProcessId b⟩

def controlOutcomeIe (b : List UInt8) : Ie IeValue := ⟨.ricControlOutcome, .reject, .ricControlOutcome b⟩

def encSubseqAction (a : RicSubsequentAction) : Except String RicSubsequentActionAsn :=
  match a.timeToWaitMs with
  | none => .ok ⟨a.type, 0⟩
  | some t => do
    require (t < 18) "*src->subseq_action->time_to_wait_ms < 18"
    return ⟨a.type, t⟩

def encAction (a : RicAction) : Except String (Ie (Option RicActionToBeSetupItem)) := do
  let subseq ← match a.subseqAction with
    | none => .ok none
    | some s => (encSubseqAction s).map some
  return ⟨.ricActionToBeSetupItem, .reject, some ⟨a.id, a.type, a.definition, subseq⟩⟩

/-- `e2ap_enc_subscription_request_asn_pdu` -/
def encSubscriptionRequest (sr : RicSubscriptionRequest) : Except String Pdu := do
  require (sr.eventTrigger ≠ []) "sr->event_trigger.buf != NULL && sr->event_trigger.len > 0"
  require (sr.action.length ≤ maxNumActionDef) "sr->len_action <= (size_t)MAX_NUM_ACTION_DEF"
  let actions ← sr.action.mapM encAction
  return ⟨.initiatingMessage, .ricSubscription, .reject, .ricSubscriptionRequest,
    idIes sr.ricId ++ [⟨.ricSubscriptionDetails, .reject, .ricSubscriptionDetails sr.eventTrigger actions⟩]⟩

def encAdmitted (id : Nat) : Ie (Option Nat) := ⟨.ricActionAdmittedItem, .ignore, some id⟩

def encNotAdmitted (a : Nat × Cause) : Except String (Ie (Option RicActionNotAdmittedItem)) := do
  let cause ← encCause a.2
  return ⟨.ricActionNotAdmittedItem, .reject, some ⟨a.1, cause⟩⟩

/-- `e2ap_enc_subscription_response_asn_pdu` -/
def encSubscriptionResponse (sr : RicSubscriptionResponse) : Except String Pdu := do
  let notAdmitted ← sr.notAdmitted.mapM encNotAdmitted
  return ⟨.successfulOutcome, .ricSubscription, .reject, .ricSubscriptionResponse,
    idIes sr.ricId ++ [⟨.ricActionsAdmitted, .reject, .ricActionAdmittedList (sr.admitted.map encAdmitted)⟩,
      ⟨.ricActionsNotAdmitted, .reject, .ricActionNotAdmittedList notAdmitted⟩]⟩

/-- `e2ap_enc_subscription_delete_request_asn_pdu` -/
def encSubscriptionDeleteRequest (dr : RicSubscriptionDeleteRequest) : Pdu :=
  ⟨.initiatingMessage, .ricSubscriptionDelete, .reject, .ricSubscriptionDeleteRequest, idIes dr.ricId⟩

/-- `e2ap_enc_subscription_delete_response_asn_pdu` -/
def encSubscriptionDeleteResponse (dr : RicSubscriptionDeleteResponse) : Pdu :=
  ⟨.successfulOutcome, .ricSubscriptionDelete, .reject, .ricSubscriptionDeleteResponse, idIes dr.ricId⟩

/-- `e2ap_enc_indication_asn_pdu` -/
def encIndication (ind : RicIndication) : Except String Pdu := do
  require (ind.hdr ≠ []) "ind->hdr.buf != NULL && ind->hdr.len > 0"
  require (ind.msg ≠ []) "ind->msg.buf != NULL && ind->msg.len > 0"
  let callProcessId ← encOptional callProcessIdIe
    "ind->call_process_id->buf != NULL && ind->call_process_id->len > 0" ind.callProcessId
  return ⟨.initiatingMessage, .ricIndication, .ignore, .ricIndication,
    idIes ind.ricId ++ [⟨.ricActionId, .reject, .ricActionId ind.actionId⟩] ++
      ind.sn.toList.map (fun sn => ⟨.ricIndicationSn, .reject, .ricIndicationSn sn⟩) ++
      [⟨.ricIndicationType, .reject, .ricIndicationType ind.type⟩,
        ⟨.ricIndicationHeader, .reject, .ricIndicationHeader ind.hdr⟩,
        ⟨.ricIndicationMessage, .reject, .ricIndicationMessage ind.msg⟩] ++ callProcessId⟩

/-- The value of the enumeration constant. -/
def RicControlAckReq.value : RicControlAckReq → Nat
  | .noAck => 0
  | .ack => 1
  | .nack => 2

/-- `e2ap_enc_control_request_asn_pdu` -/
def encControlRequest (req : RicControlRequest) : Except String Pdu := do
  require (req.hdr ≠ []) "ric_req->hdr.buf != NULL && ric_req->hdr.len > 0"
  require (req.msg ≠ []) "ric_req->msg.buf != NULL && ric_req->msg.len > 0"
  let callProcessId ← encOptional callProcessIdIe
    "ric_req->call_process_id->buf != NULL && ric_req->call_process_id->len > 0" req.callProcessId
  return ⟨.initiatingMessage, .ricControl, .reject, .ricControlRequest,
    idIes req.ricId ++ callProcessId ++
      [⟨.ricControlHeader, .reject, .ricControlHeader req.hdr⟩,
        ⟨.ricControlMessage, .reject, .ricControlMessage req.msg⟩] ++
      req.ackReq.toList.map (fun a => ⟨.ricControlAckRequest, .reject, .ricControlAckRequest a.value⟩)⟩

/-- `e2ap_enc_control_ack_asn_pdu` -/
def encControlAck (ca : RicControlAcknowledge) : Except String Pdu := do
  let callProcessId ← encOptional callProcessIdIe
    "ca->call_process_id->buf != NULL && ca->call_process_id->len > 0" ca.callProcessId
  let controlOutcome ← encOptional controlOutcomeIe
    "ca->control_outcome->buf != NULL && ca->control_outcome->len > 0" ca.controlOutcome
  return ⟨.successfulOutcome, .ricControl, .reject, .ricControlAcknowledge,
    idIes ca.ricId ++ callProcessId ++ controlOutcome⟩

/-- `e2ap_enc_control_failure_asn_pdu`; it does not read `crit`. -/
def encControlFailure (cf : RicControlFailure) : Except String Pdu := do
  let callProcessId ← encOptional callProcessIdIe
    "cf->call_process_id->buf != NULL && cf->call_process_id->len > 0" cf.callProcessId
  let cause ← encCause cf.cause
  let controlOutcome ← encOptional controlOutcomeIe
    "cf->control_outcome->buf != NULL && cf->control_outcome->len > 0" cf.controlOutcome
  return ⟨.unsuccessfulOutcome, .ricControl, .reject, .ricControlFailure,
    idIes cf.ricId ++ callProcessId ++ [⟨.cause, .ignore, .cause cause⟩] ++ controlOutcome⟩

/-- The encoder of each message -/
def encPdu : FunctionalMsg → Except String Pdu
  | .subscriptionRequest m => encSubscriptionRequest m
  | .subscriptionResponse m => encSubscriptionResponse m
  | .subscriptionDeleteRequest m => .ok (encSubscriptionDeleteRequest m)
  | .subscriptionDeleteResponse m => .ok (encSubscriptionDeleteResponse m)
  | .indication m => encIndication m
  | .controlRequest m => encControlRequest m
  | .controlAcknowledge m => encControlAck m
  | .controlFailure m _ => encControlFailure m

end FlexRic.E2ap
