import FlexRic.E2ap.SetupPdu
import FlexRic.E2ap.EncAsn

/-! # From messages about nodes to PDUs

The functions `e2ap_enc_setup_*_asn_pdu` and `e2ap_enc_e42_*_asn_pdu` (`e2ap_msg_enc_asn.c`). -/

namespace FlexRic.E2ap.Setup

/-! ### RAN functions and components -/

/-- `copy_ran_function`, in its element -/
def encRanFunction (f : RanFunction) : Ie RanFunctionItem :=
  ⟨.ranFunctionItem, .reject, ⟨f.id, f.definition, f.rev, f.oid⟩⟩

/-- `e2ap_enc_node_component_id` -/
def encNodeComponentId : NodeCompId → Except String NodeComponentIdAsn
  | .ng amfName => .ok (.ng amfName)
  | .xn => .error "interface type Xn not implemented"
  | .e1 id => .ok (.e1 id.toNat)
  | .f1 id => .ok (.f1 id.toNat)
  | .w1 id => .ok (.w1 id.toNat)
  | .s1 mmeName => .ok (.s1 mmeName)
  | .x2 => .error "interface type X2 not implemented"

/-- `e2ap_enc_node_component_conf_addition` -/
def encConfigAddition (c : NodeComponentConfigAdd) : Except String (Ie (Option ConfigAdditionItem)) := do
  let id ← encNodeComponentId c.e2NodeCompId
  return ⟨.e2NodeComponentConfigAdditionItem, .reject, some ⟨c.e2NodeCompId.type, id, c.request, c.response⟩⟩

def encFailureCause : Option Cause → Except String (Option CauseAsn)
  | none => .ok none
  | some c => (encCause c).map some

/-- `e2ap_enc_node_component_conf_addition_ack` -/
def encConfigAdditionAck (c : NodeCompConfigAddAck) : Except String (Ie (Option ConfigAdditionAckItem)) := do
  let id ← encNodeComponentId c.e2NodeCompId
  let cause ← encFailureCause c.cause
  return ⟨.e2NodeComponentConfigAdditionAckItem, .reject, some ⟨c.e2NodeCompId.type, id, c.outcome, cause⟩⟩

/-! ### Elements -/

/-- A list is in the message when it is not empty. -/
def unlessEmpty {A : Type} (ie : List A → PduIe) (l : List A) : List PduIe := if l = [] then [] else [ie l]

def transactionIdIe (transId : UInt8) : PduIe := .own ⟨.transactionId, .reject, .transactionId transId.toNat⟩

def globalE2NodeIdIe (id : GlobalE2NodeIdAsn) : PduIe := .own ⟨.globalE2NodeId, .reject, .globalE2NodeId id⟩

def xappIdIe (xappId : UInt16) : PduIe := .own ⟨.xappId, .reject, .xappId xappId.toNat⟩

def ranFunctionsAddedIe (l : List RanFunction) : PduIe :=
  .own ⟨.ranFunctionsAdded, .reject, .ranFunctionsList (l.map encRanFunction)⟩

/-! ### E2 setup -/

/-- `e2ap_enc_setup_request_asn_pdu` -/
def encSetupRequest (sr : E2SetupRequest) : Except String Pdu := do
  require (sr.ranFuncItem.length ≤ maxNumRanFuncId) "sr->len_rf <= (size_t)MAX_NUM_RAN_FUNC_ID"
  let id ← encGlobalE2NodeId sr.id
  require (sr.compConfAdd ≠ []) "sr->len_cca > 0"
  let config ← sr.compConfAdd.mapM encConfigAddition
  return ⟨.initiatingMessage, .e2setup, .reject, .e2SetupRequest,
    [transactionIdIe sr.transId, globalE2NodeIdIe id] ++ unlessEmpty ranFunctionsAddedIe sr.ranFuncItem ++
      [.own ⟨.e2NodeComponentConfigAddition, .reject, .e2NodeComponentConfigAdditionList config⟩]⟩

def encAccepted (id : UInt16) : Ie (Option Nat) := ⟨.ranFunctionIdItem, .ignore, some id.toNat⟩

/-- The causes are those that `copy_cause` admits. -/
def encRejected (f : UInt16 × Cause) : Except String (Ie (Option RanFunctionIdCauseItem)) := do
  let cause ← encCause f.2
  return ⟨.ranFunctionIdItem, .ignore, some ⟨f.1.toNat, cause⟩⟩

/-- `e2ap_enc_setup_response_asn_pdu` -/
def encSetupResponse (sr : E2SetupResponse) : Except String Pdu := do
  require (sr.accepted.length ≤ maxNumRanFuncId) "sr->len_acc <= (size_t)MAX_NUM_RAN_FUNC_ID"
  require (sr.rejected.length ≤ maxNumRanFuncId) "sr->len_rej <= (size_t)MAX_NUM_RAN_FUNC_ID"
  require (sr.compConfigAddAck.length ≤ maxNumE2NodeComponents) "sr->len_ccaa <= (size_t)MAX_NUM_E2_NODE_COMPONENTS"
  let rejected ← sr.rejected.mapM encRejected
  require (0 < sr.compConfigAddAck.length ∧ sr.compConfigAddAck.length < 1025) "sr->len_ccaa > 0 && sr->len_ccaa < 1025"
  let config ← sr.compConfigAddAck.mapM encConfigAdditionAck
  return ⟨.successfulOutcome, .e2setup, .reject, .e2SetupResponse,
    [transactionIdIe sr.transId, .own ⟨.globalRicId, .reject, .globalRicId (encPlmn sr.plmn) (encMacroEnbId sr.nearRicId)⟩] ++
      unlessEmpty (fun l => .own ⟨.ranFunctionsAccepted, .reject, .ranFunctionsIdList (l.map encAccepted)⟩) sr.accepted ++
      unlessEmpty (fun l => .own ⟨.ranFunctionsRejected, .reject, .ranFunctionsIdCauseList l⟩) rejected ++
      [.own ⟨.e2NodeComponentConfigAdditionAck, .reject, .e2NodeComponentConfigAdditionAckList config⟩]⟩

/-! ### E42 -/

/-- `e2ap_enc_e42_setup_request_asn_pdu` -/
def encE42SetupRequest (ranFuncItem : List RanFunction) : Except String Pdu := do
  require (ranFuncItem.length ≤ maxNumRanFuncId) "sr->len_rf <= (size_t)MAX_NUM_RAN_FUNC_ID"
  return ⟨.initiatingMessage, .e42setup, .reject, .e42SetupRequest, unlessEmpty ranFunctionsAddedIe ranFuncItem⟩

/-- A node and its RAN functions, which are there also when there is none -/
def encNodeConnected (n : E2NodeConnected) : Except String PduIe := do
  let id ← encGlobalE2NodeId n.1
  return .own ⟨.e2NodesConnected, .reject, .e2NodeConnectedList
    [⟨.globalE2NodeId, .reject, .globalE2NodeId id⟩,
      ⟨.ranFunctionsAdded, .reject, .ranFunctionsList (n.2.map encRanFunction)⟩]⟩

/-- `e2ap_enc_e42_setup_response_asn_pdu` -/
def encE42SetupResponse (xappId : UInt16) (nodes : List E2NodeConnected) : Except String Pdu := do
  let nodes ← nodes.mapM encNodeConnected
  return ⟨.successfulOutcome, .e42setup, .reject, .e42SetupResponse, xappIdIe xappId :: nodes⟩

/-- `e2ap_enc_e42_update_e2_node_asn_pdu` -/
def encE42UpdateE2Node (xappId : UInt16) (nodes : List E2NodeConnected) : Except String Pdu := do
  let nodes ← nodes.mapM encNodeConnected
  return ⟨.initiatingMessage, .e42updateE2node, .reject, .e42UpdateE2Node, xappIdIe xappId :: nodes⟩

/-- The elements of a message of a functional procedure, after the identity of the node -/
def functionalIes (ies : List (E2ap.Ie E2ap.IeValue)) : List PduIe := ies.map .functional

/-- `e2ap_enc_e42_subscription_request_asn_pdu` -/
def encE42SubscriptionRequest (xappId : UInt16) (id : GlobalE2NodeId) (sr : RicSubscriptionRequest) :
    Except String Pdu := do
  require (sr.eventTrigger ≠ []) "sr->event_trigger.buf != NULL && sr->event_trigger.len > 0"
  require (sr.action.length ≤ maxNumActionDef) "sr->len_action <= (size_t)MAX_NUM_ACTION_DEF"
  let id ← encGlobalE2NodeId id
  let actions ← sr.action.mapM encAction
  return ⟨.initiatingMessage, .e42RicSubscription, .reject, .e42RicSubscriptionRequest,
    [xappIdIe xappId, globalE2NodeIdIe id] ++ functionalIes (idIes sr.ricId ++
      [⟨.ricSubscriptionDetails, .reject, .ricSubscriptionDetails sr.eventTrigger actions⟩])⟩

/-- `e2ap_enc_e42_subscription_delete_request_asn_pdu` -/
def encE42SubscriptionDeleteRequest (xappId : UInt16) (sdr : RicSubscriptionDeleteRequest) : Pdu :=
  ⟨.initiatingMessage, .e42RicSubscriptionDelete, .reject, .e42RicSubscriptionDeleteRequest,
    xappIdIe xappId :: functionalIes (idIes sdr.ricId)⟩

/-- `e2ap_enc_e42_control_request_asn_pdu` -/
def encE42ControlRequest (xappId : UInt16) (id : GlobalE2NodeId) (req : RicControlRequest) : Except String Pdu := do
  require (req.hdr ≠ []) "ric_req->hdr.buf != NULL && ric_req->hdr.len > 0"
  require (req.msg ≠ []) "ric_req->msg.buf != NULL && ric_req->msg.len > 0"
  let id ← encGlobalE2NodeId id
  let callProcessId ← encOptional callProcessIdIe
    "ric_req->call_process_id->buf != NULL && ric_req->call_process_id->len > 0" req.callProcessId
  return ⟨.initiatingMessage, .e42RicControl, .reject, .e42RicControlRequest,
    [xappIdIe xappId, globalE2NodeIdIe id] ++ functionalIes (idIes req.ricId ++ callProcessId ++
      [⟨.ricControlHeader, .reject, .ricControlHeader req.hdr⟩,
        ⟨.ricControlMessage, .reject, .ricControlMessage req.msg⟩] ++
      req.ackReq.toList.map (fun a => ⟨.ricControlAckRequest, .reject, .ricControlAckRequest a.value⟩))⟩

/-- The encoder of each message -/
def encMsg : Msg → Except String Pdu
  | .e2SetupRequest m => encSetupRequest m
  | .e2SetupResponse m => encSetupResponse m
  | .e42SetupRequest ranFuncItem => encE42SetupRequest ranFuncItem
  | .e42SetupResponse xappId nodes => encE42SetupResponse xappId nodes
  | .e42UpdateE2Node xappId nodes => encE42UpdateE2Node xappId nodes
  | .e42RicSubscriptionRequest xappId id sr => encE42SubscriptionRequest xappId id sr
  | .e42RicSubscriptionDeleteRequest xappId sdr => .ok (encE42SubscriptionDeleteRequest xappId sdr)
  | .e42RicControlRequest xappId id req => encE42ControlRequest xappId id req

end FlexRic.E2ap.Setup
