import FlexRic.E2ap.EncSetupAsn
import FlexRic.E2ap.DecAsn

/-! # From PDUs to messages about nodes

The functions `e2ap_dec_setup_*` and `e2ap_dec_e42_*` (`e2ap_msg_dec_asn.c`). -/

namespace FlexRic.E2ap.Setup

/-! ### Elements -/

/-- The message of the PDU is the expected one; some decoders do not look at the criticality. -/
def decMessage (p : Pdu) (present : PduPresent) (code : ProcedureCode) (crit : Option Criticality)
    (value : MessageValue) : Except String Unit := do
  require (p.present = present) "pdu->present"
  require (p.procedureCode = code) "procedureCode"
  require (∀ c ∈ crit, p.criticality = c) "criticality"
  require (p.value = value) "value.present"

def checkIe {V : Type} (ie : Ie V) (id : IeId) (crit : Criticality) : Except String Unit := do
  require (ie.id = id) "ie->id"
  require (ie.criticality = crit) "ie->criticality"

/-- An element of the message's own, with the identifier that is expected -/
def ownValue (ie : PduIe) (id : IeId) : Except String IeValue :=
  match ie with
  | .own ie => do
    checkIe ie id .reject
    return ie.value
  | .functional _ => .error "ie->id"

/-- `protocolIEs.list.array[i]` -/
def ieAt (p : Pdu) (i : Nat) : Except String PduIe :=
  match p.ies[i]? with
  | some ie => .ok ie
  | none => .error "protocolIEs.list.array"

def functionalAt (p : Pdu) (i : Nat) : Except String (E2ap.Ie E2ap.IeValue) := do
  match ← ieAt p i with
  | .functional ie => return ie
  | .own _ => .error "ie->id"

def decTransactionId (p : Pdu) : Except String UInt8 := do
  match ← ownValue (← ieAt p 0) .transactionId with
  | .transactionId v => do
    require (v < 256) "trans_id->value.choice.TransactionID < 256"
    return UInt8.ofNat v
  | _ => .error "value.present == PR_TransactionID"

def decXappId (p : Pdu) : Except String UInt16 := do
  match ← ownValue (← ieAt p 0) .xappId with
  | .xappId v => return UInt16.ofNat v
  | _ => .error "value.present == PR_XAPP_ID"

def decGlobalE2NodeIdAt (p : Pdu) (i : Nat) : Except String GlobalE2NodeId := do
  match ← ownValue (← ieAt p i) .globalE2NodeId with
  | .globalE2NodeId v => decGlobalE2NodeId v
  | _ => .error "value.present == PR_GlobalE2node_ID"

/-- `ric_id`, from two elements -/
def decRicIdAt (p : Pdu) (i : Nat) (crit : Option Criticality) (bounded : Bool) (bound : Option Nat) :
    Except String RicGenId := do
  let (req, inst) ← decRicRequestId (← functionalAt p i) crit bounded
  let func ← decRanFunctionId (← functionalAt p (i + 1)) crit bound
  return ⟨req, inst, func⟩

/-! ### RAN functions and components -/

def decRanFunction (ie : Ie RanFunctionItem) : Except String RanFunction := do
  require (ie.value.ranFunctionId ≤ maxRanFuncId) "src->ranFunctionID <= MAX_RAN_FUNC_ID"
  require (-1 < ie.value.ranFunctionRevision ∧ ie.value.ranFunctionRevision ≤ maxRanFuncRev)
    "src->ranFunctionRevision > -1 && src->ranFunctionRevision <= MAX_RAN_FUNC_REV"
  let definition ← copyOstringToBa ie.value.ranFunctionDefinition
  let oid ← copyOstringToBa ie.value.ranFunctionOid
  return ⟨definition, ie.value.ranFunctionId, ie.value.ranFunctionRevision.toNat, oid⟩

/-- `e2ap_dec_node_component_id` -/
def decNodeComponentId (interfaceType : NodeCompInterfaceType) : NodeComponentIdAsn → Except String NodeCompId
  | .ng amfName => do
    require (interfaceType = .ng) "interface_type == NG_E2AP_NODE_COMP_INTERFACE_TYPE"
    return .ng (← copyOstringToBa amfName)
  | .xn => .error "interfaceTypeXn not Implemented"
  | .e1 id => do
    require (interfaceType = .e1) "interface_type == E1_E2AP_NODE_COMP_INTERFACE_TYPE"
    return .e1 (UInt64.ofNat id)
  | .f1 id => do
    require (interfaceType = .f1) "interface_type == F1_E2AP_NODE_COMP_INTERFACE_TYPE"
    return .f1 (UInt64.ofNat id)
  | .w1 id => do
    require (interfaceType = .w1) "interface_type == W1_E2AP_NODE_COMP_INTERFACE_TYPE"
    return .w1 (UInt64.ofNat id)
  | .s1 mmeName => do
    require (interfaceType = .s1) "interface_type == S1_E2AP_NODE_COMP_INTERFACE_TYPE"
    return .s1 (← copyOstringToBa mmeName)
  | .x2 => .error "interfaceTypeX2 not Implemented"

/-- `e2ap_dec_node_component_conf_addition` -/
def decConfigAddition (ie : Ie (Option ConfigAdditionItem)) : Except String NodeComponentConfigAdd := do
  checkIe ie .e2NodeComponentConfigAdditionItem .reject
  match ie.value with
  | some cca => do
    let id ← decNodeComponentId cca.e2NodeComponentInterfaceType cca.e2NodeComponentId
    let request ← copyOstringToBa cca.e2NodeComponentRequestPart
    let response ← copyOstringToBa cca.e2NodeComponentResponsePart
    return ⟨id, request, response⟩
  | none => .error "value.present == PR_E2nodeComponentConfigAddition_Item"

def decFailureCause : Option CauseAsn → Except String (Option Cause)
  | none => .ok none
  | some c => (decCause c).map some

/-- `e2ap_dec_node_component_conf_addition_ack` -/
def decConfigAdditionAck (ie : Ie (Option ConfigAdditionAckItem)) : Except String NodeCompConfigAddAck := do
  checkIe ie .e2NodeComponentConfigAdditionAckItem .reject
  match ie.value with
  | some ccaa => do
    let id ← decNodeComponentId ccaa.e2NodeComponentInterfaceType ccaa.e2NodeComponentId
    let cause ← decFailureCause ccaa.failureCause
    return ⟨id, ccaa.updateOutcome, cause⟩
  | none => .error "value.present == PR_E2nodeComponentConfigAdditionAck_Item"

/-! ### E2 setup -/

/-- One turn of the loop of `e2ap_dec_setup_request`, which goes from the last element to the third -/
def decSetupRequestIe (sr : E2SetupRequest) (ie : PduIe) : Except String E2SetupRequest :=
  match ie with
  | .own ⟨.ranFunctionsAdded, crit, .ranFunctionsList l⟩ => do
    require (crit = .reject) "ran_list->criticality == Criticality_reject"
    require (l.length < maxNumRanFuncId) "RANfunctions_List.list.count < MAX_NUM_RAN_FUNC_ID"
    let ranFuncItem ← l.mapM decRanFunction
    return { sr with ranFuncItem := ranFuncItem }
  | .own ⟨.e2NodeComponentConfigAddition, crit, .e2NodeComponentConfigAdditionList l⟩ => do
    require (crit = .reject) "comp_add->criticality == Criticality_reject"
    require (0 < l.length ∧ l.length < 1024) "sr->len_cca > 0 && sr->len_cca < 1024"
    let compConfAdd ← l.mapM decConfigAddition
    return { sr with compConfAdd := compConfAdd }
  | _ => .error "proto_id == ProtocolIE_ID_id_RANfunctionsAdded || ..."

/-- `e2ap_dec_setup_request` -/
def decSetupRequest (p : Pdu) : Except String E2SetupRequest := do
  decMessage p .initiatingMessage .e2setup (some .reject) .e2SetupRequest
  require (0 < p.ies.length ∧ p.ies.length < 5) "list.count > 0 && list.count < 5"
  let transId ← decTransactionId p
  let id ← decGlobalE2NodeIdAt p 1
  (p.ies.drop 2).reverse.foldlM decSetupRequestIe ⟨transId, id, [], []⟩

def decAccepted (ie : Ie (Option Nat)) : Except String UInt16 := do
  checkIe ie .ranFunctionIdItem .ignore
  match ie.value with
  | some id => do
    require (id < maxRanFuncId) "ranFunctionID < MAX_RAN_FUNC_ID"
    return UInt16.ofNat id
  | none => .error "value.present == PR_RANfunctionID_Item"

def decRejected (ie : Ie (Option RanFunctionIdCauseItem)) : Except String (UInt16 × Cause) := do
  checkIe ie .ranFunctionIdItem .ignore
  match ie.value with
  | some src => do
    require (src.ranFunctionId < maxRanFuncId) "src->ranFunctionID < MAX_RAN_FUNC_ID"
    let cause ← decNotAdmittedCause src.cause
    return (UInt16.ofNat src.ranFunctionId, cause)
  | none => .error "value.present == PR_RANfunctionIDcause_Item"

/-- One turn of the loop of `e2ap_dec_setup_response_success`, which goes from the last element to the third -/
def decSetupResponseIe (sr : E2SetupResponse) (ie : PduIe) : Except String E2SetupResponse :=
  match ie with
  | .own ⟨.ranFunctionsAccepted, crit, .ranFunctionsIdList l⟩ => do
    require (crit = .reject) "ran_func->criticality == Criticality_reject"
    require (l.length < maxNumRanFuncId) "RANfunctionsID_List.list.count < MAX_NUM_RAN_FUNC_ID"
    let accepted ← l.mapM decAccepted
    return { sr with accepted := accepted }
  | .own ⟨.ranFunctionsRejected, crit, .ranFunctionsIdCauseList l⟩ => do
    require (crit = .reject) "ran_rej->criticality == Criticality_reject"
    let rejected ← l.mapM decRejected
    return { sr with rejected := rejected }
  | .own ⟨.e2NodeComponentConfigAdditionAck, crit, .e2NodeComponentConfigAdditionAckList l⟩ => do
    require (crit = .reject) "ca_list->criticality == Criticality_reject"
    require (l.length < maxNumE2NodeComponents) "sz < (size_t) MAX_NUM_E2_NODE_COMPONENTS"
    let config ← l.mapM decConfigAdditionAck
    return { sr with compConfigAddAck := config }
  | _ => .error "proto_id == ProtocolIE_ID_id_RANfunctionsAccepted || ..."

def decGlobalRicId (p : Pdu) : Except String (E2apPlmn × Nat) := do
  match ← ownValue (← ieAt p 1) .globalRicId with
  | .globalRicId plmn ricId => do
    let nearRicId ← decMacroEnbId ricId
    return (decPlmn plmn, nearRicId)
  | _ => .error "value.present == PR_GlobalRIC_ID"

/-- `e2ap_dec_setup_response_success` -/
def decSetupResponse (p : Pdu) : Except String E2SetupResponse := do
  decMessage p .successfulOutcome .e2setup (some .reject) .e2SetupResponse
  require (0 < p.ies.length ∧ p.ies.length < 5) "list.count > 0 && list.count < 5"
  let transId ← decTransactionId p
  let (plmn, nearRicId) ← decGlobalRicId p
  (p.ies.drop 2).reverse.foldlM decSetupResponseIe ⟨transId, plmn, nearRicId, [], [], []⟩

/-! ### E42 -/

/-- `e2ap_dec_e42_setup_request` -/
def decE42SetupRequest (p : Pdu) : Except String (List RanFunction) := do
  decMessage p .initiatingMessage .e42setup (some .reject) .e42SetupRequest
  require (0 < p.ies.length) "Need to have some functionality"
  match ← ownValue (← ieAt p 0) .ranFunctionsAdded with
  | .ranFunctionsList l => l.mapM decRanFunction
  | _ => .error "value.present == PR_RANfunctions_List"

def decConnectedList (l : List (Ie ConnectedValue)) : Except String E2NodeConnected :=
  match l with
  | [src, srcRan] => do
    checkIe src .globalE2NodeId .reject
    let id ← match src.value with
      | .globalE2NodeId v => decGlobalE2NodeId v
      | .ranFunctionsList _ => .error "value.present == PR_GlobalE2node_ID"
    checkIe srcRan .ranFunctionsAdded .reject
    match srcRan.value with
    | .ranFunctionsList l => do
      let ackRf ← l.mapM decRanFunction
      return (id, ackRf)
    | .globalE2NodeId _ => .error "value.present == PR_RANfunctions_List"
  | _ => .error "Need the Global E2 Node ID and the RAN functions"

def decNodeConnected (ie : PduIe) : Except String E2NodeConnected := do
  match ← ownValue ie .e2NodesConnected with
  | .e2NodeConnectedList l => decConnectedList l
  | _ => .error "value.present == PR_E2nodeConnected_List"

/-- The xApp and the nodes, of a message with both -/
def decNodes (p : Pdu) : Except String (UInt16 × List E2NodeConnected) := do
  require (0 < p.ies.length) "At least the xApp-id should be here"
  let xappId ← decXappId p
  let nodes ← (p.ies.drop 1).mapM decNodeConnected
  return (xappId, carried nodes)

/-- `e2ap_dec_e42_setup_response` -/
def decE42SetupResponse (p : Pdu) : Except String (UInt16 × List E2NodeConnected) := do
  decMessage p .successfulOutcome .e42setup (some .reject) .e42SetupResponse
  decNodes p

/-- `e2ap_dec_e42_update_e2_node` -/
def decE42UpdateE2Node (p : Pdu) : Except String (UInt16 × List E2NodeConnected) := do
  decMessage p .initiatingMessage .e42updateE2node (some .reject) .e42UpdateE2Node
  decNodes p

/-- `e2ap_dec_e42_subscription_request` -/
def decE42SubscriptionRequest (p : Pdu) : Except String (UInt16 × GlobalE2NodeId × RicSubscriptionRequest) := do
  decMessage p .initiatingMessage .e42RicSubscription none .e42RicSubscriptionRequest
  require (p.ies.length = 5) "out->protocolIEs.list.count == 5"
  let xappId ← decXappId p
  let id ← decGlobalE2NodeIdAt p 1
  let ricId ← decRicIdAt p 2 (some .reject) false none
  let subDet ← functionalAt p 4
  E2ap.checkIe subDet .ricSubscriptionDetails (some .reject)
  match subDet.value with
  | .ricSubscriptionDetails eventTrigger actions => do
    let eventTrigger ← decEventTrigger eventTrigger
    require (actions.length > 0 ∧ actions.length ≤ maxNumActionDef) "len_ra > 0 && len_ra <= MAX_NUM_ACTION_DEF"
    let action ← actions.mapM decAction
    return (xappId, id, ⟨ricId, eventTrigger, action⟩)
  | _ => .error "value.present == PR_RICsubscriptionDetails"

/-- `e2ap_dec_e42_subscription_delete_request` -/
def decE42SubscriptionDeleteRequest (p : Pdu) : Except String (UInt16 × RicSubscriptionDeleteRequest) := do
  decMessage p .initiatingMessage .e42RicSubscriptionDelete (some .reject) .e42RicSubscriptionDeleteRequest
  let xappId ← decXappId p
  let ricId ← decRicIdAt p 1 (some .reject) false (some maxRanFuncId)
  return (xappId, ⟨ricId⟩)

/-- One turn of the loop of `e2ap_dec_e42_control_request`, which is that of a control request -/
def decE42ControlRequestIe (ctrl : RicControlRequest) (ie : PduIe) : Except String RicControlRequest :=
  match ie with
  | .functional ie => decControlRequestIe ctrl ie
  | .own _ => .error "id == ProtocolIE_ID_id_RICcallProcessID || ..."

/-- `e2ap_dec_e42_control_request` -/
def decE42ControlRequest (p : Pdu) : Except String (UInt16 × GlobalE2NodeId × RicControlRequest) := do
  decMessage p .initiatingMessage .e42RicControl none .e42RicControlRequest
  let xappId ← decXappId p
  let id ← decGlobalE2NodeIdAt p 1
  let ricId ← decRicIdAt p 2 none true (some maxRanFuncId)
  let ctrl ← (p.ies.drop 4).foldlM decE42ControlRequestIe ⟨ricId, none, [], [], none⟩
  return (xappId, id, ctrl)

/-! ### Which decoder -/

/-- `dec_msg`, for the types of these messages -/
def decMsg : E2MsgType → Option (Pdu → Except String Msg)
  | .e2SetupRequest => some fun p => return .e2SetupRequest (← decSetupRequest p)
  | .e2SetupResponse => some fun p => return .e2SetupResponse (← decSetupResponse p)
  | .e42SetupRequest => some fun p => return .e42SetupRequest (← decE42SetupRequest p)
  | .e42SetupResponse => some fun p => do
    let (xappId, nodes) ← decE42SetupResponse p
    return .e42SetupResponse xappId nodes
  | .e42UpdateE2Node => some fun p => do
    let (xappId, nodes) ← decE42UpdateE2Node p
    return .e42UpdateE2Node xappId nodes
  | .e42RicSubscriptionRequest => some fun p => do
    let (xappId, id, sr) ← decE42SubscriptionRequest p
    return .e42RicSubscriptionRequest xappId id sr
  | .e42RicSubscriptionDeleteRequest => some fun p => do
    let (xappId, sdr) ← decE42SubscriptionDeleteRequest p
    return .e42RicSubscriptionDeleteRequest xappId sdr
  | .e42RicControlRequest => some fun p => do
    let (xappId, id, ctrlReq) ← decE42ControlRequest p
    return .e42RicControlRequest xappId id ctrlReq
  | _ => none

/-- `e2ap_msg_dec_asn`, from the PDU on; the type is that of its header. -/
def decPdu (p : Pdu) : Except String Msg := do
  let t ← getMsgType ⟨p.present, p.procedureCode, p.criticality, .other, []⟩
  match decMsg t with
  | some dec => dec p
  | none => .error "asn->dec_msg[msg_type] != NULL"

end FlexRic.E2ap.Setup
