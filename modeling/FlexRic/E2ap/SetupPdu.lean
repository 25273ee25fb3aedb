import FlexRic.E2ap.Pdu
import FlexRic.E2ap.Setup
import FlexRic.E2ap.NodeIdAsn

/-! # The messages about nodes, and their PDUs

The E2 setup and the E42 messages with all their members, and the elements that they have in a PDU beside those of the
functional procedures. -/

namespace FlexRic.E2ap.Setup

/-! ### The messages of the code -/

/-- `e2ap_node_comp_id_t`; the identifiers of Xn and X2 are not sent. -/
inductive NodeCompId
  | ng (amfName : List UInt8)
  | xn
  | e1 (gnbCuUpId : UInt64)
  | f1 (gnbDuId : UInt64)
  | w1 (ngEnbDuId : UInt64)
  | s1 (mmeName : List UInt8)
  | x2
  deriving DecidableEq, Repr

/-- The `type` of the identifier, by which its union is read -/
def NodeCompId.type : NodeCompId → NodeCompInterfaceType
  | .ng _ => .ng
  | .xn => .xn
  | .e1 _ => .e1
  | .f1 _ => .f1
  | .w1 _ => .w1
  | .s1 _ => .s1
  | .x2 => .x2

/-- `e2ap_node_component_config_add_t`; its interface type is the one of the identifier. -/
structure NodeComponentConfigAdd where
  e2NodeCompId : NodeCompId
  request : List UInt8
  response : List UInt8
  deriving DecidableEq, Repr

/-- `e2_setup_request_t` -/
structure E2SetupRequest where
  transId : UInt8
  id : GlobalE2NodeId
  ranFuncItem : List RanFunction
  compConfAdd : List NodeComponentConfigAdd
  deriving DecidableEq

/-- `e2ap_node_comp_config_add_ack_t`; its interface type is the one of the identifier. -/
structure NodeCompConfigAddAck where
  e2NodeCompId : NodeCompId
  outcome : NodeCompConfOutcome
  cause : Option Cause
  deriving DecidableEq, Repr

/-- `e2_setup_response_t` -/
structure E2SetupResponse where
  transId : UInt8
  plmn : E2apPlmn
  nearRicId : Nat
  accepted : List UInt16
  rejected : List (UInt16 × Cause)
  compConfigAddAck : List NodeCompConfigAddAck
  deriving DecidableEq, Repr

/-- The messages about nodes -/
inductive Msg
  | e2SetupRequest (m : E2SetupRequest)
  | e2SetupResponse (m : E2SetupResponse)
  | e42SetupRequest (ranFuncItem : List RanFunction)
  | e42SetupResponse (xappId : UInt16) (nodes : List E2NodeConnected)
  | e42UpdateE2Node (xappId : UInt16) (nodes : List E2NodeConnected)
  | e42RicSubscriptionRequest (xappId : UInt16) (id : GlobalE2NodeId) (sr : RicSubscriptionRequest)
  | e42RicSubscriptionDeleteRequest (xappId : UInt16) (sdr : RicSubscriptionDeleteRequest)
  | e42RicControlRequest (xappId : UInt16) (id : GlobalE2NodeId) (ctrlReq : RicControlRequest)
  deriving DecidableEq

/-! ### The ASN.1 structure -/

/-- The `ProtocolIE_ID_id_*` that the functional procedures do not use -/
inductive IeId
  | transactionId
  | globalE2NodeId
  | ranFunctionsAdded
  | ranFunctionItem
  | e2NodeComponentConfigAddition
  | e2NodeComponentConfigAdditionItem
  | globalRicId
  | ranFunctionsAccepted
  | ranFunctionIdItem
  | ranFunctionsRejected
  | e2NodeComponentConfigAdditionAck
  | e2NodeComponentConfigAdditionAckItem
  | xappId
  | e2NodesConnected
  deriving DecidableEq, Repr

/-- An information element: its identifier, its criticality and its value. -/
structure Ie (V : Type) where
  id : IeId
  criticality : Criticality
  value : V
  deriving DecidableEq, Repr

/-- `RANfunction_Item_t` -/
structure RanFunctionItem where
  ranFunctionId : Nat
  ranFunctionDefinition : List UInt8
  ranFunctionRevision : Int
  ranFunctionOid : List UInt8
  deriving DecidableEq, Repr

/-- `E2nodeComponentID_t` -/
inductive NodeComponentIdAsn
  | ng (amfName : List UInt8)
  | xn
  | e1 (gNbCuUpId : Nat)
  | f1 (gNbDuId : Nat)
  | w1 (ngEnbDuId : Nat)
  | s1 (mmeName : List UInt8)
  | x2
  deriving DecidableEq, Repr

/-- `E2nodeComponentConfigAddition_Item_t` -/
structure ConfigAdditionItem where
  e2NodeComponentInterfaceType : NodeCompInterfaceType
  e2NodeComponentId : NodeComponentIdAsn
  e2NodeComponentRequestPart : List UInt8
  e2NodeComponentResponsePart : List UInt8
  deriving DecidableEq, Repr

/-- `E2nodeComponentConfigAdditionAck_Item_t` -/
structure ConfigAdditionAckItem where
  e2NodeComponentInterfaceType : NodeCompInterfaceType
  e2NodeComponentId : NodeComponentIdAsn
  updateOutcome : NodeCompConfOutcome
  failureCause : Option CauseAsn
  deriving DecidableEq, Repr

/-- `RANfunctionIDcause_Item_t` -/
structure RanFunctionIdCauseItem where
  ranFunctionId : Nat
  cause : CauseAsn
  deriving DecidableEq, Repr

/-- The value of an element of `E2nodeConnected_List_t` -/
inductive ConnectedValue
  | globalE2NodeId (v : GlobalE2NodeIdAsn)
  | ranFunctionsList (l : List (Ie RanFunctionItem))
  deriving DecidableEq, Repr

/-- The value of an information element. Items of lists are elements with one possible value, which may be absent;
nothing looks whether a RAN function is. -/
inductive IeValue
  | transactionId (v : Nat)
  | globalE2NodeId (v : GlobalE2NodeIdAsn)
  | ranFunctionsList (l : List (Ie RanFunctionItem))
  | e2NodeComponentConfigAdditionList (l : List (Ie (Option ConfigAdditionItem)))
  | globalRicId (plmnIdentity : List UInt8) (ricId : BitString)
  | ranFunctionsIdList (l : List (Ie (Option Nat)))
  | ranFunctionsIdCauseList (l : List (Ie (Option RanFunctionIdCauseItem)))
  | e2NodeComponentConfigAdditionAckList (l : List (Ie (Option ConfigAdditionAckItem)))
  | xappId (v : Nat)
  | e2NodeConnectedList (l : List (Ie ConnectedValue))
  deriving DecidableEq, Repr

/-- An element of a message: one of its own, or one that a functional procedure has too. -/
inductive PduIe
  | own (ie : Ie IeValue)
  | functional (ie : E2ap.Ie E2ap.IeValue)
  deriving DecidableEq, Repr

/-- The value that is present in the message of a PDU -/
inductive MessageValue
  | e2SetupRequest
  | e2SetupResponse
  | e42SetupRequest
  | e42SetupResponse
  | e42UpdateE2Node
  | e42RicSubscriptionRequest
  | e42RicSubscriptionDeleteRequest
  | e42RicControlRequest
  deriving DecidableEq, Repr

/-- `E2AP_PDU_t` with its message and `protocolIEs.list` -/
structure Pdu where
  present : PduPresent
  procedureCode : ProcedureCode
  criticality : Criticality
  value : MessageValue
  ies : List PduIe
  deriving DecidableEq, Repr

/-! ### Bounds of `global_consts.h` -/

def maxNumE2NodeComponents : Nat := 1024
def maxRanFuncRev : Nat := 4096

end FlexRic.E2ap.Setup
