import FlexRic.E2ap.Messages
import FlexRic.Lib.Except

/-! # The messages of the functional procedures, and their PDUs

What the code has of a subscription, an indication or a control procedure, and the ASN.1 structure of E2AP v3.01 that
it is mapped to: a procedure code and a list of information elements. -/

namespace FlexRic.E2ap

/-! ### The messages of the code -/

/-- `ric_control_ack_req_t` -/
inductive RicControlAckReq
  | noAck
  | ack
  | nack
  deriving DecidableEq, Repr

/-- `ric_control_request_t` -/
structure RicControlRequest where
  ricId : RicGenId
  callProcessId : Option (List UInt8)
  hdr : List UInt8
  msg : List UInt8
  ackReq : Option RicControlAckReq
  deriving DecidableEq, Repr

/-- `triggering_message_e` -/
inductive TriggeringMessage
  | initiatingMessage
  | successfulOutcome
  | unsuccessfulOutcome
  deriving DecidableEq, Repr

/-- `Criticality_t` and `criticality_e` -/
inductive Criticality
  | reject
  | ignore
  | notify
  deriving DecidableEq, Repr

/-- `type_of_error_t` -/
inductive TypeOfError
  | notUnderstood
  | missing
  deriving DecidableEq, Repr

/-- `criticality_diagnostics_t` -/
structure CriticalityDiagnostics where
  procedureCode : Option Nat
  trigMsg : Option TriggeringMessage
  procCrit : Option Criticality
  reqId : Option RicGenId
  ie : List (Criticality × Nat × TypeOfError)
  deriving DecidableEq, Repr

/-- The messages of the functional procedures; the last member of a control failure is `crit`. -/
inductive FunctionalMsg
  | subscriptionRequest (m : RicSubscriptionRequest)
  | subscriptionResponse (m : RicSubscriptionResponse)
  | subscriptionDeleteRequest (m : RicSubscriptionDeleteRequest)
  | subscriptionDeleteResponse (m : RicSubscriptionDeleteResponse)
  | indication (m : RicIndication)
  | controlRequest (m : RicControlRequest)
  | controlAcknowledge (m : RicControlAcknowledge)
  | controlFailure (m : RicControlFailure) (crit : Option CriticalityDiagnostics)
  deriving DecidableEq

/-! ### The ASN.1 structure -/

/-- The `ProtocolIE_ID_id_*` that the functional procedures use -/
inductive ProtocolIeId
  | ricRequestId
  | ranFunctionId
  | ricSubscriptionDetails
  | ricActionToBeSetupItem
  | ricActionsAdmitted
  | ricActionAdmittedItem
  | ricActionsNotAdmitted
  | ricActionNotAdmittedItem
  | ricActionId
  | ricIndicationSn
  | ricIndicationType
  | ricIndicationHeader
  | ricIndicationMessage
  | ricCallProcessId
  | ricControlHeader
  | ricControlMessage
  | ricControlAckRequest
  | ricControlOutcome
  | cause
  | criticalityDiagnostics
  deriving DecidableEq, Repr

/-- `Cause_t` -/
inductive CauseAsn
  | nothing
  | ricRequest (v : Int)
  | ricService (v : Int)
  | e2Node (v : Int)
  | transport (v : Int)
  | protocol (v : Int)
  | misc (v : Int)
  deriving DecidableEq, Repr

/-- An information element: its identifier, its criticality and its value. -/
structure Ie (V : Type) where
  id : ProtocolIeId
  criticality : Criticality
  value : V
  deriving DecidableEq, Repr

/-- `RICsubsequentAction_t`; its time to wait is not optional. -/
structure RicSubsequentActionAsn where
  ricSubsequentActionType : RicSubseqActionType
  ricTimeToWait : Nat
  deriving DecidableEq, Repr

/-- `RICaction_ToBeSetup_Item_t`; the constants of its types are those of the code. -/
structure RicActionToBeSetupItem where
  ricActionId : Nat
  ricActionType : RicActionType
  ricActionDefinition : Option (List UInt8)
  ricSubsequentAction : Option RicSubsequentActionAsn
  deriving DecidableEq, Repr

/-- `RICaction_NotAdmitted_Item_t` -/
structure RicActionNotAdmittedItem where
  ricActionId : Nat
  cause : CauseAsn
  deriving DecidableEq, Repr

/-- The value of an information element, by what is present in it. Items of lists are elements with one possible
value, which may be absent. -/
inductive IeValue
  | nothing
  | ricRequestId (ricRequestorId ricInstanceId : Nat)
  | ranFunctionId (v : Nat)
  | ricSubscriptionDetails (ricEventTriggerDefinition : List UInt8)
      (ricActionToBeSetupList : List (Ie (Option RicActionToBeSetupItem)))
  | ricActionAdmittedList (l : List (Ie (Option Nat)))
  | ricActionNotAdmittedList (l : List (Ie (Option RicActionNotAdmittedItem)))
  | ricActionId (v : Nat)
  | ricIndicationSn (v : Nat)
  | ricIndicationType (v : Nat)
  | ricIndicationHeader (v : List UInt8)
  | ricIndicationMessage (v : List UInt8)
  | ricCallProcessId (v : List UInt8)
  | ricControlHeader (v : List UInt8)
  | ricControlMessage (v : List UInt8)
  | ricControlAckRequest (v : Nat)
  | ricControlOutcome (v : List UInt8)
  | cause (v : CauseAsn)
  | criticalityDiagnostics
  deriving DecidableEq, Repr

/-- `E2AP_PDU_PR` -/
inductive PduPresent
  | nothing
  | initiatingMessage
  | successfulOutcome
  | unsuccessfulOutcome
  deriving DecidableEq, Repr

/-- The `ProcedureCode_id_*` -/
inductive ProcedureCode
  | e2setup
  | errorIndication
  | reset
  | ricControl
  | ricIndication
  | ricServiceQuery
  | ricServiceUpdate
  | e2nodeConfigurationUpdate
  | e2connectionUpdate
  | ricSubscription
  | ricSubscriptionDelete
  | e42setup
  | e42RicSubscription
  | e42RicSubscriptionDelete
  | e42RicControl
  | e42updateE2node
  deriving DecidableEq, Repr

/-- The value that is present in the message of a PDU; other procedures have others. -/
inductive MessageValue
  | ricSubscriptionRequest
  | ricSubscriptionResponse
  | ricSubscriptionDeleteRequest
  | ricSubscriptionDeleteResponse
  | ricIndication
  | ricControlRequest
  | ricControlAcknowledge
  | ricControlFailure
  | other
  deriving DecidableEq, Repr

/-- `E2AP_PDU_t` with its message and `protocolIEs.list` -/
structure Pdu where
  present : PduPresent
  procedureCode : ProcedureCode
  criticality : Criticality
  value : MessageValue
  ies : List (Ie IeValue)
  deriving DecidableEq, Repr

/-! ### Bounds of `global_consts.h` -/

def maxNumActionDef : Nat := 16
def maxNumRanFuncId : Nat := 256
def maxRanFuncId : Nat := 4096
def maxRicRequestId : Nat := 65536
def maxRicInstanceId : Nat := 65536
def maxRicActionId : Nat := 256
def maxRicIndicationSn : Nat := 65536
def maxRicIndicationType : Nat := 2

end FlexRic.E2ap
