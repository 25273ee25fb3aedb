import FlexRic.E2ap.Types

/-! # Messages between xApps, the RIC and E2 nodes

The requests that xApps send and the RIC passes on, and what E2 nodes send about them. -/

namespace FlexRic.E2ap

/-! ### Requests -/

/-- `e42_ric_subscription_request_t` or `e42_ric_control_request_t`, as it was decoded: the request
identifier of an encoded message has 16 bits. The body is the event trigger and the actions, or the
header and the message. -/
structure E42Request where
  kind : RequestKind
  xappId : Nat
  e2NodeId : GlobalE2NodeId
  ricId : RicGenId
  body : List UInt8
  kind_ne : kind ≠ .subscriptionDelete
  ricReqId_lt : ricId.ricReqId < 65536
  deriving DecidableEq

/-- `e42_ric_subscription_delete_request_t` -/
structure E42DeleteRequest where
  xappId : Nat
  ricId : RicGenId
  deriving DecidableEq, Repr

/-- `ric_subscription_request_t`, `ric_subscription_delete_request_t` or `ric_control_request_t`, and the
node that it goes to. -/
structure NodeRequest where
  kind : RequestKind
  e2NodeId : GlobalE2NodeId
  ricId : RicGenId
  body : List UInt8
  deriving DecidableEq

/-- `ric_action_type_t` -/
inductive RicActionType
  | report
  | insert
  | policy
  deriving DecidableEq, Repr

/-- `ric_subseq_action_type_t` -/
inductive RicSubseqActionType
  | continue
  | halt
  deriving DecidableEq, Repr

/-- `ric_subsequent_action_t` -/
structure RicSubsequentAction where
  type : RicSubseqActionType
  timeToWaitMs : Option Nat
  deriving DecidableEq, Repr

/-- `ric_action_t` -/
structure RicAction where
  id : Nat
  type : RicActionType
  definition : Option (List UInt8)
  subseqAction : Option RicSubsequentAction
  deriving DecidableEq, Repr

/-- `ric_subscription_request_t` -/
structure RicSubscriptionRequest where
  ricId : RicGenId
  eventTrigger : List UInt8
  action : List RicAction
  deriving DecidableEq, Repr

/-- `ric_subscription_delete_request_t` -/
structure RicSubscriptionDeleteRequest where
  ricId : RicGenId
  deriving DecidableEq, Repr

/-! ### What a node sends -/

/-- `ric_subscription_response_t` -/
structure RicSubscriptionResponse where
  ricId : RicGenId
  admitted : List Nat
  notAdmitted : List (Nat × Cause)
  deriving DecidableEq, Repr

/-- `ric_subscription_delete_response_t` -/
structure RicSubscriptionDeleteResponse where
  ricId : RicGenId
  deriving DecidableEq, Repr

/-- `ric_control_acknowledge_t` -/
structure RicControlAcknowledge where
  ricId : RicGenId
  callProcessId : Option (List UInt8)
  controlOutcome : Option (List UInt8)
  deriving DecidableEq, Repr

/-- `ric_control_failure_t` -/
structure RicControlFailure where
  ricId : RicGenId
  callProcessId : Option (List UInt8)
  cause : Cause
  controlOutcome : Option (List UInt8)
  deriving DecidableEq, Repr

/-- `ric_indication_t` -/
structure RicIndication where
  ricId : RicGenId
  actionId : Nat
  sn : Option Nat
  type : Nat
  hdr : List UInt8
  msg : List UInt8
  callProcessId : Option (List UInt8)
  deriving DecidableEq, Repr

/-- The messages of an E2 node about a request. -/
inductive NodeMsg
  | subscriptionResponse (m : RicSubscriptionResponse)
  | subscriptionDeleteResponse (m : RicSubscriptionDeleteResponse)
  | controlAcknowledge (m : RicControlAcknowledge)
  | controlFailure (m : RicControlFailure)
  | indication (m : RicIndication)
  deriving DecidableEq, Repr

namespace NodeMsg

def ricId : NodeMsg → RicGenId
  | subscriptionResponse m => m.ricId
  | subscriptionDeleteResponse m => m.ricId
  | controlAcknowledge m => m.ricId
  | controlFailure m => m.ricId
  | indication m => m.ricId

/-- The kind of the requests that the message can answer; an indication answers none. -/
def answers? : NodeMsg → Option RequestKind
  | subscriptionResponse _ => some .subscription
  | subscriptionDeleteResponse _ => some .subscriptionDelete
  | controlAcknowledge _ | controlFailure _ => some .control
  | indication _ => none

end NodeMsg

end FlexRic.E2ap
