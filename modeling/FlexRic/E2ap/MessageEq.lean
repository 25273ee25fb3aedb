import FlexRic.Comparators
import FlexRic.E2ap.Messages
import FlexRic.E2ap.Setup
import FlexRic.Util.ByteArray

/-! # Comparisons of messages

`eq_ric_subscritption_request` and `eq_e2_setup_response` of E2AP v3.01, for two messages that share no memory. -/

namespace FlexRic.E2ap
open Util

/-! ### Subscription requests -/

/-- The second pointer to a time is read when the first one is there. -/
def eqTimeToWait : Option Nat → Option Nat → Except String Bool
  | none, none => return true
  | none, some _ => return false
  | some _, none => throw "read from NULL"
  | some m0, some m1 => same (m0 = m1)

def eqRicSubsequentAction (m0 m1 : RicSubsequentAction) : Except String Bool :=
  both (same (m0.type = m1.type)) (eqTimeToWait m0.timeToWaitMs m1.timeToWaitMs)

def eqRicAction (m0 m1 : RicAction) : Except String Bool :=
  both (same (m0.id = m1.id)) <| both (same (m0.type = m1.type)) <|
    both (eqPresent eqByteArray m0.definition m1.definition)
      (eqPresent eqRicSubsequentAction m0.subseqAction m1.subseqAction)

/-- `eq_ric_subscritption_request` -/
def eqRicSubscriptionRequest (m0 m1 : RicSubscriptionRequest) : Except String Bool :=
  both (.ok (eqRicGenId m0.ricId m1.ricId)) <| both (eqByteArray m0.eventTrigger m1.eventTrigger)
    (eqList eqRicAction m0.action m1.action)

/-! ### Setup responses -/

/-- `e2ap_node_comp_id_t`: its type, with the member of the union for that type. The nodes behind Xn and X2 are of any
types. -/
inductive NodeCompIdOf (Xn X2 : Type)
  | ng (ngAmfName : List UInt8)
  | xn (xnGlobalNgRanNodeId : Xn)
  | e1 (e1GnbCuUpId : UInt64)
  | f1 (f1GnbDuId : UInt64)
  | w1 (w1NgEnbDuId : UInt64)
  | s1 (s1MmeName : List UInt8)
  | x2 (x2 : X2)

/-- `e2ap_node_comp_conf_ack_t` -/
structure NodeCompConfAck where
  outcome : NodeCompConfOutcome
  cause : Option Cause

/-- `e2ap_node_comp_config_add_ack_t` -/
structure NodeCompConfigAddAckOf (Xn X2 : Type) where
  e2NodeCompInterfaceType : NodeCompInterfaceType
  e2NodeCompId : NodeCompIdOf Xn X2
  e2NodeCompConfAck : NodeCompConfAck

/-- `rejected_ran_function_t` -/
structure RejectedRanFunction where
  id : UInt16
  cause : Cause

/-- `global_ric_id_t` -/
structure GlobalRicId where
  plmn : E2apPlmn
  nearRicId : UInt32

/-- `e2_setup_response_t` -/
structure E2SetupResponseOf (Xn X2 : Type) where
  transId : UInt8
  id : GlobalRicId
  accepted : List UInt16
  rejected : List RejectedRanFunction
  compConfigAddAck : List (NodeCompConfigAddAckOf Xn X2)

section SetupResponse
variable {Xn X2 : Type}

/-- One of the two types that are supported -/
def NodeCompIdOf.supported : NodeCompIdOf Xn X2 → Bool
  | ng _ | f1 _ => true
  | xn _ | e1 _ | w1 _ | s1 _ | x2 _ => false

/-- The union, once both types are supported. -/
def eqNodeCompIdUnion : NodeCompIdOf Xn X2 → NodeCompIdOf Xn X2 → Except String Bool
  | .ng m0, .ng m1 => eqByteArray m0 m1
  | .f1 m0, .f1 m1 => do
    require (m0.toNat < 2 ^ 36) "m0->f1_gnb_du_id < (1UL << 36)"
    require (m1.toNat < 2 ^ 36) "m1->f1_gnb_du_id < (1UL << 36)"
    same (m0 = m1)
  | _, _ => return false

/-- `eq_e2ap_node_comp_id` -/
def eqNodeCompId (m0 m1 : NodeCompIdOf Xn X2) : Except String Bool := do
  require (m0.supported = true) "Only these two types supported"
  require (m1.supported = true) "Only these two types supported"
  eqNodeCompIdUnion m0 m1

/-- `eq_e2ap_node_comp_conf_ack` -/
def eqNodeCompConfAck (m0 m1 : NodeCompConfAck) : Except String Bool :=
  both (same (m0.outcome = m1.outcome)) do
    require (m0.cause = none) "Not implemented"
    require (m1.cause = none) "Not implemented"
    return true

/-- `eq_e2ap_node_component_config_add_ack` -/
def eqNodeCompConfigAddAck (m0 m1 : NodeCompConfigAddAckOf Xn X2) : Except String Bool :=
  both (same (m0.e2NodeCompInterfaceType = m1.e2NodeCompInterfaceType)) <|
    both (eqNodeCompId m0.e2NodeCompId m1.e2NodeCompId) (eqNodeCompConfAck m0.e2NodeCompConfAck m1.e2NodeCompConfAck)

/-- `memcmp` of two causes -/
def eqCause (m0 m1 : Cause) : Except String Bool := same (m0 = m1)

def eqRejectedRanFunction (m0 m1 : RejectedRanFunction) : Except String Bool :=
  both (same (m0.id = m1.id)) (eqCause m0.cause m1.cause)

def eqGlobalRicId (m0 m1 : GlobalRicId) : Except String Bool :=
  both (.ok (eqE2apPlmn m0.plmn m1.plmn)) (same (m0.nearRicId = m1.nearRicId))

/-- The first elements of two arrays -/
def eqFirst {α : Type} (eq : α → α → Except String Bool) : List α → List α → Except String Bool
  | m0 :: _, m1 :: _ => eq m0 m1
  | _, _ => throw "read past the end of the array"

/-- The loop over so many elements of two arrays compares their first ones in every turn. -/
def eqFirsts {α : Type} (eq : α → α → Except String Bool) (m0 m1 : List α) : Nat → Except String Bool
  | 0 => return true
  | n + 1 => both (eqFirst eq m0 m1) (eqFirsts eq m0 m1 n)

def eqE2SetupResponse (m0 m1 : E2SetupResponseOf Xn X2) : Except String Bool :=
  both (same (m0.transId = m1.transId)) <| both (eqGlobalRicId m0.id m1.id) <|
    both (eqList (fun m0 m1 => same (m0 = m1)) m0.accepted m1.accepted) <|
      both (eqList eqRejectedRanFunction m0.rejected m1.rejected) <|
        both (same (m0.compConfigAddAck.length = m1.compConfigAddAck.length))
          (eqFirsts eqNodeCompConfigAddAck m0.compConfigAddAck m1.compConfigAddAck m0.compConfigAddAck.length)

end SetupResponse

end FlexRic.E2ap
