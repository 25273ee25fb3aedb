import FlexRic.Agent.IndEvents
import FlexRic.IApp.Maps
import FlexRic.Ric.PendingEvents
import FlexRic.XApp.PendingEvents

/-! # The comparisons that the containers are given

`assoc_init` and `bi_map_init` take the comparison of the keys as an argument. Here are the ones that the
agent, the RIC, the iApp and the xApp pass, each with the equality that is used on the same keys. -/

namespace FlexRic
open E2ap Ep IApp

/-! ### The remaining comparisons -/

/-- `cmp_sctp_info_wrapper`, of two pointers -/
def cmpSctpInfoWrapper : Option SctpInfo → Option SctpInfo → Int
  | none, none => 0
  | none, some _ => 1
  | some _, none => -1
  | some m0, some m1 => cmpSctpInfo m0 m1

/-- `correlation_event_t` -/
structure CorrelationEvent where
  ricId : RicGenId
  deriving DecidableEq, Repr

/-- `cmp_correlation_ev` of the proxy agent; `memcmp` is over the three fields of the identifier. -/
def cmpCorrelationEv (ev1 ev2 : CorrelationEvent) : Int :=
  if ev1.ricId.ricReqId < ev2.ricId.ricReqId then 1
  else if ev1.ricId = ev2.ricId then 0
  else -1

/-! ### The equalities -/

/-- `eq_fd`, `eq_uint16_wrapper` and the `==` of two events -/
def eqScalar {α : Type} [DecidableEq α] (m0 m1 : α) : Bool := m0 = m1

/-- `eq_ric_gen_id` -/
def eqRicGenId (m0 m1 : RicGenId) : Bool :=
  m0.ricReqId = m1.ricReqId && m0.ricInstId = m1.ricInstId && m0.ranFuncId = m1.ranFuncId

/-- `eq_xapp_ric_gen_id` -/
def eqXappRicGenId (m0 m1 : XappRicId) : Bool :=
  if m0.xappId ≠ m1.xappId then false
  else eqRicGenId m0.ricId m1.ricId

/-- `eq_ind_event`; the identifier is the first field of the event in the tree. -/
def eqIndEvent (value key : Agent.IndEvent) : Bool := eqRicGenId value.ricId key.ricId

/-- `eq_e2_node_ric_req` -/
def eqE2NodeRicReq (m0 m1 : E2NodeRicReq) : Bool := m0.ricReqId = m1.ricReqId

/-- `eq_e2ap_plmn` -/
def eqE2apPlmn (m0 m1 : E2apPlmn) : Bool :=
  if m0.mcc ≠ m1.mcc then false
  else if m0.mnc ≠ m1.mnc then false
  else if m0.mncDigitLen ≠ m1.mncDigitLen then false
  else true

/-- `eq_e2ap_gnb_id` -/
def eqE2apGnbId (m0 m1 : GlobalE2NodeId) : Bool :=
  if m0.nbId ≠ m1.nbId then false
  else if m0.unused ≠ m1.unused then false
  else true

/-- `eq_global_e2_node_id` -/
def eqGlobalE2NodeId (m0 m1 : GlobalE2NodeId) : Bool :=
  if m0.type ≠ m1.type then false
  else if eqE2apPlmn m0.plmn m1.plmn = false then false
  else if eqE2apGnbId m0 m1 = false then false
  else if m0.type.hasCuDuId then
    if m0.cuDuId.getD 0 ≠ m1.cuDuId.getD 0 then false
    else true
  else true

/-- `eq_sctp_info_wrapper` -/
def eqSctpInfoWrapper (m0 m1 : Option SctpInfo) : Bool := cmpSctpInfoWrapper m0 m1 == 0

/-- The events of the RIC have no equality of their own: the one of both fields. -/
def eqPendingEventRic (m0 m1 : Ric.PendingEventRic) : Bool := m0.ev = m1.ev && eqRicGenId m0.id m1.id

/-! ### The containers -/

/-- The comparisons passed to `assoc_init` and `bi_map_init`, by the keys they are passed for; the xApp
passes `cmp_pending_event` for keys of its own type. -/
inductive Installed
  | ranFuncId
  | fd
  | ricGenId
  | pendingEvent
  | pendingEventXapp
  | pendingEventRic
  | indEvent
  | correlationEv
  | globalE2NodeId
  | sctpInfo
  | xappRicGenId
  | e2NodeRicReq
  | uint16
  deriving DecidableEq, Repr

namespace Installed

abbrev Key : Installed → Type
  | ranFuncId => Nat
  | fd => Nat
  | ricGenId => RicGenId
  | pendingEvent => PendingEvent
  | pendingEventXapp => XApp.PendingEventXapp
  | pendingEventRic => Ric.PendingEventRic
  | indEvent => Agent.IndEvent
  | correlationEv => CorrelationEvent
  | globalE2NodeId => GlobalE2NodeId
  | sctpInfo => Option SctpInfo
  | xappRicGenId => XappRicId
  | e2NodeRicReq => E2NodeRicReq
  | uint16 => Nat

/-- What the container is given to compare its keys. -/
def cmp : (i : Installed) → i.Key → i.Key → Int
  | ranFuncId => cmpRanFuncId
  | fd => cmpFd
  | ricGenId => cmpRicGenId
  | pendingEvent => cmpPendingEvent
  | pendingEventXapp => fun m0 m1 => cmpPendingEvent m0.ev m1.ev
  | pendingEventRic => Ric.cmpPendingEventRic
  | indEvent => Agent.cmpIndEvent
  | correlationEv => cmpCorrelationEv
  | globalE2NodeId => cmpGlobalE2NodeId
  | sctpInfo => cmpSctpInfoWrapper
  | xappRicGenId => cmpXappRicGenId
  | e2NodeRicReq => cmpE2NodeRicReq
  | uint16 => cmpUint16

/-- What is used to find out whether two of its keys are equal. -/
def eq : (i : Installed) → i.Key → i.Key → Bool
  | ranFuncId => eqRanFuncId
  | fd => eqScalar
  | ricGenId => eqRicGenId
  | pendingEvent => eqScalar
  | pendingEventXapp => XApp.eqPendingEventXapp
  | pendingEventRic => eqPendingEventRic
  | indEvent => eqIndEvent
  | correlationEv => fun m0 m1 => eqRicGenId m0.ricId m1.ricId
  | globalE2NodeId => eqGlobalE2NodeId
  | sctpInfo => eqSctpInfoWrapper
  | xappRicGenId => eqXappRicGenId
  | e2NodeRicReq => eqE2NodeRicReq
  | uint16 => eqScalar

end Installed

end FlexRic
