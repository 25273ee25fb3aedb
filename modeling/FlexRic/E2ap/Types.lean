import Mathlib.Algebra.Group.Nat.Defs
import Mathlib.Order.Nat
import FlexRic.Lib.Collections
import FlexRic.Lib.Comparator

/-! # Identifiers of E2AP and their comparison

The records that the RIC, the iApp and the xApp use as keys of their containers, with the comparison
functions that order them, and which keys each of these functions tells apart. -/

namespace FlexRic.E2ap
open Comparator (by_ comap reverse lex ofEq by_cmp reverse_by_cmp lex_by_cmp lex_reverse_by_cmp)

/-! ### Request identifiers -/

/-- `ric_gen_id_t` -/
@[ext]
structure RicGenId where
  ricReqId : Nat
  ricInstId : Nat
  ranFuncId : Nat
  deriving DecidableEq, Repr

/-- `cmp_ric_gen_id` -/
def cmpRicGenId (m0 m1 : RicGenId) : Int :=
  if m0.ranFuncId < m1.ranFuncId then 1
  else if m0.ranFuncId > m1.ranFuncId then -1
  else if m0.ricInstId < m1.ricInstId then 1
  else if m0.ricInstId > m1.ricInstId then -1
  else if m0.ricReqId < m1.ricReqId then 1
  else if m0.ricReqId > m1.ricReqId then -1
  else 0

theorem cmpRicGenId_eq (a b : RicGenId) : cmpRicGenId a b =
    (lex (by_ RicGenId.ranFuncId) (lex (by_ RicGenId.ricInstId) (by_ RicGenId.ricReqId))).cmp a b := by
  rw [cmpRicGenId, lex_by_cmp, lex_by_cmp, by_cmp]

def ricGenIdOrder : Comparator RicGenId := ofEq _ cmpRicGenId cmpRicGenId_eq

theorem same_ricGenId {a b : RicGenId} : ricGenIdOrder.Same a b ↔ a = b := by
  cases a
  cases b
  simp only [ricGenIdOrder, Comparator.same_ofEq, Comparator.same_lex, Comparator.same_by, RicGenId.mk.injEq]
  tauto

/-- `xapp_ric_id_t` -/
structure XappRicId where
  ricId : RicGenId
  xappId : Nat
  deriving DecidableEq, Repr

/-- `cmp_xapp_ric_gen_id` -/
def cmpXappRicGenId (m0 m1 : XappRicId) : Int :=
  if m0.xappId < m1.xappId then 1
  else if m0.xappId > m1.xappId then -1
  else cmpRicGenId m0.ricId m1.ricId

theorem cmpXappRicGenId_eq (a b : XappRicId) : cmpXappRicGenId a b =
    (lex (by_ XappRicId.xappId) (comap XappRicId.ricId ricGenIdOrder)).cmp a b := by
  rw [cmpXappRicGenId, lex_by_cmp]
  rfl

def xappRicIdOrder : Comparator XappRicId := ofEq _ cmpXappRicGenId cmpXappRicGenId_eq

theorem same_xappRicId {a b : XappRicId} : xappRicIdOrder.Same a b ↔ a = b := by
  cases a
  cases b
  simp only [xappRicIdOrder, Comparator.same_ofEq, Comparator.same_lex, Comparator.same_by,
    Comparator.same_comap, same_ricGenId, XappRicId.mk.injEq]
  tauto

/-! ### Pending events -/

/-- `pending_event_t`, in the order of the source. -/
inductive PendingEvent
  | setupRequest
  | controlRequestAgent
  | subscriptionRequest
  | subscriptionDeleteRequest
  | controlRequest
  | e42SetupRequest
  | e42RicSubscriptionRequest
  | ricSubscriptionDeleteRequest
  | e42RicSubscriptionDeleteRequest
  | e42RicControlRequest
  deriving DecidableEq, Repr

/-- The value of the enumeration constant. -/
def PendingEvent.value : PendingEvent → Nat
  | .setupRequest => 0
  | .controlRequestAgent => 1
  | .subscriptionRequest => 2
  | .subscriptionDeleteRequest => 3
  | .controlRequest => 4
  | .e42SetupRequest => 5
  | .e42RicSubscriptionRequest => 6
  | .ricSubscriptionDeleteRequest => 7
  | .e42RicSubscriptionDeleteRequest => 8
  | .e42RicControlRequest => 9

theorem PendingEvent.value_inj {a b : PendingEvent} : a.value = b.value ↔ a = b := by
  cases a <;> cases b <;> decide

/-- `cmp_pending_event` -/
def cmpPendingEvent (ev1 ev2 : PendingEvent) : Int :=
  if ev1.value < ev2.value then 1
  else if ev1.value = ev2.value then 0
  else -1

theorem cmpPendingEvent_eq (a b : PendingEvent) : cmpPendingEvent a b = (by_ PendingEvent.value).cmp a b := by
  rw [cmpPendingEvent, by_cmp]
  grind

def pendingEventOrder : Comparator PendingEvent := ofEq _ cmpPendingEvent cmpPendingEvent_eq

theorem same_pendingEvent {a b : PendingEvent} : pendingEventOrder.Same a b ↔ a = b := by
  simp [pendingEventOrder, PendingEvent.value_inj]

/-- The requests that wait for an answer under a timer. -/
inductive RequestKind
  | subscription
  | subscriptionDelete
  | control
  deriving DecidableEq, Repr

namespace RequestKind

/-- The event that is pending in the RIC while an E2 node is to answer. -/
def pendingEvent : RequestKind → PendingEvent
  | subscription => .subscriptionRequest
  | subscriptionDelete => .subscriptionDeleteRequest
  | control => .controlRequest

/-- The event that is pending in the xApp while the iApp is to answer. -/
def e42PendingEvent : RequestKind → PendingEvent
  | subscription => .e42RicSubscriptionRequest
  | subscriptionDelete => .e42RicSubscriptionDeleteRequest
  | control => .e42RicControlRequest

/-- What the request does to the subscriptions at its node, and to those of its xApp. -/
def change : RequestKind → Change
  | subscription => .adds
  | subscriptionDelete => .removes
  | control => .leaves

theorem e42PendingEvent_inj {j k : RequestKind} (h : j.e42PendingEvent = k.e42PendingEvent) : j = k := by
  cases j <;> cases k <;> simp_all [e42PendingEvent]

end RequestKind

/-- `cause_t`: which cause is present, and its value. -/
structure Cause where
  present : Nat
  value : Int
  deriving DecidableEq, Repr

/-! ### File descriptors -/

/-- `cmp_fd` -/
def cmpFd (fd1 fd2 : Nat) : Int :=
  if fd1 < fd2 then 1
  else if fd1 = fd2 then 0
  else -1

theorem cmpFd_eq (a b : Nat) : cmpFd a b = (by_ id).cmp a b := by
  rw [cmpFd, by_cmp]
  grind

def fdOrder : Comparator Nat := ofEq _ cmpFd cmpFd_eq

theorem same_fd {a b : Nat} : fdOrder.Same a b ↔ a = b := by
  simp [fdOrder]

/-! ### RAN functions -/

/-- `eq_ran_func_id` -/
def eqRanFuncId (value key : Nat) : Bool := value = key

/-- `cmp_ran_func_id` -/
def cmpRanFuncId (a b : Nat) : Int :=
  if a < b then 1
  else if a = b then 0
  else -1

theorem cmpRanFuncId_eq (a b : Nat) : cmpRanFuncId a b = (by_ id).cmp a b := by
  rw [cmpRanFuncId, by_cmp]
  grind

def ranFuncIdOrder : Comparator Nat := ofEq _ cmpRanFuncId cmpRanFuncId_eq

theorem same_ranFuncId {a b : Nat} : ranFuncIdOrder.Same a b ↔ a = b := by
  simp [ranFuncIdOrder]

/-! ### E2 nodes -/

/-- `e2ap_ngran_node_t` -/
inductive NgranNode
  | eNB
  | ngENB
  | gNB
  | eNBCu
  | ngENBCu
  | gNBCu
  | eNBDu
  | gNBDu
  | eNBMbmsSta
  | gNBCucp
  | gNBCuup
  deriving DecidableEq, Repr

/-- The value of the enumeration constant. -/
def NgranNode.value : NgranNode → Nat
  | .eNB => 0
  | .ngENB => 1
  | .gNB => 2
  | .eNBCu => 3
  | .ngENBCu => 4
  | .gNBCu => 5
  | .eNBDu => 6
  | .gNBDu => 7
  | .eNBMbmsSta => 8
  | .gNBCucp => 9
  | .gNBCuup => 10

theorem NgranNode.value_inj {a b : NgranNode} : a.value = b.value ↔ a = b := by
  cases a <;> cases b <;> decide

/-- `E2AP_NODE_IS_CU`, `E2AP_NODE_IS_CUUP` or `E2AP_NODE_IS_DU`: the kinds with a `cu_du_id`. -/
def NgranNode.hasCuDuId : NgranNode → Bool
  | .eNBCu | .ngENBCu | .gNBCu | .gNBCucp | .gNBCuup | .eNBDu | .gNBDu => true
  | .eNB | .ngENB | .gNB | .eNBMbmsSta => false

/-- `e2ap_plmn_t` -/
structure E2apPlmn where
  mcc : Nat
  mnc : Nat
  mncDigitLen : Nat
  deriving DecidableEq, Repr

/-- `cmp_e2ap_plmn` -/
def cmpE2apPlmn (m0 m1 : E2apPlmn) : Int :=
  if m0.mcc < m1.mcc then -1
  else if m0.mcc > m1.mcc then 1
  else if m0.mnc < m1.mnc then -1
  else if m0.mnc > m1.mnc then 1
  else if m0.mncDigitLen < m1.mncDigitLen then -1
  else if m0.mncDigitLen > m1.mncDigitLen then 1
  else 0

theorem cmpE2apPlmn_eq (a b : E2apPlmn) : cmpE2apPlmn a b =
    (lex (reverse (by_ E2apPlmn.mcc))
      (lex (reverse (by_ E2apPlmn.mnc)) (reverse (by_ E2apPlmn.mncDigitLen)))).cmp a b := by
  rw [cmpE2apPlmn, lex_reverse_by_cmp, lex_reverse_by_cmp, reverse_by_cmp]

def e2apPlmnOrder : Comparator E2apPlmn := ofEq _ cmpE2apPlmn cmpE2apPlmn_eq

theorem same_e2apPlmn {a b : E2apPlmn} : e2apPlmnOrder.Same a b ↔ a = b := by
  cases a
  cases b
  simp [e2apPlmnOrder]

/-- `global_e2_node_id_t`; the identity of a node that is not split has no `cu_du_id`. -/
structure GlobalE2NodeId where
  type : NgranNode
  plmn : E2apPlmn
  nbId : Nat
  unused : Nat
  cuDuId : Option Nat
  cuDuId_isSome : cuDuId.isSome = type.hasCuDuId
  deriving DecidableEq

/-- `cmp_global_e2_node_id` -/
def cmpGlobalE2NodeId (m0 m1 : GlobalE2NodeId) : Int :=
  if m0.type.value < m1.type.value then -1
  else if m0.type.value > m1.type.value then 1
  else
    let rc := cmpE2apPlmn m0.plmn m1.plmn
    if rc ≠ 0 then rc
    else if m0.nbId < m1.nbId then -1
    else if m0.nbId > m1.nbId then 1
    else if m0.unused < m1.unused then 1
    else if m0.unused > m1.unused then -1
    else if m0.type.hasCuDuId then
      if m0.cuDuId.getD 0 < m1.cuDuId.getD 0 then -1
      else if m0.cuDuId.getD 0 > m1.cuDuId.getD 0 then 1
      else 0
    else 0

theorem GlobalE2NodeId.getD_cuDuId {m : GlobalE2NodeId} (h : m.type.hasCuDuId = false) : m.cuDuId.getD 0 = 0 := by
  have := m.cuDuId_isSome
  cases hc : m.cuDuId
  · rfl
  · simp [hc, h] at this

theorem cmpGlobalE2NodeId_eq (a b : GlobalE2NodeId) : cmpGlobalE2NodeId a b =
    (lex (reverse (by_ (·.type.value))) <| lex (comap GlobalE2NodeId.plmn e2apPlmnOrder) <|
      lex (reverse (by_ GlobalE2NodeId.nbId)) <| lex (by_ GlobalE2NodeId.unused) <|
      reverse (by_ (·.cuDuId.getD 0))).cmp a b := by
  have hid : a.type.value = b.type.value →
      (if a.type.hasCuDuId then
        if a.cuDuId.getD 0 < b.cuDuId.getD 0 then (-1 : Int)
        else if a.cuDuId.getD 0 > b.cuDuId.getD 0 then 1 else 0
      else 0) = (reverse (by_ fun m : GlobalE2NodeId => m.cuDuId.getD 0)).cmp a b := by
    intro ht
    rw [reverse_by_cmp]
    cases hu : a.type.hasCuDuId with
    | true => simp
    | false =>
      have hb : b.type.hasCuDuId = false := by rw [← NgranNode.value_inj.mp ht, hu]
      simp [a.getD_cuDuId hu, b.getD_cuDuId hb]
  simp only [cmpGlobalE2NodeId, lex_reverse_by_cmp]
  by_cases ht : a.type.value = b.type.value
  · have hlt : ¬a.type.value < b.type.value := by omega
    have hgt : ¬a.type.value > b.type.value := by omega
    simp only [hlt, hgt, if_false, hid ht]
    rw [lex]
    simp only [comap, e2apPlmnOrder, Comparator.ofEq_cmp, lex_reverse_by_cmp, lex_by_cmp, ne_eq, ite_not]
  · rcases Nat.lt_or_gt_of_ne ht with h | h
    · rw [if_pos h, if_pos h]
    · have hlt : ¬a.type.value < b.type.value := by omega
      rw [if_neg hlt, if_pos h, if_neg hlt, if_pos h]

def globalE2NodeIdOrder : Comparator GlobalE2NodeId := ofEq _ cmpGlobalE2NodeId cmpGlobalE2NodeId_eq

theorem same_globalE2NodeId {a b : GlobalE2NodeId} : globalE2NodeIdOrder.Same a b ↔ a = b := by
  obtain ⟨t, p, n, u, c, hc⟩ := a
  obtain ⟨t', p', n', u', c', hc'⟩ := b
  have hcd : t = t' → (c.getD 0 = c'.getD 0 ↔ c = c') := by
    rintro rfl
    cases c <;> cases c' <;> simp_all
  simp only [globalE2NodeIdOrder, Comparator.same_ofEq, Comparator.same_lex, Comparator.same_reverse,
    Comparator.same_by, Comparator.same_comap, same_e2apPlmn, NgranNode.value_inj, GlobalE2NodeId.mk.injEq]
  tauto

/-- A gNB that is not split. -/
def gnb : GlobalE2NodeId := ⟨.gNB, ⟨505, 1, 2⟩, 3584, 0, none, rfl⟩

end FlexRic.E2ap
