import FlexRic.Theorems.Sm.Rc.EqActions
import FlexRic.Theorems.Sm.Rc.EqControls
import FlexRic.Theorems.Sm.Rc.EqTriggers

/-! # Copies and comparisons of the RAN control service model

Which values are kept by their copies, and which of them are told apart. -/

namespace FlexRic.Sm.Rc
open Kpm (CellGlobalId)
open Ue (UeId)

/-! ### Subscriptions -/

/-- There is one action. -/
def RcSubData.Usable (d : RcSubData UeId) : Prop := d.et.Usable ∧ d.ad.length = 1 ∧ ∀ a ∈ d.ad, a.Usable

def RcSubData.Apart (d e : RcSubData UeId) : Prop :=
  d.et.Apart e.et ∨ d.et.Alike e.et ∧ d.ad.map ActionDef.compared ≠ e.ad.map ActionDef.compared

theorem eqRcSubData_eq_false {d e : RcSubData UeId} (hd : d.Usable) (he : e.Usable) :
    eqRcSubData d e = .ok false ↔ d.Apart e := by
  have hactions : Tells (eqList eqE2smRcActionDef d.ad e.ad)
      (d.ad.map ActionDef.compared = e.ad.map ActionDef.compared) False :=
    eqList_tells_map fun a ha b hb => eqE2smRcActionDef_tells (hd.2.2 a ha) (he.2.2 b hb)
  have hone {as : List (ActionDef UeId)} (h : as.length = 1) : oneTo 16 as.length := by
    rw [h]
    decide
  have htriggers := eqE2smRcEventTrigger_answers hd.1 he.1
  rw [eqRcSubData, requireBoth_of (hone hd.2.1) (hone he.2.1), Except.ok_bind, both_eq_false, htriggers.1, htriggers.2,
    hactions.eq_false_iff, RcSubData.Apart]

theorem RcSubData.kept (d : RcSubData UeId) : Kept (cpRcSubData identities) eqRcSubData d ↔ d.Usable := by
  obtain ⟨et, ad⟩ := d
  have hsize : oneTo 16 1 := by decide
  by_cases hone : ad.length = 1
  · obtain ⟨a, rfl⟩ := List.length_eq_one_iff.mp hone
    simp only [Kept, cpRcSubData, eqRcSubData, RcSubData.Usable, ← et.kept, List.forall_mem_singleton, ← a.kept,
      List.length_singleton, List.replicate_one, Except.bind_eq_ok, require_eq_ok, Except.pure_eq, Except.ok.injEq,
      RcSubData.mk.injEq, existsAndEq, Except.mapM_eq_self, both_eq_true, requireBoth_eq_ok, eqList_self, true_and,
      and_true, exists_const]
    tauto
  · simp only [Kept, cpRcSubData, RcSubData.Usable, Except.bind_eq_ok, require_eq_ok, hone]
    simp

/-! ### Indications -/

def RcIndData.Usable (d : RcIndData UeId CellGlobalId) : Prop :=
  d.hdr.Usable ∧ d.msg.Usable ∧ ∀ p ∈ d.procId, 0 < p.ricCpid

theorem Cpid.kept (p : Cpid) : Kept cpE2smRcCpid eqE2smRcCpid p ↔ 0 < p.ricCpid := by
  simp only [Kept, cpE2smRcCpid, eqE2smRcCpid, Except.bind_eq_ok, require_eq_ok, Except.pure_eq, and_true, exists_const,
    requireBoth_eq_ok, same_eq_true]
  tauto

theorem eqRcIndData_ne_false (d e : RcIndData UeId CellGlobalId) : eqRcIndData d e ≠ .ok false :=
  both_ne_false eqDebug_ne_false (both_ne_false eqDebug_ne_false eqDebug_ne_false)

theorem RcIndData.kept (d : RcIndData UeId CellGlobalId) : Kept (cpRcIndData identities) eqRcIndData d ↔ d.Usable := by
  obtain ⟨hdr, msg, procId⟩ := d
  simp only [Kept, cpRcIndData, eqRcIndData, RcIndData.Usable, ← hdr.kept, ← msg.kept, forall_some_kept Cpid.kept,
    Except.bind_eq_ok, Except.pure_eq, Except.ok.injEq, RcIndData.mk.injEq, existsAndEq, mapOptional_eq_self,
    both_eq_true, eqDebug_eq_true, eqPresent_self]
  tauto

/-! ### Controls -/

def RcCtrlReqData.Usable (d : RcCtrlReqData UeId) : Prop := d.hdr.Usable ∧ d.msg.Usable

def RcCtrlReqData.Alike (d e : RcCtrlReqData UeId) : Prop := d.hdr.Alike e.hdr ∧ d.msg.compared = e.msg.compared

theorem eqRcCtrlReqData_tells {d e : RcCtrlReqData UeId} (hd : d.Usable) (he : e.Usable) :
    Tells (eqRcCtrlReqData d e) (d.Alike e) False :=
  ((eqE2smRcCtrlHdr_tells hd.1 he.1).andThen (eqE2smRcCtrlMsg_tells hd.2 he.2)).congr Iff.rfl (by simp)

theorem RcCtrlReqData.kept (d : RcCtrlReqData UeId) :
    Kept (cpRcCtrlReqData identities) eqRcCtrlReqData d ↔ d.Usable := by
  obtain ⟨hdr, msg⟩ := d
  simp only [Kept, cpRcCtrlReqData, eqRcCtrlReqData, RcCtrlReqData.Usable, ← hdr.kept, ← msg.kept, Except.bind_eq_ok,
    Except.pure_eq, Except.ok.injEq, RcCtrlReqData.mk.injEq, existsAndEq, both_eq_true]
  tauto

/-! ### Values of every kind -/

/-- The values that have a comparison and a copy: parts of messages, and the data of the procedures. -/
inductive ValueKind
  | ranParamValType
  | ranParamTest
  | eventTrigger
  | actionDef
  | indHdr
  | indMsg
  | ctrlHdr
  | ctrlMsg
  | ctrlOut
  | subData
  | indData
  | ctrlReqData

namespace ValueKind

def Value : ValueKind → Type
  | ranParamValType => RanParamValType
  | ranParamTest => RanParamTest
  | eventTrigger => EventTrigger
  | actionDef => ActionDef UeId
  | indHdr => IndHdr UeId
  | indMsg => IndMsg UeId CellGlobalId
  | ctrlHdr => CtrlHdr UeId
  | ctrlMsg => CtrlMsg
  | ctrlOut => CtrlOut
  | subData => RcSubData UeId
  | indData => RcIndData UeId CellGlobalId
  | ctrlReqData => RcCtrlReqData UeId

def cp : (k : ValueKind) → k.Value → Except String k.Value
  | ranParamValType => cpRanParamValType
  | ranParamTest => cpRanParamTest
  | eventTrigger => cpE2smRcEventTrigger
  | actionDef => cpE2smRcActionDef identities
  | indHdr => cpE2smRcIndHdr identities
  | indMsg => cpE2smRcIndMsg identities
  | ctrlHdr => cpE2smRcCtrlHdr identities
  | ctrlMsg => cpE2smRcCtrlMsg
  | ctrlOut => cpE2smRcCtrlOut
  | subData => cpRcSubData identities
  | indData => cpRcIndData identities
  | ctrlReqData => cpRcCtrlReqData identities

def eq : (k : ValueKind) → k.Value → k.Value → Except String Bool
  | ranParamValType => eqRanParamValType
  | ranParamTest => eqRanParamTest
  | eventTrigger => eqE2smRcEventTrigger
  | actionDef => eqE2smRcActionDef
  | indHdr => eqE2smRcIndHdr
  | indMsg => eqE2smRcIndMsg
  | ctrlHdr => eqE2smRcCtrlHdr
  | ctrlMsg => eqE2smRcCtrlMsg
  | ctrlOut => eqE2smRcCtrlOut
  | subData => eqRcSubData
  | indData => eqRcIndData
  | ctrlReqData => eqRcCtrlReqData

/-- What a value needs by itself -/
def Usable : (k : ValueKind) → k.Value → Prop
  | ranParamValType => RanParamValType.Usable
  | ranParamTest => RanParamTest.Usable
  | eventTrigger => EventTrigger.Usable
  | actionDef => ActionDef.Usable
  | indHdr => IndHdr.Usable
  | indMsg => IndMsg.Usable
  | ctrlHdr => CtrlHdr.Usable
  | ctrlMsg => CtrlMsg.Usable
  | ctrlOut => CtrlOut.Usable
  | subData => RcSubData.Usable
  | indData => RcIndData.Usable
  | ctrlReqData => RcCtrlReqData.Usable

/-- Which values differ in something that is compared, and not asserted to be the same -/
def Apart : (k : ValueKind) → k.Value → k.Value → Prop
  | ranParamValType => fun v w => ¬v.compared = w.compared
  | ranParamTest => fun t u => ¬t.SameKind u
  | eventTrigger => EventTrigger.Apart
  | actionDef => fun d e => ¬d.compared = e.compared
  | indHdr => IndHdr.Apart
  | indMsg => IndMsg.Apart
  | ctrlHdr => fun h k => ¬h.Alike k
  | ctrlMsg => fun m n => ¬m.compared = n.compared
  | ctrlOut => CtrlOut.Apart
  | subData => RcSubData.Apart
  | indData => fun _ _ => False
  | ctrlReqData => fun d e => ¬d.Alike e

/-- The sets of values about which the comparison and the copy are right -/
theorem eq_cp_right_iff (k : ValueKind) (s : Set k.Value) :
    RightOn k.cp k.eq s ↔ ∀ a ∈ s, k.Usable a ∧ ∀ b ∈ s, a = b ∨ k.Apart a b := by
  cases k with
  | ranParamValType => exact rightOn_iff_of_tells RanParamValType.kept fun _ _ => eqRanParamValType_tells
  | ranParamTest => exact rightOn_iff RanParamTest.kept fun t u _ _ => eqRanParamTest_eq_false t u
  | eventTrigger => exact rightOn_iff EventTrigger.kept fun _ _ ha hb => (eqE2smRcEventTrigger_answers ha hb).2
  | actionDef => exact rightOn_iff_of_tells ActionDef.kept fun _ _ => eqE2smRcActionDef_tells
  | indHdr => exact rightOn_iff IndHdr.kept fun _ _ => eqE2smRcIndHdr_eq_false
  | indMsg => exact rightOn_iff IndMsg.kept fun _ _ => eqE2smRcIndMsg_eq_false
  | ctrlHdr => exact rightOn_iff_of_tells CtrlHdr.kept fun _ _ => eqE2smRcCtrlHdr_tells
  | ctrlMsg => exact rightOn_iff_of_tells CtrlMsg.kept fun _ _ => eqE2smRcCtrlMsg_tells
  | ctrlOut => exact rightOn_iff CtrlOut.kept fun _ _ => eqE2smRcCtrlOut_eq_false
  | subData => exact rightOn_iff RcSubData.kept fun _ _ => eqRcSubData_eq_false
  | indData => exact rightOn_iff RcIndData.kept fun d e _ _ => iff_of_false (eqRcIndData_ne_false d e) not_false
  | ctrlReqData => exact rightOn_iff_of_tells RcCtrlReqData.kept fun _ _ => eqRcCtrlReqData_tells

end ValueKind

/-- Changes of a node with other identifiers -/
def firstChange : E2NodeInfoChng := ⟨1, 1, none, none⟩

def secondChange : E2NodeInfoChng := ⟨1, 2, none, none⟩

/-- Tests for other numbers -/
def isOne : RanParamTest := ⟨8, .flagTrue (.int 1)⟩

def isTwo : RanParamTest := ⟨8, .flagTrue (.int 2)⟩

/-- The triggers are taken for the same, and the comparison of the tests fails. -/
theorem change_not_compared_and_test_asserted :
    ((EventTrigger.frmt3 ⟨[firstChange]⟩).Usable ∧ (EventTrigger.frmt3 ⟨[secondChange]⟩).Usable ∧
      EventTrigger.frmt3 ⟨[firstChange]⟩ ≠ .frmt3 ⟨[secondChange]⟩ ∧
      eqE2smRcEventTrigger (.frmt3 ⟨[firstChange]⟩) (.frmt3 ⟨[secondChange]⟩) = .ok true) ∧
    isOne.Usable ∧ isTwo.Usable ∧ isOne ≠ isTwo ∧ eqRanParamTest isOne isTwo = .error "0!=0" := by
  have hfirst : firstChange.Usable := ⟨by decide, by decide, rfl, rfl⟩
  have hsecond : secondChange.Usable := ⟨by decide, by decide, rfl, rfl⟩
  have htests (n : Int) : RanParamTest.Usable ⟨8, .flagTrue (.int n)⟩ :=
    RanParamTest.usable_flagTrue.mpr ⟨by decide, trivial⟩
  refine ⟨⟨?_, ?_, ?_, rfl⟩, htests 1, htests 2, ?_, rfl⟩
  · exact ⟨by decide, List.forall_mem_singleton.mpr hfirst⟩
  · exact ⟨by decide, List.forall_mem_singleton.mpr hsecond⟩
  · simp [firstChange, secondChange]
  · simp [isOne, isTwo]

end FlexRic.Sm.Rc
