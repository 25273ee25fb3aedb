import Mathlib.Tactic.NormNum
import FlexRic.Sm.Kpm.Eq
import FlexRic.Theorems.Sm.Kpm.Data
import FlexRic.Theorems.Ue.Eq

/-! # What the comparison of KPM indications tells apart

Two messages agree when nothing in them differs, floating-point measurements within the tolerance of the comparison. -/

namespace FlexRic.Sm.Kpm
open Ue (UeId eqNumber eqE2smPlmn eqUeIdE2sm cpUeIdE2sm)

/-! ### Messages that agree -/

section Agreement

def MeasRecord.Agrees : MeasRecord ℚ → MeasRecord ℚ → Prop
  | integer v, integer w => v = w
  | real v, real w => |v - w| ≤ tolerance
  | noValue, noValue => True
  | _, _ => False

structure MeasData.Agrees (a b : MeasData ℚ) : Prop where
  records : List.Forall₂ MeasRecord.Agrees a.measRecordLst b.measRecordLst
  flag : a.incompleteFlag = b.incompleteFlag

structure IndMsgFrm1.Agrees (a b : IndMsgFrm1 ℚ) : Prop where
  data : List.Forall₂ MeasData.Agrees a.measDataLst b.measDataLst
  infos : a.measInfoLst = b.measInfoLst
  period : a.granPeriodMs = b.granPeriodMs

structure IndMsgFrm2.Agrees (a b : IndMsgFrm2 ℚ) : Prop where
  data : List.Forall₂ MeasData.Agrees a.measDataLst b.measDataLst
  infos : a.measInfoCondUeLst = b.measInfoCondUeLst
  period : a.granPeriodMs = b.granPeriodMs

structure MeasReportPerUe.Agrees (a b : MeasReportPerUe ℚ) : Prop where
  ueId : a.ueMeasReportLst = b.ueMeasReportLst
  report : a.indMsgFormat1.Agrees b.indMsgFormat1

/-- The messages have the same format and agree on every member of it. -/
def IndMsg.Agrees : IndMsg (IePart ℚ) → IndMsg (IePart ℚ) → Prop
  | frm1 a, frm1 b => IndMsgFrm1.Agrees a b
  | frm2 a, frm2 b => IndMsgFrm2.Agrees a b
  | frm3 a, frm3 b => List.Forall₂ MeasReportPerUe.Agrees (IndMsgFrm3.measReportPerUe a) (IndMsgFrm3.measReportPerUe b)
  | _, _ => False

theorem tolerance_nonneg : 0 ≤ tolerance := by norm_num [tolerance]

theorem MeasRecord.Agrees.refl (r : MeasRecord ℚ) : r.Agrees r := by
  cases r with
  | integer v => exact rfl
  | real v =>
    show |v - v| ≤ tolerance
    rw [sub_self, abs_zero]
    exact tolerance_nonneg
  | noValue => trivial

theorem MeasData.Agrees.refl (d : MeasData ℚ) : d.Agrees d :=
  ⟨List.forall₂_same.mpr fun r _ => .refl r, rfl⟩

end Agreement

/-! ### What neither function has an assertion against -/

/-- No member is there that is not implemented. -/
def LabelInfo.Implemented (l : LabelInfo) : Prop := l.hasNotImplemented = false ∧ l.hasIndex = false

def TestCondValue.Implemented : TestCondValue ℚ → Prop
  | bitString _ => False
  | end_ => False
  | _ => True

def LabelOrTest.Implemented : LabelOrTest ℚ → Prop
  | labelInfo l => LabelInfo.Implemented l
  | testInfo t => ∀ v ∈ t.testCondValue, v.Implemented

def IndMsgFrm1.Implemented (x : IndMsgFrm1 ℚ) : Prop :=
  ∀ i ∈ x.measInfoLst, ∀ l ∈ i.labelInfoLst, LabelInfo.Implemented l

def MeasInfoCondUe.Implemented (m : MeasInfoCondUe ℚ) : Prop := ∀ c ∈ m.matchingCondLst, c.cond.Implemented

def UeIdGranPeriod.Complete : UeIdGranPeriod → Prop
  | noneMatched _ => True
  | oneOrMoreMatched ueLst => ∀ id ∈ ueLst, id.Complete

/-- No identity misses a member that its comparison asserts. -/
def MeasInfoCondUe.Complete (m : MeasInfoCondUe ℚ) : Prop :=
  (∀ id ∈ m.ueIdMatchedLst, id.Complete) ∧ ∀ p ∈ m.ueIdGranPeriodLst, p.Complete

/-! ### Comparisons of what messages have in them -/

section Members

theorem eqByteArray_eq_true {m0 m1 : List UInt8} : eqByteArray m0 m1 = .ok true ↔ m0 = m1 := by
  rw [eqByteArray, both_eq_true, same_eq_true]
  constructor
  · rintro ⟨hlen, h⟩
    rwa [memcmp_of_length rfl hlen.symm, same_eq_true] at h
  · rintro rfl
    exact ⟨rfl, by rw [memcmp_of_length rfl rfl, same_eq_true]⟩

theorem eqMeasType_eq_true {m0 m1 : MeasType} : eqMeasType m0 m1 = .ok true ↔ m0 = m1 := by
  cases m0 <;> cases m1 <;> simp [eqMeasType, eqByteArray_eq_true]

theorem eqLabelInfo_eq_true {l1 l2 : LabelInfo} :
    eqLabelInfo l1 l2 = .ok true ↔ l1 = l2 ∧ LabelInfo.Implemented l1 := by
  simp only [eqLabelInfo, both_eq_true, Except.bind_eq_ok, require_eq_ok, exists_const, Except.pure_eq, and_true,
    eqPresent_eq_true fun a b => (Ue.eqNumber_tells a b).true_iff,
    eqPresent_eq_true fun a b => (Ue.eqE2smPlmn_tells a b).true_iff, LabelInfo.Implemented]
  constructor
  · rintro ⟨hno, hplmn, ⟨h1, h2⟩, havg, h3, h4⟩
    refine ⟨?_, h1, h3⟩
    rw [LabelMembers.eq_only_iff.mpr ⟨h1, h3⟩, LabelMembers.eq_only_iff.mpr ⟨h2, h4⟩, hno, hplmn, havg]
  · rintro ⟨rfl, h1, h2⟩
    exact ⟨rfl, rfl, ⟨h1, h1⟩, rfl, h2, h2⟩

theorem eqTestCondValue_eq_true (m0 m1 : TestCondValue ℚ) :
    eqTestCondValue m0 m1 = .ok true ↔ m0 = m1 ∧ m0.Implemented := by
  cases m0 <;> cases m1 <;>
    simp [eqTestCondValue, eqByteArray_eq_true, TestCondValue.Implemented, throw, throwThe, MonadExceptOf.throw]

theorem eqTestInfo_eq_true {m0 m1 : TestInfo ℚ} :
    eqTestInfo m0 m1 = .ok true ↔ m0 = m1 ∧ ∀ v ∈ m0.testCondValue, v.Implemented := by
  rw [eqTestInfo, both_eq_true, both_eq_true, both_eq_true, same_eq_true, same_eq_true,
    eqPresent_eq_true fun a b => (Ue.eqNumber_tells a b).true_iff, eqPresent_eq_true_and eqTestCondValue_eq_true]
  cases m0
  cases m1
  simp only [TestInfo.mk.injEq, and_assoc]

theorem eqLabelOrTest_eq_true {m0 m1 : LabelOrTest ℚ} :
    eqLabelOrTest m0 m1 = .ok true ↔ m0 = m1 ∧ m0.Implemented := by
  cases m0 <;> cases m1 <;>
    simp [eqLabelOrTest, eqLabelInfo_eq_true, eqTestInfo_eq_true, LabelOrTest.Implemented, throw, throwThe,
      MonadExceptOf.throw]

theorem eqMatchingCondFrm3_eq_true {m0 m1 : MatchingCondFrm3 ℚ} :
    eqMatchingCondFrm3 m0 m1 = .ok true ↔ m0 = m1 ∧ m0.cond.Implemented := by
  rw [eqMatchingCondFrm3, both_eq_true, eqLabelOrTest_eq_true, orAssert_eq_true, eqRead_eq_true]
  cases m0
  cases m1
  rw [MatchingCondFrm3.mk.injEq]
  exact and_right_comm

theorem eqUeIdE2sm_self {id : UeId} : eqUeIdE2sm id id = .ok true ↔ id.Complete :=
  (Ue.eqUeIdE2sm_tells id id).true_iff.trans id.alike_self

theorem eqKpmUeIdGranPeriodLst_self {p : UeIdGranPeriod} : eqKpmUeIdGranPeriodLst p p = .ok true ↔ p.Complete := by
  cases p with
  | noneMatched v => simp [eqKpmUeIdGranPeriodLst, UeIdGranPeriod.Complete]
  | oneOrMoreMatched ueLst =>
    rw [eqKpmUeIdGranPeriodLst, eqList_eq_true, List.forall₂_same]
    exact forall₂_congr fun id _ => eqUeIdE2sm_self

theorem eqKpmMeasInfoCondUe_self {m : MeasInfoCondUe ℚ} :
    eqKpmMeasInfoCondUe m m = .ok true ↔ m.Implemented ∧ m.Complete := by
  simp only [eqKpmMeasInfoCondUe, both_eq_true, orAssert_eq_true, same_eq_true, eqArray_self, eqMeasType_eq_true,
    eqMatchingCondFrm3_eq_true, eqUeIdE2sm_self, eqKpmUeIdGranPeriodLst_self, true_and, MeasInfoCondUe.Implemented,
    MeasInfoCondUe.Complete]

theorem eqMeasRecord_eq_true (m0 m1 : MeasRecord ℚ) : eqMeasRecord m0 m1 = .ok true ↔ m0.Agrees m1 := by
  have hfalse : (pure false : Except String Bool) = .ok true ↔ False := by simp
  cases m0 with
  | integer v =>
    cases m1 with
    | integer w => exact same_eq_true
    | real w => exact hfalse
    | noValue => exact hfalse
  | real v =>
    cases m1 with
    | integer w => exact hfalse
    | real w => exact same_eq_true
    | noValue => exact hfalse
  | noValue =>
    cases m1 with
    | integer w => exact hfalse
    | real w => exact hfalse
    | noValue => exact iff_of_true rfl trivial

theorem eqMeasDataLst_eq_true (m0 m1 : MeasData ℚ) : eqMeasDataLst m0 m1 = .ok true ↔ m0.Agrees m1 := by
  rw [eqMeasDataLst, both_eq_true, eqList_eq_true, eqRead_eq_true]
  simp only [eqMeasRecord_eq_true]
  exact ⟨fun ⟨hrecords, hflag⟩ => ⟨hrecords, hflag⟩, fun h => ⟨h.records, h.flag⟩⟩

theorem eqMeasInfoItem_eq_true {m0 m1 : MeasInfoFrm1} :
    eqMeasInfoItem m0 m1 = .ok true ↔ m0 = m1 ∧ ∀ l ∈ m0.labelInfoLst, LabelInfo.Implemented l := by
  obtain ⟨type, labels⟩ := m0
  obtain ⟨type', labels'⟩ := m1
  simp only [eqMeasInfoItem, both_eq_true, orAssert_eq_true, eqMeasType_eq_true, same_eq_true, MeasInfoFrm1.mk.injEq]
  constructor
  · rintro ⟨rfl, hlen, h⟩
    simp only [eqArray_eq_true hlen, orAssert_eq_true, eqLabelInfo_eq_true, forall₂_eq_and] at h
    exact ⟨⟨rfl, h.1⟩, h.2⟩
  · rintro ⟨⟨rfl, rfl⟩, h⟩
    refine ⟨rfl, rfl, eqArray_self.mpr fun l hl => ?_⟩
    rw [orAssert_eq_true, eqLabelInfo_eq_true]
    exact ⟨rfl, h l hl⟩

end Members

/-! ### Comparisons of messages -/

/-- The comparison finds no difference. -/
structure IndMsgFrm1.Alike (a b : IndMsgFrm1 ℚ) : Prop where
  data : a.measDataLst.length = b.measDataLst.length
  infos : a.measInfoLst = b.measInfoLst
  period : a.granPeriodMs = b.granPeriodMs
  implemented : a.Implemented

/-- One of them has more data, or they agree and all that they have is implemented. -/
def IndMsgFrm1.Told (a b : IndMsgFrm1 ℚ) : Prop :=
  a.measDataLst.length ≠ b.measDataLst.length ∨ a.Agrees b ∧ a.Implemented

def IndMsgFrm2.Told (a b : IndMsgFrm2 ℚ) : Prop :=
  a.measDataLst.length ≠ b.measDataLst.length ∨
    a.Agrees b ∧ ∀ m ∈ a.measInfoCondUeLst, m.Implemented ∧ m.Complete

def MeasReportPerUe.Alike (a b : MeasReportPerUe ℚ) : Prop :=
  a.ueMeasReportLst.Alike b.ueMeasReportLst ∧ a.indMsgFormat1.Alike b.indMsgFormat1

/-- The identities are told apart, or nothing differs in them and one report has more data. -/
def MeasReportPerUe.Apart (a b : MeasReportPerUe ℚ) : Prop :=
  (¬a.ueMeasReportLst.Alike b.ueMeasReportLst ∧ ¬a.ueMeasReportLst.Fails b.ueMeasReportLst) ∨
    a.ueMeasReportLst.Alike b.ueMeasReportLst ∧
      a.indMsgFormat1.measDataLst.length ≠ b.indMsgFormat1.measDataLst.length

/-- One of them has more reports, the comparison comes to two reports that it tells apart, or the messages agree and all
that they have is implemented. -/
def IndMsgFrm3.Told (a b : IndMsgFrm3 ℚ) : Prop :=
  a.measReportPerUe.length ≠ b.measReportPerUe.length ∨
    StopsIn MeasReportPerUe.Alike MeasReportPerUe.Apart a.measReportPerUe b.measReportPerUe ∨
    List.Forall₂ MeasReportPerUe.Agrees a.measReportPerUe b.measReportPerUe ∧
      ∀ r ∈ a.measReportPerUe, r.ueMeasReportLst.Complete ∧ r.indMsgFormat1.Implemented

def IndMsg.Told : IndMsg (IePart ℚ) → IndMsg (IePart ℚ) → Prop
  | frm1 a, frm1 b => IndMsgFrm1.Told a b
  | frm2 a, frm2 b => IndMsgFrm2.Told a b
  | frm3 a, frm3 b => IndMsgFrm3.Told a b
  | _, _ => False

section Messages

theorem eqKpmIndMsgFrm1_eq_true {a b : IndMsgFrm1 ℚ} : eqKpmIndMsgFrm1 a b = .ok true ↔ a.Alike b := by
  simp only [eqKpmIndMsgFrm1, both_eq_true, orAssert_eq_true, same_eq_true, eqRead_eq_true, eqArray_self,
    eqMeasDataLst_eq_true]
  constructor
  · rintro ⟨hdata, -, hlen, hinfos, hperiod⟩
    simp only [eqArray_eq_true hlen, eqMeasInfoItem_eq_true, forall₂_eq_and] at hinfos
    exact ⟨hdata, hinfos.1, hperiod, hinfos.2⟩
  · rintro ⟨hdata, hinfos, hperiod, himpl⟩
    refine ⟨hdata, fun d _ => .refl d, congrArg _ hinfos, ?_, hperiod⟩
    rw [← hinfos, eqArray_self]
    exact fun i hi => eqMeasInfoItem_eq_true.mpr ⟨rfl, himpl i hi⟩

theorem eqMeasInfoItem_ne_false {a b : MeasInfoFrm1} : eqMeasInfoItem a b ≠ .ok false :=
  both_ne_false orAssert_ne_false
    (both_ne_false orAssert_ne_false (eqArray_ne_false fun _ _ => orAssert_ne_false))

/-- All but the number of data is asserted. -/
theorem eqKpmIndMsgFrm1_rest_ne_false (a b : IndMsgFrm1 ℚ) :
    both (eqArray (fun m0 m1 => orAssert "0!=0" (eqMeasDataLst m0 m1)) a.measDataLst a.measDataLst)
      (both (orAssert "0!=0" (same (a.measInfoLst.length = b.measInfoLst.length)))
        (both (eqArray eqMeasInfoItem a.measInfoLst b.measInfoLst)
          (orAssert "0!=0" (eqRead a.granPeriodMs b.granPeriodMs)))) ≠ .ok false :=
  both_ne_false (eqArray_ne_false fun _ _ => orAssert_ne_false) (both_ne_false orAssert_ne_false
    (both_ne_false (eqArray_ne_false fun _ _ => eqMeasInfoItem_ne_false) orAssert_ne_false))

theorem eqKpmIndMsgFrm1_eq_false {a b : IndMsgFrm1 ℚ} :
    eqKpmIndMsgFrm1 a b = .ok false ↔ a.measDataLst.length ≠ b.measDataLst.length := by
  rw [eqKpmIndMsgFrm1, both_eq_false, same_eq_false]
  exact or_iff_left fun h => eqKpmIndMsgFrm1_rest_ne_false a b h.2

theorem IndMsgFrm1.Agrees.alike_iff {a b : IndMsgFrm1 ℚ} (h : a.Agrees b) : a.Alike b ↔ a.Implemented :=
  ⟨Alike.implemented, fun himpl => ⟨h.data.length_eq, h.infos, h.period, himpl⟩⟩

theorem eqKpmIndMsgFrm1_says_iff {a b : IndMsgFrm1 ℚ} : Says (eqKpmIndMsgFrm1 a b) (a.Agrees b) ↔ a.Told b := by
  refine (says_both_same_iff (eqKpmIndMsgFrm1_rest_ne_false a b) fun h => h.data.length_eq).trans ?_
  exact or_congr_right (and_congr_right fun h => eqKpmIndMsgFrm1_eq_true.trans h.alike_iff)

theorem eqKpmIndMsgFrm2_says_iff {a b : IndMsgFrm2 ℚ} : Says (eqKpmIndMsgFrm2 a b) (a.Agrees b) ↔ a.Told b := by
  refine (says_both_same_iff (both_ne_false (eqArray_ne_false fun _ _ => orAssert_ne_false) (both_ne_false
    orAssert_ne_false (both_ne_false (eqArray_ne_false fun _ _ => orAssert_ne_false) orAssert_ne_false)))
    fun h => h.data.length_eq).trans ?_
  refine or_congr_right (and_congr_right fun h => ?_)
  simp only [both_eq_true, orAssert_eq_true, same_eq_true, eqRead_eq_true, eqArray_eq_true h.data.length_eq,
    eqMeasDataLst_eq_true, ← h.infos, eqArray_self, eqKpmMeasInfoCondUe_self, h.data.length_eq, h.data, h.period,
    true_and, and_true]

theorem eqMeasReportPerUe_eq_true (a b : MeasReportPerUe ℚ) : eqMeasReportPerUe a b = .ok true ↔ a.Alike b := by
  rw [eqMeasReportPerUe, both_eq_true, (Ue.eqUeIdE2sm_tells _ _).true_iff, eqKpmIndMsgFrm1_eq_true]
  exact Iff.rfl

theorem eqMeasReportPerUe_eq_false (a b : MeasReportPerUe ℚ) : eqMeasReportPerUe a b = .ok false ↔ a.Apart b := by
  rw [eqMeasReportPerUe, both_eq_false, (Ue.eqUeIdE2sm_tells _ _).true_iff, (Ue.eqUeIdE2sm_tells _ _).false_iff,
    eqKpmIndMsgFrm1_eq_false]
  exact Iff.rfl

theorem MeasReportPerUe.Agrees.not_apart {a b : MeasReportPerUe ℚ} (h : a.Agrees b) : ¬a.Apart b := by
  rw [MeasReportPerUe.Apart, ← h.ueId, UeId.fails_self, UeId.alike_self]
  rintro (⟨h1, h2⟩ | ⟨-, hlen⟩)
  · exact h2 h1
  · exact hlen h.report.data.length_eq

theorem MeasReportPerUe.Agrees.alike_iff {a b : MeasReportPerUe ℚ} (h : a.Agrees b) :
    a.Alike b ↔ a.ueMeasReportLst.Complete ∧ a.indMsgFormat1.Implemented := by
  rw [MeasReportPerUe.Alike, h.report.alike_iff, ← h.ueId, UeId.alike_self]

theorem forall₂_alike_iff {as bs : List (MeasReportPerUe ℚ)} (h : List.Forall₂ MeasReportPerUe.Agrees as bs) :
    List.Forall₂ MeasReportPerUe.Alike as bs ↔
      ∀ r ∈ as, r.ueMeasReportLst.Complete ∧ r.indMsgFormat1.Implemented := by
  induction h with
  | nil => simp
  | cons hab _ ih => rw [List.forall₂_cons, List.forall_mem_cons, ih, hab.alike_iff]

theorem eqKpmIndMsgFrm3_says_iff {a b : IndMsgFrm3 ℚ} :
    Says (eqKpmIndMsgFrm3 a b) (List.Forall₂ MeasReportPerUe.Agrees a.measReportPerUe b.measReportPerUe) ↔
      a.Told b := by
  rw [says_iff_or, eqKpmIndMsgFrm3, eqList_eq_true, eqList, both_eq_false, same_eq_false, same_eq_true,
    eqArray_eq_false]
  simp only [eqMeasReportPerUe_eq_true, eqMeasReportPerUe_eq_false]
  constructor
  · rintro (⟨halike, hagrees⟩ | ⟨hlen | ⟨-, hstops⟩, -⟩)
    · exact .inr (.inr ⟨hagrees, (forall₂_alike_iff hagrees).mp halike⟩)
    · exact .inl hlen
    · exact .inr (.inl hstops)
  · rintro (hlen | hstops | ⟨hagrees, himpl⟩)
    · exact .inr ⟨.inl hlen, fun h => hlen h.length_eq⟩
    · by_cases hlen : a.measReportPerUe.length = b.measReportPerUe.length
      · refine .inr ⟨.inr ⟨hlen, hstops⟩, fun hagrees => ?_⟩
        obtain ⟨r, s, hrs, hapart⟩ := hstops.of_forall₂ hagrees
        exact hrs.not_apart hapart
      · exact .inr ⟨.inl hlen, fun h => hlen h.length_eq⟩
    · exact .inl ⟨(forall₂_alike_iff hagrees).mpr himpl, hagrees⟩

theorem eqKpmIndMsg_says_iff (a b : IndMsg (IePart ℚ)) : Says (eqKpmIndMsg a b) (a.Agrees b) ↔ a.Told b := by
  have hformats (msg : String) : ¬Says (.error msg) False := by simp [Says]
  cases a with
  | frm1 a =>
    cases b with
    | frm1 b => exact eqKpmIndMsgFrm1_says_iff
    | _ => exact iff_of_false (hformats _) id
  | frm2 a =>
    cases b with
    | frm2 b => exact eqKpmIndMsgFrm2_says_iff
    | _ => exact iff_of_false (hformats _) id
  | frm3 a =>
    cases b with
    | frm3 b => exact eqKpmIndMsgFrm3_says_iff
    | _ => exact iff_of_false (hformats _) id

end Messages

/-! ### Copies -/

/-- The lengths are in the ranges that are asserted. -/
def MeasInfoFrm1.Copied (m : MeasInfoFrm1) : Prop :=
  0 < m.labelInfoLst.length ∧ ∀ l ∈ m.labelInfoLst, LabelInfo.Implemented l

def MeasData.Copied (d : MeasData ℚ) : Prop := oneTo 65534 d.measRecordLst.length

def MeasInfoCondUe.Copied (m : MeasInfoCondUe ℚ) : Prop := oneTo 32768 m.matchingCondLst.length ∧ m.Implemented

def IndMsgFrm1.Copied (x : IndMsgFrm1 ℚ) : Prop :=
  (oneTo 65535 x.measDataLst.length ∧ ∀ d ∈ x.measDataLst, d.Copied) ∧
    upTo 65535 x.measInfoLst.length ∧ ∀ i ∈ x.measInfoLst, i.Copied

def IndMsgFrm2.Copied (x : IndMsgFrm2 ℚ) : Prop :=
  (oneTo 65535 x.measDataLst.length ∧ ∀ d ∈ x.measDataLst, d.Copied) ∧
    oneTo 65535 x.measInfoCondUeLst.length ∧ ∀ i ∈ x.measInfoCondUeLst, i.Copied

/-- Nothing is there that is not implemented, and every list has as many elements as its copy asserts. -/
def IndMsg.Copied : IndMsg (IePart ℚ) → Prop
  | frm1 x => IndMsgFrm1.Copied x
  | frm2 x => IndMsgFrm2.Copied x
  | frm3 x => ∀ r ∈ IndMsgFrm3.measReportPerUe x, r.indMsgFormat1.Copied

section Copies

theorem cpMeasType_eq (t : MeasType) : cpMeasType t = t := by
  cases t <;> rfl

theorem cpUeIdGranPeriodLst_eq (p : UeIdGranPeriod) : cpKpmUeIdGranPeriodLst p = p := by
  cases p with
  | noneMatched v => rfl
  | oneOrMoreMatched ueLst => rw [cpKpmUeIdGranPeriodLst, List.map_id'' Ue.cpUeIdE2sm_eq]

theorem cpMeasRecordLst_eq (r : MeasRecord ℚ) : cpMeasRecordLst r = r := by
  cases r <;> rfl

theorem cpLabelInfo_eq_iff {l : LabelInfo} : cpLabelInfo l = .ok l ↔ LabelInfo.Implemented l := by
  have hplmn : Ue.cpE2smPlmn = id := rfl
  simp only [cpLabelInfo, Except.bind_eq_ok, require_eq_ok, exists_const, Except.pure_eq, Except.ok.injEq, hplmn,
    Option.map_id, id]
  constructor
  · rintro ⟨hnot, hindex, -⟩
    exact ⟨hnot, hindex⟩
  · rintro ⟨hnot, hindex⟩
    exact ⟨hnot, hindex, (LabelMembers.eq_only_iff.mpr ⟨hnot, hindex⟩).symm⟩

theorem cpTestCondValue_eq_iff {v : TestCondValue ℚ} : cpTestCondValue v = .ok v ↔ v.Implemented := by
  cases v <;> simp [cpTestCondValue, TestCondValue.Implemented, throw, throwThe, MonadExceptOf.throw]

theorem cpKpmTestInfo_eq_iff {t : TestInfo ℚ} :
    cpKpmTestInfo t = .ok t ↔ ∀ v ∈ t.testCondValue, v.Implemented := by
  obtain ⟨type, cond, expr, value⟩ := t
  simp only [cpKpmTestInfo, Except.bind_eq_ok, Except.pure_eq, Except.ok.injEq, TestInfo.mk.injEq, true_and,
    exists_eq_right, mapOptional_eq_self, cpTestCondValue_eq_iff]

theorem cpLabelOrTest_eq_iff {c : LabelOrTest ℚ} : cpLabelOrTest c = .ok c ↔ c.Implemented := by
  cases c with
  | labelInfo l =>
    simp only [cpLabelOrTest, Except.bind_eq_ok, Except.pure_eq, Except.ok.injEq, LabelOrTest.labelInfo.injEq,
      exists_eq_right]
    exact cpLabelInfo_eq_iff
  | testInfo t =>
    simp only [cpLabelOrTest, Except.bind_eq_ok, Except.pure_eq, Except.ok.injEq, LabelOrTest.testInfo.injEq,
      exists_eq_right]
    exact cpKpmTestInfo_eq_iff

theorem cpKpmMatchingCondFrm3_eq_iff {m : MatchingCondFrm3 ℚ} :
    cpKpmMatchingCondFrm3 m = .ok m ↔ m.cond.Implemented := by
  obtain ⟨cond, logicalOr⟩ := m
  simp only [cpKpmMatchingCondFrm3, Except.bind_eq_ok, Except.pure_eq, Except.ok.injEq, MatchingCondFrm3.mk.injEq,
    and_true, exists_eq_right, cpLabelOrTest_eq_iff]

theorem cpKpmMeasInfoCondUe_eq_iff {m : MeasInfoCondUe ℚ} : cpKpmMeasInfoCondUe m = .ok m ↔ m.Copied := by
  obtain ⟨type, conds, ids, periods⟩ := m
  simp only [cpKpmMeasInfoCondUe, Except.bind_eq_ok, Except.pure_eq, Except.ok.injEq, MeasInfoCondUe.mk.injEq,
    cpMeasType_eq, List.map_id'' Ue.cpUeIdE2sm_eq, List.map_id'' cpUeIdGranPeriodLst_eq, true_and, and_true,
    exists_eq_right, mapSized_eq_self, cpKpmMatchingCondFrm3_eq_iff]
  exact Iff.rfl

theorem cpMeasDataLst_eq_iff {d : MeasData ℚ} : cpMeasDataLst d = .ok d ↔ d.Copied := by
  obtain ⟨records, flag⟩ := d
  simp only [cpMeasDataLst, Except.bind_eq_ok, require_eq_ok, exists_const, Except.pure_eq,
    List.map_id'' cpMeasRecordLst_eq, and_true]
  exact Iff.rfl

theorem cpMeasInfoFormat1Lst_eq_iff {m : MeasInfoFrm1} : cpMeasInfoFormat1Lst m = .ok m ↔ m.Copied := by
  obtain ⟨type, labels⟩ := m
  simp only [cpMeasInfoFormat1Lst, Except.bind_eq_ok, Except.pure_eq, Except.ok.injEq, MeasInfoFrm1.mk.injEq,
    cpMeasType_eq, true_and, exists_eq_right, mapSized_eq_self, cpLabelInfo_eq_iff]
  exact Iff.rfl

theorem cpKpmIndMsgFrm1_eq_iff {x : IndMsgFrm1 ℚ} : cpKpmIndMsgFrm1 x = .ok x ↔ x.Copied := by
  obtain ⟨data, infos, period⟩ := x
  simp only [cpKpmIndMsgFrm1, Except.bind_eq_ok, Except.pure_eq, Except.ok.injEq, IndMsgFrm1.mk.injEq, and_true,
    existsAndEq, mapSized_eq_self, cpMeasDataLst_eq_iff, cpMeasInfoFormat1Lst_eq_iff]
  exact Iff.rfl

theorem cpKpmIndMsgFrm2_eq_iff {x : IndMsgFrm2 ℚ} : cpKpmIndMsgFrm2 x = .ok x ↔ x.Copied := by
  obtain ⟨data, infos, period⟩ := x
  simp only [cpKpmIndMsgFrm2, Except.bind_eq_ok, Except.pure_eq, Except.ok.injEq, IndMsgFrm2.mk.injEq, and_true,
    existsAndEq, mapSized_eq_self, cpMeasDataLst_eq_iff, cpKpmMeasInfoCondUe_eq_iff]
  exact Iff.rfl

theorem cpMeasReportPerUe_eq_iff {r : MeasReportPerUe ℚ} : cpMeasReportPerUe r = .ok r ↔ r.indMsgFormat1.Copied := by
  obtain ⟨id, report⟩ := r
  simp only [cpMeasReportPerUe, Except.bind_eq_ok, Except.pure_eq, Except.ok.injEq, MeasReportPerUe.mk.injEq,
    Ue.cpUeIdE2sm_eq, true_and, exists_eq_right, cpKpmIndMsgFrm1_eq_iff]

theorem cpKpmIndMsgFrm3_eq_iff {x : IndMsgFrm3 ℚ} :
    cpKpmIndMsgFrm3 x = .ok x ↔ ∀ r ∈ x.measReportPerUe, r.indMsgFormat1.Copied := by
  obtain ⟨reports⟩ := x
  simp only [← cpMeasReportPerUe_eq_iff, ← Except.mapM_eq_self]
  exact bind_mk_eq_ok fun _ _ => IndMsgFrm3.mk.inj

theorem cpKpmIndMsg_eq_iff (x : IndMsg (IePart ℚ)) : cpKpmIndMsg x = .ok x ↔ x.Copied := by
  cases x with
  | frm1 x =>
    refine Iff.trans ?_ (cpKpmIndMsgFrm1_eq_iff (x := x))
    exact bind_mk_eq_ok fun _ _ => IndMsg.frm1.inj
  | frm2 x =>
    refine Iff.trans ?_ (cpKpmIndMsgFrm2_eq_iff (x := x))
    exact bind_mk_eq_ok fun _ _ => IndMsg.frm2.inj
  | frm3 x =>
    refine Iff.trans ?_ (cpKpmIndMsgFrm3_eq_iff (x := x))
    exact bind_mk_eq_ok fun _ _ => IndMsg.frm3.inj

end Copies

/-- **The comparison of two indications is right if and only if they are told apart, and the copy is equal to its source
if and only if its assertions let it through**: the messages have the same format, and either the numbers of their data
differ (with the third format: their numbers of reports, or two reports that are told apart come after ones in which
nothing differs), or they agree and have nothing that is asserted not to be there. -/
theorem eqKpmIndMsg_cpKpmIndMsg (a b : IndMsg (IePart ℚ)) :
    (Says (eqKpmIndMsg a b) (a.Agrees b) ↔ a.Told b) ∧ (cpKpmIndMsg a = .ok a ↔ a.Copied) :=
  ⟨eqKpmIndMsg_says_iff a b, cpKpmIndMsg_eq_iff a⟩

/-- The first format with one number that was measured -/
def msgMeasured (v : UInt32) : IndMsg (IePart ℚ) := .frm1 (⟨[⟨[.integer v], none⟩], [], none⟩ : IndMsgFrm1 ℚ)

/-- The data of the first message are compared to themselves. -/
theorem eqKpmIndMsg_not_right :
    ¬∀ a b : IndMsg (IePart ℚ), Says (eqKpmIndMsg a b) (a.Agrees b) ∧ cpKpmIndMsg a = .ok a := by
  intro h
  obtain ⟨answer, hanswer, hiff⟩ := (h (msgMeasured 1) (msgMeasured 2)).1
  have htrue : eqKpmIndMsg (msgMeasured 1) (msgMeasured 2) = .ok true := rfl
  obtain rfl := Except.ok.inj (hanswer.symm.trans htrue)
  have hagrees : IndMsgFrm1.Agrees ⟨[⟨[.integer 1], none⟩], [], none⟩ ⟨[⟨[.integer 2], none⟩], [], none⟩ := hiff.mp rfl
  obtain ⟨hdata, -⟩ := List.forall₂_cons.mp hagrees.data
  obtain ⟨hvalue, -⟩ := List.forall₂_cons.mp hdata.records
  have hvalue : (1 : UInt32) = 2 := hvalue
  exact absurd hvalue (by decide)

end FlexRic.Sm.Kpm
