import FlexRic.Lib.Counting
import FlexRic.Sm.Kpm.Formats

/-! # What fits the buffers of the KPM encoders

The encoders accept lists of up to `65535` elements and more, and encode into buffers of `2048` bytes. What PER spends
on a message is bounded on both sides by what the message has: its elements, those of the lists in the identities of
UEs among them, and the bytes of its names. -/

namespace FlexRic.Sm.Kpm
open Ue (UeId UeIdAsn encUeIdAsn)

variable {R : Type}

/-! ### What is counted -/

/-- What counts for a message: itself, an element of a list, one that is a single number, and a byte of a name. -/
structure Weights where
  message : Nat
  element : Nat
  value : Nat
  byte : Nat

namespace Weights
variable {A : Type}

/-- A bit for each element of a list -/
def bits : Weights := ⟨0, 1, 1, 0⟩

/-- The octets that suffice: for all members of a message or of an element that are neither lists nor names, for a
record or an identity of the F1 or E1 interface, and for a byte with its part of a length. -/
def octets : Weights := ⟨256, 256, 20, 2⟩

variable (w : Weights)

/-- A list whose elements have `m` of their own -/
def list (m : A → Nat) : List A → Nat := total fun a => w.element + m a

def values : List A → Nat := total fun _ => w.value

def bytes (b : List UInt8) : Nat := w.byte * b.length

/-- The lists of an identity -/
def ueId : UeId → Nat
  | .gnb id => w.values id.gnbCuUeF1apLst + w.values id.gnbCuCpUeE1apLst
  | .enGnb id => w.values id.gnbCuCpUeE1apLst
  | _ => 0

def ueIdAsn : UeIdAsn → Nat
  | .gnb id => totalOf w.values id.gnbCuUeF1apIdList + totalOf w.values id.gnbCuCpUeE1apIdList
  | .enGnb id => totalOf w.values id.gnbCuCpUeE1apIdList
  | _ => 0

end Weights

/-! ### The values of the code -/

section Ie
variable (w : Weights)

def MeasType.weight : MeasType → Nat
  | name n => w.bytes n
  | id _ => 0

def TestCondValue.weight : TestCondValue R → Nat
  | bitString v | octetString v | printableString v => w.bytes v
  | _ => 0

def LabelOrTest.weight : LabelOrTest R → Nat
  | labelInfo _ => 0
  | testInfo t => totalOf (TestCondValue.weight w) t.testCondValue

def BinRangeDef.weight (b : BinRangeDef R) : Nat :=
  w.list (fun _ => 0) b.binXLst + w.list (fun _ => 0) b.binYLst + w.list (fun _ => 0) b.binZLst

def MeasInfoFrm1.weight (m : MeasInfoFrm1) : Nat := m.measType.weight w + w.list (fun _ => 0) m.labelInfoLst

def MeasBinRangeInfo.weight (m : MeasBinRangeInfo R) : Nat := m.measType.weight w + m.binRangeDef.weight w

def MeasInfoFrm3.weight (m : MeasInfoFrm3 R) : Nat :=
  m.measType.weight w + w.list (fun c => c.cond.weight w) m.matchingCondLst +
    totalOf (BinRangeDef.weight w) m.binRangeDef

def UeIdGranPeriod.weight : UeIdGranPeriod → Nat
  | noneMatched _ => 0
  | oneOrMoreMatched ueLst => w.list w.ueId ueLst

def MeasInfoCondUe.weight (m : MeasInfoCondUe R) : Nat :=
  m.measType.weight w + w.list (fun c => c.cond.weight w) m.matchingCondLst + w.list w.ueId m.ueIdMatchedLst +
    w.list (UeIdGranPeriod.weight w) m.ueIdGranPeriodLst

def MeasData.weight (m : MeasData R) : Nat := w.values m.measRecordLst

def ActDefFrm1.weight (x : ActDefFrm1 R) : Nat :=
  w.list (MeasInfoFrm1.weight w) x.measInfoLst + w.list (MeasBinRangeInfo.weight w) x.measBinInfoLst

def IndMsgFrm1.weight (x : IndMsgFrm1 R) : Nat :=
  w.list (MeasData.weight w) x.measDataLst + w.list (MeasInfoFrm1.weight w) x.measInfoLst

def IndMsgFrm2.weight (x : IndMsgFrm2 R) : Nat :=
  w.list (MeasData.weight w) x.measDataLst + w.list (MeasInfoCondUe.weight w) x.measInfoCondUeLst

def MeasReportPerUe.weight (r : MeasReportPerUe R) : Nat := w.ueId r.ueMeasReportLst + r.indMsgFormat1.weight w

def IndMsg.weight : IndMsg (IePart R) → Nat
  | frm1 x => w.message + IndMsgFrm1.weight w x
  | frm2 x => w.message + IndMsgFrm2.weight w x
  | frm3 x => w.message + w.list (MeasReportPerUe.weight w) (IndMsgFrm3.measReportPerUe x)

def ActDef.weight : ActDef (IePart R) → Nat
  | frm1 x => w.message + ActDefFrm1.weight w x
  | frm2 x => w.message + (w.ueId (ActDefFrm2.ueId x) + (ActDefFrm2.actionDefFormat1 x).weight w)
  | frm3 x => w.message + w.list (MeasInfoFrm3.weight w) (ActDefFrm3.measInfoLst x)
  | frm4 x => w.message + (w.list (fun c => totalOf (TestCondValue.weight w) c.testInfoLst.testCondValue)
      (ActDefFrm4.matchingCondLst x) + (ActDefFrm4.actionDefFormat1 x).weight w)
  | frm5 x => w.message + (w.list w.ueId (ActDefFrm5.ueIdLst x) + (ActDefFrm5.actionDefFormat1 x).weight w)

end Ie

/-! ### The values of the ASN.1 types -/

section Asn
variable (w : Weights)

def MeasurementType.weight : MeasurementType → Nat
  | measName n => w.bytes n
  | nothing | measId _ => 0

def TestCondValueAsn.weight : TestCondValueAsn R → Nat
  | valueBitS v => w.bytes v.buf
  | valueOctS v | valuePrtS v => w.bytes v
  | _ => 0

def MatchingCondItemChoice.weight : MatchingCondItemChoice R → Nat
  | nothing | measLabel _ => 0
  | testCondInfo t => totalOf (TestCondValueAsn.weight w) t.testValue

def BinRangeDefinition.weight (b : BinRangeDefinition R) : Nat :=
  w.list (fun _ => 0) b.binRangeListX + totalOf (w.list fun _ => 0) b.binRangeListY +
    totalOf (w.list fun _ => 0) b.binRangeListZ

def MeasurementInfoItem.weight (m : MeasurementInfoItem) : Nat :=
  m.measType.weight w + w.list (fun _ => 0) m.labelInfoList

def DistMeasurementBinRangeItem.weight (m : DistMeasurementBinRangeItem R) : Nat :=
  m.measType.weight w + m.binRangeDef.weight w

def MeasurementCondItem.weight (m : MeasurementCondItem R) : Nat :=
  m.measType.weight w + w.list (fun c => c.matchingCondChoice.weight w) m.matchingCond +
    totalOf (BinRangeDefinition.weight w) m.binRangeDef

def MatchingUeidPerGpItem.weight : MatchingUeidPerGpItem → Nat
  | nothing | noUeMatched => 0
  | oneOrMoreUeMatched ueIds => w.list w.ueIdAsn ueIds

def MeasurementCondUeidItem.weight (m : MeasurementCondUeidItem R) : Nat :=
  m.measType.weight w + w.list (fun c => c.matchingCondChoice.weight w) m.matchingCond +
    totalOf (w.list w.ueIdAsn) m.matchingUeidList + totalOf (w.list (MatchingUeidPerGpItem.weight w)) m.matchingUeidPerGp

def MeasurementDataItem.weight (m : MeasurementDataItem R) : Nat := w.values m.measRecord

def ActionDefinitionFormat1.weight (x : ActionDefinitionFormat1 R) : Nat :=
  w.list (MeasurementInfoItem.weight w) x.measInfoList +
    totalOf (w.list (DistMeasurementBinRangeItem.weight w)) x.distMeasBinRangeInfo

def IndicationMessageFormat1.weight (x : IndicationMessageFormat1 R) : Nat :=
  w.list (MeasurementDataItem.weight w) x.measData + totalOf (w.list (MeasurementInfoItem.weight w)) x.measInfoList

def IndicationMessageFormat2.weight (x : IndicationMessageFormat2 R) : Nat :=
  w.list (MeasurementDataItem.weight w) x.measData + w.list (MeasurementCondUeidItem.weight w) x.measCondUeidList

def UeMeasurementReportItem.weight (r : UeMeasurementReportItem R) : Nat := w.ueIdAsn r.ueId + r.measReport.weight w

def IndicationMessage.weight : IndicationMessage (AsnPart R) → Nat
  | nothing => w.message
  | indicationMessageFormat1 x => w.message + IndicationMessageFormat1.weight w x
  | indicationMessageFormat2 x => w.message + IndicationMessageFormat2.weight w x
  | indicationMessageFormat3 x =>
    w.message + w.list (UeMeasurementReportItem.weight w) (IndicationMessageFormat3.ueMeasReportList x)

def ActionDefinitionFormats.weight : ActionDefinitionFormats (AsnPart R) → Nat
  | nothing => w.message
  | actionDefinitionFormat1 x => w.message + ActionDefinitionFormat1.weight w x
  | actionDefinitionFormat2 x => w.message +
    (w.ueIdAsn (ActionDefinitionFormat2.ueId x) + (ActionDefinitionFormat2.subscriptInfo x).weight w)
  | actionDefinitionFormat3 x =>
    w.message + w.list (MeasurementCondItem.weight w) (ActionDefinitionFormat3.measCondList x)
  | actionDefinitionFormat4 x => w.message +
    (w.list (fun c => totalOf (TestCondValueAsn.weight w) c.testCondInfo.testValue)
      (ActionDefinitionFormat4.matchingUeCondList x) + (ActionDefinitionFormat4.subscriptionInfo x).weight w)
  | actionDefinitionFormat5 x => w.message + (w.list w.ueIdAsn (ActionDefinitionFormat5.matchingUeidList x) +
    (ActionDefinitionFormat5.subscriptionInfo x).weight w)

def ActionDefinition.weight (x : ActionDefinition (AsnPart R)) : Nat := x.actionDefinitionFormats.weight w

end Asn

/-! ### The mapping to ASN.1 keeps all of it -/

section Keeps
variable {w : Weights}

theorem weight_encMeasType (m : MeasType) : (encMeasType m).weight w = m.weight w := by
  cases m <;> rfl

theorem weight_values {A B : Type} {f : A → Except String B} {size : Nat → Prop} [DecidablePred size] {msg : String} :
    KeepsCount (mapSized size msg f) w.values w.values :=
  KeepsCount.const.mapSized

theorem weight_list {A B : Type} {f : A → Except String B} {m : A → Nat} {n : B → Nat} {size : Nat → Prop}
    [DecidablePred size] {msg : String} (h : KeepsCount f m n) : KeepsCount (mapSized size msg f) (w.list m) (w.list n) :=
  h.plus.mapSized

theorem weight_nonempty {A B : Type} {f : A → Except String B} {m : A → Nat} {n : B → Nat} {size : Nat → Prop}
    [DecidablePred size] {msg : String} (h : KeepsCount f m n) :
    KeepsCount (mapNonempty size msg f) (w.list m) (totalOf (w.list n)) :=
  h.plus.mapNonempty

theorem weight_encUeIdAsn : KeepsCount encUeIdAsn w.ueId w.ueIdAsn := by
  have hids {size : Nat → Prop} [DecidablePred size] {msg : String} :
      KeepsCount (mapNonempty size msg fun id : UInt32 => .ok id.toNat) w.values (totalOf w.values) :=
    KeepsCount.const.mapNonempty
  intro id v hv
  cases id with
  | gnb id =>
    obtain ⟨a, ha, hv⟩ := Except.bind_eq_ok.mp hv
    obtain rfl := Except.ok.inj hv
    obtain ⟨_, -, ha⟩ := Except.bind_eq_ok.mp ha
    obtain ⟨guami, -, ha⟩ := Except.bind_eq_ok.mp ha
    obtain ⟨f1ap, hf1ap, ha⟩ := Except.bind_eq_ok.mp ha
    obtain ⟨e1ap, he1ap, ha⟩ := Except.bind_eq_ok.mp ha
    obtain ⟨gnbId, -, ha⟩ := Except.bind_eq_ok.mp ha
    obtain ⟨ngRan, -, ha⟩ := Except.bind_eq_ok.mp ha
    obtain rfl := Except.ok.inj ha
    exact congrArg₂ _ (hids _ _ hf1ap) (hids _ _ he1ap)
  | enGnb id =>
    obtain ⟨a, ha, hv⟩ := Except.bind_eq_ok.mp hv
    obtain rfl := Except.ok.inj hv
    obtain ⟨x2ap, -, ha⟩ := Except.bind_eq_ok.mp ha
    obtain ⟨extension, -, ha⟩ := Except.bind_eq_ok.mp ha
    obtain ⟨enbId, -, ha⟩ := Except.bind_eq_ok.mp ha
    obtain ⟨e1ap, he1ap, ha⟩ := Except.bind_eq_ok.mp ha
    obtain rfl := Except.ok.inj ha
    exact hids _ _ he1ap
  | gnbDu | gnbCuUp | ngEnbDu =>
    obtain rfl := Except.ok.inj hv
    rfl
  | ngEnb | enb =>
    obtain ⟨a, -, hv⟩ := Except.bind_eq_ok.mp hv
    obtain rfl := Except.ok.inj hv
    rfl

theorem weight_measInfoItem : KeepsCount encMeasInfoItem (MeasInfoFrm1.weight w) (MeasurementInfoItem.weight w) := by
  intro m b hb
  obtain ⟨labels, hlabels, hb⟩ := Except.bind_eq_ok.mp hb
  obtain rfl := Except.ok.inj hb
  exact congrArg₂ _ (weight_encMeasType m.measType) (weight_list KeepsCount.const _ _ hlabels)

theorem weight_measDataItem :
    KeepsCount (encMeasDataItem (R := R)) (MeasData.weight w) (MeasurementDataItem.weight w) := by
  intro m b hb
  obtain ⟨records, hrecords, hb⟩ := Except.bind_eq_ok.mp hb
  obtain ⟨flag, -, hb⟩ := Except.bind_eq_ok.mp hb
  obtain rfl := Except.ok.inj hb
  exact weight_values _ _ hrecords

theorem weight_testInfo : KeepsCount (kpmEncTestInfoAsn (R := R))
    (fun t => totalOf (TestCondValue.weight w) t.testCondValue) fun t => totalOf (TestCondValueAsn.weight w) t.testValue := by
  have hvalue : KeepsCount (encTestCondValue (R := R)) (TestCondValue.weight w) (TestCondValueAsn.weight w) := by
    intro v b hb
    cases v with
    | bitString | end_ => cases hb
    | integer | enumerated | boolean | octetString | printableString | real =>
      obtain rfl := Except.ok.inj hb
      rfl
  intro t b hb
  obtain ⟨expr, -, hb⟩ := Except.bind_eq_ok.mp hb
  obtain ⟨value, hv, hb⟩ := Except.bind_eq_ok.mp hb
  obtain rfl := Except.ok.inj hb
  exact hvalue.mapOptional _ _ hv

theorem weight_matchingCond : KeepsCount (kpmEncMatchingCondAsn (R := R)) (fun c => c.cond.weight w)
    fun c => c.matchingCondChoice.weight w := by
  intro c b hb
  obtain ⟨choice, hchoice, hb⟩ := Except.bind_eq_ok.mp hb
  obtain ⟨logicalOr, -, hb⟩ := Except.bind_eq_ok.mp hb
  obtain rfl := Except.ok.inj hb
  obtain ⟨cond, _⟩ := c
  cases cond with
  | labelInfo l =>
    obtain ⟨label, -, hchoice⟩ := Except.bind_eq_ok.mp hchoice
    obtain rfl := Except.ok.inj hchoice
    rfl
  | testInfo t =>
    obtain ⟨test, htest, hchoice⟩ := Except.bind_eq_ok.mp hchoice
    obtain rfl := Except.ok.inj hchoice
    exact weight_testInfo _ _ htest

theorem weight_matchingCondFrm4 : KeepsCount (kpmEncMatchingCondFrm4Asn (R := R))
    (fun c => totalOf (TestCondValue.weight w) c.testInfoLst.testCondValue)
    fun c => totalOf (TestCondValueAsn.weight w) c.testCondInfo.testValue := by
  intro c b hb
  obtain ⟨test, htest, hb⟩ := Except.bind_eq_ok.mp hb
  obtain ⟨_, -, hb⟩ := Except.bind_eq_ok.mp hb
  obtain rfl := Except.ok.inj hb
  exact weight_testInfo _ _ htest

theorem weight_binRangeDef :
    KeepsCount (kpmEncBinRangeDef (R := R)) (BinRangeDef.weight w) (BinRangeDefinition.weight w) := by
  intro m b hb
  obtain ⟨x, hx, hb⟩ := Except.bind_eq_ok.mp hb
  obtain ⟨_, hy, hb⟩ := Except.bind_eq_ok.mp hb
  obtain ⟨_, hz, hb⟩ := Except.bind_eq_ok.mp hb
  obtain rfl := Except.ok.inj hb
  rw [require_eq_ok] at hy hz
  rw [BinRangeDef.weight, hy, hz]
  exact congrArg (· + 0 + 0) (weight_list KeepsCount.const _ _ hx)

theorem weight_measBinRangeItem : KeepsCount (kpmEncMeasBinRangeItem (R := R)) (MeasBinRangeInfo.weight w)
    (DistMeasurementBinRangeItem.weight w) := by
  intro m b hb
  obtain ⟨bins, hbins, hb⟩ := Except.bind_eq_ok.mp hb
  obtain rfl := Except.ok.inj hb
  exact congrArg₂ _ (weight_encMeasType m.measType) (weight_binRangeDef _ _ hbins)

theorem weight_measInfoCondItem :
    KeepsCount (encMeasInfoCondItem (R := R)) (MeasInfoFrm3.weight w) (MeasurementCondItem.weight w) := by
  intro m b hb
  obtain ⟨conds, hconds, hb⟩ := Except.bind_eq_ok.mp hb
  obtain ⟨bins, hbins, hb⟩ := Except.bind_eq_ok.mp hb
  obtain rfl := Except.ok.inj hb
  exact congrArg₂ _ (congrArg₂ _ (weight_encMeasType m.measType) (weight_list weight_matchingCond _ _ hconds))
    (weight_binRangeDef.mapOptional _ _ hbins)

theorem weight_ueIdGranPeriod :
    KeepsCount kpmEncUeIdGranPeriodAsn (UeIdGranPeriod.weight w) (MatchingUeidPerGpItem.weight w) := by
  intro p b hb
  cases p with
  | noneMatched v =>
    obtain rfl := Except.ok.inj hb
    rfl
  | oneOrMoreMatched ueLst =>
    obtain ⟨ueIds, hueIds, hb⟩ := Except.bind_eq_ok.mp hb
    obtain rfl := Except.ok.inj hb
    exact weight_list weight_encUeIdAsn _ _ hueIds

theorem weight_measInfoCondUeItem :
    KeepsCount (encMeasInfoCondUeItem (R := R)) (MeasInfoCondUe.weight w) (MeasurementCondUeidItem.weight w) := by
  intro m b hb
  obtain ⟨conds, hconds, hb⟩ := Except.bind_eq_ok.mp hb
  obtain ⟨ueIds, hueIds, hb⟩ := Except.bind_eq_ok.mp hb
  obtain ⟨perGp, hperGp, hb⟩ := Except.bind_eq_ok.mp hb
  obtain rfl := Except.ok.inj hb
  refine congrArg₂ _ (congrArg₂ _ ?_ (weight_nonempty weight_encUeIdAsn _ _ hueIds))
    (weight_nonempty weight_ueIdGranPeriod _ _ hperGp)
  exact congrArg₂ _ (weight_encMeasType m.measType) (weight_list weight_matchingCond _ _ hconds)

theorem weight_actDefFrm1 :
    KeepsCount (kpmEncActionDefFrm1Asn (R := R)) (ActDefFrm1.weight w) (ActionDefinitionFormat1.weight w) := by
  intro x b hb
  obtain ⟨infos, hinfos, hb⟩ := Except.bind_eq_ok.mp hb
  obtain ⟨period, -, hb⟩ := Except.bind_eq_ok.mp hb
  obtain ⟨cell, -, hb⟩ := Except.bind_eq_ok.mp hb
  obtain ⟨bins, hbins, hb⟩ := Except.bind_eq_ok.mp hb
  obtain rfl := Except.ok.inj hb
  exact congrArg₂ _ (weight_list weight_measInfoItem _ _ hinfos) (weight_nonempty weight_measBinRangeItem _ _ hbins)

theorem weight_indMsgFrm1 :
    KeepsCount (kpmEncIndMsgFrm1Asn (R := R)) (IndMsgFrm1.weight w) (IndicationMessageFormat1.weight w) := by
  intro x b hb
  obtain ⟨data, hdata, hb⟩ := Except.bind_eq_ok.mp hb
  obtain ⟨infos, hinfos, hb⟩ := Except.bind_eq_ok.mp hb
  obtain ⟨period, -, hb⟩ := Except.bind_eq_ok.mp hb
  obtain rfl := Except.ok.inj hb
  exact congrArg₂ _ (weight_list weight_measDataItem _ _ hdata) (weight_nonempty weight_measInfoItem _ _ hinfos)

theorem weight_indMsgFrm2 :
    KeepsCount (kpmEncIndMsgFrm2Asn (R := R)) (IndMsgFrm2.weight w) (IndicationMessageFormat2.weight w) := by
  intro x b hb
  obtain ⟨data, hdata, hb⟩ := Except.bind_eq_ok.mp hb
  obtain ⟨infos, hinfos, hb⟩ := Except.bind_eq_ok.mp hb
  obtain ⟨period, -, hb⟩ := Except.bind_eq_ok.mp hb
  obtain rfl := Except.ok.inj hb
  exact congrArg₂ _ (weight_list weight_measDataItem _ _ hdata) (weight_list weight_measInfoCondUeItem _ _ hinfos)

theorem weight_measReportPerUe :
    KeepsCount (encMeasReportPerUe (R := R)) (MeasReportPerUe.weight w) (UeMeasurementReportItem.weight w) := by
  intro x b hb
  obtain ⟨ueId, hueId, hb⟩ := Except.bind_eq_ok.mp hb
  obtain ⟨report, hreport, hb⟩ := Except.bind_eq_ok.mp hb
  obtain rfl := Except.ok.inj hb
  exact congrArg₂ _ (weight_encUeIdAsn _ _ hueId) (weight_indMsgFrm1 _ _ hreport)

theorem weight_indMsg : KeepsCount (encIndMsg (kpmParts R)) (IndMsg.weight w) (IndicationMessage.weight w) := by
  intro v b hb
  cases v with
  | frm1 x =>
    obtain ⟨a, ha, hb⟩ := Except.bind_eq_ok.mp hb
    obtain rfl := Except.ok.inj hb
    exact congrArg (w.message + ·) (weight_indMsgFrm1 _ _ ha)
  | frm2 x =>
    obtain ⟨a, ha, hb⟩ := Except.bind_eq_ok.mp hb
    obtain rfl := Except.ok.inj hb
    exact congrArg (w.message + ·) (weight_indMsgFrm2 _ _ ha)
  | frm3 x =>
    obtain ⟨a, ha, hb⟩ := Except.bind_eq_ok.mp hb
    obtain rfl := Except.ok.inj hb
    obtain ⟨reports, hreports, ha⟩ := Except.bind_eq_ok.mp ha
    obtain rfl := Except.ok.inj ha
    exact congrArg (w.message + ·) (weight_list weight_measReportPerUe _ _ hreports)

theorem weight_actDef : KeepsCount (encActionDef (kpmParts R)) (ActDef.weight w) (ActionDefinition.weight w) := by
  intro v b hb
  cases v with
  | frm1 x =>
    obtain ⟨a, ha, hb⟩ := Except.bind_eq_ok.mp hb
    obtain rfl := Except.ok.inj hb
    exact congrArg (w.message + ·) (weight_actDefFrm1 _ _ ha)
  | frm2 x =>
    obtain ⟨a, ha, hb⟩ := Except.bind_eq_ok.mp hb
    obtain rfl := Except.ok.inj hb
    obtain ⟨ueId, hueId, ha⟩ := Except.bind_eq_ok.mp ha
    obtain ⟨frm1, hfrm1, ha⟩ := Except.bind_eq_ok.mp ha
    obtain rfl := Except.ok.inj ha
    exact congrArg (w.message + ·) (congrArg₂ _ (weight_encUeIdAsn _ _ hueId) (weight_actDefFrm1 _ _ hfrm1))
  | frm3 x =>
    obtain ⟨a, ha, hb⟩ := Except.bind_eq_ok.mp hb
    obtain rfl := Except.ok.inj hb
    obtain ⟨infos, hinfos, ha⟩ := Except.bind_eq_ok.mp ha
    obtain ⟨period, -, ha⟩ := Except.bind_eq_ok.mp ha
    obtain ⟨cell, -, ha⟩ := Except.bind_eq_ok.mp ha
    obtain rfl := Except.ok.inj ha
    exact congrArg (w.message + ·) (weight_list weight_measInfoCondItem _ _ hinfos)
  | frm4 x =>
    obtain ⟨a, ha, hb⟩ := Except.bind_eq_ok.mp hb
    obtain rfl := Except.ok.inj hb
    obtain ⟨conds, hconds, ha⟩ := Except.bind_eq_ok.mp ha
    obtain ⟨frm1, hfrm1, ha⟩ := Except.bind_eq_ok.mp ha
    obtain rfl := Except.ok.inj ha
    exact congrArg (w.message + ·) (congrArg₂ _ (weight_list weight_matchingCondFrm4 _ _ hconds) (weight_actDefFrm1 _ _ hfrm1))
  | frm5 x =>
    obtain ⟨a, ha, hb⟩ := Except.bind_eq_ok.mp hb
    obtain rfl := Except.ok.inj hb
    obtain ⟨ueIds, hueIds, ha⟩ := Except.bind_eq_ok.mp ha
    obtain ⟨frm1, hfrm1, ha⟩ := Except.bind_eq_ok.mp ha
    obtain rfl := Except.ok.inj ha
    exact congrArg (w.message + ·) (congrArg₂ _ (weight_list weight_encUeIdAsn _ _ hueIds) (weight_actDefFrm1 _ _ hfrm1))

end Keeps

/-! ### What an encoder can fit into the buffer -/

section Fits
variable {V : Type} {d : Descriptor}

/-- Aligned PER spends a bit on each element of a list. -/
def SpendsABit (c : KpmCoder (AsnPart R)) (weight : Weights → AsnValue (AsnPart R) d → Nat) : Prop :=
  ∀ v bs, c.encode .alignedBasicPer d v = some bs → weight .bits v ≤ 8 * bs.length

/-- Aligned PER spends no more than `octets` on what a message has. -/
def SpendsAtMost (c : KpmCoder (AsnPart R)) (weight : Weights → AsnValue (AsnPart R) d → Nat) : Prop :=
  ∀ v bs, c.encode .alignedBasicPer d v = some bs → bs.length ≤ weight .octets v

/-- Of a value that is mapped to ASN.1: no encoder fits more than `8 * 2048` elements into the buffer, and every one
fits its encoding of a value that has no more than `octets` allows. -/
def Fits (enc : V → Except String (AsnValue (AsnPart R) d))
    (kpmEnc : KpmCoder (AsnPart R) → V → Except String (List UInt8)) (weight : Weights → V → Nat)
    (weightAsn : Weights → AsnValue (AsnPart R) d → Nat) : Prop :=
  ∀ c v pdu, enc v = .ok pdu →
    (SpendsABit c weightAsn → 16384 < weight .bits v → ¬∃ bs, kpmEnc c v = .ok bs) ∧
    (SpendsAtMost c weightAsn → weight .octets v ≤ 2048 →
      ∀ bs, c.encode .alignedBasicPer d pdu = some bs → kpmEnc c v = .ok bs)

theorem fits_of_keepsCount {enc : V → Except String (AsnValue (AsnPart R) d)} {weight : Weights → V → Nat}
    {weightAsn : Weights → AsnValue (AsnPart R) d → Nat} (h : ∀ w, KeepsCount enc (weight w) (weightAsn w)) :
    Fits enc (fun c v => enc v >>= fun pdu => c.encodeToBuffer .alignedBasicPer d pdu) weight weightAsn := by
  intro c v pdu hpdu
  have hok (bs : List UInt8) : (enc v >>= fun pdu => c.encodeToBuffer .alignedBasicPer d pdu) = .ok bs ↔
      c.encode .alignedBasicPer d pdu = some bs ∧ bs.length ≤ 2048 := by
    rw [hpdu, Except.ok_bind, AsnCoder.encodeToBuffer_eq_ok]
  constructor
  · rintro hspends hmany ⟨bs, hbs⟩
    obtain ⟨henc, hlen⟩ := (hok bs).mp hbs
    have hbits := hspends pdu bs henc
    rw [h .bits v pdu hpdu] at hbits
    omega
  · intro hspends hfew bs henc
    have hlen := hspends pdu bs henc
    rw [h .octets v pdu hpdu] at hlen
    exact (hok bs).mpr ⟨henc, hlen.trans hfew⟩

end Fits

/-- The encoders of indication messages and of action definitions -/
theorem kpm_buffers_fit (R : Type) :
    Fits (d := .indicationMessage) (encIndMsg (kpmParts R)) (kpmEncIndMsgAsn (kpmParts R)) IndMsg.weight
        IndicationMessage.weight ∧
      Fits (d := .actionDefinition) (encActionDef (kpmParts R)) (kpmEncActionDefAsn (kpmParts R)) ActDef.weight
        ActionDefinition.weight :=
  ⟨fits_of_keepsCount fun _ => weight_indMsg, fits_of_keepsCount fun _ => weight_actDef⟩

/-! ### Messages with many records -/

/-- A message of the first format with one measurement of so many records -/
def msgRecords (n : Nat) : IndMsg (IePart Nat) :=
  .frm1 (⟨[⟨List.replicate n .noValue, none⟩], [], none⟩ : IndMsgFrm1 Nat)

def msgRecordsAsn (n : Nat) : IndicationMessage (AsnPart Nat) :=
  .indicationMessageFormat1 (⟨[⟨List.replicate n .noValue, none⟩], none, none⟩ : IndicationMessageFormat1 Nat)

theorem encIndMsg_msgRecords {n : Nat} (h : oneTo maxnoofMeasurementValue n) :
    encIndMsg (kpmParts Nat) (msgRecords n) = .ok (msgRecordsAsn n) := by
  have hrecords : mapSized (oneTo maxnoofMeasurementValue) "Number of measures not allowed"
      (fun r : MeasRecord Nat => .ok (encMeasRecord r)) (List.replicate n .noValue) = .ok (List.replicate n .noValue) := by
    refine mapSized_eq_ok.mpr ⟨?_, Except.mapM_replicate rfl⟩
    rwa [List.length_replicate]
  have hdata : encMeasDataItem (R := Nat) ⟨List.replicate n .noValue, none⟩ = .ok ⟨List.replicate n .noValue, none⟩ := by
    rw [encMeasDataItem, hrecords]
    rfl
  have hmeas : kpmEncMeasDataAsn (R := Nat) [⟨List.replicate n .noValue, none⟩] =
      .ok [⟨List.replicate n .noValue, none⟩] := by
    rw [kpmEncMeasDataAsn, mapSized_eq_ok]
    refine ⟨⟨Nat.one_pos, by rw [List.length_singleton]; decide⟩, ?_⟩
    rw [List.mapM_cons, hdata]
    rfl
  show (kpmEncMeasDataAsn (R := Nat) [⟨List.replicate n .noValue, none⟩] >>= _) >>= _ = _
  rw [hmeas]
  rfl

theorem weight_msgRecords (w : Weights) (n : Nat) :
    (msgRecords n).weight w = w.message + (w.element + n * w.value) := by
  show w.message + (w.element + total _ (List.replicate n _) + 0 + 0) = _
  rw [total, List.map_replicate, List.sum_replicate_nat]
  rfl

/-- Aligned PER puts three bits for each record without a value, of which the second is set. -/
def noValueOctet (n i : Nat) : UInt8 :=
  (List.range 8).foldl (fun b j => 2 * b + if 8 * i + j < 3 * n ∧ (8 * i + j) % 3 = 1 then 1 else 0) 0

/-- What aligned PER puts for `msgRecordsAsn n` while the number of its records is a single octet: the choices and the
optional members, the number of measurements, the members of the only one, its number of records, and these. -/
def aperRecords (n : Nat) : List UInt8 :=
  [0, 0, 0, 0, UInt8.ofNat n] ++ (List.range ((3 * n + 7) / 8)).map (noValueOctet n)

/-- The aligned PER encoder, on these messages only -/
def recordsCoder : KpmCoder (AsnPart Nat) where
  encode
    | .alignedBasicPer, .indicationMessage, .indicationMessageFormat1 x =>
      match (x : IndicationMessageFormat1 Nat) with
      | ⟨[⟨records, none⟩], none, none⟩ =>
        if records = List.replicate records.length .noValue ∧ records.length < 128 then some (aperRecords records.length)
        else none
      | _ => none
    | _, _, _ => none
  decode _ _ _ := none

theorem recordsCoder_inv {v : IndicationMessage (AsnPart Nat)} {bs : List UInt8}
    (h : recordsCoder.encode .alignedBasicPer .indicationMessage v = some bs) :
    ∃ n < 128, v = msgRecordsAsn n ∧ bs = aperRecords n := by
  unfold recordsCoder at h
  simp only at h
  split at h
  case h_1 x _ =>
    split at h
    case h_1 records =>
      split at h
      case isTrue hrecords =>
        obtain ⟨hrecords, hlt⟩ := hrecords
        exact ⟨records.length, hlt, by rw [msgRecordsAsn, ← hrecords], (Option.some.inj h).symm⟩
      case isFalse => cases h
    case h_2 => cases h
  case h_2 => cases h

theorem weight_msgRecordsAsn (w : Weights) (n : Nat) :
    (msgRecordsAsn n).weight w = w.message + (w.element + n * w.value) := by
  show w.message + (w.element + total _ (List.replicate n _) + 0 + 0) = _
  rw [total, List.map_replicate, List.sum_replicate_nat]
  rfl

theorem length_aperRecords (n : Nat) : (aperRecords n).length = 5 + (3 * n + 7) / 8 := by
  rw [aperRecords, List.length_append, List.length_map, List.length_range]
  rfl

theorem recordsCoder_spendsABit : SpendsABit (d := .indicationMessage) recordsCoder IndicationMessage.weight := by
  intro v bs h
  obtain ⟨n, -, rfl, rfl⟩ := recordsCoder_inv h
  rw [weight_msgRecordsAsn, length_aperRecords]
  simp only [Weights.bits]
  omega

theorem recordsCoder_spendsAtMost : SpendsAtMost (d := .indicationMessage) recordsCoder IndicationMessage.weight := by
  intro v bs h
  obtain ⟨n, -, rfl, rfl⟩ := recordsCoder_inv h
  rw [weight_msgRecordsAsn, length_aperRecords]
  simp only [Weights.octets]
  omega

theorem encode_msgRecordsAsn {n : Nat} (h : n < 128) :
    recordsCoder.encode .alignedBasicPer .indicationMessage (msgRecordsAsn n) = some (aperRecords n) := by
  show (if _ then _ else _) = _
  rw [List.length_replicate, if_pos ⟨rfl, h⟩]

/-- Aligned PER fits fifty records into the buffer. -/
theorem fifty_records_fit :
    kpmEncIndMsgAsn (kpmParts Nat) recordsCoder (msgRecords 50) = .ok (aperRecords 50) := by
  have h := (kpm_buffers_fit Nat).1 recordsCoder (msgRecords 50) (msgRecordsAsn 50) (encIndMsg_msgRecords (by decide))
  exact h.2 recordsCoder_spendsAtMost (by rw [weight_msgRecords]; decide) _ (encode_msgRecordsAsn (by decide))

/-- The assertions about the lengths allow as many records as there are bits in the buffer, and more: no encoder can
fit these. -/
theorem records_do_not_fit : encIndMsg (kpmParts Nat) (msgRecords 16385) = .ok (msgRecordsAsn 16385) ∧
    SpendsABit (d := .indicationMessage) recordsCoder IndicationMessage.weight ∧
    ∀ c, SpendsABit (d := .indicationMessage) c IndicationMessage.weight →
      ¬∃ bs, kpmEncIndMsgAsn (kpmParts Nat) c (msgRecords 16385) = .ok bs := by
  have henc := encIndMsg_msgRecords (n := 16385) (by decide)
  have hfits : Fits (d := .indicationMessage) (encIndMsg (kpmParts Nat)) (kpmEncIndMsgAsn (kpmParts Nat)) IndMsg.weight
    IndicationMessage.weight := fits_of_keepsCount fun _ => weight_indMsg
  refine ⟨henc, recordsCoder_spendsABit, fun c hc => (hfits c _ _ henc).1 hc ?_⟩
  rw [weight_msgRecords]
  decide

end FlexRic.Sm.Kpm
