import FlexRic.Ue.Types

/-! # The measurements of the KPM service model

What indications and action definitions are made of (`kpm_data_ie/data`), and what the ASN.1 types have of it. The
floating-point numbers, which both sides only store, are of any type `R`. -/

namespace FlexRic.Sm.Kpm
open E2ap (E2apPlmn BitString)
open Ue (UeId UeIdAsn)

/-- `enum_value_e`; its last constant counts the others. -/
inductive EnumValue
  | true_
  | end_
  deriving DecidableEq, Repr

/-! ### Labels -/

/-- The members of `label_info_lst_t` and of `MeasurementLabel_t`. Of their types the enumerations `E`, the networks `P`
and the slices `S` differ. -/
structure LabelMembers (E P S : Type) where
  noLabel : Option E
  plmnId : Option P
  sliceId : Option S
  fiveQi : Option Nat
  qFi : Option Nat
  qCi : Option Nat
  qCimax : Option Nat
  qCimin : Option Nat
  aRPmax : Option Nat
  aRPmin : Option Nat
  bitrateRange : Option Nat
  layerMuMimo : Option Nat
  sUm : Option E
  distBinX : Option Nat
  distBinY : Option Nat
  distBinZ : Option Nat
  preLabelOverride : Option E
  startEndInd : Option Int
  min : Option E
  max : Option E
  avg : Option E
  ssbIndex : Option Nat
  nonGoBBeamformModeIndex : Option Nat
  mimoModeIndex : Option Nat
  deriving DecidableEq, Repr

namespace LabelMembers
variable {E P S : Type} (l : LabelMembers E P S)

/-- A member that the coders do not implement, and that both say so of -/
def hasNotImplemented : Bool :=
  l.sliceId.isSome || l.fiveQi.isSome || l.qFi.isSome || l.qCi.isSome || l.qCimax.isSome || l.qCimin.isSome ||
    l.aRPmax.isSome || l.aRPmin.isSome || l.bitrateRange.isSome || l.layerMuMimo.isSome || l.sUm.isSome ||
    l.distBinX.isSome || l.distBinY.isSome || l.distBinZ.isSome || l.preLabelOverride.isSome || l.startEndInd.isSome ||
    l.min.isSome || l.max.isSome

/-- One of the last three members -/
def hasIndex : Bool := l.ssbIndex.isSome || l.nonGoBBeamformModeIndex.isSome || l.mimoModeIndex.isSome

end LabelMembers

/-- `S_NSSAI_t` of the code -/
structure SNssai where
  sST : UInt8
  sD : List (Option UInt8)
  deriving DecidableEq, Repr

/-- `S_NSSAI_t` of ASN.1 -/
structure SNssaiAsn where
  sST : List UInt8
  sD : Option (List UInt8)
  deriving DecidableEq, Repr

/-- `label_info_lst_t` -/
abbrev LabelInfo := LabelMembers EnumValue E2apPlmn SNssai

/-- `MeasurementLabel_t` -/
abbrev MeasurementLabel := LabelMembers Int (List UInt8) SNssaiAsn

/-- A structure with the members that are implemented, and zeroes for the others -/
def LabelMembers.only {E P S : Type} (noLabel : Option E) (plmnId : Option P) (avg : Option E) : LabelMembers E P S :=
  ⟨noLabel, plmnId, none, none, none, none, none, none, none, none, none, none, none, none, none, none, none, none, none,
    none, avg, none, none, none⟩

/-! ### The values of the code -/

/-- `meas_type_t`; the third type is refused. -/
inductive MeasType
  | name (name : List UInt8)
  | id (id : UInt16)
  deriving DecidableEq, Repr

/-- `meas_info_format_1_lst_t` -/
structure MeasInfoFrm1 where
  measType : MeasType
  labelInfoLst : List LabelInfo
  deriving DecidableEq, Repr

/-- `test_cond_type_e` -/
inductive TestCondType
  | gbr
  | ambr
  | isStat
  | isCatM
  | dlRsrp
  | dlRsrq
  | ulRsrp
  | cqi
  | fiveQi
  | qci
  | sNssai
  deriving DecidableEq, Repr

/-- `test_cond_e` -/
inductive TestCond
  | equal
  | greaterthan
  | lessthan
  | contains
  | present
  | end_
  deriving DecidableEq, Repr

/-- `test_cond_value_e` with the value that it says is there -/
inductive TestCondValue (R : Type)
  | integer (v : Int)
  | enumerated (v : Int)
  | boolean (v : Bool)
  | bitString (v : List UInt8)
  | octetString (v : List UInt8)
  | printableString (v : List UInt8)
  | real (v : R)
  | end_
  deriving DecidableEq, Repr

/-- `test_info_lst_t`. All members of its first union are one `cond_type_e`, a number that nothing is asserted of. -/
structure TestInfo (R : Type) where
  testCondType : TestCondType
  condType : Int
  testCond : Option TestCond
  testCondValue : Option (TestCondValue R)
  deriving DecidableEq, Repr

/-- The union of `matching_condition_format_3_lst_t` -/
inductive LabelOrTest (R : Type)
  | labelInfo (labelInfoLst : LabelInfo)
  | testInfo (testInfoLst : TestInfo R)
  deriving DecidableEq, Repr

/-- `matching_condition_format_3_lst_t` -/
structure MatchingCondFrm3 (R : Type) where
  cond : LabelOrTest R
  logicalOr : Option EnumValue
  deriving DecidableEq, Repr

/-- `matching_condition_format_4_lst_t` -/
structure MatchingCondFrm4 (R : Type) where
  testInfoLst : TestInfo R
  logicalOr : Option EnumValue
  deriving DecidableEq, Repr

/-- `bin_range_value_t`; nothing is asserted of its type. -/
inductive BinRangeVal (R : Type)
  | integer (intValue : UInt64)
  | real (realValue : R)
  | end_
  deriving DecidableEq, Repr

/-- `bin_distr_t` -/
structure BinDistr (R : Type) where
  binIndex : UInt16
  startValue : BinRangeVal R
  endValue : BinRangeVal R
  deriving DecidableEq, Repr

/-- `bin_range_def_t`; a list is `NULL` when it has no elements. -/
structure BinRangeDef (R : Type) where
  binXLst : List (BinDistr R)
  binYLst : List (BinDistr R)
  binZLst : List (BinDistr R)
  deriving DecidableEq, Repr

/-- `meas_bin_range_info_lst_t` -/
structure MeasBinRangeInfo (R : Type) where
  measType : MeasType
  binRangeDef : BinRangeDef R
  deriving DecidableEq, Repr

/-- `meas_info_format_3_lst_t` -/
structure MeasInfoFrm3 (R : Type) where
  measType : MeasType
  matchingCondLst : List (MatchingCondFrm3 R)
  binRangeDef : Option (BinRangeDef R)
  deriving DecidableEq, Repr

/-- `meas_record_lst_t` -/
inductive MeasRecord (R : Type)
  | integer (intVal : UInt32)
  | real (realVal : R)
  | noValue
  deriving DecidableEq, Repr

/-- `meas_data_lst_t` -/
structure MeasData (R : Type) where
  measRecordLst : List (MeasRecord R)
  incompleteFlag : Option EnumValue
  deriving DecidableEq, Repr

/-- `ue_id_gran_period_lst_t` -/
inductive UeIdGranPeriod
  | noneMatched (noMatchedUe : EnumValue)
  | oneOrMoreMatched (matchedUeLst : List UeId)
  deriving DecidableEq, Repr

/-- `meas_info_cond_ue_lst_t` -/
structure MeasInfoCondUe (R : Type) where
  measType : MeasType
  matchingCondLst : List (MatchingCondFrm3 R)
  ueIdMatchedLst : List UeId
  ueIdGranPeriodLst : List UeIdGranPeriod
  deriving DecidableEq, Repr

/-- `cell_global_id_t` -/
inductive CellGlobalId
  | nrCgi (plmnId : E2apPlmn) (nrCellId : Nat)
  | eutra (plmnId : E2apPlmn) (eutraCellId : Nat)
  deriving DecidableEq, Repr

/-! ### The values of the ASN.1 types -/

/-- `MeasurementType_t` -/
inductive MeasurementType
  | nothing
  | measName (measName : List UInt8)
  | measId (measId : Int)
  deriving DecidableEq, Repr

/-- `MeasurementInfoItem_t` -/
structure MeasurementInfoItem where
  measType : MeasurementType
  labelInfoList : List MeasurementLabel
  deriving DecidableEq, Repr

/-- `TestCond_Value_t` -/
inductive TestCondValueAsn (R : Type)
  | nothing
  | valueInt (v : Int)
  | valueEnum (v : Int)
  | valueBool (v : Bool)
  | valueBitS (v : BitString)
  | valueOctS (v : List UInt8)
  | valuePrtS (v : List UInt8)
  | valueReal (v : R)
  deriving DecidableEq, Repr

/-- `TestCondInfo_t`, with which member of its first choice is present -/
structure TestCondInfo (R : Type) where
  testType : Option (TestCondType × Int)
  testExpr : Option Int
  testValue : Option (TestCondValueAsn R)
  deriving DecidableEq, Repr

/-- `MatchingCondItem_Choice_t` -/
inductive MatchingCondItemChoice (R : Type)
  | nothing
  | measLabel (measLabel : MeasurementLabel)
  | testCondInfo (testCondInfo : TestCondInfo R)
  deriving DecidableEq, Repr

/-- `MatchingCondItem_t` -/
structure MatchingCondItem (R : Type) where
  matchingCondChoice : MatchingCondItemChoice R
  logicalOr : Option Int
  deriving DecidableEq, Repr

/-- `MatchingUeCondPerSubItem_t` -/
structure MatchingUeCondPerSubItem (R : Type) where
  testCondInfo : TestCondInfo R
  logicalOr : Option Int
  deriving DecidableEq, Repr

/-- `BinRangeValue_t` -/
inductive BinRangeValue (R : Type)
  | nothing
  | valueInt (valueInt : Int)
  | valueReal (valueReal : R)
  deriving DecidableEq, Repr

/-- `BinRangeItem_t` -/
structure BinRangeItem (R : Type) where
  binIndex : Nat
  startValue : BinRangeValue R
  endValue : BinRangeValue R
  deriving DecidableEq, Repr

/-- `BinRangeDefinition_t` -/
structure BinRangeDefinition (R : Type) where
  binRangeListX : List (BinRangeItem R)
  binRangeListY : Option (List (BinRangeItem R))
  binRangeListZ : Option (List (BinRangeItem R))
  deriving DecidableEq, Repr

/-- `DistMeasurementBinRangeItem_t` -/
structure DistMeasurementBinRangeItem (R : Type) where
  measType : MeasurementType
  binRangeDef : BinRangeDefinition R
  deriving DecidableEq, Repr

/-- `MeasurementCondItem_t` -/
structure MeasurementCondItem (R : Type) where
  measType : MeasurementType
  matchingCond : List (MatchingCondItem R)
  binRangeDef : Option (BinRangeDefinition R)
  deriving DecidableEq, Repr

/-- `MeasurementRecordItem_t` -/
inductive MeasurementRecordItem (R : Type)
  | nothing
  | integer (integer : Nat)
  | real (real : R)
  | noValue
  deriving DecidableEq, Repr

/-- `MeasurementDataItem_t` -/
structure MeasurementDataItem (R : Type) where
  measRecord : List (MeasurementRecordItem R)
  incompleteFlag : Option Int
  deriving DecidableEq, Repr

/-- `MatchingUEidPerGP_Item_t` -/
inductive MatchingUeidPerGpItem
  | nothing
  | noUeMatched
  | oneOrMoreUeMatched (ueIds : List UeIdAsn)
  deriving DecidableEq, Repr

/-- `MeasurementCondUEidItem_t` -/
structure MeasurementCondUeidItem (R : Type) where
  measType : MeasurementType
  matchingCond : List (MatchingCondItem R)
  matchingUeidList : Option (List UeIdAsn)
  matchingUeidPerGp : Option (List MatchingUeidPerGpItem)
  deriving DecidableEq, Repr

/-- `CGI_t` -/
inductive Cgi
  | nothing
  | nrCgi (plmnIdentity : List UInt8) (nrCellIdentity : BitString)
  | eutraCgi (plmnIdentity : List UInt8) (eutraCellIdentity : BitString)
  deriving DecidableEq, Repr

end FlexRic.Sm.Kpm
