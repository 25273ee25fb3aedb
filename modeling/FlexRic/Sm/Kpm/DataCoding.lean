import FlexRic.Sm.Kpm.Data
import FlexRic.Sm.Kpm.FuncDef
import FlexRic.Ue.Coding

/-! # The measurements of the KPM service model in ASN.1

The functions of `enc_asn_kpm_common` and `dec_asn_kpm_common`, and those for the identity of a cell. -/

namespace FlexRic.Sm.Kpm
open E2ap (E2apPlmn encPlmn decPlmn BitString)
open Ue (UeId UeIdAsn encUeIdAsn decUeIdAsn)
open Util

variable {R : Type}

/-! ### The constants of the ASN.1 types -/

def minValGranularityPeriod : Nat := 1
def maxValGranularityPeriod : Nat := 4294967295
def maxnoofLabelInfo : Nat := 2147483647
def maxnoofMeasurementRecord : Nat := 65535
def maxnoofMeasurementValue : Nat := 2147483647
def maxnoofConditionInfo : Nat := 32768
def maxnoofUeid : Nat := 65535
def maxnoofBin : Nat := 65535

/-! ### To ASN.1 -/

/-- An enumeration with only one value -/
def encEnumValue (v : EnumValue) : Except String Int := do
  require (v = .true_) "has only one value (true)"
  return 0

def encMeasType : MeasType → MeasurementType
  | .name name => .measName name
  | .id id => .measId id.toNat

def encGranPeriod (ms : UInt32) : Except String Nat := do
  require (minValGranularityPeriod ≤ ms.toNat ∧ ms.toNat < maxValGranularityPeriod + 1)
    "granulPeriod >= min_val_GranularityPeriod && granulPeriod <= max_val_GranularityPeriod"
  return ms.toNat

/-- No other label is sent with `noLabel`; the last three are never sent. -/
def kpmEncLabelInfoAsn (l : LabelInfo) : Except String MeasurementLabel :=
  match l.noLabel with
  | some v => do
    let noLabel ← encEnumValue v
    return .only (some noLabel) none none
  | none => do
    require (l.hasNotImplemented = false) "not implemented"
    let avg ← mapOptional encEnumValue l.avg
    return .only none (l.plmnId.map encPlmn) avg

def encMeasInfoItem (m : MeasInfoFrm1) : Except String MeasurementInfoItem := do
  let labels ← mapSized (oneTo maxnoofLabelInfo) "Number of labels not allowed" kpmEncLabelInfoAsn m.labelInfoLst
  return ⟨encMeasType m.measType, labels⟩

def kpmEncMeasInfoAsn : List MeasInfoFrm1 → Except String (List MeasurementInfoItem) :=
  mapSized (oneTo maxnoofMeasurementInfo) "Number of measures not allowed" encMeasInfoItem

/-- The constants `TestCond_Expression_*` -/
def encTestCond : TestCond → Except String Int
  | .equal => return 0
  | .greaterthan => return 1
  | .lessthan => return 2
  | .contains => return 3
  | .present => return 4
  | .end_ => throw "Unknown test condition enum type"

def encTestCondValue : TestCondValue R → Except String (TestCondValueAsn R)
  | .integer v => return .valueInt v
  | .enumerated v => return .valueEnum v
  | .boolean v => return .valueBool v
  | .bitString _ => throw "Bit string not implemented"
  | .octetString v => return .valueOctS v
  | .printableString v => return .valuePrtS v
  | .real v => return .valueReal v
  | .end_ => throw "Unknown value"

def kpmEncTestInfoAsn (t : TestInfo R) : Except String (TestCondInfo R) := do
  let testExpr ← mapOptional encTestCond t.testCond
  let testValue ← mapOptional encTestCondValue t.testCondValue
  return ⟨some (t.testCondType, t.condType), testExpr, testValue⟩

def encLabelOrTest : LabelOrTest R → Except String (MatchingCondItemChoice R)
  | .labelInfo l => return .measLabel (← kpmEncLabelInfoAsn l)
  | .testInfo t => return .testCondInfo (← kpmEncTestInfoAsn t)

def kpmEncMatchingCondAsn (m : MatchingCondFrm3 R) : Except String (MatchingCondItem R) := do
  let choice ← encLabelOrTest m.cond
  let logicalOr ← mapOptional encEnumValue m.logicalOr
  return ⟨choice, logicalOr⟩

def kpmEncMatchingCondFrm4Asn (m : MatchingCondFrm4 R) : Except String (MatchingUeCondPerSubItem R) := do
  let testCondInfo ← kpmEncTestInfoAsn m.testInfoLst
  require (m.logicalOr = none) "Encryption of logical OR not yet implemented"
  return ⟨testCondInfo, none⟩

/-- Four bytes of the number are copied. -/
def encBinRangeValue : BinRangeVal R → BinRangeValue R
  | .integer v => .valueInt ((v.toNat % 4294967296 : Nat) : Int)
  | .real v => .valueReal v
  | .end_ => .nothing

def encBinRangeItem (b : BinDistr R) : BinRangeItem R :=
  ⟨b.binIndex.toNat, encBinRangeValue b.startValue, encBinRangeValue b.endValue⟩

def kpmEncBinRangeDef (b : BinRangeDef R) : Except String (BinRangeDefinition R) := do
  let x ← mapSized (oneTo maxnoofBin) "bin_x_lst_len >= 1 && bin_x_lst_len <= maxnoofBin"
    (fun b => .ok (encBinRangeItem b)) b.binXLst
  require (b.binYLst = []) "Not yet implemented"
  require (b.binZLst = []) "Not yet implemented"
  return ⟨x, none, none⟩

def kpmEncMeasBinRangeItem (m : MeasBinRangeInfo R) : Except String (DistMeasurementBinRangeItem R) := do
  let binRangeDef ← kpmEncBinRangeDef m.binRangeDef
  return ⟨encMeasType m.measType, binRangeDef⟩

def encMatchingConds : List (MatchingCondFrm3 R) → Except String (List (MatchingCondItem R)) :=
  mapSized (oneTo maxnoofConditionInfo) "matching_cond_lst_len <= maxnoofConditionInfo && matching_cond_lst_len >= 1"
    kpmEncMatchingCondAsn

def encMeasInfoCondItem (m : MeasInfoFrm3 R) : Except String (MeasurementCondItem R) := do
  let matchingCond ← encMatchingConds m.matchingCondLst
  let binRangeDef ← mapOptional kpmEncBinRangeDef m.binRangeDef
  return ⟨encMeasType m.measType, matchingCond, binRangeDef⟩

/-- `kpm_enc_meas_info_cond_asn` -/
def kpmEncMeasInfoCondAsn : List (MeasInfoFrm3 R) → Except String (List (MeasurementCondItem R)) :=
  mapSized (oneTo maxnoofMeasurementInfo) "Number of measures not allowed" encMeasInfoCondItem

def encMeasRecord : MeasRecord R → MeasurementRecordItem R
  | .integer v => .integer v.toNat
  | .real v => .real v
  | .noValue => .noValue

def encMeasDataItem (m : MeasData R) : Except String (MeasurementDataItem R) := do
  let measRecord ← mapSized (oneTo maxnoofMeasurementValue) "Number of measures not allowed"
    (fun r => .ok (encMeasRecord r)) m.measRecordLst
  let incompleteFlag ← mapOptional encEnumValue m.incompleteFlag
  return ⟨measRecord, incompleteFlag⟩

def kpmEncMeasDataAsn : List (MeasData R) → Except String (List (MeasurementDataItem R)) :=
  mapSized (oneTo maxnoofMeasurementRecord) "Number of measures not allowed" encMeasDataItem

def kpmEncUeIdGranPeriodAsn : UeIdGranPeriod → Except String MatchingUeidPerGpItem
  | .noneMatched _ => return .noUeMatched
  | .oneOrMoreMatched ueLst => do
    let ueIds ← mapSized (oneTo maxnoofUeid) "ue_lst_len >=1 && ue_lst_len <= maxnoofUEID" encUeIdAsn ueLst
    return .oneOrMoreUeMatched ueIds

def encMeasInfoCondUeItem (m : MeasInfoCondUe R) : Except String (MeasurementCondUeidItem R) := do
  let matchingCond ← encMatchingConds m.matchingCondLst
  let ueIds ← mapNonempty (oneTo maxnoofUeid) "ue_id_matched_lst_len >= 1 && ue_id_matched_lst_len <= maxnoofUEID"
    encUeIdAsn m.ueIdMatchedLst
  let perGp ← mapNonempty (oneTo maxnoofUeid)
    "ue_id_gran_period_lst_len >=1 && ue_id_gran_period_lst_len <= maxnoofUEID" kpmEncUeIdGranPeriodAsn m.ueIdGranPeriodLst
  return ⟨encMeasType m.measType, matchingCond, ueIds, perGp⟩

def kpmEncMeasInfoCondUeAsn : List (MeasInfoCondUe R) → Except String (List (MeasurementCondUeidItem R)) :=
  mapSized (oneTo maxnoofMeasurementInfo) "Number of measures not allowed" encMeasInfoCondUeItem

/-- `enc_cell_global_id_asn` -/
def encCellGlobalIdAsn : CellGlobalId → Except String Cgi
  | .nrCgi plmnId nrCellId => return .nrCgi (encPlmn plmnId) (← cpNrCellIdToBitString nrCellId)
  | .eutra plmnId eutraCellId => return .eutraCgi (encPlmn plmnId) (← cpEutraCellIdToBitString eutraCellId)

/-! ### From ASN.1 -/

def decEnumValue (v : Int) : Except String EnumValue := do
  require (v = 0) "has only one value (true)"
  return .true_

def decMeasType : MeasurementType → Except String MeasType
  | .measName name => return .name name
  | .measId id => return .id (UInt16.ofInt id)
  | .nothing => throw "Unknown Measurement Type"

def decGranPeriod (ms : Nat) : Except String UInt32 := do
  require (minValGranularityPeriod ≤ (UInt32.ofNat ms).toNat ∧ (UInt32.ofNat ms).toNat < maxValGranularityPeriod + 1)
    "gran_period_ms >= min_val_GranularityPeriod && gran_period_ms <= max_val_GranularityPeriod"
  return UInt32.ofNat ms

/-- Of the enumerations nothing but their presence is read. -/
def kpmDecLabelInfoAsn (l : MeasurementLabel) : Except String LabelInfo := do
  require (l.hasNotImplemented = false) "not implemented"
  return .only (l.noLabel.map fun _ => .true_) (l.plmnId.map decPlmn) (l.avg.map fun _ => .true_)

def decMeasInfoItem (m : MeasurementInfoItem) : Except String MeasInfoFrm1 := do
  let measType ← decMeasType m.measType
  let labels ← mapSized (oneTo maxnoofLabelInfo) "Number of labels not allowed" kpmDecLabelInfoAsn m.labelInfoList
  return ⟨measType, labels⟩

/-- The caller looks at the length of the list. -/
def kpmDecMeasInfoAsn : List MeasurementInfoItem → Except String (List MeasInfoFrm1) := List.mapM decMeasInfoItem

def decTestCond (v : Int) : Except String TestCond :=
  if v = 0 then return .equal
  else if v = 1 then return .greaterthan
  else if v = 2 then return .lessthan
  else if v = 3 then return .contains
  else if v = 4 then return .present
  else throw "Unknown test condition enum type"

def decTestCondValue : TestCondValueAsn R → Except String (TestCondValue R)
  | .valueInt v => return .integer v
  | .valueEnum v => return .enumerated v
  | .valueBool v => return .boolean v
  | .valueBitS _ => throw "Not implemented"
  | .valueOctS v => return .octetString v
  | .valuePrtS v => return .printableString v
  | .valueReal v => return .real v
  | .nothing => throw "Unknown type"

def kpmDecTestInfoAsn (t : TestCondInfo R) : Except String (TestInfo R) :=
  match t.testType with
  | some (testCondType, condType) => do
    let testCond ← mapOptional decTestCond t.testExpr
    let testCondValue ← mapOptional decTestCondValue t.testValue
    return ⟨testCondType, condType, testCond, testCondValue⟩
  | none => throw "Condition type out of the range"

def decLabelOrTest : MatchingCondItemChoice R → Except String (LabelOrTest R)
  | .measLabel l => return .labelInfo (← kpmDecLabelInfoAsn l)
  | .testCondInfo t => return .testInfo (← kpmDecTestInfoAsn t)
  | .nothing => throw "Condition type out of the range"

def kpmDecMatchingCondAsn (m : MatchingCondItem R) : Except String (MatchingCondFrm3 R) := do
  let cond ← decLabelOrTest m.matchingCondChoice
  let logicalOr ← mapOptional decEnumValue m.logicalOr
  return ⟨cond, logicalOr⟩

def kpmDecMatchingCondFrm4Asn (m : MatchingUeCondPerSubItem R) : Except String (MatchingCondFrm4 R) := do
  let testInfoLst ← kpmDecTestInfoAsn m.testCondInfo
  return ⟨testInfoLst, none⟩

/-- What is not there is left a zero. -/
def decBinRangeValue : BinRangeValue R → BinRangeVal R
  | .valueInt v => .integer (UInt64.ofNat (v % 4294967296).toNat)
  | .valueReal v => .real v
  | .nothing => .integer 0

def decBinRangeItem (b : BinRangeItem R) : BinDistr R :=
  ⟨UInt16.ofNat b.binIndex, decBinRangeValue b.startValue, decBinRangeValue b.endValue⟩

def kpmDecBinRangeDef (b : BinRangeDefinition R) : Except String (BinRangeDef R) := do
  let x ← mapSized (oneTo maxnoofBin) "bin_x_lst_len >= 1 && bin_x_lst_len <= maxnoofBin"
    (fun b => .ok (decBinRangeItem b)) b.binRangeListX
  require (b.binRangeListY.isNone) "Not yet implemented"
  require (b.binRangeListZ.isNone) "Not yet implemented"
  return ⟨x, [], []⟩

def kpmDecMeasBinRangeItem (m : DistMeasurementBinRangeItem R) : Except String (MeasBinRangeInfo R) := do
  let measType ← decMeasType m.measType
  let binRangeDef ← kpmDecBinRangeDef m.binRangeDef
  return ⟨measType, binRangeDef⟩

def decMatchingConds : List (MatchingCondItem R) → Except String (List (MatchingCondFrm3 R)) :=
  mapSized (oneTo maxnoofConditionInfo) "matching_cond_lst_len >= 1 && matching_cond_lst_len <= maxnoofConditionInfo"
    kpmDecMatchingCondAsn

/-- The bin range definition is read whether it is there or not. -/
def decMeasInfoCondItem (m : MeasurementCondItem R) : Except String (MeasInfoFrm3 R) := do
  let measType ← decMeasType m.measType
  let matchingCondLst ← decMatchingConds m.matchingCond
  match m.binRangeDef with
  | some binRangeDef => return ⟨measType, matchingCondLst, some (← kpmDecBinRangeDef binRangeDef)⟩
  | none => throw "read from NULL"

/-- `kpm_dec_meas_info_cond_asn` with the assertion of its caller -/
def kpmDecMeasInfoCondAsn : List (MeasurementCondItem R) → Except String (List (MeasInfoFrm3 R)) :=
  mapSized (oneTo maxnoofMeasurementInfo) "Number of measures not allowed" decMeasInfoCondItem

def decMeasRecord : MeasurementRecordItem R → Except String (MeasRecord R)
  | .integer v => return .integer (UInt32.ofNat v)
  | .real v => return .real v
  | .noValue => return .noValue
  | .nothing => throw "Non valid Measurement Record type"

def decMeasDataItem (m : MeasurementDataItem R) : Except String (MeasData R) := do
  let measRecordLst ← mapSized (oneTo maxnoofMeasurementValue)
    "meas_record_len >= 1 && meas_record_len <= maxnoofMeasurementValue" decMeasRecord m.measRecord
  let incompleteFlag ← mapOptional decEnumValue m.incompleteFlag
  return ⟨measRecordLst, incompleteFlag⟩

/-- `kpm_dec_meas_data_asn` with the assertion of its callers -/
def kpmDecMeasDataAsn : List (MeasurementDataItem R) → Except String (List (MeasData R)) :=
  mapSized (oneTo maxnoofMeasurementRecord) "meas_data_lst_len >= 1 && meas_data_lst_len <= maxnoofMeasurementRecord"
    decMeasDataItem

def decUeIdGranPeriod : MatchingUeidPerGpItem → Except String UeIdGranPeriod
  | .noUeMatched => return .noneMatched .true_
  | .oneOrMoreUeMatched ueIds => do
    let ueLst ← mapSized (oneTo maxnoofUeid) "ue_lst_len >= 1 && ue_lst_len <= maxnoofUEID" decUeIdAsn ueIds
    return .oneOrMoreMatched ueLst
  | .nothing => throw "Unknown case"

def decMeasInfoCondUeItem (m : MeasurementCondUeidItem R) : Except String (MeasInfoCondUe R) := do
  let measType ← decMeasType m.measType
  let matchingCondLst ← decMatchingConds m.matchingCond
  let ueIdMatchedLst ← mapListed (oneTo maxnoofUeid)
    "ue_id_matched_lst_len >= 1 && ue_id_matched_lst_len <= maxnoofUEID" decUeIdAsn m.matchingUeidList
  let ueIdGranPeriodLst ← mapListed (oneTo maxnoofUeid)
    "ue_id_gran_period_lst_len >=1 && ue_id_gran_period_lst_len <= maxnoofUEID" decUeIdGranPeriod m.matchingUeidPerGp
  return ⟨measType, matchingCondLst, ueIdMatchedLst, ueIdGranPeriodLst⟩

/-- `kpm_dec_meas_info_cond_ue_asn` with the assertion of its caller -/
def kpmDecMeasInfoCondUeAsn : List (MeasurementCondUeidItem R) → Except String (List (MeasInfoCondUe R)) :=
  mapSized (oneTo maxnoofMeasurementInfo)
    "meas_info_cond_ue_lst_len >= 1 && meas_info_cond_ue_lst_len <= maxnoofMeasurementInfo" decMeasInfoCondUeItem

/-- `dec_cell_global_id_asn` -/
def decCellGlobalIdAsn : Cgi → Except String CellGlobalId
  | .nrCgi plmnIdentity nrCellIdentity => return .nrCgi (decPlmn plmnIdentity) (← cpNrCellIdToU64 nrCellIdentity)
  | .eutraCgi plmnIdentity eutraCellIdentity =>
    return .eutra (decPlmn plmnIdentity) (← cpEutraCellIdToU32 eutraCellIdentity)
  | .nothing => throw "cell_global_id_asn->present == CGI_PR_nR_CGI || cell_global_id_asn->present == CGI_PR_eUTRA_CGI"

end FlexRic.Sm.Kpm
