import FlexRic.Sm.Kpm.Coding
import FlexRic.Sm.Kpm.DataCoding

/-! # The formats of the KPM service model

The formats of event triggers, action definitions and indications, on both sides, with the functions of `enc_asn` and
`dec_asn` that map one to the other. -/

namespace FlexRic.Sm.Kpm
open Plain (leBytes leNat)
open Ue (UeId UeIdAsn encUeIdAsn decUeIdAsn)

variable {R : Type}

/-! ### The values of the code -/

/-- `kpm_ric_event_trigger_format_1_t` -/
structure EventTriggerFrm1 where
  reportPeriodMs : UInt32
  deriving DecidableEq, Repr

/-- `kpm_act_def_format_1_t` -/
structure ActDefFrm1 (R : Type) where
  measInfoLst : List MeasInfoFrm1
  granPeriodMs : UInt32
  cellGlobalId : Option CellGlobalId
  measBinInfoLst : List (MeasBinRangeInfo R)
  deriving DecidableEq, Repr

/-- `kpm_act_def_format_2_t` -/
structure ActDefFrm2 (R : Type) where
  ueId : UeId
  actionDefFormat1 : ActDefFrm1 R
  deriving DecidableEq, Repr

/-- `kpm_act_def_format_3_t` -/
structure ActDefFrm3 (R : Type) where
  measInfoLst : List (MeasInfoFrm3 R)
  granPeriodMs : UInt32
  cellGlobalId : Option CellGlobalId
  deriving DecidableEq, Repr

/-- `kpm_act_def_format_4_t` -/
structure ActDefFrm4 (R : Type) where
  matchingCondLst : List (MatchingCondFrm4 R)
  actionDefFormat1 : ActDefFrm1 R
  deriving DecidableEq, Repr

/-- `kpm_act_def_format_5_t` -/
structure ActDefFrm5 (R : Type) where
  ueIdLst : List UeId
  actionDefFormat1 : ActDefFrm1 R
  deriving DecidableEq, Repr

/-- `kpm_ric_ind_hdr_format_1_t` -/
structure IndHdrFrm1 where
  collectStartTime : UInt64
  fileformatVersion : Option (List UInt8)
  senderName : Option (List UInt8)
  senderType : Option (List UInt8)
  vendorName : Option (List UInt8)
  deriving DecidableEq, Repr

/-- `kpm_ind_msg_format_1_t` -/
structure IndMsgFrm1 (R : Type) where
  measDataLst : List (MeasData R)
  measInfoLst : List MeasInfoFrm1
  granPeriodMs : Option UInt32
  deriving DecidableEq, Repr

/-- `kpm_ind_msg_format_2_t` -/
structure IndMsgFrm2 (R : Type) where
  measDataLst : List (MeasData R)
  measInfoCondUeLst : List (MeasInfoCondUe R)
  granPeriodMs : Option UInt32
  deriving DecidableEq, Repr

/-- `meas_report_per_ue_t` -/
structure MeasReportPerUe (R : Type) where
  ueMeasReportLst : UeId
  indMsgFormat1 : IndMsgFrm1 R
  deriving DecidableEq, Repr

/-- `kpm_ind_msg_format_3_t` -/
structure IndMsgFrm3 (R : Type) where
  measReportPerUe : List (MeasReportPerUe R)
  deriving DecidableEq, Repr

/-! ### The values of the ASN.1 types -/

/-- `E2SM_KPM_EventTriggerDefinition_Format1_t` -/
structure EventTriggerDefinitionFormat1 where
  reportingPeriod : Nat
  deriving DecidableEq, Repr

/-- `E2SM_KPM_ActionDefinition_Format1_t` -/
structure ActionDefinitionFormat1 (R : Type) where
  measInfoList : List MeasurementInfoItem
  granulPeriod : Nat
  cellGlobalId : Option Cgi
  distMeasBinRangeInfo : Option (List (DistMeasurementBinRangeItem R))
  deriving DecidableEq, Repr

/-- `E2SM_KPM_ActionDefinition_Format2_t` -/
structure ActionDefinitionFormat2 (R : Type) where
  ueId : UeIdAsn
  subscriptInfo : ActionDefinitionFormat1 R
  deriving DecidableEq, Repr

/-- `E2SM_KPM_ActionDefinition_Format3_t` -/
structure ActionDefinitionFormat3 (R : Type) where
  measCondList : List (MeasurementCondItem R)
  granulPeriod : Nat
  cellGlobalId : Option Cgi
  deriving DecidableEq, Repr

/-- `E2SM_KPM_ActionDefinition_Format4_t` -/
structure ActionDefinitionFormat4 (R : Type) where
  matchingUeCondList : List (MatchingUeCondPerSubItem R)
  subscriptionInfo : ActionDefinitionFormat1 R
  deriving DecidableEq, Repr

/-- `E2SM_KPM_ActionDefinition_Format5_t` -/
structure ActionDefinitionFormat5 (R : Type) where
  matchingUeidList : List UeIdAsn
  subscriptionInfo : ActionDefinitionFormat1 R
  deriving DecidableEq, Repr

/-- `E2SM_KPM_IndicationHeader_Format1_t` -/
structure IndicationHeaderFormat1 where
  colletStartTime : List UInt8
  fileFormatversion : Option (List UInt8)
  senderName : Option (List UInt8)
  senderType : Option (List UInt8)
  vendorName : Option (List UInt8)
  deriving DecidableEq, Repr

/-- `E2SM_KPM_IndicationMessage_Format1_t` -/
structure IndicationMessageFormat1 (R : Type) where
  measData : List (MeasurementDataItem R)
  measInfoList : Option (List MeasurementInfoItem)
  granulPeriod : Option Nat
  deriving DecidableEq, Repr

/-- `E2SM_KPM_IndicationMessage_Format2_t` -/
structure IndicationMessageFormat2 (R : Type) where
  measData : List (MeasurementDataItem R)
  measCondUeidList : List (MeasurementCondUeidItem R)
  granulPeriod : Option Nat
  deriving DecidableEq, Repr

/-- `UEMeasurementReportItem_t` -/
structure UeMeasurementReportItem (R : Type) where
  ueId : UeIdAsn
  measReport : IndicationMessageFormat1 R
  deriving DecidableEq, Repr

/-- `E2SM_KPM_IndicationMessage_Format3_t` -/
structure IndicationMessageFormat3 (R : Type) where
  ueMeasReportList : List (UeMeasurementReportItem R)
  deriving DecidableEq, Repr

/-! ### To ASN.1 -/

def maxnoofConditionInfoPerSub : Nat := 32768
def maxnoofUeidPerSub : Nat := 65535
def maxnoofUeMeasReport : Nat := 65535

def kpmEncEventTriggerDefFrm1Asn (x : EventTriggerFrm1) : EventTriggerDefinitionFormat1 := ⟨x.reportPeriodMs.toNat⟩

def kpmEncActionDefFrm1Asn (x : ActDefFrm1 R) : Except String (ActionDefinitionFormat1 R) := do
  let measInfoList ← kpmEncMeasInfoAsn x.measInfoLst
  let granulPeriod ← encGranPeriod x.granPeriodMs
  let cellGlobalId ← mapOptional encCellGlobalIdAsn x.cellGlobalId
  let binRanges ← mapNonempty (oneTo maxnoofBin)
    "meas_bin_range_info_lst_len >= 1 && meas_bin_range_info_lst_len <= maxnoofBin" kpmEncMeasBinRangeItem x.measBinInfoLst
  return ⟨measInfoList, granulPeriod, cellGlobalId, binRanges⟩

def kpmEncActionDefFrm2Asn (x : ActDefFrm2 R) : Except String (ActionDefinitionFormat2 R) := do
  let ueId ← encUeIdAsn x.ueId
  let subscriptInfo ← kpmEncActionDefFrm1Asn x.actionDefFormat1
  return ⟨ueId, subscriptInfo⟩

def kpmEncActionDefFrm3Asn (x : ActDefFrm3 R) : Except String (ActionDefinitionFormat3 R) := do
  let measCondList ← kpmEncMeasInfoCondAsn x.measInfoLst
  let granulPeriod ← encGranPeriod x.granPeriodMs
  let cellGlobalId ← mapOptional encCellGlobalIdAsn x.cellGlobalId
  return ⟨measCondList, granulPeriod, cellGlobalId⟩

def kpmEncActionDefFrm4Asn (x : ActDefFrm4 R) : Except String (ActionDefinitionFormat4 R) := do
  let conds ← mapSized (oneTo maxnoofConditionInfoPerSub)
    "matching_cond_lst_len >= 1 && matching_cond_lst_len <= maxnoofConditionInfoPerSub" kpmEncMatchingCondFrm4Asn
    x.matchingCondLst
  let subscriptionInfo ← kpmEncActionDefFrm1Asn x.actionDefFormat1
  return ⟨conds, subscriptionInfo⟩

/-- From two to `maxnoofUEIDPerSub` identities -/
abbrev twoTo (m n : Nat) : Prop := 2 ≤ n ∧ n < m + 1

def kpmEncActionDefFrm5Asn (x : ActDefFrm5 R) : Except String (ActionDefinitionFormat5 R) := do
  let ueIds ← mapSized (twoTo maxnoofUeidPerSub) "ue_id_lst_len >= 2 && ue_id_lst_len <= maxnoofUEIDPerSub" encUeIdAsn
    x.ueIdLst
  let subscriptionInfo ← kpmEncActionDefFrm1Asn x.actionDefFormat1
  return ⟨ueIds, subscriptionInfo⟩

/-- `htonl` on a machine with the lowest byte first -/
def htonl (x : UInt32) : UInt32 := UInt32.ofNat (leNat (leBytes 4 x.toNat).reverse)

/-- Either half has its bytes reversed. -/
def htonll (x : UInt64) : UInt64 := (htonl (x >>> 32).toUInt32).toUInt64 <<< 32 ||| (htonl x.toUInt32).toUInt64

def kpmEncIndHdrFrm1Asn (x : IndHdrFrm1) : IndicationHeaderFormat1 :=
  ⟨leBytes 8 (htonll x.collectStartTime).toNat, x.fileformatVersion, x.senderName, x.senderType, x.vendorName⟩

def kpmEncIndMsgFrm1Asn (x : IndMsgFrm1 R) : Except String (IndicationMessageFormat1 R) := do
  let measData ← kpmEncMeasDataAsn x.measDataLst
  let measInfoList ← mapNonempty (oneTo maxnoofMeasurementInfo) "Number of measures not allowed" encMeasInfoItem
    x.measInfoLst
  let granulPeriod ← mapOptional encGranPeriod x.granPeriodMs
  return ⟨measData, measInfoList, granulPeriod⟩

def kpmEncIndMsgFrm2Asn (x : IndMsgFrm2 R) : Except String (IndicationMessageFormat2 R) := do
  let measData ← kpmEncMeasDataAsn x.measDataLst
  let measCondUeidList ← kpmEncMeasInfoCondUeAsn x.measInfoCondUeLst
  let granulPeriod ← mapOptional encGranPeriod x.granPeriodMs
  return ⟨measData, measCondUeidList, granulPeriod⟩

def encMeasReportPerUe (x : MeasReportPerUe R) : Except String (UeMeasurementReportItem R) := do
  let ueId ← encUeIdAsn x.ueMeasReportLst
  let measReport ← kpmEncIndMsgFrm1Asn x.indMsgFormat1
  return ⟨ueId, measReport⟩

def kpmEncIndMsgFrm3Asn (x : IndMsgFrm3 R) : Except String (IndicationMessageFormat3 R) := do
  let reports ← mapSized (oneTo maxnoofUeMeasReport)
    "ue_meas_report_lst_len >= 1 && ue_meas_report_lst_len <= maxnoofUEMeasReport" encMeasReportPerUe x.measReportPerUe
  return ⟨reports⟩

/-! ### From ASN.1 -/

def kpmDecEventTriggerDefFrm1Asn (x : EventTriggerDefinitionFormat1) : EventTriggerFrm1 :=
  ⟨UInt32.ofNat x.reportingPeriod⟩

def kpmDecActionDefFrm1Asn (x : ActionDefinitionFormat1 R) : Except String (ActDefFrm1 R) := do
  require (oneTo maxnoofMeasurementInfo x.measInfoList.length) "Number of measures not allowed"
  let measInfoLst ← kpmDecMeasInfoAsn x.measInfoList
  let granPeriodMs ← decGranPeriod x.granulPeriod
  let cellGlobalId ← mapOptional decCellGlobalIdAsn x.cellGlobalId
  let measBinInfoLst ← mapListed (oneTo maxnoofBin)
    "meas_bin_range_info_lst_len >= 1 && meas_bin_range_info_lst_len <= maxnoofBin" kpmDecMeasBinRangeItem
    x.distMeasBinRangeInfo
  return ⟨measInfoLst, granPeriodMs, cellGlobalId, measBinInfoLst⟩

def kpmDecActionDefFrm2Asn (x : ActionDefinitionFormat2 R) : Except String (ActDefFrm2 R) := do
  let ueId ← decUeIdAsn x.ueId
  let actionDefFormat1 ← kpmDecActionDefFrm1Asn x.subscriptInfo
  return ⟨ueId, actionDefFormat1⟩

def kpmDecActionDefFrm3Asn (x : ActionDefinitionFormat3 R) : Except String (ActDefFrm3 R) := do
  let measInfoLst ← kpmDecMeasInfoCondAsn x.measCondList
  let granPeriodMs ← decGranPeriod x.granulPeriod
  let cellGlobalId ← mapOptional decCellGlobalIdAsn x.cellGlobalId
  return ⟨measInfoLst, granPeriodMs, cellGlobalId⟩

def kpmDecActionDefFrm4Asn (x : ActionDefinitionFormat4 R) : Except String (ActDefFrm4 R) := do
  let matchingCondLst ← mapSized (oneTo maxnoofConditionInfoPerSub)
    "matching_cond_lst_len >= 1 && matching_cond_lst_len <= maxnoofConditionInfoPerSub" kpmDecMatchingCondFrm4Asn
    x.matchingUeCondList
  let actionDefFormat1 ← kpmDecActionDefFrm1Asn x.subscriptionInfo
  return ⟨matchingCondLst, actionDefFormat1⟩

def kpmDecActionDefFrm5Asn (x : ActionDefinitionFormat5 R) : Except String (ActDefFrm5 R) := do
  let ueIdLst ← mapSized (twoTo maxnoofUeidPerSub) "ue_id_lst_len >= 2 && ue_id_lst_len <= maxnoofUEIDPerSub" decUeIdAsn
    x.matchingUeidList
  let actionDefFormat1 ← kpmDecActionDefFrm1Asn x.subscriptionInfo
  return ⟨ueIdLst, actionDefFormat1⟩

/-- `ntohll` is the same function; eight bytes at most are copied. -/
def kpmDecIndHdrFrm1Asn (x : IndicationHeaderFormat1) : Except String IndHdrFrm1 := do
  require (x.colletStartTime.length < 9) "write past the end of the number"
  return ⟨htonll (UInt64.ofNat (leNat x.colletStartTime)), x.fileFormatversion, x.senderName, x.senderType,
    x.vendorName⟩

def kpmDecIndMsgFrm1Asn (x : IndicationMessageFormat1 R) : Except String (IndMsgFrm1 R) := do
  let measDataLst ← kpmDecMeasDataAsn x.measData
  let measInfoLst ← kpmDecMeasInfoAsn (x.measInfoList.getD [])
  let granPeriodMs ← mapOptional decGranPeriod x.granulPeriod
  return ⟨measDataLst, measInfoLst, granPeriodMs⟩

def kpmDecIndMsgFrm2Asn (x : IndicationMessageFormat2 R) : Except String (IndMsgFrm2 R) := do
  let measDataLst ← kpmDecMeasDataAsn x.measData
  let measInfoCondUeLst ← kpmDecMeasInfoCondUeAsn x.measCondUeidList
  let granPeriodMs ← mapOptional decGranPeriod x.granulPeriod
  return ⟨measDataLst, measInfoCondUeLst, granPeriodMs⟩

def decMeasReportPerUe (x : UeMeasurementReportItem R) : Except String (MeasReportPerUe R) := do
  let ueMeasReportLst ← decUeIdAsn x.ueId
  let indMsgFormat1 ← kpmDecIndMsgFrm1Asn x.measReport
  return ⟨ueMeasReportLst, indMsgFormat1⟩

def kpmDecIndMsgFrm3Asn (x : IndicationMessageFormat3 R) : Except String (IndMsgFrm3 R) := do
  let measReportPerUe ← mapSized (oneTo maxnoofUeMeasReport)
    "ue_meas_report_lst_len >= 1 && ue_meas_report_lst_len <= maxnoofUEMeasReport" decMeasReportPerUe x.ueMeasReportList
  return ⟨measReportPerUe⟩

/-! ### All parts -/

def IePart (R : Type) : Part → Type
  | .eventTriggerFrm1 => EventTriggerFrm1
  | .actionDefFrm1 => ActDefFrm1 R
  | .actionDefFrm2 => ActDefFrm2 R
  | .actionDefFrm3 => ActDefFrm3 R
  | .actionDefFrm4 => ActDefFrm4 R
  | .actionDefFrm5 => ActDefFrm5 R
  | .indHdrFrm1 => IndHdrFrm1
  | .indMsgFrm1 => IndMsgFrm1 R
  | .indMsgFrm2 => IndMsgFrm2 R
  | .indMsgFrm3 => IndMsgFrm3 R
  | .binRangeDef => BinRangeDef R

def AsnPart (R : Type) : Part → Type
  | .eventTriggerFrm1 => EventTriggerDefinitionFormat1
  | .actionDefFrm1 => ActionDefinitionFormat1 R
  | .actionDefFrm2 => ActionDefinitionFormat2 R
  | .actionDefFrm3 => ActionDefinitionFormat3 R
  | .actionDefFrm4 => ActionDefinitionFormat4 R
  | .actionDefFrm5 => ActionDefinitionFormat5 R
  | .indHdrFrm1 => IndicationHeaderFormat1
  | .indMsgFrm1 => IndicationMessageFormat1 R
  | .indMsgFrm2 => IndicationMessageFormat2 R
  | .indMsgFrm3 => IndicationMessageFormat3 R
  | .binRangeDef => BinRangeDefinition R

def encPart : (p : Part) → IePart R p → Except String (AsnPart R p)
  | .eventTriggerFrm1 => fun x => .ok (kpmEncEventTriggerDefFrm1Asn x)
  | .actionDefFrm1 => kpmEncActionDefFrm1Asn
  | .actionDefFrm2 => kpmEncActionDefFrm2Asn
  | .actionDefFrm3 => kpmEncActionDefFrm3Asn
  | .actionDefFrm4 => kpmEncActionDefFrm4Asn
  | .actionDefFrm5 => kpmEncActionDefFrm5Asn
  | .indHdrFrm1 => fun x => .ok (kpmEncIndHdrFrm1Asn x)
  | .indMsgFrm1 => kpmEncIndMsgFrm1Asn
  | .indMsgFrm2 => kpmEncIndMsgFrm2Asn
  | .indMsgFrm3 => kpmEncIndMsgFrm3Asn
  | .binRangeDef => kpmEncBinRangeDef

def decPart : (p : Part) → AsnPart R p → Except String (IePart R p)
  | .eventTriggerFrm1 => fun x => .ok (kpmDecEventTriggerDefFrm1Asn x)
  | .actionDefFrm1 => kpmDecActionDefFrm1Asn
  | .actionDefFrm2 => kpmDecActionDefFrm2Asn
  | .actionDefFrm3 => kpmDecActionDefFrm3Asn
  | .actionDefFrm4 => kpmDecActionDefFrm4Asn
  | .actionDefFrm5 => kpmDecActionDefFrm5Asn
  | .indHdrFrm1 => kpmDecIndHdrFrm1Asn
  | .indMsgFrm1 => kpmDecIndMsgFrm1Asn
  | .indMsgFrm2 => kpmDecIndMsgFrm2Asn
  | .indMsgFrm3 => kpmDecIndMsgFrm3Asn
  | .binRangeDef => kpmDecBinRangeDef

/-- The first kind of identity, without anything in it -/
def zeroUeId : UeId := .gnb ⟨0, ⟨⟨0, 0, 0⟩, 0, 0, 0⟩, [], [], none, none, none, none⟩

def zeroActDefFrm1 : ActDefFrm1 R := ⟨[], 0, none, []⟩

def zeroPart : (p : Part) → IePart R p
  | .eventTriggerFrm1 => (⟨0⟩ : EventTriggerFrm1)
  | .actionDefFrm1 => (zeroActDefFrm1 : ActDefFrm1 R)
  | .actionDefFrm2 => (⟨zeroUeId, zeroActDefFrm1⟩ : ActDefFrm2 R)
  | .actionDefFrm3 => (⟨[], 0, none⟩ : ActDefFrm3 R)
  | .actionDefFrm4 => (⟨[], zeroActDefFrm1⟩ : ActDefFrm4 R)
  | .actionDefFrm5 => (⟨[], zeroActDefFrm1⟩ : ActDefFrm5 R)
  | .indHdrFrm1 => (⟨0, none, none, none, none⟩ : IndHdrFrm1)
  | .indMsgFrm1 => (⟨[], [], none⟩ : IndMsgFrm1 R)
  | .indMsgFrm2 => (⟨[], [], none⟩ : IndMsgFrm2 R)
  | .indMsgFrm3 => (⟨[]⟩ : IndMsgFrm3 R)
  | .binRangeDef => (⟨[], [], []⟩ : BinRangeDef R)

/-- The parts of the service model, v05.00 -/
def kpmParts (R : Type) : Parts := ⟨IePart R, AsnPart R, encPart, decPart, zeroPart⟩

end FlexRic.Sm.Kpm
