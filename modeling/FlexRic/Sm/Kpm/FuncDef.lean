import FlexRic.Sm.Kpm.Types

/-! # The RAN function definition of the KPM service model

What a node says of the service model at setup, mapped to its ASN.1 structure and back (`kpm_enc_func_def_asn` and
`kpm_dec_func_def_asn` without the coding itself). -/

namespace FlexRic.Sm.Kpm

variable {Ie Asn : Part → Type}

/-- `maxnoofRICStyles` -/
def maxnoofRicStyles : Nat := 63

/-- `maxnoofMeasurementInfo` -/
def maxnoofMeasurementInfo : Nat := 65535


/-! ### To ASN.1 -/

/-- The names of the function; the octet strings are copies. -/
def encRanFunctionName (n : RanFunctionName) : RanFunctionNameAsn where
  ranFunctionShortName := n.name
  ranFunctionE2smOid := n.oid
  ranFunctionDescription := n.description
  ranFunctionInstance := n.instance_

def encEventTriggerStyle (i : RicEventTriggerStyleItem) : Except String EventTriggerStyleItem :=
  match i.styleType with
  | .style1 => .ok ⟨1, i.styleName, 1⟩
  | .end_ => .error "Unknown RIC Event Trigger Style Type"

/-- The types of a report style: of the style, of the action, of the indication header and message. -/
def encReportStyleTypes : RicServiceReport → Except String (Int × Int × Int × Int)
  | .style1 => .ok (1, 1, 1, 1)
  | .style2 => .ok (2, 2, 1, 1)
  | .style3 => .ok (3, 3, 1, 2)
  | .style4 => .ok (4, 4, 1, 3)
  | .style5 => .ok (5, 5, 1, 3)
  | .end_ => .error "Unknown RIC REPORT Style Type"

def encMeasInfoForAction (m : MeasInfoForAction Ie) : Except String (MeasurementInfoActionItem Asn) :=
  match m.binRangeDef with
  | none => .ok ⟨m.name, m.id.map Int.ofNat, none⟩
  | some _ => .error "Not yet implemented in ASN.1"

def encReportStyle (i : RicReportStyleItem Ie) : Except String (ReportStyleItem Asn) := do
  let (styleType, actionType, hdrType, msgType) ← encReportStyleTypes i.reportStyleType
  require (i.measInfoForActionLst.length ≥ 1 ∧ i.measInfoForActionLst.length ≤ maxnoofMeasurementInfo)
    "meas_info_for_action_lst_len >= 1 && meas_info_for_action_lst_len <= maxnoofMeasurementInfo"
  let measInfo ← i.measInfoForActionLst.mapM encMeasInfoForAction
  return ⟨styleType, i.reportStyleName, actionType, measInfo, hdrType, msgType⟩

/-- A list that is not `NULL` has between one and `maxnoofRICStyles` items. -/
def mapStyles {α β : Type} (enc : α → Except String β) (msg : String) : Option (List α) → Except String (Option (List β))
  | none => .ok none
  | some l => do
    require (l.length ≥ 1 ∧ l.length ≤ maxnoofRicStyles) msg
    return some (← l.mapM enc)

/-- The structure that `kpm_enc_func_def_asn` encodes -/
def encFuncDef (f : RanFunctionDef Ie) : Except String (RanFunctionDescription Asn) := do
  let triggerStyles ← mapStyles encEventTriggerStyle
    "func_def->sz_ric_event_trigger_style_list >= 1 && func_def->sz_ric_event_trigger_style_list <= maxnoofRICStyles"
    f.ricEventTriggerStyleList
  let reportStyles ← mapStyles encReportStyle
    "func_def->sz_ric_report_style_list >= 1 && func_def->sz_ric_report_style_list <= maxnoofRICStyles"
    f.ricReportStyleList
  return ⟨encRanFunctionName f.name, triggerStyles, reportStyles⟩

/-! ### From ASN.1 -/

def decRanFunctionName (n : RanFunctionNameAsn) : RanFunctionName where
  name := n.ranFunctionShortName
  oid := n.ranFunctionE2smOid
  description := n.ranFunctionDescription
  instance_ := n.ranFunctionInstance

def decEventTriggerStyle (i : EventTriggerStyleItem) : Except String RicEventTriggerStyleItem :=
  if i.ricEventTriggerStyleType = 1 then .ok ⟨.style1, i.ricEventTriggerStyleName, .format1⟩
  else .error "Unknown RIC Event Trigger Style Type"

def decReportStyleTypes (styleType : Int) :
    Except String (RicServiceReport × FormatActionDef × FormatIndHdr × FormatIndMsg) :=
  if styleType = 1 then .ok (.style1, .format1, .format1, .format1)
  else if styleType = 2 then .ok (.style2, .format2, .format1, .format1)
  else if styleType = 3 then .ok (.style3, .format3, .format1, .format2)
  else if styleType = 4 then .ok (.style4, .format4, .format1, .format3)
  else if styleType = 5 then .ok (.style5, .format5, .format1, .format3)
  else .error "Unknown RIC REPORT Style Type"

/-- The identifier is copied by its two lower bytes. -/
def decMeasInfoForAction (m : MeasurementInfoActionItem Asn) : Except String (MeasInfoForAction Ie) :=
  match m.binRangeDef with
  | none => .ok ⟨m.measName, m.measId.map fun id => (id % 65536).toNat, none⟩
  | some _ => .error "Not yet implemented"

def decReportStyle (i : ReportStyleItem Asn) : Except String (RicReportStyleItem Ie) := do
  let (styleType, actionType, hdrType, msgType) ← decReportStyleTypes i.ricReportStyleType
  require (i.measInfoActionList.length ≥ 1 ∧ i.measInfoActionList.length ≤ maxnoofMeasurementInfo)
    "measInfo_Action_List.list.count >= 1 && measInfo_Action_List.list.count <= maxnoofMeasurementInfo"
  let measInfo ← i.measInfoActionList.mapM decMeasInfoForAction
  return ⟨styleType, i.ricReportStyleName, actionType, measInfo, hdrType, msgType⟩

/-- What `kpm_dec_func_def_asn` makes of the structure that was decoded -/
def decFuncDef (f : RanFunctionDescription Asn) : Except String (RanFunctionDef Ie) := do
  let triggerStyles ← mapStyles decEventTriggerStyle
    "ric_EventTriggerStyle_List->list.count >=1 && ric_EventTriggerStyle_List->list.count <= maxnoofRICStyles"
    f.ricEventTriggerStyleList
  let reportStyles ← mapStyles decReportStyle
    "ric_ReportStyle_List->list.count >=1 && ric_ReportStyle_List->list.count <= maxnoofRICStyles"
    f.ricReportStyleList
  return ⟨decRanFunctionName f.ranFunctionName, triggerStyles, reportStyles⟩

/-- What the caller finds: the instance is a pointer into the structure that was freed. -/
def decFuncDefFreed (stale : Int) (f : RanFunctionDescription Asn) : Except String (RanFunctionDef Ie) := do
  let d ← decFuncDef f
  return { d with name := { d.name with instance_ := d.name.instance_.map fun _ => stale } }

end FlexRic.Sm.Kpm
