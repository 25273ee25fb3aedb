import FlexRic.Sm.Kpm.Types
import FlexRic.Sm.Rc.EventTriggerTypes

/-! # The RAN function definition of the RC service model

What a node says of the service model at setup: the event triggers, reports, inserts, controls and policies that it
supports, each of them optional. Mapped to its ASN.1 structure and back (`rc_enc_func_def_asn` and
`rc_dec_func_def_asn` without the coding itself). -/

namespace FlexRic.Sm.Rc

open Kpm (RanFunctionName RanFunctionNameAsn)

/-! ### The values of the code -/

/-- `seq_ran_param_3_t` -/
structure SeqRanParam3 where
  id : UInt32
  name : List UInt8
  def_ : Option Unread

/-- `seq_ev_trg_style_t` -/
structure SeqEvTrgStyle where
  style : UInt32
  name : List UInt8
  format : UInt32

/-- `call_proc_break_t` -/
structure CallProcBreak where
  id : UInt16
  name : List UInt8
  param : List SeqRanParam3

/-- `seq_call_proc_type_t` -/
structure SeqCallProcType where
  id : UInt16
  name : List UInt8
  callProcBreak : List CallProcBreak

/-- `ran_func_def_ev_trig_t` -/
structure RanFuncDefEvTrig where
  seqEvTrgStyle : List SeqEvTrgStyle
  seqRanParamL2Var : List SeqRanParam3
  seqCallProcType : List SeqCallProcType
  seqRanParamIdUe : List SeqRanParam3
  seqRanParamIdCell : List SeqRanParam3

/-- `seq_report_sty_t` -/
structure SeqReportSty where
  reportType : UInt32
  name : List UInt8
  evTrigType : UInt32
  actFrmtType : UInt32
  indHdrType : UInt32
  indMsgType : UInt32
  ranParam : List SeqRanParam3

/-- `ran_func_def_report_t` -/
structure RanFuncDefReport where
  seqReportSty : List SeqReportSty

/-- `seq_ins_ind_t` -/
structure SeqInsInd where
  id : UInt16
  name : List UInt8
  seqInsInd : List SeqRanParam3

/-- `seq_ins_sty_t` -/
structure SeqInsSty where
  styleType : UInt32
  name : List UInt8
  evTrigStyleType : UInt32
  actDefFrmtType : UInt32
  seqInsInd : List SeqInsInd
  indHdrFrmtType : UInt32
  indMsgFrmtType : UInt32
  callProcIdType : UInt32

/-- `ran_func_def_insert_t` -/
structure RanFuncDefInsert where
  seqInsSty : List SeqInsSty

/-- `seq_ctrl_act_2_t` -/
structure SeqCtrlAct2 where
  id : UInt16
  name : List UInt8
  assocRanParam : List SeqRanParam3

/-- `seq_ctrl_style_t` -/
structure SeqCtrlStyle where
  styleType : UInt32
  name : List UInt8
  seqCtrlAct : List SeqCtrlAct2
  hdr : UInt32
  msg : UInt32
  callProcIdType : Option Unread
  outFrmt : UInt32
  ranParamCtrlOut : List SeqRanParam3

/-- `ran_func_def_ctrl_t` -/
structure RanFuncDefCtrl where
  seqCtrlStyle : List SeqCtrlStyle

/-- `seq_pol_action_t` -/
structure SeqPolAction where
  actionId : UInt32
  name : List UInt8
  frmtType : UInt32
  seqAssocRpAction : List SeqRanParam3
  seqAssocRpPolicy : List SeqRanParam3

/-- `seq_policy_sty_t` -/
structure SeqPolicySty where
  styleType : UInt32
  name : List UInt8
  evTrgStyleType : UInt32
  seqPolAction : List SeqPolAction

/-- `ran_func_def_policy_t` -/
structure RanFuncDefPolicy where
  seqPolicySty : List SeqPolicySty

/-- `e2sm_rc_func_def_t` -/
structure FuncDef where
  name : RanFunctionName
  evTrig : Option RanFuncDefEvTrig
  report : Option RanFuncDefReport
  insert : Option RanFuncDefInsert
  ctrl : Option RanFuncDefCtrl
  policy : Option RanFuncDefPolicy

/-! ### The values of the ASN.1 types -/

namespace Asn

/-- `L2Parameters_RANParameter_Item_t` and the eleven other `*_RANParameter_Item_t` of a function definition -/
structure NamedParameterItem where
  ranParameterId : Nat
  ranParameterName : List UInt8
  ranParameterDefinition : Option Unread

/-- `RANFunctionDefinition_EventTrigger_Style_Item_t` -/
structure EventTriggerStyleItem where
  ricEventTriggerStyleType : Int
  ricEventTriggerStyleName : List UInt8
  ricEventTriggerFormatType : Int

/-- `RANFunctionDefinition_EventTrigger_Breakpoint_Item_t` -/
structure EventTriggerBreakpointItem where
  callProcessBreakpointId : Int
  callProcessBreakpointName : List UInt8
  ranCallProcessBreakpointParametersList : Option (List NamedParameterItem)

/-- `RANFunctionDefinition_EventTrigger_CallProcess_Item_t` -/
structure EventTriggerCallProcessItem where
  callProcessTypeId : Int
  callProcessTypeName : List UInt8
  callProcessBreakpointsList : List EventTriggerBreakpointItem

/-- `RANFunctionDefinition_EventTrigger_t` -/
structure RanFunctionDefinitionEventTrigger where
  ricEventTriggerStyleList : List EventTriggerStyleItem
  ranL2ParametersList : Option (List NamedParameterItem)
  ranCallProcessTypesList : Option (List EventTriggerCallProcessItem)
  ranUeIdentificationParametersList : Option (List NamedParameterItem)
  ranCellIdentificationParametersList : Option (List NamedParameterItem)

/-- `RANFunctionDefinition_Report_Item_t` -/
structure ReportItem where
  ricReportStyleType : Int
  ricReportStyleName : List UInt8
  ricSupportedEventTriggerStyleType : Int
  ricReportActionFormatType : Int
  ricIndicationHeaderFormatType : Int
  ricIndicationMessageFormatType : Int
  ranReportParametersList : Option (List NamedParameterItem)

/-- `RANFunctionDefinition_Report_t` -/
structure RanFunctionDefinitionReport where
  ricReportStyleList : List ReportItem

/-- `RANFunctionDefinition_Insert_Indication_Item_t` -/
structure InsertIndicationItem where
  ricInsertIndicationId : Int
  ricInsertIndicationName : List UInt8
  ranInsertIndicationParametersList : Option (List NamedParameterItem)

/-- `RANFunctionDefinition_Insert_Item_t` -/
structure InsertItem where
  ricInsertStyleType : Int
  ricInsertStyleName : List UInt8
  ricSupportedEventTriggerStyleType : Int
  ricActionDefinitionFormatType : Int
  ricInsertIndicationList : Option (List InsertIndicationItem)
  ricIndicationHeaderFormatType : Int
  ricIndicationMessageFormatType : Int
  ricCallProcessIdFormatType : Int

/-- `RANFunctionDefinition_Insert_t` -/
structure RanFunctionDefinitionInsert where
  ricInsertStyleList : List InsertItem

/-- `RANFunctionDefinition_Control_Action_Item_t` -/
structure ControlActionItem where
  ricControlActionId : Int
  ricControlActionName : List UInt8
  ranControlActionParametersList : Option (List NamedParameterItem)

/-- `RANFunctionDefinition_Control_Item_t` -/
structure ControlItem where
  ricControlStyleType : Int
  ricControlStyleName : List UInt8
  ricControlActionList : Option (List ControlActionItem)
  ricControlHeaderFormatType : Int
  ricControlMessageFormatType : Int
  ricCallProcessIdFormatType : Option Unread
  ricControlOutcomeFormatType : Int
  ranControlOutcomeParametersList : Option (List NamedParameterItem)

/-- `RANFunctionDefinition_Control_t` -/
structure RanFunctionDefinitionControl where
  ricControlStyleList : List ControlItem

/-- `RANFunctionDefinition_Policy_Action_Item_t` -/
structure PolicyActionItem where
  ricPolicyActionId : Int
  ricPolicyActionName : List UInt8
  ricActionDefinitionFormatType : Int
  ranPolicyActionParametersList : Option (List NamedParameterItem)
  ranPolicyConditionParametersList : Option (List NamedParameterItem)

/-- `RANFunctionDefinition_Policy_Item_t` -/
structure PolicyItem where
  ricPolicyStyleType : Int
  ricPolicyStyleName : List UInt8
  ricSupportedEventTriggerStyleType : Int
  ricPolicyActionList : Option (List PolicyActionItem)

/-- `RANFunctionDefinition_Policy_t` -/
structure RanFunctionDefinitionPolicy where
  ricPolicyStyleList : List PolicyItem

/-- `E2SM_RC_RANFunctionDefinition_t` -/
structure RanFunctionDefinition where
  ranFunctionName : RanFunctionNameAsn
  ranFunctionDefinitionEventTrigger : Option RanFunctionDefinitionEventTrigger
  ranFunctionDefinitionReport : Option RanFunctionDefinitionReport
  ranFunctionDefinitionInsert : Option RanFunctionDefinitionInsert
  ranFunctionDefinitionControl : Option RanFunctionDefinitionControl
  ranFunctionDefinitionPolicy : Option RanFunctionDefinitionPolicy

end Asn

/-! ### To ASN.1 -/

/-- An optional list, allocated when it is to have something -/
def encList {α β : Type} (f : α → Except String β) (l : List α) : Except String (Option (List β)) := do
  let items ← l.mapM f
  return if 0 < l.length then some items else none

def encRanFuncName (src : RanFunctionName) : Except String RanFunctionNameAsn := do
  require (src.instance_ = none) "src->instance == NULL && \"not implemented\""
  return ⟨src.name, src.oid, src.description, none⟩

def encSeqRanParam3 (msgDef : String) (src : SeqRanParam3) : Except String Asn.NamedParameterItem := do
  require (0 < src.id) "src->id > 0"
  require (oneTo 150 src.name.length) "src->name.len > 0 && src->name.len < 151"
  require (src.def_ = none) msgDef
  return ⟨src.id.toNat, src.name, none⟩

def encRanFuncDefEvTrgStyIt (src : SeqEvTrgStyle) : Except String Asn.EventTriggerStyleItem := do
  require (oneTo 150 src.name.length) "src->name.len > 0 && src->name.len < 151"
  return ⟨src.style.toNat, src.name, src.format.toNat⟩

def encSeqRanParamL2Var : SeqRanParam3 → Except String Asn.NamedParameterItem :=
  encSeqRanParam3 "src->def == NULL && \"not implemented\""

def encSeqRanParam32 : SeqRanParam3 → Except String Asn.NamedParameterItem :=
  encSeqRanParam3 "src->def == NULL && \"Not implemented\""

def encCallProcBreak (src : CallProcBreak) : Except String Asn.EventTriggerBreakpointItem := do
  require (0 < src.id) "src->id > 0"
  require (oneTo 150 src.name.length) "src->name.len > 0 && src->name.len < 151"
  let params ← encList encSeqRanParam32 src.param
  return ⟨src.id.toNat, src.name, params⟩

/-- Of a name, 150 bytes are accepted everywhere but here. -/
def encSeqCallProcType (src : SeqCallProcType) : Except String Asn.EventTriggerCallProcessItem := do
  require (0 < src.id) "src->id > 0"
  require (oneTo 149 src.name.length) "src->name.len > 0 && src->name.len < 150"
  let breakpoints ← mapSized (oneTo 65535) "src->sz_call_proc_break > 0 && src->sz_call_proc_break < 65536"
    encCallProcBreak src.callProcBreak
  return ⟨src.id.toNat, src.name, breakpoints⟩

def encSeqRanParamIdUe : SeqRanParam3 → Except String Asn.NamedParameterItem :=
  encSeqRanParam3 "src->def == NULL && \"not implemented\""

def encSeqRanParamIdCell : SeqRanParam3 → Except String Asn.NamedParameterItem :=
  encSeqRanParam3 "src->def == NULL && \"Not implemented\""

def encRanFuncDefEvTrg (src : RanFuncDefEvTrig) : Except String Asn.RanFunctionDefinitionEventTrigger := do
  let styles ← mapSized (oneTo 63) "src->sz_seq_ev_trg_style > 0 && src->sz_seq_ev_trg_style < 64"
    encRanFuncDefEvTrgStyIt src.seqEvTrgStyle
  let l2Params ← encList encSeqRanParamL2Var src.seqRanParamL2Var
  let callProcs ← encList encSeqCallProcType src.seqCallProcType
  let ueParams ← encList encSeqRanParamIdUe src.seqRanParamIdUe
  let cellParams ← encList encSeqRanParamIdCell src.seqRanParamIdCell
  return ⟨styles, l2Params, callProcs, ueParams, cellParams⟩

def encSeqReportRanParamIt : SeqRanParam3 → Except String Asn.NamedParameterItem :=
  encSeqRanParam3 "src->def == NULL && \"Not implemented\""

def encSeqReportSty (src : SeqReportSty) : Except String Asn.ReportItem := do
  require (oneTo 150 src.name.length) "src->name.len > 0 && src->name.len < 151"
  require (upTo 65535 src.ranParam.length) "src->sz_seq_ran_param < 65536"
  let params ← encList encSeqReportRanParamIt src.ranParam
  return ⟨src.reportType.toNat, src.name, src.evTrigType.toNat, src.actFrmtType.toNat, src.indHdrType.toNat,
    src.indMsgType.toNat, params⟩

def encRanFuncDefReport (src : RanFuncDefReport) : Except String Asn.RanFunctionDefinitionReport := do
  return ⟨← mapSized (oneTo 63) "src->sz_seq_report_sty > 0 && src->sz_seq_report_sty < 64" encSeqReportSty
    src.seqReportSty⟩

/-- The only parameter whose name is not measured -/
def encSeqInsInd3 (src : SeqRanParam3) : Except String Asn.NamedParameterItem := do
  require (0 < src.id) "src->id > 0"
  require (src.def_ = none) "src->def == NULL && \"Not implemented\""
  return ⟨src.id.toNat, src.name, none⟩

def encSeqInsInd (src : SeqInsInd) : Except String Asn.InsertIndicationItem := do
  require (0 < src.id) "src->id > 0"
  require (oneTo 150 src.name.length) "src->name.len > 0 && src->name.len < 151"
  require (upTo 65535 src.seqInsInd.length) "src->sz_seq_ins_ind < 65536"
  let params ← encList encSeqInsInd3 src.seqInsInd
  return ⟨src.id.toNat, src.name, params⟩

def encSeqInsSty (src : SeqInsSty) : Except String Asn.InsertItem := do
  require (oneTo 150 src.name.length) "src->name.len > 0 && src->name.len < 151"
  let indications ← encList encSeqInsInd src.seqInsInd
  return ⟨src.styleType.toNat, src.name, src.evTrigStyleType.toNat, src.actDefFrmtType.toNat, indications,
    src.indHdrFrmtType.toNat, src.indMsgFrmtType.toNat, src.callProcIdType.toNat⟩

def encRanFuncDefInsert (src : RanFuncDefInsert) : Except String Asn.RanFunctionDefinitionInsert := do
  return ⟨← mapSized (oneTo 63) "src->sz_seq_ins_sty > 0 && src->sz_seq_ins_sty < 64" encSeqInsSty src.seqInsSty⟩

def encCtrlActRanParamIt : SeqRanParam3 → Except String Asn.NamedParameterItem :=
  encSeqRanParam3 "src->def == NULL && \"Not implemented\""

def encRanFuncDefCtrlActIt (src : SeqCtrlAct2) : Except String Asn.ControlActionItem := do
  require (0 < src.id) "src->id > 0"
  require (oneTo 150 src.name.length) "src->name.len > 0 && src->name.len < 151"
  require (upTo 65535 src.assocRanParam.length) "src->sz_seq_assoc_ran_param < 65536"
  let params ← encList encCtrlActRanParamIt src.assocRanParam
  return ⟨src.id.toNat, src.name, params⟩

def encRanFuncDefCtrlParamIt : SeqRanParam3 → Except String Asn.NamedParameterItem :=
  encSeqRanParam3 "src->def == NULL && \"Not implemented\""

def encRanFuncDefCtrlIt (src : SeqCtrlStyle) : Except String Asn.ControlItem := do
  require (oneTo 150 src.name.length) "src->name.len > 0 && src->name.len < 151"
  require (upTo 65535 src.seqCtrlAct.length) "src->sz_seq_ctrl_act < 65536"
  let actions ← encList encRanFuncDefCtrlActIt src.seqCtrlAct
  require (src.callProcIdType = none) "src->call_proc_id_type == NULL && \"Not implemented\""
  require (upTo 65535 src.ranParamCtrlOut.length) "src->sz_ran_param_ctrl_out < 65536"
  let params ← encList encRanFuncDefCtrlParamIt src.ranParamCtrlOut
  return ⟨src.styleType.toNat, src.name, actions, src.hdr.toNat, src.msg.toNat, none, src.outFrmt.toNat, params⟩

def encRanFuncDefCtrl (src : RanFuncDefCtrl) : Except String Asn.RanFunctionDefinitionControl := do
  return ⟨← mapSized (oneTo 63) "src->sz_seq_ctrl_style > 0 && src->sz_seq_ctrl_style < 64" encRanFuncDefCtrlIt
    src.seqCtrlStyle⟩

def encRanFuncDefPolActIt : SeqRanParam3 → Except String Asn.NamedParameterItem :=
  encSeqRanParam3 "src->def == NULL && \"Not implemented\""

def encRanFuncDefPolCndIt : SeqRanParam3 → Except String Asn.NamedParameterItem :=
  encSeqRanParam3 "src->def == NULL && \"Not implemented\""

def encRanFuncDefPolAct (src : SeqPolAction) : Except String Asn.PolicyActionItem := do
  require (oneTo 150 src.name.length) "src->name.len > 0 && src->name.len < 151"
  require (upTo 65535 src.seqAssocRpAction.length) "src->sz_seq_assoc_rp_action < 65536"
  let actionParams ← encList encRanFuncDefPolActIt src.seqAssocRpAction
  require (upTo 65535 src.seqAssocRpPolicy.length) "src->sz_seq_assoc_rp_policy < 65536"
  let conditionParams ← encList encRanFuncDefPolCndIt src.seqAssocRpPolicy
  return ⟨src.actionId.toNat, src.name, src.frmtType.toNat, actionParams, conditionParams⟩

def encRanFuncDefPolIt (src : SeqPolicySty) : Except String Asn.PolicyItem := do
  require (oneTo 150 src.name.length) "src->name.len > 0 && src->name.len < 151"
  require (upTo 65535 src.seqPolAction.length) "src->sz_seq_pol_action < 65536"
  let actions ← encList encRanFuncDefPolAct src.seqPolAction
  return ⟨src.styleType.toNat, src.name, src.evTrgStyleType.toNat, actions⟩

def encRanFuncDefPolicy (src : RanFuncDefPolicy) : Except String Asn.RanFunctionDefinitionPolicy := do
  return ⟨← mapSized (oneTo 63) "src-> sz_policy_styles > 0 && src-> sz_policy_styles < 64" encRanFuncDefPolIt
    src.seqPolicySty⟩

/-- The structure that `rc_enc_func_def_asn` encodes -/
def rcEncFuncDef (src : FuncDef) : Except String Asn.RanFunctionDefinition := do
  let name ← encRanFuncName src.name
  let evTrig ← mapOptional encRanFuncDefEvTrg src.evTrig
  let report ← mapOptional encRanFuncDefReport src.report
  let insert ← mapOptional encRanFuncDefInsert src.insert
  let ctrl ← mapOptional encRanFuncDefCtrl src.ctrl
  let policy ← mapOptional encRanFuncDefPolicy src.policy
  return ⟨name, evTrig, report, insert, ctrl, policy⟩

/-! ### From ASN.1 -/

/-- An optional list -/
def decList {α β : Type} (f : β → Except String α) : Option (List β) → Except String (List α)
  | none => .ok []
  | some items => items.mapM f

/-- An optional list whose length is asserted when it is there -/
def decListSized {α β : Type} (size : Nat → Prop) [DecidablePred size] (msg : String) (f : β → Except String α) :
    Option (List β) → Except String (List α)
  | none => .ok []
  | some items => mapSized size msg f items

/-- The instance is not read. -/
def decRanFuncName (src : RanFunctionNameAsn) : RanFunctionName :=
  ⟨src.ranFunctionShortName, src.ranFunctionE2smOid, src.ranFunctionDescription, none⟩

def decSeqEvTrgStyle (src : Asn.EventTriggerStyleItem) : Except String SeqEvTrgStyle := do
  require (oneTo 150 src.ricEventTriggerStyleName.length)
    "src->ric_EventTriggerStyle_Name.size > 0 && src->ric_EventTriggerStyle_Name.size < 151"
  return ⟨UInt32.ofInt src.ricEventTriggerStyleType, src.ricEventTriggerStyleName,
    UInt32.ofInt src.ricEventTriggerFormatType⟩

/-- A parameter of an event trigger. The identifier has room. -/
def decNamedParameterInRange (src : Asn.NamedParameterItem) : Except String SeqRanParam3 := do
  require (0 < src.ranParameterId ∧ src.ranParameterId < 4294967296)
    "src->ranParameter_ID > 0 && src->ranParameter_ID < 4294967296"
  require (oneTo 150 src.ranParameterName.length) "src->ranParameter_name.size > 0 && src->ranParameter_name.size < 151"
  require (src.ranParameterDefinition = none) "src->ranParameter_Definition == NULL && \"Not implemented\""
  return ⟨UInt32.ofNat src.ranParameterId, src.ranParameterName, none⟩

/-- The identifier loses what a `uint32_t` has no room for. -/
def decNamedParameter (msgDef : String) (src : Asn.NamedParameterItem) : Except String SeqRanParam3 := do
  require (0 < src.ranParameterId) "src->ranParameter_ID > 0"
  require (oneTo 150 src.ranParameterName.length) "src->ranParameter_name.size > 0 && src->ranParameter_name.size < 151"
  require (src.ranParameterDefinition = none) msgDef
  return ⟨UInt32.ofNat src.ranParameterId, src.ranParameterName, none⟩

def decSeqRanParamL2Var : Asn.NamedParameterItem → Except String SeqRanParam3 := decNamedParameterInRange

def decSeqRanParam3 : Asn.NamedParameterItem → Except String SeqRanParam3 := decNamedParameterInRange

def decCallProcBreak (src : Asn.EventTriggerBreakpointItem) : Except String CallProcBreak := do
  require (0 < src.callProcessBreakpointId ∧ src.callProcessBreakpointId < 65536)
    "src->callProcessBreakpoint_ID > 0 && src->callProcessBreakpoint_ID < 65536"
  require (oneTo 150 src.callProcessBreakpointName.length)
    "src->callProcessBreakpoint_Name.size > 0 && src->callProcessBreakpoint_Name.size < 151"
  let params ← decList decSeqRanParam3 src.ranCallProcessBreakpointParametersList
  return ⟨UInt16.ofInt src.callProcessBreakpointId, src.callProcessBreakpointName, params⟩

def decSeqCallProcType (src : Asn.EventTriggerCallProcessItem) : Except String SeqCallProcType := do
  require (0 < src.callProcessTypeId ∧ src.callProcessTypeId < 65536)
    "src->callProcessType_ID > 0 && src->callProcessType_ID < 65536"
  require (oneTo 150 src.callProcessTypeName.length)
    "src->callProcessType_Name.size > 0 && src->callProcessType_Name.size < 151"
  let breakpoints ← mapSized (oneTo 65535)
    "src->callProcessBreakpoints_List.list.count > 0 &&  src->callProcessBreakpoints_List.list.count < 65536"
    decCallProcBreak src.callProcessBreakpointsList
  return ⟨UInt16.ofInt src.callProcessTypeId, src.callProcessTypeName, breakpoints⟩

def decSeqRanParamIdUe : Asn.NamedParameterItem → Except String SeqRanParam3 := decNamedParameterInRange

def decSeqRanParamIdCell : Asn.NamedParameterItem → Except String SeqRanParam3 := decNamedParameterInRange

def decRanFunDefEvTrg (src : Asn.RanFunctionDefinitionEventTrigger) : Except String RanFuncDefEvTrig := do
  let styles ← mapSized (oneTo 63)
    "src->ric_EventTriggerStyle_List.list.count > 0 && src->ric_EventTriggerStyle_List.list.count < 64" decSeqEvTrgStyle
    src.ricEventTriggerStyleList
  let l2Params ← decList decSeqRanParamL2Var src.ranL2ParametersList
  let callProcs ← decList decSeqCallProcType src.ranCallProcessTypesList
  let ueParams ← decList decSeqRanParamIdUe src.ranUeIdentificationParametersList
  let cellParams ← decList decSeqRanParamIdCell src.ranCellIdentificationParametersList
  return ⟨styles, l2Params, callProcs, ueParams, cellParams⟩

def decSeqRanParamReport : Asn.NamedParameterItem → Except String SeqRanParam3 :=
  decNamedParameter "src->ranParameter_Definition == NULL && \"Not implemented\""

def decSeqReportSty (src : Asn.ReportItem) : Except String SeqReportSty := do
  require (oneTo 150 src.ricReportStyleName.length)
    "src->ric_ReportStyle_Name.size > 0 && src->ric_ReportStyle_Name.size < 151"
  let params ← decListSized (upTo 65535) "src->ran_ReportParameters_List->list.count < 65536" decSeqRanParamReport
    src.ranReportParametersList
  return ⟨UInt32.ofInt src.ricReportStyleType, src.ricReportStyleName,
    UInt32.ofInt src.ricSupportedEventTriggerStyleType, UInt32.ofInt src.ricReportActionFormatType,
    UInt32.ofInt src.ricIndicationHeaderFormatType, UInt32.ofInt src.ricIndicationMessageFormatType, params⟩

def decRanFuncDefReport (src : Asn.RanFunctionDefinitionReport) : Except String RanFuncDefReport := do
  return ⟨← mapSized (oneTo 63)
    "src->ric_ReportStyle_List.list.count > 0 && src->ric_ReportStyle_List.list.count < 64" decSeqReportSty
    src.ricReportStyleList⟩

def decSeqInsInd3 : Asn.NamedParameterItem → Except String SeqRanParam3 :=
  decNamedParameter "src->ranParameter_Definition == NULL && \"Not implemented\""

/-- The identifier loses what a `uint16_t` has no room for. -/
def decSeqInsInd (src : Asn.InsertIndicationItem) : Except String SeqInsInd := do
  require (0 < src.ricInsertIndicationId) "src->ric_InsertIndication_ID > 0"
  require (oneTo 150 src.ricInsertIndicationName.length)
    "src->ric_InsertIndication_Name.size > 0 && src->ric_InsertIndication_Name.size < 151"
  let params ← decList decSeqInsInd3 src.ranInsertIndicationParametersList
  return ⟨UInt16.ofInt src.ricInsertIndicationId, src.ricInsertIndicationName, params⟩

def decSeqInsSty (src : Asn.InsertItem) : Except String SeqInsSty := do
  require (oneTo 150 src.ricInsertStyleName.length)
    "src->ric_InsertStyle_Name.size > 0 && src->ric_InsertStyle_Name.size < 151"
  let indications ← decListSized (upTo 65535) "src->ric_InsertIndication_List->list.count < 65536" decSeqInsInd
    src.ricInsertIndicationList
  return ⟨UInt32.ofInt src.ricInsertStyleType, src.ricInsertStyleName,
    UInt32.ofInt src.ricSupportedEventTriggerStyleType, UInt32.ofInt src.ricActionDefinitionFormatType, indications,
    UInt32.ofInt src.ricIndicationHeaderFormatType, UInt32.ofInt src.ricIndicationMessageFormatType,
    UInt32.ofInt src.ricCallProcessIdFormatType⟩

def decRanFuncDefInsert (src : Asn.RanFunctionDefinitionInsert) : Except String RanFuncDefInsert := do
  return ⟨← mapSized (oneTo 63)
    "src->ric_InsertStyle_List.list.count > 0 && src->ric_InsertStyle_List.list.count < 64" decSeqInsSty
    src.ricInsertStyleList⟩

def decAssocRanParam : Asn.NamedParameterItem → Except String SeqRanParam3 :=
  decNamedParameter "src->ranParameter_Definition == NULL && \"Not implemented\""

def decRanFuncCtrlAct (src : Asn.ControlActionItem) : Except String SeqCtrlAct2 := do
  require (0 < src.ricControlActionId ∧ src.ricControlActionId < 65536)
    "src->ric_ControlAction_ID > 0 && src->ric_ControlAction_ID < 65536"
  require (oneTo 150 src.ricControlActionName.length)
    "src->ric_ControlAction_Name.size > 0 && src->ric_ControlAction_Name.size < 151"
  let params ← decListSized (upTo 65535) "src->ran_ControlActionParameters_List->list.count < 65536" decAssocRanParam
    src.ranControlActionParametersList
  return ⟨UInt16.ofInt src.ricControlActionId, src.ricControlActionName, params⟩

def decRanParamCtrlOut : Asn.NamedParameterItem → Except String SeqRanParam3 :=
  decNamedParameter "src->ranParameter_Definition == NULL && \"Not implemented\""

/-- Of the parameters of an outcome, less are accepted than the encoder sends. -/
def decRanFuncCtrlIt (src : Asn.ControlItem) : Except String SeqCtrlStyle := do
  require (oneTo 150 src.ricControlStyleName.length)
    "src->ric_ControlStyle_Name.size > 0 && src->ric_ControlStyle_Name.size < 151"
  let actions ← decListSized (upTo 65535) "src->ric_ControlAction_List->list.count < 65536" decRanFuncCtrlAct
    src.ricControlActionList
  require (src.ricCallProcessIdFormatType = none) "src->ric_CallProcessIDFormat_Type == NULL && \"Not implemented\""
  let params ← decListSized (upTo 255) "src->ran_ControlOutcomeParameters_List->list.count < 256" decRanParamCtrlOut
    src.ranControlOutcomeParametersList
  return ⟨UInt32.ofInt src.ricControlStyleType, src.ricControlStyleName, actions,
    UInt32.ofInt src.ricControlHeaderFormatType, UInt32.ofInt src.ricControlMessageFormatType, none,
    UInt32.ofInt src.ricControlOutcomeFormatType, params⟩

def decRanFuncDefCtrl (src : Asn.RanFunctionDefinitionControl) : Except String RanFuncDefCtrl := do
  return ⟨← mapSized (oneTo 63)
    "src->ric_ControlStyle_List.list.count > 0 && src->ric_ControlStyle_List.list.count < 64" decRanFuncCtrlIt
    src.ricControlStyleList⟩

def decPolActRanParamIt : Asn.NamedParameterItem → Except String SeqRanParam3 :=
  decNamedParameter "src->ranParameter_Definition == NULL && \"Not implemented\""

def decPolCndRanParamIt : Asn.NamedParameterItem → Except String SeqRanParam3 :=
  decNamedParameter "src->ranParameter_Definition == NULL && \"not implemented\""

def decSeqPolActionIt (src : Asn.PolicyActionItem) : Except String SeqPolAction := do
  require (oneTo 150 src.ricPolicyActionName.length)
    "src->ric_PolicyAction_Name.size > 0 && src->ric_PolicyAction_Name.size < 151"
  let actionParams ← decListSized (upTo 65535) "src->ran_PolicyActionParameters_List->list.count <  65536"
    decPolActRanParamIt src.ranPolicyActionParametersList
  let conditionParams ← decListSized (upTo 65535) "src->ran_PolicyConditionParameters_List->list.count < 65536"
    decPolCndRanParamIt src.ranPolicyConditionParametersList
  return ⟨UInt32.ofInt src.ricPolicyActionId, src.ricPolicyActionName,
    UInt32.ofInt src.ricActionDefinitionFormatType, actionParams, conditionParams⟩

def decRanFuncDefPolicyIt (src : Asn.PolicyItem) : Except String SeqPolicySty := do
  require (oneTo 150 src.ricPolicyStyleName.length)
    "src->ric_PolicyStyle_Name.size > 0 && src->ric_PolicyStyle_Name.size < 151"
  let actions ← decListSized (upTo 65535) "src->ric_PolicyAction_List->list.count < 65536" decSeqPolActionIt
    src.ricPolicyActionList
  return ⟨UInt32.ofInt src.ricPolicyStyleType, src.ricPolicyStyleName,
    UInt32.ofInt src.ricSupportedEventTriggerStyleType, actions⟩

def decRanFuncDefPolicy (src : Asn.RanFunctionDefinitionPolicy) : Except String RanFuncDefPolicy := do
  return ⟨← mapSized (oneTo 63)
    "src->ric_PolicyStyle_List.list.count > 0 && src->ric_PolicyStyle_List.list.count < 64" decRanFuncDefPolicyIt
    src.ricPolicyStyleList⟩

/-- What `rc_dec_func_def_asn` makes of the structure that was decoded -/
def rcDecFuncDef (src : Asn.RanFunctionDefinition) : Except String FuncDef := do
  let evTrig ← mapOptional decRanFunDefEvTrg src.ranFunctionDefinitionEventTrigger
  let report ← mapOptional decRanFuncDefReport src.ranFunctionDefinitionReport
  let insert ← mapOptional decRanFuncDefInsert src.ranFunctionDefinitionInsert
  let ctrl ← mapOptional decRanFuncDefCtrl src.ranFunctionDefinitionControl
  let policy ← mapOptional decRanFuncDefPolicy src.ranFunctionDefinitionPolicy
  return ⟨decRanFuncName src.ranFunctionName, evTrig, report, insert, ctrl, policy⟩

end FlexRic.Sm.Rc
