import FlexRic.Sm.Rc.EventTriggerTypes

/-! # Action definitions of the RC service model

The four formats of an action definition, mapped to their ASN.1 structures and back (`rc_enc_action_def_asn` and
`rc_dec_action_def_asn` without the coding itself). The identities of UEs are a parameter; in an action definition they
are not implemented. -/

namespace FlexRic.Sm.Rc

/-! ### The values of the code -/

/-- `param_report_def_t`, `ran_param_ins_t` and `ran_param_ins_ind_t`: an identifier, and the definition of the
parameter -/
structure RanParamRef where
  ranParamId : UInt32
  ranParamDef : Option Unread

/-- `e2sm_rc_act_def_frmt_1_t` -/
structure ActDefFrmt1 where
  paramReportDef : List RanParamRef

/-- `policy_action_t` -/
structure PolicyAction where
  policyActId : UInt16
  seqRanParam : List (SeqRanParam RanParamValType)
  polDec : Option Unread

/-- `policy_cond_t` -/
structure PolicyCond where
  polAct : PolicyAction
  pol : Option Unread

/-- `e2sm_rc_act_def_frmt_2_t` -/
structure ActDefFrmt2 where
  policyCond : List PolicyCond

/-- `e2sm_rc_act_def_frmt_3_t` -/
structure ActDefFrmt3 (Ue : Type) where
  id : UInt16
  ranParam : List RanParamRef
  ueId : Option Ue

/-- `seq_ins_ind_act_def_t` -/
structure SeqInsIndActDef where
  indId : UInt16
  ranParamInsInd : List RanParamRef

/-- `seq_ins_style_t` -/
structure SeqInsStyle where
  reqInsertStyle : UInt32
  seqInsIndActDef : List SeqInsIndActDef

/-- `e2sm_rc_act_def_frmt_4_t` -/
structure ActDefFrmt4 (Ue : Type) where
  seqInsStyle : List SeqInsStyle
  ueId : Option Ue

/-- The format of an `e2sm_rc_action_def_t` and its union -/
inductive ActDefFormat (Ue : Type)
  | frmt1 (frmt1 : ActDefFrmt1)
  | frmt2 (frmt2 : ActDefFrmt2)
  | frmt3 (frmt3 : ActDefFrmt3 Ue)
  | frmt4 (frmt4 : ActDefFrmt4 Ue)

/-- `e2sm_rc_action_def_t` -/
structure ActionDef (Ue : Type) where
  ricStyleType : UInt32
  format : ActDefFormat Ue

/-! ### The values of the ASN.1 types -/

namespace Asn

/-- `E2SM_RC_ActionDefinition_Format1_Item_t`, `..._Format3_Item_t` and `..._Format4_RANP_Item_t` -/
structure RanParameterRef where
  ranParameterId : Nat
  ranParameterDefinition : Option Unread

/-- `E2SM_RC_ActionDefinition_Format1_t` -/
structure ActionDefinitionFormat1 where
  ranPToBeReportedList : List RanParameterRef

/-- `RIC_PolicyAction_t` -/
structure RicPolicyAction where
  ricPolicyActionId : Int
  ranParametersList : Option (List (RanParameterItem RanParameterValueType))
  ricPolicyDecision : Option Unread

/-- `E2SM_RC_ActionDefinition_Format2_Item_t` -/
structure ActionDefinitionFormat2Item where
  ricPolicyAction : RicPolicyAction
  ricPolicyConditionDefinition : Option Unread

/-- `E2SM_RC_ActionDefinition_Format2_t` -/
structure ActionDefinitionFormat2 where
  ricPolicyConditionsList : List ActionDefinitionFormat2Item

/-- `E2SM_RC_ActionDefinition_Format3_t` -/
structure ActionDefinitionFormat3 (Ue : Type) where
  ricInsertIndicationId : Int
  ranPInsertIndicationList : List RanParameterRef
  ueId : Option Ue

/-- `E2SM_RC_ActionDefinition_Format4_Indication_Item_t` -/
structure ActionDefinitionFormat4IndicationItem where
  ricInsertIndicationId : Int
  ranPInsertIndicationList : List RanParameterRef

/-- `E2SM_RC_ActionDefinition_Format4_Style_Item_t` -/
structure ActionDefinitionFormat4StyleItem where
  requestedInsertStyleType : Int
  ricInsertIndicationList : List ActionDefinitionFormat4IndicationItem

/-- `E2SM_RC_ActionDefinition_Format4_t` -/
structure ActionDefinitionFormat4 (Ue : Type) where
  ricInsertStyleList : List ActionDefinitionFormat4StyleItem
  ueId : Option Ue

/-- The choice of an `E2SM_RC_ActionDefinition_t` -/
inductive ActionDefinitionFormats (Ue : Type)
  | nothing
  | format1 (format1 : ActionDefinitionFormat1)
  | format2 (format2 : ActionDefinitionFormat2)
  | format3 (format3 : ActionDefinitionFormat3 Ue)
  | format4 (format4 : ActionDefinitionFormat4 Ue)

/-- `E2SM_RC_ActionDefinition_t` -/
structure ActionDefinition (Ue : Type) where
  ricStyleType : Int
  formats : ActionDefinitionFormats Ue

end Asn

variable {Ue UeAsn : Type}

/-! ### To ASN.1 -/

def encRanParamRef (msgId msgDef : String) (src : RanParamRef) : Except String Asn.RanParameterRef := do
  require (0 < src.ranParamId) msgId
  require (src.ranParamDef = none) msgDef
  return ⟨src.ranParamId.toNat, none⟩

def cpRcActDefFrmt1It : RanParamRef → Except String Asn.RanParameterRef :=
  encRanParamRef "src->ran_param_id > 0" "src->ran_param_def == NULL && \"Not implemented\""

def cpActDefFrmt1 (src : ActDefFrmt1) : Except String Asn.ActionDefinitionFormat1 := do
  return ⟨← mapSized (oneTo 65535) "src->sz_param_report_def > 0 && src->sz_param_report_def < 65535+1" cpRcActDefFrmt1It
    src.paramReportDef⟩

def cpRicPolicyActionRanParam :
    SeqRanParam RanParamValType → Except String (Asn.RanParameterItem Asn.RanParameterValueType) :=
  encRanParamItem cpRanParamValueType

-- The list is allocated when it is to have something.
def cpRicPolicyAction (src : PolicyAction) : Except String Asn.RicPolicyAction := do
  require (0 < src.policyActId) "src-> policy_act_id > 0"
  let params ← src.seqRanParam.mapM cpRicPolicyActionRanParam
  require (src.polDec = none) "src->pol_dec == NULL && \"Not implemented\""
  return ⟨src.policyActId.toNat, if 0 < src.seqRanParam.length then some params else none, none⟩

def cpRcActDefFrmt2It (src : PolicyCond) : Except String Asn.ActionDefinitionFormat2Item := do
  let policyAction ← cpRicPolicyAction src.polAct
  require (src.pol = none) "src->pol == NULL && \"Not implemented\""
  return ⟨policyAction, none⟩

def cpActDefFrmt2 (src : ActDefFrmt2) : Except String Asn.ActionDefinitionFormat2 := do
  return ⟨← mapSized (0 < ·) "src->sz_policy_cond > 0" cpRcActDefFrmt2It src.policyCond⟩

def cpRcActDefFrmt3It : RanParamRef → Except String Asn.RanParameterRef :=
  encRanParamRef "src->ran_id > 0" "src->def == NULL && \"Not implemented\""

def cpActDefFrmt3 (src : ActDefFrmt3 Ue) : Except String (Asn.ActionDefinitionFormat3 UeAsn) := do
  require (0 < src.id) "src->id > 0"
  let params ← mapSized (0 < ·) "src->sz_ran_param_ins > 0" cpRcActDefFrmt3It src.ranParam
  require (src.ueId.isNone) "src->ue_id == NULL && \"not implmeented\""
  return ⟨src.id.toNat, params, none⟩

def encRanParamInsInd : RanParamRef → Except String Asn.RanParameterRef :=
  encRanParamRef "src->ran_param_id > 0" "src->ran_param_def == NULL && \"Not implemented\""

def encSeqInsIndActDef (src : SeqInsIndActDef) : Except String Asn.ActionDefinitionFormat4IndicationItem := do
  require (0 < src.indId) "src->ind_id > 0"
  let params ← mapSized (oneTo 65535) "src->sz_ran_param_ins_ind > 0 && src->sz_ran_param_ins_ind < 65535+1"
    encRanParamInsInd src.ranParamInsInd
  return ⟨src.indId.toNat, params⟩

def cpSeqInsStyles (src : SeqInsStyle) : Except String Asn.ActionDefinitionFormat4StyleItem := do
  let indications ← mapSized (oneTo 63) "src->sz_seq_ins_ind_act_def > 0 && src->sz_seq_ins_ind_act_def < 64"
    encSeqInsIndActDef src.seqInsIndActDef
  return ⟨src.reqInsertStyle.toNat, indications⟩

def cpActDefFrmt4 (src : ActDefFrmt4 Ue) : Except String (Asn.ActionDefinitionFormat4 UeAsn) := do
  let styles ← mapSized (oneTo 4) "src->sz_seq_ins_style > 0 && src->sz_seq_ins_style < 5" cpSeqInsStyles src.seqInsStyle
  require (src.ueId.isNone) "src->ue_id == NULL && \"Not implemented\""
  return ⟨styles, none⟩

def cpActDefFormat : ActDefFormat Ue → Except String (Asn.ActionDefinitionFormats UeAsn)
  | .frmt1 frmt1 => do return .format1 (← cpActDefFrmt1 frmt1)
  | .frmt2 frmt2 => do return .format2 (← cpActDefFrmt2 frmt2)
  | .frmt3 frmt3 => do return .format3 (← cpActDefFrmt3 frmt3)
  | .frmt4 frmt4 => do return .format4 (← cpActDefFrmt4 frmt4)

/-- The structure that `rc_enc_action_def_asn` encodes -/
def rcEncActionDef (src : ActionDef Ue) : Except String (Asn.ActionDefinition UeAsn) := do
  return ⟨src.ricStyleType.toNat, ← cpActDefFormat src.format⟩

/-! ### From ASN.1 -/

def decRanParamRef (src : Asn.RanParameterRef) : Except String RanParamRef := do
  require (0 < src.ranParameterId) "src->ranParameter_ID > 0"
  require (src.ranParameterDefinition = none) "src->ranParameter_Definition == NULL && \"Not implemented\""
  return ⟨UInt32.ofNat src.ranParameterId, none⟩

def decParamReportDef : Asn.RanParameterRef → Except String RanParamRef := decRanParamRef

def decActDefFrmt1 (src : Asn.ActionDefinitionFormat1) : Except String ActDefFrmt1 := do
  return ⟨← mapSized (oneTo 65535)
    "src->ranP_ToBeReported_List.list.count > 0 && src->ranP_ToBeReported_List.list.count < 65535 + 1" decParamReportDef
    src.ranPToBeReportedList⟩

def decSeqRanParam :
    Asn.RanParameterItem Asn.RanParameterValueType → Except String (SeqRanParam RanParamValType) :=
  decRanParamItemInRange decRanParamValueType

/-- Of the parameters of an action, less than 65535 are accepted, one less than everywhere else. -/
def decSeqRanParams :
    Option (List (Asn.RanParameterItem Asn.RanParameterValueType)) → Except String (List (SeqRanParam RanParamValType))
  | none => .ok []
  | some params =>
    mapSized (oneTo 65534)
      "src->ranParameters_List->list.count > 0 && src->ranParameters_List->list.count < 65535" decSeqRanParam params

def decPolicyAction (src : Asn.RicPolicyAction) : Except String PolicyAction := do
  require (0 < src.ricPolicyActionId ∧ src.ricPolicyActionId < 65535 + 1)
    "src->ric_PolicyAction_ID > 0 && src->ric_PolicyAction_ID < 65535 + 1"
  let params ← decSeqRanParams src.ranParametersList
  require (src.ricPolicyDecision = none) "src->ric_PolicyDecision == NULL && \"Not implemented\""
  return ⟨UInt16.ofInt src.ricPolicyActionId, params, none⟩

def decPolicyCond (src : Asn.ActionDefinitionFormat2Item) : Except String PolicyCond := do
  let polAct ← decPolicyAction src.ricPolicyAction
  require (src.ricPolicyConditionDefinition = none) "src->ric_PolicyConditionDefinition == NULL && \"Not implemented\""
  return ⟨polAct, none⟩

def decActDefFrmt2 (src : Asn.ActionDefinitionFormat2) : Except String ActDefFrmt2 := do
  return ⟨← mapSized (oneTo 65535)
    "src->ric_PolicyConditions_List.list.count > 0 && src->ric_PolicyConditions_List.list.count <   65535 + 1"
    decPolicyCond src.ricPolicyConditionsList⟩

def decRanParamIns : Asn.RanParameterRef → Except String RanParamRef := decRanParamRef

def decActDefFrmt3 (src : Asn.ActionDefinitionFormat3 UeAsn) : Except String (ActDefFrmt3 Ue) := do
  require (0 < src.ricInsertIndicationId ∧ src.ricInsertIndicationId < 65535 + 1)
    "src->ric_InsertIndication_ID > 0 && src->ric_InsertIndication_ID < 65535 + 1"
  let params ← mapSized (oneTo 65535)
    "src->ranP_InsertIndication_List.list.count > 0 && src->ranP_InsertIndication_List.list.count <   65535 + 1"
    decRanParamIns src.ranPInsertIndicationList
  require (src.ueId.isNone) "src->ueID == NULL && \"Not implemented\""
  return ⟨UInt16.ofInt src.ricInsertIndicationId, params, none⟩

def decRanParamInsInd : Asn.RanParameterRef → Except String RanParamRef := decRanParamRef

/-- The identifier loses what a `uint16_t` has no room for. -/
def decSeqInsIndActDef (src : Asn.ActionDefinitionFormat4IndicationItem) : Except String SeqInsIndActDef := do
  require (0 < src.ricInsertIndicationId) "src->ric_InsertIndication_ID > 0"
  let params ← mapSized (oneTo 65535)
    "src->ranP_InsertIndication_List.list.count > 0 && src->ranP_InsertIndication_List.list.count < 65535+1"
    decRanParamInsInd src.ranPInsertIndicationList
  return ⟨UInt16.ofInt src.ricInsertIndicationId, params⟩

def decSeqInsStyles (src : Asn.ActionDefinitionFormat4StyleItem) : Except String SeqInsStyle := do
  let indications ← mapSized (oneTo 63)
    "src->ric_InsertIndication_List.list.count > 0 && src->ric_InsertIndication_List.list.count < 64" decSeqInsIndActDef
    src.ricInsertIndicationList
  return ⟨UInt32.ofInt src.requestedInsertStyleType, indications⟩

def decActDefFrmt4 (src : Asn.ActionDefinitionFormat4 UeAsn) : Except String (ActDefFrmt4 Ue) := do
  let styles ← mapSized (oneTo 4)
    "src->ric_InsertStyle_List.list.count > 0 && src->ric_InsertStyle_List.list.count < 5" decSeqInsStyles
    src.ricInsertStyleList
  require (src.ueId.isNone) "src->ueID == NULL && \"Not implemented\""
  return ⟨styles, none⟩

def decActDefFormat : Asn.ActionDefinitionFormats UeAsn → Except String (ActDefFormat Ue)
  | .format1 format1 => do return .frmt1 (← decActDefFrmt1 format1)
  | .format2 format2 => do return .frmt2 (← decActDefFrmt2 format2)
  | .format3 format3 => do return .frmt3 (← decActDefFrmt3 format3)
  | .format4 format4 => do return .frmt4 (← decActDefFrmt4 format4)
  | .nothing => .error "Unknown type"

/-- What `rc_dec_action_def_asn` makes of the structure that was decoded -/
def rcDecActionDef (src : Asn.ActionDefinition UeAsn) : Except String (ActionDef Ue) := do
  return ⟨UInt32.ofInt src.ricStyleType, ← decActDefFormat src.formats⟩

end FlexRic.Sm.Rc
