import FlexRic.Sm.Rc.ActionDef
import FlexRic.Sm.Rc.Ctrl

/-! # Copies of values of the RC service model

The functions `cp_*` of `sm/rc_sm/ie` for event triggers, action definitions, indications, controls and outcomes. They
assert again what the coders do, and something the coders do not: that the items of a list value have identifiers. -/

namespace FlexRic.Sm.Rc

/-! ### Values of parameters -/

def cpRanParameterValue : RanParameterValue → RanParameterValue
  | .bool b => .bool b
  | .int i => .int i
  | .real x => .real x
  | .bitStr ba => .bitStr ba
  | .octetStr ba => .octetStr ba
  | .printableStr ba => .printableStr ba

mutual

def cpRanParamValType : RanParamValType → Except String RanParamValType
  | .flagTrue v => .ok (.flagTrue (cpRanParameterValue v))
  | .flagFalse v => .ok (.flagFalse (cpRanParameterValue v))
  | .strct ps => do
    require (oneTo 65535 ps.length) "src->sz_ran_param_struct > 0 && src->sz_ran_param_struct < 65536"
    return .strct (← cpSeqRanParams ps)
  | .lst is => do return .lst (← cpLstRanParams is)

/-- The loop over the members of a structure -/
def cpSeqRanParams : List (SeqRanParam RanParamValType) → Except String (List (SeqRanParam RanParamValType))
  | [] => .ok []
  | ⟨id, v⟩ :: ps => do
    require (0 < id) "src->ran_param_id > 0"
    let val ← cpRanParamValType v
    return ⟨id, val⟩ :: (← cpSeqRanParams ps)

/-- The loop over the items of a list -/
def cpLstRanParams : List (LstRanParam RanParamValType) → Except String (List (LstRanParam RanParamValType))
  | [] => .ok []
  | ⟨id, ps⟩ :: is => do
    require (0 < id) "src->ran_param_id > 0"
    require (oneTo 65535 ps.length) "src->sz_ran_param_struct > 0 && src->sz_ran_param_struct < 65536"
    let ps' ← cpSeqRanParams ps
    return ⟨id, ps'⟩ :: (← cpLstRanParams is)

end

def cpSeqRanParam (src : SeqRanParam RanParamValType) : Except String (SeqRanParam RanParamValType) := do
  require (0 < src.ranParamId) "src->ran_param_id > 0"
  let val ← cpRanParamValType src.ranParamVal
  return ⟨src.ranParamId, val⟩

def cpLstRanParam (src : LstRanParam RanParamValType) : Except String (LstRanParam RanParamValType) := do
  require (0 < src.ranParamId) "src->ran_param_id > 0"
  let params ← mapSized (oneTo 65535) "src->sz_ran_param_struct > 0 && src->sz_ran_param_struct < 65536" cpSeqRanParam
    src.ranParamStruct
  return ⟨src.ranParamId, params⟩

/-- `cp_seq_ran_param` once more -/
def cpRanParamReq : SeqRanParam RanParamValType → Except String (SeqRanParam RanParamValType) := cpSeqRanParam

def cpSeqRanParam2 (src : SeqRanParam RanParameterValue) : Except String (SeqRanParam RanParameterValue) := do
  require (0 < src.ranParamId) "src->ran_param_id > 0"
  return ⟨src.ranParamId, cpRanParameterValue src.ranParamVal⟩

/-! ### Tests of parameters -/

def cpRanParamTestCond : RanParamTestCond → RanParamTestCond
  | .comparison comp => .comparison comp
  | .presence presence => .presence presence

def cpRanParamElmKeyFalse (src : RanParamElmKeyFalse) : Except String RanParamElmKeyFalse := do
  let testCond := cpRanParamTestCond src.testCond
  require (src.value = none) "src->value == NULL && \"Not implemented\""
  require (src.logicalOr = none) "src->logical_or == NULL && \"Not implemented\""
  return ⟨testCond, none, none⟩

mutual

def cpRanParamTest : RanParamTest → Except String RanParamTest
  | ⟨id, type⟩ => do
    require (0 < id) "src->ran_param_id > 0"
    match type with
    | .lst ts => do
      require (oneTo 65535 ts.length) "src->sz_lst > 0 && src->sz_lst < 65536"
      return ⟨id, .lst (← cpRanParamTests ts)⟩
    | .strct ts => do
      require (oneTo 65535 ts.length) "src->sz_strct > 0 && src->sz_strct <  65536"
      return ⟨id, .strct (← cpRanParamTests ts)⟩
    | .flagTrue v => return ⟨id, .flagTrue (cpRanParameterValue v)⟩
    | .flagFalse e => return ⟨id, .flagFalse (← cpRanParamElmKeyFalse e)⟩

/-- The loops over the tests of a list and of a structure -/
def cpRanParamTests : List RanParamTest → Except String (List RanParamTest)
  | [] => .ok []
  | t :: ts => do
    let test ← cpRanParamTest t
    return test :: (← cpRanParamTests ts)

end

def cpRanParamCondCritDef (src : List RanParamTest) : Except String (List RanParamTest) :=
  mapSized (oneTo 255) "src->sz_ran_param_test > 0 && src->sz_ran_param_test < 256" cpRanParamTest src

/-! ### Event triggers -/

def cpNetworkInterfaceE2rc (src : NetworkInterface) : Except String NetworkInterface := do
  require (src.niId = none) "src->ni_id == NULL && \"Not implemented\""
  require (src.niMsgId = none) "src->ni_msg_id == NULL && \"Not implemented\""
  return ⟨src.niType, none, none⟩

def cpRrcMsgId (src : RrcMsgId) : RrcMsgId :=
  match src.type with
  | .lte lte => ⟨.lte lte, src.rrcMsgId⟩
  | .nr nr => ⟨.nr nr, src.rrcMsgId⟩

/-- The branches of `cp_msg_ev_trg` -/
def cpMsgEvTrgType : MsgType → Except String MsgType
  | .net net => do return .net (← cpNetworkInterfaceE2rc net)
  | .rrcMsg rrcMsg => return .rrcMsg (cpRrcMsgId rrcMsg)

def cpMsgEvTrg (src : MsgEvTrg) : Except String MsgEvTrg := do
  require (0 < src.evTriggerCondId) "src->ev_trigger_cond_id > 0"
  let msgType ← cpMsgEvTrgType src.msgType
  require (src.msgDir = none) "src->msg_dir == NULL && \"Not implemented\""
  require (src.assocUeInfo = none) "src->assoc_ue_info == NULL && \"Not implemented\""
  require (src.logOr = none) "src->log_or == NULL && \"Not implemented\""
  return ⟨src.evTriggerCondId, msgType, none, none, none⟩

def cpE2smRcEvTrgFrmt1 (src : EvTrgFrmt1) : Except String EvTrgFrmt1 := do
  let msgs ← mapSized (oneTo 65535) "src->sz_msg_ev_trg > 0 && src->sz_msg_ev_trg <  65536" cpMsgEvTrg src.msgEvTrg
  require (src.globalAssocUeInfo = none) "src->global_assoc_ue_info == NULL && \"Not implemeneted\""
  return ⟨msgs, none⟩

def cpE2smRcEvTrgFrmt2 (src : EvTrgFrmt2) : Except String EvTrgFrmt2 := do
  require (0 < src.callProcTypeId) "src->call_proc_type_id > 0"
  require (0 < src.callBreakId) "src->call_break_id > 0"
  require (src.assocE2NodeInfo = none) "src->assoc_e2_node_info == NULL && \"Not implemented\""
  require (src.assocUeInfo = none) "src->assoc_ue_info == NULL && \"Not implemented\""
  return ⟨src.callProcTypeId, src.callBreakId, none, none⟩

def cpE2NodeInfoChng (src : E2NodeInfoChng) : Except String E2NodeInfoChng := do
  require (0 < src.evTriggerCondId) "src->ev_trigger_cond_id > 0"
  require (oneTo 512 src.e2NodeInfoChngId.toNat) "src->e2_node_info_chng_id > 0 && src->e2_node_info_chng_id < 513"
  require (src.evTriggerCellInfo.isNone) "src->ev_trigger_cell_info == NULL && \"Not implemented\""
  require (src.logOr = none) "src->log_or == NULL && \"Not implemeneted\""
  return ⟨src.evTriggerCondId, src.e2NodeInfoChngId, none, none⟩

def cpE2smRcEvTrgFrmt3 (src : EvTrgFrmt3) : Except String EvTrgFrmt3 := do
  return ⟨← mapSized (oneTo 65535) "src->sz_e2_node_info_chng > 0 && src->sz_e2_node_info_chng <  65536"
    cpE2NodeInfoChng src.e2NodeInfoChng⟩

def cpRrcState (src : RrcState) : Except String RrcState := do
  require (src.logOr = none) "src->log_or == NULL && \"Not implemented\""
  return ⟨src.stateChngdTo, none⟩

def cpRrcStateLst (src : List RrcState) : Except String (List RrcState) :=
  mapSized (oneTo 8) "src->sz_rrc_state > 0 && src->sz_rrc_state < 9" cpRrcState src

/-- The branches of `cp_ue_info_chng` -/
def cpUeInfoChngTrigger : UeInfoChngTrigger → Except String UeInfoChngTrigger
  | .rrcState states => do return .rrcState (← cpRrcStateLst states)
  | .ueIdChange id => do
    require (oneTo 512 id.toNat) "src->ue_id_chng > 0 && src->ue_id_chng < 513"
    return .ueIdChange id
  | .l2State tests => do return .l2State (← cpRanParamCondCritDef tests)

def cpUeInfoChng (src : UeInfoChng) : Except String UeInfoChng := do
  require (0 < src.evTrigCondId) "src->ev_trig_cond_id > 0"
  let type ← cpUeInfoChngTrigger src.type
  require (src.assocUeInfo = none) "src->assoc_ue_info == NULL && \"Not implemented\""
  require (src.logOr = none) "src->log_or == NULL && \"Not implemented\""
  return ⟨src.evTrigCondId, type, none, none⟩

def cpE2smRcEvTrgFrmt4 (src : EvTrgFrmt4) : Except String EvTrgFrmt4 := do
  return ⟨← mapSized (oneTo 65535) "src->sz_ue_info_chng > 0 && src->sz_ue_info_chng < 65536" cpUeInfoChng
    src.ueInfoChng⟩

def cpE2smRcEvTrgFrmt5 (src : EvTrgFrmt5) : Except String EvTrgFrmt5 := do
  require (src.assocUeInfo = none) "src->assoc_ue_info == NULL && \"Not implemented\""
  require (src.assocCellInfo = none) "src->assoc_cell_info == NULL && \"not implemented\""
  return ⟨src.onDemand, none, none⟩

def cpE2smRcEventTrigger : EventTrigger → Except String EventTrigger
  | .frmt1 frmt1 => do return .frmt1 (← cpE2smRcEvTrgFrmt1 frmt1)
  | .frmt2 frmt2 => do return .frmt2 (← cpE2smRcEvTrgFrmt2 frmt2)
  | .frmt3 frmt3 => do return .frmt3 (← cpE2smRcEvTrgFrmt3 frmt3)
  | .frmt4 frmt4 => do return .frmt4 (← cpE2smRcEvTrgFrmt4 frmt4)
  | .frmt5 frmt5 => do return .frmt5 (← cpE2smRcEvTrgFrmt5 frmt5)

variable (I : Identities)

/-! ### Action definitions -/

def cpRanParamRef (msgId msgDef : String) (src : RanParamRef) : Except String RanParamRef := do
  require (0 < src.ranParamId) msgId
  require (src.ranParamDef = none) msgDef
  return ⟨src.ranParamId, none⟩

def cpParamReportDef : RanParamRef → Except String RanParamRef :=
  cpRanParamRef "src->ran_param_id > 0" "src->ran_param_def == NULL && \"Not implemented\""

def cpRanParamIns : RanParamRef → Except String RanParamRef :=
  cpRanParamRef "src->ran_id > 0" "src->def == NULL && \"Not implemented\""

def cpRanParamInsInd : RanParamRef → Except String RanParamRef :=
  cpRanParamRef "src->ran_param_id > 0" "src->ran_param_def == NULL && \"Not implemented\""

def cpE2smRcActDefFrmt1 (src : ActDefFrmt1) : Except String ActDefFrmt1 := do
  return ⟨← mapSized (oneTo 65535) "src->sz_param_report_def > 0 && src->sz_param_report_def < 65536" cpParamReportDef
    src.paramReportDef⟩

def cpPolicyAction (src : PolicyAction) : Except String PolicyAction := do
  require (0 < src.policyActId) "src->policy_act_id > 0"
  let params ← mapSized (upTo 65535) "src->sz_seq_ran_param <  65536" cpSeqRanParam src.seqRanParam
  require (src.polDec = none) "src->pol_dec == NULL && \"Not implemented\""
  return ⟨src.policyActId, params, none⟩

def cpPolicyCond (src : PolicyCond) : Except String PolicyCond := do
  let polAct ← cpPolicyAction src.polAct
  require (src.pol = none) "src->pol == NULL && \"Not implemented\""
  return ⟨polAct, none⟩

def cpE2smRcActDefFrmt2 (src : ActDefFrmt2) : Except String ActDefFrmt2 := do
  return ⟨← mapSized (oneTo 65535) "src->sz_policy_cond > 0 && src->sz_policy_cond < 65536" cpPolicyCond
    src.policyCond⟩

def cpE2smRcActDefFrmt3 (src : ActDefFrmt3 I.Ue) : Except String (ActDefFrmt3 I.Ue) := do
  require (0 < src.id) "src->id > 0"
  let params ← mapSized (oneTo 65535) "src->sz_ran_param_ins > 0 && src->sz_ran_param_ins < 65536" cpRanParamIns
    src.ranParam
  let ueId ← mapOptional I.cpUeIdE2sm src.ueId
  return ⟨src.id, params, ueId⟩

def cpSeqInsIndActDef (src : SeqInsIndActDef) : Except String SeqInsIndActDef := do
  require (0 < src.indId) "src->ind_id > 0"
  let params ← mapSized (upTo 65535) "src->sz_ran_param_ins_ind < 65536" cpRanParamInsInd src.ranParamInsInd
  return ⟨src.indId, params⟩

def cpSeqInsStyle (src : SeqInsStyle) : Except String SeqInsStyle := do
  let indications ← mapSized (oneTo 63) "src->sz_seq_ins_ind_act_def > 0 && src->sz_seq_ins_ind_act_def < 64"
    cpSeqInsIndActDef src.seqInsIndActDef
  return ⟨src.reqInsertStyle, indications⟩

def cpE2smRcActDefFrmt4 (src : ActDefFrmt4 I.Ue) : Except String (ActDefFrmt4 I.Ue) := do
  let styles ← mapSized (oneTo 4) "src->sz_seq_ins_style > 0 && src->sz_seq_ins_style < 5" cpSeqInsStyle src.seqInsStyle
  let ueId ← mapOptional I.cpUeIdE2sm src.ueId
  return ⟨styles, ueId⟩

def cpE2smRcActDefFormat : ActDefFormat I.Ue → Except String (ActDefFormat I.Ue)
  | .frmt1 frmt1 => do return .frmt1 (← cpE2smRcActDefFrmt1 frmt1)
  | .frmt2 frmt2 => do return .frmt2 (← cpE2smRcActDefFrmt2 frmt2)
  | .frmt3 frmt3 => do return .frmt3 (← cpE2smRcActDefFrmt3 I frmt3)
  | .frmt4 frmt4 => do return .frmt4 (← cpE2smRcActDefFrmt4 I frmt4)

def cpE2smRcActionDef (src : ActionDef I.Ue) : Except String (ActionDef I.Ue) := do
  return ⟨src.ricStyleType, ← cpE2smRcActDefFormat I src.format⟩

/-! ### Indication headers -/

/-- The identifier is optional, and asserted to be there. -/
def cpE2smRcIndHdrFrmt1 (src : IndHdrFrmt1) : Except String IndHdrFrmt1 :=
  match src.evTriggerId with
  | none => throw "src->ev_trigger_id != NULL && \"Optional but not much sense to be void\""
  | some id => do
    require (0 < id) "*src->ev_trigger_id > 0"
    return ⟨some id⟩

def cpE2smRcIndHdrFrmt2 (src : IndHdrFrmt2 I.Ue) : Except String (IndHdrFrmt2 I.Ue) := do
  let ueId ← I.cpUeIdE2sm src.ueId
  require (0 < src.insIndId) "src->ins_ind_id > 0"
  return ⟨ueId, src.ricStyleType, src.insIndId⟩

/-- `*src->ev_trigger_cond`, when it is there -/
def cpEvTriggerCond (id : UInt16) : Except String UInt16 := do
  require (0 < id) "*src->ev_trigger_cond > 0"
  return id

def cpE2smRcIndHdrFrmt3 (src : IndHdrFrmt3 I.Ue) : Except String (IndHdrFrmt3 I.Ue) := do
  let evTriggerCond ← mapOptional cpEvTriggerCond src.evTriggerCond
  let ueId ← mapOptional I.cpUeIdE2sm src.ueId
  return ⟨evTriggerCond, ueId⟩

def cpE2smRcIndHdr : IndHdr I.Ue → Except String (IndHdr I.Ue)
  | .frmt1 frmt1 => do return .frmt1 (← cpE2smRcIndHdrFrmt1 frmt1)
  | .frmt2 frmt2 => do return .frmt2 (← cpE2smRcIndHdrFrmt2 I frmt2)
  | .frmt3 frmt3 => do return .frmt3 (← cpE2smRcIndHdrFrmt3 I frmt3)

/-! ### Indication messages -/

def cpE2smRcIndMsgFrmt1 (src : IndMsgFrmt1) : Except String IndMsgFrmt1 := do
  return ⟨← mapSized (0 < ·) "src->sz_seq_ran_param > 0" cpSeqRanParam src.seqRanParam⟩

def cpSeqUeId (src : SeqUeId I.Ue) : Except String (SeqUeId I.Ue) := do
  let ueId ← I.cpUeIdE2sm src.ueId
  let params ← mapSized (0 < ·) "src->sz_seq_ran_param > 0" cpSeqRanParam src.seqRanParam
  return ⟨ueId, params⟩

def cpE2smRcIndMsgFrmt2 (src : IndMsgFrmt2 I.Ue) : Except String (IndMsgFrmt2 I.Ue) := do
  return ⟨← mapSized (oneTo 65535) "src->sz_seq_ue_id > 0 && src->sz_seq_ue_id < 65536" (cpSeqUeId I) src.seqUeId⟩

def cpSeqCellInfo (src : SeqCellInfo I.Cell) : Except String (SeqCellInfo I.Cell) := do
  let cell ← I.cpCellGlobalId src.cellGlobalId
  require (src.cellCtxInfo = none) "src->cell_ctx_info == NULL && \"Not implemented\""
  require (src.cellDel = none) "src->cell_del == NULL && \"Not implemented\""
  require (src.neighbourRelaTbl = none) "src->neighbour_rela_tbl == NULL && \"Not implemented\""
  return ⟨cell, none, none, none⟩

def cpE2smRcIndMsgFrmt3 (src : IndMsgFrmt3 I.Cell) : Except String (IndMsgFrmt3 I.Cell) := do
  return ⟨← mapSized (oneTo 65535) "src->sz_seq_cell_info > 0 && src->sz_seq_cell_info <  65536" (cpSeqCellInfo I)
    src.seqCellInfo⟩

def cpSeqUeInfo (src : SeqUeInfo I.Ue I.Cell) : Except String (SeqUeInfo I.Ue I.Cell) := do
  let ueId ← I.cpUeIdE2sm src.ueId
  require (src.ueCtxInfo = none) "src->ue_ctx_info == NULL && \"Not implemented\""
  let cell ← I.cpCellGlobalId src.cellGlobalId
  return ⟨ueId, none, cell⟩

def cpSeqCellInfo2 (src : SeqCellInfo2 I.Cell) : Except String (SeqCellInfo2 I.Cell) := do
  let cell ← I.cpCellGlobalId src.cellGlobalId
  require (src.cellCtxInfo = none) "src->cell_ctx_info == NULL && \"Not implemented\""
  require (src.neighbourRelaTbl = none) "src->neighbour_rela_tbl == NULL && \"Not implemented\""
  return ⟨cell, none, none⟩

def cpE2smRcIndMsgFrmt4 (src : IndMsgFrmt4 I.Ue I.Cell) : Except String (IndMsgFrmt4 I.Ue I.Cell) := do
  let ues ← src.seqUeInfo.mapM (cpSeqUeInfo I)
  let cells ← src.seqCellInfo2.mapM (cpSeqCellInfo2 I)
  return ⟨ues, cells⟩

def cpE2smRcIndMsgFrmt5 (src : IndMsgFrmt5) : Except String IndMsgFrmt5 := do
  return ⟨← src.seqRanParam.mapM cpSeqRanParam⟩

def cpSeqInsIndAct2 (src : SeqInsIndAct2) : Except String SeqInsIndAct2 := do
  require (0 < src.insIndId) "src->ins_ind_id > 0"
  let params ← src.ranParamReq.mapM cpRanParamReq
  return ⟨src.insIndId, params⟩

def cpSeqInsStyle2 (src : SeqInsStyle2) : Except String SeqInsStyle2 := do
  let indications ← mapSized (oneTo 63) "src->sz_seq_ins_ind_act_2 > 0 && src->sz_seq_ins_ind_act_2 < 64"
    cpSeqInsIndAct2 src.seqInsIndAct
  return ⟨src.indInsStyle, indications⟩

def cpE2smRcIndMsgFrmt6 (src : IndMsgFrmt6) : Except String IndMsgFrmt6 := do
  return ⟨← mapSized (oneTo 63) "src->sz_seq_ins_style_ind_msg > 0 && src->sz_seq_ins_style_ind_msg < 64" cpSeqInsStyle2
    src.seqInsStyle⟩

def cpE2smRcIndMsg : IndMsg I.Ue I.Cell → Except String (IndMsg I.Ue I.Cell)
  | .frmt1 frmt1 => do return .frmt1 (← cpE2smRcIndMsgFrmt1 frmt1)
  | .frmt2 frmt2 => do return .frmt2 (← cpE2smRcIndMsgFrmt2 I frmt2)
  | .frmt3 frmt3 => do return .frmt3 (← cpE2smRcIndMsgFrmt3 I frmt3)
  | .frmt4 frmt4 => do return .frmt4 (← cpE2smRcIndMsgFrmt4 I frmt4)
  | .frmt5 frmt5 => do return .frmt5 (← cpE2smRcIndMsgFrmt5 frmt5)
  | .frmt6 frmt6 => do return .frmt6 (← cpE2smRcIndMsgFrmt6 frmt6)

/-! ### Control headers -/

def cpE2smRcCtrlHdrFrmt1 (src : CtrlHdrFrmt1 I.Ue) : Except String (CtrlHdrFrmt1 I.Ue) := do
  let ueId ← I.cpUeIdE2sm src.ueId
  require (0 < src.ctrlActId) "src->ctrl_act_id > 0"
  require (src.ricCtrlDecision = none) "src->ric_ctrl_decision == NULL && \"Not implemented\""
  return ⟨ueId, src.ricStyleType, src.ctrlActId, none⟩

/-- The UE is optional, and asserted to be there. -/
def cpE2smRcCtrlHdrFrmt2 (src : CtrlHdrFrmt2 I.Ue) : Except String (CtrlHdrFrmt2 I.Ue) :=
  match src.ueId with
  | none => throw "src->ue_id != NULL && \"Optional, but not much sense to be void\""
  | some ueId => do
    let ueId ← I.cpUeIdE2sm ueId
    require (src.ricCtrlDec = none) "src->ric_ctrl_dec == NULL && \"Not implemented\""
    return ⟨some ueId, none⟩

def cpE2smRcCtrlHdr : CtrlHdr I.Ue → Except String (CtrlHdr I.Ue)
  | .frmt1 frmt1 => do return .frmt1 (← cpE2smRcCtrlHdrFrmt1 I frmt1)
  | .frmt2 frmt2 => do return .frmt2 (← cpE2smRcCtrlHdrFrmt2 I frmt2)

/-! ### Control messages -/

def cpE2smRcCtrlMsgFrmt1 (src : CtrlMsgFrmt1) : Except String CtrlMsgFrmt1 := do
  return ⟨← mapSized (upTo 65535) "src->sz_ran_param < 65536" cpSeqRanParam src.ranParam⟩

def cpSeqCtrlAct (src : SeqCtrlAct) : Except String SeqCtrlAct := do
  require (0 < src.ctrlActId) "src->ctrl_act_id > 0"
  let frmt1 ← mapOptional cpE2smRcCtrlMsgFrmt1 src.ctrlMsgFrmt1
  return ⟨src.ctrlActId, frmt1⟩

def cpSeqCtrlSma (src : SeqCtrlSma) : Except String SeqCtrlSma := do
  let actions ← mapSized (oneTo 63) "src->sz_seq_ctrl_act > 0 && src->sz_seq_ctrl_act < 64" cpSeqCtrlAct src.seqCtrlAct
  return ⟨src.ctrlStyle, actions⟩

def cpE2smRcCtrlMsgFrmt2 (src : CtrlMsgFrmt2) : Except String CtrlMsgFrmt2 := do
  return ⟨← mapSized (oneTo 63) "src->sz_seq_ctrl_sma > 0 && src->sz_seq_ctrl_sma < 64" cpSeqCtrlSma src.action⟩

def cpE2smRcCtrlMsg : CtrlMsg → Except String CtrlMsg
  | .frmt1 frmt1 => do return .frmt1 (← cpE2smRcCtrlMsgFrmt1 frmt1)
  | .frmt2 frmt2 => do return .frmt2 (← cpE2smRcCtrlMsgFrmt2 frmt2)

/-! ### Control outcomes -/

def cpE2smRcCtrlOutFrmt1 (src : CtrlOutFrmt1) : Except String CtrlOutFrmt1 := do
  return ⟨← mapSized (upTo 255) "src->sz_seq_ran_param_2 < 256" cpSeqRanParam2 src.ranParam⟩

def cpSeqCtrlActOut (src : SeqCtrlActOut) : Except String SeqCtrlActOut := do
  require (0 < src.ctrlActId) "src->ctrl_act_id > 0"
  let params ← mapSized (oneTo 255) "src->sz_ran_param > 0 && src->sz_ran_param < 256" cpSeqRanParam2 src.ranParam
  return ⟨src.ctrlActId, params⟩

def cpSeqCtrlStyMulOut (src : SeqCtrlStyMulOut) : Except String SeqCtrlStyMulOut := do
  let outcomes ← mapSized (oneTo 63) "src->sz_seq_ctrl_act_out > 0 && src->sz_seq_ctrl_act_out < 64" cpSeqCtrlActOut
    src.seqCtrlActOut
  return ⟨src.indCtrlStyle, outcomes⟩

def cpE2smRcCtrlOutFrmt2 (src : CtrlOutFrmt2) : Except String CtrlOutFrmt2 := do
  return ⟨← mapSized (oneTo 63) "src->sz_seq_ctrl_sty_mul_out > 0 && src->sz_seq_ctrl_sty_mul_out < 64"
    cpSeqCtrlStyMulOut src.seqCtrlStyMulOut⟩

def cpE2smRcCtrlOutFrmt3 (src : CtrlOutFrmt3) : Except String CtrlOutFrmt3 := do
  return ⟨← mapSized (upTo 255) "src->sz_seq_ran_param < 256" cpSeqRanParam src.ranParam⟩

def cpE2smRcCtrlOut : CtrlOut → Except String CtrlOut
  | .frmt1 frmt1 => do return .frmt1 (← cpE2smRcCtrlOutFrmt1 frmt1)
  | .frmt2 frmt2 => do return .frmt2 (← cpE2smRcCtrlOutFrmt2 frmt2)
  | .frmt3 frmt3 => do return .frmt3 (← cpE2smRcCtrlOutFrmt3 frmt3)

/-! ### The data of the procedures -/

/-- `rc_sub_data_t` -/
structure RcSubData (Ue : Type) where
  et : EventTrigger
  ad : List (ActionDef Ue)

/-- `e2sm_rc_cpid_t` -/
structure Cpid where
  ricCpid : UInt32
  deriving DecidableEq, Repr

/-- `rc_ind_data_t` -/
structure RcIndData (Ue Cell : Type) where
  hdr : IndHdr Ue
  msg : IndMsg Ue Cell
  procId : Option Cpid

/-- `rc_ctrl_req_data_t` -/
structure RcCtrlReqData (Ue : Type) where
  hdr : CtrlHdr Ue
  msg : CtrlMsg

/-- One definition is supported; the loop copies the first one. -/
def cpRcSubData (src : RcSubData I.Ue) : Except String (RcSubData I.Ue) := do
  let et ← cpE2smRcEventTrigger src.et
  require (oneTo 16 src.ad.length) "src->sz_ad > 0 && src->sz_ad < 17"
  require (src.ad.length = 1) "src->sz_ad == 1 && \"Only one supported\""
  match src.ad with
  | [] => throw "read past the end of the array"
  | ad :: _ => do
    let ad ← (List.replicate src.ad.length ad).mapM (cpE2smRcActionDef I)
    return ⟨et, ad⟩

def cpE2smRcCpid (src : Cpid) : Except String Cpid := do
  require (0 < src.ricCpid) "src->ric_cpid > 0"
  return ⟨src.ricCpid⟩

def cpRcIndData (src : RcIndData I.Ue I.Cell) : Except String (RcIndData I.Ue I.Cell) := do
  let hdr ← cpE2smRcIndHdr I src.hdr
  let msg ← cpE2smRcIndMsg I src.msg
  let procId ← mapOptional cpE2smRcCpid src.procId
  return ⟨hdr, msg, procId⟩

def cpRcCtrlReqData (src : RcCtrlReqData I.Ue) : Except String (RcCtrlReqData I.Ue) := do
  let hdr ← cpE2smRcCtrlHdr I src.hdr
  let msg ← cpE2smRcCtrlMsg src.msg
  return ⟨hdr, msg⟩

end FlexRic.Sm.Rc
