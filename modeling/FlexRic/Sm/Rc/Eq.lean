import FlexRic.Sm.Kpm.DataCoding
import FlexRic.Sm.Rc.Copy
import FlexRic.Ue.Coding
import FlexRic.Ue.Eq
import FlexRic.Util.ByteArray

/-! # Comparisons of values of the RC service model

The functions `eq_*` of `sm/rc_sm/ie`, for two values that share no memory. Some of them assert that there is no
difference. -/

namespace FlexRic.Sm.Rc
open Kpm (CellGlobalId Cgi encCellGlobalIdAsn decCellGlobalIdAsn)
open Ue (UeId UeIdAsn encUeIdAsn decUeIdAsn eqNumber eqE2smPlmn eqUeIdE2sm cpE2smPlmn cpUeIdE2sm)
open Util (eqByteArray)

/-! ### Identities of UEs and cells -/

def eqCellGlobalId : CellGlobalId → CellGlobalId → Except String Bool
  | .nrCgi plmn0 id0, .nrCgi plmn1 id1 => both (eqE2smPlmn plmn0 plmn1) (same (id0 = id1))
  | .eutra plmn0 id0, .eutra plmn1 id1 => both (eqE2smPlmn plmn0 plmn1) (same (id0 = id1))
  | _, _ => return false

def cpCellGlobalId : CellGlobalId → CellGlobalId
  | .nrCgi plmnId nrCellId => .nrCgi (cpE2smPlmn plmnId) nrCellId
  | .eutra plmnId eutraCellId => .eutra plmnId eutraCellId

/-- The identities of `lib/sm` -/
abbrev identities : Identities where
  Ue := UeId
  UeAsn := UeIdAsn
  Cell := CellGlobalId
  CellAsn := Cgi
  encUeIdAsn := encUeIdAsn
  decUeIdAsn := decUeIdAsn
  cpUeIdE2sm id := .ok (cpUeIdE2sm id)
  encCellGlobalIdAsn := encCellGlobalIdAsn
  decCellGlobalIdAsn := decCellGlobalIdAsn
  cpCellGlobalId id := .ok (cpCellGlobalId id)

/-- `eq_ue_id_e2sm` asserts that both identities are there. -/
def eqUeIdPresent : Option UeId → Option UeId → Except String Bool
  | some m0, some m1 => eqUeIdE2sm m0 m1
  | none, _ => throw "m0 != NULL"
  | some _, none => throw "m1 != NULL"

/-! ### Values of parameters -/

/-- The exponent of the number is full, and its fraction is not zero. -/
def isnan (x : UInt64) : Prop := 0x7FF0000000000000 < x &&& 0x7FFFFFFFFFFFFFFF

instance : DecidablePred isnan := fun _ => inferInstanceAs (Decidable (_ < _))

/-- The number with one zero instead of two. Numbers are equal (`==`) when these are the same. -/
def oneZero (x : UInt64) : UInt64 := if x = 0x8000000000000000 then 0 else x

def eqRanParameterValue : RanParameterValue → RanParameterValue → Except String Bool
  | .bool m0, .bool m1 => same (m0 = m1)
  | .int m0, .int m1 => same (m0 = m1)
  | .real m0, .real m1 => do
    requireBoth (¬isnan ·) (fun m => s!"!isnan({m}->real_ran)") m0 m1
    same (oneZero m0 = oneZero m1)
  | .bitStr m0, .bitStr m1 => eqByteArray m0 m1
  | .octetStr m0, .octetStr m1 => eqByteArray m0 m1
  | .printableStr m0, .printableStr m1 => eqByteArray m0 m1
  | _, _ => return false

/-- `assert(m->sz_ran_param_struct > 0 && m->sz_ran_param_struct < 65536)` -/
def requireStructs (m0 m1 : Nat) : Except String Unit :=
  requireBoth (oneTo 65535) (fun m => s!"{m}->sz_ran_param_struct > 0 && {m}->sz_ran_param_struct < 65536") m0 m1

mutual

def eqRanParamValType : RanParamValType → RanParamValType → Except String Bool
  | .flagTrue m0, .flagTrue m1 => eqRanParameterValue m0 m1
  | .flagFalse m0, .flagFalse m1 => eqRanParameterValue m0 m1
  | .strct m0, .strct m1 => both (same (m0.length = m1.length)) do
    requireStructs m0.length m1.length
    eqSeqRanParams m0 m1
  | .lst m0, .lst m1 => both (same (m0.length = m1.length)) (eqLstRanParams m0 m1)
  | _, _ => return false

/-- The loop over the members of two structures -/
def eqSeqRanParams : List (SeqRanParam RanParamValType) → List (SeqRanParam RanParamValType) → Except String Bool
  | [], _ => return true
  | _ :: _, [] => throw "read past the end of the array"
  | ⟨id0, v0⟩ :: m0, ⟨id1, v1⟩ :: m1 =>
    both (both (same (id0 = id1)) (eqRanParamValType v0 v1)) (eqSeqRanParams m0 m1)

/-- The loop over the items of two lists -/
def eqLstRanParams : List (LstRanParam RanParamValType) → List (LstRanParam RanParamValType) → Except String Bool
  | [], _ => return true
  | _ :: _, [] => throw "read past the end of the array"
  | ⟨id0, ps0⟩ :: m0, ⟨id1, ps1⟩ :: m1 =>
    both (both (same (id0 = id1)) <| both (same (ps0.length = ps1.length)) do
      requireStructs ps0.length ps1.length
      eqSeqRanParams ps0 ps1) (eqLstRanParams m0 m1)

end

def eqSeqRanParam (m0 m1 : SeqRanParam RanParamValType) : Except String Bool :=
  both (same (m0.ranParamId = m1.ranParamId)) (eqRanParamValType m0.ranParamVal m1.ranParamVal)

def eqRanParamStruct (m0 m1 : List (SeqRanParam RanParamValType)) : Except String Bool :=
  both (same (m0.length = m1.length)) do
    requireStructs m0.length m1.length
    eqArray eqSeqRanParam m0 m1

def eqLstRanParam (m0 m1 : LstRanParam RanParamValType) : Except String Bool :=
  both (same (m0.ranParamId = m1.ranParamId)) (eqRanParamStruct m0.ranParamStruct m1.ranParamStruct)

def eqRanParamReq (m0 m1 : SeqRanParam RanParamValType) : Except String Bool := do
  requireBoth (0 < ·) (fun m => s!"{m}->ran_param_id > 0") m0.ranParamId m1.ranParamId
  both (same (m0.ranParamId = m1.ranParamId)) (eqRanParamValType m0.ranParamVal m1.ranParamVal)

def eqSeqRanParam2 (m0 m1 : SeqRanParam RanParameterValue) : Except String Bool := do
  requireBoth (0 < ·) (fun m => s!"{m}->ran_param_id > 0") m0.ranParamId m1.ranParamId
  both (same (m0.ranParamId = m1.ranParamId)) (eqRanParameterValue m0.ranParamVal m1.ranParamVal)

/-! ### Tests of parameters -/

/-- A member that is not implemented -/
def requireAbsent (member : String) (m0 m1 : Option Unread) : Except String Unit :=
  requireBoth (· = none) (fun m => s!"{m}->{member} == NULL && \"Not implemented\"") m0 m1

def eqRanParamTestCond : RanParamTestCond → RanParamTestCond → Except String Bool
  | .comparison m0, .comparison m1 => same (m0 = m1)
  | .presence m0, .presence m1 => same (m0 = m1)
  | _, _ => return false

def eqRanParamElmKeyFalse (m0 m1 : RanParamElmKeyFalse) : Except String Bool :=
  both (eqRanParamTestCond m0.testCond m1.testCond) do
    requireAbsent "value" m0.value m1.value
    requireAbsent "logical_or" m0.logicalOr m1.logicalOr
    return true

mutual

def eqRanParamTest : RanParamTest → RanParamTest → Except String Bool
  | ⟨id0, t0⟩, ⟨id1, t1⟩ => both (same (id0 = id1)) <|
    match t0, t1 with
    | .lst m0, .lst m1 => orAssert "0!=0" (both (same (m0.length = m1.length)) (eqRanParamTests m0 m1))
    | .strct m0, .strct m1 => orAssert "0!=0" (both (same (m0.length = m1.length)) (eqRanParamTests m0 m1))
    | .flagTrue m0, .flagTrue m1 => orAssert "0!=0" (eqRanParameterValue m0 m1)
    | .flagFalse m0, .flagFalse m1 => orAssert "0!=0" (eqRanParamElmKeyFalse m0 m1)
    | _, _ => return false

/-- The loops over the tests of two lists and of two structures -/
def eqRanParamTests : List RanParamTest → List RanParamTest → Except String Bool
  | [], _ => return true
  | _ :: _, [] => throw "read past the end of the array"
  | t0 :: m0, t1 :: m1 => both (eqRanParamTest t0 t1) (eqRanParamTests m0 m1)

end

def eqRanParamCondCritDef : List RanParamTest → List RanParamTest → Except String Bool := eqList eqRanParamTest

/-! ### Event triggers -/

def eqNetworkInterfaceE2rc (m0 m1 : NetworkInterface) : Except String Bool :=
  both (same (m0.niType = m1.niType)) do
    requireAbsent "ni_id" m0.niId m1.niId
    requireAbsent "ni_msg_id" m0.niMsgId m1.niMsgId
    return true

def eqRrcClass : RrcClass → RrcClass → Except String Bool
  | .lte m0, .lte m1 => same (m0 = m1)
  | .nr m0, .nr m1 => same (m0 = m1)
  | _, _ => return false

def eqRrcMsgId (m0 m1 : RrcMsgId) : Except String Bool :=
  both (eqRrcClass m0.type m1.type) (same (m0.rrcMsgId = m1.rrcMsgId))

/-- The branches of `eq_msg_ev_trg` -/
def eqMsgType : MsgType → MsgType → Except String Bool
  | .net m0, .net m1 => eqNetworkInterfaceE2rc m0 m1
  | .rrcMsg m0, .rrcMsg m1 => eqRrcMsgId m0 m1
  | _, _ => return false

def eqMsgEvTrg (m0 m1 : MsgEvTrg) : Except String Bool :=
  both (same (m0.evTriggerCondId = m1.evTriggerCondId)) <| both (eqMsgType m0.msgType m1.msgType) do
    requireAbsent "msg_dir" m0.msgDir m1.msgDir
    requireAbsent "assoc_ue_info" m0.assocUeInfo m1.assocUeInfo
    requireAbsent "log_or" m0.logOr m1.logOr
    return true

def eqE2smRcEvTrgFrmt1 (m0 m1 : EvTrgFrmt1) : Except String Bool := do
  requireBoth (oneTo 65535) (fun m => s!"{m}->sz_msg_ev_trg > 0 && {m}->sz_msg_ev_trg < 65535 + 1") m0.msgEvTrg.length
    m1.msgEvTrg.length
  both (eqList eqMsgEvTrg m0.msgEvTrg m1.msgEvTrg) do
    requireAbsent "global_assoc_ue_info" m0.globalAssocUeInfo m1.globalAssocUeInfo
    return true

def eqE2smRcEvTrgFrmt2 (m0 m1 : EvTrgFrmt2) : Except String Bool := do
  requireBoth (0 < ·) (fun m => s!"{m}->call_proc_type_id > 0 && \"Out of range\"") m0.callProcTypeId m1.callProcTypeId
  both (same (m0.callProcTypeId = m1.callProcTypeId)) do
    requireBoth (0 < ·) (fun m => s!"{m}->call_break_id > 0 && \"Out of range\"") m0.callBreakId m1.callBreakId
    both (same (m0.callBreakId = m1.callBreakId)) do
      requireAbsent "assoc_e2_node_info" m0.assocE2NodeInfo m1.assocE2NodeInfo
      requireAbsent "assoc_ue_info" m0.assocUeInfo m1.assocUeInfo
      return true

/-- Nothing is compared. -/
def eqE2NodeInfoChng (m0 m1 : E2NodeInfoChng) : Except String Bool := do
  requireBoth (· ≠ 0) (fun m => s!"{m}->ev_trigger_cond_id") m0.evTriggerCondId m1.evTriggerCondId
  requireBoth (oneTo 512) (fun m => s!"{m}->e2_node_info_chng_id > 0 &&  {m}->e2_node_info_chng_id < 513")
    m0.e2NodeInfoChngId.toNat m1.e2NodeInfoChngId.toNat
  requireBoth (fun o => o.isNone) (fun m => s!"{m}->ev_trigger_cell_info == NULL && \"Not implemented\"")
    m0.evTriggerCellInfo m1.evTriggerCellInfo
  requireBoth (· = none) (fun m => s!"{m}->log_or == NULL && \"Not implemented\"") m0.logOr m1.logOr
  return true

def eqE2smRcEvTrgFrmt3 (m0 m1 : EvTrgFrmt3) : Except String Bool := do
  requireBoth (oneTo 65535)
    (fun m => s!"{m}->sz_e2_node_info_chng > 0 && {m}->sz_e2_node_info_chng < 65535 + 1 && \"Out of range\"")
    m0.e2NodeInfoChng.length m1.e2NodeInfoChng.length
  eqList eqE2NodeInfoChng m0.e2NodeInfoChng m1.e2NodeInfoChng

def eqRrcState (m0 m1 : RrcState) : Except String Bool :=
  both (same (m0.stateChngdTo = m1.stateChngdTo)) do
    requireAbsent "log_or" m0.logOr m1.logOr
    return true

def eqRrcStateLst : List RrcState → List RrcState → Except String Bool := eqList eqRrcState

/-- The branches of `eq_ue_info_chng` -/
def eqUeInfoChngTrigger : UeInfoChngTrigger → UeInfoChngTrigger → Except String Bool
  | .rrcState m0, .rrcState m1 => orAssert "0!=0" (eqRrcStateLst m0 m1)
  | .ueIdChange m0, .ueIdChange m1 => orAssert "0!=0" (same (m0 = m1))
  | .l2State m0, .l2State m1 => orAssert "0!=0" (eqRanParamCondCritDef m0 m1)
  | _, _ => return false

def eqUeInfoChng (m0 m1 : UeInfoChng) : Except String Bool := do
  requireBoth (0 < ·) (fun m => s!"{m}->ev_trig_cond_id > 0") m0.evTrigCondId m1.evTrigCondId
  both (same (m0.evTrigCondId = m1.evTrigCondId)) <| both (eqUeInfoChngTrigger m0.type m1.type) do
    requireBoth (· = none) (fun m => s!"{m}->assoc_ue_info == NULL && \"not implemented\"") m0.assocUeInfo m1.assocUeInfo
    requireAbsent "log_or" m0.logOr m1.logOr
    return true

def eqE2smRcEvTrgFrmt4 (m0 m1 : EvTrgFrmt4) : Except String Bool := do
  requireBoth (oneTo 65535) (fun m => s!"{m}->sz_ue_info_chng > 0 && {m}->sz_ue_info_chng < 65535 + 1")
    m0.ueInfoChng.length m1.ueInfoChng.length
  eqList eqUeInfoChng m0.ueInfoChng m1.ueInfoChng

def eqE2smRcEvTrgFrmt5 (m0 m1 : EvTrgFrmt5) : Except String Bool :=
  both (same (m0.onDemand = m1.onDemand)) do
    requireAbsent "assoc_ue_info" m0.assocUeInfo m1.assocUeInfo
    requireAbsent "assoc_cell_info" m0.assocCellInfo m1.assocCellInfo
    return true

/-- The formats are not compared: of the second trigger, the member for the format of the first one is read. -/
def eqE2smRcEventTrigger : EventTrigger → EventTrigger → Except String Bool
  | .frmt1 m0, .frmt1 m1 => eqE2smRcEvTrgFrmt1 m0 m1
  | .frmt2 m0, .frmt2 m1 => eqE2smRcEvTrgFrmt2 m0 m1
  | .frmt3 m0, .frmt3 m1 => eqE2smRcEvTrgFrmt3 m0 m1
  | .frmt4 m0, .frmt4 m1 => eqE2smRcEvTrgFrmt4 m0 m1
  | .frmt5 m0, .frmt5 m1 => eqE2smRcEvTrgFrmt5 m0 m1
  | _, _ => throw "read of another member of the union"

/-! ### Action definitions -/

/-- A reference to a parameter, of which the definition is not implemented -/
def eqRanParamRef (member : String) (m0 m1 : RanParamRef) : Except String Bool :=
  both (same (m0.ranParamId = m1.ranParamId)) do
    requireAbsent member m0.ranParamDef m1.ranParamDef
    return true

def eqParamReportDef (m0 m1 : RanParamRef) : Except String Bool := do
  requireBoth (0 < ·) (fun m => s!"{m}->ran_param_id > 0") m0.ranParamId m1.ranParamId
  eqRanParamRef "ran_param_def" m0 m1

def eqRanParamIns : RanParamRef → RanParamRef → Except String Bool := eqRanParamRef "def"

def eqRanParamInsInd (m0 m1 : RanParamRef) : Except String Bool := do
  requireBoth (0 < ·) (fun m => s!"{m}->ran_param_id > 0") m0.ranParamId m1.ranParamId
  eqRanParamRef "ran_param_def" m0 m1

def eqE2smRcActDefFrmt1 (m0 m1 : ActDefFrmt1) : Except String Bool := do
  requireBoth (0 < ·) (fun m => s!"{m}->sz_param_report_def > 0") m0.paramReportDef.length m1.paramReportDef.length
  eqList eqParamReportDef m0.paramReportDef m1.paramReportDef

/-- One parameter less than the copy takes is admitted. -/
def eqPolicyAction (m0 m1 : PolicyAction) : Except String Bool := do
  requireBoth (0 < ·) (fun m => s!"{m}->policy_act_id > 0") m0.policyActId m1.policyActId
  both (same (m0.policyActId = m1.policyActId)) do
    requireBoth (upTo 65534) (fun m => s!"{m}->sz_seq_ran_param <  65535") m0.seqRanParam.length m1.seqRanParam.length
    both (eqList eqSeqRanParam m0.seqRanParam m1.seqRanParam) do
      requireAbsent "pol_dec" m0.polDec m1.polDec
      return true

def eqPolicyCond (m0 m1 : PolicyCond) : Except String Bool :=
  both (eqPolicyAction m0.polAct m1.polAct) do
    requireBoth (· = none) (fun m => s!"{m}->pol == NULL && \"Not implmented\"") m0.pol m1.pol
    return true

def eqE2smRcActDefFrmt2 (m0 m1 : ActDefFrmt2) : Except String Bool := do
  requireBoth (oneTo 65535) (fun m => s!"{m}->sz_policy_cond > 0 && {m}->sz_policy_cond <  65535 +1")
    m0.policyCond.length m1.policyCond.length
  eqList eqPolicyCond m0.policyCond m1.policyCond

section Ue
variable {Ue : Type}

/-- The identity of the UE, which the copy takes, is not implemented. -/
def eqE2smRcActDefFrmt3 (m0 m1 : ActDefFrmt3 Ue) : Except String Bool :=
  both (same (m0.id = m1.id)) do
    requireBoth (0 < ·) (fun m => s!"{m}->sz_ran_param_ins > 0") m0.ranParam.length m1.ranParam.length
    both (eqList eqRanParamIns m0.ranParam m1.ranParam) do
      requireBoth (fun o => o.isNone) (fun m => s!"{m}->ue_id == NULL && \"Not implemented\"") m0.ueId m1.ueId
      return true

/-- The identifiers of the indications are not compared. -/
def eqSeqInsIndActDef (m0 m1 : SeqInsIndActDef) : Except String Bool := do
  requireBoth (0 < ·) (fun m => s!"{m}->ind_id > 0") m0.indId m1.indId
  eqList eqRanParamInsInd m0.ranParamInsInd m1.ranParamInsInd

def eqSeqInsStyle (m0 m1 : SeqInsStyle) : Except String Bool :=
  both (same (m0.reqInsertStyle = m1.reqInsertStyle)) do
    requireBoth (oneTo 63) (fun m => s!"{m}->sz_seq_ins_ind_act_def > 0 && {m}->sz_seq_ins_ind_act_def < 64")
      m0.seqInsIndActDef.length m1.seqInsIndActDef.length
    eqList eqSeqInsIndActDef m0.seqInsIndActDef m1.seqInsIndActDef

def eqE2smRcActDefFrmt4 (m0 m1 : ActDefFrmt4 Ue) : Except String Bool := do
  requireBoth (oneTo 4) (fun m => s!"{m}->sz_seq_ins_style > 0 && {m}->sz_seq_ins_style < 5") m0.seqInsStyle.length
    m1.seqInsStyle.length
  both (eqList eqSeqInsStyle m0.seqInsStyle m1.seqInsStyle) do
    requireBoth (fun o => o.isNone) (fun m => s!"{m}->ue_id == NULL && \"Not implemented\"") m0.ueId m1.ueId
    return true

def eqE2smRcActDefFormat : ActDefFormat Ue → ActDefFormat Ue → Except String Bool
  | .frmt1 m0, .frmt1 m1 => eqE2smRcActDefFrmt1 m0 m1
  | .frmt2 m0, .frmt2 m1 => eqE2smRcActDefFrmt2 m0 m1
  | .frmt3 m0, .frmt3 m1 => eqE2smRcActDefFrmt3 m0 m1
  | .frmt4 m0, .frmt4 m1 => eqE2smRcActDefFrmt4 m0 m1
  | _, _ => return false

def eqE2smRcActionDef (m0 m1 : ActionDef Ue) : Except String Bool :=
  both (same (m0.ricStyleType = m1.ricStyleType)) (eqE2smRcActDefFormat m0.format m1.format)

end Ue

/-! ### Indication headers -/

def eqE2smRcIndHdrFrmt1 (m0 m1 : IndHdrFrmt1) : Except String Bool := eqPresent eqNumber m0.evTriggerId m1.evTriggerId

/-- A difference between the UEs is asserted not to be there. -/
def eqE2smRcIndHdrFrmt2 (m0 m1 : IndHdrFrmt2 UeId) : Except String Bool :=
  both (orAssert "0!=0 && \"Debug assert\"" (eqUeIdE2sm m0.ueId m1.ueId)) <|
    both (same (m0.ricStyleType = m1.ricStyleType)) do
      requireBoth (0 < ·) (fun m => s!"{m}->ins_ind_id > 0") m0.insIndId m1.insIndId
      same (m0.insIndId = m1.insIndId)

/-- `*m0->ev_trigger_cond != *m1->ev_trigger_cond` -/
def eqEvTriggerCond (m0 m1 : UInt16) : Except String Bool := do
  requireBoth (0 < ·) (fun m => s!"*{m}->ev_trigger_cond > 0") m0 m1
  same (m0 = m1)

def eqE2smRcIndHdrFrmt3 (m0 m1 : IndHdrFrmt3 UeId) : Except String Bool :=
  both (eqPresent eqEvTriggerCond m0.evTriggerCond m1.evTriggerCond) (eqPresent eqUeIdE2sm m0.ueId m1.ueId)

def eqE2smRcIndHdr : IndHdr UeId → IndHdr UeId → Except String Bool
  | .frmt1 m0, .frmt1 m1 => eqE2smRcIndHdrFrmt1 m0 m1
  | .frmt2 m0, .frmt2 m1 => eqE2smRcIndHdrFrmt2 m0 m1
  | .frmt3 m0, .frmt3 m1 => eqE2smRcIndHdrFrmt3 m0 m1
  | _, _ => return false

/-! ### Indication messages -/

/-- A comparison of elements of which a difference is asserted not to be there -/
def eqDebug {α : Type} (eq : α → α → Except String Bool) (m0 m1 : α) : Except String Bool :=
  orAssert "0!=0 && \"Debug\"" (eq m0 m1)

def eqE2smRcIndMsgFrmt1 (m0 m1 : IndMsgFrmt1) : Except String Bool :=
  eqList (eqDebug eqSeqRanParam) m0.seqRanParam m1.seqRanParam

/-- The numbers of parameters are not compared. -/
def eqSeqUeId (m0 m1 : SeqUeId UeId) : Except String Bool :=
  both (eqUeIdE2sm m0.ueId m1.ueId) do
    requireBoth (oneTo 65535) (fun m => s!"{m}->sz_seq_ran_param > 0 && {m}->sz_seq_ran_param <  65535+1")
      m0.seqRanParam.length m1.seqRanParam.length
    eqArray eqSeqRanParam m0.seqRanParam m1.seqRanParam

def eqE2smRcIndMsgFrmt2 (m0 m1 : IndMsgFrmt2 UeId) : Except String Bool :=
  eqList (eqDebug eqSeqUeId) m0.seqUeId m1.seqUeId

def eqSeqCellInfo (m0 m1 : SeqCellInfo CellGlobalId) : Except String Bool :=
  both (eqCellGlobalId m0.cellGlobalId m1.cellGlobalId) do
    requireBoth (· = none) (fun m => s!"{m}->cell_ctx_info== NULL && \"Not implemented\"") m0.cellCtxInfo m1.cellCtxInfo
    requireAbsent "cell_del" m0.cellDel m1.cellDel
    requireAbsent "neighbour_rela_tbl" m0.neighbourRelaTbl m1.neighbourRelaTbl
    return true

def eqE2smRcIndMsgFrmt3 (m0 m1 : IndMsgFrmt3 CellGlobalId) : Except String Bool :=
  eqList (eqDebug eqSeqCellInfo) m0.seqCellInfo m1.seqCellInfo

def eqSeqUeInfo (m0 m1 : SeqUeInfo UeId CellGlobalId) : Except String Bool :=
  both (eqUeIdE2sm m0.ueId m1.ueId) do
    requireAbsent "ue_ctx_info" m0.ueCtxInfo m1.ueCtxInfo
    eqCellGlobalId m0.cellGlobalId m1.cellGlobalId

def eqSeqCellInfo2 (m0 m1 : SeqCellInfo2 CellGlobalId) : Except String Bool :=
  both (eqCellGlobalId m0.cellGlobalId m1.cellGlobalId) do
    requireAbsent "cell_ctx_info" m0.cellCtxInfo m1.cellCtxInfo
    requireBoth (· = none) (fun m => s!"{m}->neighbour_rela_tbl == NULL && \"not implemented\"") m0.neighbourRelaTbl
      m1.neighbourRelaTbl
    return true

/-- The numbers of cells are not compared. -/
def eqE2smRcIndMsgFrmt4 (m0 m1 : IndMsgFrmt4 UeId CellGlobalId) : Except String Bool := do
  requireBoth (upTo 65535) (fun m => s!"{m}->sz_seq_ue_info < 65535+1") m0.seqUeInfo.length m1.seqUeInfo.length
  both (eqList (eqDebug eqSeqUeInfo) m0.seqUeInfo m1.seqUeInfo) do
    requireBoth (upTo 65535) (fun m => s!"{m}->sz_seq_cell_info_2 < 65535+1") m0.seqCellInfo2.length
      m1.seqCellInfo2.length
    eqArray (eqDebug eqSeqCellInfo2) m0.seqCellInfo2 m1.seqCellInfo2

def eqE2smRcIndMsgFrmt5 (m0 m1 : IndMsgFrmt5) : Except String Bool :=
  eqList (eqDebug eqSeqRanParam) m0.seqRanParam m1.seqRanParam

def eqSeqInsIndAct2 (m0 m1 : SeqInsIndAct2) : Except String Bool :=
  both (same (m0.insIndId = m1.insIndId)) do
    requireBoth (upTo 65535) (fun m => s!"{m}->sz_ran_param_req < 65536") m0.ranParamReq.length m1.ranParamReq.length
    eqList eqRanParamReq m0.ranParamReq m1.ranParamReq

/-- The numbers of indications are not compared. -/
def eqSeqInsStyle2 (m0 m1 : SeqInsStyle2) : Except String Bool :=
  both (same (m0.indInsStyle = m1.indInsStyle)) do
    requireBoth (oneTo 63) (fun m => s!"{m}->sz_seq_ins_ind_act_2 > 0 && {m}->sz_seq_ins_ind_act_2 < 64")
      m0.seqInsIndAct.length m1.seqInsIndAct.length
    eqArray eqSeqInsIndAct2 m0.seqInsIndAct m1.seqInsIndAct

def eqE2smRcIndMsgFrmt6 (m0 m1 : IndMsgFrmt6) : Except String Bool := do
  requireBoth (oneTo 63) (fun m => s!"{m}->sz_seq_ins_style_ind_msg > 0 && {m}->sz_seq_ins_style_ind_msg < 64")
    m0.seqInsStyle.length m1.seqInsStyle.length
  eqList (eqDebug eqSeqInsStyle2) m0.seqInsStyle m1.seqInsStyle

def eqE2smRcIndMsg : IndMsg UeId CellGlobalId → IndMsg UeId CellGlobalId → Except String Bool
  | .frmt1 m0, .frmt1 m1 => eqE2smRcIndMsgFrmt1 m0 m1
  | .frmt2 m0, .frmt2 m1 => eqE2smRcIndMsgFrmt2 m0 m1
  | .frmt3 m0, .frmt3 m1 => eqE2smRcIndMsgFrmt3 m0 m1
  | .frmt4 m0, .frmt4 m1 => eqE2smRcIndMsgFrmt4 m0 m1
  | .frmt5 m0, .frmt5 m1 => eqE2smRcIndMsgFrmt5 m0 m1
  | .frmt6 m0, .frmt6 m1 => eqE2smRcIndMsgFrmt6 m0 m1
  | _, _ => return false

/-! ### Control headers -/

def eqE2smRcCtrlHdrFrmt1 (m0 m1 : CtrlHdrFrmt1 UeId) : Except String Bool :=
  both (eqUeIdE2sm m0.ueId m1.ueId) <| both (same (m0.ricStyleType = m1.ricStyleType)) do
    requireBoth (0 < ·) (fun m => s!"{m}->ctrl_act_id > 0") m0.ctrlActId m1.ctrlActId
    both (same (m0.ctrlActId = m1.ctrlActId)) do
      requireAbsent "ric_ctrl_decision" m0.ricCtrlDecision m1.ricCtrlDecision
      return true

/-- Before the decisions are read, it is the UEs that are looked at again. -/
def eqE2smRcCtrlHdrFrmt2 (m0 m1 : CtrlHdrFrmt2 UeId) : Except String Bool :=
  both (eqUeIdPresent m0.ueId m1.ueId) <|
    if (m0.ricCtrlDec.isSome ∨ m1.ricCtrlDec.isSome) ∧ (m0.ueId.isNone ∨ m1.ueId.isNone) then return false
    else eqRead m0.ricCtrlDec m1.ricCtrlDec

def eqE2smRcCtrlHdr : CtrlHdr UeId → CtrlHdr UeId → Except String Bool
  | .frmt1 m0, .frmt1 m1 => eqE2smRcCtrlHdrFrmt1 m0 m1
  | .frmt2 m0, .frmt2 m1 => eqE2smRcCtrlHdrFrmt2 m0 m1
  | _, _ => return false

/-! ### Control messages -/

def eqE2smRcCtrlMsgFrmt1 (m0 m1 : CtrlMsgFrmt1) : Except String Bool := eqList eqSeqRanParam m0.ranParam m1.ranParam

def eqSeqCtrlAct (m0 m1 : SeqCtrlAct) : Except String Bool := do
  requireBoth (0 < ·) (fun m => s!"{m}->ctrl_act_id > 0") m0.ctrlActId m1.ctrlActId
  both (same (m0.ctrlActId = m1.ctrlActId)) (eqPresent eqE2smRcCtrlMsgFrmt1 m0.ctrlMsgFrmt1 m1.ctrlMsgFrmt1)

def eqSeqCtrlSma (m0 m1 : SeqCtrlSma) : Except String Bool :=
  both (same (m0.ctrlStyle = m1.ctrlStyle)) do
    requireBoth (oneTo 63) (fun m => s!"{m}->sz_seq_ctrl_act > 0 && {m}->sz_seq_ctrl_act < 64") m0.seqCtrlAct.length
      m1.seqCtrlAct.length
    eqList eqSeqCtrlAct m0.seqCtrlAct m1.seqCtrlAct

def eqE2smRcCtrlMsgFrmt2 (m0 m1 : CtrlMsgFrmt2) : Except String Bool := do
  requireBoth (oneTo 63) (fun m => s!"{m}->sz_seq_ctrl_sma > 0 && {m}->sz_seq_ctrl_sma < 64") m0.action.length
    m1.action.length
  eqList eqSeqCtrlSma m0.action m1.action

def eqE2smRcCtrlMsg : CtrlMsg → CtrlMsg → Except String Bool
  | .frmt1 m0, .frmt1 m1 => eqE2smRcCtrlMsgFrmt1 m0 m1
  | .frmt2 m0, .frmt2 m1 => eqE2smRcCtrlMsgFrmt2 m0 m1
  | _, _ => return false

/-! ### Control outcomes -/

def eqE2smRcCtrlOutFrmt1 (m0 m1 : CtrlOutFrmt1) : Except String Bool := do
  requireBoth (upTo 255) (fun m => s!"{m}->sz_seq_ran_param_2 < 256") m0.ranParam.length m1.ranParam.length
  eqList eqSeqRanParam2 m0.ranParam m1.ranParam

def eqSeqCtrlActOut (m0 m1 : SeqCtrlActOut) : Except String Bool := do
  requireBoth (0 < ·) (fun m => s!"{m}->ctrl_act_id > 0") m0.ctrlActId m1.ctrlActId
  both (same (m0.ctrlActId = m1.ctrlActId)) do
    requireBoth (oneTo 255) (fun m => s!"{m}->sz_ran_param > 0 && {m}->sz_ran_param < 256") m0.ranParam.length
      m1.ranParam.length
    eqList eqSeqRanParam2 m0.ranParam m1.ranParam

def eqSeqCtrlStyMulOut (m0 m1 : SeqCtrlStyMulOut) : Except String Bool :=
  both (same (m0.indCtrlStyle = m1.indCtrlStyle)) do
    requireBoth (oneTo 63) (fun m => s!"{m}->sz_seq_ctrl_act_out > 0 && {m}->sz_seq_ctrl_act_out < 64")
      m0.seqCtrlActOut.length m1.seqCtrlActOut.length
    eqList eqSeqCtrlActOut m0.seqCtrlActOut m1.seqCtrlActOut

def eqE2smRcCtrlOutFrmt2 (m0 m1 : CtrlOutFrmt2) : Except String Bool := do
  requireBoth (oneTo 63) (fun m => s!"{m}->sz_seq_ctrl_sty_mul_out > 0 && {m}->sz_seq_ctrl_sty_mul_out < 64")
    m0.seqCtrlStyMulOut.length m1.seqCtrlStyMulOut.length
  both (orAssert "0!=0 && \"Debug\"" (same (m0.seqCtrlStyMulOut.length = m1.seqCtrlStyMulOut.length)))
    (eqArray (eqDebug eqSeqCtrlStyMulOut) m0.seqCtrlStyMulOut m1.seqCtrlStyMulOut)

def eqE2smRcCtrlOutFrmt3 (m0 m1 : CtrlOutFrmt3) : Except String Bool := do
  requireBoth (upTo 255) (fun m => s!"{m}->sz_seq_ran_param < 256") m0.ranParam.length m1.ranParam.length
  eqList eqSeqRanParam m0.ranParam m1.ranParam

def eqE2smRcCtrlOut : CtrlOut → CtrlOut → Except String Bool
  | .frmt1 m0, .frmt1 m1 => eqE2smRcCtrlOutFrmt1 m0 m1
  | .frmt2 m0, .frmt2 m1 => eqE2smRcCtrlOutFrmt2 m0 m1
  | .frmt3 m0, .frmt3 m1 => eqE2smRcCtrlOutFrmt3 m0 m1
  | _, _ => return false

/-! ### The data of the procedures -/

def eqRcSubData (m0 m1 : RcSubData UeId) : Except String Bool :=
  both (eqE2smRcEventTrigger m0.et m1.et) do
    requireBoth (oneTo 16) (fun m => s!"{m}->sz_ad > 0 && {m}->sz_ad < 17") m0.ad.length m1.ad.length
    eqList eqE2smRcActionDef m0.ad m1.ad

def eqE2smRcCpid (m0 m1 : Cpid) : Except String Bool := do
  requireBoth (0 < ·) (fun m => s!"{m}->ric_cpid > 0") m0.ricCpid m1.ricCpid
  same (m0.ricCpid = m1.ricCpid)

def eqRcIndData (m0 m1 : RcIndData UeId CellGlobalId) : Except String Bool :=
  both (eqDebug eqE2smRcIndHdr m0.hdr m1.hdr) <| both (eqDebug eqE2smRcIndMsg m0.msg m1.msg)
    (eqDebug (eqPresent eqE2smRcCpid) m0.procId m1.procId)

def eqRcCtrlReqData (m0 m1 : RcCtrlReqData UeId) : Except String Bool :=
  both (eqE2smRcCtrlHdr m0.hdr m1.hdr) (eqE2smRcCtrlMsg m0.msg m1.msg)

end FlexRic.Sm.Rc
