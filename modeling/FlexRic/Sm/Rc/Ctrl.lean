import FlexRic.Sm.Rc.Ind

/-! # Control messages and outcomes of the RC service model

The two formats of a control header and of a control message and the three of a control outcome, mapped to their ASN.1
structures and back (`rc_enc_ctrl_hdr_asn`, `rc_enc_ctrl_msg_asn`, `rc_enc_ctrl_out_asn` and their decoders without the
coding itself). -/

namespace FlexRic.Sm.Rc

/-! ### The values of the code -/

/-- `e2sm_rc_ctrl_hdr_frmt_1_t` -/
structure CtrlHdrFrmt1 (Ue : Type) where
  ueId : Ue
  ricStyleType : UInt32
  ctrlActId : UInt16
  ricCtrlDecision : Option Unread

/-- `ric_ctrl_dec_ctrl_hdr_frmt_2_e` -/
inductive RicCtrlDec
  | accept
  | reject
  | end_
  deriving DecidableEq, Repr

/-- `e2sm_rc_ctrl_hdr_frmt_2_t` -/
structure CtrlHdrFrmt2 (Ue : Type) where
  ueId : Option Ue
  ricCtrlDec : Option RicCtrlDec

/-- `e2sm_rc_ctrl_hdr_t` -/
inductive CtrlHdr (Ue : Type)
  | frmt1 (frmt1 : CtrlHdrFrmt1 Ue)
  | frmt2 (frmt2 : CtrlHdrFrmt2 Ue)

/-- `e2sm_rc_ctrl_msg_frmt_1_t` -/
structure CtrlMsgFrmt1 where
  ranParam : List (SeqRanParam RanParamValType)

/-- `seq_ctrl_act_t` -/
structure SeqCtrlAct where
  ctrlActId : UInt16
  ctrlMsgFrmt1 : Option CtrlMsgFrmt1

/-- `seq_ctrl_sma_t` -/
structure SeqCtrlSma where
  ctrlStyle : UInt32
  seqCtrlAct : List SeqCtrlAct

/-- `e2sm_rc_ctrl_msg_frmt_2_t` -/
structure CtrlMsgFrmt2 where
  action : List SeqCtrlSma

/-- `e2sm_rc_ctrl_msg_t` -/
inductive CtrlMsg
  | frmt1 (frmt1 : CtrlMsgFrmt1)
  | frmt2 (frmt2 : CtrlMsgFrmt2)

/-- `e2sm_rc_ctrl_out_frmt_1_t` -/
structure CtrlOutFrmt1 where
  ranParam : List (SeqRanParam RanParameterValue)

/-- `seq_ctrl_act_out_t` -/
structure SeqCtrlActOut where
  ctrlActId : UInt16
  ranParam : List (SeqRanParam RanParameterValue)

/-- `seq_ctrl_sty_mul_out_t` -/
structure SeqCtrlStyMulOut where
  indCtrlStyle : UInt32
  seqCtrlActOut : List SeqCtrlActOut

/-- `e2sm_rc_ctrl_out_frmt_2_t` -/
structure CtrlOutFrmt2 where
  seqCtrlStyMulOut : List SeqCtrlStyMulOut

/-- `e2sm_rc_ctrl_out_frmt_3_t` -/
structure CtrlOutFrmt3 where
  ranParam : List (SeqRanParam RanParamValType)

/-- `e2sm_rc_ctrl_out_t` -/
inductive CtrlOut
  | frmt1 (frmt1 : CtrlOutFrmt1)
  | frmt2 (frmt2 : CtrlOutFrmt2)
  | frmt3 (frmt3 : CtrlOutFrmt3)

/-! ### The values of the ASN.1 types -/

namespace Asn

/-- `E2SM_RC_ControlHeader_Format1_t` -/
structure ControlHeaderFormat1 (Ue : Type) where
  ueId : Ue
  ricStyleType : Int
  ricControlActionId : Int
  ricControlDecision : Option Unread

/-- `E2SM_RC_ControlHeader_Format2_t` -/
structure ControlHeaderFormat2 (Ue : Type) where
  ueId : Option Ue
  ricControlDecision : Option Unread

/-- `E2SM_RC_ControlHeader_t` -/
inductive ControlHeader (Ue : Type)
  | nothing
  | format1 (format1 : ControlHeaderFormat1 Ue)
  | format2 (format2 : ControlHeaderFormat2 Ue)

/-- `E2SM_RC_ControlMessage_Format1_t` -/
structure ControlMessageFormat1 where
  ranPList : List (RanParameterItem RanParameterValueType)

/-- `E2SM_RC_ControlMessage_Format2_ControlAction_Item_t` -/
structure ControlMessageFormat2ControlActionItem where
  ricControlActionId : Int
  ranPList : ControlMessageFormat1

/-- `E2SM_RC_ControlMessage_Format2_Style_Item_t` -/
structure ControlMessageFormat2StyleItem where
  indicatedControlStyleType : Int
  ricControlActionList : List ControlMessageFormat2ControlActionItem

/-- `E2SM_RC_ControlMessage_Format2_t` -/
structure ControlMessageFormat2 where
  ricControlStyleList : List ControlMessageFormat2StyleItem

/-- `E2SM_RC_ControlMessage_t` -/
inductive ControlMessage
  | nothing
  | format1 (format1 : ControlMessageFormat1)
  | format2 (format2 : ControlMessageFormat2)

/-- `E2SM_RC_ControlOutcome_Format1_t` -/
structure ControlOutcomeFormat1 where
  ranPList : List (RanParameterItem RanParameterValue)

/-- `E2SM_RC_ControlOutcome_Format2_ControlOutcome_Item_t` -/
structure ControlOutcomeFormat2ControlOutcomeItem where
  ricControlActionId : Int
  ranPList : List (RanParameterItem RanParameterValue)

/-- `E2SM_RC_ControlOutcome_Format2_Style_Item_t` -/
structure ControlOutcomeFormat2StyleItem where
  indicatedControlStyleType : Int
  ricControlOutcomeList : List ControlOutcomeFormat2ControlOutcomeItem

/-- `E2SM_RC_ControlOutcome_Format2_t` -/
structure ControlOutcomeFormat2 where
  ricControlStyleList : List ControlOutcomeFormat2StyleItem

/-- `E2SM_RC_ControlOutcome_Format3_t` -/
structure ControlOutcomeFormat3 where
  ranPList : List (RanParameterItem RanParameterValueType)

/-- `E2SM_RC_ControlOutcome_t` -/
inductive ControlOutcome
  | nothing
  | format1 (format1 : ControlOutcomeFormat1)
  | format2 (format2 : ControlOutcomeFormat2)
  | format3 (format3 : ControlOutcomeFormat3)

end Asn

variable (I : Identities)

/-! ### To ASN.1 -/

def encCtrlHdrFrmt1 (src : CtrlHdrFrmt1 I.Ue) : Except String (Asn.ControlHeaderFormat1 I.UeAsn) := do
  let ueId ← I.encUeIdAsn src.ueId
  require (0 < src.ctrlActId) "src->ctrl_act_id > 0"
  require (src.ricCtrlDecision = none) "src->ric_ctrl_decision == NULL && \"Not implemented\""
  return ⟨ueId, src.ricStyleType.toNat, src.ctrlActId.toNat, none⟩

def encCtrlHdrFrmt2 (src : CtrlHdrFrmt2 I.Ue) : Except String (Asn.ControlHeaderFormat2 I.UeAsn) := do
  let ueId ← mapOptional I.encUeIdAsn src.ueId
  require (src.ricCtrlDec = none) "src->ric_ctrl_dec == NULL && \"not implemented\""
  return ⟨ueId, none⟩

/-- The structure that `rc_enc_ctrl_hdr_asn` encodes -/
def rcEncCtrlHdr : CtrlHdr I.Ue → Except String (Asn.ControlHeader I.UeAsn)
  | .frmt1 frmt1 => do return .format1 (← encCtrlHdrFrmt1 I frmt1)
  | .frmt2 frmt2 => do return .format2 (← encCtrlHdrFrmt2 I frmt2)

def encCtrlMsgFrmt1It : SeqRanParam RanParamValType → Except String (Asn.RanParameterItem Asn.RanParameterValueType) :=
  encRanParamItem cpRanParamValueType

def encCtrlMsgFrmt1 (src : CtrlMsgFrmt1) : Except String Asn.ControlMessageFormat1 := do
  return ⟨← mapSized (upTo 65535) "src->sz_ran_param < 65536" encCtrlMsgFrmt1It src.ranParam⟩

def encCtrlMsgFrmt2CtrlActIt (src : SeqCtrlAct) : Except String Asn.ControlMessageFormat2ControlActionItem := do
  require (0 < src.ctrlActId) "src->ctrl_act_id > 0"
  match src.ctrlMsgFrmt1 with
  | none => .error "src->ctrl_msg_frmt_1 != NULL"
  | some frmt1 => return ⟨src.ctrlActId.toNat, ← encCtrlMsgFrmt1 frmt1⟩

def encCtrlMsgFrmt2It (src : SeqCtrlSma) : Except String Asn.ControlMessageFormat2StyleItem := do
  let actions ← mapSized (oneTo 63) "src->sz_seq_ctrl_act > 0 && src->sz_seq_ctrl_act < 64" encCtrlMsgFrmt2CtrlActIt
    src.seqCtrlAct
  return ⟨src.ctrlStyle.toNat, actions⟩

def encCtrlMsgFrmt2 (src : CtrlMsgFrmt2) : Except String Asn.ControlMessageFormat2 := do
  return ⟨← mapSized (oneTo 63) "src->sz_seq_ctrl_sma > 0 && src->sz_seq_ctrl_sma < 64" encCtrlMsgFrmt2It src.action⟩

/-- The structure that `rc_enc_ctrl_msg_asn` encodes -/
def rcEncCtrlMsg : CtrlMsg → Except String Asn.ControlMessage
  | .frmt1 frmt1 => do return .format1 (← encCtrlMsgFrmt1 frmt1)
  | .frmt2 frmt2 => do return .format2 (← encCtrlMsgFrmt2 frmt2)

/-- The value of a parameter that is an element; this always goes through. -/
def encElement (v : RanParameterValue) : Except String Asn.RanParameterValue := .ok (cpRanParamVal v)

def encCtrlOutFrmt1It : SeqRanParam RanParameterValue → Except String (Asn.RanParameterItem Asn.RanParameterValue) :=
  encRanParamItem encElement

def encCtrlOutFrmt1 (src : CtrlOutFrmt1) : Except String Asn.ControlOutcomeFormat1 := do
  return ⟨← mapSized (upTo 255) "src->sz_seq_ran_param_2 < 256" encCtrlOutFrmt1It src.ranParam⟩

def encCtrlOutFrmt2RanIt : SeqRanParam RanParameterValue → Except String (Asn.RanParameterItem Asn.RanParameterValue) :=
  encRanParamItem encElement

def encCtrlOutFrmt2CtrlOut (src : SeqCtrlActOut) : Except String Asn.ControlOutcomeFormat2ControlOutcomeItem := do
  require (0 < src.ctrlActId) "src->ctrl_act_id > 0"
  let params ← mapSized (oneTo 255) "src->sz_ran_param > 0 && src->sz_ran_param < 256" encCtrlOutFrmt2RanIt src.ranParam
  return ⟨src.ctrlActId.toNat, params⟩

def encCtrlOutFrmt2It (src : SeqCtrlStyMulOut) : Except String Asn.ControlOutcomeFormat2StyleItem := do
  let outcomes ← src.seqCtrlActOut.mapM encCtrlOutFrmt2CtrlOut
  return ⟨src.indCtrlStyle.toNat, outcomes⟩

def encCtrlOutFrmt2 (src : CtrlOutFrmt2) : Except String Asn.ControlOutcomeFormat2 := do
  return ⟨← mapSized (oneTo 63) "src->sz_seq_ctrl_sty_mul_out > 0 && src->sz_seq_ctrl_sty_mul_out < 64" encCtrlOutFrmt2It
    src.seqCtrlStyMulOut⟩

def encCtrlOutFrmt3It : SeqRanParam RanParamValType → Except String (Asn.RanParameterItem Asn.RanParameterValueType) :=
  encRanParamItem cpRanParamValueType

def encCtrlOutFrmt3 (src : CtrlOutFrmt3) : Except String Asn.ControlOutcomeFormat3 := do
  return ⟨← mapSized (upTo 255) "src->sz_seq_ran_param < 256" encCtrlOutFrmt3It src.ranParam⟩

/-- The structure that `rc_enc_ctrl_out_asn` encodes -/
def rcEncCtrlOut : CtrlOut → Except String Asn.ControlOutcome
  | .frmt1 frmt1 => do return .format1 (← encCtrlOutFrmt1 frmt1)
  | .frmt2 frmt2 => do return .format2 (← encCtrlOutFrmt2 frmt2)
  | .frmt3 frmt3 => do return .format3 (← encCtrlOutFrmt3 frmt3)

/-! ### From ASN.1 -/

def decCtrlHdrFrmt1 (src : Asn.ControlHeaderFormat1 I.UeAsn) : Except String (CtrlHdrFrmt1 I.Ue) := do
  let ueId ← I.decUeIdAsn src.ueId
  require (0 < src.ricControlActionId ∧ src.ricControlActionId < 65536)
    "src->ric_ControlAction_ID > 0 && src->ric_ControlAction_ID < 65536"
  require (src.ricControlDecision = none) "src->ric_ControlDecision == NULL && \"Not implemented\""
  return ⟨ueId, UInt32.ofInt src.ricStyleType, UInt16.ofInt src.ricControlActionId, none⟩

def decCtrlHdrFrmt2 (src : Asn.ControlHeaderFormat2 I.UeAsn) : Except String (CtrlHdrFrmt2 I.Ue) := do
  let ueId ← mapOptional I.decUeIdAsn src.ueId
  require (src.ricControlDecision = none) "src->ric_ControlDecision == NULL && \"Not implemented\""
  return ⟨ueId, none⟩

/-- What `rc_dec_ctrl_hdr_asn` makes of the structure that was decoded -/
def rcDecCtrlHdr : Asn.ControlHeader I.UeAsn → Except String (CtrlHdr I.Ue)
  | .format1 format1 => do return .frmt1 (← decCtrlHdrFrmt1 I format1)
  | .format2 format2 => do return .frmt2 (← decCtrlHdrFrmt2 I format2)
  | .nothing => .error "Unknown format type"

def decCtrlMsgFrmt1It : Asn.RanParameterItem Asn.RanParameterValueType → Except String (SeqRanParam RanParamValType) :=
  decRanParamItemInRange decRanParamValueType

def decCtrlMsgFrmt1 (src : Asn.ControlMessageFormat1) : Except String CtrlMsgFrmt1 := do
  return ⟨← mapSized (upTo 65535) "src->ranP_List.list.count <  65536" decCtrlMsgFrmt1It src.ranPList⟩

def decCtrlMsgSeqCtrlAct (src : Asn.ControlMessageFormat2ControlActionItem) : Except String SeqCtrlAct := do
  require (0 < src.ricControlActionId ∧ src.ricControlActionId < 65536)
    "src->ric_ControlAction_ID > 0 && src->ric_ControlAction_ID < 65536"
  let frmt1 ← decCtrlMsgFrmt1 src.ranPList
  return ⟨UInt16.ofInt src.ricControlActionId, some frmt1⟩

def decCtrlMsgSeqCtrlSma (src : Asn.ControlMessageFormat2StyleItem) : Except String SeqCtrlSma := do
  let actions ← mapSized (oneTo 63)
    "src->ric_ControlAction_List.list.count > 0 && src->ric_ControlAction_List.list.count < 64" decCtrlMsgSeqCtrlAct
    src.ricControlActionList
  return ⟨UInt32.ofInt src.indicatedControlStyleType, actions⟩

def decCtrlMsgFrmt2 (src : Asn.ControlMessageFormat2) : Except String CtrlMsgFrmt2 := do
  return ⟨← mapSized (oneTo 63)
    "src->ric_ControlStyle_List.list.count > 0 && src->ric_ControlStyle_List.list.count < 64" decCtrlMsgSeqCtrlSma
    src.ricControlStyleList⟩

/-- What `rc_dec_ctrl_msg_asn` makes of the structure that was decoded -/
def rcDecCtrlMsg : Asn.ControlMessage → Except String CtrlMsg
  | .format1 format1 => do return .frmt1 (← decCtrlMsgFrmt1 format1)
  | .format2 format2 => do return .frmt2 (← decCtrlMsgFrmt2 format2)
  | .nothing => .error "Unknown format"

def decCtrlOutFrmt1It : Asn.RanParameterItem Asn.RanParameterValue → Except String (SeqRanParam RanParameterValue) :=
  decRanParamItem decRanParamVal

def decCtrlOutFrmt1 (src : Asn.ControlOutcomeFormat1) : Except String CtrlOutFrmt1 := do
  return ⟨← mapSized (upTo 255) "src->ranP_List.list.count < 256" decCtrlOutFrmt1It src.ranPList⟩

def decCtrlOutFrmt2RanIt : Asn.RanParameterItem Asn.RanParameterValue → Except String (SeqRanParam RanParameterValue) :=
  decRanParamItemInRange decRanParamVal

def decCtrlOutFrmt2CtrlOutIt (src : Asn.ControlOutcomeFormat2ControlOutcomeItem) : Except String SeqCtrlActOut := do
  require (0 < src.ricControlActionId ∧ src.ricControlActionId < 65536)
    "src->ric_ControlAction_ID > 0 && src->ric_ControlAction_ID < 65536"
  let params ← mapSized (oneTo 255) "src->ranP_List.list.count > 0 && src->ranP_List.list.count < 256"
    decCtrlOutFrmt2RanIt src.ranPList
  return ⟨UInt16.ofInt src.ricControlActionId, params⟩

def decCtrlOutFrmt2StyIt (src : Asn.ControlOutcomeFormat2StyleItem) : Except String SeqCtrlStyMulOut := do
  let outcomes ← mapSized (oneTo 63)
    "src->ric_ControlOutcome_List.list.count > 0 && src->ric_ControlOutcome_List.list.count < 64"
    decCtrlOutFrmt2CtrlOutIt src.ricControlOutcomeList
  return ⟨UInt32.ofInt src.indicatedControlStyleType, outcomes⟩

def decCtrlOutFrmt2 (src : Asn.ControlOutcomeFormat2) : Except String CtrlOutFrmt2 := do
  return ⟨← mapSized (oneTo 63)
    "src->ric_ControlStyle_List.list.count > 0 && src->ric_ControlStyle_List.list.count < 64" decCtrlOutFrmt2StyIt
    src.ricControlStyleList⟩

def decCtrOutFrmt3It : Asn.RanParameterItem Asn.RanParameterValueType → Except String (SeqRanParam RanParamValType) :=
  decRanParamItem decRanParamValueType

def decCtrlOutFrmt3 (src : Asn.ControlOutcomeFormat3) : Except String CtrlOutFrmt3 := do
  return ⟨← mapSized (upTo 255) "src->ranP_List.list.count < 256" decCtrOutFrmt3It src.ranPList⟩

/-- What `rc_dec_ctrl_out_asn` makes of the structure that was decoded -/
def rcDecCtrlOut : Asn.ControlOutcome → Except String CtrlOut
  | .format1 format1 => do return .frmt1 (← decCtrlOutFrmt1 format1)
  | .format2 format2 => do return .frmt2 (← decCtrlOutFrmt2 format2)
  | .format3 format3 => do return .frmt3 (← decCtrlOutFrmt3 format3)
  | .nothing => .error "Unknown format"

end FlexRic.Sm.Rc
