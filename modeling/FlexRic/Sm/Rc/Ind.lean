import FlexRic.Sm.Rc.EventTriggerTypes

/-! # Indications of the RC service model

The three formats of an indication header and the six of an indication message, mapped to their ASN.1 structures and
back (`rc_enc_ind_hdr_asn`, `rc_enc_ind_msg_asn` and their decoders without the coding itself). The identities of UEs
and cells are mapped by functions of `lib/sm`, which are a parameter here. -/

namespace FlexRic.Sm.Rc

/-- The identities of UEs and cells, on both sides, and the functions that map and copy them -/
structure Identities where
  Ue : Type
  UeAsn : Type
  Cell : Type
  CellAsn : Type
  encUeIdAsn : Ue → Except String UeAsn
  decUeIdAsn : UeAsn → Except String Ue
  cpUeIdE2sm : Ue → Except String Ue
  encCellGlobalIdAsn : Cell → Except String CellAsn
  decCellGlobalIdAsn : CellAsn → Except String Cell
  cpCellGlobalId : Cell → Except String Cell

/-! ### The values of the code -/

section Ie
variable (Ue Cell : Type)

/-- `e2sm_rc_ind_hdr_frmt_1_t` -/
structure IndHdrFrmt1 where
  evTriggerId : Option UInt16

/-- `e2sm_rc_ind_hdr_frmt_2_t` -/
structure IndHdrFrmt2 where
  ueId : Ue
  ricStyleType : UInt32
  insIndId : UInt16

/-- `e2sm_rc_ind_hdr_frmt_3_t` -/
structure IndHdrFrmt3 where
  evTriggerCond : Option UInt16
  ueId : Option Ue

/-- `e2sm_rc_ind_hdr_t` -/
inductive IndHdr
  | frmt1 (frmt1 : IndHdrFrmt1)
  | frmt2 (frmt2 : IndHdrFrmt2 Ue)
  | frmt3 (frmt3 : IndHdrFrmt3 Ue)

/-- `e2sm_rc_ind_msg_frmt_1_t` -/
structure IndMsgFrmt1 where
  seqRanParam : List (SeqRanParam RanParamValType)

/-- `seq_ue_id_t` -/
structure SeqUeId where
  ueId : Ue
  seqRanParam : List (SeqRanParam RanParamValType)

/-- `e2sm_rc_ind_msg_frmt_2_t` -/
structure IndMsgFrmt2 where
  seqUeId : List (SeqUeId Ue)

/-- `seq_cell_info_t` -/
structure SeqCellInfo where
  cellGlobalId : Cell
  cellCtxInfo : Option Unread
  cellDel : Option Unread
  neighbourRelaTbl : Option Unread

/-- `e2sm_rc_ind_msg_frmt_3_t` -/
structure IndMsgFrmt3 where
  seqCellInfo : List (SeqCellInfo Cell)

/-- `seq_ue_info_t` -/
structure SeqUeInfo where
  ueId : Ue
  ueCtxInfo : Option Unread
  cellGlobalId : Cell

/-- `seq_cell_info_2_t` -/
structure SeqCellInfo2 where
  cellGlobalId : Cell
  cellCtxInfo : Option Unread
  neighbourRelaTbl : Option Unread

/-- `e2sm_rc_ind_msg_frmt_4_t` -/
structure IndMsgFrmt4 where
  seqUeInfo : List (SeqUeInfo Ue Cell)
  seqCellInfo2 : List (SeqCellInfo2 Cell)

/-- `e2sm_rc_ind_msg_frmt_5_t` -/
structure IndMsgFrmt5 where
  seqRanParam : List (SeqRanParam RanParamValType)

/-- `seq_ins_ind_act_2_t` -/
structure SeqInsIndAct2 where
  insIndId : UInt16
  ranParamReq : List (SeqRanParam RanParamValType)

/-- `seq_ins_style_2_t` -/
structure SeqInsStyle2 where
  indInsStyle : UInt32
  seqInsIndAct : List SeqInsIndAct2

/-- `e2sm_rc_ind_msg_frmt_6_t` -/
structure IndMsgFrmt6 where
  seqInsStyle : List SeqInsStyle2

/-- `e2sm_rc_ind_msg_t` -/
inductive IndMsg
  | frmt1 (frmt1 : IndMsgFrmt1)
  | frmt2 (frmt2 : IndMsgFrmt2 Ue)
  | frmt3 (frmt3 : IndMsgFrmt3 Cell)
  | frmt4 (frmt4 : IndMsgFrmt4 Ue Cell)
  | frmt5 (frmt5 : IndMsgFrmt5)
  | frmt6 (frmt6 : IndMsgFrmt6)

end Ie

/-! ### The values of the ASN.1 types -/

namespace Asn
variable (Ue Cell : Type)

/-- `E2SM_RC_IndicationHeader_Format1_t` -/
structure IndicationHeaderFormat1 where
  ricEventTriggerConditionId : Option Int

/-- `E2SM_RC_IndicationHeader_Format2_t` -/
structure IndicationHeaderFormat2 where
  ueId : Ue
  ricInsertStyleType : Int
  ricInsertIndicationId : Int

/-- `E2SM_RC_IndicationHeader_Format3_t` -/
structure IndicationHeaderFormat3 where
  ricEventTriggerConditionId : Option Int
  ueId : Option Ue

/-- `E2SM_RC_IndicationHeader_t` -/
inductive IndicationHeader
  | nothing
  | format1 (format1 : IndicationHeaderFormat1)
  | format2 (format2 : IndicationHeaderFormat2 Ue)
  | format3 (format3 : IndicationHeaderFormat3 Ue)

/-- `E2SM_RC_IndicationMessage_Format1_t` -/
structure IndicationMessageFormat1 where
  ranPReportedList : List (RanParameterItem RanParameterValueType)

/-- `E2SM_RC_IndicationMessage_Format2_Item_t` -/
structure IndicationMessageFormat2Item where
  ueId : Ue
  ranPList : List (RanParameterItem RanParameterValueType)

/-- `E2SM_RC_IndicationMessage_Format2_t` -/
structure IndicationMessageFormat2 where
  ueParameterList : List (IndicationMessageFormat2Item Ue)

/-- `E2SM_RC_IndicationMessage_Format3_Item_t` -/
structure IndicationMessageFormat3Item where
  cellGlobalId : Cell
  cellContextInfo : Option Unread
  cellDeleted : Option Unread
  neighborRelationTable : Option Unread

/-- `E2SM_RC_IndicationMessage_Format3_t` -/
structure IndicationMessageFormat3 where
  cellInfoList : List (IndicationMessageFormat3Item Cell)

/-- `E2SM_RC_IndicationMessage_Format4_ItemUE_t` -/
structure IndicationMessageFormat4ItemUe where
  ueId : Ue
  ueContextInfo : Option Unread
  cellGlobalId : Cell

/-- `E2SM_RC_IndicationMessage_Format4_ItemCell_t` -/
structure IndicationMessageFormat4ItemCell where
  cellGlobalId : Cell
  cellContextInfo : Option Unread
  neighborRelationTable : Option Unread

/-- `E2SM_RC_IndicationMessage_Format4_t` -/
structure IndicationMessageFormat4 where
  ueInfoList : List (IndicationMessageFormat4ItemUe Ue Cell)
  cellInfoList : List (IndicationMessageFormat4ItemCell Cell)

/-- `E2SM_RC_IndicationMessage_Format5_t` -/
structure IndicationMessageFormat5 where
  ranPRequestedList : List (RanParameterItem RanParameterValueType)

/-- `E2SM_RC_IndicationMessage_Format6_Indication_Item_t` -/
structure IndicationMessageFormat6IndicationItem where
  ricInsertIndicationId : Int
  ranPInsertIndicationList : List (RanParameterItem RanParameterValueType)

/-- `E2SM_RC_IndicationMessage_Format6_Style_Item_t` -/
structure IndicationMessageFormat6StyleItem where
  indicatedInsertStyleType : Int
  ricInsertIndicationList : List IndicationMessageFormat6IndicationItem

/-- `E2SM_RC_IndicationMessage_Format6_t` -/
structure IndicationMessageFormat6 where
  ricInsertStyleList : List IndicationMessageFormat6StyleItem

/-- `E2SM_RC_IndicationMessage_t` -/
inductive IndicationMessage
  | nothing
  | format1 (format1 : IndicationMessageFormat1)
  | format2 (format2 : IndicationMessageFormat2 Ue)
  | format3 (format3 : IndicationMessageFormat3 Cell)
  | format4 (format4 : IndicationMessageFormat4 Ue Cell)
  | format5 (format5 : IndicationMessageFormat5)
  | format6 (format6 : IndicationMessageFormat6)

end Asn

variable (I : Identities)

/-! ### To ASN.1 -/

def encEvTriggerCond (msg : String) (cond : UInt16) : Except String Int := do
  require (0 < cond) msg
  return cond.toNat

def cpIndHdrFrmt1 (src : IndHdrFrmt1) : Except String Asn.IndicationHeaderFormat1 := do
  require src.evTriggerId.isSome "src->ev_trigger_id !=NULL && \"Optional but not much sense to not fill it\""
  return ⟨← mapOptional (encEvTriggerCond "*src->ev_trigger_id > 0") src.evTriggerId⟩

def cpIndHdrFrmt2 (src : IndHdrFrmt2 I.Ue) : Except String (Asn.IndicationHeaderFormat2 I.UeAsn) := do
  let ueId ← I.encUeIdAsn src.ueId
  require (0 < src.insIndId) "src->ins_ind_id > 0"
  return ⟨ueId, src.ricStyleType.toNat, src.insIndId.toNat⟩

def cpIndHdrFrmt3 (src : IndHdrFrmt3 I.Ue) : Except String (Asn.IndicationHeaderFormat3 I.UeAsn) := do
  let cond ← mapOptional (encEvTriggerCond "*src->ev_trigger_cond > 0") src.evTriggerCond
  let ueId ← mapOptional I.encUeIdAsn src.ueId
  return ⟨cond, ueId⟩

/-- The structure that `rc_enc_ind_hdr_asn` encodes -/
def rcEncIndHdr : IndHdr I.Ue → Except String (Asn.IndicationHeader I.UeAsn)
  | .frmt1 frmt1 => do return .format1 (← cpIndHdrFrmt1 frmt1)
  | .frmt2 frmt2 => do return .format2 (← cpIndHdrFrmt2 I frmt2)
  | .frmt3 frmt3 => do return .format3 (← cpIndHdrFrmt3 I frmt3)

def encIndMsgFrmt1It : SeqRanParam RanParamValType → Except String (Asn.RanParameterItem Asn.RanParameterValueType) :=
  encRanParamItem cpRanParamValueType

def encIndMsgFrmt1 (src : IndMsgFrmt1) : Except String Asn.IndicationMessageFormat1 := do
  return ⟨← mapSized (oneTo 65535) "src->sz_seq_ran_param > 0 && src->sz_seq_ran_param < 65535+1" encIndMsgFrmt1It
    src.seqRanParam⟩

def encIndMsgFrmt2RanParam :
    SeqRanParam RanParamValType → Except String (Asn.RanParameterItem Asn.RanParameterValueType) :=
  encRanParamItem cpRanParamValueType

def encIndMsgFrmt2It (src : SeqUeId I.Ue) : Except String (Asn.IndicationMessageFormat2Item I.UeAsn) := do
  let ueId ← I.encUeIdAsn src.ueId
  let params ← mapSized (oneTo 65535) "src->sz_seq_ran_param > 0 && src->sz_seq_ran_param < 65535+1"
    encIndMsgFrmt2RanParam src.seqRanParam
  return ⟨ueId, params⟩

def encIndMsgFrmt2 (src : IndMsgFrmt2 I.Ue) : Except String (Asn.IndicationMessageFormat2 I.UeAsn) := do
  return ⟨← mapSized (oneTo 65535) "src->sz_seq_ue_id > 0 && src->sz_seq_ue_id < 65535+1" (encIndMsgFrmt2It I)
    src.seqUeId⟩

def encIndMsgFrmt3It (src : SeqCellInfo I.Cell) : Except String (Asn.IndicationMessageFormat3Item I.CellAsn) := do
  let cell ← I.encCellGlobalIdAsn src.cellGlobalId
  require (src.cellCtxInfo = none) "src->cell_ctx_info == NULL && \"Not implemented\""
  require (src.cellDel = none) "src->cell_del == NULL && \"Not implemented\""
  require (src.neighbourRelaTbl = none) "src->neighbour_rela_tbl == NULL && \"not implemented\""
  return ⟨cell, none, none, none⟩

def encIndMsgFrmt3 (src : IndMsgFrmt3 I.Cell) : Except String (Asn.IndicationMessageFormat3 I.CellAsn) := do
  return ⟨← mapSized (oneTo 65535) "src->sz_seq_cell_info > 0 && src->sz_seq_cell_info < 65535+1" (encIndMsgFrmt3It I)
    src.seqCellInfo⟩

def encIndMsgFrmt4ItUe (src : SeqUeInfo I.Ue I.Cell) :
    Except String (Asn.IndicationMessageFormat4ItemUe I.UeAsn I.CellAsn) := do
  let ueId ← I.encUeIdAsn src.ueId
  require (src.ueCtxInfo = none) "src->ue_ctx_info == NULL && \"not implemented\""
  let cell ← I.encCellGlobalIdAsn src.cellGlobalId
  return ⟨ueId, none, cell⟩

def encIndMsgFrmt4ItCell (src : SeqCellInfo2 I.Cell) :
    Except String (Asn.IndicationMessageFormat4ItemCell I.CellAsn) := do
  let cell ← I.encCellGlobalIdAsn src.cellGlobalId
  require (src.cellCtxInfo = none) "src->cell_ctx_info == NULL && \"not implemented\""
  require (src.neighbourRelaTbl = none) "src->neighbour_rela_tbl == NULL && \"Not implemented\""
  return ⟨cell, none, none⟩

def encIndMsgFrmt4 (src : IndMsgFrmt4 I.Ue I.Cell) :
    Except String (Asn.IndicationMessageFormat4 I.UeAsn I.CellAsn) := do
  let ues ← src.seqUeInfo.mapM (encIndMsgFrmt4ItUe I)
  let cells ← src.seqCellInfo2.mapM (encIndMsgFrmt4ItCell I)
  return ⟨ues, cells⟩

def encIndMsgFrmt5It : SeqRanParam RanParamValType → Except String (Asn.RanParameterItem Asn.RanParameterValueType) :=
  encRanParamItem cpRanParamValueType

def encIndMsgFrmt5 (src : IndMsgFrmt5) : Except String Asn.IndicationMessageFormat5 := do
  return ⟨← src.seqRanParam.mapM encIndMsgFrmt5It⟩

def encIndMsgFrmt6Ran : SeqRanParam RanParamValType → Except String (Asn.RanParameterItem Asn.RanParameterValueType) :=
  encRanParamItem cpRanParamValueType

def encIndMsgFrmt6IndIt (src : SeqInsIndAct2) : Except String Asn.IndicationMessageFormat6IndicationItem := do
  require (0 < src.insIndId) "src->ins_ind_id > 0"
  let params ← src.ranParamReq.mapM encIndMsgFrmt6Ran
  return ⟨src.insIndId.toNat, params⟩

def encIndMsgFrmt6It (src : SeqInsStyle2) : Except String Asn.IndicationMessageFormat6StyleItem := do
  let indications ← mapSized (oneTo 63) "src->sz_seq_ins_ind_act_2 > 0 && src->sz_seq_ins_ind_act_2 < 64"
    encIndMsgFrmt6IndIt src.seqInsIndAct
  return ⟨src.indInsStyle.toNat, indications⟩

def encIndMsgFrmt6 (src : IndMsgFrmt6) : Except String Asn.IndicationMessageFormat6 := do
  return ⟨← mapSized (oneTo 63) "src->sz_seq_ins_style_ind_msg> 0 && src->sz_seq_ins_style_ind_msg < 64" encIndMsgFrmt6It
    src.seqInsStyle⟩

/-- The structure that `rc_enc_ind_msg_asn` encodes -/
def rcEncIndMsg : IndMsg I.Ue I.Cell → Except String (Asn.IndicationMessage I.UeAsn I.CellAsn)
  | .frmt1 frmt1 => do return .format1 (← encIndMsgFrmt1 frmt1)
  | .frmt2 frmt2 => do return .format2 (← encIndMsgFrmt2 I frmt2)
  | .frmt3 frmt3 => do return .format3 (← encIndMsgFrmt3 I frmt3)
  | .frmt4 frmt4 => do return .format4 (← encIndMsgFrmt4 I frmt4)
  | .frmt5 frmt5 => do return .format5 (← encIndMsgFrmt5 frmt5)
  | .frmt6 frmt6 => do return .format6 (← encIndMsgFrmt6 frmt6)

/-! ### From ASN.1 -/

def decEvTriggerCond (msg : String) (cond : Int) : Except String UInt16 := do
  require (0 < cond ∧ cond < 65535 + 1) msg
  return UInt16.ofInt cond

def decIndHdrFrmt1 (src : Asn.IndicationHeaderFormat1) : Except String IndHdrFrmt1 := do
  require src.ricEventTriggerConditionId.isSome
    "src->ric_eventTriggerCondition_ID != NULL && \"Optional, but only one member\""
  return ⟨← mapOptional (decEvTriggerCond
    "*src->ric_eventTriggerCondition_ID > 0 && *src->ric_eventTriggerCondition_ID < 65535+1")
    src.ricEventTriggerConditionId⟩

/-- The identifier of the insert indication loses what a `uint16_t` has no room for. -/
def decIndHdrFrmt2 (src : Asn.IndicationHeaderFormat2 I.UeAsn) : Except String (IndHdrFrmt2 I.Ue) := do
  let ueId ← I.decUeIdAsn src.ueId
  require (0 < src.ricInsertIndicationId) "src->ric_InsertIndication_ID > 0"
  return ⟨ueId, UInt32.ofInt src.ricInsertStyleType, UInt16.ofInt src.ricInsertIndicationId⟩

def decIndHdrFrmt3 (src : Asn.IndicationHeaderFormat3 I.UeAsn) : Except String (IndHdrFrmt3 I.Ue) := do
  let cond ← mapOptional (decEvTriggerCond
    "*src->ric_eventTriggerCondition_ID > 0 && *src->ric_eventTriggerCondition_ID < 65535+1")
    src.ricEventTriggerConditionId
  let ueId ← mapOptional I.decUeIdAsn src.ueId
  return ⟨cond, ueId⟩

/-- What `rc_dec_ind_hdr_asn` makes of the structure that was decoded -/
def rcDecIndHdr : Asn.IndicationHeader I.UeAsn → Except String (IndHdr I.Ue)
  | .format1 format1 => do return .frmt1 (← decIndHdrFrmt1 format1)
  | .format2 format2 => do return .frmt2 (← decIndHdrFrmt2 I format2)
  | .format3 format3 => do return .frmt3 (← decIndHdrFrmt3 I format3)
  | .nothing => .error "Unknown format"

def decIndMsgFrmt1It : Asn.RanParameterItem Asn.RanParameterValueType → Except String (SeqRanParam RanParamValType) :=
  decRanParamItem decRanParamValueType

def decIndMsgFrmt1 (src : Asn.IndicationMessageFormat1) : Except String IndMsgFrmt1 := do
  return ⟨← mapSized (oneTo 65535)
    "src->ranP_Reported_List.list.count > 0 && src->ranP_Reported_List.list.count < 65535+1" decIndMsgFrmt1It
    src.ranPReportedList⟩

def decFrmt2RanParam : Asn.RanParameterItem Asn.RanParameterValueType → Except String (SeqRanParam RanParamValType) :=
  decRanParamItem decRanParamValueType

def decSeqUeId (src : Asn.IndicationMessageFormat2Item I.UeAsn) : Except String (SeqUeId I.Ue) := do
  let ueId ← I.decUeIdAsn src.ueId
  let params ← mapSized (oneTo 65535) "src->ranP_List.list.count > 0 && src->ranP_List.list.count <  65535+1"
    decFrmt2RanParam src.ranPList
  return ⟨ueId, params⟩

def decIndMsgFrmt2 (src : Asn.IndicationMessageFormat2 I.UeAsn) : Except String (IndMsgFrmt2 I.Ue) := do
  return ⟨← mapSized (oneTo 65535)
    "src->ueParameter_List.list.count > 0 && src->ueParameter_List.list.count < 65535+1" (decSeqUeId I)
    src.ueParameterList⟩

def decIndMsgFrmt3It (src : Asn.IndicationMessageFormat3Item I.CellAsn) : Except String (SeqCellInfo I.Cell) := do
  let cell ← I.decCellGlobalIdAsn src.cellGlobalId
  require (src.cellContextInfo = none) "src->cellContextInfo == NULL && \"Not implemented\""
  require (src.cellDeleted = none) "src->cellDeleted == NULL && \"not implemented\""
  require (src.neighborRelationTable = none) "src->neighborRelation_Table == NULL && \"Not implemented\""
  return ⟨cell, none, none, none⟩

def decIndMsgFrmt3 (src : Asn.IndicationMessageFormat3 I.CellAsn) : Except String (IndMsgFrmt3 I.Cell) := do
  return ⟨← mapSized (oneTo 65535) "src->cellInfo_List.list.count > 0 &&  src->cellInfo_List.list.count < 65535+1"
    (decIndMsgFrmt3It I) src.cellInfoList⟩

def decIndMsgFrmt4ItUeInfo (src : Asn.IndicationMessageFormat4ItemUe I.UeAsn I.CellAsn) :
    Except String (SeqUeInfo I.Ue I.Cell) := do
  let ueId ← I.decUeIdAsn src.ueId
  require (src.ueContextInfo = none) "src->ueContextInfo == NULL && \"Not implemented\""
  let cell ← I.decCellGlobalIdAsn src.cellGlobalId
  return ⟨ueId, none, cell⟩

def decIndMsgFrmt4ItDellInfo (src : Asn.IndicationMessageFormat4ItemCell I.CellAsn) :
    Except String (SeqCellInfo2 I.Cell) := do
  let cell ← I.decCellGlobalIdAsn src.cellGlobalId
  require (src.cellContextInfo = none) "src->cellContextInfo == NULL && \"Not implemented\""
  require (src.neighborRelationTable = none) "src->neighborRelation_Table == NULL && \"Not implemented\""
  return ⟨cell, none, none⟩

def decIndMsgFrmt4 (src : Asn.IndicationMessageFormat4 I.UeAsn I.CellAsn) :
    Except String (IndMsgFrmt4 I.Ue I.Cell) := do
  let ues ← mapSized (upTo 65535) "src->ueInfo_List.list.count < 65536" (decIndMsgFrmt4ItUeInfo I) src.ueInfoList
  let cells ← mapSized (upTo 65535) "src->cellInfo_List.list.count < 65536" (decIndMsgFrmt4ItDellInfo I) src.cellInfoList
  return ⟨ues, cells⟩

def decIndMsgFrmt5It : Asn.RanParameterItem Asn.RanParameterValueType → Except String (SeqRanParam RanParamValType) :=
  decRanParamItem decRanParamValueType

def decIndMsgFrmt5 (src : Asn.IndicationMessageFormat5) : Except String IndMsgFrmt5 := do
  return ⟨← mapSized (upTo 65535) "src->ranP_Requested_List.list.count < 65536" decIndMsgFrmt5It src.ranPRequestedList⟩

def decRanParamReq : Asn.RanParameterItem Asn.RanParameterValueType → Except String (SeqRanParam RanParamValType) :=
  decRanParamItemInRange decRanParamValueType

def decSeqInsIndAct (src : Asn.IndicationMessageFormat6IndicationItem) : Except String SeqInsIndAct2 := do
  require (0 < src.ricInsertIndicationId ∧ src.ricInsertIndicationId < 65536)
    "src->ric_InsertIndication_ID > 0 && src->ric_InsertIndication_ID < 65536"
  let params ← src.ranPInsertIndicationList.mapM decRanParamReq
  return ⟨UInt16.ofInt src.ricInsertIndicationId, params⟩

def decSeqInsStyle (src : Asn.IndicationMessageFormat6StyleItem) : Except String SeqInsStyle2 := do
  let indications ← mapSized (oneTo 63)
    "src->ric_InsertIndication_List.list.count > 0 && src->ric_InsertIndication_List.list.count < 64" decSeqInsIndAct
    src.ricInsertIndicationList
  return ⟨UInt32.ofInt src.indicatedInsertStyleType, indications⟩

def decIndMsgFrmt6 (src : Asn.IndicationMessageFormat6) : Except String IndMsgFrmt6 := do
  return ⟨← mapSized (oneTo 63) "src->ric_InsertStyle_List.list.count > 0 && src->ric_InsertStyle_List.list.count < 64"
    decSeqInsStyle src.ricInsertStyleList⟩

/-- What `rc_dec_ind_msg_asn` makes of the structure that was decoded -/
def rcDecIndMsg : Asn.IndicationMessage I.UeAsn I.CellAsn → Except String (IndMsg I.Ue I.Cell)
  | .format1 format1 => do return .frmt1 (← decIndMsgFrmt1 format1)
  | .format2 format2 => do return .frmt2 (← decIndMsgFrmt2 I format2)
  | .format3 format3 => do return .frmt3 (← decIndMsgFrmt3 I format3)
  | .format4 format4 => do return .frmt4 (← decIndMsgFrmt4 I format4)
  | .format5 format5 => do return .frmt5 (← decIndMsgFrmt5 format5)
  | .format6 format6 => do return .frmt6 (← decIndMsgFrmt6 format6)
  | .nothing => .error "Unknown format type"

end FlexRic.Sm.Rc
