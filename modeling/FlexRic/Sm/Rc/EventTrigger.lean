import FlexRic.Sm.Rc.EventTriggerTypes

/-! # Event triggers of the RC service model

Mapped to their ASN.1 structures and back (`rc_enc_event_trigger_asn` and `rc_dec_event_trigger_asn` without the coding
itself). -/

namespace FlexRic.Sm.Rc

/-! ### To ASN.1 -/

def encNiType : NetworkInterfaceType → Except String Int
  | .ng => .ok 0
  | .xn => .ok 1
  | .f1 => .ok 2
  | .e1 => .ok 3
  | .s1 => .ok 4
  | .x2 => .ok 5
  | .w1 => .ok 6
  | .end_ => .error "Unknown type"

def cpMsgTypeNi (src : NetworkInterface) : Except String Asn.MessageTypeNi := do
  let niType ← encNiType src.niType
  require (src.niId = none) "src->ni_id == NULL && \"Not implemented\""
  require (src.niMsgId = none) "src->ni_msg_id == NULL && \"Not implemented\""
  return ⟨niType, none, none⟩

def cpRrcMsgTypeLte : LteRrcClass → Except String Int
  | .bcchBch => .ok 0
  | .bcchBchMbms => .ok 1
  | .bcchDlSch => .ok 2
  | .bcchDlSchBr => .ok 3
  | .bcchDlSchMbms => .ok 4
  | .mcch => .ok 5
  | .pcch => .ok 6
  | .dlCcch => .ok 7
  | .dlDcch => .ok 8
  | .ulCcch => .ok 9
  | .ulDcch => .ok 10
  | .scMcch => .ok 11
  | .end_ => .error "Unknown type"

def cpRrcMsgTypeNr : NrRrcClass → Except String Int
  | .bcchBch => .ok 0
  | .bcchDlSch => .ok 1
  | .dlCcch => .ok 2
  | .dlDcch => .ok 3
  | .pcch => .ok 4
  | .ulCcch => .ok 5
  | .ulCcch1 => .ok 6
  | .ulDcch => .ok 7
  | .end_ => .error "Unknown type"

/-- The branches of `cp_msg_type_rrc` -/
def cpRrcMsgType : RrcClass → Except String Asn.RrcType
  | .lte c => do return .lte (← cpRrcMsgTypeLte c)
  | .nr c => do return .nr (← cpRrcMsgTypeNr c)

/-- The identifier is stored in a `long` of the same width. -/
def cpMsgTypeRrc (src : RrcMsgId) : Except String Asn.RrcMessageId := do
  let rrcType ← cpRrcMsgType src.type
  return ⟨rrcType, src.rrcMsgId.toInt64⟩

/-- The branches of `cp_rc_ev_trigger_format_1_it` -/
def cpMsgType : MsgType → Except String Asn.MessageType
  | .net net => do return .ni (← cpMsgTypeNi net)
  | .rrcMsg rrcMsg => do return .rrc (← cpMsgTypeRrc rrcMsg)

def cpRcEvTriggerFormat1It (src : MsgEvTrg) : Except String Asn.EventTriggerFormat1Item := do
  require (0 < src.evTriggerCondId) "src->ev_trigger_cond_id > 0"
  let messageType ← cpMsgType src.msgType
  require (src.msgDir = none) "src->msg_dir == NULL && \"Not implemented\""
  require (src.assocUeInfo = none) "src->assoc_ue_info == NULL && \"Not implemented\""
  require (src.logOr = none) "src->log_or == NULL && \"Not implemented\""
  return ⟨src.evTriggerCondId.toNat, messageType, none, none, none⟩

def cpRcEvTriggerFormat1 (src : EvTrgFrmt1) : Except String Asn.EventTriggerFormat1 := do
  let items ← mapSized (oneTo 65535) "src->sz_msg_ev_trg > 0 && src->sz_msg_ev_trg <  65535 + 1" cpRcEvTriggerFormat1It
    src.msgEvTrg
  require (src.globalAssocUeInfo = none) "src->global_assoc_ue_info == NULL && \"Not implemented\""
  return ⟨items, none⟩

def cpRcEvTriggerFormat2 (src : EvTrgFrmt2) : Except String Asn.EventTriggerFormat2 := do
  require (0 < src.callProcTypeId) "src-> call_proc_type_id > 0"
  require (0 < src.callBreakId) "src->call_break_id > 0"
  require (src.assocE2NodeInfo = none) "src->assoc_e2_node_info == NULL && \"Not implmeneted\""
  require (src.assocUeInfo = none) "src->assoc_ue_info == NULL && \"Not implmeented\""
  return ⟨src.callProcTypeId.toNat, src.callBreakId.toNat, none, none⟩

-- The cell information and the logical or are not looked at.
def cpRcEvTriggerFormat3It (src : E2NodeInfoChng) : Except String Asn.EventTriggerFormat3Item := do
  require (0 < src.evTriggerCondId) "src->ev_trigger_cond_id > 0"
  require (0 < src.e2NodeInfoChngId ∧ src.e2NodeInfoChngId < 512 + 1)
    "src->e2_node_info_chng_id > 0 && src->e2_node_info_chng_id < 512 + 1"
  return ⟨src.evTriggerCondId.toNat, src.e2NodeInfoChngId.toNat, none, none⟩

def cpRcEvTriggerFormat3 (src : EvTrgFrmt3) : Except String Asn.EventTriggerFormat3 := do
  return ⟨← src.e2NodeInfoChng.mapM cpRcEvTriggerFormat3It⟩

def encRrcStateChange : RrcStateE2sm → Except String Int
  | .rrcConnected => .ok 0
  | .rrcInactive => .ok 1
  | .rrcIdle => .ok 2
  | .any => .ok 3
  | .end_ => .error "unknown type"

def encRrcState (src : RrcState) : Except String Asn.RrcStateItem := do
  let stateChangedTo ← encRrcStateChange src.stateChngdTo
  require (src.logOr = none) "src->log_or == NULL && \"Not implemented\""
  return ⟨stateChangedTo, none⟩

def cpElmTrue : RanParameterValue → Asn.RanParameterValue := cpRanParamVal

def encRanParamTestCondComp : RanParamTestCondComp → Except String Int
  | .equal => .ok 0
  | .difference => .ok 1
  | .greaterThan => .ok 2
  | .lessThan => .ok 3
  | .contains => .ok 4
  | .startsWith => .ok 5
  | .end_ => .error "Unknown type"

def encRanParamTestCondPresence : RanParamTestCondPresence → Except String Int
  | .present => .ok 0
  | .configured => .ok 1
  | .rollover => .ok 2
  | .nonZero => .ok 3
  | .end_ => .error "Unknown type"

def encRanParamTestCond : RanParamTestCond → Except String Asn.RanParameterTestingCondition
  | .comparison comp => do return .comparison (← encRanParamTestCondComp comp)
  | .presence presence => do return .presence (← encRanParamTestCondPresence presence)

def cpElmFalse (src : RanParamElmKeyFalse) : Except String Asn.TestingElementFalse := do
  let testCondition ← encRanParamTestCond src.testCond
  require (src.value = none) "src->value == NULL"
  require (src.logicalOr = none) "src->logical_or == NULL"
  return ⟨testCondition, none, none⟩

mutual

def encRanParamTest : RanParamTest → Except String Asn.RanParameterTestingItem
  | ⟨id, type⟩ => do
    require (0 < id) "src->ran_param_id > 0"
    match type with
    | .lst ts => return ⟨id.toNat, .list (← encRanParamTests ts)⟩
    | .strct ts => return ⟨id.toNat, .structure_ (← encRanParamTests ts)⟩
    | .flagTrue v => return ⟨id.toNat, .elementTrue (cpElmTrue v)⟩
    | .flagFalse e => return ⟨id.toNat, .elementFalse (← cpElmFalse e)⟩

/-- The loops over the tests of a list and of a structure -/
def encRanParamTests : List RanParamTest → Except String (List Asn.RanParameterTestingItem)
  | [] => .ok []
  | t :: ts => do
    let ie ← encRanParamTest t
    return ie :: (← encRanParamTests ts)

end

/-- The branches of `cp_rc_ev_trigger_format_4_it` -/
def cpTriggerType : UeInfoChngTrigger → Except String Asn.TriggerType
  | .rrcState states => do
    return .rrcState (← mapSized (oneTo 8) "src->rrc_state.sz_rrc_state > 0 && src->rrc_state.sz_rrc_state < 9"
      encRrcState states)
  | .ueIdChange id => .ok (.ueId id.toNat)
  | .l2State tests => do
    return .l2State (← mapSized (oneTo 255)
      "src->l2_state.sz_ran_param_test > 0 && src->l2_state.sz_ran_param_test < 256" encRanParamTest tests)

def cpRcEvTriggerFormat4It (src : UeInfoChng) : Except String Asn.EventTriggerFormat4Item := do
  require (0 < src.evTrigCondId) "src->ev_trig_cond_id > 0"
  let triggerType ← cpTriggerType src.type
  require (src.assocUeInfo = none) "src->assoc_ue_info == NULL && \"Not implemented\""
  require (src.logOr = none) "src->log_or == NULL && \"Not implemented\""
  return ⟨src.evTrigCondId.toNat, triggerType, none, none⟩

def cpRcEvTriggerFormat4 (src : EvTrgFrmt4) : Except String Asn.EventTriggerFormat4 := do
  return ⟨← mapSized (oneTo 65535) "src->sz_ue_info_chng > 0 && src->sz_ue_info_chng <  65535 + 1"
    cpRcEvTriggerFormat4It src.ueInfoChng⟩

def cpRcEvTriggerFormat5 (src : EvTrgFrmt5) : Except String Asn.EventTriggerFormat5 := do
  require (src.onDemand = .true_) "Unknown type"
  require (src.assocUeInfo = none) "src->assoc_ue_info == NULL && \"Not implemented\""
  require (src.assocCellInfo = none) "src->assoc_cell_info == NULL && \"Not implemented\""
  return ⟨0, none, none⟩

/-- The structure that `rc_enc_event_trigger_asn` encodes -/
def rcEncEventTrigger : EventTrigger → Except String Asn.EventTrigger
  | .frmt1 frmt1 => do return .format1 (← cpRcEvTriggerFormat1 frmt1)
  | .frmt2 frmt2 => do return .format2 (← cpRcEvTriggerFormat2 frmt2)
  | .frmt3 frmt3 => do return .format3 (← cpRcEvTriggerFormat3 frmt3)
  | .frmt4 frmt4 => do return .format4 (← cpRcEvTriggerFormat4 frmt4)
  | .frmt5 frmt5 => do return .format5 (← cpRcEvTriggerFormat5 frmt5)

/-! ### From ASN.1 -/

def decNiType : Int → Except String NetworkInterfaceType
  | 0 => .ok .ng
  | 1 => .ok .xn
  | 2 => .ok .f1
  | 3 => .ok .e1
  | 4 => .ok .s1
  | 5 => .ok .x2
  | 6 => .ok .w1
  | _ => .error "Unknown type"

def decMsgTypeNi (src : Asn.MessageTypeNi) : Except String NetworkInterface := do
  let niType ← decNiType src.niType
  require (src.niIdentifier = none) "src->nI_Identifier == NULL && \"Not implemented\""
  require (src.niMessage = none) "src->nI_Message == NULL && \"Not implemented\""
  return ⟨niType, none, none⟩

def decRrcMsgTypeLte : Int → Except String LteRrcClass
  | 0 => .ok .bcchBch
  | 1 => .ok .bcchBchMbms
  | 2 => .ok .bcchDlSch
  | 3 => .ok .bcchDlSchBr
  | 4 => .ok .bcchDlSchMbms
  | 5 => .ok .mcch
  | 6 => .ok .pcch
  | 7 => .ok .dlCcch
  | 8 => .ok .dlDcch
  | 9 => .ok .ulCcch
  | 10 => .ok .ulDcch
  | 11 => .ok .scMcch
  | _ => .error "Unknown type"

def decRrcMsgTypeNr : Int → Except String NrRrcClass
  | 0 => .ok .bcchBch
  | 1 => .ok .bcchDlSch
  | 2 => .ok .dlCcch
  | 3 => .ok .dlDcch
  | 4 => .ok .pcch
  | 5 => .ok .ulCcch
  | 6 => .ok .ulCcch1
  | 7 => .ok .ulDcch
  | _ => .error "Unknown type"

/-- The branches of `dec_msg_type_rrc` -/
def decRrcMsgType : Asn.RrcType → Except String RrcClass
  | .lte c => do return .lte (← decRrcMsgTypeLte c)
  | .nr c => do return .nr (← decRrcMsgTypeNr c)
  | .nothing => .error "Unknown type"

def decMsgTypeRrc (src : Asn.RrcMessageId) : Except String RrcMsgId := do
  let type ← decRrcMsgType src.rrcType
  return ⟨type, src.messageId.toUInt64⟩

/-- The branches of `dec_rc_ev_trigger_format_1_it` -/
def decMsgType : Asn.MessageType → Except String MsgType
  | .ni ni => do return .net (← decMsgTypeNi ni)
  | .rrc rrc => do return .rrcMsg (← decMsgTypeRrc rrc)
  | .nothing => .error "Unknown type"

def decRcEvTriggerFormat1It (src : Asn.EventTriggerFormat1Item) : Except String MsgEvTrg := do
  require (0 < src.ricEventTriggerConditionId ∧ src.ricEventTriggerConditionId < 65535 + 1)
    "src->ric_eventTriggerCondition_ID > 0 && src->ric_eventTriggerCondition_ID  < 65535 +1"
  let msgType ← decMsgType src.messageType
  require (src.messageDirection = none) "src->messageDirection == NULL && \"Not implemented\""
  require (src.associatedUeInfo = none) "src->associatedUEInfo == NULL && \"Not implemented\""
  require (src.logicalOr = none) "src->logicalOR == NULL && \"Not implemented\""
  return ⟨UInt16.ofInt src.ricEventTriggerConditionId, msgType, none, none, none⟩

def decRcEvTriggerFormat1 (src : Asn.EventTriggerFormat1) : Except String EvTrgFrmt1 := do
  let msgEvTrg ← mapSized (oneTo 65535) "sz > 0 && sz < 65535 + 1" decRcEvTriggerFormat1It src.messageList
  require (src.globalAssociatedUeInfo = none) "src->globalAssociatedUEInfo == NULL && \"Not implemented\""
  return ⟨msgEvTrg, none⟩

def decRcEvTriggerFormat2 (src : Asn.EventTriggerFormat2) : Except String EvTrgFrmt2 := do
  require (0 < src.ricCallProcessTypeId ∧ src.ricCallProcessTypeId < 65535 + 1)
    "src->ric_callProcessType_ID > 0 && src->ric_callProcessType_ID < 65535 +1 && \"Out of range\""
  require (0 < src.ricCallProcessBreakpointId ∧ src.ricCallProcessBreakpointId < 65535 + 1)
    "src->ric_callProcessBreakpoint_ID > 0 &&  src->ric_callProcessBreakpoint_ID < 65535 +1 && \"Out of range\""
  require (src.associatedE2NodeInfo = none) "src->associatedE2NodeInfo == NULL && \"Not implmeented\""
  require (src.associatedUeInfo = none) "src->associatedUEInfo == NULL && \"Not implemneted\""
  return ⟨UInt16.ofInt src.ricCallProcessTypeId, UInt16.ofInt src.ricCallProcessBreakpointId, none, none⟩

def decE2NodeInfoChng (src : Asn.EventTriggerFormat3Item) : Except String E2NodeInfoChng := do
  require (0 < src.ricEventTriggerConditionId ∧ src.ricEventTriggerConditionId < 65535 + 1)
    "src->ric_eventTriggerCondition_ID > 0 && src->ric_eventTriggerCondition_ID <  65535 + 1 && \"Out of range\""
  require (0 < src.e2NodeInfoChangeId ∧ src.e2NodeInfoChangeId < 513)
    "src->e2NodeInfoChange_ID > 0 &&  src->e2NodeInfoChange_ID < 513 && \"Out of range\""
  require (src.associatedCellInfo = none) "src->associatedCellInfo == NULL && \"Not implemented\""
  require (src.logicalOr = none) "src->logicalOR == NULL && \"Not implemented\""
  return ⟨UInt16.ofInt src.ricEventTriggerConditionId, UInt16.ofInt src.e2NodeInfoChangeId, none, none⟩

def decRcEvTriggerFormat3 (src : Asn.EventTriggerFormat3) : Except String EvTrgFrmt3 := do
  return ⟨← mapSized (oneTo 65535)
    "src->e2NodeInfoChange_List.list.count > 0 && src->e2NodeInfoChange_List.list.count <  65535 +1" decE2NodeInfoChng
    src.e2NodeInfoChangeList⟩

def decRrcStateChange : Int → Except String RrcStateE2sm
  | 0 => .ok .rrcConnected
  | 1 => .ok .rrcInactive
  | 2 => .ok .rrcIdle
  | 3 => .ok .any
  | _ => .error " Unknown state changed"

def decRrcState (src : Asn.RrcStateItem) : Except String RrcState := do
  let stateChngdTo ← decRrcStateChange src.stateChangedTo
  require (src.logicalOr = none) "src->logicalOR == NULL && \"Not implemented\""
  return ⟨stateChngdTo, none⟩

def decKeyFlagTrue : Asn.RanParameterValue → Except String RanParameterValue := decRanParamVal

def decRanParamTestCondComp : Int → Except String RanParamTestCondComp
  | 0 => .ok .equal
  | 1 => .ok .difference
  | 2 => .ok .greaterThan
  | 3 => .ok .lessThan
  | 4 => .ok .contains
  | 5 => .ok .startsWith
  | _ => .error "Unknown type"

def decRanParamTestCondPresence : Int → Except String RanParamTestCondPresence
  | 0 => .ok .present
  | 1 => .ok .configured
  | 2 => .ok .rollover
  | 3 => .ok .nonZero
  | _ => .error "Unknown type"

def decTestCond : Asn.RanParameterTestingCondition → Except String RanParamTestCond
  | .comparison comp => do return .comparison (← decRanParamTestCondComp comp)
  | .presence presence => do return .presence (← decRanParamTestCondPresence presence)
  | .nothing => .error "Unknown type"

def decKeyFlagFalse (src : Asn.TestingElementFalse) : Except String RanParamElmKeyFalse := do
  let testCond ← decTestCond src.ranParameterTestCondition
  require (src.ranParameterValue = none) "src->ranParameter_Value == NULL && \"Not implemented\""
  require (src.logicalOr = none) "src->logicalOR == NULL && \"Not implemented\""
  return ⟨testCond, none, none⟩

mutual

-- No branch is taken where no type is present, which leaves the type that is zero, a list of nothing.
def decRanParamTest : Asn.RanParameterTestingItem → Except String RanParamTest
  | ⟨id, type⟩ => do
    require (0 < id ∧ id < 4294967295 + 1) "src->ranParameter_ID > 0 && src->ranParameter_ID < 4294967295 + 1"
    match type with
    | .list ts => do
      require (oneTo 65535 ts.length)
        "src->ranParameter_List->list.count > 0 && src->ranParameter_List->list.count < 65535 + 1"
      return ⟨UInt32.ofNat id, .lst (← decRanParamTests ts)⟩
    | .structure_ ts => do
      require (oneTo 65535 ts.length)
        "src->ranParameter_Structure->list.count > 0 && src->ranParameter_Structure->list.count < 65535 + 1"
      return ⟨UInt32.ofNat id, .strct (← decRanParamTests ts)⟩
    | .elementTrue v => return ⟨UInt32.ofNat id, .flagTrue (← decKeyFlagTrue v)⟩
    | .elementFalse e => return ⟨UInt32.ofNat id, .flagFalse (← decKeyFlagFalse e)⟩
    | .nothing => return ⟨UInt32.ofNat id, .lst []⟩

/-- The loops of `dec_lst` and `dec_strct` -/
def decRanParamTests : List Asn.RanParameterTestingItem → Except String (List RanParamTest)
  | [] => .ok []
  | t :: ts => do
    let test ← decRanParamTest t
    return test :: (← decRanParamTests ts)

end

def decRrcStateLst (src : List Asn.RrcStateItem) : Except String (List RrcState) :=
  mapSized (oneTo 8) "src->rrcState_List.list.count > 0 &&  src->rrcState_List.list.count < 9" decRrcState src

def decRanParamCondCritDef (src : List Asn.RanParameterTestingItem) : Except String (List RanParamTest) :=
  mapSized (oneTo 255) "src->list.count > 0 && src->list.count < 256" decRanParamTest src

/-- The branches of `dec_ue_info_chng` -/
def decTriggerType : Asn.TriggerType → Except String UeInfoChngTrigger
  | .rrcState states => do return .rrcState (← decRrcStateLst states)
  | .ueId id => .ok (.ueIdChange (UInt16.ofInt id))
  | .l2State tests => do return .l2State (← decRanParamCondCritDef tests)
  | .nothing => .error "Unknown type"

def decUeInfoChng (src : Asn.EventTriggerFormat4Item) : Except String UeInfoChng := do
  require (0 < src.ricEventTriggerConditionId ∧ src.ricEventTriggerConditionId < 65535 + 1)
    "src->ric_eventTriggerCondition_ID > 0 && src->ric_eventTriggerCondition_ID < 65535+1"
  let type ← decTriggerType src.triggerType
  require (src.associatedUeInfo = none) "src->associatedUEInfo == NULL && \"Not implemented\""
  require (src.logicalOr = none) "src->logicalOR == NULL && \"Not implemented\""
  return ⟨UInt16.ofInt src.ricEventTriggerConditionId, type, none, none⟩

def decRcEvTriggerFormat4 (src : Asn.EventTriggerFormat4) : Except String EvTrgFrmt4 := do
  return ⟨← mapSized (oneTo 65535)
    "src->uEInfoChange_List.list.count > 0 && src->uEInfoChange_List.list.count <  65535 + 1" decUeInfoChng
    src.ueInfoChangeList⟩

def decRcEvTriggerFormat5 (src : Asn.EventTriggerFormat5) : Except String EvTrgFrmt5 := do
  require (src.onDemand = 0) "Unknown type"
  require (src.associatedUeInfo = none) "src->associatedUEInfo == NULL && \"Not implemented\""
  require (src.associatedCellInfo = none) "src->associatedCellInfo == NULL && \"Not implemented\""
  return ⟨.true_, none, none⟩

/-- What `rc_dec_event_trigger_asn` makes of the structure that was decoded -/
def rcDecEventTrigger : Asn.EventTrigger → Except String EventTrigger
  | .format1 format1 => do return .frmt1 (← decRcEvTriggerFormat1 format1)
  | .format2 format2 => do return .frmt2 (← decRcEvTriggerFormat2 format2)
  | .format3 format3 => do return .frmt3 (← decRcEvTriggerFormat3 format3)
  | .format4 format4 => do return .frmt4 (← decRcEvTriggerFormat4 format4)
  | .format5 format5 => do return .frmt5 (← decRcEvTriggerFormat5 format5)
  | .nothing => .error "Unknown format"

end FlexRic.Sm.Rc
