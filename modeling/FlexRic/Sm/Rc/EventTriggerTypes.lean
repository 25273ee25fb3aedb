import FlexRic.Sm.Rc.RanParam

/-! # The values of event triggers

The five formats of an event trigger of the RC service model, as the code and as the ASN.1 types have them. Enumerations
of the ASN.1 types are their numbers. -/

namespace FlexRic.Sm.Rc

/-- What stands behind a pointer that the code only compares with `NULL` -/
abbrev Unread := Unit

/-! ### The values of the code -/

/-- `logical_or_e` -/
inductive LogicalOr
  | true_
  | false_
  | end_
  deriving DecidableEq, Repr

/-- `network_interface_type_e`; the last constant of this and of the next enumerations counts the others. -/
inductive NetworkInterfaceType
  | ng
  | xn
  | f1
  | e1
  | s1
  | x2
  | w1
  | end_
  deriving DecidableEq, Repr

/-- `network_interface_e2rc_t` -/
structure NetworkInterface where
  niType : NetworkInterfaceType
  niId : Option Unread
  niMsgId : Option Unread

/-- `lte_rrc_class_e` -/
inductive LteRrcClass
  | bcchBch
  | bcchBchMbms
  | bcchDlSch
  | bcchDlSchBr
  | bcchDlSchMbms
  | mcch
  | pcch
  | dlCcch
  | dlDcch
  | ulCcch
  | ulDcch
  | scMcch
  | end_
  deriving DecidableEq, Repr

/-- `nr_rrc_class_e` -/
inductive NrRrcClass
  | bcchBch
  | bcchDlSch
  | dlCcch
  | dlDcch
  | pcch
  | ulCcch
  | ulCcch1
  | ulDcch
  | end_
  deriving DecidableEq, Repr

/-- The type of an `rrc_msg_id_t` and its union -/
inductive RrcClass
  | lte (lte : LteRrcClass)
  | nr (nr : NrRrcClass)

/-- `rrc_msg_id_t` -/
structure RrcMsgId where
  type : RrcClass
  rrcMsgId : UInt64

/-- The message type of a `msg_ev_trg_t` and its union -/
inductive MsgType
  | net (net : NetworkInterface)
  | rrcMsg (rrcMsg : RrcMsgId)

/-- `msg_ev_trg_t` -/
structure MsgEvTrg where
  evTriggerCondId : UInt16
  msgType : MsgType
  msgDir : Option Unread
  assocUeInfo : Option Unread
  logOr : Option Unread

/-- `e2sm_rc_ev_trg_frmt_1_t` -/
structure EvTrgFrmt1 where
  msgEvTrg : List MsgEvTrg
  globalAssocUeInfo : Option Unread

/-- `e2sm_rc_ev_trg_frmt_2_t` -/
structure EvTrgFrmt2 where
  callProcTypeId : UInt16
  callBreakId : UInt16
  assocE2NodeInfo : Option Unread
  assocUeInfo : Option Unread

/-- `ev_trigger_cell_info_t` -/
structure EvTriggerCellInfo where
  dummy : UInt32

/-- `e2_node_info_chng_t` -/
structure E2NodeInfoChng where
  evTriggerCondId : UInt16
  e2NodeInfoChngId : UInt16
  evTriggerCellInfo : Option EvTriggerCellInfo
  logOr : Option LogicalOr

/-- `e2sm_rc_ev_trg_frmt_3_t` -/
structure EvTrgFrmt3 where
  e2NodeInfoChng : List E2NodeInfoChng

/-- `rrc_state_e2sm_rc_e` -/
inductive RrcStateE2sm
  | rrcConnected
  | rrcInactive
  | rrcIdle
  | any
  | end_
  deriving DecidableEq, Repr

/-- `rrc_state_t` -/
structure RrcState where
  stateChngdTo : RrcStateE2sm
  logOr : Option Unread

/-- `ran_param_test_cond_comp_e` -/
inductive RanParamTestCondComp
  | equal
  | difference
  | greaterThan
  | lessThan
  | contains
  | startsWith
  | end_
  deriving DecidableEq, Repr

/-- `ran_param_test_cond_presence_e` -/
inductive RanParamTestCondPresence
  | present
  | configured
  | rollover
  | nonZero
  | end_
  deriving DecidableEq, Repr

/-- `ran_param_test_cond_t` -/
inductive RanParamTestCond
  | comparison (comp : RanParamTestCondComp)
  | presence (presence : RanParamTestCondPresence)

/-- `ran_param_elm_key_false_t` -/
structure RanParamElmKeyFalse where
  testCond : RanParamTestCond
  value : Option Unread
  logicalOr : Option Unread

/-- The type of a test and its union, over the tests below it -/
inductive RanParamTestType (T : Type)
  | lst (lst : List T)
  | strct (strct : List T)
  | flagTrue (flagTrue : RanParameterValue)
  | flagFalse (flagFalse : RanParamElmKeyFalse)

/-- `ran_param_test_t` -/
inductive RanParamTest
  | mk (ranParamId : UInt32) (type : RanParamTestType RanParamTest)

/-- The trigger type of a `ue_info_chng_t` and its union -/
inductive UeInfoChngTrigger
  | rrcState (rrcState : List RrcState)
  | ueIdChange (ueIdChng : UInt16)
  | l2State (l2State : List RanParamTest)

/-- `ue_info_chng_t` -/
structure UeInfoChng where
  evTrigCondId : UInt16
  type : UeInfoChngTrigger
  assocUeInfo : Option Unread
  logOr : Option Unread

/-- `e2sm_rc_ev_trg_frmt_4_t` -/
structure EvTrgFrmt4 where
  ueInfoChng : List UeInfoChng

/-- `on_demand_frmt_5_e` -/
inductive OnDemand
  | true_
  | end_
  deriving DecidableEq, Repr

/-- `e2sm_rc_ev_trg_frmt_5_t` -/
structure EvTrgFrmt5 where
  onDemand : OnDemand
  assocUeInfo : Option Unread
  assocCellInfo : Option Unread

/-- `e2sm_rc_event_trigger_t` -/
inductive EventTrigger
  | frmt1 (frmt1 : EvTrgFrmt1)
  | frmt2 (frmt2 : EvTrgFrmt2)
  | frmt3 (frmt3 : EvTrgFrmt3)
  | frmt4 (frmt4 : EvTrgFrmt4)
  | frmt5 (frmt5 : EvTrgFrmt5)

/-! ### The values of the ASN.1 types -/

namespace Asn

/-- `MessageType_Choice_NI_t` -/
structure MessageTypeNi where
  niType : Int
  niIdentifier : Option Unread
  niMessage : Option Unread

/-- The `rrcType` of an `RRC_MessageID_t` -/
inductive RrcType
  | nothing
  | lte (lte : Int)
  | nr (nr : Int)

/-- `RRC_MessageID_t` -/
structure RrcMessageId where
  rrcType : RrcType
  messageId : Int64

/-- `MessageType_Choice_t` -/
inductive MessageType
  | nothing
  | ni (ni : MessageTypeNi)
  | rrc (rrcMessage : RrcMessageId)

/-- `E2SM_RC_EventTrigger_Format1_Item_t` -/
structure EventTriggerFormat1Item where
  ricEventTriggerConditionId : Int
  messageType : MessageType
  messageDirection : Option Unread
  associatedUeInfo : Option Unread
  logicalOr : Option Unread

/-- `E2SM_RC_EventTrigger_Format1_t` -/
structure EventTriggerFormat1 where
  messageList : List EventTriggerFormat1Item
  globalAssociatedUeInfo : Option Unread

/-- `E2SM_RC_EventTrigger_Format2_t` -/
structure EventTriggerFormat2 where
  ricCallProcessTypeId : Int
  ricCallProcessBreakpointId : Int
  associatedE2NodeInfo : Option Unread
  associatedUeInfo : Option Unread

/-- `E2SM_RC_EventTrigger_Format3_Item_t` -/
structure EventTriggerFormat3Item where
  ricEventTriggerConditionId : Int
  e2NodeInfoChangeId : Int
  associatedCellInfo : Option Unread
  logicalOr : Option Unread

/-- `E2SM_RC_EventTrigger_Format3_t` -/
structure EventTriggerFormat3 where
  e2NodeInfoChangeList : List EventTriggerFormat3Item

/-- `TriggerType_Choice_RRCstate_Item_t` -/
structure RrcStateItem where
  stateChangedTo : Int
  logicalOr : Option Unread

/-- `RANParameter_TestingCondition_t` -/
inductive RanParameterTestingCondition
  | nothing
  | comparison (comparison : Int)
  | presence (presence : Int)

/-- `RANParameter_Testing_Item_Choice_ElementFalse_t` -/
structure TestingElementFalse where
  ranParameterTestCondition : RanParameterTestingCondition
  ranParameterValue : Option Unread
  logicalOr : Option Unread

/-- The `ranParameter_Type` of a test, over the tests below it -/
inductive TestingType (T : Type)
  | nothing
  | list (ranParameterList : List T)
  | structure_ (ranParameterStructure : List T)
  | elementTrue (ranParameterValue : RanParameterValue)
  | elementFalse (elementFalse : TestingElementFalse)

/-- `RANParameter_Testing_Item_t` -/
inductive RanParameterTestingItem
  | mk (ranParameterId : Nat) (ranParameterType : TestingType RanParameterTestingItem)

/-- `TriggerType_Choice_t` -/
inductive TriggerType
  | nothing
  | rrcState (rrcStateList : List RrcStateItem)
  | ueId (ueIdChangeId : Int)
  | l2State (associatedL2Variables : List RanParameterTestingItem)

/-- `E2SM_RC_EventTrigger_Format4_Item_t` -/
structure EventTriggerFormat4Item where
  ricEventTriggerConditionId : Int
  triggerType : TriggerType
  associatedUeInfo : Option Unread
  logicalOr : Option Unread

/-- `E2SM_RC_EventTrigger_Format4_t` -/
structure EventTriggerFormat4 where
  ueInfoChangeList : List EventTriggerFormat4Item

/-- `E2SM_RC_EventTrigger_Format5_t` -/
structure EventTriggerFormat5 where
  onDemand : Int
  associatedUeInfo : Option Unread
  associatedCellInfo : Option Unread

/-- `E2SM_RC_EventTrigger_t` -/
inductive EventTrigger
  | nothing
  | format1 (format1 : EventTriggerFormat1)
  | format2 (format2 : EventTriggerFormat2)
  | format3 (format3 : EventTriggerFormat3)
  | format4 (format4 : EventTriggerFormat4)
  | format5 (format5 : EventTriggerFormat5)

end Asn

end FlexRic.Sm.Rc
