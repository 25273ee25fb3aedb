import FlexRic.Sm.Asn1

/-! # The values of the KPM service model, v05.00

What an E2 node and the RIC exchange about performance measurements, as the code has it (`kpm_data_ie.h`), and as the
ASN.1 types have it. Both are made of parts, one for each format; a part has a C structure of its own on either side. -/

namespace FlexRic.Sm.Kpm

/-- The formats of the information elements, and a definition that they share. -/
inductive Part
  | eventTriggerFrm1
  | actionDefFrm1
  | actionDefFrm2
  | actionDefFrm3
  | actionDefFrm4
  | actionDefFrm5
  | indHdrFrm1
  | indMsgFrm1
  | indMsgFrm2
  | indMsgFrm3
  | binRangeDef
  deriving DecidableEq, Repr

/-- The parts on both sides, and the functions of `enc_asn` and `dec_asn` that map one side to the other.
`zero` is a structure of zeroes. -/
structure Parts where
  Ie : Part → Type
  Asn : Part → Type
  enc : (p : Part) → Ie p → Except String (Asn p)
  dec : (p : Part) → Asn p → Except String (Ie p)
  zero : (p : Part) → Ie p

/-! ### The values of the code -/

section Ie
variable (Ie : Part → Type)

/-- `kpm_event_trigger_def_t` -/
inductive EventTriggerDef
  | frm1 (x : Ie .eventTriggerFrm1)

/-- `kpm_act_def_t` -/
inductive ActDef
  | frm1 (x : Ie .actionDefFrm1)
  | frm2 (x : Ie .actionDefFrm2)
  | frm3 (x : Ie .actionDefFrm3)
  | frm4 (x : Ie .actionDefFrm4)
  | frm5 (x : Ie .actionDefFrm5)

/-- `kpm_ind_hdr_t` -/
inductive IndHdr
  | frm1 (x : Ie .indHdrFrm1)

/-- `kpm_ind_msg_t` -/
inductive IndMsg
  | frm1 (x : Ie .indMsgFrm1)
  | frm2 (x : Ie .indMsgFrm2)
  | frm3 (x : Ie .indMsgFrm3)

/-- `ran_function_name_t` -/
structure RanFunctionName where
  name : List UInt8
  oid : List UInt8
  description : List UInt8
  instance_ : Option Int

/-- `style_ric_event_trigger_e`; its last constant counts the others. -/
inductive StyleRicEventTrigger
  | style1
  | end_

/-- `format_ric_event_trigger_e` -/
inductive FormatRicEventTrigger
  | format1
  | end_

/-- `ric_service_report_e` -/
inductive RicServiceReport
  | style1
  | style2
  | style3
  | style4
  | style5
  | end_

/-- `format_action_def_e` -/
inductive FormatActionDef
  | format1
  | format2
  | format3
  | format4
  | format5
  | end_

/-- `format_ind_hdr_e` -/
inductive FormatIndHdr
  | format1
  | end_

/-- `format_ind_msg_e` -/
inductive FormatIndMsg
  | format1
  | format2
  | format3
  | end_

/-- `ric_event_trigger_style_item_t` -/
structure RicEventTriggerStyleItem where
  styleType : StyleRicEventTrigger
  styleName : List UInt8
  formatType : FormatRicEventTrigger

/-- `meas_info_for_action_lst_t` -/
structure MeasInfoForAction where
  name : List UInt8
  id : Option Nat
  binRangeDef : Option (Ie .binRangeDef)

/-- `ric_report_style_item_t` -/
structure RicReportStyleItem where
  reportStyleType : RicServiceReport
  reportStyleName : List UInt8
  actDefFormatType : FormatActionDef
  measInfoForActionLst : List (MeasInfoForAction Ie)
  indHdrFormatType : FormatIndHdr
  indMsgFormatType : FormatIndMsg

/-- `kpm_ran_function_def_t`; a list that is `NULL` is `none`. -/
structure RanFunctionDef where
  name : RanFunctionName
  ricEventTriggerStyleList : Option (List RicEventTriggerStyleItem)
  ricReportStyleList : Option (List (RicReportStyleItem Ie))

end Ie

/-! ### The values of the ASN.1 types -/

section Asn
variable (Asn : Part → Type)

/-- `E2SM_KPM_EventTriggerDefinition_t`: its choice, or that nothing is present. -/
inductive EventTriggerDefinition
  | nothing
  | eventDefinitionFormat1 (x : Asn .eventTriggerFrm1)

/-- The choice of `E2SM_KPM_ActionDefinition_t` -/
inductive ActionDefinitionFormats
  | nothing
  | actionDefinitionFormat1 (x : Asn .actionDefFrm1)
  | actionDefinitionFormat2 (x : Asn .actionDefFrm2)
  | actionDefinitionFormat3 (x : Asn .actionDefFrm3)
  | actionDefinitionFormat4 (x : Asn .actionDefFrm4)
  | actionDefinitionFormat5 (x : Asn .actionDefFrm5)

/-- `E2SM_KPM_ActionDefinition_t` -/
structure ActionDefinition where
  ricStyleType : Int
  actionDefinitionFormats : ActionDefinitionFormats Asn

/-- `E2SM_KPM_IndicationHeader_t` -/
inductive IndicationHeader
  | nothing
  | indicationHeaderFormat1 (x : Asn .indHdrFrm1)

/-- `E2SM_KPM_IndicationMessage_t` -/
inductive IndicationMessage
  | nothing
  | indicationMessageFormat1 (x : Asn .indMsgFrm1)
  | indicationMessageFormat2 (x : Asn .indMsgFrm2)
  | indicationMessageFormat3 (x : Asn .indMsgFrm3)

/-- `RIC_EventTriggerStyle_Item_t` -/
structure EventTriggerStyleItem where
  ricEventTriggerStyleType : Int
  ricEventTriggerStyleName : List UInt8
  ricEventTriggerFormatType : Int

/-- `MeasurementInfo_Action_Item_t` -/
structure MeasurementInfoActionItem where
  measName : List UInt8
  measId : Option Int
  binRangeDef : Option (Asn .binRangeDef)

/-- `RIC_ReportStyle_Item_t` -/
structure ReportStyleItem where
  ricReportStyleType : Int
  ricReportStyleName : List UInt8
  ricActionFormatType : Int
  measInfoActionList : List (MeasurementInfoActionItem Asn)
  ricIndicationHeaderFormatType : Int
  ricIndicationMessageFormatType : Int

/-- `RANfunction_Name_t` -/
structure RanFunctionNameAsn where
  ranFunctionShortName : List UInt8
  ranFunctionE2smOid : List UInt8
  ranFunctionDescription : List UInt8
  ranFunctionInstance : Option Int

/-- `E2SM_KPM_RANfunction_Description_t` -/
structure RanFunctionDescription where
  ranFunctionName : RanFunctionNameAsn
  ricEventTriggerStyleList : Option (List EventTriggerStyleItem)
  ricReportStyleList : Option (List (ReportStyleItem Asn))

end Asn

/-- The type descriptors `asn_DEF_E2SM_KPM_*` that the coders name. -/
inductive Descriptor
  | eventTriggerDefinition
  | actionDefinition
  | indicationHeader
  | indicationMessage
  | ranFunctionDescription
  deriving DecidableEq, Repr

/-- The structure that a descriptor describes. -/
def AsnValue (Asn : Part → Type) : Descriptor → Type
  | .eventTriggerDefinition => EventTriggerDefinition Asn
  | .actionDefinition => ActionDefinition Asn
  | .indicationHeader => IndicationHeader Asn
  | .indicationMessage => IndicationMessage Asn
  | .ranFunctionDescription => RanFunctionDescription Asn

/-- The coders that are generated for the KPM types. -/
abbrev KpmCoder (Asn : Part → Type) := AsnCoder Descriptor (AsnValue Asn)

end FlexRic.Sm.Kpm
