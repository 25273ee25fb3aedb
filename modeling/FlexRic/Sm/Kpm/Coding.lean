import FlexRic.Sm.Kpm.FuncDef

/-! # Encoding and decoding the KPM service model, v05.00

The five encoders of `kpm_enc_asn.c` and the five decoders of `kpm_dec_asn.c`: the mapping between the values of the
code and those of ASN.1, and the call of the generated coder. -/

namespace FlexRic.Sm.Kpm

variable (P : Parts)

/-! ### Mapping the values -/

def encEventTrigger : EventTriggerDef P.Ie → Except String (EventTriggerDefinition P.Asn)
  | .frm1 x => return .eventDefinitionFormat1 (← P.enc _ x)

/-- The style type is the number of the format. -/
def encActionDef : ActDef P.Ie → Except String (ActionDefinition P.Asn)
  | .frm1 x => return ⟨1, .actionDefinitionFormat1 (← P.enc _ x)⟩
  | .frm2 x => return ⟨2, .actionDefinitionFormat2 (← P.enc _ x)⟩
  | .frm3 x => return ⟨3, .actionDefinitionFormat3 (← P.enc _ x)⟩
  | .frm4 x => return ⟨4, .actionDefinitionFormat4 (← P.enc _ x)⟩
  | .frm5 x => return ⟨5, .actionDefinitionFormat5 (← P.enc _ x)⟩

def encIndHdr : IndHdr P.Ie → Except String (IndicationHeader P.Asn)
  | .frm1 x => return .indicationHeaderFormat1 (← P.enc _ x)

def encIndMsg : IndMsg P.Ie → Except String (IndicationMessage P.Asn)
  | .frm1 x => return .indicationMessageFormat1 (← P.enc _ x)
  | .frm2 x => return .indicationMessageFormat2 (← P.enc _ x)
  | .frm3 x => return .indicationMessageFormat3 (← P.enc _ x)

/-- `assert("Non valid KPM RIC Event Trigger Format")` does not fail. -/
def decEventTrigger : EventTriggerDefinition P.Asn → Except String (EventTriggerDef P.Ie)
  | .eventDefinitionFormat1 x => return .frm1 (← P.dec _ x)
  | .nothing => return .frm1 (P.zero _)

def decActionDef (x : ActionDefinition P.Asn) : Except String (ActDef P.Ie) :=
  match x.actionDefinitionFormats with
  | .actionDefinitionFormat1 x => return .frm1 (← P.dec _ x)
  | .actionDefinitionFormat2 x => return .frm2 (← P.dec _ x)
  | .actionDefinitionFormat3 x => return .frm3 (← P.dec _ x)
  | .actionDefinitionFormat4 x => return .frm4 (← P.dec _ x)
  | .actionDefinitionFormat5 x => return .frm5 (← P.dec _ x)
  | .nothing => .error "Non valid KPM RIC Action Definition Format"

def decIndHdr : IndicationHeader P.Asn → Except String (IndHdr P.Ie)
  | .indicationHeaderFormat1 x => return .frm1 (← P.dec _ x)
  | .nothing => .error "Non valid KPM RIC Indication Header Format"

def decIndMsg : IndicationMessage P.Asn → Except String (IndMsg P.Ie)
  | .indicationMessageFormat1 x => return .frm1 (← P.dec _ x)
  | .indicationMessageFormat2 x => return .frm2 (← P.dec _ x)
  | .indicationMessageFormat3 x => return .frm3 (← P.dec _ x)
  | .nothing => .error "Non valid KPM RIC Indication Message Format"

/-! ### The encoders -/

variable (c : KpmCoder P.Asn)

/-- `kpm_enc_event_trigger_asn` -/
def kpmEncEventTriggerAsn (x : EventTriggerDef P.Ie) : Except String (List UInt8) := do
  let pdu ← encEventTrigger P x
  c.encodeToBuffer .alignedBasicPer .eventTriggerDefinition pdu

/-- `kpm_enc_action_def_asn` -/
def kpmEncActionDefAsn (x : ActDef P.Ie) : Except String (List UInt8) := do
  let pdu ← encActionDef P x
  c.encodeToBuffer .alignedBasicPer .actionDefinition pdu

/-- `kpm_enc_ind_hdr_asn` -/
def kpmEncIndHdrAsn (x : IndHdr P.Ie) : Except String (List UInt8) := do
  let pdu ← encIndHdr P x
  c.encodeToBuffer .alignedBasicPer .indicationHeader pdu

/-- `kpm_enc_ind_msg_asn` -/
def kpmEncIndMsgAsn (x : IndMsg P.Ie) : Except String (List UInt8) := do
  let pdu ← encIndMsg P x
  c.encodeToBuffer .alignedBasicPer .indicationMessage pdu

/-- `kpm_enc_func_def_asn` -/
def kpmEncFuncDefAsn (x : RanFunctionDef P.Ie) : Except String (List UInt8) := do
  let pdu ← encFuncDef x
  c.encodeToBuffer .alignedBasicPer .ranFunctionDescription pdu

/-! ### The decoders -/

/-- The value that a decoder gets from `asn_decode`: it asserts that there are bytes, and that they are decoded. -/
def decodeAsn (syn : TransferSyntax) (d : Descriptor) (bs : List UInt8) : Except String (AsnValue P.Asn d) :=
  if ¬bs.length > 0 then .error "len>0"
  else
    match c.decode syn d bs with
    | none => .error "Are you sending data in ATS_UNALIGNED_BASIC_PER syntax?"
    | some pdu => .ok pdu

/-- `kpm_dec_event_trigger_asn` -/
def kpmDecEventTriggerAsn (bs : List UInt8) : Except String (EventTriggerDef P.Ie) := do
  let pdu ← decodeAsn P c .unalignedBasicPer .eventTriggerDefinition bs
  decEventTrigger P pdu

/-- `kpm_dec_action_def_asn` -/
def kpmDecActionDefAsn (bs : List UInt8) : Except String (ActDef P.Ie) := do
  let pdu ← decodeAsn P c .unalignedBasicPer .actionDefinition bs
  decActionDef P pdu

/-- `kpm_dec_ind_hdr_asn` -/
def kpmDecIndHdrAsn (bs : List UInt8) : Except String (IndHdr P.Ie) := do
  let pdu ← decodeAsn P c .unalignedBasicPer .indicationHeader bs
  decIndHdr P pdu

/-- `kpm_dec_ind_msg_asn`. Bytes that are not decoded go to another program; `jsonl` says for which bytes
`ocudu_kpm_v05_decode_to_jsonl` returns zero. -/
def kpmDecIndMsgAsn (jsonl : List UInt8 → Bool) (bs : List UInt8) : Except String (IndMsg P.Ie) :=
  if bs.length > 0 ∧ c.decode .unalignedBasicPer .indicationMessage bs = none ∧ jsonl bs = true then
    .ok (.frm1 (P.zero _))
  else do
    let pdu ← decodeAsn P c .unalignedBasicPer .indicationMessage bs
    decIndMsg P pdu

/-- `kpm_dec_func_def_asn` -/
def kpmDecFuncDefAsn (bs : List UInt8) : Except String (RanFunctionDef P.Ie) := do
  let pdu ← decodeAsn P c .unalignedBasicPer .ranFunctionDescription bs
  decFuncDef pdu

end FlexRic.Sm.Kpm
