import FlexRic.Sm.Kpm.Coding

/-! # Which transfer syntax the KPM coders use

The encoders name the aligned variant of PER and the decoders the unaligned one. Each of them understands a peer that
uses its own variant, and nothing makes the decoders understand the encoders. -/

namespace FlexRic.Sm.Kpm

/-- The kinds of information elements. -/
inductive Kind
  | eventTrigger
  | actionDef
  | indHdr
  | indMsg
  | funcDef

namespace Kind

def Value (Ie : Part → Type) : Kind → Type
  | eventTrigger => EventTriggerDef Ie
  | actionDef => ActDef Ie
  | indHdr => IndHdr Ie
  | indMsg => IndMsg Ie
  | funcDef => RanFunctionDef Ie

def descriptor : Kind → Descriptor
  | eventTrigger => .eventTriggerDefinition
  | actionDef => .actionDefinition
  | indHdr => .indicationHeader
  | indMsg => .indicationMessage
  | funcDef => .ranFunctionDescription

variable (P : Parts) (c : KpmCoder P.Asn) (jsonl : List UInt8 → Bool)

/-- The ASN.1 value of a value. -/
def toAsn : (k : Kind) → k.Value P.Ie → Except String (AsnValue P.Asn k.descriptor)
  | eventTrigger => encEventTrigger P
  | actionDef => encActionDef P
  | indHdr => encIndHdr P
  | indMsg => encIndMsg P
  | funcDef => encFuncDef

/-- The value that an ASN.1 value stands for. -/
def ofAsn : (k : Kind) → AsnValue P.Asn k.descriptor → Except String (k.Value P.Ie)
  | eventTrigger => decEventTrigger P
  | actionDef => decActionDef P
  | indHdr => decIndHdr P
  | indMsg => decIndMsg P
  | funcDef => decFuncDef

def kpmEnc : (k : Kind) → k.Value P.Ie → Except String (List UInt8)
  | eventTrigger => kpmEncEventTriggerAsn P c
  | actionDef => kpmEncActionDefAsn P c
  | indHdr => kpmEncIndHdrAsn P c
  | indMsg => kpmEncIndMsgAsn P c
  | funcDef => kpmEncFuncDefAsn P c

def kpmDec : (k : Kind) → List UInt8 → Except String (k.Value P.Ie)
  | eventTrigger => kpmDecEventTriggerAsn P c
  | actionDef => kpmDecActionDefAsn P c
  | indHdr => kpmDecIndHdrAsn P c
  | indMsg => kpmDecIndMsgAsn P c jsonl
  | funcDef => kpmDecFuncDefAsn P c

/-- What the encoder of the kind sends, its decoder takes for the same ASN.1 value. -/
def Agree (k : Kind) : Prop :=
  ∀ v pdu bs, k.toAsn P v = .ok pdu → k.kpmEnc P c v = .ok bs → k.kpmDec P c jsonl bs = k.ofAsn P pdu

end Kind

section Coders
variable {P : Parts} {c : KpmCoder P.Asn} {syn : TransferSyntax} {d : Descriptor} {bs : List UInt8}

/-- What an encoder sends, a peer of its syntax decodes. -/
theorem decode_of_encodeToBuffer (hc : c.Inverts) {x : Except String (AsnValue P.Asn d)}
    (h : (x >>= fun pdu => c.encodeToBuffer syn d pdu) = .ok bs) :
    ∃ pdu, x = .ok pdu ∧ c.decode syn d bs = some pdu := by
  obtain ⟨pdu, hx, he⟩ := Except.bind_eq_ok.mp h
  exact ⟨pdu, hx, hc _ _ _ _ (AsnCoder.encodeToBuffer_eq_ok.mp he).1⟩

/-- What a peer of its syntax sends, a decoder gets back. -/
theorem decodeAsn_of_encode (hc : c.Inverts) {pdu : AsnValue P.Asn d} (hbs : bs ≠ [])
    (he : c.encode syn d pdu = some bs) : decodeAsn P c syn d bs = .ok pdu := by
  rw [decodeAsn, if_neg (not_not_intro (List.length_pos_iff.mpr hbs)), hc _ _ _ _ he]

end Coders

/-- Both sides of each kind name the same type; what an encoder sends is the ASN.1 value for a decoder of aligned PER,
and a decoder gives its caller what the ASN.1 value stands for that an encoder of unaligned PER sent. -/
theorem kpm_coders_agree_with_peers (P : Parts) (c : KpmCoder P.Asn) (jsonl : List UInt8 → Bool) (hc : c.Inverts)
    (k : Kind) :
    (∀ v bs, k.kpmEnc P c v = .ok bs →
      ∃ pdu, k.toAsn P v = .ok pdu ∧ c.decode .alignedBasicPer k.descriptor bs = some pdu) ∧
    (∀ pdu bs, bs ≠ [] → c.encode .unalignedBasicPer k.descriptor pdu = some bs →
      k.kpmDec P c jsonl bs = k.ofAsn P pdu) := by
  constructor
  · intro v bs h
    cases k with
    | eventTrigger => exact decode_of_encodeToBuffer hc h
    | actionDef => exact decode_of_encodeToBuffer hc h
    | indHdr => exact decode_of_encodeToBuffer hc h
    | indMsg => exact decode_of_encodeToBuffer hc h
    | funcDef => exact decode_of_encodeToBuffer hc h
  · intro pdu bs hbs he
    have hd := decodeAsn_of_encode hc hbs he
    cases k with
    | eventTrigger => exact congrArg (· >>= decEventTrigger P) hd
    | actionDef => exact congrArg (· >>= decActionDef P) hd
    | indHdr => exact congrArg (· >>= decIndHdr P) hd
    | indMsg =>
      -- The other program is asked only about bytes that are not decoded.
      have hnone : ¬(bs.length > 0 ∧ c.decode .unalignedBasicPer .indicationMessage bs = none ∧ jsonl bs = true) := by
        rintro ⟨-, hn, -⟩
        cases (hc _ _ _ _ he).symm.trans hn
      show kpmDecIndMsgAsn P c jsonl bs = decIndMsg P pdu
      rw [kpmDecIndMsgAsn, if_neg hnone]
      exact congrArg (· >>= decIndMsg P) hd
    | funcDef => exact congrArg (· >>= decFuncDef) hd

/-! ### A reporting period of one second -/

/-- The reporting period in the event trigger; numbers stand for the other parts. -/
def periodParts : Parts where
  Ie _ := Nat
  Asn _ := Nat
  enc _ := .ok
  dec _ := .ok
  zero _ := 0

/-- The event trigger of one second in both variants of PER. -/
def oneSecond : TransferSyntax → List UInt8
  | .alignedBasicPer => [0x08, 0x03, 0xE7]
  | .unalignedBasicPer => [0x00, 0x00, 0x00, 0x7C, 0xE0]

def encodePeriod (syn : TransferSyntax) (ms : Nat) : Option (List UInt8) :=
  if ms = 1000 then some (oneSecond syn) else none

/-- The coder at the event trigger of one second. -/
def periodCoder : KpmCoder periodParts.Asn where
  encode
    | syn, .eventTriggerDefinition, .eventDefinitionFormat1 ms => encodePeriod syn ms
    | _, _, _ => none
  decode
    | syn, .eventTriggerDefinition, bs => if bs = oneSecond syn then some (.eventDefinitionFormat1 (1000 : Nat)) else none
    | _, _, _ => none

theorem periodCoder_inverts : periodCoder.Inverts := by
  intro syn d v bs h
  cases d with
  | eventTriggerDefinition =>
    cases v with
    | nothing => cases h
    | eventDefinitionFormat1 ms =>
      change encodePeriod syn ms = some bs at h
      unfold encodePeriod at h
      split at h
      · next hms =>
        obtain rfl := Option.some.inj h
        rw [hms]
        exact if_pos rfl
      · cases h
  | actionDefinition => cases h
  | indicationHeader => cases h
  | indicationMessage => cases h
  | ranFunctionDescription => cases h

/-- The period of one second, between each side and a peer of its own syntax. -/
theorem one_second_with_peers :
    periodCoder.decode .alignedBasicPer .eventTriggerDefinition [0x08, 0x03, 0xE7] =
      some (.eventDefinitionFormat1 (1000 : Nat)) ∧
    kpmDecEventTriggerAsn periodParts periodCoder [0x00, 0x00, 0x00, 0x7C, 0xE0] = .ok (.frm1 (1000 : Nat)) := by
  have h := kpm_coders_agree_with_peers periodParts periodCoder (fun _ => false) periodCoder_inverts .eventTrigger
  constructor
  · obtain ⟨pdu, hpdu, hd⟩ := h.1 (.frm1 (1000 : Nat)) [0x08, 0x03, 0xE7] rfl
    obtain rfl := Except.ok.inj hpdu
    exact hd
  · exact h.2 (.eventDefinitionFormat1 (1000 : Nat)) [0x00, 0x00, 0x00, 0x7C, 0xE0] (by decide) rfl

/-- What `kpm_enc_event_trigger_asn` makes of one second, `kpm_dec_event_trigger_asn` does not accept. -/
theorem one_second_is_not_decoded : periodCoder.Inverts ∧
    kpmEncEventTriggerAsn periodParts periodCoder (.frm1 (1000 : Nat)) = .ok [0x08, 0x03, 0xE7] ∧
    kpmDecEventTriggerAsn periodParts periodCoder [0x08, 0x03, 0xE7] =
      .error "Are you sending data in ATS_UNALIGNED_BASIC_PER syntax?" ∧
    ¬Kind.Agree periodParts periodCoder (fun _ => false) .eventTrigger := by
  refine ⟨periodCoder_inverts, rfl, rfl, fun h => ?_⟩
  have hdec := h (.frm1 (1000 : Nat)) (.eventDefinitionFormat1 (1000 : Nat)) [0x08, 0x03, 0xE7] rfl rfl
  cases hdec

end FlexRic.Sm.Kpm
