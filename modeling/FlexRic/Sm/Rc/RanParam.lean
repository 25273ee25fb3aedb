import FlexRic.Lib.Carried

/-! # RAN parameters of the RC service model

The values that RAN parameters take, as the code has them (`sm/rc_sm/ie/ir`) and as the ASN.1 types do, and the
functions of `rc_enc_asn.c` and `rc_dec_asn.c` that map one to the other. A value is an element, a structure of
parameters, or a list of structures, so that values are trees of any depth. The floating-point numbers, which both sides
only store, are their bits. -/

namespace FlexRic.Sm.Rc

/-! ### The values of the code -/

/-- `ran_parameter_value_t` -/
inductive RanParameterValue
  | bool (boolRan : Bool)
  | int (intRan : Int)
  | real (realRan : UInt64)
  | bitStr (bitStrRan : List UInt8)
  | octetStr (octetStrRan : List UInt8)
  | printableStr (printableStrRan : List UInt8)
  deriving DecidableEq, Repr

/-- `seq_ran_param_t`, `ran_param_req_t` and, of values that are elements, `seq_ran_param_2_t` -/
structure SeqRanParam (V : Type) where
  ranParamId : UInt32
  ranParamVal : V

/-- `lst_ran_param_t` -/
structure LstRanParam (V : Type) where
  ranParamId : UInt32
  ranParamStruct : List (SeqRanParam V)

/-- `ran_param_val_type_t`, with `ran_param_struct_t` and `ran_param_list_t` for their arrays -/
inductive RanParamValType
  | flagTrue (flagTrue : RanParameterValue)
  | flagFalse (flagFalse : RanParameterValue)
  | strct (strct : List (SeqRanParam RanParamValType))
  | lst (lst : List (LstRanParam RanParamValType))

/-! ### The values of the ASN.1 types -/

/-- `BIT_STRING_t` -/
structure Asn.BitString where
  buf : List UInt8
  bitsUnused : Int
  deriving DecidableEq, Repr

/-- `RANParameter_Value_t` -/
inductive Asn.RanParameterValue
  | nothing
  | valueBoolean (valueBoolean : Bool)
  | valueInt (valueInt : Int)
  | valueReal (valueReal : UInt64)
  | valueBitS (valueBitS : BitString)
  | valueOctS (valueOctS : List UInt8)
  | valuePrintableString (valuePrintableString : List UInt8)
  deriving DecidableEq, Repr

/-- `RANParameter_STRUCTURE_Item_t` and the other `*_Item_t` of an identifier and a value -/
structure Asn.RanParameterItem (W : Type) where
  ranParameterId : Nat
  ranParameterValueType : W

/-- `RANParameter_ValueType_t`. A `RANParameter_STRUCTURE_t` is its optional sequence. -/
inductive Asn.RanParameterValueType
  | nothing
  | elementTrue (ranParameterValue : RanParameterValue)
  | elementFalse (ranParameterValue : Option RanParameterValue)
  | structure_ (sequenceOfRanParameters : Option (List (RanParameterItem RanParameterValueType)))
  | list (listOfRanParameter : List (Option (List (RanParameterItem RanParameterValueType))))

/-! ### To ASN.1 -/

def cpRanParamVal : RanParameterValue → Asn.RanParameterValue
  | .bool b => .valueBoolean b
  | .int i => .valueInt i
  | .real x => .valueReal x
  | .bitStr ba => .valueBitS ⟨ba, 0⟩
  | .octetStr ba => .valueOctS ba
  | .printableStr ba => .valuePrintableString ba

/-- An item with an identifier and a value, the value mapped by `enc` -/
def encRanParamItem {V W : Type} (enc : V → Except String W) (src : SeqRanParam V) :
    Except String (Asn.RanParameterItem W) := do
  require (0 < src.ranParamId) "src->ran_param_id > 0"
  let val ← enc src.ranParamVal
  return ⟨src.ranParamId.toNat, val⟩

-- The identifier of a list item is skipped on purpose: the ASN.1 type of the item is that of a structure.
mutual

def cpRanParamValueType : RanParamValType → Except String Asn.RanParameterValueType
  | .flagTrue v => .ok (.elementTrue (cpRanParamVal v))
  | .flagFalse v => .ok (.elementFalse (some (cpRanParamVal v)))
  | .strct ps => do return .structure_ (some (← encRanParamStructs ps))
  | .lst is => do return .list (← encLstRanParams is)

/-- The loop over the members of a structure -/
def encRanParamStructs :
    List (SeqRanParam RanParamValType) → Except String (List (Asn.RanParameterItem Asn.RanParameterValueType))
  | [] => .ok []
  | ⟨id, v⟩ :: ps => do
    require (0 < id) "src->ran_param_id > 0"
    let val ← cpRanParamValueType v
    return ⟨id.toNat, val⟩ :: (← encRanParamStructs ps)

/-- The loop over the items of a list -/
def encLstRanParams : List (LstRanParam RanParamValType) →
    Except String (List (Option (List (Asn.RanParameterItem Asn.RanParameterValueType))))
  | [] => .ok []
  | ⟨_, ps⟩ :: is => do
    let s ← encRanParamStructs ps
    return some s :: (← encLstRanParams is)

end

def encRanParamStruct : SeqRanParam RanParamValType → Except String (Asn.RanParameterItem Asn.RanParameterValueType) :=
  encRanParamItem cpRanParamValueType

def encLstRanParam (src : LstRanParam RanParamValType) :
    Except String (Option (List (Asn.RanParameterItem Asn.RanParameterValueType))) := do
  return some (← src.ranParamStruct.mapM encRanParamStruct)

/-! ### From ASN.1 -/

def copyBitStringToBa (bs : Asn.BitString) : Except String (List UInt8) := do
  require (bs.bitsUnused = 0) "bs.bits_unused == 0"
  return bs.buf

def decRanParamVal : Asn.RanParameterValue → Except String RanParameterValue
  | .valueBoolean b => .ok (.bool b)
  | .valueInt i => .ok (.int i)
  | .valueReal x => .ok (.real x)
  | .valueBitS bs => do return .bitStr (← copyBitStringToBa bs)
  | .valueOctS os => .ok (.octetStr os)
  | .valuePrintableString os => .ok (.printableStr os)
  | .nothing => .error "Unknown type"

/-- The same function once more -/
def decRanParameterValue : Asn.RanParameterValue → Except String RanParameterValue := decRanParamVal

/-- An item with an identifier and a value, the value mapped by `dec`. The identifier loses what a `uint32_t` has no
room for. -/
def decRanParamItem {V W : Type} (dec : W → Except String V) (src : Asn.RanParameterItem W) :
    Except String (SeqRanParam V) := do
  require (0 < src.ranParameterId) "src->ranParameter_ID > 0"
  let val ← dec src.ranParameterValueType
  return ⟨UInt32.ofNat src.ranParameterId, val⟩

/-- An item of which the decoder asserts that the identifier has room. -/
def decRanParamItemInRange {V W : Type} (dec : W → Except String V) (src : Asn.RanParameterItem W) :
    Except String (SeqRanParam V) := do
  require (0 < src.ranParameterId ∧ src.ranParameterId < 4294967295 + 1)
    "src->ranParameter_ID > 0 && src->ranParameter_ID < 4294967295 +1"
  let val ← dec src.ranParameterValueType
  return ⟨UInt32.ofNat src.ranParameterId, val⟩

mutual

def decRanParamValueType : Asn.RanParameterValueType → Except String RanParamValType
  | .elementTrue v => do return .flagTrue (← decRanParameterValue v)
  | .elementFalse (some v) => do return .flagFalse (← decRanParameterValue v)
  | .elementFalse none => .error "src != NULL"
  | .structure_ (some is) => do
    require (oneTo 65535 is.length)
      "src->sequence_of_ranParameters->list.count > 0 && src->sequence_of_ranParameters->list.count <  65535 + 1"
    return .strct (← decRanParamStructs is)
  | .structure_ none => .error "src->sequence_of_ranParameters != NULL"
  | .list ss => do return .lst (← decLstRanParams ss)
  | .nothing => .error "Not implemented"

/-- The loop over the members of a structure -/
def decRanParamStructs :
    List (Asn.RanParameterItem Asn.RanParameterValueType) → Except String (List (SeqRanParam RanParamValType))
  | [] => .ok []
  | ⟨id, v⟩ :: is => do
    require (0 < id) "src->ranParameter_ID > 0"
    let val ← decRanParamValueType v
    return ⟨UInt32.ofNat id, val⟩ :: (← decRanParamStructs is)

/-- The loop over the items of a list. A missing sequence is dereferenced. -/
def decLstRanParams : List (Option (List (Asn.RanParameterItem Asn.RanParameterValueType))) →
    Except String (List (LstRanParam RanParamValType))
  | [] => .ok []
  | none :: _ => .error "NULL dereferenced"
  | some is :: ss => do
    require (oneTo 65535 is.length)
      "src->sequence_of_ranParameters->list.count > 0 && src->sequence_of_ranParameters->list.count < 65535 + 1"
    let ps ← decRanParamStructs is
    return ⟨0, ps⟩ :: (← decLstRanParams ss)

end

def decRanParamStruct : Asn.RanParameterItem Asn.RanParameterValueType → Except String (SeqRanParam RanParamValType) :=
  decRanParamItem decRanParamValueType

def decLstRanParam :
    Option (List (Asn.RanParameterItem Asn.RanParameterValueType)) → Except String (LstRanParam RanParamValType)
  | none => .error "NULL dereferenced"
  | some is => do
    let ps ← mapSized (oneTo 65535)
      "src->sequence_of_ranParameters->list.count > 0 && src->sequence_of_ranParameters->list.count < 65535 + 1"
      decRanParamStruct is
    return ⟨0, ps⟩

end FlexRic.Sm.Rc
