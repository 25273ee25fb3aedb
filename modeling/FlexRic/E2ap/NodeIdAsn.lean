import Mathlib.Algebra.Group.Nat.Defs
import FlexRic.E2ap.Types
import FlexRic.Lib.Except

/-! # The identity of an E2 node in a PDU

What `e2ap_msg_enc_asn.c` makes of a `global_e2_node_id_t` and `e2ap_msg_dec_asn.c` of that, with the macros and
functions of `conversions.c`. Five encoders and five decoders have the same block. -/

namespace FlexRic.E2ap

/-- `BIT_STRING_t` -/
structure BitString where
  buf : List UInt8
  bitsUnused : Nat
  deriving DecidableEq, Repr

/-- `buf[i]` -/
def BitString.byte (b : BitString) (i : Nat) : Nat := (b.buf.getD i 0).toNat

/-- `GlobalE2node_ID_t`: a gNB with its identity, an eNB with a macro identity, or what else the types have -/
inductive GlobalE2NodeIdAsn
  | gNB (plmnId : List UInt8) (gnbId : BitString) (gNbCuUpId gNbDuId : Option Nat)
  | eNB (plmnIdentity : List UInt8) (macroEnbId : BitString)
  | other
  deriving DecidableEq, Repr

/-! ### To ASN.1 -/

/-- `MCC_MNC_TO_PLMNID`; a network code of two digits has 15 for its hundreds. -/
def encPlmn (p : E2apPlmn) : List UInt8 :=
  [UInt8.ofNat ((p.mcc / 10 % 10) <<< 4 ||| p.mcc / 100),
    UInt8.ofNat ((if p.mncDigitLen = 2 then 15 else p.mnc / 100) <<< 4 ||| p.mcc % 10),
    UInt8.ofNat ((p.mnc % 10) <<< 4 ||| p.mnc / 10 % 10)]

/-- `cp_gnb_id_to_bit_string` -/
def encGnbId (nbId unused : Nat) : Except String BitString := do
  require (unused < 11) "src.unused < 11"
  require (nbId >>> (32 - unused) = 0) "Some bits are not set to zero and value would be lost"
  if unused > 7 then
    let u := unused - 8
    return ⟨[UInt8.ofNat (0xFF &&& nbId >>> (16 - u)), UInt8.ofNat (0xFF &&& nbId >>> (8 - u)),
      UInt8.ofNat ((nbId &&& 0xFF >>> u) <<< u)], unused % 8⟩
  else
    return ⟨[UInt8.ofNat (0xFF &&& nbId >>> (24 - unused)), UInt8.ofNat (0xFF &&& nbId >>> (16 - unused)),
      UInt8.ofNat (0xFF &&& nbId >>> (8 - unused)), UInt8.ofNat ((nbId &&& 0xFF >>> unused) <<< unused)], unused % 8⟩

/-- `MACRO_ENB_ID_TO_BIT_STRING`: 20 bits -/
def encMacroEnbId (id : Nat) : BitString :=
  ⟨[UInt8.ofNat (id >>> 12), UInt8.ofNat (id >>> 4), UInt8.ofNat ((id &&& 0x0f) <<< 4)], 4⟩

/-- The types of nodes that are encoded -/
def NgranNode.Encoded (t : NgranNode) : Prop :=
  t = .gNB ∨ t = .gNBCuup ∨ t = .gNBCu ∨ t = .gNBDu ∨ t = .eNB

instance : DecidablePred NgranNode.Encoded := fun _ => inferInstanceAs (Decidable (_ ∨ _))

/-- A gNB with the identities of its parts -/
def encGnb (id : GlobalE2NodeId) (gNbCuUpId gNbDuId : Option Nat) : Except String GlobalE2NodeIdAsn := do
  let gnbId ← encGnbId id.nbId id.unused
  return .gNB (encPlmn id.plmn) gnbId gNbCuUpId gNbDuId

/-- The identity of a CU is sent as that of a CU-UP; an eNB has a macro identity, whatever bits are unused. -/
def encGlobalE2NodeId (id : GlobalE2NodeId) : Except String GlobalE2NodeIdAsn := do
  require id.type.Encoded
    "type == gNB || type == gNB_CUUP || type == gNB_CU || type == gNB_DU || type == eNB"
  match id.type with
  | .eNB => return .eNB (encPlmn id.plmn) (encMacroEnbId id.nbId)
  | .gNBCu | .gNBCuup => encGnb id id.cuDuId none
  | .gNBDu => encGnb id none id.cuDuId
  | _ => encGnb id none none

/-! ### From ASN.1 -/

/-- `PLMNID_TO_MCC_MNC` -/
def decPlmn (b : List UInt8) : E2apPlmn :=
  let b0 := (b.getD 0 0).toNat
  let b1 := (b.getD 1 0).toNat
  let b2 := (b.getD 2 0).toNat
  let mncDigitLen := if b1 >>> 4 &&& 0x0F = 0xF then 2 else 3
  ⟨(b0 &&& 0x0F) * 100 + (b0 >>> 4 &&& 0x0F) * 10 + (b1 &&& 0x0F),
    (if mncDigitLen = 2 then 0 else (b1 >>> 4 &&& 0x0F) * 100) + (b2 &&& 0x0F) * 10 + (b2 >>> 4 &&& 0x0F), mncDigitLen⟩

/-- `cp_bit_string_to_gnb_id`: the number and its unused bits -/
def decGnbId (b : BitString) : Except String (Nat × Nat) := do
  require (b.buf.length < 5) "Max. 32 bits permitted [22..32]"
  require (b.buf.length = 3 ∨ b.buf.length = 4) "src.size == 3 || src.size == 4"
  require (b.bitsUnused < 8) "src.bits_unused < 8"
  if b.buf.length = 3 then
    require (b.bitsUnused < 3) "Min. 22 bits"
    return (b.byte 0 <<< (16 - b.bitsUnused) ||| b.byte 1 <<< (8 - b.bitsUnused) ||| b.byte 2 >>> b.bitsUnused,
      b.bitsUnused + 8)
  else
    return (b.byte 0 <<< (24 - b.bitsUnused) ||| b.byte 1 <<< (16 - b.bitsUnused) ||| b.byte 2 <<< (8 - b.bitsUnused) |||
      b.byte 3 >>> b.bitsUnused, b.bitsUnused)

/-- `BIT_STRING_TO_MACRO_ENB_ID` -/
def decMacroEnbId (b : BitString) : Except String Nat := do
  require (b.bitsUnused = 4) "(aSN)->bits_unused == 4"
  return b.byte 0 <<< 12 ||| b.byte 1 <<< 4 ||| b.byte 2 >>> 4

theorem cuDuId_gNB : (none : Option Nat).isSome = NgranNode.gNB.hasCuDuId := rfl

theorem cuDuId_eNB : (none : Option Nat).isSome = NgranNode.eNB.hasCuDuId := rfl

/-- Whoever has the identity of a CU-UP is taken for a CU; an `INTEGER_t` has room for 64 bits. -/
def decGlobalE2NodeId : GlobalE2NodeIdAsn → Except String GlobalE2NodeId
  | .gNB plmnId gnbId gNbCuUpId gNbDuId => do
    let (nbId, unused) ← decGnbId gnbId
    match gNbCuUpId, gNbDuId with
    | some id, _ => return ⟨.gNBCu, decPlmn plmnId, nbId, unused, some (id % 2 ^ 64), rfl⟩
    | none, some id => return ⟨.gNBDu, decPlmn plmnId, nbId, unused, some (id % 2 ^ 64), rfl⟩
    | none, none => return ⟨.gNB, decPlmn plmnId, nbId, unused, none, cuDuId_gNB⟩
  | .eNB plmnIdentity macroEnbId => do
    let nbId ← decMacroEnbId macroEnbId
    return ⟨.eNB, decPlmn plmnIdentity, nbId, 0, none, cuDuId_eNB⟩
  | .other => .error "GlobalE2node_ID.present == GlobalE2node_ID_PR_eNB"

end FlexRic.E2ap
