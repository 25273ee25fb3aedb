import FlexRic.E2ap.NodeIdAsn

/-! # Identities in bit strings

The functions of `conversions.c` that put a number into a `BIT_STRING_t` and read it back. All but those for
the identity of a gNB have the lowest byte of the number first; the last byte has what is left of it, above
the unused bits. -/

namespace FlexRic.Util
open E2ap (BitString)

/-- `cp_…_to_bit_string`, with the bound that is asserted of the number -/
def cpToBitString (name : String) (bound size unused val : Nat) : Except String BitString := do
  require (val < bound) (name ++ " < " ++ toString bound)
  return ⟨(List.range (size - 1)).map (fun i => UInt8.ofNat (val >>> (8 * i))) ++
    [UInt8.ofNat ((val >>> (8 * (size - 1))) <<< unused)], unused⟩

/-- `src.buf[k - 1] << 8 * (k - 1) | … | src.buf[0]` -/
def lowBytes (src : BitString) : Nat → Nat
  | 0 => 0
  | k + 1 => src.byte k <<< (8 * k) ||| lowBytes src k

/-- `cp_…_to_u8`, `cp_…_to_u16` and `cp_…_to_u32` -/
def cpFromBitString (size unused : Nat) (src : BitString) : Except String Nat := do
  require (src.bitsUnused = unused) ("src.bits_unused == " ++ toString unused)
  require (src.buf.length = size) ("src.size == " ++ toString size)
  return (src.byte (size - 1) >>> unused) <<< (8 * (size - 1)) ||| lowBytes src (size - 1)

def cpAmfRegionIdToBitString : Nat → Except String BitString := cpToBitString "src" 64 1 0
def cpAmfRegionIdToU8 : BitString → Except String Nat := cpFromBitString 1 0

def cpAmfSetIdToBitString : Nat → Except String BitString := cpToBitString "val" 1024 2 6
def cpAmfSetIdToU16 : BitString → Except String Nat := cpFromBitString 2 6

def cpAmfPtrToBitString : Nat → Except String BitString := cpToBitString "src" 64 1 2
def cpAmfPtrToU8 : BitString → Except String Nat := cpFromBitString 1 2

def cpEutraCellIdToBitString : Nat → Except String BitString := cpToBitString "val" 268435456 4 4
def cpEutraCellIdToU32 : BitString → Except String Nat := cpFromBitString 4 4

def cpMacroEnbIdToBitString : Nat → Except String BitString := cpToBitString "val" 1048576 3 4
def cpMacroEnbIdToU32 : BitString → Except String Nat := cpFromBitString 3 4

def cpHomeEnbIdToBitString : Nat → Except String BitString := cpToBitString "val" 268435456 4 4
def cpHomeEnbIdToU32 : BitString → Except String Nat := cpFromBitString 4 4

def cpShortMacroEnbIdToBitString : Nat → Except String BitString := cpToBitString "val" 262144 3 6
def cpShortMacroEnbIdToU32 : BitString → Except String Nat := cpFromBitString 3 6

def cpLongMacroEnbIdToBitString : Nat → Except String BitString := cpToBitString "val" 2097152 3 3
def cpLongMacroEnbIdToU32 : BitString → Except String Nat := cpFromBitString 3 3

def cpMacroNgEnbIdToBitString : Nat → Except String BitString := cpToBitString "val" 1048576 3 4
def cpMacroNgEnbIdToU32 : BitString → Except String Nat := cpFromBitString 3 4

def cpShortMacroNgEnbIdToBitString : Nat → Except String BitString := cpToBitString "val" 262144 3 6
def cpShortMacroNgEnbIdToU32 : BitString → Except String Nat := cpFromBitString 3 6

def cpLongMacroNgEnbIdToBitString : Nat → Except String BitString := cpToBitString "val" 2097152 3 3
def cpLongMacroNgEnbIdToU32 : BitString → Except String Nat := cpFromBitString 3 3

def cpNrCellIdToBitString : Nat → Except String BitString := cpToBitString "val" 68719476736 5 4

/-- The `uint64_t` that an `int` of 32 bits is converted to. -/
def intToU64 (n : Nat) : Nat := if n < 0x80000000 then n else n + 0xFFFFFFFF00000000

/-- `src.buf[3] << 24` is an `int`, the upper bits of which are those of its sign. -/
def cpNrCellIdToU64 (src : BitString) : Except String Nat := do
  require (src.bitsUnused = 4) "src.bits_unused == 4"
  require (src.buf.length = 5) "src.size == 5"
  return (src.byte 4 >>> 4) <<< 32 ||| (intToU64 (src.byte 3 <<< 24) ||| lowBytes src 3)

/-- The identities that are a number of a fixed number of bits. -/
inductive IdKind
  | amfRegion
  | amfSet
  | amfPtr
  | nrCell
  | eutraCell
  | macroEnb
  | homeEnb
  | shortMacroEnb
  | longMacroEnb
  | macroNgEnb
  | shortMacroNgEnb
  | longMacroNgEnb
  deriving DecidableEq, Repr

namespace IdKind

def toBitString : IdKind → Nat → Except String BitString
  | amfRegion => cpAmfRegionIdToBitString
  | amfSet => cpAmfSetIdToBitString
  | amfPtr => cpAmfPtrToBitString
  | nrCell => cpNrCellIdToBitString
  | eutraCell => cpEutraCellIdToBitString
  | macroEnb => cpMacroEnbIdToBitString
  | homeEnb => cpHomeEnbIdToBitString
  | shortMacroEnb => cpShortMacroEnbIdToBitString
  | longMacroEnb => cpLongMacroEnbIdToBitString
  | macroNgEnb => cpMacroNgEnbIdToBitString
  | shortMacroNgEnb => cpShortMacroNgEnbIdToBitString
  | longMacroNgEnb => cpLongMacroNgEnbIdToBitString

def ofBitString : IdKind → BitString → Except String Nat
  | amfRegion => cpAmfRegionIdToU8
  | amfSet => cpAmfSetIdToU16
  | amfPtr => cpAmfPtrToU8
  | nrCell => cpNrCellIdToU64
  | eutraCell => cpEutraCellIdToU32
  | macroEnb => cpMacroEnbIdToU32
  | homeEnb => cpHomeEnbIdToU32
  | shortMacroEnb => cpShortMacroEnbIdToU32
  | longMacroEnb => cpLongMacroEnbIdToU32
  | macroNgEnb => cpMacroNgEnbIdToU32
  | shortMacroNgEnb => cpShortMacroNgEnbIdToU32
  | longMacroNgEnb => cpLongMacroNgEnbIdToU32

end IdKind

end FlexRic.Util
