import Mathlib.Data.List.GetD
import Mathlib.Data.Nat.Digits.Defs
import FlexRic.Lib.Block

/-! # Texts that are formatted into blocks

A text in memory ends before its first byte that is zero. `snprintf` is given a limit, which is not always the size of
the block that it writes to. -/

namespace FlexRic

/-- The bytes of a text without a zero. -/
def NoNul (text : List UInt8) : Prop := (0 : UInt8) ∉ text

instance (text : List UInt8) : Decidable (NoNul text) := inferInstanceAs (Decidable (_ ∉ _))

/-- The bytes of a literal. -/
def ascii (s : String) : List UInt8 := s.toList.map fun c => UInt8.ofNat c.toNat

def hexDigits : List UInt8 := ascii "0123456789abcdef"

def digit (d : Nat) : UInt8 := hexDigits.getD d 42

/-- `%u` and `%x`: the digits of a number to the base -/
def number (base n : Nat) : List UInt8 := if n = 0 then [digit 0] else ((Nat.digits base n).map digit).reverse

/-- `%d` -/
def decimal (n : Int) : List UInt8 := if n < 0 then ascii "-" ++ number 10 n.natAbs else number 10 n.natAbs

section NoNul
variable {a b : List UInt8}

theorem noNul_append : NoNul (a ++ b) ↔ NoNul a ∧ NoNul b := by simp [NoNul]

theorem NoNul.append (ha : NoNul a) (hb : NoNul b) : NoNul (a ++ b) := noNul_append.mpr ⟨ha, hb⟩

theorem noNul_nil : NoNul [] := List.not_mem_nil

theorem digit_ne_zero (d : Nat) : digit d ≠ 0 := by
  have hzero : (0 : UInt8) ∉ hexDigits := by decide +kernel
  rcases Nat.lt_or_ge d hexDigits.length with hlt | hge
  · rw [digit, List.getD_eq_getElem _ _ hlt]
    exact ne_of_mem_of_not_mem (List.getElem_mem hlt) hzero
  · rw [digit, List.getD_eq_default _ _ hge]
    decide

theorem noNul_number (base n : Nat) : NoNul (number base n) := by
  unfold number
  split
  · exact fun h => digit_ne_zero 0 (List.mem_singleton.mp h).symm
  · intro h
    obtain ⟨d, -, hd⟩ := List.mem_map.mp (List.mem_reverse.mp h)
    exact digit_ne_zero d hd

theorem noNul_decimal (n : Int) : NoNul (decimal n) := by
  unfold decimal
  split
  · exact .append (by decide) (noNul_number _ _)
  · exact noNul_number _ _

end NoNul

/-- `strlen`: the text must end in the block. -/
def strlen (b : List UInt8) : Outcome Nat :=
  if b.idxOf 0 < b.length then .next (b.idxOf 0) else .abort Block.outside

/-- `snprintf`: at most `limit` bytes with the zero are written; the result is the length of the whole text, or
negative when an `int` does not have it. -/
def snprintf (b : List UInt8) (limit : Nat) (text : List UInt8) : Outcome (List UInt8 × Int) := do
  let b ← if limit = 0 then pure b else Block.write b 0 (text.take (limit - 1) ++ [0])
  return (b, if text.length < 2147483648 then text.length else -1)

section Buffers
variable {b text rest : List UInt8} {limit : Nat}

theorem idxOf_zero (h : NoNul text) : (text ++ 0 :: rest).idxOf 0 = text.length := by
  rw [List.idxOf_append_of_notMem h, List.idxOf_cons_self, Nat.add_zero]

theorem strlen_append (h : NoNul text) (rest : List UInt8) : strlen (text ++ 0 :: rest) = .next text.length := by
  rw [strlen, idxOf_zero h, if_pos (by simp)]

/-- A text that fits is in the buffer, with its zero. -/
theorem snprintf_of_lt (hl : text.length < limit) (hb : text.length < b.length) (hint : text.length < 2147483648) :
    snprintf b limit text = .next (text ++ 0 :: b.drop (text.length + 1), text.length) := by
  have htake : text.take (limit - 1) = text := List.take_of_length_le (by omega)
  have hlen : 0 + (text ++ [(0 : UInt8)]).length ≤ b.length := by
    rw [List.length_append, List.length_singleton]
    omega
  rw [snprintf, if_neg (by omega), htake, Block.write_of_le hlen, Outcome.next_bind, if_pos hint]
  simp

end Buffers

end FlexRic
