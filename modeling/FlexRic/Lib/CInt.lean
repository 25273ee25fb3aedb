import Mathlib.Tactic.Common

/-! # Numbers that are converted to an integer type

A conversion keeps the numbers that the type has, and takes the others modulo the number of its values. -/

namespace FlexRic

/-- What an `int32_t` makes of the number. -/
def int32 (n : Int) : Int := n.bmod 4294967296

/-- What a `uint32_t` makes of the number. -/
def uint32 (n : Nat) : Nat := n % 4294967296

/-- What a `size_t` of 64 bits makes of the number. -/
def sizeT (n : Int) : Nat := (n % 18446744073709551616).toNat

theorem int32_eq_self_iff {n : Int} : int32 n = n ↔ -2147483648 ≤ n ∧ n < 2147483648 := by
  rw [int32, Int.bmod_def]
  omega

theorem int32_of_lt {n : Nat} (h : n < 2147483648) : int32 n = n := int32_eq_self_iff.mpr (by omega)

theorem int32_add_mul (n : Int) (q : Nat) : int32 (n + 4294967296 * q) = int32 n := by
  rw [int32, int32, Int.bmod_def, Int.bmod_def]
  omega

theorem int32_eq_zero_iff {n : Nat} : int32 n = 0 ↔ n % 4294967296 = 0 := by
  rw [int32, Int.bmod_def]
  omega

theorem uint32_of_lt {n : Nat} (h : n < 4294967296) : uint32 n = n := Nat.mod_eq_of_lt h

theorem sizeT_of_lt {n : Nat} (h : n < 18446744073709551616) : sizeT n = n := by
  unfold sizeT
  omega

end FlexRic
