import Mathlib.Data.Nat.Bitwise

/-! # Numbers in bytes

A number is taken apart with shifts and masks, and put together again with shifts and disjunctions. -/

namespace FlexRic.Bits

theorem or_shiftLeft {b k : Nat} (h : b < 2 ^ k) (a : Nat) : a <<< k ||| b = a * 2 ^ k + b := by
  rw [← Nat.shiftLeft_add_eq_or_of_lt h, Nat.shiftLeft_eq]

/-- The upper part of a number and the lower one -/
theorem join_low (n k : Nat) : (n >>> k) <<< k ||| n % 2 ^ k = n := by
  rw [or_shiftLeft (Nat.mod_lt _ (Nat.two_pow_pos k)), Nat.shiftRight_eq_div_pow, Nat.div_add_mod']

/-- One more byte of a number -/
theorem join_byte (n k : Nat) : (n >>> (k + 8)) <<< (k + 8) ||| (n >>> k % 256) <<< k = (n >>> k) <<< k := by
  have hjoin : (n >>> (k + 8)) <<< 8 ||| n >>> k % 256 = n >>> k := by
    rw [Nat.shiftRight_add]
    exact join_low (n >>> k) 8
  rw [Nat.add_comm k 8, Nat.shiftLeft_add, ← Nat.shiftLeft_or_distrib, Nat.add_comm 8 k, hjoin]

/-- The highest byte of a number that has no more -/
theorem top_byte {n k : Nat} (h : n < 2 ^ (k + 8)) : n >>> k % 256 = n >>> k := by
  rw [Nat.shiftRight_eq_div_pow, Nat.mod_eq_of_lt]
  refine Nat.div_lt_of_lt_mul ?_
  rwa [Nat.pow_add] at h

theorem and_nibble (n : Nat) : n &&& 15 = n % 16 := Nat.and_two_pow_sub_one_eq_mod n 4

theorem byte_and (n : Nat) : 255 &&& n = n % 256 := by
  rw [Nat.and_comm]
  exact Nat.and_two_pow_sub_one_eq_mod n 8

theorem toNat_byte (n : Nat) : (UInt8.ofNat (255 &&& n)).toNat = n % 256 := by
  rw [byte_and, UInt8.toNat_ofNat', Nat.mod_mod]

theorem toNat_ofNat_of_lt {n : Nat} (h : n < 256) : (UInt8.ofNat n).toNat = n := by
  rw [UInt8.toNat_ofNat', Nat.mod_eq_of_lt h]

theorem ofNat_mod (n : Nat) : UInt8.ofNat (n % 256) = UInt8.ofNat n := by
  rw [← UInt8.toNat_inj, UInt8.toNat_ofNat', UInt8.toNat_ofNat', Nat.mod_mod]

theorem ofNat_lower (n : Nat) (b : UInt8) : UInt8.ofNat (n * 256 + b.toNat) = b := by
  have hb := b.toNat_lt
  rw [← UInt8.toNat_inj, UInt8.toNat_ofNat']
  omega

theorem ofNat_upper (n : Nat) (b : UInt8) : UInt8.ofNat ((n * 256 + b.toNat) / 256) = UInt8.ofNat n := by
  have hb := b.toNat_lt
  rw [Nat.add_comm, Nat.add_mul_div_right _ _ (by decide), Nat.div_eq_of_lt hb, Nat.zero_add]

/-! ### The last byte of a bit string -/

section LastByte
variable {u : Nat} (h : u < 8)
include h

theorem and_mask (n : Nat) : n &&& 255 >>> u = n % 2 ^ (8 - u) := by
  have hmask : 255 >>> u = 2 ^ (8 - u) - 1 := by
    revert h
    revert u
    decide
  rw [hmask, Nat.and_two_pow_sub_one_eq_mod]

theorem last_byte (n : Nat) : (UInt8.ofNat ((n &&& 255 >>> u) <<< u)).toNat >>> u = n % 2 ^ (8 - u) := by
  have hlt : (n % 2 ^ (8 - u)) <<< u < 256 := by
    have hpow : 2 ^ (8 - u) * 2 ^ u = 256 := by
      rw [← Nat.pow_add, Nat.sub_add_cancel (Nat.le_of_lt h)]
    rw [Nat.shiftLeft_eq, ← hpow]
    exact Nat.mul_lt_mul_of_pos_right (Nat.mod_lt _ (Nat.two_pow_pos _)) (Nat.two_pow_pos u)
  rw [and_mask h, toNat_ofNat_of_lt hlt, Nat.shiftLeft_shiftRight]

end LastByte

/-! ### Half bytes -/

section Nibbles
variable {a b : Nat}

theorem nibbles_lt (ha : a < 16) (hb : b < 16) : a <<< 4 ||| b < 256 := by
  rw [or_shiftLeft hb]
  omega

theorem nibbles_low (ha : a < 16) (hb : b < 16) : (UInt8.ofNat (a <<< 4 ||| b)).toNat &&& 15 = b := by
  rw [toNat_ofNat_of_lt (nibbles_lt ha hb), or_shiftLeft hb, and_nibble]
  omega

theorem nibbles_high (ha : a < 16) (hb : b < 16) : (UInt8.ofNat (a <<< 4 ||| b)).toNat >>> 4 &&& 15 = a := by
  rw [toNat_ofNat_of_lt (nibbles_lt ha hb), or_shiftLeft hb, and_nibble, Nat.shiftRight_eq_div_pow]
  omega

end Nibbles

/-- The half bytes of what is left of a number in a byte -/
theorem byte_low (n : Nat) : (UInt8.ofNat n).toNat &&& 15 = n % 16 := by
  rw [UInt8.toNat_ofNat', and_nibble]
  omega

theorem byte_high (n : Nat) : (UInt8.ofNat n).toNat >>> 4 &&& 15 = n / 16 % 16 := by
  rw [UInt8.toNat_ofNat', and_nibble, Nat.shiftRight_eq_div_pow]
  omega

theorem or_low (a b : Nat) : (a <<< 4 ||| b) % 16 = b % 16 := by
  rw [show 16 = 2 ^ 4 from rfl, Nat.or_mod_two_pow, Nat.shiftLeft_eq, Nat.mul_mod_left, Nat.zero_or]

end FlexRic.Bits
