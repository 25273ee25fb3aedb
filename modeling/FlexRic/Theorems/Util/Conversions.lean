import FlexRic.Lib.Carried
import FlexRic.Theorems.E2ap.NodeIdAsn
import FlexRic.Util.Conversions

/-! # Which identities come back from their bit strings

All of them do, but for the identity of an NR cell: one of its bytes is moved up as a signed number. A bit string, and
the code of a network, comes back from what was read of it when it is one that the code writes. -/

namespace FlexRic.Util
open E2ap (BitString E2apPlmn encGnbId decGnbId encPlmn decPlmn)

/-- The string has `bits` bits in as few bytes as there can be. -/
structure HasBits (b : BitString) (bits : Nat) : Prop where
  size : b.buf.length = (bits + 7) / 8
  unused : b.bitsUnused = 8 * b.buf.length - bits

/-! ### Numbers with the lowest byte first -/

section Bytes
variable {val size unused : Nat}

/-- The string that a number is put into. -/
def bitStringOf (size unused val : Nat) : BitString :=
  ⟨(List.range (size - 1)).map (fun i => UInt8.ofNat (val >>> (8 * i))) ++
    [UInt8.ofNat ((val >>> (8 * (size - 1))) <<< unused)], unused⟩

theorem cpToBitString_eq_ok {name : String} {bound : Nat} {b : BitString} :
    cpToBitString name bound size unused val = .ok b ↔ val < bound ∧ bitStringOf size unused val = b := by
  rw [cpToBitString, Except.bind_eq_ok]
  simp only [require_eq_ok, Except.pure_eq, Except.ok.injEq]
  constructor
  · rintro ⟨_, h⟩
    exact h
  · intro h
    exact ⟨(), h⟩

theorem byte_bitStringOf {i : Nat} (hi : i < size - 1) : (bitStringOf size unused val).byte i = val >>> (8 * i) % 256 := by
  have hget : (bitStringOf size unused val).buf[i]? = some (UInt8.ofNat (val >>> (8 * i))) := by
    rw [bitStringOf, List.getElem?_append_left (by simpa using hi)]
    simp [hi]
  rw [BitString.byte, List.getD_eq_getElem?_getD, hget, Option.getD_some, UInt8.toNat_ofNat']

/-- The bits left of the number fill the last byte up to its unused bits. -/
theorem last_bitStringOf (hu : unused ≤ 8) (hval : val < 2 ^ (8 * (size - 1) + (8 - unused))) :
    (bitStringOf size unused val).byte (size - 1) >>> unused = val >>> (8 * (size - 1)) := by
  have hget : (bitStringOf size unused val).buf[size - 1]? =
      some (UInt8.ofNat ((val >>> (8 * (size - 1))) <<< unused)) := by
    rw [bitStringOf, List.getElem?_append_right (by simp)]
    simp
  have htop : val >>> (8 * (size - 1)) < 2 ^ (8 - unused) := by
    rw [Nat.shiftRight_eq_div_pow, Nat.div_lt_iff_lt_mul (Nat.two_pow_pos _), Nat.mul_comm, ← Nat.pow_add]
    exact hval
  have hlt : (val >>> (8 * (size - 1))) <<< unused < 256 := by
    rw [Nat.shiftLeft_eq, show (256 : Nat) = 2 ^ (8 - unused) * 2 ^ unused by
      rw [← Nat.pow_add, Nat.sub_add_cancel hu]]
    exact Nat.mul_lt_mul_of_pos_right htop (Nat.two_pow_pos _)
  rw [BitString.byte, List.getD_eq_getElem?_getD, hget, Option.getD_some, Bits.toNat_ofNat_of_lt hlt,
    Nat.shiftLeft_shiftRight]

theorem lowBytes_bitStringOf {k : Nat} (hk : k ≤ size - 1) :
    lowBytes (bitStringOf size unused val) k = val % 2 ^ (8 * k) := by
  induction k with
  | zero => simp [lowBytes, Nat.mod_one]
  | succ k ih =>
    rw [lowBytes, ih (by omega), byte_bitStringOf (by omega), Bits.or_shiftLeft (Nat.mod_lt _ (Nat.two_pow_pos _)),
      Nat.shiftRight_eq_div_pow, Nat.mul_succ, Nat.pow_add, Nat.mod_mul, Nat.add_comm, Nat.mul_comm (2 ^ (8 * k))]

theorem length_bitStringOf (hsize : 0 < size) : (bitStringOf size unused val).buf.length = size := by
  simp [bitStringOf]
  omega

theorem cpFromBitString_bitStringOf (hsize : 0 < size) (hu : unused ≤ 8)
    (hval : val < 2 ^ (8 * (size - 1) + (8 - unused))) :
    cpFromBitString size unused (bitStringOf size unused val) = .ok val := by
  have hunused : (bitStringOf size unused val).bitsUnused = unused := rfl
  rw [cpFromBitString, require_of hunused, Except.ok_bind, require_of (length_bitStringOf hsize), Except.ok_bind,
    last_bitStringOf hu hval, lowBytes_bitStringOf (Nat.le_refl _), Bits.join_low]
  rfl

end Bytes

/-! ### The kinds of identities -/

namespace IdKind

/-- The number of bits of the identity in its standard form -/
def bits : IdKind → Nat
  | amfRegion => 8
  | amfSet => 10
  | amfPtr => 6
  | nrCell => 36
  | eutraCell => 28
  | macroEnb => 20
  | homeEnb => 28
  | shortMacroEnb => 18
  | longMacroEnb => 21
  | macroNgEnb => 20
  | shortMacroNgEnb => 18
  | longMacroNgEnb => 21

/-- Whatever the encoder accepts has the standard form, and is read back. -/
def Kept (k : IdKind) (val : Nat) : Prop :=
  ∀ b, k.toBitString val = .ok b → HasBits b k.bits ∧ k.ofBitString b = .ok val

end IdKind

section Kinds
variable {val : Nat}

/-- An encoder and a decoder of one shape, when the asserted bound leaves room for the unused bits. -/
theorem kept_of_shape {name : String} {bound size unused bits : Nat}
    (hbound : bound ≤ 2 ^ (8 * (size - 1) + (8 - unused))) (hsize : size = (bits + 7) / 8)
    (hunused : unused = 8 * size - bits) (hbits : 0 < bits) {b : BitString}
    (h : cpToBitString name bound size unused val = .ok b) :
    HasBits b bits ∧ cpFromBitString size unused b = .ok val := by
  obtain ⟨hlt, rfl⟩ := cpToBitString_eq_ok.mp h
  have hpos : 0 < size := by omega
  have hu : unused ≤ 8 := by omega
  have hlen : (bitStringOf size unused val).buf.length = size := length_bitStringOf hpos
  refine ⟨⟨hlen.trans hsize, ?_⟩, cpFromBitString_bitStringOf hpos hu (Nat.lt_of_lt_of_le hlt hbound)⟩
  rw [hlen]
  exact hunused

/-- The identity of an NR cell comes back when its bit 31 is not set; else all bits from there on are set. -/
theorem cpNrCellIdToU64_bitStringOf (hval : val < 68719476736) :
    cpNrCellIdToU64 (bitStringOf 5 4 val) = .ok val ↔ val / 0x80000000 % 2 = 0 := by
  have hbyte : (bitStringOf 5 4 val).byte 3 = val >>> 24 % 256 := byte_bitStringOf (i := 3) (by decide)
  have hlast : (bitStringOf 5 4 val).byte 4 >>> 4 = val >>> 32 :=
    @last_bitStringOf val 5 4 (by decide) hval
  have hlow : lowBytes (bitStringOf 5 4 val) 3 = val % 2 ^ 24 := lowBytes_bitStringOf (by decide)
  have hunused : (bitStringOf 5 4 val).bitsUnused = 4 := rfl
  have hlen : (bitStringOf 5 4 val).buf.length = 5 := length_bitStringOf (by decide)
  have hint : (val >>> 24 % 256) <<< 24 = val / 2 ^ 24 % 256 * 2 ^ 24 := by
    rw [Nat.shiftLeft_eq, Nat.shiftRight_eq_div_pow]
  rw [cpNrCellIdToU64, require_of hunused, Except.ok_bind, require_of hlen, Except.ok_bind, hlast, hbyte, hlow]
  simp only [Except.pure_eq, Except.ok.injEq]
  by_cases hbit : val / 0x80000000 % 2 = 0
  · have hsmall : intToU64 ((val >>> 24 % 256) <<< 24) = (val >>> 24 % 256) <<< 24 := by
      rw [intToU64, if_pos]
      rw [hint]
      omega
    have hbytes : (val >>> 24 % 256) <<< 24 ||| val % 2 ^ 24 = val % 2 ^ 32 := by
      rw [Bits.or_shiftLeft (Nat.mod_lt _ (by decide)), Nat.shiftRight_eq_div_pow]
      omega
    rw [hsmall, hbytes, Bits.join_low]
    exact iff_of_true rfl hbit
  · refine iff_of_false (fun h => ?_) hbit
    -- The sign alone is more than any identity.
    have hlarge : 0xFFFFFFFF00000000 ≤ intToU64 ((val >>> 24 % 256) <<< 24) := by
      rw [intToU64, if_neg]
      · exact Nat.le_add_left ..
      · rw [hint]
        omega
    generalize intToU64 ((val >>> 24 % 256) <<< 24) = signed at hlarge h
    have hle : signed ≤ val := by
      rw [← h]
      exact Nat.le_trans Nat.left_le_or Nat.right_le_or
    omega

theorem nrCell_kept : IdKind.nrCell.Kept val ↔ (val < 68719476736 → val / 0x80000000 % 2 = 0) := by
  constructor
  · intro h hval
    obtain ⟨-, hdec⟩ := h _ (cpToBitString_eq_ok.mpr ⟨hval, rfl⟩)
    exact (cpNrCellIdToU64_bitStringOf hval).mp hdec
  · intro h b hb
    obtain ⟨hval, rfl⟩ := cpToBitString_eq_ok.mp hb
    exact ⟨⟨length_bitStringOf (by decide), rfl⟩, (cpNrCellIdToU64_bitStringOf hval).mpr (h hval)⟩

theorem IdKind.roundTrip_iff (k : IdKind) (val : Nat) :
    k.Kept val ↔ (k = .nrCell → val < 68719476736 → val / 0x80000000 % 2 = 0) := by
  cases k with
  | nrCell =>
    rw [nrCell_kept]
    exact ⟨fun h _ => h, fun h => h rfl⟩
  | _ =>
    refine iff_of_true (fun b hb => ?_) (fun h => by cases h)
    exact kept_of_shape (by decide) (by decide) (by decide) (by decide) hb

end Kinds

/-! ### The identity of a gNB -/

theorem gnbId_kept {nbId unused : Nat} {b : BitString} (h : encGnbId nbId unused = .ok b) :
    HasBits b (32 - unused) ∧ decGnbId b = .ok (nbId, unused) := by
  refine ⟨?_, E2ap.decGnbId_enc h⟩
  obtain ⟨_, hunused, h⟩ := Except.bind_eq_ok.mp h
  obtain ⟨_, -, h⟩ := Except.bind_eq_ok.mp h
  rw [require_eq_ok] at hunused
  split at h
  case isTrue h8 =>
    obtain rfl := Except.ok.inj h
    constructor
    · show 3 = _
      omega
    · show unused % 8 = 8 * 3 - _
      omega
  case isFalse h8 =>
    obtain rfl := Except.ok.inj h
    constructor
    · show 4 = _
      omega
    · show unused % 8 = 8 * 4 - _
      omega

/-! ### The identity of a network -/

/-- Two half bytes for hundreds, one of which tells a code of two digits. -/
def InHalfBytes (p : E2apPlmn) : Prop :=
  p.mcc < 1600 ∧ (p.mncDigitLen = 2 ∧ p.mnc < 100 ∨ p.mncDigitLen = 3 ∧ p.mnc < 1500)

/-- What is decoded of the codes: the hundreds are those in half a byte, and `x` is what they have overwritten
the tens of the country code with. -/
theorem decPlmn_encPlmn_eq (p : E2apPlmn) :
    ∃ x < 16, (p.mcc / 100 < 16 → x = p.mcc / 10 % 10) ∧
      decPlmn (encPlmn p) = ⟨p.mcc / 100 % 16 * 100 + x * 10 + p.mcc % 10,
        (if (if p.mncDigitLen = 2 then 15 else p.mnc / 100) % 16 = 15 then 0
          else (if p.mncDigitLen = 2 then 15 else p.mnc / 100) % 16 * 100) + p.mnc / 10 % 10 * 10 + p.mnc % 10,
        if (if p.mncDigitLen = 2 then 15 else p.mnc / 100) % 16 = 15 then 2 else 3⟩ := by
  obtain ⟨mcc, mnc, len⟩ := p
  have digit (n : Nat) : n % 10 < 2 ^ 4 := Nat.lt_of_lt_of_le (Nat.mod_lt n (by decide)) (by decide)
  refine ⟨((mcc / 10 % 10) <<< 4 ||| mcc / 100) / 16 % 16, Nat.mod_lt _ (by decide), fun h => ?_, ?_⟩
  · simp only at h ⊢
    have hdiv : (mcc / 10 % 10 * 2 ^ 4 + mcc / 100) / 16 = mcc / 10 % 10 := by
      rw [Nat.mul_comm]
      exact Nat.mul_add_div (by decide) _ _ |>.trans (by rw [Nat.div_eq_of_lt (show mcc / 100 < 2 ^ 4 from h), Nat.add_zero])
    rw [Bits.or_shiftLeft (show mcc / 100 < 2 ^ 4 from h), hdiv]
    exact Nat.mod_eq_of_lt (digit (mcc / 10))
  · have hhigh (a b : Nat) : (a <<< 4 ||| b % 10) / 16 % 16 = a % 16 := by
      rw [Bits.or_shiftLeft (digit b)]
      have := digit b
      omega
    have hdigit (n : Nat) : n % 10 % 16 = n % 10 := by omega
    generalize hh : (if len = 2 then 15 else mnc / 100) = hundreds
    simp only [decPlmn, encPlmn, hh, List.getD_cons_zero, List.getD_cons_succ, Bits.byte_low, Bits.byte_high,
      Bits.or_low, hhigh, hdigit]
    rw [E2apPlmn.mk.injEq]
    refine ⟨rfl, ?_, rfl⟩
    split <;> simp

theorem plmn_kept_iff (p : E2apPlmn) : decPlmn (encPlmn p) = p ∧ (encPlmn p).length = 3 ↔ InHalfBytes p := by
  obtain ⟨x, hx, hx', hdec⟩ := decPlmn_encPlmn_eq p
  have hlen : (encPlmn p).length = 3 := rfl
  rw [hdec, and_iff_left hlen]
  obtain ⟨mcc, mnc, len⟩ := p
  simp only at hx'
  have hmcc : mcc / 100 % 16 * 100 + x * 10 + mcc % 10 = mcc ↔ mcc < 1600 := by
    by_cases hm : mcc / 100 < 16
    · obtain rfl := hx' hm
      rw [Nat.mod_eq_of_lt hm]
      omega
    · -- What is missing of the hundreds is more than the tens can make up for.
      have hmod : mcc / 100 % 16 + 16 ≤ mcc / 100 := by omega
      omega
  simp only [InHalfBytes, E2apPlmn.mk.injEq, hmcc]
  by_cases h2 : len = 2
  · subst h2
    simp only [reduceIte, Nat.reduceMod, Nat.reduceEqDiff, true_and, and_true, false_and, or_false]
    omega
  · simp only [h2, if_false, false_and, false_or]
    by_cases h15 : mnc / 100 % 16 = 15
    · simp only [h15, if_true]
      omega
    · simp only [h15, if_false]
      omega

/-! ### All of them -/

/-- **Identities come back from their strings**, which have as many bytes and unused bits as the standard form
of each: those of NR cells if and only if bit 31 is not set, the codes of networks if and only if their hundreds
leave half a byte as it is, and all others always. -/
theorem identities_kept_iff (k : IdKind) (val nbId unused : Nat) (p : E2apPlmn) :
    (k.Kept val ↔ (k = .nrCell → val < 68719476736 → val / 0x80000000 % 2 = 0)) ∧
    (∀ b, encGnbId nbId unused = .ok b → HasBits b (32 - unused) ∧ decGnbId b = .ok (nbId, unused)) ∧
    (decPlmn (encPlmn p) = p ∧ (encPlmn p).length = 3 ↔ InHalfBytes p) :=
  ⟨k.roundTrip_iff val, fun _ => gnbId_kept, plmn_kept_iff p⟩

/-- The NR cell with only bit 31 set is read back with all bits from there on. -/
theorem nrCell_bit31_not_kept : ¬∀ (k : IdKind) (val : Nat), k.Kept val := by
  intro h
  have hkept := h .nrCell 0x80000000 _ (cpToBitString_eq_ok.mpr ⟨by decide, rfl⟩)
  exact absurd hkept.2 (by decide)

/-! ### Strings that are made again -/

/-- A byte from its half bytes -/
theorem ofNat_nibbles (b : UInt8) : UInt8.ofNat ((b.toNat / 16) <<< 4 ||| b.toNat % 16) = b := by
  have hb := b.toNat_lt
  rw [Bits.or_shiftLeft (show b.toNat % 16 < 2 ^ 4 from Nat.mod_lt _ (by decide)), ← UInt8.toNat_inj,
    UInt8.toNat_ofNat']
  omega

theorem low_nibble {b : UInt8} {h l : Nat} (hb : UInt8.ofNat (h <<< 4 ||| l) = b) : b.toNat % 16 = l % 16 := by
  have hlow := Bits.or_low h l
  rw [← hb, UInt8.toNat_ofNat']
  omega

theorem high_nibble {b : UInt8} {h l : Nat} (hl : l < 16) (hb : UInt8.ofNat (h <<< 4 ||| l) = b) :
    b.toNat / 16 = h % 16 := by
  rw [← hb, UInt8.toNat_ofNat', Bits.or_shiftLeft (show l < 2 ^ 4 from hl)]
  omega

/-- Three bytes whose tens and units are decimal digits -/
def PlmnDigits (b : List UInt8) : Prop :=
  b.length = 3 ∧ (b.getD 0 0).toNat / 16 < 10 ∧ (b.getD 1 0).toNat % 16 < 10 ∧
    (b.getD 2 0).toNat % 16 < 10 ∧ (b.getD 2 0).toNat / 16 < 10

theorem encPlmn_decPlmn_iff (b : List UInt8) : encPlmn (decPlmn b) = b ↔ PlmnDigits b := by
  have half (x : UInt8) : x.toNat / 16 % 16 = x.toNat / 16 := by
    have := x.toNat_lt
    omega
  match b with
  | [] | [_] | [_, _] | _ :: _ :: _ :: _ :: _ =>
    refine iff_of_false (fun h => ?_) fun h => ?_
    · have := congrArg List.length h
      simp [encPlmn] at this
    · have := h.1
      simp at this
  | [x, y, z] =>
    have hx := x.toNat_lt
    have hy := y.toNat_lt
    have hz := z.toNat_lt
    simp only [PlmnDigits, encPlmn, decPlmn, List.getD_cons_zero, List.getD_cons_succ, List.length_cons, List.length_nil,
      Bits.and_nibble, Nat.shiftRight_eq_div_pow, Nat.reducePow, half, List.cons.injEq, and_true, Nat.zero_add,
      Nat.reduceAdd, true_and]
    generalize hmnc : (if (if y.toNat / 16 = 15 then 2 else 3) = 2 then 0 else y.toNat / 16 * 100) = hundreds
    have hsplit : y.toNat / 16 = 15 ∧ hundreds = 0 ∨ y.toNat / 16 ≠ 15 ∧ hundreds = y.toNat / 16 * 100 := by
      by_cases h15 : y.toNat / 16 = 15
      · exact .inl ⟨h15, by rw [← hmnc, if_pos h15, if_pos rfl]⟩
      · exact .inr ⟨h15, by rw [← hmnc, if_neg h15, if_neg (by decide)]⟩
    constructor
    · rintro ⟨hx0, hy0, hz0⟩
      have hx1 := low_nibble hx0
      have hy1 := low_nibble hy0
      have hz1 := low_nibble hz0
      have hz2 := high_nibble (by omega) hz0
      omega
    · rintro ⟨hx1, hy1, hz1, hz2⟩
      have hmcc0 : (x.toNat % 16 * 100 + x.toNat / 16 * 10 + y.toNat % 16) / 10 % 10 = x.toNat / 16 := by omega
      have hmcc1 : (x.toNat % 16 * 100 + x.toNat / 16 * 10 + y.toNat % 16) / 100 = x.toNat % 16 := by omega
      have hmcc2 : (x.toNat % 16 * 100 + x.toNat / 16 * 10 + y.toNat % 16) % 10 = y.toNat % 16 := by omega
      have hmnc0 : (hundreds + z.toNat % 16 * 10 + z.toNat / 16) % 10 = z.toNat / 16 := by omega
      have hmnc1 : (hundreds + z.toNat % 16 * 10 + z.toNat / 16) / 10 % 10 = z.toNat % 16 := by omega
      have hmnc2 : (if (if y.toNat / 16 = 15 then 2 else 3) = 2 then 15
          else (hundreds + z.toNat % 16 * 10 + z.toNat / 16) / 100) = y.toNat / 16 := by
        rcases hsplit with ⟨h15, rfl⟩ | ⟨h15, rfl⟩
        · simp only [h15, if_true]
        · rw [if_neg h15, if_neg (by decide)]
          omega
      rw [hmcc0, hmcc1, hmcc2, hmnc0, hmnc1, hmnc2]
      exact ⟨ofNat_nibbles x, ofNat_nibbles y, ofNat_nibbles z⟩

/-- The unused bits of the last byte are zero. -/
def PaddedWithZeroes (b : BitString) : Prop := b.byte (b.buf.length - 1) % 2 ^ b.bitsUnused = 0

theorem padded_byte {b : UInt8} {u : Nat} : UInt8.ofNat ((b.toNat >>> u) <<< u) = b ↔ b.toNat % 2 ^ u = 0 := by
  have hdiv := Nat.div_add_mod' b.toNat (2 ^ u)
  have hlt := b.toNat_lt
  rw [← UInt8.toNat_inj, UInt8.toNat_ofNat', Nat.shiftLeft_eq, Nat.shiftRight_eq_div_pow]
  omega

section Shape
variable {b : BitString} {size unused bound : Nat} {name : String}

theorem lowBytes_lt (b : BitString) (k : Nat) : lowBytes b k < 2 ^ (8 * k) := by
  induction k with
  | zero => exact Nat.one_pos
  | succ k ih =>
    have hb : b.byte k < 256 := UInt8.toNat_lt _
    rw [lowBytes, Bits.or_shiftLeft ih, Nat.mul_succ, Nat.pow_add]
    have hle : b.byte k * 2 ^ (8 * k) ≤ 255 * 2 ^ (8 * k) := Nat.mul_le_mul_right _ (Nat.le_of_lt_succ hb)
    omega

/-- A byte below the upper part of a number -/
theorem or_shiftRight_byte {a low m i : Nat} (hlow : low < 2 ^ (8 * m)) (hi : i < m) :
    (a <<< (8 * m) ||| low) >>> (8 * i) % 256 = low >>> (8 * i) % 256 := by
  obtain ⟨j, rfl⟩ := Nat.exists_eq_add_of_lt hi
  have hpow : a * 2 ^ (8 * (i + j + 1)) = a * 2 ^ (8 * j) * 256 * 2 ^ (8 * i) := by
    rw [Nat.mul_succ, Nat.mul_add, Nat.pow_add, Nat.pow_add]
    simp only [Nat.reducePow, Nat.mul_assoc, Nat.mul_comm, Nat.mul_left_comm]
  rw [Bits.or_shiftLeft hlow, Nat.shiftRight_eq_div_pow, Nat.shiftRight_eq_div_pow, hpow, Nat.add_comm,
    Nat.add_mul_div_right _ _ (Nat.two_pow_pos _), Nat.add_mul_mod_self_right]

theorem or_shiftRight_top {a low k : Nat} (hlow : low < 2 ^ k) : (a <<< k ||| low) >>> k = a := by
  rw [Bits.or_shiftLeft hlow, Nat.shiftRight_eq_div_pow, Nat.add_comm, Nat.add_mul_div_right _ _ (Nat.two_pow_pos _),
    Nat.div_eq_of_lt hlow, Nat.zero_add]

theorem lowBytes_byte {k i : Nat} (hi : i < k) : lowBytes b k >>> (8 * i) % 256 = b.byte i := by
  induction k with
  | zero => cases hi
  | succ k ih =>
    rw [lowBytes]
    rcases Nat.lt_succ_iff_lt_or_eq.mp hi with hlt | rfl
    · rw [or_shiftRight_byte (lowBytes_lt b k) hlt, ih hlt]
    · rw [or_shiftRight_top (lowBytes_lt b i)]
      exact Nat.mod_eq_of_lt (UInt8.toNat_lt _)

/-- The number in the string -/
def stringNat (size unused : Nat) (b : BitString) : Nat :=
  (b.byte (size - 1) >>> unused) <<< (8 * (size - 1)) ||| lowBytes b (size - 1)

theorem bitStringOf_stringNat (hsize : 0 < size) (hlen : b.buf.length = size) (hunused : b.bitsUnused = unused) :
    bitStringOf size unused (stringNat size unused b) = b ↔ PaddedWithZeroes b := by
  obtain ⟨m, rfl⟩ := Nat.exists_eq_add_of_le' hsize
  have hlow := lowBytes_lt b m
  have hbytes : (List.range m).map (fun i => UInt8.ofNat (stringNat (m + 1) unused b >>> (8 * i))) = b.buf.take m := by
    refine List.ext_getElem (by simp [hlen]) fun i hi _ => ?_
    have him : i < m := by simpa using hi
    have hib : i < b.buf.length := by omega
    rw [List.getElem_map, List.getElem_range, List.getElem_take, ← UInt8.toNat_inj, UInt8.toNat_ofNat', stringNat,
      Nat.add_sub_cancel, show (2 : Nat) ^ 8 = 256 from rfl, or_shiftRight_byte hlow him, lowBytes_byte him,
      BitString.byte, List.getD_eq_getElem _ _ hib]
  have hlast : stringNat (m + 1) unused b >>> (8 * m) = b.byte m >>> unused := or_shiftRight_top hlow
  have hbuf : b.buf.take m ++ [b.buf.getD m 0] = b.buf := by
    have hm : m < b.buf.length := by omega
    rw [List.getD_eq_getElem _ _ hm, List.take_append_getElem hm]
    exact List.take_of_length_le (Nat.le_of_eq hlen)
  have hpad : UInt8.ofNat ((b.byte m >>> unused) <<< unused) = b.buf.getD m 0 ↔ b.byte m % 2 ^ unused = 0 := padded_byte
  rw [bitStringOf, PaddedWithZeroes, hlen, Nat.add_sub_cancel, hunused, hbytes, hlast, ← hpad]
  constructor
  · intro h
    have hbufs := (congrArg BitString.buf h).trans hbuf.symm
    exact List.singleton_inj.mp (List.append_cancel_left hbufs)
  · intro h
    rw [h, hbuf, ← hunused]

theorem cpFromBitString_remade (hsize : 0 < size) :
    Restored (cpFromBitString size unused) (cpToBitString name bound size unused) b
      (stringNat size unused b < bound ∧ PaddedWithZeroes b) := by
  intro val h
  obtain ⟨_, hunused, h⟩ := Except.bind_eq_ok.mp h
  obtain ⟨_, hlen, h⟩ := Except.bind_eq_ok.mp h
  rw [require_eq_ok] at hunused hlen
  obtain rfl := Except.ok.inj h
  rw [cpToBitString_eq_ok]
  exact and_congr_right fun _ => bitStringOf_stringNat hsize hlen hunused

end Shape

/-- The number in the string is below the bound, which leaves less room than the string for a region only, and so for
what an NR cell is read as; and its unused bits are zero. -/
def IdKind.Remade (k : IdKind) (b : BitString) : Prop :=
  (k = .amfRegion → b.byte 0 < 64) ∧ (k = .nrCell → b.byte 3 < 128) ∧ PaddedWithZeroes b

theorem stringNat_lt {b : BitString} {size unused : Nat} (hu : unused ≤ 8) :
    stringNat size unused b < 2 ^ (8 * (size - 1) + (8 - unused)) := by
  have hlow := lowBytes_lt b (size - 1)
  have htop : b.byte (size - 1) >>> unused < 2 ^ (8 - unused) := by
    rw [Nat.shiftRight_eq_div_pow, Nat.div_lt_iff_lt_mul (Nat.two_pow_pos _), ← Nat.pow_add, Nat.sub_add_cancel hu]
    exact UInt8.toNat_lt _
  have hle : b.byte (size - 1) >>> unused * 2 ^ (8 * (size - 1)) + 2 ^ (8 * (size - 1)) ≤
      2 ^ (8 - unused) * 2 ^ (8 * (size - 1)) := by
    rw [← Nat.succ_mul]
    exact Nat.mul_le_mul_right _ htop
  rw [stringNat, Bits.or_shiftLeft hlow, Nat.pow_add, Nat.mul_comm (2 ^ (8 * (size - 1)))]
  omega

/-- The string of an NR cell: once the byte that is moved has a sign, the number is more than any identity. -/
theorem nrCell_remade (b : BitString) :
    Restored cpNrCellIdToU64 cpNrCellIdToBitString b (b.byte 3 < 128 ∧ PaddedWithZeroes b) := by
  intro val h
  obtain ⟨_, hunused, h⟩ := Except.bind_eq_ok.mp h
  obtain ⟨_, hlen, h⟩ := Except.bind_eq_ok.mp h
  rw [require_eq_ok] at hunused hlen
  obtain rfl := Except.ok.inj h
  have hlow : lowBytes b 3 < 2 ^ 24 := lowBytes_lt b 3
  by_cases hsign : b.byte 3 < 128
  · have hsmall : intToU64 (b.byte 3 <<< 24) = b.byte 3 <<< 24 := by
      rw [intToU64, if_pos]
      rw [Nat.shiftLeft_eq]
      omega
    rw [hsmall, and_iff_right hsign]
    have hlt : stringNat 5 4 b < 68719476736 := stringNat_lt (by decide)
    exact cpToBitString_eq_ok.trans ((and_iff_right hlt).trans (bitStringOf_stringNat (by decide) hlen hunused))
  · refine iff_of_false (fun h => ?_) fun h => hsign h.1
    have hlarge : 0xFFFFFFFF00000000 ≤ intToU64 (b.byte 3 <<< 24) := by
      rw [intToU64, if_neg]
      · exact Nat.le_add_left ..
      · rw [Nat.shiftLeft_eq]
        omega
    have hval := (cpToBitString_eq_ok.mp h).1
    generalize intToU64 (b.byte 3 <<< 24) = signed at hlarge hval
    have hle : signed ≤ (b.byte 4 >>> 4) <<< 32 ||| (signed ||| lowBytes b 3) :=
      Nat.le_trans Nat.left_le_or Nat.right_le_or
    omega

theorem IdKind.remade (k : IdKind) (b : BitString) : Restored k.ofBitString k.toBitString b (k.Remade b) := by
  cases k with
  | nrCell =>
    refine (nrCell_remade b).congr ?_
    simp [IdKind.Remade]
  | amfRegion =>
    refine (cpFromBitString_remade (show 0 < 1 by decide)).congr ?_
    simp [IdKind.Remade, stringNat, lowBytes]
  | _ =>
    refine (cpFromBitString_remade (by decide)).congr ?_
    simp only [IdKind.Remade, reduceCtorEq, false_imp_iff, true_and]
    exact and_iff_right (stringNat_lt (by decide))

theorem join_bytes {a k : Nat} {b : UInt8} : a <<< (k + 8) ||| b.toNat <<< k = (a * 256 + b.toNat) <<< k := by
  have hb : b.toNat < 2 ^ 8 := b.toNat_lt
  have hpair : a <<< 8 ||| b.toNat = a * 256 + b.toNat := Bits.or_shiftLeft hb a
  rw [Nat.add_comm k 8, Nat.shiftLeft_add, ← Nat.shiftLeft_or_distrib, hpair]

section GnbId
variable {m r u k : Nat} (hk : u + k = 8) (hr : r < 2 ^ k)
include hk hr

/-- What is sent of a number with `k` bits in its last byte, after two bytes or three -/
theorem encGnbId_of_two (hu : u < 3) (hm : m < 2 ^ 16) : encGnbId (m <<< k ||| r) (u + 8) =
    .ok ⟨[UInt8.ofNat (m / 256), UInt8.ofNat m, UInt8.ofNat (r <<< u)], u⟩ := by
  have htop : (m <<< k ||| r) >>> k = m := or_shiftRight_top hr
  have hlost : (m <<< k ||| r) >>> (32 - (u + 8)) = 0 := by
    rw [show 32 - (u + 8) = k + 16 by omega, Nat.shiftRight_add, htop, Nat.shiftRight_eq_div_pow]
    omega
  have hlow : (m <<< k ||| r) % 2 ^ k = r := by
    rw [Bits.or_shiftLeft hr, Nat.mul_add_mod_self_right, Nat.mod_eq_of_lt hr]
  rw [encGnbId, require_of (by omega), Except.ok_bind, require_of hlost, Except.ok_bind, if_pos (by omega)]
  have h8 : (m <<< k ||| r) >>> (k + 8) = m / 256 := by rw [Nat.shiftRight_add, htop, Nat.shiftRight_eq_div_pow]
  simp only [Nat.add_sub_cancel, show 16 - u = k + 8 by omega, show 8 - u = k by omega, h8, htop,
    Bits.and_mask (show u < 8 by omega), hlow, show (u + 8) % 8 = u by omega, Bits.byte_and, Except.pure_eq,
    Bits.ofNat_mod]

theorem encGnbId_of_three (hu : u < 8) (hm : m < 2 ^ 24) : encGnbId (m <<< k ||| r) u =
    .ok ⟨[UInt8.ofNat (m / 65536), UInt8.ofNat (m / 256), UInt8.ofNat m, UInt8.ofNat (r <<< u)], u⟩ := by
  have htop : (m <<< k ||| r) >>> k = m := or_shiftRight_top hr
  have hlost : (m <<< k ||| r) >>> (32 - u) = 0 := by
    rw [show 32 - u = k + 24 by omega, Nat.shiftRight_add, htop, Nat.shiftRight_eq_div_pow]
    omega
  have hlow : (m <<< k ||| r) % 2 ^ k = r := by
    rw [Bits.or_shiftLeft hr, Nat.mul_add_mod_self_right, Nat.mod_eq_of_lt hr]
  rw [encGnbId, require_of (by omega), Except.ok_bind, require_of hlost, Except.ok_bind, if_neg (by omega)]
  have h8 : (m <<< k ||| r) >>> (k + 8) = m / 256 := by rw [Nat.shiftRight_add, htop, Nat.shiftRight_eq_div_pow]
  have h16 : (m <<< k ||| r) >>> (k + 16) = m / 65536 := by rw [Nat.shiftRight_add, htop, Nat.shiftRight_eq_div_pow]
  simp only [show 24 - u = k + 16 by omega, show 16 - u = k + 8 by omega, show 8 - u = k by omega, h8, h16, htop,
    Bits.and_mask hu, hlow, Nat.mod_eq_of_lt hu, Bits.byte_and, Except.pure_eq, Bits.ofNat_mod]

end GnbId

/-- The bits of the identity are those of three bytes or four, but for the unused ones. -/
theorem gnbId_remade {b : BitString} {nbId unused : Nat} (h : decGnbId b = .ok (nbId, unused)) :
    encGnbId nbId unused = .ok b ↔ PaddedWithZeroes b := by
  obtain ⟨buf, u⟩ := b
  obtain ⟨_, -, h⟩ := Except.bind_eq_ok.mp h
  obtain ⟨_, hlen, h⟩ := Except.bind_eq_ok.mp h
  obtain ⟨_, hu, h⟩ := Except.bind_eq_ok.mp h
  rw [require_eq_ok] at hlen hu
  simp only at hu
  obtain ⟨k, hk⟩ : ∃ k, u + k = 8 := ⟨8 - u, by omega⟩
  have hlast (z : UInt8) : z.toNat >>> u < 2 ^ k := by
    rw [Nat.shiftRight_eq_div_pow, Nat.div_lt_iff_lt_mul (Nat.two_pow_pos u), ← Nat.pow_add, Nat.add_comm, hk]
    exact z.toNat_lt
  split at h
  case isTrue h3 =>
    obtain ⟨_, hu3, h⟩ := Except.bind_eq_ok.mp h
    rw [require_eq_ok] at hu3
    obtain ⟨rfl, rfl⟩ := Prod.mk.inj (Except.ok.inj h)
    obtain ⟨x, y, z, rfl⟩ := List.length_eq_three.mp h3
    have hm : x.toNat * 256 + y.toNat < 2 ^ 16 := by
      have hx := x.toNat_lt
      have hy := y.toNat_lt
      omega
    have hjoin : x.toNat <<< (16 - u) ||| y.toNat <<< (8 - u) = (x.toNat * 256 + y.toNat) <<< k := by
      rw [show 16 - u = k + 8 by omega, show 8 - u = k by omega, join_bytes]
    show encGnbId (x.toNat <<< (16 - u) ||| y.toNat <<< (8 - u) ||| z.toNat >>> u) (u + 8) = _ ↔ z.toNat % 2 ^ u = 0
    rw [hjoin, encGnbId_of_two hk (hlast z) hu3 hm, ← padded_byte]
    simp only [Except.ok.injEq, BitString.mk.injEq, List.cons.injEq, and_true, Bits.ofNat_upper, Bits.ofNat_lower,
      UInt8.ofNat_toNat, true_and]
  case isFalse h3 =>
    obtain ⟨rfl, rfl⟩ := Prod.mk.inj (Except.ok.inj h)
    obtain ⟨w, buf, rfl⟩ := List.exists_cons_of_length_eq_add_one (hlen.resolve_left h3)
    obtain ⟨x, y, z, rfl⟩ := List.length_eq_three.mp (Nat.succ.inj (hlen.resolve_left h3))
    have hm : (w.toNat * 256 + x.toNat) * 256 + y.toNat < 2 ^ 24 := by
      have hw := w.toNat_lt
      have hx := x.toNat_lt
      have hy := y.toNat_lt
      omega
    have hjoin : w.toNat <<< (24 - u) ||| x.toNat <<< (16 - u) ||| y.toNat <<< (8 - u) =
        ((w.toNat * 256 + x.toNat) * 256 + y.toNat) <<< k := by
      rw [show 24 - u = k + 8 + 8 by omega, show 16 - u = k + 8 by omega, show 8 - u = k by omega, join_bytes, join_bytes]
    have hupper : ((w.toNat * 256 + x.toNat) * 256 + y.toNat) / 65536 = w.toNat := by
      have hx := x.toNat_lt
      have hy := y.toNat_lt
      omega
    show encGnbId (w.toNat <<< (24 - u) ||| x.toNat <<< (16 - u) ||| y.toNat <<< (8 - u) ||| z.toNat >>> u) u = _ ↔
      z.toNat % 2 ^ u = 0
    rw [hjoin, encGnbId_of_three hk (hlast z) hu hm, hupper, ← padded_byte]
    simp only [Except.ok.injEq, BitString.mk.injEq, List.cons.injEq, and_true, Bits.ofNat_upper, Bits.ofNat_lower,
      UInt8.ofNat_toNat, true_and]

end FlexRic.Util
