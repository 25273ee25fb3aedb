import FlexRic.Lib.Plain

/-! # Integers in octets

An integer of ASN.1 has its contents in octets, the most significant one first, in two's complement and in as few
octets as there can be. -/

namespace FlexRic.Octets
open Plain (Bytes)

/-- The lowest `k` bytes of a number, the most significant one first. -/
def beBytes : Nat → Nat → Bytes
  | 0, _ => []
  | k + 1, n => UInt8.ofNat (n / 256 ^ k) :: beBytes k n

/-- The number whose bytes follow those of `acc`. -/
def beNat (acc : Nat) : Bytes → Nat
  | [] => acc
  | b :: bs => beNat (acc * 256 + b.toNat) bs

/-- The first octet only repeats the first bit of the second one. -/
def Redundant : Bytes → Prop
  | b :: c :: _ => b = 0 ∧ c < 128 ∨ b = 255 ∧ 128 ≤ c
  | _ => False

instance : DecidablePred Redundant := fun bs =>
  match bs with
  | [] | [_] => .isFalse id
  | _ :: _ :: _ => inferInstanceAs (Decidable (_ ∨ _))

/-- The fewest octets of the same integer -/
def minimal : Bytes → Bytes
  | [] => []
  | b :: bs => if Redundant (b :: bs) then minimal bs else b :: bs

variable {k n j : Nat} {bs : Bytes}

@[simp] theorem length_beBytes (k n : Nat) : (beBytes k n).length = k := by
  induction k with
  | zero => rfl
  | succ k ih => rw [beBytes, List.length_cons, ih]

theorem beNat_beBytes (acc k n : Nat) : beNat acc (beBytes k n) = acc * 256 ^ k + n % 256 ^ k := by
  induction k generalizing acc with
  | zero => simp [beBytes, beNat, Nat.mod_one]
  | succ k ih =>
    have hmod : n % 256 ^ (k + 1) = n % 256 ^ k + 256 ^ k * (n / 256 ^ k % 256) := by
      rw [Nat.pow_succ, Nat.mod_mul]
    have hbyte : (UInt8.ofNat (n / 256 ^ k)).toNat = n / 256 ^ k % 256 := UInt8.toNat_ofNat'
    have hacc : acc * 256 ^ (k + 1) = acc * 256 * 256 ^ k := by
      rw [Nat.mul_assoc, Nat.mul_comm 256, ← Nat.pow_succ]
    rw [beBytes, beNat, ih, hbyte, hmod, hacc, Nat.add_mul, Nat.mul_comm (256 ^ k)]
    omega

theorem length_minimal_le : (minimal bs).length ≤ bs.length := by
  induction bs with
  | nil => exact Nat.le_refl _
  | cons b bs ih =>
    rw [minimal]
    split
    · exact Nat.le_succ_of_le ih
    · exact Nat.le_refl _

theorem minimal_of_not_redundant (h : ¬Redundant bs) : minimal bs = bs := by
  cases bs with
  | nil => rfl
  | cons b bs => exact if_neg h

theorem minimal_minimal (bs : Bytes) : minimal (minimal bs) = minimal bs := by
  induction bs with
  | nil => rfl
  | cons b bs ih =>
    rw [minimal]
    split
    case isTrue => exact ih
    case isFalse h => exact minimal_of_not_redundant h

/-- Redundant octets are missed. -/
theorem length_minimal_iff : bs.length ≤ (minimal bs).length ↔ ¬Redundant bs := by
  constructor
  · intro h hred
    cases bs with
    | nil => exact hred
    | cons b bs =>
      rw [minimal, if_pos hred, List.length_cons] at h
      have hle : (minimal bs).length ≤ bs.length := length_minimal_le
      omega
  · intro h
    exact Nat.le_of_eq (congrArg List.length (minimal_of_not_redundant h).symm)

theorem beBytes_succ_succ (k n : Nat) :
    beBytes (k + 2) n = UInt8.ofNat (n / 256 ^ (k + 1)) :: UInt8.ofNat (n / 256 ^ k) :: beBytes k n := rfl

/-- A number that is not negative has a redundant octet when the others are enough for it. -/
theorem redundant_beBytes (h : 2 * n < 256 ^ (k + 2)) : Redundant (beBytes (k + 2) n) ↔ 2 * n < 256 ^ (k + 1) := by
  have hpos : 0 < 256 ^ k := Nat.pow_pos (by decide)
  have hdiv : n / 256 ^ (k + 1) = n / 256 ^ k / 256 := by rw [Nat.pow_succ, Nat.div_div_eq_div_mul]
  have hlt : n / 256 ^ k < 32768 := by
    rw [Nat.div_lt_iff_lt_mul hpos]
    rw [Nat.pow_succ, Nat.pow_succ] at h
    omega
  have hfew : 2 * n < 256 ^ (k + 1) ↔ n / 256 ^ k < 128 := by
    rw [Nat.div_lt_iff_lt_mul hpos, Nat.pow_succ]
    omega
  rw [beBytes_succ_succ, hfew, Redundant, hdiv]
  generalize n / 256 ^ k = m at hlt ⊢
  rw [← UInt8.toNat_inj, ← UInt8.toNat_inj, UInt8.lt_iff_toNat_lt, UInt8.le_iff_toNat_le]
  simp only [UInt8.toNat_ofNat', UInt8.toNat_ofNat]
  omega

/-- Nothing is lost of a number that is not negative. -/
theorem beNat_minimal (h : 2 * n < 256 ^ (k + 1)) : beNat 0 (minimal (beBytes (k + 1) n)) = n := by
  have hall (m : Nat) (hm : 2 * n < 256 ^ m) : beNat 0 (beBytes m n) = n := by
    rw [beNat_beBytes, Nat.zero_mul, Nat.zero_add, Nat.mod_eq_of_lt (by omega)]
  induction k with
  | zero =>
    rw [minimal_of_not_redundant]
    · exact hall 1 h
    · exact id
  | succ k ih =>
    rw [show beBytes (k + 1 + 1) n = UInt8.ofNat (n / 256 ^ (k + 1)) :: beBytes (k + 1) n from rfl, minimal]
    split
    case isTrue hred => exact ih ((redundant_beBytes h).mp hred)
    case isFalse hred => exact hall _ h

/-- A number that is not negative needs one bit more than its own. -/
theorem length_minimal_beBytes (h : 2 * n < 256 ^ (k + 1)) :
    (minimal (beBytes (k + 1) n)).length < j + 2 ↔ k ≤ j ∨ 2 * n < 256 ^ (j + 1) := by
  induction k with
  | zero =>
    rw [minimal_of_not_redundant, length_beBytes]
    · omega
    · exact id
  | succ k ih =>
    rw [show beBytes (k + 1 + 1) n = UInt8.ofNat (n / 256 ^ (k + 1)) :: beBytes (k + 1) n from rfl, minimal]
    split
    case isTrue hred =>
      have hfew := (redundant_beBytes h).mp hred
      rw [ih hfew]
      have hj : k = j → 2 * n < 256 ^ (j + 1) := fun hkj => hkj ▸ hfew
      omega
    case isFalse hred =>
      have hmany := (redundant_beBytes h).not.mp hred
      have hj : 2 * n < 256 ^ (j + 1) → k + 1 ≤ j := by
        intro hlt
        by_contra hle
        have hpow : 256 ^ (j + 1) ≤ 256 ^ (k + 1) := Nat.pow_le_pow_right (by decide) (by omega)
        omega
      rw [List.length_cons, length_beBytes]
      omega

/-! ### From octets to a number and back -/

theorem beNat_eq (acc : Nat) (bs : Bytes) : beNat acc bs = acc * 256 ^ bs.length + beNat 0 bs := by
  induction bs generalizing acc with
  | nil => simp [beNat]
  | cons b bs ih =>
    rw [beNat, beNat, ih (acc * 256 + b.toNat), ih (0 * 256 + b.toNat), List.length_cons, Nat.pow_succ', Nat.zero_mul,
      Nat.zero_add, Nat.add_mul, Nat.mul_assoc, Nat.add_assoc]

theorem beNat_lt (bs : Bytes) : beNat 0 bs < 256 ^ bs.length := by
  induction bs with
  | nil => exact Nat.one_pos
  | cons b bs ih =>
    have hb : b.toNat * 256 ^ bs.length ≤ 255 * 256 ^ bs.length :=
      Nat.mul_le_mul_right _ (Nat.le_of_lt_succ b.toNat_lt)
    rw [beNat, beNat_eq, Nat.zero_mul, Nat.zero_add, List.length_cons, Nat.pow_succ']
    omega

theorem beBytes_add_mul (a k n : Nat) : beBytes k (a * 256 ^ k + n) = beBytes k n := by
  induction k generalizing a with
  | zero => rfl
  | succ k ih =>
    have hdiv : (a * 256 ^ (k + 1) + n) / 256 ^ k = a * 256 + n / 256 ^ k := by
      rw [Nat.pow_succ', ← Nat.mul_assoc, Nat.add_comm, Nat.add_mul_div_right _ _ (Nat.pow_pos (by decide)), Nat.add_comm]
    have hhead : UInt8.ofNat (a * 256 + n / 256 ^ k) = UInt8.ofNat (n / 256 ^ k) := by
      rw [← UInt8.toNat_inj, UInt8.toNat_ofNat', UInt8.toNat_ofNat']
      omega
    rw [beBytes, beBytes, hdiv, hhead, Nat.pow_succ', ← Nat.mul_assoc, ih]

/-- The bytes of the number that bytes stand for -/
theorem beBytes_beNat (bs : Bytes) : beBytes bs.length (beNat 0 bs) = bs := by
  induction bs with
  | nil => rfl
  | cons b bs ih =>
    have hdiv : (b.toNat * 256 ^ bs.length + beNat 0 bs) / 256 ^ bs.length = b.toNat := by
      rw [Nat.add_comm, Nat.add_mul_div_right _ _ (Nat.pow_pos (by decide)), Nat.div_eq_of_lt (beNat_lt bs), Nat.zero_add]
    rw [beNat, beNat_eq, Nat.zero_mul, Nat.zero_add, List.length_cons, beBytes, hdiv, UInt8.ofNat_toNat, beBytes_add_mul, ih]

/-- Octets before the first one that is needed are left out. -/
theorem minimal_beBytes (h : 2 * n < 256 ^ (k + 1)) : minimal (beBytes (k + 1 + j) n) = minimal (beBytes (k + 1) n) := by
  induction j with
  | zero => rfl
  | succ j ih =>
    have hpow : 256 ^ (k + 1) ≤ 256 ^ (k + j + 1) := Nat.pow_le_pow_right (by decide) (by omega)
    have hnext : 256 ^ (k + j + 1) ≤ 256 ^ (k + j + 2) := Nat.pow_le_pow_right (by decide) (by omega)
    have hred : Redundant (beBytes (k + j + 2) n) := (redundant_beBytes (by omega)).mpr (by omega)
    rw [← ih, show k + 1 + (j + 1) = k + j + 1 + 1 by omega, show k + 1 + j = k + j + 1 by omega]
    exact if_pos hred

/-- There are octets, of a number that is not negative, and none of them is redundant. -/
def Shortest (bs : Bytes) : Prop := 0 < bs.length ∧ 2 * beNat 0 bs < 256 ^ bs.length ∧ ¬Redundant bs

theorem shortest_minimal (h : 2 * n < 256 ^ (k + 1)) : Shortest (minimal (beBytes (k + 1) n)) := by
  have hall {m : Nat} (hm : 2 * n < 256 ^ (m + 1)) (hred : ¬Redundant (beBytes (m + 1) n)) :
      Shortest (minimal (beBytes (m + 1) n)) := by
    rw [minimal_of_not_redundant hred, Shortest, length_beBytes, beNat_beBytes, Nat.zero_mul, Nat.zero_add,
      Nat.mod_eq_of_lt (by omega)]
    exact ⟨Nat.succ_pos m, hm, hred⟩
  induction k with
  | zero => exact hall h id
  | succ k ih =>
    by_cases hred : Redundant (beBytes (k + 1 + 1) n)
    · rw [show minimal (beBytes (k + 1 + 1) n) = minimal (beBytes (k + 1) n) from if_pos hred]
      exact ih ((redundant_beBytes h).mp hred)
    · exact hall h hred

/-- The number that octets stand for has the same octets again, out of more than there are. -/
theorem minimal_beBytes_beNat (hlen : bs.length ≤ k) : minimal (beBytes (k + 1) (beNat 0 bs)) = bs ↔ Shortest bs := by
  constructor
  · intro h
    have hlt := beNat_lt bs
    have hpow : 256 ^ bs.length ≤ 256 ^ k := Nat.pow_le_pow_right (by decide) hlen
    have hroom : 2 * beNat 0 bs < 256 ^ (k + 1) := by
      rw [Nat.pow_succ]
      omega
    rw [← h]
    exact shortest_minimal hroom
  · rintro ⟨hpos, hsign, hred⟩
    obtain ⟨m, hm⟩ := Nat.exists_eq_add_of_le' hpos
    obtain ⟨j, hj⟩ := Nat.exists_eq_add_of_le hlen
    rw [hm] at hsign
    rw [hj, hm, show m + 1 + j + 1 = m + 1 + (j + 1) by omega, minimal_beBytes hsign, ← hm, beBytes_beNat,
      minimal_of_not_redundant hred]

end FlexRic.Octets
