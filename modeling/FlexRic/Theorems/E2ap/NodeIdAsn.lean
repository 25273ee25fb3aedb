import FlexRic.E2ap.NodeIdAsn
import FlexRic.Lib.Bits

/-! # What arrives of the identity of a node

The identity of a node in a PDU does not have all that the identity had: a CU-UP arrives as a CU, and of the identity
of an eNB the lower 20 bits arrive. -/

namespace FlexRic.E2ap

/-! ### Identities in range, and what arrives of them -/

/-- A country code of three digits, and a network code of two or three -/
def E2apPlmn.Valid (p : E2apPlmn) : Prop :=
  p.mcc < 1000 ∧ (p.mncDigitLen = 2 ∧ p.mnc < 100 ∨ p.mncDigitLen = 3 ∧ p.mnc < 1000)

namespace GlobalE2NodeId

/-- The network has a code, and the identity of a part of a node has 64 bits. -/
def InRange (id : GlobalE2NodeId) : Prop := id.plmn.Valid ∧ ∀ c ∈ id.cuDuId, c < 2 ^ 64

/-- What arrives of an identity -/
def received (id : GlobalE2NodeId) : GlobalE2NodeId :=
  if h : id.type = .gNBCuup then
    { id with type := .gNBCu, cuDuId_isSome := by rw [id.cuDuId_isSome, h]; rfl }
  else if id.type = .eNB then { id with nbId := id.nbId % 2 ^ 20, unused := 0 }
  else id

/-- Everything arrives: no CU-UP, and no eNB with more than a macro identity. -/
def Exact (id : GlobalE2NodeId) : Prop :=
  id.type ≠ .gNBCuup ∧ (id.type = .eNB → id.nbId < 2 ^ 20 ∧ id.unused = 0)

theorem received_of_exact {id : GlobalE2NodeId} (h : id.Exact) : id.received = id := by
  obtain ⟨hcuup, henb⟩ := h
  rw [received, dif_neg hcuup]
  split
  case isTrue ht =>
    obtain ⟨type, plmn, nbId, unused, cuDuId, hsome⟩ := id
    obtain ⟨hnb, hunused⟩ := henb ht
    simp only at hnb hunused
    rw [GlobalE2NodeId.mk.injEq]
    exact ⟨rfl, rfl, Nat.mod_eq_of_lt hnb, hunused.symm, rfl⟩
  case isFalse => rfl

end GlobalE2NodeId

/-! ### The parts of an identity -/

theorem decPlmn_encPlmn {p : E2apPlmn} (h : p.Valid) : decPlmn (encPlmn p) = p := by
  obtain ⟨mcc, mnc, len⟩ := p
  obtain ⟨hmcc, hmnc⟩ := h
  simp only at hmcc hmnc
  have digit (n : Nat) : n % 10 < 16 := Nat.lt_of_lt_of_le (Nat.mod_lt n (by decide)) (by decide)
  have mcc_hundreds : mcc / 100 < 16 := by omega
  have mnc_hundreds : (if len = 2 then 15 else mnc / 100) < 16 := by
    split <;> omega
  simp only [decPlmn, encPlmn, List.getD_cons_zero, List.getD_cons_succ, Bits.nibbles_low (digit _) mcc_hundreds,
    Bits.nibbles_high (digit _) mcc_hundreds, Bits.nibbles_low mnc_hundreds (digit _),
    Bits.nibbles_high mnc_hundreds (digit _), Bits.nibbles_low (digit _) (digit _),
    Bits.nibbles_high (digit _) (digit _)]
  rw [E2apPlmn.mk.injEq]
  rcases hmnc with ⟨rfl, hmnc⟩ | ⟨rfl, hmnc⟩
  · simp only [↓reduceIte]
    exact ⟨by omega, by omega, trivial⟩
  · have hthree : mnc / 100 ≠ 15 := by omega
    simp only [hthree, reduceIte, Nat.reduceEqDiff]
    exact ⟨by omega, by omega, trivial⟩

theorem decMacroEnbId_enc (id : Nat) : decMacroEnbId (encMacroEnbId id) = .ok (id % 2 ^ 20) := by
  have htop : (id >>> 12 % 2 ^ 8) <<< 12 = (id % 2 ^ 20) >>> 12 <<< 12 := by
    rw [Nat.shiftRight_eq_div_pow, Nat.shiftRight_eq_div_pow]
    congr 1
    omega
  have hmid : id >>> 4 % 2 ^ 8 = (id % 2 ^ 20) >>> 4 % 256 := by
    rw [Nat.shiftRight_eq_div_pow, Nat.shiftRight_eq_div_pow]
    omega
  have hlast : ((id &&& 0x0f) <<< 4 % 2 ^ 8) >>> 4 = id % 2 ^ 20 % 2 ^ 4 := by
    rw [Bits.and_nibble, Nat.shiftLeft_eq, Nat.shiftRight_eq_div_pow]
    omega
  rw [encMacroEnbId, decMacroEnbId, require_of rfl, Except.ok_bind]
  simp only [BitString.byte, List.getD_cons_zero, List.getD_cons_succ, UInt8.toNat_ofNat', htop, hmid, hlast]
  rw [Bits.join_byte _ 4, Bits.join_low]
  rfl

/-- The identity of a gNB comes back with its unused bits, in three bytes or in four. -/
theorem decGnbId_enc {nbId unused : Nat} {b : BitString} (h : encGnbId nbId unused = .ok b) :
    decGnbId b = .ok (nbId, unused) := by
  obtain ⟨_, hunused, h⟩ := Except.bind_eq_ok.mp h
  obtain ⟨_, hlost, h⟩ := Except.bind_eq_ok.mp h
  rw [require_eq_ok] at hunused hlost
  rw [Nat.shiftRight_eq_div_pow, Nat.div_eq_zero_iff_lt (Nat.two_pow_pos _)] at hlost
  split at h
  case isTrue h8 =>
    obtain rfl := Except.ok.inj h
    obtain ⟨u, rfl⟩ := Nat.exists_eq_add_of_le' (show 8 ≤ unused by omega)
    obtain ⟨k, hk⟩ : ∃ k, u + k = 8 := ⟨8 - u, by omega⟩
    have hu : u < 8 := by omega
    have hmod : (u + 8) % 8 = u := by omega
    have h16 : 16 - u = k + 8 := by omega
    have hlast : 8 - u = k := by omega
    rw [show 32 - (u + 8) = k + 8 + 8 by omega] at hlost
    rw [decGnbId]
    simp only [Nat.add_sub_cancel, hmod, List.length_cons, List.length_nil]
    rw [require_of (by decide), Except.ok_bind, require_of (by decide), Except.ok_bind, require_of hu, Except.ok_bind,
      if_pos trivial, require_of (by omega), Except.ok_bind]
    simp only [BitString.byte, List.getD_cons_zero, List.getD_cons_succ, Bits.toNat_byte, Bits.last_byte hu, h16, hlast,
      Bits.top_byte hlost, Bits.join_byte, Bits.join_low]
    rfl
  case isFalse h8 =>
    obtain rfl := Except.ok.inj h
    obtain ⟨k, hk⟩ : ∃ k, unused + k = 8 := ⟨8 - unused, by omega⟩
    have hu : unused < 8 := by omega
    have h24 : 24 - unused = k + 8 + 8 := by omega
    have h16 : 16 - unused = k + 8 := by omega
    have hlast : 8 - unused = k := by omega
    rw [show 32 - unused = k + 8 + 8 + 8 by omega] at hlost
    rw [decGnbId]
    simp only [Nat.mod_eq_of_lt hu, List.length_cons, List.length_nil]
    rw [require_of (by decide), Except.ok_bind, require_of (by decide), Except.ok_bind, require_of hu, Except.ok_bind,
      if_neg (by decide)]
    simp only [BitString.byte, List.getD_cons_zero, List.getD_cons_succ, Bits.toNat_byte, Bits.last_byte hu, h24, h16,
      hlast, Bits.top_byte hlost, Bits.join_byte, Bits.join_low]
    rfl

/-! ### The identity -/

theorem encGnb_eq_ok {id : GlobalE2NodeId} {cuUp du : Option Nat} {v : GlobalE2NodeIdAsn}
    (h : encGnb id cuUp du = .ok v) :
    ∃ b, decGnbId b = .ok (id.nbId, id.unused) ∧ v = .gNB (encPlmn id.plmn) b cuUp du := by
  obtain ⟨b, hb, h⟩ := Except.bind_eq_ok.mp h
  exact ⟨b, decGnbId_enc hb, (Except.ok.inj h).symm⟩

/-- An identity in range arrives as `received` says. -/
theorem decGlobalE2NodeId_enc {id : GlobalE2NodeId} {v : GlobalE2NodeIdAsn} (hid : id.InRange)
    (h : encGlobalE2NodeId id = .ok v) : decGlobalE2NodeId v = .ok id.received := by
  obtain ⟨type, plmn, nbId, unused, cuDuId, hsome⟩ := id
  obtain ⟨hplmn, hcuDuId⟩ := hid
  obtain ⟨_, hencoded, h⟩ := Except.bind_eq_ok.mp h
  rw [require_eq_ok] at hencoded
  simp only at hplmn hcuDuId hencoded
  rcases hencoded with rfl | rfl | rfl | rfl | rfl
  all_goals
    simp only [NgranNode.hasCuDuId, Option.isSome_iff_exists, Option.isSome_eq_false_iff,
      Option.isNone_iff_eq_none] at hsome
    simp only at h
  case inl =>
    obtain ⟨b, hb, rfl⟩ := encGnb_eq_ok h
    subst hsome
    simp only [decGlobalE2NodeId, hb, Except.ok_bind, decPlmn_encPlmn hplmn]
    rfl
  case inr.inr.inr.inr =>
    obtain rfl := Except.ok.inj h
    subst hsome
    simp only [decGlobalE2NodeId, decMacroEnbId_enc, Except.ok_bind, decPlmn_encPlmn hplmn]
    rfl
  -- The parts of a gNB have an identity of their own, which fills the `INTEGER_t`.
  all_goals
    obtain ⟨b, hb, rfl⟩ := encGnb_eq_ok h
    obtain ⟨c, rfl⟩ := hsome
    simp only [decGlobalE2NodeId, hb, Except.ok_bind, decPlmn_encPlmn hplmn, Nat.mod_eq_of_lt (hcuDuId c rfl)]
    rfl

end FlexRic.E2ap
