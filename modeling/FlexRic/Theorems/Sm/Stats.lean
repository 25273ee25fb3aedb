import FlexRic.Lib.Copy
import FlexRic.Sm.Rlc
import FlexRic.Sm.Gtp
import FlexRic.Sm.Pdcp
import Mathlib.Tactic.IntervalCases

/-! # What indications with statistics carry

Everything that is written comes back. Without any record nothing is stored to the pointer of the message, and only
the decoder of the PDCP service model leaves it at that. -/

namespace FlexRic.Sm
open Plain

/-! ### What a message becomes -/

section Messages
variable {α : Type}

/-- The bytes that are written for a message, ... -/
def StatsMsg.bytes (enc : α → Bytes) (m : StatsMsg α) : Bytes :=
  put m.records.len ++ (m.records.items.flatMap enc ++ put m.tstamp)

/-- ... how many they are, ... -/
def StatsMsg.size (size : Nat) (m : StatsMsg α) : Nat := 4 + size * m.records.items.length + 8

/-- ... and the message that a decoder fills with them. -/
def StatsMsg.ret (initial : Pointer α) (m : StatsMsg α) : StatsRet α :=
  ⟨m.records.len, if 0 < m.records.len then .array m.records.items else initial, m.tstamp⟩

/-- There are these records at the pointer. It may be `NULL` when there are none, but it may not be undefined. -/
def Pointer.Holds : Pointer α → List α → Prop
  | .undefined, _ => False
  | .null, xs => xs = []
  | .array ys, xs => ys = xs

/-- Every member of the message that was filled is defined, and holds what the same member of the other one does. -/
structure StatsRet.Holds (ret : StatsRet α) (m : StatsMsg α) : Prop where
  len : ret.len = m.records.len
  records : ret.records.Holds m.records.items
  tstamp : ret.tstamp = m.tstamp

/-- A message is encoded in as many bytes as its members have, and the bytes are decoded to it. -/
def StatsMsg.Carried (enc : StatsMsg α → Except String Bytes) (dec : Bytes → Except String (StatsRet α))
    (size : Nat) (m : StatsMsg α) : Prop :=
  ∃ buf ret, enc m = .ok buf ∧ buf.length = m.size size ∧ dec buf = .ok ret ∧ ret.Holds m

theorem StatsMsg.len_pos_iff {m : StatsMsg α} : 0 < m.records.len ↔ m.records.items ≠ [] := by
  rw [UInt32.lt_iff_toNat_lt, Counted.toNat_len, UInt32.toNat_zero, List.length_pos_iff]

theorem StatsMsg.ret_null_holds (m : StatsMsg α) : (m.ret .null).Holds m := by
  refine ⟨rfl, ?_, rfl⟩
  unfold ret
  split
  · rfl
  · next h => exact not_not.mp (mt len_pos_iff.mpr h)

theorem StatsMsg.ret_undefined_holds {m : StatsMsg α} : (m.ret .undefined).Holds m ↔ m.records.items ≠ [] := by
  rw [← len_pos_iff]
  constructor
  · intro h
    by_contra hn
    have hrec := h.records
    rw [ret, if_neg hn] at hrec
    exact hrec
  · intro h
    refine ⟨rfl, ?_, rfl⟩
    rw [ret, if_pos h]
    rfl

end Messages

/-! ### Encoding and decoding -/

section Codec
variable {α : Type} {size : Nat} {record : Reader α} {enc : α → Bytes} (h : Copies record (fun _ => True) size enc)
include h

theorem StatsMsg.length_bytes (m : StatsMsg α) : (m.bytes enc).length = m.size size := by
  have hrecords : (m.records.items.flatMap enc).length = size * m.records.items.length := by
    simp only [List.length_flatMap, h.length trivial, List.map_const', List.sum_replicate_nat]
    exact Nat.mul_comm ..
  rw [bytes, List.length_append, List.length_append, hrecords, length_put, length_put, ← Nat.add_assoc]
  rfl

/-- The size is computed without a carry out of its 64 bits, however many records there are. -/
theorem encStatsMsg_eq {m : StatsMsg α} {sz : Nat} (hsz : sz = m.size size) (hsize : size < 1073741824) :
    encStatsMsg enc sz m = .ok (m.bytes enc) := by
  have hlt : sz < 18446744073709551616 := by
    have hmul := Nat.mul_lt_mul'' hsize m.records.length_lt
    rw [hsz, StatsMsg.size]
    omega
  obtain rfl : sz = (m.bytes enc).length := hsz.trans (m.length_bytes h).symm
  have hall : (m.bytes enc).length =
      (put m.records.len).length + ((m.records.items.flatMap enc).length + (put m.tstamp).length) := by
    rw [StatsMsg.bytes, List.length_append, List.length_append]
  have hlen : (put m.records.len).length ≤ (m.bytes enc).length := by omega
  have hrecords : (put m.records.len ++ m.records.items.flatMap enc).length ≤ (m.bytes enc).length := by
    rw [List.length_append]
    omega
  simp only [encStatsMsg, Nat.mod_eq_of_lt hlt, Except.bind_eq_ok, write_eq_ok, require_eq_ok, Except.pure_eq,
    Except.ok.injEq, List.nil_append]
  refine ⟨_, ⟨hlen, rfl⟩, _, (foldlM_write_eq_ok hlen).mpr ⟨hrecords, rfl⟩, _, ⟨?_, rfl⟩, (), ?_, ?_⟩
  · rw [List.append_assoc]
    exact Nat.le_refl _
  · rw [List.append_assoc]
    rfl
  · rw [List.append_assoc]
    rfl

theorem decStatsMsg_reads (initial : Pointer α) (m : StatsMsg α) :
    Reads 0 (decStatsMsg granted initial size record) (m.bytes enc) (m.ret initial) := by
  simp only [decStatsMsg, allocated_granted]
  exact (fetch_reads m.records.len).andThen
    ((times_len_reads fun _ _ => h.reads trivial).andThen (fetch_reads m.tstamp).last)

theorem StatsMsg.carried_iff {encode : StatsMsg α → Except String Bytes}
    {decode : Bytes → Except String (StatsRet α)} {initial : Pointer α} {m : StatsMsg α}
    (henc : encode m = .ok (m.bytes enc)) (hdec : decode (m.bytes enc) = .ok (m.ret initial)) :
    m.Carried encode decode size ↔ (m.ret initial).Holds m := by
  constructor
  · rintro ⟨buf, ret, hbuf, -, hret, hholds⟩
    obtain rfl := Except.ok.inj (henc.symm.trans hbuf)
    obtain rfl := Except.ok.inj (hdec.symm.trans hret)
    exact hholds
  · intro hholds
    exact ⟨_, _, henc, m.length_bytes h, hdec, hholds⟩

end Codec

/-! ### The power of two after the length -/

theorem le_or_shiftRight (x k : UInt64) : x.toNat ≤ (x ||| (x >>> k)).toNat := by
  rw [UInt64.toNat_or]
  exact Nat.left_le_or

theorem or_shiftRight_lt {x : UInt64} {n : Nat} (k : UInt64) (h : x.toNat < 2 ^ n) :
    (x ||| (x >>> k)).toNat < 2 ^ n := by
  rw [UInt64.toNat_or, UInt64.toNat_shiftRight]
  exact Nat.or_lt_two_pow h (Nat.lt_of_le_of_lt (Nat.shiftRight_le _ _) h)

/-- The bits that are set make a number no smaller, and do not carry it past a power of two. -/
theorem le_nextPow2 {x : UInt64} (hpos : 0 < x.toNat) (hx : x.toNat ≤ 2 ^ 63) : x.toNat ≤ (nextPow2 x).toNat := by
  have hpred : (x - 1).toNat = x.toNat - 1 := UInt64.toNat_sub_of_le _ _ (UInt64.le_iff_toNat_le.mpr hpos)
  have hlt : (x - 1).toNat < 2 ^ 63 := by omega
  unfold nextPow2
  generalize x - 1 = y at hpred hlt
  extract_lets y₁ y₂ y₃ y₄ y₅ y₆ y₇
  have hle : y.toNat ≤ y₇.toNat := calc
    y.toNat ≤ y₂.toNat := le_or_shiftRight y 1
    _ ≤ y₃.toNat := le_or_shiftRight y₂ 2
    _ ≤ y₄.toNat := le_or_shiftRight y₃ 4
    _ ≤ y₅.toNat := le_or_shiftRight y₄ 8
    _ ≤ y₆.toNat := le_or_shiftRight y₅ 16
    _ ≤ y₇.toNat := le_or_shiftRight y₆ 32
  have hlt' : y₇.toNat < 2 ^ 63 :=
    or_shiftRight_lt 32 <| or_shiftRight_lt 16 <| or_shiftRight_lt 8 <| or_shiftRight_lt 4 <| or_shiftRight_lt 2 <|
      or_shiftRight_lt 1 hlt
  rw [UInt64.toNat_add, UInt64.toNat_one]
  omega

theorem sixteen_le_nextPow2 {n : Nat} (hn : 9 ≤ n) (hlt : n ≤ 2 ^ 63) : 16 ≤ nextPow2 (UInt64.ofNat n) := by
  rcases Nat.lt_or_ge n 16 with h | h
  · interval_cases n <;> decide
  · have hofNat : (UInt64.ofNat n).toNat = n := UInt64.toNat_ofNat_of_lt' (Nat.lt_of_le_of_lt hlt (by decide))
    have hge := le_nextPow2 (x := UInt64.ofNat n) (by omega) (by omega)
    rw [hofNat] at hge
    exact UInt64.le_iff_toNat_le.mpr (Nat.le_trans h hge)

/-! ### The service models -/

namespace Rlc

open RlcRadioBearerStats in
theorem rb_copies : Copies fetchRlcRadioBearerStats (fun _ => True) sizeofRlcRadioBearerStats putRlcRadioBearerStats :=
  (Copies.scalar txpduPkts fun _ => .scalar txpduBytes fun _ => .scalar txpduWtMs fun _ =>
   .scalar txpduDdPkts fun _ => .scalar txpduDdBytes fun _ => .scalar txpduRetxPkts fun _ =>
   .scalar txpduRetxBytes fun _ => .scalar txpduSegmented fun _ => .scalar txpduStatusPkts fun _ =>
   .scalar txpduStatusBytes fun _ => .scalar txbufOccBytes fun _ => .scalar txbufOccPkts fun _ =>
   .scalar rxpduPkts fun _ => .scalar rxpduBytes fun _ => .scalar rxpduDupPkts fun _ =>
   .scalar rxpduDupBytes fun _ => .scalar rxpduDdPkts fun _ => .scalar rxpduDdBytes fun _ =>
   .scalar rxpduOwPkts fun _ => .scalar rxpduOwBytes fun _ => .scalar rxpduStatusPkts fun _ =>
   .scalar rxpduStatusBytes fun _ => .scalar rxbufOccBytes fun _ => .scalar rxbufOccPkts fun _ =>
   .scalar txsduPkts fun _ => .scalar padSdu fun _ => .scalar txsduBytes fun _ =>
   .scalar txsduAvgTimeToTx fun _ => .scalar txsduWtUs fun _ => .scalar rxsduPkts fun _ =>
   .scalar rxsduBytes fun _ => .scalar rxsduDdPkts fun _ => .scalar rxsduDdBytes fun _ => .scalar rnti fun _ =>
   .scalar mode fun _ => .scalar rbid fun _ => .scalar padEnd fun _ => .pure fun rb => by
    cases rb
    simp only [RlcRadioBearerStats.mk.injEq, true_and, and_assoc]).of_eq rfl fun rb _ => by
      rw [List.append_nil]
      rfl

def Carried (m : RlcIndMsg) : Prop := m.Carried rlcEncIndMsgPlain (rlcDecIndMsgPlain granted) sizeofRlcRadioBearerStats

end Rlc

namespace Gtp

open GtpNguTStats in
theorem ngut_copies : Copies fetchGtpNguTStats (fun _ => True) sizeofGtpNguTStats putGtpNguTStats :=
  (Copies.scalar rnti fun _ => .scalar teidgnb fun _ => .scalar teidupf fun _ => .scalar qfi fun _ =>
   .scalar padEnd fun _ => .pure fun ngut => by
    cases ngut
    simp only [GtpNguTStats.mk.injEq, true_and, and_assoc]).of_eq rfl fun ngut _ => by
      rw [List.append_nil]
      rfl

def Carried (m : GtpIndMsg) : Prop := m.Carried gtpEncIndMsgPlain (gtpDecIndMsgPlain granted) sizeofGtpNguTStats

end Gtp

namespace Pdcp

open PdcpRadioBearerStats in
theorem rb_copies : Copies fetchPdcpRadioBearerStats (fun _ => True) sizeofPdcpRadioBearerStats
    putPdcpRadioBearerStats :=
  (Copies.scalar txpduPkts fun _ => .scalar txpduBytes fun _ => .scalar txpduSn fun _ => .scalar rxpduPkts fun _ =>
   .scalar rxpduBytes fun _ => .scalar rxpduSn fun _ => .scalar rxpduOoPkts fun _ => .scalar rxpduOoBytes fun _ =>
   .scalar rxpduDdPkts fun _ => .scalar rxpduDdBytes fun _ => .scalar rxpduRoCount fun _ =>
   .scalar txsduPkts fun _ => .scalar txsduBytes fun _ => .scalar rxsduPkts fun _ => .scalar rxsduBytes fun _ =>
   .scalar rnti fun _ => .scalar mode fun _ => .scalar rbid fun _ => .scalar padEnd fun _ => .pure fun rb => by
    cases rb
    simp only [PdcpRadioBearerStats.mk.injEq, true_and, and_assoc]).of_eq rfl fun rb _ => by
      rw [List.append_nil]
      rfl

def Carried (m : PdcpIndMsg) : Prop :=
  m.Carried pdcpEncIndMsgPlain (pdcpDecIndMsgPlain granted) sizeofPdcpRadioBearerStats

end Pdcp

section Carried
variable {α : Type} {size : Nat} {record : Reader α} {enc : α → Bytes} (h : Copies record (fun _ => True) size enc)
include h

theorem sixteen_le_nextPow2_bytes (m : StatsMsg α) (hsize : size < 1073741824) :
    16 ≤ nextPow2 (UInt64.ofNat (m.bytes enc).length) := by
  have hmul := Nat.mul_lt_mul'' hsize m.records.length_lt
  have hlen := m.length_bytes h
  rw [StatsMsg.size] at hlen
  exact sixteen_le_nextPow2 (by omega) (by omega)

end Carried

theorem rlc_carried (m : Rlc.RlcIndMsg) : Rlc.Carried m := by
  have hlong : nextPow2 (UInt64.ofNat (m.bytes Rlc.putRlcRadioBearerStats).length) ≥ Rlc.sizeofRlcIndMsg :=
    sixteen_le_nextPow2_bytes Rlc.rb_copies m (by decide)
  have hdec : Rlc.rlcDecIndMsgPlain granted (m.bytes Rlc.putRlcRadioBearerStats) = .ok (m.ret .null) := by
    rw [Rlc.rlcDecIndMsgPlain, require_of hlong, Except.ok_bind]
    exact (decStatsMsg_reads Rlc.rb_copies .null m).whole _
  have henc : Rlc.rlcEncIndMsgPlain m = .ok (m.bytes Rlc.putRlcRadioBearerStats) :=
    encStatsMsg_eq Rlc.rb_copies rfl (by decide)
  exact (StatsMsg.carried_iff Rlc.rb_copies henc hdec).mpr m.ret_null_holds

theorem gtp_carried (m : Gtp.GtpIndMsg) : Gtp.Carried m := by
  have hlong : nextPow2 (UInt64.ofNat (m.bytes Gtp.putGtpNguTStats).length) ≥ Gtp.sizeofGtpIndMsg :=
    sixteen_le_nextPow2_bytes Gtp.ngut_copies m (by decide)
  have hdec : Gtp.gtpDecIndMsgPlain granted (m.bytes Gtp.putGtpNguTStats) = .ok (m.ret .null) := by
    rw [Gtp.gtpDecIndMsgPlain, require_of hlong, Except.ok_bind]
    exact (decStatsMsg_reads Gtp.ngut_copies .null m).whole _
  have henc : Gtp.gtpEncIndMsgPlain m = .ok (m.bytes Gtp.putGtpNguTStats) :=
    encStatsMsg_eq Gtp.ngut_copies rfl (by decide)
  exact (StatsMsg.carried_iff Gtp.ngut_copies henc hdec).mpr m.ret_null_holds

theorem pdcp_carried_iff {m : Pdcp.PdcpIndMsg} : Pdcp.Carried m ↔ m.records.items ≠ [] := by
  have hsize : sizeof UInt32 + sizeof Int64 + Pdcp.sizeofPdcpRadioBearerStats * m.records.items.length =
      m.size Pdcp.sizeofPdcpRadioBearerStats := Nat.add_right_comm ..
  have hlen : (m.bytes Pdcp.putPdcpRadioBearerStats).length ≥ sizeof UInt32 + sizeof Int64 := by
    rw [m.length_bytes Pdcp.rb_copies, ← hsize]
    exact Nat.le_add_right ..
  have hdec : Pdcp.pdcpDecIndMsgPlain granted (m.bytes Pdcp.putPdcpRadioBearerStats) = .ok (m.ret .undefined) := by
    rw [Pdcp.pdcpDecIndMsgPlain, require_of hlen, Except.ok_bind]
    exact (decStatsMsg_reads Pdcp.rb_copies .undefined m).whole _
  have henc : Pdcp.pdcpEncIndMsgPlain m = .ok (m.bytes Pdcp.putPdcpRadioBearerStats) :=
    encStatsMsg_eq Pdcp.rb_copies hsize (by decide)
  exact (StatsMsg.carried_iff Pdcp.rb_copies henc hdec).trans StatsMsg.ret_undefined_holds

/-- **Every indication of the RLC and of the GTP service model is carried. One of the PDCP service model is carried if
and only if it has a radio bearer.** -/
theorem statsMsg_carried_iff (r : Rlc.RlcIndMsg) (g : Gtp.GtpIndMsg) (p : Pdcp.PdcpIndMsg) :
    Rlc.Carried r ∧ Gtp.Carried g ∧ (Pdcp.Carried p ↔ p.records.items ≠ []) :=
  ⟨rlc_carried r, gtp_carried g, pdcp_carried_iff⟩

/-- Without radio bearers, the pointer of a PDCP message is what was on the stack. -/
theorem pdcp_empty_not_carried :
    (Pdcp.pdcpEncIndMsgPlain ⟨.empty, 1⟩ >>= Pdcp.pdcpDecIndMsgPlain granted) = .ok ⟨0, .undefined, 1⟩ ∧
      ¬∀ r g p, Rlc.Carried r ∧ Gtp.Carried g ∧ Pdcp.Carried p := by
  constructor
  · rfl
  · intro h
    exact pdcp_carried_iff.mp (h ⟨.empty, 1⟩ ⟨.empty, 1⟩ ⟨.empty, 1⟩).2.2 rfl

end FlexRic.Sm
