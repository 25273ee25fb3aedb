import FlexRic.Theorems.Sm.Stats
import FlexRic.Theorems.Sm.Tc.CtrlUntrusted

/-! # Plain messages of four service models that anyone may have sent

A decoder of statistics copies as many records as the message says there are, and compares what it has copied with the
length of the chunk only then. -/

namespace FlexRic.Sm
open Plain

/-! ### Statistics -/

/-- As many records as the chunk says at its front have room between that number and the time stamp. -/
def HasRecords (size : Nat) (buf : Bytes) : Prop := 12 + size * leNat (buf.take 4) ≤ buf.length

instance (size : Nat) (buf : Bytes) : Decidable (HasRecords size buf) := inferInstanceAs (Decidable (_ ≤ _))

/-- The bytes are what the encoder writes for the message that a decoder has filled. -/
def StatsRet.Encodes {α : Type} (encode : StatsMsg α → Except String Bytes) (initial : Pointer α) (ret : StatsRet α)
    (buf : Bytes) : Prop :=
  ∃ m : StatsMsg α, ret = m.ret initial ∧ encode m = .ok buf

section Codec
variable {α : Type} {size : Nat} {record : Reader α} {enc : α → Bytes} (h : Copies record (fun _ => True) size enc)
  {buf : Bytes} {initial : Pointer α} {calloc : Calloc} {refusal : String}

/-- The number of records is read. -/
theorem decStatsMsg_front (hlen : 4 ≤ buf.length) :
    ∃ len : UInt32, len.toNat = leNat (buf.take 4) ∧ fetch UInt32 buf = .ok (len, buf.drop 4) := by
  obtain ⟨len, -, hput, hr⟩ := (fetch_copies : Copies (fetch UInt32) _ _ _).copy hlen
  refine ⟨len, ?_, hr⟩
  rw [show buf.take 4 = put len from hput.symm, put, leNat_leBytes (Scalar.toNat_lt len)]
  rfl

include h

/-- Nothing is accepted but the bytes of a message. -/
theorem decStatsMsg_accepts {ret : StatsRet α} {rest : Bytes} :
    decStatsMsg granted initial size record buf = .ok (ret, rest) ↔
      ∃ m : StatsMsg α, ret = m.ret initial ∧ buf = m.bytes enc ++ rest := by
  constructor
  · intro hok
    simp only [decStatsMsg, allocated_granted, bind_accepts] at hok
    obtain ⟨len, _, hlen, xs, _, hxs, tstamp, _, htstamp, hret⟩ := hok
    obtain ⟨-, rfl⟩ := fetch_copies.accepts.mp hlen
    obtain ⟨-, rfl⟩ := (h.times _).accepts.mp hxs
    obtain ⟨-, rfl⟩ := fetch_copies.accepts.mp htstamp
    obtain ⟨rfl, rfl⟩ := Prod.mk.inj (Except.ok.inj hret)
    have hlen' : (Counted.ofTimes xs).len = len := by
      rw [Counted.len, Counted.ofTimes, xs.property, UInt32.ofNat_toNat]
    refine ⟨⟨.ofTimes xs, tstamp⟩, ?_, ?_⟩
    · rw [StatsMsg.ret, hlen']
      rfl
    · rw [StatsMsg.bytes, hlen']
      simp [Counted.ofTimes]
  · rintro ⟨m, rfl, rfl⟩
    exact decStatsMsg_reads h initial m rest (Nat.zero_le _)

theorem decStatsMsg_past :
    decStatsMsg granted initial size record buf = .error pastEnd ↔ ¬HasRecords size buf := by
  simp only [decStatsMsg, allocated_granted]
  rw [HasRecords, Nat.not_le]
  rcases Nat.lt_or_ge buf.length 4 with hlt | hge
  · refine iff_of_true (bind_of_error (fetch_takes.past hlt)) ?_
    omega
  · obtain ⟨len, hlen, hr⟩ := decStatsMsg_front hge
    have htakes : Takes (times record len.toNat >>= fun xs => fetch Int64 >>= fun tstamp =>
        pure (StatsRet.mk len (if 0 < len then .array xs.val else initial) tstamp)) (len.toNat * size + (8 + 0)) :=
      (h.toTakes.times _).bind fun _ => fetch_takes.bind fun _ => .pure _
    rw [bind_of_ok hr, htakes.past_iff, List.length_drop, ← hlen, Nat.mul_comm size]
    omega

theorem watched_statsMsg (refusal : String) : Watched refusal (decStatsMsg (held refusal) initial size record)
    (decStatsMsg granted initial size record) :=
  (Watched.refl _).bind fun len => (Watched.allocated h.toTakes len).bind fun _ => .refl _

/-- A decoder that first makes sure of `C` is safe on the chunks that do not have `C`, and on those that hold as many
records as they say. -/
theorem decStatsMsg_safe_iff {encode : StatsMsg α → Except String Bytes} {C : Bytes → Prop} [DecidablePred C]
    {msg msg' : String} (hmsg : msg ≠ pastEnd) (hmsg' : msg' ≠ pastEnd) (henc : ∀ m, encode m = .ok (m.bytes enc)) :
    Safe (fun calloc buf => do
        require (C buf) msg
        (decStatsMsg calloc initial size record).whole msg' buf)
      (StatsRet.Encodes encode initial) buf ↔ (C buf → HasRecords size buf) := by
  by_cases hC : C buf
  · have hpast : (decStatsMsg granted initial size record).whole msg' buf = .error pastEnd ↔ ¬HasRecords size buf := by
      rw [whole_past hmsg', decStatsMsg_past h]
    rw [@safe_congr _ _ (fun calloc => (decStatsMsg calloc initial size record).whole msg') _ _ fun calloc => by
      rw [require_of hC, Except.ok_bind], imp_iff_right hC]
    constructor
    · intro hs
      exact not_not.mp (mt hpast.mpr hs.inside)
    · intro hrecords
      refine safe_of_watched (fun refusal => whole_watched (watched_statsMsg h refusal buf) _)
        (mt hpast.mp (not_not.mpr hrecords)) fun ret hok => ?_
      obtain ⟨⟨ret', rest⟩, hr, hok⟩ := Except.bind_eq_ok.mp hok
      obtain ⟨_, hrest, hok⟩ := Except.bind_eq_ok.mp hok
      obtain rfl := Except.ok.inj hok
      obtain rfl := require_eq_ok.mp hrest
      obtain ⟨m, rfl, rfl⟩ := (decStatsMsg_accepts h).mp hr
      rw [List.append_nil]
      exact ⟨m, rfl, henc m⟩
  · refine iff_of_true (safe_of_rejected hmsg fun calloc => ?_) fun hC' => absurd hC' hC
    rw [require, if_neg hC]
    rfl

end Codec

theorem rlcDecIndMsg_safe_iff (buf : Bytes) :
    Safe Rlc.rlcDecIndMsgPlain (StatsRet.Encodes Rlc.rlcEncIndMsgPlain .null) buf ↔
      (nextPow2 (UInt64.ofNat buf.length) ≥ 16 → HasRecords 152 buf) :=
  decStatsMsg_safe_iff Rlc.rb_copies (by decide) (by decide) fun m => encStatsMsg_eq Rlc.rb_copies rfl (by decide)

theorem gtpDecIndMsg_safe_iff (buf : Bytes) :
    Safe Gtp.gtpDecIndMsgPlain (StatsRet.Encodes Gtp.gtpEncIndMsgPlain .null) buf ↔
      (nextPow2 (UInt64.ofNat buf.length) ≥ 16 → HasRecords 16 buf) :=
  decStatsMsg_safe_iff Gtp.ngut_copies (by decide) (by decide) fun m => encStatsMsg_eq Gtp.ngut_copies rfl (by decide)

theorem pdcpDecIndMsg_safe_iff (buf : Bytes) :
    Safe Pdcp.pdcpDecIndMsgPlain (StatsRet.Encodes Pdcp.pdcpEncIndMsgPlain .undefined) buf ↔
      (buf.length ≥ 12 → HasRecords 68 buf) :=
  decStatsMsg_safe_iff Pdcp.rb_copies (by decide) (by decide) fun m =>
    encStatsMsg_eq Pdcp.rb_copies (Nat.add_right_comm ..) (by decide)

/-! ### Structures of four bytes -/

theorem decWord_safe {msg : String} (hmsg : msg ≠ pastEnd) (buf : Bytes) :
    Safe (fun _ => decWord msg) (fun a buf => encWord a = buf) buf := by
  by_cases hlen : buf.length = sizeof UInt32
  · obtain ⟨a, -, hput, hr⟩ := (fetch_copies : Copies (fetch UInt32) _ _ _).copy (Nat.le_of_eq hlen.symm)
    have hdec : decWord msg buf = .ok a := by
      rw [decWord, require_of hlen, Except.ok_bind, hr]
      rfl
    refine safe_of_watched (fun _ => .inl rfl) (by simp [hdec]) fun b hok => ?_
    obtain rfl := Except.ok.inj (hdec.symm.trans hok)
    rw [encWord, hput]
    exact List.take_of_length_le (Nat.le_of_eq hlen)
  · refine safe_of_rejected hmsg fun _ => ?_
    rw [decWord, require, if_neg hlen]
    rfl

theorem decOutcome_safe {msg : String} (hmsg : msg ≠ pastEnd) (buf : Bytes) :
    Safe (fun _ => decOutcome msg) (fun a buf => encWord a = buf) buf := by
  by_cases hlen : 0 < buf.length
  · rw [@safe_congr _ _ (fun _ => decWord msg) _ _ fun _ => by rw [decOutcome, require_of hlen, Except.ok_bind]]
    exact decWord_safe hmsg buf
  · refine @safe_of_rejected _ _ _ _ "len > 0" (by decide) fun _ => ?_
    rw [decOutcome, require, if_neg hlen]
    rfl

/-- The encoders and the decoders of headers, of control messages and of outcomes that are four bytes. -/
def wordCodecs : List ((UInt32 → Bytes) × (Bytes → Except String UInt32)) :=
  [(Rlc.rlcEncIndHdrPlain, Rlc.rlcDecIndHdrPlain), (Rlc.rlcEncCtrlHdrPlain, Rlc.rlcDecCtrlHdrPlain),
   (Rlc.rlcEncCtrlMsgPlain, Rlc.rlcDecCtrlMsgPlain), (Gtp.gtpEncIndHdrPlain, Gtp.gtpDecIndHdrPlain),
   (Gtp.gtpEncCtrlHdrPlain, Gtp.gtpDecCtrlHdrPlain), (Gtp.gtpEncCtrlMsgPlain, Gtp.gtpDecCtrlMsgPlain),
   (Pdcp.pdcpEncIndHdrPlain, Pdcp.pdcpDecIndHdrPlain), (Pdcp.pdcpEncCtrlHdrPlain, Pdcp.pdcpDecCtrlHdrPlain),
   (Pdcp.pdcpEncCtrlMsgPlain, Pdcp.pdcpDecCtrlMsgPlain), (Pdcp.pdcpEncCtrlOutPlain, Pdcp.pdcpDecCtrlOutPlain),
   (Tc.tcEncIndHdrPlain, Tc.tcDecIndHdrPlain), (Tc.tcEncCtrlHdrPlain, Tc.tcDecCtrlHdrPlain),
   (Tc.tcEncCtrlOutPlain, Tc.tcDecCtrlOutPlain)]

theorem wordCodecs_safe (buf : Bytes) :
    ∀ c ∈ wordCodecs, Safe (fun _ => c.2) (fun a buf => c.1 a = buf) buf := by
  simp only [wordCodecs, List.forall_mem_cons, List.not_mem_nil, false_implies, implies_true, and_true]
  refine ⟨decWord_safe ?_ buf, decWord_safe ?_ buf, decWord_safe ?_ buf, decWord_safe ?_ buf, decWord_safe ?_ buf,
    decWord_safe ?_ buf, decWord_safe ?_ buf, decWord_safe ?_ buf, decWord_safe ?_ buf, decOutcome_safe ?_ buf,
    decWord_safe ?_ buf, decWord_safe ?_ buf, decOutcome_safe ?_ buf⟩ <;> decide

/-! ### All decoders -/

/-- **The decoders of four bytes are safe on every chunk. A decoder of statistics is safe on the chunks that it finds too
short, and on those that hold as many records as they say; the one of traffic control indications on the chunks that
do not end inside a part and have room for the queues; and the one of traffic control messages on those that do not end
inside a message and are not that of a classifier of the OSI layers.** -/
theorem plainDecoders_safe_iff (buf : Bytes) :
    (Safe Rlc.rlcDecIndMsgPlain (StatsRet.Encodes Rlc.rlcEncIndMsgPlain .null) buf ↔
      (nextPow2 (UInt64.ofNat buf.length) ≥ 16 → HasRecords 152 buf)) ∧
    (Safe Pdcp.pdcpDecIndMsgPlain (StatsRet.Encodes Pdcp.pdcpEncIndMsgPlain .undefined) buf ↔
      (buf.length ≥ 12 → HasRecords 68 buf)) ∧
    (Safe Gtp.gtpDecIndMsgPlain (StatsRet.Encodes Gtp.gtpEncIndMsgPlain .null) buf ↔
      (nextPow2 (UInt64.ofNat buf.length) ≥ 16 → HasRecords 16 buf)) ∧
    (Safe Tc.tcDecIndMsgCalloc Tc.TcIndMsg.Encodes buf ↔ ¬Tc.TcIndMsg.CutOff buf ∧ Tc.TcIndMsg.QueuesHeld buf) ∧
    (Safe Tc.tcDecCtrlMsgCalloc Tc.TcCtrlMsg.Encodes buf ↔ ¬Tc.TcCtrlMsg.CutOff buf ∧ ¬Tc.TcCtrlMsg.HasOsi buf) ∧
    ∀ c ∈ wordCodecs, Safe (fun _ => c.2) (fun a buf => c.1 a = buf) buf :=
  ⟨rlcDecIndMsg_safe_iff buf, pdcpDecIndMsg_safe_iff buf, gtpDecIndMsg_safe_iff buf, Tc.decIndMsg_safe_iff buf,
   Tc.decCtrlMsg_safe_iff buf, wordCodecs_safe buf⟩

/-- Twelve bytes with one record announced: the decoders read on after them. -/
theorem announced_record_not_there :
    Rlc.rlcDecIndMsgPlain granted (1 :: List.replicate 11 0) = .error pastEnd ∧
    ¬∀ buf, Safe Rlc.rlcDecIndMsgPlain (StatsRet.Encodes Rlc.rlcEncIndMsgPlain .null) buf ∧
      Safe Pdcp.pdcpDecIndMsgPlain (StatsRet.Encodes Pdcp.pdcpEncIndMsgPlain .undefined) buf ∧
      Safe Gtp.gtpDecIndMsgPlain (StatsRet.Encodes Gtp.gtpEncIndMsgPlain .null) buf ∧
      Safe Tc.tcDecIndMsgCalloc Tc.TcIndMsg.Encodes buf ∧ Safe Tc.tcDecCtrlMsgCalloc Tc.TcCtrlMsg.Encodes buf ∧
      ∀ c ∈ wordCodecs, Safe (fun _ => c.2) (fun a buf => c.1 a = buf) buf := by
  have hpast : Rlc.rlcDecIndMsgPlain granted (1 :: List.replicate 11 0) = .error pastEnd := by
    rw [Rlc.rlcDecIndMsgPlain, require_of (by decide), Except.ok_bind, whole_past (by decide)]
    exact (decStatsMsg_past Rlc.rb_copies).mpr (by decide)
  exact ⟨hpast, fun h => (h _).1.inside hpast⟩

end FlexRic.Sm
