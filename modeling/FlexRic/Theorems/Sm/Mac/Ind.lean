import FlexRic.Sm.Mac.Ind

/-! # What indications of the MAC service model carry, and which of them compare equal

The length of an encoding is computed in 32 bits, which are too few from 24403224 records on. The comparison
leaves out one of the two noise ratios, and takes the other one for equal when it is close. -/

namespace FlexRic.Sm.Mac
open Plain

/-! ### Records -/

theorem reads_macUeStatsImpl (ue : MacUeStatsImpl) : Reads 0 fetchMacUeStatsImpl (putMacUeStatsImpl ue) ue :=
  (fetch_reads ue.dlAggrTbs).andThen <| (fetch_reads ue.ulAggrTbs).andThen <|
  (fetch_reads ue.dlAggrBytesSdus).andThen <| (fetch_reads ue.ulAggrBytesSdus).andThen <|
  (fetch_reads ue.dlCurrTbs).andThen <| (fetch_reads ue.ulCurrTbs).andThen <|
  (fetch_reads ue.dlSchedRb).andThen <| (fetch_reads ue.ulSchedRb).andThen <|
  (fetch_reads ue.puschSnr).andThen <| (fetch_reads ue.pucchSnr).andThen <|
  (fetch_reads ue.dlBler).andThen <| (fetch_reads ue.ulBler).andThen <|
  (times_reads_flatMap (fun a _ => fetch_reads a) ue.dlHarq.property).andThen <|
  (times_reads_flatMap (fun a _ => fetch_reads a) ue.ulHarq.property).andThen <|
  (fetch_reads ue.dlNumHarq).andThen <| (fetch_reads ue.ulNumHarq).andThen <|
  (fetch_reads ue.rnti).andThen <| (fetch_reads ue.dlAggrPrb).andThen <| (fetch_reads ue.ulAggrPrb).andThen <|
  (fetch_reads ue.dlAggrSdus).andThen <| (fetch_reads ue.ulAggrSdus).andThen <|
  (fetch_reads ue.dlAggrRetxPrb).andThen <| (fetch_reads ue.ulAggrRetxPrb).andThen <|
  (fetch_reads ue.bsr).andThen <| (fetch_reads ue.frame).andThen <| (fetch_reads ue.slot).andThen <|
  (fetch_reads ue.wbCqi).andThen <| (fetch_reads ue.dlMcs1).andThen <| (fetch_reads ue.ulMcs1).andThen <|
  (fetch_reads ue.dlMcs2).andThen <| (fetch_reads ue.ulMcs2).andThen <| (fetch_reads ue.phr).andThen <|
  (skip_reads 6).last

theorem length_putMacUeStatsImpl (ue : MacUeStatsImpl) : (putMacUeStatsImpl ue).length = sizeofMacUeStatsImpl := by
  simp only [putMacUeStatsImpl, List.length_append, length_put, length_flatMap_put, ue.dlHarq.property,
    ue.ulHarq.property, length_padding]
  rfl

/-! ### Messages -/

section Codec

/-- The bytes that the encoder writes. -/
def MacIndMsg.bytes (m : MacIndMsg) : Bytes :=
  put m.ueStats.len ++ m.ueStats.items.flatMap putMacUeStatsImpl ++ put m.tstamp

/-- How many they are. -/
def MacIndMsg.size (m : MacIndMsg) : Nat := 4 + 176 * m.ueStats.items.length + 8

theorem MacIndMsg.length_bytes (m : MacIndMsg) : m.bytes.length = m.size := by
  have hues : (m.ueStats.items.flatMap putMacUeStatsImpl).length = 176 * m.ueStats.items.length := by
    rw [List.length_flatMap]
    simp only [length_putMacUeStatsImpl, List.map_const', List.sum_replicate_nat]
    exact Nat.mul_comm ..
  rw [bytes, List.length_append, List.length_append, hues, length_put, length_put]
  rfl

theorem macEncIndMsgPlain_eq_ok {m : MacIndMsg} {buf : Bytes} :
    macEncIndMsgPlain m = .ok buf ↔ m.size < 4294967296 ∧ m.bytes = buf := by
  unfold macEncIndMsgPlain
  rw [show sizeof UInt32 + sizeofMacUeStatsImpl * m.ueStats.items.length + sizeof Int64 = m.size from rfl]
  generalize hlen : m.size % 4294967296 = len
  have hlt : len < 4294967296 := hlen ▸ Nat.mod_lt _ (by decide)
  simp only [Except.bind_eq_ok, write_eq_ok, require_eq_ok, Except.pure_eq, Except.ok.injEq, List.nil_append]
  constructor
  · rintro ⟨p₁, ⟨h₁, rfl⟩, p₂, h₂, p₃, ⟨-, rfl⟩, _, hend, rfl⟩
    obtain ⟨-, rfl⟩ := (foldlM_write_eq_ok h₁).mp h₂
    rw [← hend] at hlt
    exact ⟨m.length_bytes ▸ hlt, rfl⟩
  · rintro ⟨hsize, rfl⟩
    obtain rfl : len = m.bytes.length := by rw [m.length_bytes, ← hlen, Nat.mod_eq_of_lt hsize]
    have hall : m.bytes.length =
        (put m.ueStats.len).length + (m.ueStats.items.flatMap putMacUeStatsImpl).length + (put m.tstamp).length := by
      rw [MacIndMsg.bytes, List.length_append, List.length_append]
    have h₁ : (put m.ueStats.len).length ≤ m.bytes.length := by omega
    refine ⟨_, ⟨h₁, rfl⟩, _, (foldlM_write_eq_ok h₁).mpr ⟨?_, rfl⟩, _, ⟨Nat.le_refl _, rfl⟩, (), rfl, rfl⟩
    rw [List.length_append]
    omega

theorem macDecIndMsgPlain_bytes (m : MacIndMsg) : macDecIndMsgPlain m.bytes = .ok m :=
  Reads.whole (.of_eq ((fetchCounted_reads fun ue _ => reads_macUeStatsImpl ue).andThen (fetch_reads m.tstamp).last)
    rfl) _

/-- The message is encoded in as many bytes as its members have, and decoded to the same message. -/
def MacIndMsg.Carried (m : MacIndMsg) : Prop :=
  ∃ buf, macEncIndMsgPlain m = .ok buf ∧ buf.length = m.size ∧ macDecIndMsgPlain buf = .ok m

theorem MacIndMsg.carried_iff {m : MacIndMsg} : m.Carried ↔ m.ueStats.items.length ≤ 24403223 := by
  have hsize : m.size < 4294967296 ↔ m.ueStats.items.length ≤ 24403223 := by
    unfold MacIndMsg.size
    omega
  rw [← hsize]
  constructor
  · rintro ⟨buf, henc, -⟩
    exact (macEncIndMsgPlain_eq_ok.mp henc).1
  · intro h
    exact ⟨m.bytes, macEncIndMsgPlain_eq_ok.mpr ⟨h, rfl⟩, m.length_bytes, macDecIndMsgPlain_bytes m⟩

end Codec

/-! ### Comparison -/

/-- The statistics without the two noise ratios, and zeros without a sign. -/
def MacUeStatsImpl.counted (ue : MacUeStatsImpl) : MacUeStatsImpl :=
  { ue with puschSnr := ⟨0⟩, pucchSnr := ⟨0⟩, dlBler := ue.dlBler.unsigned, ulBler := ue.ulBler.unsigned }

/-- The error rates are numbers. -/
def MacUeStatsImpl.HasRates (ue : MacUeStatsImpl) : Prop := ue.dlBler.isNaN = false ∧ ue.ulBler.isNaN = false

/-- The first noise ratios are close, as far as `eq_float` can say. -/
def MacUeStatsImpl.Close (a b : MacUeStatsImpl) : Prop := Float4.eqFloat a.puschSnr b.puschSnr snrEps = .ok true

/-- No difference is found between two records. -/
structure MacUeStatsImpl.Alike (a b : MacUeStatsImpl) : Prop where
  counted : a.counted = b.counted
  rates : a.HasRates
  pusch : a.Close b
  pucch : a.pucchSnr.isNaN = false

/-- No difference is found between two records before a noise ratio that is not a number. -/
structure MacUeStatsImpl.NotANumber (a b : MacUeStatsImpl) : Prop where
  counted : a.counted = b.counted
  rates : a.HasRates
  snr : a.puschSnr.isNaN ∨ b.puschSnr.isNaN ∨ a.Close b ∧ a.pucchSnr.isNaN

/-- Two messages that the comparison is right about: none of the records before the first difference has a
noise ratio that is not a number, a message that is compared to itself has error rates that are numbers, and
the records of two messages without any difference that is found are the same. -/
structure MacIndMsg.Told (a b : MacIndMsg) : Prop where
  numbers : a.ueStats.items.length = b.ueStats.items.length → a.tstamp = b.tstamp →
    ¬FailsIn MacUeStatsImpl.Alike MacUeStatsImpl.NotANumber a.ueStats.items b.ueStats.items
  self : a = b → ∀ ue ∈ a.ueStats.items, ue.HasRates
  others : a.ueStats.items.length = b.ueStats.items.length → a.tstamp = b.tstamp →
    AlikeIn MacUeStatsImpl.Alike a.ueStats.items b.ueStats.items → a.ueStats = b.ueStats

section Comparison
variable {a b : MacUeStatsImpl}

theorem sameStats_iff : a.SameStats b ↔ a.counted = b.counted ∧ a.HasRates := by
  cases a
  cases b
  simp only [MacUeStatsImpl.SameStats, MacUeStatsImpl.counted, MacUeStatsImpl.HasRates, Float4.ceq_iff,
    MacUeStatsImpl.mk.injEq, true_and]
  tauto

theorem eqMacUeStatsImpl_tells (a b : MacUeStatsImpl) : Tells (eqMacUeStatsImpl a b) (a.Alike b) (a.NotANumber b) := by
  refine ((same_tells _).andThen (Float4.eqFloat_tells.both Float4.eqFloat_self_tells)).congr ?_ ?_
  · rw [sameStats_iff]
    exact ⟨fun ⟨⟨h₁, h₂⟩, h₃, h₄⟩ => ⟨h₁, h₂, h₃, h₄⟩, fun ⟨h₁, h₂, h₃, h₄⟩ => ⟨⟨h₁, h₂⟩, h₃, h₄⟩⟩
  · rw [sameStats_iff, or_assoc]
    exact ⟨fun ⟨⟨h₁, h₂⟩, h₃⟩ => ⟨h₁, h₂, h₃⟩, fun ⟨h₁, h₂, h₃⟩ => ⟨⟨h₁, h₂⟩, h₃⟩⟩

/-- A record with numbers only is like itself. -/
theorem alike_self (hrates : a.HasRates) (h : ¬a.NotANumber a) : a.Alike a := by
  have hpusch : a.puschSnr.isNaN = false := by
    by_contra hn
    exact h ⟨rfl, hrates, .inl (by simpa using hn)⟩
  have hclose : a.Close a := Float4.eqFloat_self hpusch
  refine ⟨rfl, hrates, hclose, ?_⟩
  by_contra hn
  exact h ⟨rfl, hrates, .inr (.inr ⟨hclose, by simpa using hn⟩)⟩

theorem alikeIn_self {ues : List MacUeStatsImpl} (hrates : ∀ ue ∈ ues, ue.HasRates)
    (h : ¬FailsIn MacUeStatsImpl.Alike MacUeStatsImpl.NotANumber ues ues) :
    AlikeIn MacUeStatsImpl.Alike ues ues := by
  induction ues with
  | nil => trivial
  | cons ue ues ih =>
    obtain ⟨hue, hues⟩ := List.forall_mem_cons.mp hrates
    have halike : ue.Alike ue := alike_self hue fun hn => h (.inl hn)
    exact ⟨halike, ih hues fun hn => h (.inr ⟨halike, hn⟩)⟩

theorem rates_of_alikeIn {as bs : List MacUeStatsImpl} (h : AlikeIn MacUeStatsImpl.Alike as bs) :
    ∀ ue ∈ as, ue.HasRates := by
  induction as generalizing bs with
  | nil => simp
  | cons a as ih =>
    cases bs with
    | nil => cases h
    | cons b bs => exact List.forall_mem_cons.mpr ⟨h.1.rates, ih h.2⟩

theorem eqMacIndMsg_says {a b : MacIndMsg} : Says (eqMacIndMsg a b) (a = b) ↔ a.Told b := by
  have hmsg : a = b ↔ a.ueStats = b.ueStats ∧ a.tstamp = b.tstamp := by
    cases a
    cases b
    rw [MacIndMsg.mk.injEq]
  have htells := (same_tells (a.ueStats.len = b.ueStats.len ∧ a.tstamp = b.tstamp)).andThen
    (eqArray_tells eqMacUeStatsImpl_tells a.ueStats.items b.ueStats.items)
  rw [eqMacIndMsg, htells.says_iff, Counted.len_eq_iff]
  constructor
  · rintro ⟨hfails, h⟩
    refine ⟨fun hlen ht hf => hfails ⟨⟨hlen, ht⟩, hf⟩, fun he => ?_, fun hlen ht hal => ?_⟩
    · exact rates_of_alikeIn (h.mpr he).2
    · exact (hmsg.mp (h.mp ⟨⟨hlen, ht⟩, hal⟩)).1
  · rintro ⟨hnumbers, hself, hothers⟩
    refine ⟨fun ⟨⟨hlen, ht⟩, hf⟩ => hnumbers hlen ht hf, fun ⟨⟨hlen, ht⟩, hal⟩ => ?_, fun he => ?_⟩
    · exact hmsg.mpr ⟨hothers hlen ht hal, ht⟩
    · subst he
      exact ⟨⟨rfl, rfl⟩, alikeIn_self (hself rfl) (hnumbers rfl rfl)⟩

/-- **An indication is carried if and only if it has at most 24403223 records, and two of them are compared as
they should be if and only if they are told apart.** -/
theorem macIndMsg_iff (m a b : MacIndMsg) :
    (m.Carried ↔ m.ueStats.items.length ≤ 24403223) ∧ (Says (eqMacIndMsg a b) (a = b) ↔ a.Told b) :=
  ⟨MacIndMsg.carried_iff, eqMacIndMsg_says⟩

end Comparison

/-- A record with nothing in it but the second noise ratio. -/
def onlyPucch (snr : UInt32) : MacUeStatsImpl where
  dlAggrTbs := 0
  ulAggrTbs := 0
  dlAggrBytesSdus := 0
  ulAggrBytesSdus := 0
  dlCurrTbs := 0
  ulCurrTbs := 0
  dlSchedRb := 0
  ulSchedRb := 0
  puschSnr := ⟨0⟩
  pucchSnr := ⟨snr⟩
  dlBler := ⟨0⟩
  ulBler := ⟨0⟩
  dlHarq := ⟨[0, 0, 0, 0, 0], rfl⟩
  ulHarq := ⟨[0, 0, 0, 0, 0], rfl⟩
  dlNumHarq := 0
  ulNumHarq := 0
  rnti := 0
  dlAggrPrb := 0
  ulAggrPrb := 0
  dlAggrSdus := 0
  ulAggrSdus := 0
  dlAggrRetxPrb := 0
  ulAggrRetxPrb := 0
  bsr := 0
  frame := 0
  slot := 0
  wbCqi := 0
  dlMcs1 := 0
  ulMcs1 := 0
  dlMcs2 := 0
  ulMcs2 := 0
  phr := 0

/-- The length of 24403224 records is too large, and noise ratios of 0 and of 2 compare equal. -/
theorem macIndMsg_not_right :
    (¬∀ m : MacIndMsg, m.Carried) ∧ ¬∀ a b : MacIndMsg, Says (eqMacIndMsg a b) (a = b) := by
  constructor
  · intro h
    have hlen : (List.replicate 24403224 (onlyPucch 0)).length < 4294967296 := by
      rw [List.length_replicate]
      decide
    have hle := MacIndMsg.carried_iff.mp (h ⟨⟨List.replicate 24403224 (onlyPucch 0), hlen⟩, 0⟩)
    rw [List.length_replicate] at hle
    exact absurd hle (by decide)
  · intro h
    obtain ⟨b, hb, hiff⟩ := h ⟨⟨[onlyPucch 0], by decide⟩, 0⟩ ⟨⟨[onlyPucch 0x40000000], by decide⟩, 0⟩
    have htrue : eqMacIndMsg ⟨⟨[onlyPucch 0], by decide⟩, 0⟩ ⟨⟨[onlyPucch 0x40000000], by decide⟩, 0⟩ = .ok true := by
      decide
    obtain rfl := Except.ok.inj (hb.symm.trans htrue)
    have hsnr := congrArg (fun m : MacIndMsg => m.ueStats.items.map (·.pucchSnr)) (hiff.mp rfl)
    exact absurd hsnr (by decide)

end FlexRic.Sm.Mac
