import Mathlib.Data.List.Nodup
import FlexRic.Lib.Carried
import FlexRic.Sm.Procedures
import FlexRic.Theorems.Agent.Process
import FlexRic.Theorems.Sm.Mac.Ind
import FlexRic.Theorems.Sm.Slice.Eq
import FlexRic.Theorems.Sm.Stats
import FlexRic.Theorems.Sm.Tc.CtrlUntrusted
import FlexRic.Theorems.Sm.Tc.Indication

/-! # What goes from one side of a service model to the other

A command becomes the timer of the subscription, what the RAN has read becomes the data of the indication, and the
request of an xApp is what the RAN is given. -/

namespace FlexRic.Sm
open Agent E2ap Gtp Mac Pdcp Plain Rlc Slice Tc

/-! ### Four bytes -/

theorem decWord_encWord (msg : String) (a : UInt32) : decWord msg (encWord a) = .ok a := by
  have hr := fetch_reads a [] (Nat.zero_le _)
  rw [List.append_nil] at hr
  rw [encWord, decWord, require_of (length_put a), Except.ok_bind, hr]
  rfl

theorem decTrigger_encWord (a : UInt32) : decTrigger (encWord a) = .ok a := by
  have hr := fetch_reads a [] (Nat.zero_le _)
  rw [List.append_nil] at hr
  rw [encWord, decTrigger, hr]
  rfl

/-! ### Subscriptions -/

/-- A text that is shorter than the limit is compared as a whole. -/
theorem sameTo_iff {n : Nat} {s t : List UInt8} (h : t.length < n) : SameTo n s t ↔ s = t := by
  rw [SameTo, List.take_of_length_le (Nat.le_of_lt h)]
  constructor
  · intro hs
    have hlen := congrArg List.length hs
    rw [List.length_take] at hlen
    rwa [List.take_of_length_le (by omega)] at hs
  · rintro rfl
    exact List.take_of_length_le (Nat.le_of_lt h)

/-- The commands are shorter than the limit, and no two are the same. Every timer that one asks for is periodic, and the
agent takes it. -/
theorem commands_law : (∀ c ∈ commands, c.1.length < 10) ∧ (commands.map Prod.fst).Nodup ∧
    ∀ c ∈ commands, 0 < c.2.toNat ∧ c.2.toNat ≤ 10000 := by
  decide +kernel

/-- A command is found as it was given. -/
theorem command_found {cmd : List UInt8} {c : List UInt8 × UInt32}
    (h : (commands.find? fun c => SameTo 10 cmd c.1) = some c) : c ∈ commands ∧ cmd = c.1 := by
  have hmem := List.mem_of_find?_eq_some h
  have hsame := List.find?_some h
  exact ⟨hmem, (sameTo_iff (commands_law.1 c hmem)).mp (of_decide_eq_true hsame)⟩

theorem commandMs_eq_ok {cmd : List UInt8} {ms : UInt32} : commandMs cmd = .ok ms ↔ (cmd, ms) ∈ commands := by
  unfold commandMs
  constructor
  · intro h
    split at h
    · next c hc =>
      obtain rfl := Except.ok.inj h
      obtain ⟨hmem, rfl⟩ := command_found hc
      exact hmem
    · cases h
  · intro hmem
    have hnodup := commands_law.2.1
    have hsome : (commands.find? fun c => SameTo 10 cmd c.1).isSome := by
      rw [List.find?_isSome]
      exact ⟨_, hmem, decide_eq_true rfl⟩
    obtain ⟨c, hc⟩ := Option.isSome_iff_exists.mp hsome
    obtain ⟨hmem', hfst⟩ := command_found hc
    rw [hc, ← List.inj_on_of_nodup_map hnodup hmem hmem' hfst]

/-! ### Indications -/

namespace Slice

/-- There is no size of slices without an algorithm. -/
theorem wellFormed_of_calUlDl {conf : UlDlSliceConf} {sz : Nat} (h : Enc.calUlDl conf = .ok sz) :
    ∀ slc ∈ conf.slices.items, slc.WellFormed := by
  intro slc hslc hnone
  obtain ⟨_, hcal, -⟩ := Except.bind_eq_ok.mp h
  obtain ⟨szs, hszs, -⟩ := Except.bind_eq_ok.mp hcal
  obtain ⟨_, hslice⟩ := Except.mapM_isOk_iff.mp ⟨szs, hszs⟩ slc hslc
  rw [Enc.calSlice, hnone] at hslice
  cases hslice

theorem wellFormed_of_calSliceConf {conf : SliceConf} {sz : Nat} (h : Enc.calSliceConf conf = .ok sz) : conf.WellFormed := by
  obtain ⟨_, hul, h⟩ := Except.bind_eq_ok.mp h
  obtain ⟨_, hdl, -⟩ := Except.bind_eq_ok.mp h
  exact ⟨wellFormed_of_calUlDl hdl, wellFormed_of_calUlDl hul⟩

theorem wellFormed_of_encIndMsg {indMsg : SliceIndMsg} {buf : Bytes} (h : sliceEncIndMsgPlain indMsg = .ok buf) :
    indMsg.WellFormed := by
  obtain ⟨_, hcal, -⟩ := Except.bind_eq_ok.mp h
  obtain ⟨_, hconf, -⟩ := Except.bind_eq_ok.mp hcal
  exact wellFormed_of_calSliceConf hconf

theorem wellFormed_of_encCtrlMsg {ctrlMsg : SliceCtrlMsg} {buf : Bytes} (h : sliceEncCtrlMsgPlain ctrlMsg = .ok buf) :
    ctrlMsg.WellFormed := by
  cases ctrlMsg with
  | add addModSlice =>
    obtain ⟨_, hcal, -⟩ := Except.bind_eq_ok.mp h
    obtain ⟨_, hconf, -⟩ := Except.bind_eq_ok.mp hcal
    exact wellFormed_of_calSliceConf hconf
  | del | ueSliceAssoc => trivial

theorem calSlice_le_calSlc {slc : List FrSlice} {sz : Nat} (h : Enc.calSlc slc = .ok sz) :
    ∀ s ∈ slc, ∃ n, Enc.calSlice s = .ok n ∧ n ≤ sz := by
  induction slc generalizing sz with
  | nil => nofun
  | cons a slc ih =>
    obtain ⟨szs, hszs, h⟩ := Except.bind_eq_ok.mp h
    rw [List.mapM_cons] at hszs
    obtain ⟨n, hn, hszs⟩ := Except.bind_eq_ok.mp hszs
    obtain ⟨ns, hns, hszs⟩ := Except.bind_eq_ok.mp hszs
    obtain rfl := Except.ok.inj hszs
    obtain rfl := Except.ok.inj h
    have hslc : Enc.calSlc slc = .ok ns.sum := by
      rw [Enc.calSlc, hns]
      rfl
    rintro s (_ | ⟨_, hs⟩)
    · exact ⟨n, hn, by rw [List.sum_cons]; omega⟩
    · obtain ⟨m, hm, hle⟩ := ih hslc s hs
      exact ⟨m, hm, by rw [List.sum_cons]; omega⟩

/-- The size of a message counts the bytes of its texts. -/
theorem length_text_le_calUlDl {conf : UlDlSliceConf} {sz : Nat} (h : Enc.calUlDl conf = .ok sz) :
    ∀ text ∈ conf.texts, text.items.length ≤ sz := by
  obtain ⟨szSlice, hslc, h⟩ := Except.bind_eq_ok.mp h
  obtain rfl := Except.ok.inj h
  intro text ht
  rcases List.mem_cons.mp ht with rfl | ht
  · omega
  · obtain ⟨slc, hmem, ht⟩ := List.mem_flatMap.mp ht
    obtain ⟨n, hn, hle⟩ := calSlice_le_calSlc hslc slc hmem
    obtain ⟨szPar, -, hn⟩ := Except.bind_eq_ok.mp hn
    obtain rfl := Except.ok.inj hn
    rcases List.mem_pair.mp ht with rfl | rfl <;> omega

theorem length_text_le_calCtrlMsg {ctrlMsg : SliceCtrlMsg} {sz : Nat} (h : Enc.calCtrlMsgPayload ctrlMsg = .ok sz) :
    ∀ text ∈ ctrlMsg.texts, text.items.length ≤ sz := by
  intro text ht
  cases ctrlMsg with
  | add conf =>
    obtain ⟨szConf, hconf, h⟩ := Except.bind_eq_ok.mp h
    obtain ⟨ul, hul, hconf⟩ := Except.bind_eq_ok.mp hconf
    obtain ⟨dl, hdl, hconf⟩ := Except.bind_eq_ok.mp hconf
    have hsz := Except.ok.inj h
    have hszConf := Except.ok.inj hconf
    rcases List.mem_append.mp ht with ht | ht
    · have := length_text_le_calUlDl hdl text ht
      omega
    · have := length_text_le_calUlDl hul text ht
      omega
  | del | ueSliceAssoc => cases ht

end Slice

section Indications
variable {io : SmIoAgRan} {sm : SmAgent} {actDef : Nat} {data : SmIndData}

theorem onIndicationSmAg_eq_ok {μ : Type} {encIndHdr : UInt32 → Bytes} {encIndMsg : μ → Except String Bytes}
    {notNeeded : String} {msg : μ} : onIndicationSmAg encIndHdr encIndMsg notNeeded msg actDef = .ok data ↔
      actDef = 0 ∧ ∃ indMsg, encIndMsg msg = .ok indMsg ∧ data = ⟨encIndHdr 0, indMsg, none⟩ := by
  unfold onIndicationSmAg
  constructor
  · intro h
    obtain ⟨_, hact, h⟩ := Except.bind_eq_ok.mp h
    obtain ⟨indMsg, henc, h⟩ := Except.bind_eq_ok.mp h
    exact ⟨require_eq_ok.mp hact, indMsg, henc, (Except.ok.inj h).symm⟩
  · rintro ⟨hact, indMsg, henc, rfl⟩
    rw [require_of hact, Except.ok_bind, henc]
    rfl

/-- The data that the other side makes of an indication, by the identifiers of the service models -/
def received (io : SmIoAgRan) : List (Nat × RdInd) :=
  [(smMacId, .mac ⟨0, io.mac, none⟩), (smRlcId, .rlc ⟨0, io.rlc.ret .null, none⟩),
   (smPdcpId, .pdcp ⟨0, io.pdcp.ret .undefined, none⟩), (smSliceId, .slice ⟨0, io.slice, none⟩),
   (smTcId, .tc ⟨0, io.tc.received, none⟩), (smGtpId, .gtp ⟨0, io.gtp.ret .null, none⟩)]

theorem mac_received {m : MacIndMsg} (h : onIndicationMacSmAg m actDef = .ok data) :
    onIndicationMacSmRic data = .ok (.mac ⟨0, m, none⟩) := by
  obtain ⟨-, indMsg, henc, rfl⟩ := (onIndicationSmAg_eq_ok).mp h
  obtain ⟨-, rfl⟩ := macEncIndMsgPlain_eq_ok.mp henc
  have hhdr : macDecIndHdrPlain (macEncIndHdrPlain 0) = .ok 0 := decWord_encWord _ 0
  simp only [onIndicationMacSmRic, hhdr, macDecIndMsgPlain_bytes, Except.ok_bind, require_true, Except.pure_eq]

/-- What a decoder of statistics makes of the bytes, once it has made sure of `C` -/
theorem decStats_bytes {α : Type} {size : Nat} {record : Reader α} {enc : α → Bytes} {initial : Pointer α} {C : Prop}
    [Decidable C] {m : StatsMsg α} (h : Copies record (fun _ => True) size enc) (hC : C) (msg msg' : String) :
    (do
      require C msg
      (decStatsMsg granted initial size record).whole msg' (m.bytes enc)) = .ok (m.ret initial) := by
  rw [require_of hC, Except.ok_bind]
  exact (decStatsMsg_reads h initial m).whole _

theorem rlc_received {m : RlcIndMsg} (h : onIndicationRlcSmAg m actDef = .ok data) :
    onIndicationRlcSmRic data = .ok (.rlc ⟨0, m.ret .null, none⟩) := by
  obtain ⟨-, indMsg, henc, rfl⟩ := (onIndicationSmAg_eq_ok).mp h
  obtain rfl := Except.ok.inj ((encStatsMsg_eq Rlc.rb_copies rfl (by decide)).symm.trans henc)
  have hlong : nextPow2 (UInt64.ofNat (m.bytes putRlcRadioBearerStats).length) ≥ sizeofRlcIndMsg :=
    sixteen_le_nextPow2_bytes Rlc.rb_copies m (by decide)
  have hmsg : rlcDecIndMsgPlain granted (m.bytes putRlcRadioBearerStats) = .ok (m.ret .null) :=
    decStats_bytes Rlc.rb_copies hlong _ _
  have hhdr : rlcDecIndHdrPlain (rlcEncIndHdrPlain 0) = .ok 0 := decWord_encWord _ 0
  simp only [onIndicationRlcSmRic, hhdr, hmsg, Except.ok_bind, require_true, Except.pure_eq]

theorem pdcp_received {m : PdcpIndMsg} (h : onIndicationPdcpSmAg m actDef = .ok data) :
    onIndicationPdcpSmRic data = .ok (.pdcp ⟨0, m.ret .undefined, none⟩) := by
  obtain ⟨-, indMsg, henc, rfl⟩ := (onIndicationSmAg_eq_ok).mp h
  have hsize : sizeof UInt32 + sizeof Int64 + sizeofPdcpRadioBearerStats * m.records.items.length =
      m.size sizeofPdcpRadioBearerStats := Nat.add_right_comm ..
  obtain rfl := Except.ok.inj ((encStatsMsg_eq Pdcp.rb_copies hsize (by decide)).symm.trans henc)
  have hlong : (m.bytes putPdcpRadioBearerStats).length ≥ sizeof UInt32 + sizeof Int64 := by
    rw [m.length_bytes Pdcp.rb_copies, ← hsize]
    exact Nat.le_add_right ..
  have hmsg : pdcpDecIndMsgPlain granted (m.bytes putPdcpRadioBearerStats) = .ok (m.ret .undefined) :=
    decStats_bytes Pdcp.rb_copies hlong _ _
  have hhdr : pdcpDecIndHdrPlain (pdcpEncIndHdrPlain 0) = .ok 0 := decWord_encWord _ 0
  simp only [onIndicationPdcpSmRic, hhdr, hmsg, Except.ok_bind, Except.pure_eq]

theorem gtp_received {m : GtpIndMsg} (h : onIndicationGtpSmAg m actDef = .ok data) :
    onIndicationGtpSmRic data = .ok (.gtp ⟨0, m.ret .null, none⟩) := by
  obtain ⟨-, indMsg, henc, rfl⟩ := (onIndicationSmAg_eq_ok).mp h
  obtain rfl := Except.ok.inj ((encStatsMsg_eq ngut_copies rfl (by decide)).symm.trans henc)
  have hlong : nextPow2 (UInt64.ofNat (m.bytes putGtpNguTStats).length) ≥ sizeofGtpIndMsg :=
    sixteen_le_nextPow2_bytes ngut_copies m (by decide)
  have hmsg : gtpDecIndMsgPlain granted (m.bytes putGtpNguTStats) = .ok (m.ret .null) :=
    decStats_bytes ngut_copies hlong _ _
  have hhdr : gtpDecIndHdrPlain (gtpEncIndHdrPlain 0) = .ok 0 := decWord_encWord _ 0
  simp only [onIndicationGtpSmRic, hhdr, hmsg, Except.ok_bind, Except.pure_eq]

theorem slice_received {m : SliceIndMsg} (h : onIndicationSliceSmAg m actDef = .ok data) {rd : RdInd} :
    onIndicationSliceSmRic data = .ok rd ↔
      rd = .slice ⟨0, m, none⟩ ∧ ∀ text ∈ m.texts, text.items.length < 4294967295 := by
  obtain ⟨-, indMsg, henc, rfl⟩ := (onIndicationSmAg_eq_ok).mp h
  obtain ⟨buf, hbuf, -, hdec⟩ := sliceDecIndMsg_sliceEncIndMsg (wellFormed_of_encIndMsg henc)
  obtain rfl := Except.ok.inj (hbuf.symm.trans henc)
  constructor
  · intro hrd
    obtain ⟨m', hm, hrd⟩ := Except.bind_eq_ok.mp hrd
    obtain ⟨rfl, htexts⟩ := (hdec m').mp hm
    exact ⟨(Except.ok.inj hrd).symm, htexts⟩
  · rintro ⟨rfl, htexts⟩
    simp only [onIndicationSliceSmRic, (hdec m).mpr ⟨rfl, htexts⟩, Except.ok_bind, Except.pure_eq]

theorem tc_received {m : TcIndMsg} (h : onIndicationTcSmAg m actDef = .ok data) :
    onIndicationTcSmRic data = .ok (.tc ⟨0, m.received, none⟩) := by
  obtain ⟨-, indMsg, henc, rfl⟩ := (onIndicationSmAg_eq_ok).mp h
  obtain rfl := Except.ok.inj ((tcEncIndMsgPlain_eq m).symm.trans henc)
  simp only [onIndicationTcSmRic, tcDecIndMsgPlain_tcEncIndMsg, Except.ok_bind, Except.pure_eq]

/-- The service model of an agent is one of the six. -/
theorem smAg_eq_ok {ag : SmAg} (h : smAg io sm = .ok ag) : ag ∈ smAgs io ∧ ag.id = sm.id := by
  unfold smAg at h
  split at h
  · cases h
  · next ag' hag =>
    obtain rfl := Except.ok.inj h
    have hid := List.find?_some hag
    exact ⟨List.mem_of_find?_eq_some hag, of_decide_eq_true hid⟩

theorem received_unique {k : Nat} {rd rd' : RdInd} (h : (k, rd) ∈ received io) (h' : (k, rd') ∈ received io) : rd = rd' := by
  have hnodup : ((received io).map Prod.fst).Nodup :=
    show [smMacId, smRlcId, smPdcpId, smSliceId, smTcId, smGtpId].Nodup by decide
  exact congrArg Prod.snd (List.inj_on_of_nodup_map hnodup h h' rfl)

/-- No block of a text of a slice message is too small for it. -/
def Decoded (io : SmIoAgRan) (k : Nat) : Prop :=
  k = smSliceId → ∀ text ∈ io.slice.texts, text.items.length < 4294967295

/-- What an agent sends is received as it was read, unless the decoder of slices writes past the end of a block. -/
theorem received_of_indication (h : onIndicationAg io sm actDef = .ok data) {rd : RdInd} :
    onIndicationRic sm.id data = .ok rd ↔ (sm.id, rd) ∈ received io ∧ Decoded io sm.id := by
  obtain ⟨ag, hag, h⟩ := Except.bind_eq_ok.mp h
  obtain ⟨hmem, hid⟩ := smAg_eq_ok hag
  -- The service models but that of slices always decode.
  have hother {k : Nat} {rd₀ : RdInd} (hric : onIndicationRic k data = .ok rd₀) (hk : k ≠ smSliceId)
      (hmem₀ : (k, rd₀) ∈ received io) :
      onIndicationRic k data = .ok rd ↔ (k, rd) ∈ received io ∧ Decoded io k := by
    rw [hric, Except.ok.injEq]
    constructor
    · rintro rfl
      exact ⟨hmem₀, fun h => absurd h hk⟩
    · rintro ⟨hrd, -⟩
      exact received_unique hmem₀ hrd
  rw [← hid]
  simp only [smAgs, List.mem_cons, List.not_mem_nil, or_false] at hmem
  rcases hmem with rfl | rfl | rfl | rfl | rfl | rfl
  · exact hother (mac_received h) (show smMacId ≠ smSliceId by decide) (by simp [received])
  · exact hother (rlc_received h) (show smRlcId ≠ smSliceId by decide) (by simp [received])
  · exact hother (pdcp_received h) (show smPdcpId ≠ smSliceId by decide) (by simp [received])
  · refine (slice_received h).trans (and_congr ⟨?_, fun hrd => ?_⟩ (imp_iff_right rfl).symm)
    · rintro rfl
      simp [received]
    · exact received_unique hrd (by simp [received])
  · exact hother (tc_received h) (show smTcId ≠ smSliceId by decide) (by simp [received])
  · exact hother (gtp_received h) (show smGtpId ≠ smSliceId by decide) (by simp [received])

/-- Every member of the data is defined, and is what the RAN has read. -/
def RdInd.Holds (io : SmIoAgRan) : RdInd → Prop
  | .mac ind => ind.msg = io.mac
  | .rlc ind => ind.msg.Holds io.rlc
  | .pdcp ind => ind.msg.Holds io.pdcp
  | .slice ind => ind.msg = io.slice
  | .tc ind => ind.msg = io.tc
  | .gtp ind => ind.msg.Holds io.gtp

theorem holds_iff_of_received {k : Nat} {rd : RdInd} (h : (k, rd) ∈ received io) :
    rd.Holds io ↔ (k = smPdcpId → io.pdcp.records.items ≠ []) ∧ (k = smTcId → io.tc.NoIds) := by
  simp only [received, List.mem_cons, List.not_mem_nil, or_false, Prod.mk.injEq] at h
  rcases h with ⟨rfl, rfl⟩ | ⟨rfl, rfl⟩ | ⟨rfl, rfl⟩ | ⟨rfl, rfl⟩ | ⟨rfl, rfl⟩ | ⟨rfl, rfl⟩
  · simp [RdInd.Holds, smMacId, smPdcpId, smTcId]
  · simp [RdInd.Holds, smRlcId, smPdcpId, smTcId, StatsMsg.ret_null_holds]
  · simp [RdInd.Holds, smPdcpId, smTcId, StatsMsg.ret_undefined_holds]
  · simp [RdInd.Holds, smSliceId, smPdcpId, smTcId]
  · simp [RdInd.Holds, smPdcpId, smTcId, TcIndMsg.received_eq_iff]
  · simp [RdInd.Holds, smGtpId, smPdcpId, smTcId, StatsMsg.ret_null_holds]

/-- An agent has the service models that there are data of. -/
theorem smAg_isOk_iff : (∃ ag, smAg io sm = .ok ag) ↔ sm.id ∈ (received io).map Prod.fst := by
  have hids : (received io).map Prod.fst = (smAgs io).map SmAg.id := rfl
  constructor
  · rintro ⟨ag, h⟩
    obtain ⟨hmem, hid⟩ := smAg_eq_ok h
    rw [hids, ← hid]
    exact List.mem_map_of_mem hmem
  · intro h
    obtain ⟨ag, hmem, hid⟩ := List.mem_map.mp (hids ▸ h)
    have hsome : ((smAgs io).find? (·.id = sm.id)).isSome := by
      rw [List.find?_isSome]
      exact ⟨ag, hmem, decide_eq_true hid⟩
    obtain ⟨ag', hag⟩ := Option.isSome_iff_exists.mp hsome
    refine ⟨ag', ?_⟩
    rw [smAg, hag]

/-- The length of a chunk with a MAC message has 32 bits, and a slice has an algorithm. -/
def Encoded (io : SmIoAgRan) (k : Nat) : Prop :=
  (k = smMacId → io.mac.ueStats.items.length ≤ 24403223) ∧ (k = smSliceId → io.slice.WellFormed)

theorem onIndication_isOk_iff {ag : SmAg} (h : ag ∈ smAgs io) :
    (∃ data, ag.onIndication actDef = .ok data) ↔ actDef = 0 ∧ Encoded io ag.id := by
  have hall {μ : Type} {encIndHdr : UInt32 → Bytes} {encIndMsg : μ → Except String Bytes} {notNeeded : String} {msg : μ} :
      (∃ data, onIndicationSmAg encIndHdr encIndMsg notNeeded msg actDef = .ok data) ↔
        actDef = 0 ∧ ∃ indMsg, encIndMsg msg = .ok indMsg := by
    constructor
    · rintro ⟨data, h⟩
      obtain ⟨hact, indMsg, henc, -⟩ := (onIndicationSmAg_eq_ok).mp h
      exact ⟨hact, indMsg, henc⟩
    · rintro ⟨hact, indMsg, henc⟩
      exact ⟨_, (onIndicationSmAg_eq_ok).mpr ⟨hact, indMsg, henc, rfl⟩⟩
  simp only [smAgs, List.mem_cons, List.not_mem_nil, or_false] at h
  rcases h with rfl | rfl | rfl | rfl | rfl | rfl
  · refine hall.trans (and_congr_right fun _ => ?_)
    rw [Encoded, and_iff_left (by simp [smMacId, smSliceId]), imp_iff_right rfl, ← MacIndMsg.carried_iff]
    constructor
    · rintro ⟨buf, henc⟩
      obtain ⟨-, rfl⟩ := macEncIndMsgPlain_eq_ok.mp henc
      exact ⟨_, henc, io.mac.length_bytes, macDecIndMsgPlain_bytes io.mac⟩
    · rintro ⟨buf, henc, -⟩
      exact ⟨buf, henc⟩
  · obtain ⟨buf, -, henc, -⟩ := rlc_carried io.rlc
    refine hall.trans (and_congr_right fun _ => iff_of_true ⟨buf, henc⟩ ?_)
    simp [Encoded, smRlcId, smMacId, smSliceId]
  · have hsize : sizeof UInt32 + sizeof Int64 + sizeofPdcpRadioBearerStats * io.pdcp.records.items.length =
        io.pdcp.size sizeofPdcpRadioBearerStats := Nat.add_right_comm ..
    refine hall.trans (and_congr_right fun _ => iff_of_true ⟨_, encStatsMsg_eq Pdcp.rb_copies hsize (by decide)⟩ ?_)
    simp [Encoded, smPdcpId, smMacId, smSliceId]
  · refine hall.trans (and_congr_right fun _ => ?_)
    rw [Encoded, and_iff_right (by simp [smMacId, smSliceId]), imp_iff_right rfl]
    constructor
    · rintro ⟨buf, henc⟩
      exact wellFormed_of_encIndMsg henc
    · intro hwf
      obtain ⟨buf, henc, -⟩ := sliceDecIndMsg_sliceEncIndMsg hwf
      exact ⟨buf, henc⟩
  · refine hall.trans (and_congr_right fun _ => iff_of_true ⟨_, tcEncIndMsgPlain_eq io.tc⟩ ?_)
    simp [Encoded, smTcId, smMacId, smSliceId]
  · obtain ⟨buf, -, henc, -⟩ := gtp_carried io.gtp
    refine hall.trans (and_congr_right fun _ => iff_of_true ⟨buf, henc⟩ ?_)
    simp [Encoded, smGtpId, smMacId, smSliceId]

theorem onIndicationAg_isOk_iff : (∃ data, onIndicationAg io sm actDef = .ok data) ↔
    sm.id ∈ (received io).map Prod.fst ∧ actDef = 0 ∧ Encoded io sm.id := by
  rw [← smAg_isOk_iff]
  constructor
  · rintro ⟨data, h⟩
    obtain ⟨ag, hag, h⟩ := Except.bind_eq_ok.mp h
    obtain ⟨hmem, hid⟩ := smAg_eq_ok hag
    exact ⟨⟨ag, hag⟩, hid ▸ (onIndication_isOk_iff hmem).mp ⟨data, h⟩⟩
  · rintro ⟨⟨ag, hag⟩, h⟩
    obtain ⟨hmem, hid⟩ := smAg_eq_ok hag
    obtain ⟨data, hdata⟩ := (onIndication_isOk_iff hmem).mpr (hid ▸ h)
    exact ⟨data, Except.bind_eq_ok.mpr ⟨ag, hag, hdata⟩⟩

/-- Of the six service models, an agent sends what the RAN has read unless a chunk gets too long or a slice is without an
algorithm. It is received unless a text of a slice message has no block; and what is received is the data of that service
model as the RAN has read it, but for the array of a PDCP message that has no radio bearers, and the identifiers that a
message of traffic control does not carry. -/
theorem indication_received (io : SmIoAgRan) (sm : SmAgent) (actDef : Nat) :
    ((∃ data, onIndicationAg io sm actDef = .ok data) ↔
      sm.id ∈ (received io).map Prod.fst ∧ actDef = 0 ∧ Encoded io sm.id) ∧
    ∀ data, onIndicationAg io sm actDef = .ok data →
      ((∃ rd, onIndicationRic sm.id data = .ok rd) ↔ Decoded io sm.id) ∧
      ∀ rd, onIndicationRic sm.id data = .ok rd → (sm.id, rd) ∈ received io ∧
        (rd.Holds io ↔ (sm.id = smPdcpId → io.pdcp.records.items ≠ []) ∧ (sm.id = smTcId → io.tc.NoIds)) := by
  refine ⟨onIndicationAg_isOk_iff, fun data h => ⟨⟨?_, fun hdec => ?_⟩, fun rd hrd => ?_⟩⟩
  · rintro ⟨rd, hrd⟩
    exact ((received_of_indication h).mp hrd).2
  · obtain ⟨⟨_, rd⟩, hmem, hfst⟩ := List.mem_map.mp (onIndicationAg_isOk_iff.mp ⟨data, h⟩).1
    exact ⟨rd, (received_of_indication h).mpr ⟨hfst ▸ hmem, hdec⟩⟩
  · have hmem := ((received_of_indication h).mp hrd).1
    exact ⟨hmem, holds_iff_of_received hmem⟩

end Indications

/-! ### Subscriptions of the six service models -/

section Subscriptions
variable {io : SmIoAgRan} {ag ag' : E2Agent} {sm : SmAgent} {ric : SmRic} {ricId : RicGenId} {cmd : List UInt8} {k fd : Nat}
  {t : SubscribeTimer} {ans : RicSubscriptionResponse} {sr : RicSubscriptionRequest}

theorem onSubscription_of_smRics (h : ric ∈ smRics) : ric.onSubscription = onSubscriptionSmRic encWord := by
  simp only [smRics, List.mem_cons, List.not_mem_nil, or_false] at h
  rcases h with rfl | rfl | rfl | rfl | rfl | rfl <;> rfl

theorem onSubscription_of_smAgs {a : SmAg} (h : a ∈ smAgs io) : a.onSubscription = onSubscriptionSmAg decTrigger := by
  simp only [smAgs, List.mem_cons, List.not_mem_nil, or_false] at h
  rcases h with rfl | rfl | rfl | rfl | rfl | rfl <;> rfl

theorem smPluginRic_eq_ok (h : smPluginRic k = .ok ric) : ric ∈ smRics ∧ ric.ranFuncId = k := by
  unfold smPluginRic at h
  split at h
  · cases h
  · split at h
    · cases h
    · next ric' hric =>
      obtain rfl := Except.ok.inj h
      have hid := List.find?_some hric
      exact ⟨List.mem_of_find?_eq_some hric, of_decide_eq_true hid⟩

/-- A request is generated for the commands that are known. -/
theorem generateSubscriptionRequest_eq_ok (h : ric ∈ smRics) : generateSubscriptionRequest ricId ric cmd = .ok sr ↔
    ∃ ms, (cmd, ms) ∈ commands ∧ sr = ⟨ricId, encWord ms, [⟨0, .report, none, none⟩]⟩ := by
  rw [generateSubscriptionRequest, onSubscription_of_smRics h]
  constructor
  · intro hsr
    obtain ⟨data, hdata, hsr⟩ := Except.bind_eq_ok.mp hsr
    obtain ⟨ms, hms, hdata⟩ := Except.bind_eq_ok.mp hdata
    obtain rfl := Except.ok.inj hdata
    obtain ⟨_, -, hsr⟩ := Except.bind_eq_ok.mp hsr
    exact ⟨ms, (commandMs_eq_ok).mp hms, (Except.ok.inj hsr).symm⟩
  · rintro ⟨ms, hms, rfl⟩
    rw [onSubscriptionSmRic, (commandMs_eq_ok).mpr hms]
    rfl

/-- What the agent does with a request that a command was generated for -/
theorem handleSubscriptionRequestSm_eq (hag : smPluginAg ag.plugin ricId.ranFuncId = .ok sm)
    (hsm : sm.id ∈ (received io).map Prod.fst) {ms : UInt32} (hms : (cmd, ms) ∈ commands) :
    handleSubscriptionRequestSm io ag ⟨ricId, encWord ms, [⟨0, .report, none, none⟩]⟩ fd =
      .ok (⟨ms.toNat, 0⟩, { ag with io := fd :: ag.io, indEvent := ag.indEvent.insert fd ⟨ricId, some sm, 0, 0⟩ },
        generateSubscriptionResponse ricId 0) := by
  obtain ⟨a, ha⟩ := (smAg_isOk_iff).mpr hsm
  obtain ⟨hpos, hle⟩ := commands_law.2.2 _ hms
  dsimp only at hpos hle
  have hact : supportedRicSubscriptionRequest ⟨ricId, encWord ms, [⟨0, .report, none, none⟩]⟩ = .ok ⟨0, .report, none, none⟩ :=
    rfl
  have ht : a.onSubscription (generateSmSubsData ⟨ricId, encWord ms, [⟨0, .report, none, none⟩]⟩) = .ok ⟨ms.toNat, 0⟩ := by
    rw [onSubscription_of_smAgs (smAg_eq_ok ha).1, onSubscriptionSmAg, generateSmSubsData, decTrigger_encWord]
    rfl
  have h₁ : -2 < (ms.toNat : Int) := by omega
  have h₂ : 0 < (ms.toNat : Int) := by omega
  have h₃ : (ms.toNat : Int) < 10001 := by omega
  simp only [handleSubscriptionRequestSm, E2Agent.handleSubscriptionRequest, hact, hag, ha, ht, Except.ok_bind, h₁, h₂, h₃,
    not_true_eq_false, if_false, if_true, Except.pure_eq]

/-- **When both sides of the service model are loaded: a subscription is started for the six commands, and for no other;
the timer has the milliseconds of the command, and the agent has a periodic event.** -/
theorem subscription_started_iff (hag : smPluginAg ag.plugin ricId.ranFuncId = .ok sm)
    (hric : smPluginRic ricId.ranFuncId = .ok ric) :
    (generateSubscriptionRequest ricId ric cmd >>= fun sr => handleSubscriptionRequestSm io ag sr fd) = .ok (t, ag', ans) ↔
      ∃ ms, (cmd, ms) ∈ commands ∧ t = ⟨ms.toNat, 0⟩ ∧ ans = generateSubscriptionResponse ricId 0 ∧
        ag' = { ag with io := fd :: ag.io, indEvent := ag.indEvent.insert fd ⟨ricId, some sm, 0, 0⟩ } := by
  obtain ⟨hmem, hid⟩ := smPluginRic_eq_ok hric
  have hsm : sm.id ∈ (received io).map Prod.fst := by
    rw [smPluginAg_id hag, ← hid]
    exact List.mem_map_of_mem (f := SmRic.ranFuncId) hmem
  constructor
  · intro h
    obtain ⟨sr, hsr, hout⟩ := Except.bind_eq_ok.mp h
    obtain ⟨ms, hms, rfl⟩ := (generateSubscriptionRequest_eq_ok hmem).mp hsr
    rw [handleSubscriptionRequestSm_eq hag hsm hms] at hout
    obtain ⟨ht, hrest⟩ := Prod.mk.inj (Except.ok.inj hout)
    obtain ⟨hag', hans⟩ := Prod.mk.inj hrest
    exact ⟨ms, hms, ht.symm, hans.symm, hag'.symm⟩
  · rintro ⟨ms, hms, rfl, rfl, rfl⟩
    rw [(generateSubscriptionRequest_eq_ok hmem).mpr ⟨ms, hms, rfl⟩, Except.ok_bind]
    exact handleSubscriptionRequestSm_eq hag hsm hms

/-- A RAN with nothing to report, that does as it is told -/
def quietRan : SmIoAgRan where
  mac := ⟨.empty, 7⟩
  rlc := ⟨.empty, 7⟩
  pdcp := ⟨.empty, 7⟩
  slice := ⟨⟨⟨.empty, .empty⟩, ⟨.empty, .empty⟩⟩, ⟨.empty⟩, 7⟩
  tc := ⟨.rr 0, ⟨0, 0, ⟨0, ⟨0⟩⟩⟩, .rr 0, .empty, 7⟩
  gtp := ⟨.empty, 7⟩
  macCtrl _ := .ctrlOutcome (.mac 0)
  rlcCtrl _ := .ctrlOutcome (.rlc 0)
  pdcpCtrl _ := .ctrlOutcome (.pdcp 0)
  sliceCtrl _ := .none_
  tcCtrl _ := .ctrlOutcome (.tc 0)
  gtpCtrl _ := .ctrlOutcome (.gtp 0)

/-- An agent with the MAC service model, as it is started -/
def macAgent : E2Agent := .init (loadPluginAg .init ⟨smMacId, false⟩) [3, 4]

theorem subscription_started_mac :
    (generateSubscriptionRequest ⟨1, 0, smMacId⟩ ⟨smMacId, onSubscriptionMacSmRic, onIndicationMacSmRic⟩ (ascii "10_ms") >>=
      fun sr => handleSubscriptionRequestSm quietRan macAgent sr 5) =
    .ok (⟨10, 0⟩, { macAgent with
        io := [5, 3, 4]
        indEvent := .insert .init 5 ⟨⟨1, 0, smMacId⟩, some ⟨smMacId, false⟩, 0, 0⟩ },
      ⟨⟨1, 0, smMacId⟩, [0], []⟩) :=
  (subscription_started_iff rfl rfl).mpr ⟨10, by simp [commands], rfl, rfl, rfl⟩

end Subscriptions

/-! ### Control -/

section Control
variable {μ ω : Type} {req r : CtrlReqData μ} {out : Bytes} {io : SmIoAgRan}

/-- A request of an xApp, as the agent handles it: what the RAN is given, and the outcome -/
def controlled (ric : CtrlReqData μ → Except String SmCtrlReqData)
    (ag : SmCtrlReqData → Except String (CtrlReqData μ × Bytes)) (req : CtrlReqData μ) :
    Except String (CtrlReqData μ × Bytes) := do
  let data ← ric req
  let data ← generateRicControlRequest data
  ag data

theorem generateRicControlRequest_eq_ok {data data' : SmCtrlReqData} : generateRicControlRequest data = .ok data' ↔
    data.ctrlHdr.length < 2049 ∧ data.ctrlMsg.length < 2049 ∧ data' = data := by
  rw [generateRicControlRequest, eq_comm (a := data')]
  simp only [Except.bind_eq_ok, require_eq_ok, exists_const, Except.pure_eq, Except.ok.injEq]

namespace AnsCtrl
variable {c : AnsCtrl} {a : UInt32} {o : SliceCtrlOut}

theorem mac?_eq_some : c.mac? = some a ↔ c = .mac a := by cases c <;> simp [mac?]
theorem pdcp?_eq_some : c.pdcp? = some a ↔ c = .pdcp a := by cases c <;> simp [pdcp?]
theorem slice?_eq_some : c.slice? = some o ↔ c = .slice o := by cases c <;> simp [slice?]
theorem tc?_eq_some : c.tc? = some a ↔ c = .tc a := by cases c <;> simp [tc?]

end AnsCtrl

theorem ctrlOutcome_eq_ok {own : AnsCtrl → Option ω} {type : String} {ans : Ans} {o : ω} :
    ctrlOutcome own type ans = .ok o ↔ ∃ c, ans = .ctrlOutcome c ∧ own c = some o := by
  cases ans with
  | none_ => simp [ctrlOutcome]
  | ctrlOutcome c => cases hc : own c <;> simp [ctrlOutcome, hc]

/-- A request that is encoded, whose message is decoded again -/
theorem controlled_iff {decCtrlHdr : Bytes → Except String UInt32} {encCtrlMsg : μ → Except String Bytes}
    {decCtrlMsg : Bytes → Except String μ} {encCtrlOut : ω → Except String Bytes} {own : AnsCtrl → Option ω}
    {type : String} {writeCtrl : CtrlReqData μ → Ans} (hhdr : ∀ a, decCtrlHdr (encWord a) = .ok a)
    (hmsg : ∀ msg buf, encCtrlMsg msg = .ok buf → buf.length ≤ 2048 → decCtrlMsg buf = .ok msg) :
    controlled (onControlReqSmRic encWord encCtrlMsg) (onControlSmAg decCtrlHdr decCtrlMsg encCtrlOut own type writeCtrl)
      req = .ok (r, out) ↔
    r = req ∧ (∃ buf, encCtrlMsg req.msg = .ok buf ∧ buf.length ≤ 2048) ∧
      ∃ c o, writeCtrl req = .ctrlOutcome c ∧ own c = some o ∧ encCtrlOut o = .ok out := by
  constructor
  · intro h
    obtain ⟨data, hdata, h⟩ := Except.bind_eq_ok.mp h
    obtain ⟨buf, hbuf, hdata⟩ := Except.bind_eq_ok.mp hdata
    obtain rfl := Except.ok.inj hdata
    obtain ⟨data, hdata, h⟩ := Except.bind_eq_ok.mp h
    obtain ⟨-, hlen, rfl⟩ := (generateRicControlRequest_eq_ok).mp hdata
    simp only [onControlSmAg, hhdr, hmsg _ _ hbuf (Nat.le_of_lt_succ hlen), Except.ok_bind] at h
    obtain ⟨o, ho, h⟩ := Except.bind_eq_ok.mp h
    obtain ⟨c, hc, hown⟩ := (ctrlOutcome_eq_ok).mp ho
    obtain ⟨out', hout, h⟩ := Except.bind_eq_ok.mp h
    obtain ⟨rfl, rfl⟩ := Prod.mk.inj (Except.ok.inj h)
    exact ⟨rfl, ⟨buf, hbuf, Nat.le_of_lt_succ hlen⟩, c, o, hc, hown, hout⟩
  · rintro ⟨rfl, ⟨buf, hbuf, hlen⟩, c, o, hc, hown, hout⟩
    have hgen : generateRicControlRequest ⟨encWord r.hdr, buf⟩ = .ok ⟨encWord r.hdr, buf⟩ :=
      (generateRicControlRequest_eq_ok).mpr ⟨(length_put r.hdr).trans_lt (by decide), Nat.lt_succ_of_le hlen, rfl⟩
    have hans : ctrlOutcome own type (writeCtrl r) = .ok o := (ctrlOutcome_eq_ok).mpr ⟨c, hc, hown⟩
    simp only [controlled, onControlReqSmRic, hbuf, Except.ok_bind, Except.pure_eq, hgen, onControlSmAg, hhdr,
      hmsg _ _ hbuf hlen, hans, hout]

/-- A request of four bytes, of which one is supported -/
theorem decCtrlOnly_encWord {msg msg' : String} {req r : CtrlReqData UInt32} :
    decCtrlOnly (decWord msg) (decWord msg') ⟨encWord req.hdr, encWord req.msg⟩ = .ok r ↔ r = req ∧ req = ⟨0, 42⟩ := by
  obtain ⟨hdr, action⟩ := req
  rw [eq_comm (a := r)]
  simp only [decCtrlOnly, decWord_encWord, Except.ok_bind, Except.bind_eq_ok, require_eq_ok, exists_const, Except.pure_eq,
    Except.ok.injEq, CtrlReqData.mk.injEq]
  tauto

theorem generateRicControlRequest_words (a b : UInt32) :
    generateRicControlRequest ⟨encWord a, encWord b⟩ = .ok ⟨encWord a, encWord b⟩ :=
  (generateRicControlRequest_eq_ok).mpr
    ⟨(length_put a).trans_lt (by decide), (length_put b).trans_lt (by decide), rfl⟩

theorem controlled_only {msg msg' : String} {req r : CtrlReqData UInt32} :
    controlled (onControlReqOnly encWord encWord) (onControlOnly (decWord msg) (decWord msg')) req = .ok (r, out) ↔
      r = req ∧ req = ⟨0, 42⟩ ∧ out = [] := by
  constructor
  · intro h
    obtain ⟨data, hdata, h⟩ := Except.bind_eq_ok.mp h
    obtain ⟨_, hhdr, hdata⟩ := Except.bind_eq_ok.mp hdata
    obtain ⟨_, hmsg, hdata⟩ := Except.bind_eq_ok.mp hdata
    obtain rfl := Except.ok.inj hdata
    rw [generateRicControlRequest_words, Except.ok_bind] at h
    obtain ⟨r', hr, h⟩ := Except.bind_eq_ok.mp h
    obtain ⟨rfl, rfl⟩ := (decCtrlOnly_encWord).mp hr
    obtain ⟨rfl, rfl⟩ := Prod.mk.inj (Except.ok.inj h)
    exact ⟨rfl, rfl, rfl⟩
  · rintro ⟨rfl, rfl, rfl⟩
    have hreq : onControlReqOnly encWord encWord ⟨0, 42⟩ = .ok ⟨encWord 0, encWord 42⟩ := rfl
    rw [controlled, hreq, Except.ok_bind, generateRicControlRequest_words, Except.ok_bind, onControlOnly,
      (decCtrlOnly_encWord).mpr ⟨rfl, rfl⟩]
    rfl

theorem controlled_pdcp {req r : CtrlReqData UInt32} :
    controlled onControlReqPdcpSmRic (onControlPdcpSmAg io) req = .ok (r, out) ↔
      r = req ∧ req = ⟨0, 42⟩ ∧ ∃ ans, io.pdcpCtrl req = .ctrlOutcome (.pdcp ans) ∧ out = pdcpEncCtrlOutPlain ans := by
  have hreq : onControlReqPdcpSmRic req = .ok ⟨encWord req.hdr, encWord req.msg⟩ := rfl
  have hdec (r) : decCtrlOnly pdcpDecCtrlHdrPlain pdcpDecCtrlMsgPlain ⟨encWord req.hdr, encWord req.msg⟩ = .ok r ↔
      r = req ∧ req = ⟨0, 42⟩ := decCtrlOnly_encWord
  rw [controlled, hreq, Except.ok_bind, generateRicControlRequest_words, Except.ok_bind, onControlPdcpSmAg]
  constructor
  · intro h
    obtain ⟨r', hr, hout⟩ := Except.bind_eq_ok.mp h
    obtain ⟨rfl, hone⟩ := (hdec r').mp hr
    obtain ⟨ans, hans, heq⟩ := Except.bind_eq_ok.mp hout
    obtain ⟨rfl, rfl⟩ := Prod.mk.inj (Except.ok.inj heq)
    obtain ⟨c, hc, hown⟩ := (ctrlOutcome_eq_ok).mp hans
    exact ⟨rfl, hone, ans, AnsCtrl.pdcp?_eq_some.mp hown ▸ hc, rfl⟩
  · rintro ⟨rfl, hone, ans, hans, rfl⟩
    rw [(hdec r).mpr ⟨rfl, hone⟩, Except.ok_bind, hans]
    rfl

end Control

/-! ### The messages of the MAC service model -/

namespace Mac

open MacConf in
theorem conf_copies : Copies fetchMacConf (fun _ => True) sizeofMacConf putMacConf :=
  (Copies.scalar rnti fun _ => .scalar puschMcs fun _ => .scalar issetPuschMcs fun _ => .scalar padEnd fun _ =>
   .pure fun conf => by
    cases conf
    simp only [MacConf.mk.injEq, true_and, and_assoc]).of_eq rfl fun conf _ => by
      rw [List.append_nil]
      rfl

/-- The bytes that the encoder writes -/
def MacCtrlMsg.bytes (m : MacCtrlMsg) : Bytes := put m.ranConf.len ++ m.ranConf.items.flatMap putMacConf

theorem MacCtrlMsg.length_bytes (m : MacCtrlMsg) : m.bytes.length = 4 + 8 * m.ranConf.items.length := by
  have hconf : (m.ranConf.items.flatMap putMacConf).length = 8 * m.ranConf.items.length := by
    rw [List.length_flatMap]
    simp only [(conf_copies).length trivial, List.map_const', List.sum_replicate_nat]
    exact Nat.mul_comm ..
  rw [bytes, List.length_append, hconf, length_put]
  rfl

theorem macEncCtrlMsgPlain_eq (m : MacCtrlMsg) : macEncCtrlMsgPlain m = .ok m.bytes := by
  have hsz : sizeof UInt32 + sizeofMacConf * m.ranConf.items.length = m.bytes.length := m.length_bytes.symm
  have hlen : (put m.ranConf.len).length ≤ m.bytes.length := by
    rw [MacCtrlMsg.bytes, List.length_append]
    exact Nat.le_add_right ..
  simp only [macEncCtrlMsgPlain, hsz, Except.bind_eq_ok, write_eq_ok, require_eq_ok, Except.pure_eq, Except.ok.injEq,
    List.nil_append]
  exact ⟨_, ⟨hlen, rfl⟩, _, (foldlM_write_eq_ok hlen).mpr ⟨Nat.le_refl _, rfl⟩, (), rfl, rfl⟩

theorem macDecCtrlMsgPlain_bytes (m : MacCtrlMsg) : macDecCtrlMsgPlain m.bytes = .ok m := by
  have hpos : 0 < m.bytes.length := by
    rw [m.length_bytes]
    exact Nat.add_pos_left (by decide) _
  have hconf : (fetchCounted fetchMacConf).whole "Data layout mismatch" m.bytes = .ok m.ranConf :=
    (fetchCounted_reads fun conf _ => (conf_copies).reads trivial).whole _
  rw [macDecCtrlMsgPlain, require_of hpos, Except.ok_bind, hconf]
  rfl

end Mac

/-- A message of traffic control that is encoded adds no classifier of the OSI layers, and is decoded. -/
theorem tcCtrlMsg_of_enc {msg : TcCtrlMsg} {buf : Bytes} (h : tcEncCtrlMsgPlain msg = .ok buf) :
    ¬msg.AddsOsi ∧ buf.length = calTcCtrlPayload msg ∧ tcDecCtrlMsgPlain buf = .ok msg := by
  have hosi : ¬msg.AddsOsi := by
    intro hosi
    obtain ⟨_, hlen, -⟩ := Except.bind_eq_ok.mp h
    exact calTcCtrlPayload_ne hosi (require_eq_ok.mp hlen)
  have hfits := fits_ctrlMsg hosi
  obtain rfl := Except.ok.inj ((tcEncCtrlMsgPlain_eq hosi).symm.trans h)
  refine ⟨hosi, hfits.length, ?_⟩
  rw [tcDecCtrlMsgPlain, tcDecCtrlMsgCalloc, require_of (encTcCtrlPayload_pos msg)]
  exact hfits.reads.whole _

/-! ### The service models -/

section Received
variable {io : SmIoAgRan} {out : Bytes}

theorem controlled_mac {req r : CtrlReqData MacCtrlMsg} :
    controlled ricOnControlReqMacSmRic (onControlMacSmAg io) req = .ok (r, out) ↔
      r = req ∧ req.msg.ranConf.items.length ≤ 255 ∧
        ∃ ans, io.macCtrl req = .ctrlOutcome (.mac ans) ∧ out = macEncCtrlOutPlain ans := by
  refine (controlled_iff (decWord_encWord _) fun msg buf h _ => ?_).trans
    (and_congr_right fun _ => and_congr ⟨?_, fun hlen => ?_⟩ ⟨?_, ?_⟩)
  · obtain rfl := Except.ok.inj ((macEncCtrlMsgPlain_eq msg).symm.trans h)
    exact macDecCtrlMsgPlain_bytes msg
  · rintro ⟨buf, hbuf, hlen⟩
    obtain rfl := Except.ok.inj ((macEncCtrlMsgPlain_eq req.msg).symm.trans hbuf)
    rw [req.msg.length_bytes] at hlen
    omega
  · exact ⟨_, macEncCtrlMsgPlain_eq req.msg, by rw [req.msg.length_bytes]; omega⟩
  · rintro ⟨c, ans, hans, hown, hout⟩
    obtain rfl := AnsCtrl.mac?_eq_some.mp hown
    exact ⟨ans, hans, (Except.ok.inj hout).symm⟩
  · rintro ⟨ans, hans, rfl⟩
    exact ⟨_, ans, hans, rfl, rfl⟩

/-- A request that is short enough to be sent has short texts. -/
theorem controlled_slice {req r : CtrlReqData SliceCtrlMsg} :
    controlled ricOnControlReqSliceSmRic (onControlSliceSmAg io) req = .ok (r, out) ↔
      r = req ∧ (req.msg.WellFormed ∧ ∃ n, Slice.Enc.calCtrlMsgPayload req.msg = .ok n ∧ n ≤ 2048) ∧
        ∃ o, io.sliceCtrl req = .ctrlOutcome (.slice o) ∧ sliceEncCtrlOutPlain o = .ok out := by
  refine (controlled_iff (decWord_encWord _) fun msg buf h hlen => ?_).trans
    (and_congr_right fun _ => and_congr ⟨?_, ?_⟩ ⟨?_, ?_⟩)
  · obtain ⟨buf', hbuf, hcal, hdec⟩ := sliceDecCtrlMsg_sliceEncCtrlMsg (wellFormed_of_encCtrlMsg h)
    obtain rfl := Except.ok.inj (hbuf.symm.trans h)
    refine (hdec msg).mpr ⟨rfl, fun text ht => ?_⟩
    have hle := length_text_le_calCtrlMsg hcal text ht
    omega
  · rintro ⟨buf, hbuf, hlen⟩
    have hwf := wellFormed_of_encCtrlMsg hbuf
    obtain ⟨buf', hbuf', hcal, -⟩ := sliceDecCtrlMsg_sliceEncCtrlMsg hwf
    obtain rfl := Except.ok.inj (hbuf'.symm.trans hbuf)
    exact ⟨hwf, _, hcal, hlen⟩
  · rintro ⟨hwf, n, hn, hlen⟩
    obtain ⟨buf, hbuf, hcal, -⟩ := sliceDecCtrlMsg_sliceEncCtrlMsg hwf
    obtain rfl := Except.ok.inj (hcal.symm.trans hn)
    exact ⟨buf, hbuf, hlen⟩
  · rintro ⟨c, o, hans, hown, hout⟩
    obtain rfl := AnsCtrl.slice?_eq_some.mp hown
    exact ⟨o, hans, hout⟩
  · rintro ⟨o, hans, hout⟩
    exact ⟨_, o, hans, rfl, hout⟩

theorem controlled_tc {req r : CtrlReqData TcCtrlMsg} :
    controlled ricOnControlReqTcSmRic (onControlTcSmAg io) req = .ok (r, out) ↔
      r = req ∧ (¬req.msg.AddsOsi ∧ calTcCtrlPayload req.msg ≤ 2048) ∧
        ∃ o, io.tcCtrl req = .ctrlOutcome (.tc o) ∧ out = tcEncCtrlOutPlain o := by
  refine (controlled_iff (decWord_encWord _) fun msg buf h _ => ?_).trans
    (and_congr_right fun _ => and_congr ⟨?_, ?_⟩ ⟨?_, ?_⟩)
  · exact (tcCtrlMsg_of_enc h).2.2
  · rintro ⟨buf, hbuf, hlen⟩
    obtain ⟨hosi, hcal, -⟩ := tcCtrlMsg_of_enc hbuf
    exact ⟨hosi, hcal ▸ hlen⟩
  · rintro ⟨hosi, hlen⟩
    refine ⟨_, tcEncCtrlMsgPlain_eq hosi, ?_⟩
    rw [(fits_ctrlMsg hosi).length]
    exact hlen
  · rintro ⟨c, o, hans, hown, hout⟩
    obtain rfl := AnsCtrl.tc?_eq_some.mp hown
    exact ⟨o, hans, (Except.ok.inj hout).symm⟩
  · rintro ⟨o, hans, rfl⟩
    exact ⟨_, o, hans, rfl, rfl⟩

end Received

/-- The RAN is given the request of the xApp, and nothing else; and the agent takes the outcome of its own service model
and no other. A request that has more than 2048 bytes is not sent, nor is one that adds a classifier of the OSI layers or
a slice without an algorithm; of three service models, one request is supported. -/
theorem control_received (io : SmIoAgRan) (out : Bytes) :
    (∀ req r, controlled ricOnControlReqMacSmRic (onControlMacSmAg io) req = .ok (r, out) ↔
      r = req ∧ req.msg.ranConf.items.length ≤ 255 ∧
        ∃ ans, io.macCtrl req = .ctrlOutcome (.mac ans) ∧ out = macEncCtrlOutPlain ans) ∧
    (∀ req r, controlled ricOnControlReqSliceSmRic (onControlSliceSmAg io) req = .ok (r, out) ↔
      r = req ∧ (req.msg.WellFormed ∧ ∃ n, Slice.Enc.calCtrlMsgPayload req.msg = .ok n ∧ n ≤ 2048) ∧
        ∃ o, io.sliceCtrl req = .ctrlOutcome (.slice o) ∧ sliceEncCtrlOutPlain o = .ok out) ∧
    (∀ req r, controlled ricOnControlReqTcSmRic (onControlTcSmAg io) req = .ok (r, out) ↔
      r = req ∧ (¬req.msg.AddsOsi ∧ calTcCtrlPayload req.msg ≤ 2048) ∧
        ∃ o, io.tcCtrl req = .ctrlOutcome (.tc o) ∧ out = tcEncCtrlOutPlain o) ∧
    (∀ req r, controlled onControlReqPdcpSmRic (onControlPdcpSmAg io) req = .ok (r, out) ↔
      r = req ∧ req = ⟨0, 42⟩ ∧ ∃ ans, io.pdcpCtrl req = .ctrlOutcome (.pdcp ans) ∧ out = pdcpEncCtrlOutPlain ans) ∧
    (∀ req r, controlled ricOnControlReqRlcSmRic onControlRlcSmAg req = .ok (r, out) ↔
      r = req ∧ req = ⟨0, 42⟩ ∧ out = []) ∧
    (∀ req r, controlled ricOnControlReqGtpSmRic onControlGtpSmAg req = .ok (r, out) ↔
      r = req ∧ req = ⟨0, 42⟩ ∧ out = []) :=
  ⟨fun _ _ => controlled_mac, fun _ _ => controlled_slice, fun _ _ => controlled_tc, fun _ _ => controlled_pdcp,
    fun _ _ => controlled_only, fun _ _ => controlled_only⟩

end FlexRic.Sm
