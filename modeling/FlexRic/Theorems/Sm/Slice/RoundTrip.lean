import FlexRic.Sm.Slice.Plain

/-! # What the plain codec of the slice service model carries

Every message, but for the longest texts: the size of the block that a text is copied into is computed in 32 bits. -/

namespace FlexRic.Sm.Slice
open Plain

/-! ### Parameters -/

theorem reads_static (sta : StaticSlice) : Reads 0 Dec.fillStatic (Enc.fillStatic sta) sta :=
  (fetch_reads sta.posHigh).andThen (fetch_reads sta.posLow).last

theorem reads_rate (nvs : NvsRate) : Reads 0 Dec.fillRate (Enc.fillRate nvs) nvs :=
  (fetch_reads nvs.mbpsReference).andThen (fetch_reads nvs.mbpsRequired).last

theorem reads_nvs (nvs : NvsSlice) : Reads 0 Dec.fillNvs (Enc.fillNvs nvs) nvs := by
  cases nvs with
  | rate rate => exact (fetchEnum_reads NvsSliceConf.rate _).andThen (reads_rate rate).last
  | capacity capacity => exact (fetchEnum_reads NvsSliceConf.capacity _).andThen (fetch_reads capacity.pctReserved).last.last

theorem reads_onDemand (scn : Scn19OnDemand) : Reads 0 Dec.fillOnDemand (Enc.fillOnDemand scn) scn := by
  rw [Enc.fillOnDemand, List.append_assoc]
  exact (fetch_reads _).andThen ((fetch_reads _).andThen (fetch_reads _).last)

theorem reads_scn19 (scn : Scn19Slice) : Reads 0 Dec.fillScn19 (Enc.fillScn19 scn) scn := by
  cases scn with
  | dynamic dynamic => exact (fetchEnum_reads Scn19SliceConf.dynamic _).andThen (reads_rate dynamic).last
  | fixed fixed => exact (fetchEnum_reads Scn19SliceConf.fixed _).andThen (reads_static fixed).last
  | onDemand onDemand => exact (fetchEnum_reads Scn19SliceConf.onDemand _).andThen (reads_onDemand onDemand).last

theorem reads_edf (edf : EdfSlice) : Reads 0 Dec.fillEdf (Enc.fillEdf edf) edf := by
  simp only [Enc.fillEdf, List.append_assoc]
  exact (fetch_reads _).andThen ((fetch_reads _).andThen ((fetch_reads _).andThen
    (fetchCounted_reads fun a _ => fetch_reads a).last))

theorem length_fillNvs (nvs : NvsSlice) : Enc.calNvs nvs = (Enc.fillNvs nvs).length := by
  cases nvs <;> simp [Enc.calNvs, Enc.fillNvs, Enc.fillRate, Enc.fillCapacity, Nat.add_assoc]

theorem length_fillScn19 (scn : Scn19Slice) : Enc.calScn19 scn = (Enc.fillScn19 scn).length := by
  cases scn <;> simp [Enc.calScn19, Enc.fillScn19, Enc.fillRate, Enc.fillStatic, Enc.fillOnDemand, Nat.add_assoc]

theorem length_fillEdf (edf : EdfSlice) : Enc.calEdf edf = (Enc.fillEdf edf).length := by
  simp [Enc.calEdf, Enc.fillEdf, List.map_const', Nat.add_assoc]

theorem carries_params {par : SliceParams} (h : par ≠ .none) :
    Carries (Enc.calParams par) (Enc.fillParams par) Dec.fillParams par := by
  cases par with
  | none => exact absurd rfl h
  | sta sta =>
    refine ((fetchEnum_reads SliceAlgorithm.static _).andThen (reads_static sta).last).carries ?_
    simp [Enc.calStatic, Enc.fillStatic]
  | nvs nvs =>
    refine ((fetchEnum_reads SliceAlgorithm.nvs _).andThen (reads_nvs nvs).last).carries ?_
    rw [List.length_append, length_putEnum, length_fillNvs]
  | scn19 scn19 =>
    refine ((fetchEnum_reads SliceAlgorithm.scn19 _).andThen (reads_scn19 scn19).last).carries ?_
    rw [List.length_append, length_putEnum, length_fillScn19]
  | edf edf =>
    refine ((fetchEnum_reads SliceAlgorithm.edf _).andThen (reads_edf edf).last).carries ?_
    rw [List.length_append, length_putEnum, length_fillEdf]

/-! ### Slices -/

theorem reads_text (xs : Counted UInt8) :
    Reads 0 (fetchCounted (fetch UInt8)) (put xs.len ++ xs.items.flatMap put) xs :=
  fetchCounted_reads fun a _ => fetch_reads a

theorem carries_slice {slc : FrSlice} (h : slc.WellFormed) :
    Carries (Enc.calSlice slc) (Enc.fillSlice slc) Dec.fillSlice slc := by
  obtain ⟨par, hcal, hfill, hr⟩ := carries_params h
  rw [Enc.calSlice, Enc.fillSlice, hcal, hfill]
  refine Reads.carries (.of_eq ((fetch_reads slc.id).andThen ((reads_text slc.label).andThen
    ((reads_text slc.sched).andThen hr.last))) ?_) ?_
  · simp only [List.append_assoc]
  · simp [Nat.add_assoc]

theorem carries_ulDl {conf : UlDlSliceConf} (h : ∀ s ∈ conf.slices.items, s.WellFormed) :
    Carries (Enc.calUlDl conf) (Enc.fillUlDlSliceConf conf) Dec.fillUlDlSliceConf conf := by
  obtain ⟨bss, hcal, hfill, hr⟩ := Carries.all fun s hs => carries_slice (h s hs)
  rw [Enc.calUlDl, Enc.calSlc, Enc.fillUlDlSliceConf, hcal, hfill]
  have hslices : Reads 0 (fetchCounted Dec.fillSlice) (put conf.slices.len ++ bss.flatten) conf.slices :=
    (fetch_reads conf.slices.len).andThen (times_reads hr conf.slices.toNat_len.symm).last
  refine Reads.carries (.of_eq ((reads_text conf.schedName).andThen hslices.last) ?_) ?_
  · simp only [List.append_assoc]
  · simp [List.length_flatten, Nat.add_assoc]

theorem carries_sliceConf {conf : SliceConf} (h : conf.WellFormed) :
    Carries (Enc.calSliceConf conf) (Enc.fillSliceConf conf) Dec.fillSliceConf conf := by
  obtain ⟨dl, hcalDl, hfillDl, hdl⟩ := carries_ulDl h.1
  obtain ⟨ul, hcalUl, hfillUl, hul⟩ := carries_ulDl h.2
  rw [Enc.calSliceConf, Enc.fillSliceConf, hcalDl, hcalUl, hfillDl, hfillUl]
  refine Reads.carries (hdl.andThen hul.last) ?_
  rw [List.length_append, Nat.add_comm]

/-! ### Associations of UEs -/

theorem reads_ueSliceAssoc (assoc : UeSliceAssoc) : Reads 0 Dec.fillUeSliceAssoc (Enc.fillUeSliceAssoc assoc) assoc := by
  rw [Enc.fillUeSliceAssoc, List.append_assoc]
  exact (fetch_reads _).andThen ((fetch_reads _).andThen (fetch_reads _).last)

theorem reads_ueSliceConf (slc : UeSliceConf) : Reads 0 Dec.fillUeSliceConf (Enc.fillUeSliceConf slc) slc :=
  (fetchCounted_reads fun a _ => reads_ueSliceAssoc a).last

theorem length_fillUeSliceConf (slc : UeSliceConf) : Enc.calUeSliceConf slc = (Enc.fillUeSliceConf slc).length := by
  simp only [Enc.calUeSliceConf, Enc.fillUeSliceConf, List.length_append, length_put, List.length_flatMap,
    Enc.fillUeSliceAssoc]
  rfl

theorem reads_delSlice (del : DelSliceConf) : Reads 0 Dec.fillDelSlice (Enc.fillDelSliceConf del) del := by
  refine .of_eq ((fetchCounted_reads fun a _ => fetch_reads a).andThen
    (fetchCounted_reads fun a _ => fetch_reads a).last) ?_
  simp only [Enc.fillDelSliceConf, List.append_assoc]

theorem length_fillDelSliceConf (del : DelSliceConf) : Enc.calDelSlice del = (Enc.fillDelSliceConf del).length := by
  simp [Enc.calDelSlice, Enc.fillDelSliceConf, Nat.add_assoc]

/-! ### Messages -/

/-- A message is encoded in as many bytes as were computed for it, and all of them are read back to the message. -/
theorem sliceEncIndMsg_reads {indMsg : SliceIndMsg} (h : indMsg.WellFormed) :
    ∃ buf, sliceEncIndMsgPlain indMsg = .ok buf ∧ Enc.calIndMsgPayload indMsg = .ok buf.length ∧
      Dec.fillIndMsg.whole "Data layout mismacth" buf = .ok indMsg := by
  obtain ⟨conf, hcal, hfill, hconf⟩ := carries_sliceConf h
  have hcalMsg : Enc.calIndMsgPayload indMsg =
      .ok (conf ++ Enc.fillUeSliceConf indMsg.ueSliceConf ++ put indMsg.tstamp).length := by
    simp only [Enc.calIndMsgPayload, hcal, length_fillUeSliceConf, List.length_append, length_put]
    rfl
  have hue : 0 < (Enc.fillUeSliceConf indMsg.ueSliceConf).length := by
    rw [Enc.fillUeSliceConf, List.length_append, length_put]
    exact Nat.add_pos_left (by decide) _
  have htstamp : (put indMsg.tstamp).length = 8 := length_put _
  have hroom : conf.length < (conf ++ Enc.fillUeSliceConf indMsg.ueSliceConf ++ put indMsg.tstamp).length := by
    simp only [List.length_append]
    omega
  have hroom' : (conf ++ Enc.fillUeSliceConf indMsg.ueSliceConf).length <
      (conf ++ Enc.fillUeSliceConf indMsg.ueSliceConf ++ put indMsg.tstamp).length := by
    simp only [List.length_append]
    omega
  refine ⟨_, ?_, hcalMsg, Reads.whole (.of_eq (hconf.andThen (Reads.within ((reads_ueSliceConf _).andThen
    (Reads.within (fetch_reads indMsg.tstamp).last ?_)) ?_)) (List.append_assoc _ _ _).symm) _⟩
  · simp only [sliceEncIndMsgPlain, hcalMsg, hfill, Except.ok_bind, require_of hroom, require_of hroom']
    rfl
  · omega
  · rw [List.length_append]
    omega

theorem carries_ctrlMsg {ctrlMsg : SliceCtrlMsg} (h : ctrlMsg.WellFormed) :
    Carries (Enc.calCtrlMsgPayload ctrlMsg) (Enc.fillSliceCtrlMsg ctrlMsg) Dec.fillCtrlMsg ctrlMsg := by
  cases ctrlMsg with
  | add addModSlice =>
    obtain ⟨conf, hcal, hfill, hconf⟩ := carries_sliceConf h
    rw [Enc.calCtrlMsgPayload, Enc.fillSliceCtrlMsg, hcal, hfill]
    refine ((fetchEnum_reads SliceCtrlMsgE.add _).andThen hconf.last).carries ?_
    rw [List.length_append, length_putEnum]
  | del delSlice =>
    refine ((fetchEnum_reads SliceCtrlMsgE.del _).andThen (reads_delSlice delSlice).last).carries ?_
    rw [List.length_append, length_putEnum, length_fillDelSliceConf]
  | ueSliceAssoc ueSlice =>
    refine ((fetchEnum_reads SliceCtrlMsgE.ueSliceAssoc _).andThen (reads_ueSliceConf ueSlice).last).carries ?_
    rw [List.length_append, length_putEnum, length_fillUeSliceConf]

theorem sliceEncCtrlMsg_reads {ctrlMsg : SliceCtrlMsg} (h : ctrlMsg.WellFormed) :
    ∃ buf, sliceEncCtrlMsgPlain ctrlMsg = .ok buf ∧ Enc.calCtrlMsgPayload ctrlMsg = .ok buf.length ∧ 0 < buf.length ∧
      Dec.fillCtrlMsg.whole "Data layout mismatch" buf = .ok ctrlMsg := by
  obtain ⟨buf, hcal, hfill, hr⟩ := carries_ctrlMsg h
  refine ⟨buf, ?_, hcal, ?_, hr.whole _⟩
  · rw [sliceEncCtrlMsgPlain, hcal, hfill, Except.ok_bind, Except.ok_bind, require_of rfl]
    rfl
  · refine List.length_pos_iff.mpr fun hnil => ?_
    subst hnil
    cases hr [] (Nat.le_refl _)

/-! ### The blocks of the texts -/

/-- The only size that wraps is that of the block for the longest text. -/
theorem inBlock_iff {text : Counted UInt8} : InBlock text ↔ text.items.length < 4294967295 := by
  have hlen := text.length_lt
  have hpos : 0 < text.len ↔ 0 < text.items.length := by
    rw [UInt32.lt_iff_toNat_lt, text.toNat_len]
    rfl
  have hblock : textBlock text.len = (text.items.length + 1) % 4294967296 := by
    rw [textBlock, UInt32.toNat_add, text.toNat_len]
    rfl
  rw [InBlock, hpos, hblock]
  omega

theorem inBlocks_eq_ok {α : Type} {texts : α → List (Counted UInt8)} {a b : α} :
    inBlocks texts a = .ok b ↔ b = a ∧ ∀ text ∈ texts a, text.items.length < 4294967295 := by
  simp only [inBlocks, Except.bind_eq_ok, require_eq_ok, exists_const, Except.pure_eq, Except.ok.injEq, inBlock_iff,
    eq_comm (a := a), and_comm]

/-- What was read is decoded when it was read into blocks that have room for it. -/
theorem read_inBlocks {α : Type} {x : Except String α} {texts : α → List (Counted UInt8)} {a b : α} (h : x = .ok a) :
    (x >>= inBlocks texts) = .ok b ↔ b = a ∧ ∀ text ∈ texts a, text.items.length < 4294967295 := by
  rw [h]
  exact inBlocks_eq_ok

theorem sliceDecIndMsg_sliceEncIndMsg {indMsg : SliceIndMsg} (h : indMsg.WellFormed) :
    ∃ buf, sliceEncIndMsgPlain indMsg = .ok buf ∧ Enc.calIndMsgPayload indMsg = .ok buf.length ∧
      ∀ m, sliceDecIndMsgPlain buf = .ok m ↔ m = indMsg ∧ ∀ text ∈ indMsg.texts, text.items.length < 4294967295 := by
  obtain ⟨buf, henc, hcal, hr⟩ := sliceEncIndMsg_reads h
  exact ⟨buf, henc, hcal, fun m => read_inBlocks hr⟩

theorem sliceDecCtrlMsg_sliceEncCtrlMsg {ctrlMsg : SliceCtrlMsg} (h : ctrlMsg.WellFormed) :
    ∃ buf, sliceEncCtrlMsgPlain ctrlMsg = .ok buf ∧ Enc.calCtrlMsgPayload ctrlMsg = .ok buf.length ∧
      ∀ m, sliceDecCtrlMsgPlain buf = .ok m ↔ m = ctrlMsg ∧ ∀ text ∈ ctrlMsg.texts, text.items.length < 4294967295 := by
  obtain ⟨buf, henc, hcal, hpos, hr⟩ := sliceEncCtrlMsg_reads h
  refine ⟨buf, henc, hcal, fun m => ?_⟩
  rw [sliceDecCtrlMsgPlain, require_of hpos]
  exact read_inBlocks hr

/-- The message comes back, and the size that is computed for it is that of the bytes written and read. -/
def SliceIndMsg.ComesBack (m : SliceIndMsg) : Prop :=
  ∃ buf, sliceEncIndMsgPlain m = .ok buf ∧ Enc.calIndMsgPayload m = .ok buf.length ∧ sliceDecIndMsgPlain buf = .ok m

def SliceCtrlMsg.ComesBack (m : SliceCtrlMsg) : Prop :=
  ∃ buf, sliceEncCtrlMsgPlain m = .ok buf ∧ Enc.calCtrlMsgPayload m = .ok buf.length ∧ sliceDecCtrlMsgPlain buf = .ok m

theorem SliceIndMsg.comesBack_iff {m : SliceIndMsg} (h : m.WellFormed) :
    m.ComesBack ↔ ∀ text ∈ m.texts, text.items.length < 4294967295 := by
  obtain ⟨buf, henc, hcal, hdec⟩ := sliceDecIndMsg_sliceEncIndMsg h
  constructor
  · rintro ⟨buf', henc', -, hdec'⟩
    obtain rfl := Except.ok.inj (henc.symm.trans henc')
    exact ((hdec m).mp hdec').2
  · exact fun ht => ⟨buf, henc, hcal, (hdec m).mpr ⟨rfl, ht⟩⟩

theorem SliceCtrlMsg.comesBack_iff {m : SliceCtrlMsg} (h : m.WellFormed) :
    m.ComesBack ↔ ∀ text ∈ m.texts, text.items.length < 4294967295 := by
  obtain ⟨buf, henc, hcal, hdec⟩ := sliceDecCtrlMsg_sliceEncCtrlMsg h
  constructor
  · rintro ⟨buf', henc', -, hdec'⟩
    obtain rfl := Except.ok.inj (henc.symm.trans henc')
    exact ((hdec m).mp hdec').2
  · exact fun ht => ⟨buf, henc, hcal, (hdec m).mpr ⟨rfl, ht⟩⟩

/-- Every well formed message is encoded in as many bytes as were computed for it, and they are read back to the message
exactly when the block for each of its texts has room for it. -/
theorem slice_plain_round_trip_iff {indMsg : SliceIndMsg} {ctrlMsg : SliceCtrlMsg} (hind : indMsg.WellFormed)
    (hctrl : ctrlMsg.WellFormed) :
    ((∃ buf, sliceEncIndMsgPlain indMsg = .ok buf ∧ Enc.calIndMsgPayload indMsg = .ok buf.length) ∧
      (indMsg.ComesBack ↔ ∀ text ∈ indMsg.texts, text.items.length < 4294967295)) ∧
    (∃ buf, sliceEncCtrlMsgPlain ctrlMsg = .ok buf ∧ Enc.calCtrlMsgPayload ctrlMsg = .ok buf.length) ∧
      (ctrlMsg.ComesBack ↔ ∀ text ∈ ctrlMsg.texts, text.items.length < 4294967295) := by
  refine ⟨⟨?_, indMsg.comesBack_iff hind⟩, ?_, ctrlMsg.comesBack_iff hctrl⟩
  · obtain ⟨buf, henc, hcal, -⟩ := sliceEncIndMsg_reads hind
    exact ⟨buf, henc, hcal⟩
  · obtain ⟨buf, henc, hcal, -, -⟩ := sliceEncCtrlMsg_reads hctrl
    exact ⟨buf, henc, hcal⟩

/-- No schedulers' name, and one slice of the EDF algorithm with the label. -/
def edfConf (label : Counted UInt8) : UlDlSliceConf where
  slices := ⟨[⟨7, label, ⟨[112, 102], by decide⟩, .edf ⟨10, 20, 30, ⟨[1, 2], by decide⟩⟩⟩], show 1 < 4294967296 by decide⟩
  schedName := .empty

def edfIndMsg (label : Counted UInt8) : SliceIndMsg := ⟨⟨edfConf label, edfConf .empty⟩, ⟨.empty⟩, -1⟩

theorem edfConf_wellFormed (label : Counted UInt8) : SliceConf.WellFormed ⟨edfConf label, edfConf .empty⟩ := by
  refine ⟨?_, ?_⟩ <;> simp [edfConf, FrSlice.WellFormed]

theorem edf_round_trip : (edfIndMsg .empty).ComesBack ∧ SliceCtrlMsg.ComesBack (.add ⟨edfConf .empty, edfConf .empty⟩) := by
  have htexts : ∀ text ∈ SliceConf.texts ⟨edfConf .empty, edfConf .empty⟩, text.items.length < 4294967295 := by
    simp [SliceConf.texts, UlDlSliceConf.texts, FrSlice.texts, edfConf, Counted.empty]
  have hind : (edfIndMsg .empty).WellFormed := edfConf_wellFormed .empty
  have hctrl : SliceCtrlMsg.WellFormed (.add ⟨edfConf .empty, edfConf .empty⟩) := edfConf_wellFormed .empty
  obtain ⟨⟨-, hindBack⟩, -, hctrlBack⟩ := slice_plain_round_trip_iff hind hctrl
  exact ⟨hindBack.mpr htexts, hctrlBack.mpr htexts⟩

/-- A label of `n` spaces -/
def spaces (n : Nat) (h : n < 4294967296) : Counted UInt8 := ⟨List.replicate n 32, by rwa [List.length_replicate]⟩

theorem edf_spaces_iff {n : Nat} (h : n < 4294967296) : (edfIndMsg (spaces n h)).ComesBack ↔ n < 4294967295 := by
  refine ((edfIndMsg (spaces n h)).comesBack_iff (edfConf_wellFormed _)).trans ?_
  simp [edfIndMsg, SliceIndMsg.texts, SliceConf.texts, UlDlSliceConf.texts, FrSlice.texts, edfConf, Counted.empty, spaces]

/-- No bytes are allocated for the longest label. -/
theorem longest_label_not_back : (edfIndMsg (spaces 4294967295 (by decide))).WellFormed ∧
    ¬(edfIndMsg (spaces 4294967295 (by decide))).ComesBack :=
  ⟨edfConf_wellFormed _, mt (edf_spaces_iff _).mp (Nat.lt_irrefl _)⟩

end FlexRic.Sm.Slice
