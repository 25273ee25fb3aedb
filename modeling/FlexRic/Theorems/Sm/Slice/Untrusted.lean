import FlexRic.Lib.Layout
import FlexRic.Theorems.Sm.Slice.RoundTrip

/-! # What the plain decoders of the slice service model do with any bytes

The decoders accept nothing but encodings. They compare what they have read with the length of the chunk at the end
only, or between the parts of an indication, so that a chunk that ends too early is read past its end. -/

namespace FlexRic.Sm.Slice
open Plain

instance : Enumerators.Distinct SliceAlgorithm := ⟨of_decide_eq_true rfl⟩
instance : Enumerators.Distinct NvsSliceConf := ⟨of_decide_eq_true rfl⟩
instance : Enumerators.Distinct Scn19SliceConf := ⟨of_decide_eq_true rfl⟩
instance : Enumerators.Distinct SliceCtrlMsgE := ⟨of_decide_eq_true rfl⟩

/-! ### The members of a message

The pieces that are copied one after the other. -/

def NvsSlice.conf : NvsSlice → NvsSliceConf
  | .rate _ => .rate
  | .capacity _ => .capacity

def Scn19Slice.conf : Scn19Slice → Scn19SliceConf
  | .dynamic _ => .dynamic
  | .fixed _ => .fixed
  | .onDemand _ => .onDemand

def SliceParams.type : SliceParams → SliceAlgorithm
  | .none => .none
  | .sta _ => .static
  | .nvs _ => .nvs
  | .scn19 _ => .scn19
  | .edf _ => .edf

def SliceCtrlMsg.type : SliceCtrlMsg → SliceCtrlMsgE
  | .add _ => .add
  | .del _ => .del
  | .ueSliceAssoc _ => .ueSliceAssoc

def StaticSlice.members (sta : StaticSlice) : List Bytes := [put sta.posHigh, put sta.posLow]

def NvsRate.members (nvs : NvsRate) : List Bytes := [put nvs.mbpsReference, put nvs.mbpsRequired]

def NvsCapacity.members (nvs : NvsCapacity) : List Bytes := [put nvs.pctReserved]

def NvsSlice.members (nvs : NvsSlice) : List Bytes :=
  putEnum nvs.conf ::
    match nvs with
    | .rate r => r.members
    | .capacity c => c.members

def Scn19OnDemand.members (scn : Scn19OnDemand) : List Bytes := [put scn.logDelta, put scn.pctReserved, put scn.tau]

def Scn19Slice.members (scn : Scn19Slice) : List Bytes :=
  putEnum scn.conf ::
    match scn with
    | .dynamic d => d.members
    | .fixed f => f.members
    | .onDemand o => o.members

def EdfSlice.members (edf : EdfSlice) : List Bytes :=
  put edf.deadline :: put edf.guaranteedPrbs :: put edf.maxReplenish :: scalars edf.over_

def SliceParams.members (par : SliceParams) : List Bytes :=
  putEnum par.type ::
    match par with
    | .none => []
    | .sta s => s.members
    | .nvs n => n.members
    | .scn19 s => s.members
    | .edf e => e.members

def FrSlice.members (slc : FrSlice) : List Bytes :=
  put slc.id :: (scalars slc.label ++ (scalars slc.sched ++ slc.params.members))

def UlDlSliceConf.members (conf : UlDlSliceConf) : List Bytes :=
  scalars conf.schedName ++ put conf.slices.len :: conf.slices.items.flatMap FrSlice.members

def SliceConf.members (conf : SliceConf) : List Bytes := conf.dl.members ++ conf.ul.members

def UeSliceAssoc.members (assoc : UeSliceAssoc) : List Bytes := [put assoc.dlId, put assoc.ulId, put assoc.rnti]

def UeSliceConf.members (slc : UeSliceConf) : List Bytes :=
  put slc.ues.len :: slc.ues.items.flatMap UeSliceAssoc.members

def DelSliceConf.members (del : DelSliceConf) : List Bytes := scalars del.dl ++ scalars del.ul

def SliceIndMsg.members (indMsg : SliceIndMsg) : List Bytes :=
  indMsg.sliceConf.members ++ (indMsg.ueSliceConf.members ++ [put indMsg.tstamp])

def SliceCtrlMsg.members (ctrlMsg : SliceCtrlMsg) : List Bytes :=
  putEnum ctrlMsg.type ::
    match ctrlMsg with
    | .add conf => conf.members
    | .del conf => conf.members
    | .ueSliceAssoc conf => conf.members

/-! ### What the readers accept -/

theorem exact_static : Exact Dec.fillStatic (fun _ => True) StaticSlice.members :=
  .scalar StaticSlice.posHigh fun _ => .scalar StaticSlice.posLow fun _ => .pure fun ⟨_, _⟩ => by simp

theorem exact_rate : Exact Dec.fillRate (fun _ => True) NvsRate.members :=
  .scalar NvsRate.mbpsReference fun _ => .scalar NvsRate.mbpsRequired fun _ => .pure fun ⟨_, _⟩ => by simp

theorem exact_capacity : Exact Dec.fillCapacity (fun _ => True) NvsCapacity.members :=
  .scalar NvsCapacity.pctReserved fun _ => .pure fun ⟨_⟩ => by simp

theorem exact_nvs : Exact Dec.fillNvs (fun _ => True) NvsSlice.members := by
  refine Exact.enum NvsSlice.conf (fun conf => ?_) (by decide) ⟨.capacity ⟨⟨0⟩⟩, trivial⟩
  cases conf with
  | rate => exact ((exact_rate).map NvsSlice.rate (fun nvs => by cases nvs <;> simp [NvsSlice.conf]) fun _ => rfl).toSound
  | capacity =>
    exact ((exact_capacity).map NvsSlice.capacity (fun nvs => by cases nvs <;> simp [NvsSlice.conf]) fun _ => rfl).toSound

theorem exact_onDemand : Exact Dec.fillOnDemand (fun _ => True) Scn19OnDemand.members :=
  .scalar Scn19OnDemand.logDelta fun _ => .scalar Scn19OnDemand.pctReserved fun _ => .scalar Scn19OnDemand.tau fun _ =>
    .pure fun ⟨_, _, _⟩ => by grind

theorem exact_scn19 : Exact Dec.fillScn19 (fun _ => True) Scn19Slice.members := by
  refine Exact.enum Scn19Slice.conf (fun conf => ?_) (by decide) ⟨.fixed ⟨0, 0⟩, trivial⟩
  cases conf with
  | dynamic =>
    exact ((exact_rate).map Scn19Slice.dynamic (fun scn => by cases scn <;> simp [Scn19Slice.conf]) fun _ => rfl).toSound
  | fixed =>
    exact ((exact_static).map Scn19Slice.fixed (fun scn => by cases scn <;> simp [Scn19Slice.conf]) fun _ => rfl).toSound
  | onDemand =>
    exact ((exact_onDemand).map Scn19Slice.onDemand (fun scn => by cases scn <;> simp [Scn19Slice.conf]) fun _ => rfl).toSound

theorem exact_edf : Exact Dec.fillEdf (fun _ => True) EdfSlice.members := by
  refine (Exact.scalar EdfSlice.deadline fun _ => .scalar EdfSlice.guaranteedPrbs fun _ =>
    .scalar EdfSlice.maxReplenish fun _ => .field EdfSlice.over_ fetchScalars_exact
      (fun _ _ => .pure fun ⟨_, _, _, _⟩ => by grind) fun _ _ => trivial).congr fun edf _ => ?_
  rw [List.append_nil]
  rfl

theorem exact_params : Exact Dec.fillParams (· ≠ .none) SliceParams.members := by
  refine Exact.enum SliceParams.type (fun type => ?_) (by decide) ⟨.sta ⟨0, 0⟩, nofun⟩
  cases type with
  | none => exact .throw (by decide) fun par => by cases par <;> simp [SliceParams.type]
  | static =>
    exact ((exact_static).map SliceParams.sta (fun par => by cases par <;> simp [SliceParams.type]) fun _ => rfl).toSound
  | nvs => exact ((exact_nvs).map SliceParams.nvs (fun par => by cases par <;> simp [SliceParams.type]) fun _ => rfl).toSound
  | scn19 =>
    exact ((exact_scn19).map SliceParams.scn19 (fun par => by cases par <;> simp [SliceParams.type]) fun _ => rfl).toSound
  | edf => exact ((exact_edf).map SliceParams.edf (fun par => by cases par <;> simp [SliceParams.type]) fun _ => rfl).toSound

theorem exact_slice : Exact Dec.fillSlice FrSlice.WellFormed FrSlice.members := by
  refine (Exact.scalar FrSlice.id fun _ => .field FrSlice.label fetchScalars_exact (fun _ _ =>
    .field FrSlice.sched fetchScalars_exact (fun _ _ => .field FrSlice.params exact_params
      (fun _ hpar => .pure fun ⟨_, _, _, _⟩ => by grind [FrSlice.WellFormed]) fun _ h => ?_) fun _ _ => trivial)
      fun _ _ => trivial).congr fun slc _ => ?_
  · exact h.2.2.2
  · rw [List.append_nil]
    rfl

theorem exact_ulDl : Exact Dec.fillUlDlSliceConf (fun conf => ∀ s ∈ conf.slices.items, s.WellFormed)
    UlDlSliceConf.members := by
  refine (Exact.field UlDlSliceConf.schedName fetchScalars_exact (fun _ _ =>
    .field UlDlSliceConf.slices (fetchCounted_exact exact_slice) (fun _ hslices =>
      .pure fun ⟨_, _⟩ => by grind) fun _ h => h.2) fun _ _ => trivial).congr fun conf _ => ?_
  rw [List.append_nil]
  rfl

theorem exact_sliceConf : Exact Dec.fillSliceConf SliceConf.WellFormed SliceConf.members := by
  refine (Exact.field SliceConf.dl exact_ulDl (fun _ hdl => .field SliceConf.ul exact_ulDl (fun _ hul =>
    .pure fun ⟨_, _⟩ => by grind [SliceConf.WellFormed]) fun _ h => h.2.2) fun _ h => h.1).congr fun conf _ => ?_
  rw [List.append_nil]
  rfl

theorem exact_ueSliceAssoc : Exact Dec.fillUeSliceAssoc (fun _ => True) UeSliceAssoc.members :=
  .scalar UeSliceAssoc.dlId fun _ => .scalar UeSliceAssoc.ulId fun _ => .scalar UeSliceAssoc.rnti fun _ =>
    .pure fun ⟨_, _, _⟩ => by grind

theorem exact_ueSliceConf : Exact Dec.fillUeSliceConf (fun _ => True) UeSliceConf.members := by
  refine (Exact.field UeSliceConf.ues (fetchCounted_exact exact_ueSliceAssoc) (fun _ _ => .pure fun ⟨_⟩ => by simp)
    fun _ _ _ _ => trivial).congr fun conf _ => ?_
  rw [List.append_nil]
  rfl

theorem exact_delSlice : Exact Dec.fillDelSlice (fun _ => True) DelSliceConf.members := by
  refine (Exact.field DelSliceConf.dl fetchScalars_exact (fun _ _ => .field DelSliceConf.ul fetchScalars_exact
    (fun _ _ => .pure fun ⟨_, _⟩ => by grind) fun _ _ => trivial) fun _ _ => trivial).congr fun conf _ => ?_
  rw [List.append_nil]
  rfl

theorem exact_ctrlMsg : Exact Dec.fillCtrlMsg SliceCtrlMsg.WellFormed SliceCtrlMsg.members := by
  refine Exact.enum SliceCtrlMsg.type (fun type => ?_) (by decide) ⟨.del ⟨.empty, .empty⟩, trivial⟩
  cases type with
  | add =>
    exact ((exact_sliceConf).map SliceCtrlMsg.add (fun msg => by
      cases msg <;> simp [SliceCtrlMsg.type, SliceCtrlMsg.WellFormed]) fun _ => rfl).toSound
  | del =>
    exact ((exact_delSlice).map SliceCtrlMsg.del (fun msg => by
      cases msg <;> simp [SliceCtrlMsg.type, SliceCtrlMsg.WellFormed]) fun _ => rfl).toSound
  | ueSliceAssoc =>
    exact ((exact_ueSliceConf).map SliceCtrlMsg.ueSliceAssoc (fun msg => by
      cases msg <;> simp [SliceCtrlMsg.type, SliceCtrlMsg.WellFormed]) fun _ => rfl).toSound

/-! ### Indications -/

/-- The reader of an indication without its assertions in between. -/
def readIndMsg : Reader SliceIndMsg := do
  let sliceConf ← Dec.fillSliceConf
  let ueSliceConf ← Dec.fillUeSliceConf
  let tstamp ← fetch Int64
  return ⟨sliceConf, ueSliceConf, tstamp⟩

theorem exact_readIndMsg : Exact readIndMsg SliceIndMsg.WellFormed SliceIndMsg.members :=
  .field SliceIndMsg.sliceConf exact_sliceConf (fun _ hconf => .field SliceIndMsg.ueSliceConf exact_ueSliceConf
    (fun _ _ => .scalar SliceIndMsg.tstamp fun _ => .pure fun ⟨_, _, _⟩ => by grind [SliceIndMsg.WellFormed])
      fun _ _ => trivial) fun _ h => h

/-- The chunk ends after the configuration of the slices or after the UEs, where the decoder asserts that it does
not. -/
def EndsAfterPart (buf : Bytes) : Prop :=
  ∃ conf : SliceConf, conf.WellFormed ∧
    (buf = conf.members.flatten ∨ ∃ ues : UeSliceConf, buf = conf.members.flatten ++ ues.members.flatten)

theorem withinChunk_of_ne {msg : String} {buf : Bytes} (h : buf ≠ []) : withinChunk msg buf = .ok ((), buf) := if_neg h

theorem fillIndMsg_of_not_endsAfterPart {buf : Bytes} (h : ¬EndsAfterPart buf) : Dec.fillIndMsg buf = readIndMsg buf := by
  rw [Dec.fillIndMsg, readIndMsg]
  cases hr : Dec.fillSliceConf buf with
  | error msg => rw [bind_of_error hr, bind_of_error hr]
  | ok p =>
    obtain ⟨conf, rest⟩ := p
    obtain ⟨hV, rfl⟩ := (exact_sliceConf).accepts.mp hr
    have hne : rest ≠ [] := by
      rintro rfl
      exact h ⟨conf, hV, .inl (List.append_nil _)⟩
    rw [bind_of_ok hr, bind_of_ok hr, bind_of_ok (withinChunk_of_ne hne)]
    cases hr' : Dec.fillUeSliceConf rest with
    | error msg => rw [bind_of_error hr', bind_of_error hr']
    | ok p =>
      obtain ⟨ues, rest'⟩ := p
      obtain ⟨-, rfl⟩ := (exact_ueSliceConf).accepts.mp hr'
      have hne' : rest' ≠ [] := by
        rintro rfl
        exact h ⟨conf, hV, .inr ⟨ues, by rw [List.append_nil]⟩⟩
      rw [bind_of_ok hr', bind_of_ok hr', bind_of_ok (withinChunk_of_ne hne')]

theorem fillIndMsg_of_endsAfterPart {buf : Bytes} (h : EndsAfterPart buf) :
    Dec.fillIndMsg buf = .error "iterator out of memory chunk" := by
  obtain ⟨conf, hV, h⟩ := h
  have hconf : ∀ rest, Dec.fillSliceConf (conf.members.flatten ++ rest) = .ok (conf, rest) :=
    fun rest => (exact_sliceConf).accepts.mpr ⟨hV, rfl⟩
  rw [Dec.fillIndMsg]
  rcases h with rfl | ⟨ues, rfl⟩
  · have hr := hconf []
    rw [List.append_nil] at hr
    rw [bind_of_ok hr]
    rfl
  · have hues := (exact_ueSliceConf).accepts.mpr ⟨trivial, (List.append_nil ues.members.flatten).symm⟩
    have hne : ues.members.flatten ≠ [] := by
      intro hnil
      have hlen := congrArg List.length hnil
      simp [UeSliceConf.members] at hlen
    rw [bind_of_ok (hconf _), bind_of_ok (withinChunk_of_ne hne), bind_of_ok hues]
    rfl

/-! ### What the decoders do -/

/-- The chunk ends inside a message, and the decoder of indications goes on reading. -/
def SliceIndMsg.CutOff (buf : Bytes) : Prop := Cut SliceIndMsg.WellFormed SliceIndMsg.members buf ∧ ¬EndsAfterPart buf

/-- The same for a control message: the decoder asserts that there is a first byte. -/
def SliceCtrlMsg.CutOff (buf : Bytes) : Prop := Cut SliceCtrlMsg.WellFormed SliceCtrlMsg.members buf ∧ buf ≠ []

/-- The decoder reads nothing past the end of the chunk, and it accepts only what is the encoding of a message. -/
def SafeOn {α : Type} (dec : Bytes → Except String α) (enc : α → Except String Bytes) (buf : Bytes) : Prop :=
  dec buf ≠ .error pastEnd ∧ ∀ a, dec buf = .ok a → enc a = .ok buf

/-- The blocks of the texts do not change what is read past the end of the chunk. -/
theorem inBlocks_past {α : Type} {x : Except String α} {texts : α → List (Counted UInt8)} :
    (x >>= inBlocks texts) = .error pastEnd ↔ x = .error pastEnd := by
  cases x with
  | error msg => exact Iff.rfl
  | ok a =>
    refine iff_of_false (fun h => ?_) nofun
    rw [Except.ok_bind, inBlocks] at h
    by_cases hin : ∀ text ∈ texts a, InBlock text
    · rw [require_of hin] at h
      cases h
    · rw [require, if_neg hin] at h
      exact absurd (Except.error.inj h) (by decide)

/-- What is decoded was read. -/
theorem read_of_inBlocks {α : Type} {x : Except String α} {texts : α → List (Counted UInt8)} {a : α}
    (h : (x >>= inBlocks texts) = .ok a) : x = .ok a := by
  obtain ⟨b, hx, h⟩ := Except.bind_eq_ok.mp h
  rw [(inBlocks_eq_ok.mp h).1]
  exact hx

theorem decIndMsg_past {buf : Bytes} : sliceDecIndMsgPlain buf = .error pastEnd ↔ SliceIndMsg.CutOff buf := by
  rw [sliceDecIndMsgPlain, inBlocks_past, whole_past (by decide), SliceIndMsg.CutOff]
  by_cases h : EndsAfterPart buf
  · rw [fillIndMsg_of_endsAfterPart h]
    exact ⟨fun h => absurd (Except.error.inj h) (by decide), fun hc => absurd h hc.2⟩
  · rw [fillIndMsg_of_not_endsAfterPart h, (exact_readIndMsg).past]
    exact ⟨fun hc => ⟨hc, h⟩, And.left⟩

theorem readIndMsg_accepts {buf : Bytes} {indMsg : SliceIndMsg} {msg : String}
    (h : Dec.fillIndMsg.whole msg buf = .ok indMsg) : indMsg.WellFormed ∧ buf = indMsg.members.flatten := by
  have hn : ¬EndsAfterPart buf := by
    intro hp
    rw [Reader.whole, fillIndMsg_of_endsAfterPart hp] at h
    cases h
  rw [Reader.whole, fillIndMsg_of_not_endsAfterPart hn] at h
  exact (exact_readIndMsg).whole_accepts.mp h

theorem decCtrlMsg_past {buf : Bytes} : sliceDecCtrlMsgPlain buf = .error pastEnd ↔ SliceCtrlMsg.CutOff buf := by
  rw [sliceDecCtrlMsgPlain, SliceCtrlMsg.CutOff, ← (exact_ctrlMsg).past]
  by_cases h : buf = []
  · subst h
    exact ⟨fun h => absurd (Except.error.inj h) (by decide), fun hc => absurd rfl hc.2⟩
  · rw [require_of (List.length_pos_iff.mpr h), Except.ok_bind, inBlocks_past, whole_past (by decide)]
    exact ⟨fun hc => ⟨hc, h⟩, And.left⟩

/-- A well formed message is encoded as its members, one after the other. -/
theorem encIndMsg_eq {indMsg : SliceIndMsg} (h : indMsg.WellFormed) :
    sliceEncIndMsgPlain indMsg = .ok indMsg.members.flatten := by
  obtain ⟨buf, henc, -, hread⟩ := sliceEncIndMsg_reads h
  rw [henc, (readIndMsg_accepts hread).2]

theorem encCtrlMsg_eq {ctrlMsg : SliceCtrlMsg} (h : ctrlMsg.WellFormed) :
    sliceEncCtrlMsgPlain ctrlMsg = .ok ctrlMsg.members.flatten := by
  obtain ⟨buf, henc, -, -, hread⟩ := sliceEncCtrlMsg_reads h
  rw [henc, ((exact_ctrlMsg).whole_accepts.mp hread).2]

/-- The decoders are safe on a chunk exactly when it does not end inside a message, other than where they look. -/
theorem safe_iff_not_cutOff (buf : Bytes) :
    (SafeOn sliceDecIndMsgPlain sliceEncIndMsgPlain buf ↔ ¬SliceIndMsg.CutOff buf) ∧
    (SafeOn sliceDecCtrlMsgPlain sliceEncCtrlMsgPlain buf ↔ ¬SliceCtrlMsg.CutOff buf) := by
  refine ⟨⟨fun h hc => h.1 ((decIndMsg_past).mpr hc), fun h => ⟨mt (decIndMsg_past).mp h, fun a ha => ?_⟩⟩,
    ⟨fun h hc => h.1 ((decCtrlMsg_past).mpr hc), fun h => ⟨mt (decCtrlMsg_past).mp h, fun a ha => ?_⟩⟩⟩
  · obtain ⟨hV, rfl⟩ := readIndMsg_accepts (read_of_inBlocks ha)
    exact encIndMsg_eq hV
  · obtain ⟨_, -, ha⟩ := Except.bind_eq_ok.mp ha
    obtain ⟨hV, rfl⟩ := (exact_ctrlMsg).whole_accepts.mp (read_of_inBlocks ha)
    exact encCtrlMsg_eq hV

/-- The name of a scheduler with eight bytes is announced, and slices that are to be deleted, and nothing follows. -/
theorem announced_not_there :
    sliceDecIndMsgPlain [8, 0, 0, 0] = .error pastEnd ∧ sliceDecCtrlMsgPlain [1, 0, 0, 0] = .error pastEnd ∧
    ¬∀ buf, SafeOn sliceDecIndMsgPlain sliceEncIndMsgPlain buf ∧ SafeOn sliceDecCtrlMsgPlain sliceEncCtrlMsgPlain buf := by
  have hind : sliceDecIndMsgPlain [8, 0, 0, 0] = .error pastEnd := rfl
  exact ⟨hind, rfl, fun h => (h [8, 0, 0, 0]).1.1 hind⟩

end FlexRic.Sm.Slice
