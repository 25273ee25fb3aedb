import FlexRic.Sm.Rc.FuncDef
import FlexRic.Lib.Carried

/-! # Which RAN function definitions of the RC service model go there and back

A definition in its bounds does when its identifiers are positive, nothing is in it that neither side implements, and no
call process type has a name of 150 bytes: of that name the encoder asserts a byte less than the decoder and the encoders
of the other names. -/

namespace FlexRic.Sm.Rc

/-! ### Lists that are absent when they are empty -/

section Lists
variable {α β : Type} {enc : α → Except String β} {dec : β → Except String α} {l : List α}

theorem encList_cons {a : α} {P : Option (List β) → Prop} :
    (∃ b, encList enc (a :: l) = .ok b ∧ P b) ↔ ∃ bs, (a :: l).mapM enc = .ok bs ∧ P (some bs) := by
  constructor
  · rintro ⟨_, henc, hP⟩
    obtain ⟨bs, hbs, heq⟩ := Except.bind_eq_ok.mp henc
    cases heq
    exact ⟨bs, hbs, hP⟩
  · rintro ⟨bs, hbs, hP⟩
    exact ⟨some bs, Except.bind_eq_ok.mpr ⟨bs, hbs, rfl⟩, hP⟩

theorem roundTrips_encList : RoundTrips (encList enc) (decList dec) l ↔ ∀ a ∈ l, RoundTrips enc dec a := by
  cases l with
  | nil => exact iff_of_true ⟨none, rfl, rfl⟩ (List.forall_mem_nil _)
  | cons a l => exact encList_cons.trans roundTrips_mapM

theorem roundTrips_encList_sized {size : Nat → Prop} [DecidablePred size] {msg : String} (hsize : size l.length) :
    RoundTrips (encList enc) (decListSized size msg dec) l ↔ ∀ a ∈ l, RoundTrips enc dec a := by
  cases l with
  | nil => exact iff_of_true ⟨none, rfl, rfl⟩ (List.forall_mem_nil _)
  | cons a l =>
    rw [← roundTrips_mapM]
    refine encList_cons.trans (exists_congr fun bs => and_congr_right fun hbs => ?_)
    rw [decListSized, mapSized_eq_ok, Except.length_of_mapM hbs, and_iff_right hsize]

end Lists

/-! ### Parameters -/

/-- The bounds of a list of parameters and of their names -/
def ParamsInBounds (l : List SeqRanParam3) : Prop := upTo 65535 l.length ∧ ∀ p ∈ l, oneTo 150 p.name.length

def SeqRanParam3.Sendable (p : SeqRanParam3) : Prop := 0 < p.id ∧ p.def_ = none

section Params
variable {p : SeqRanParam3} {msg msg' : String}

/-- Whatever else a decoder asserts, it is the encoder that refuses a parameter. -/
theorem SeqRanParam3.roundTrips_of {dec : Asn.NamedParameterItem → Except String SeqRanParam3}
    (hname : oneTo 150 p.name.length)
    (hdec : 0 < p.id → dec ⟨p.id.toNat, p.name, none⟩ = .ok ⟨p.id, p.name, none⟩) :
    RoundTrips (encSeqRanParam3 msg) dec p ↔ p.Sendable := by
  obtain ⟨id, name, def_⟩ := p
  simp only [RoundTrips, encSeqRanParam3, exists_require_iff]
  constructor
  · rintro ⟨hid, -, hdef, -⟩
    exact ⟨hid, hdef⟩
  · rintro ⟨hid, rfl⟩
    exact ⟨hid, hname, rfl, _, rfl, hdec hid⟩

theorem SeqRanParam3.roundTrips_inRange (hname : oneTo 150 p.name.length) :
    RoundTrips (encSeqRanParam3 msg) decNamedParameterInRange p ↔ p.Sendable := by
  refine SeqRanParam3.roundTrips_of hname fun hid => ?_
  simp only [decNamedParameterInRange, require_of (UInt32.toNat_inRange hid), require_of hname, require_true,
    Except.ok_bind, Except.pure_eq, UInt32.ofNat_toNat]

theorem SeqRanParam3.roundTrips (hname : oneTo 150 p.name.length) :
    RoundTrips (encSeqRanParam3 msg) (decNamedParameter msg') p ↔ p.Sendable := by
  refine SeqRanParam3.roundTrips_of hname fun hid => ?_
  simp only [decNamedParameter, require_of (UInt32.toNat_inRange hid).1, require_of hname, require_true,
    Except.ok_bind, Except.pure_eq, UInt32.ofNat_toNat]

theorem encSeqInsInd3_roundTrips (hname : oneTo 150 p.name.length) :
    RoundTrips encSeqInsInd3 decSeqInsInd3 p ↔ p.Sendable := by
  have hchecked : RoundTrips encSeqReportRanParamIt decSeqInsInd3 p ↔ p.Sendable := SeqRanParam3.roundTrips hname
  rw [← hchecked]
  simp only [RoundTrips, encSeqInsInd3, encSeqReportRanParamIt, encSeqRanParam3, exists_require_iff,
    and_iff_right hname]

end Params

/-! ### The event trigger -/

structure CallProcBreak.InBounds (b : CallProcBreak) : Prop where
  name : oneTo 150 b.name.length
  param : ParamsInBounds b.param

def CallProcBreak.Sendable (b : CallProcBreak) : Prop := 0 < b.id ∧ ∀ p ∈ b.param, p.Sendable

theorem CallProcBreak.roundTrips {b : CallProcBreak} (hb : b.InBounds) :
    RoundTrips encCallProcBreak decCallProcBreak b ↔ b.Sendable := by
  obtain ⟨id, name, param⟩ := b
  obtain ⟨hname, -, hparam⟩ := hb
  have hparams : RoundTrips (encList encSeqRanParam32) (decList decSeqRanParam3) param ↔ ∀ p ∈ param, p.Sendable :=
    roundTrips_encList.trans (forall₂_congr fun p hp => SeqRanParam3.roundTrips_inRange (hparam p hp))
  simp only [RoundTrips, encCallProcBreak, exists_require_iff, and_iff_right hname]
  refine and_congr_right fun hid => (exists_bind_iff (CallProcBreak.mk id name) (fun b => ?_) fun _ _ h => ?_).trans hparams
  · simp only [decCallProcBreak, require_of (UInt16.toNat_lt_65536 hid), require_of hname, Except.ok_bind,
      Except.pure_eq, UInt16.ofInt_toNat]
  · injection h

structure SeqCallProcType.InBounds (t : SeqCallProcType) : Prop where
  name : oneTo 150 t.name.length
  size : oneTo 65535 t.callProcBreak.length
  callProcBreak : ∀ b ∈ t.callProcBreak, b.InBounds

/-- Of the name, a byte less than its bounds allow -/
def SeqCallProcType.Sendable (t : SeqCallProcType) : Prop :=
  0 < t.id ∧ t.name.length < 150 ∧ ∀ b ∈ t.callProcBreak, b.Sendable

theorem SeqCallProcType.roundTrips {t : SeqCallProcType} (ht : t.InBounds) :
    RoundTrips encSeqCallProcType decSeqCallProcType t ↔ t.Sendable := by
  obtain ⟨id, name, breaks⟩ := t
  obtain ⟨hname, hsize, hbreaks⟩ := ht
  have hlist : (∀ b ∈ breaks, RoundTrips encCallProcBreak decCallProcBreak b) ↔ ∀ b ∈ breaks, b.Sendable :=
    forall₂_congr fun b hb => CallProcBreak.roundTrips (hbreaks b hb)
  have hshort : oneTo 149 name.length ↔ name.length < 150 := and_iff_right hname.1
  simp only [RoundTrips, encSeqCallProcType, exists_require_iff, hshort]
  refine and_congr_right fun hid => and_congr_right fun _ => ?_
  exact (exists_bind_iff (SeqCallProcType.mk id name) (fun b => by
    simp only [decSeqCallProcType, require_of (UInt16.toNat_lt_65536 hid), require_of hname, Except.ok_bind,
      Except.pure_eq, UInt16.ofInt_toNat]
    rfl) fun _ _ h => by injection h).trans ((roundTrips_mapSized hsize hsize).trans hlist)

theorem decSeqEvTrgStyle_of {s : SeqEvTrgStyle} (hname : oneTo 150 s.name.length) :
    RoundTrips encRanFuncDefEvTrgStyIt decSeqEvTrgStyle s := by
  obtain ⟨style, name, format⟩ := s
  have henc : encRanFuncDefEvTrgStyIt ⟨style, name, format⟩ = .ok ⟨style.toNat, name, format.toNat⟩ := by
    simp only [encRanFuncDefEvTrgStyIt, require_of hname, Except.ok_bind, Except.pure_eq]
  refine ⟨_, henc, ?_⟩
  simp only [decSeqEvTrgStyle, require_of hname, Except.ok_bind, Except.pure_eq, UInt32.ofInt_toNat]

structure RanFuncDefEvTrig.InBounds (t : RanFuncDefEvTrig) : Prop where
  styles : oneTo 63 t.seqEvTrgStyle.length
  styleName : ∀ s ∈ t.seqEvTrgStyle, oneTo 150 s.name.length
  l2Var : ParamsInBounds t.seqRanParamL2Var
  callProcs : upTo 65535 t.seqCallProcType.length
  callProcType : ∀ c ∈ t.seqCallProcType, c.InBounds
  idUe : ParamsInBounds t.seqRanParamIdUe
  idCell : ParamsInBounds t.seqRanParamIdCell

structure RanFuncDefEvTrig.Sendable (t : RanFuncDefEvTrig) : Prop where
  l2Var : ∀ p ∈ t.seqRanParamL2Var, p.Sendable
  callProcType : ∀ c ∈ t.seqCallProcType, c.Sendable
  idUe : ∀ p ∈ t.seqRanParamIdUe, p.Sendable
  idCell : ∀ p ∈ t.seqRanParamIdCell, p.Sendable

theorem RanFuncDefEvTrig.roundTrips {t : RanFuncDefEvTrig} (ht : t.InBounds) :
    RoundTrips encRanFuncDefEvTrg decRanFunDefEvTrg t ↔ t.Sendable := by
  obtain ⟨styles, l2Var, callProcs, idUe, idCell⟩ := t
  obtain ⟨hstyles, hname, ⟨-, hl2⟩, -, hcall, ⟨-, hue⟩, ⟨-, hcell⟩⟩ := ht
  -- Every list by itself
  have hl2Var : RoundTrips (encList encSeqRanParamL2Var) (decList decSeqRanParamL2Var) l2Var ↔
      ∀ p ∈ l2Var, p.Sendable :=
    roundTrips_encList.trans (forall₂_congr fun p hp => SeqRanParam3.roundTrips_inRange (hl2 p hp))
  have hcallProcs : RoundTrips (encList encSeqCallProcType) (decList decSeqCallProcType) callProcs ↔
      ∀ c ∈ callProcs, c.Sendable :=
    roundTrips_encList.trans (forall₂_congr fun c hc => SeqCallProcType.roundTrips (hcall c hc))
  have hidUe : RoundTrips (encList encSeqRanParamIdUe) (decList decSeqRanParamIdUe) idUe ↔ ∀ p ∈ idUe, p.Sendable :=
    roundTrips_encList.trans (forall₂_congr fun p hp => SeqRanParam3.roundTrips_inRange (hue p hp))
  have hidCell : RoundTrips (encList encSeqRanParamIdCell) (decList decSeqRanParamIdCell) idCell ↔
      ∀ p ∈ idCell, p.Sendable :=
    roundTrips_encList.trans (forall₂_congr fun p hp => SeqRanParam3.roundTrips_inRange (hcell p hp))
  constructor
  · rintro ⟨_, henc, hdec⟩
    simp only [encRanFuncDefEvTrg, Except.bind_eq_ok, Except.pure_eq, Except.ok.injEq] at henc
    obtain ⟨styles', -, l2, hl2Enc, call, hcallEnc, ue, hueEnc, cell, hcellEnc, rfl⟩ := henc
    simp only [decRanFunDefEvTrg, Except.bind_eq_ok, Except.pure_eq, Except.ok.injEq] at hdec
    obtain ⟨_, -, _, hl2Dec, _, hcallDec, _, hueDec, _, hcellDec, heq⟩ := hdec
    cases heq
    exact ⟨hl2Var.mp ⟨l2, hl2Enc, hl2Dec⟩, hcallProcs.mp ⟨call, hcallEnc, hcallDec⟩, hidUe.mp ⟨ue, hueEnc, hueDec⟩,
      hidCell.mp ⟨cell, hcellEnc, hcellDec⟩⟩
  · rintro ⟨hl2Ok, hcallOk, hueOk, hcellOk⟩
    obtain ⟨styles', hstylesEnc, hstylesDec⟩ := roundTrips_mapM.mpr fun s hs => decSeqEvTrgStyle_of (hname s hs)
    have hsize : oneTo 63 styles'.length := Except.length_of_mapM hstylesEnc ▸ hstyles
    obtain ⟨l2, hl2Enc, hl2Dec⟩ := hl2Var.mpr hl2Ok
    obtain ⟨call, hcallEnc, hcallDec⟩ := hcallProcs.mpr hcallOk
    obtain ⟨ue, hueEnc, hueDec⟩ := hidUe.mpr hueOk
    obtain ⟨cell, hcellEnc, hcellDec⟩ := hidCell.mpr hcellOk
    refine ⟨⟨styles', l2, call, ue, cell⟩, ?_, ?_⟩
    · simp only [encRanFuncDefEvTrg, mapSized_eq_ok.mpr ⟨hstyles, hstylesEnc⟩, hl2Enc, hcallEnc, hueEnc, hcellEnc,
        Except.ok_bind, Except.pure_eq]
    · simp only [decRanFunDefEvTrg, mapSized_eq_ok.mpr ⟨hsize, hstylesDec⟩, hl2Dec, hcallDec, hueDec, hcellDec,
        Except.ok_bind, Except.pure_eq]

/-! ### Styles

Reports, inserts, controls and policies are lists of styles of their own. -/

theorem roundTrips_styles {Def Style DefAsn Item : Type} {enc : Style → Except String Item}
    {dec : Item → Except String Style} {decDef : DefAsn → Except String Def} {mkAsn : List Item → DefAsn}
    {Sendable : Style → Prop} {encMsg decMsg : String} {styles : List Style} (mk : List Style → Def)
    (hdec : ∀ items, decDef (mkAsn items) = mapSized (oneTo 63) decMsg dec items >>= fun styles => .ok (mk styles))
    (hmk : Function.Injective mk) (hsize : oneTo 63 styles.length)
    (hstyle : ∀ s ∈ styles, (RoundTrips enc dec s ↔ Sendable s)) :
    (∃ i, (mapSized (oneTo 63) encMsg enc styles >>= fun items => .ok (mkAsn items)) = .ok i ∧
      decDef i = .ok (mk styles)) ↔ ∀ s ∈ styles, Sendable s :=
  (exists_bind_iff mk hdec hmk).trans ((roundTrips_mapSized hsize hsize).trans (forall₂_congr hstyle))

/-! ### Reports -/

structure SeqReportSty.InBounds (r : SeqReportSty) : Prop where
  name : oneTo 150 r.name.length
  ranParam : ParamsInBounds r.ranParam

def SeqReportSty.Sendable (r : SeqReportSty) : Prop := ∀ p ∈ r.ranParam, p.Sendable

theorem SeqReportSty.roundTrips {r : SeqReportSty} (hr : r.InBounds) :
    RoundTrips encSeqReportSty decSeqReportSty r ↔ r.Sendable := by
  obtain ⟨reportType, name, evTrigType, actFrmtType, indHdrType, indMsgType, ranParam⟩ := r
  obtain ⟨hname, hsize, hparam⟩ := hr
  simp only [RoundTrips, encSeqReportSty, exists_require_iff, and_iff_right hname, and_iff_right hsize]
  exact (exists_bind_iff (SeqReportSty.mk reportType name evTrigType actFrmtType indHdrType indMsgType) (fun b => by
    simp only [decSeqReportSty, require_of hname, Except.ok_bind, Except.pure_eq, UInt32.ofInt_toNat]
    rfl) fun _ _ h => by injection h).trans ((roundTrips_encList_sized hsize).trans
      (forall₂_congr fun p hp => SeqRanParam3.roundTrips (hparam p hp)))

structure RanFuncDefReport.InBounds (r : RanFuncDefReport) : Prop where
  styles : oneTo 63 r.seqReportSty.length
  style : ∀ s ∈ r.seqReportSty, s.InBounds

def RanFuncDefReport.Sendable (r : RanFuncDefReport) : Prop := ∀ s ∈ r.seqReportSty, s.Sendable

theorem RanFuncDefReport.roundTrips {r : RanFuncDefReport} (hr : r.InBounds) :
    RoundTrips encRanFuncDefReport decRanFuncDefReport r ↔ r.Sendable :=
  roundTrips_styles RanFuncDefReport.mk (fun _ => rfl) (fun _ _ h => by injection h) hr.styles fun s hs =>
    SeqReportSty.roundTrips (hr.style s hs)

/-! ### Inserts -/

structure SeqInsInd.InBounds (i : SeqInsInd) : Prop where
  name : oneTo 150 i.name.length
  seqInsInd : ParamsInBounds i.seqInsInd

def SeqInsInd.Sendable (i : SeqInsInd) : Prop := 0 < i.id ∧ ∀ p ∈ i.seqInsInd, p.Sendable

theorem SeqInsInd.roundTrips {i : SeqInsInd} (hi : i.InBounds) :
    RoundTrips encSeqInsInd decSeqInsInd i ↔ i.Sendable := by
  obtain ⟨id, name, params⟩ := i
  obtain ⟨hname, hsize, hparam⟩ := hi
  simp only [RoundTrips, encSeqInsInd, exists_require_iff, and_iff_right hname, and_iff_right hsize]
  refine and_congr_right fun hid => ?_
  exact (exists_bind_iff (SeqInsInd.mk id name) (fun b => by
    simp only [decSeqInsInd, require_of (UInt16.toNat_pos hid), require_of hname, Except.ok_bind, Except.pure_eq,
      UInt16.ofInt_toNat]) fun _ _ h => by injection h).trans (roundTrips_encList.trans
      (forall₂_congr fun p hp => encSeqInsInd3_roundTrips (hparam p hp)))

structure SeqInsSty.InBounds (s : SeqInsSty) : Prop where
  name : oneTo 150 s.name.length
  indications : upTo 65535 s.seqInsInd.length
  indication : ∀ i ∈ s.seqInsInd, i.InBounds

def SeqInsSty.Sendable (s : SeqInsSty) : Prop := ∀ i ∈ s.seqInsInd, i.Sendable

theorem SeqInsSty.roundTrips {s : SeqInsSty} (hs : s.InBounds) :
    RoundTrips encSeqInsSty decSeqInsSty s ↔ s.Sendable := by
  obtain ⟨styleType, name, evTrig, actDef, indications, hdr, msg, callProcId⟩ := s
  obtain ⟨hname, hsize, hind⟩ := hs
  simp only [RoundTrips, encSeqInsSty, exists_require_iff, and_iff_right hname]
  exact (exists_bind_iff (SeqInsSty.mk styleType name evTrig actDef · hdr msg callProcId) (fun b => by
    simp only [decSeqInsSty, require_of hname, Except.ok_bind, Except.pure_eq, UInt32.ofInt_toNat]
    rfl) fun _ _ h => by injection h).trans ((roundTrips_encList_sized hsize).trans
      (forall₂_congr fun i hi => SeqInsInd.roundTrips (hind i hi)))

structure RanFuncDefInsert.InBounds (i : RanFuncDefInsert) : Prop where
  styles : oneTo 63 i.seqInsSty.length
  style : ∀ s ∈ i.seqInsSty, s.InBounds

def RanFuncDefInsert.Sendable (i : RanFuncDefInsert) : Prop := ∀ s ∈ i.seqInsSty, s.Sendable

theorem RanFuncDefInsert.roundTrips {i : RanFuncDefInsert} (hi : i.InBounds) :
    RoundTrips encRanFuncDefInsert decRanFuncDefInsert i ↔ i.Sendable :=
  roundTrips_styles RanFuncDefInsert.mk (fun _ => rfl) (fun _ _ h => by injection h) hi.styles fun s hs =>
    SeqInsSty.roundTrips (hi.style s hs)

/-! ### Controls -/

structure SeqCtrlAct2.InBounds (c : SeqCtrlAct2) : Prop where
  name : oneTo 150 c.name.length
  assocRanParam : ParamsInBounds c.assocRanParam

def SeqCtrlAct2.Sendable (c : SeqCtrlAct2) : Prop := 0 < c.id ∧ ∀ p ∈ c.assocRanParam, p.Sendable

theorem SeqCtrlAct2.roundTrips {c : SeqCtrlAct2} (hc : c.InBounds) :
    RoundTrips encRanFuncDefCtrlActIt decRanFuncCtrlAct c ↔ c.Sendable := by
  obtain ⟨id, name, params⟩ := c
  obtain ⟨hname, hsize, hparam⟩ := hc
  simp only [RoundTrips, encRanFuncDefCtrlActIt, exists_require_iff, and_iff_right hname, and_iff_right hsize]
  refine and_congr_right fun hid => ?_
  exact (exists_bind_iff (SeqCtrlAct2.mk id name) (fun b => by
    simp only [decRanFuncCtrlAct, require_of (UInt16.toNat_lt_65536 hid), require_of hname, Except.ok_bind,
      Except.pure_eq, UInt16.ofInt_toNat]
    rfl) fun _ _ h => by injection h).trans ((roundTrips_encList_sized hsize).trans
      (forall₂_congr fun p hp => SeqRanParam3.roundTrips (hparam p hp)))

/-- Of the parameters of the outcome, the number that only the decoder asserts -/
structure SeqCtrlStyle.InBounds (s : SeqCtrlStyle) : Prop where
  name : oneTo 150 s.name.length
  actions : upTo 65535 s.seqCtrlAct.length
  action : ∀ c ∈ s.seqCtrlAct, c.InBounds
  outcome : upTo 255 s.ranParamCtrlOut.length
  outcomeName : ∀ p ∈ s.ranParamCtrlOut, oneTo 150 p.name.length

structure SeqCtrlStyle.Sendable (s : SeqCtrlStyle) : Prop where
  action : ∀ c ∈ s.seqCtrlAct, c.Sendable
  callProcIdType : s.callProcIdType = none
  outcome : ∀ p ∈ s.ranParamCtrlOut, p.Sendable

theorem SeqCtrlStyle.roundTrips {s : SeqCtrlStyle} (hs : s.InBounds) :
    RoundTrips encRanFuncDefCtrlIt decRanFuncCtrlIt s ↔ s.Sendable := by
  obtain ⟨styleType, name, actions, hdr, msg, callProcIdType, outFrmt, outcome⟩ := s
  obtain ⟨hname, hactions, haction, houtcome, houtcomeName⟩ := hs
  have hroom : upTo 65535 outcome.length := Nat.lt_trans houtcome (by decide)
  cases callProcIdType with
  | some id =>
    refine iff_of_false ?_ fun h => nomatch h.callProcIdType
    rintro ⟨_, henc, -⟩
    simp only [encRanFuncDefCtrlIt, Except.bind_eq_ok, require_eq_ok] at henc
    obtain ⟨-, -, -, -, -, -, -, hnone, -⟩ := henc
    cases hnone
  | none =>
    simp only [RoundTrips, encRanFuncDefCtrlIt, exists_require_iff, and_iff_right hname, and_iff_right hactions,
      require_of hroom, require_true, Except.ok_bind]
    have hparts : (∀ c ∈ actions, c.Sendable) ∧ (∀ p ∈ outcome, p.Sendable) ↔
        SeqCtrlStyle.Sendable ⟨styleType, name, actions, hdr, msg, none, outFrmt, outcome⟩ :=
      ⟨fun h => ⟨h.1, rfl, h.2⟩, fun h => ⟨h.action, h.outcome⟩⟩
    rw [← hparts]
    exact (exists_bind_bind_iff (SeqCtrlStyle.mk styleType name · hdr msg none outFrmt ·) (fun b b' => by
      simp only [decRanFuncCtrlIt, require_of hname, require_true, Except.ok_bind, Except.pure_eq, UInt32.ofInt_toNat]
      rfl) fun _ _ _ _ h => by injection h; exact ⟨‹_›, ‹_›⟩).trans (and_congr
        ((roundTrips_encList_sized hactions).trans (forall₂_congr fun c hc => SeqCtrlAct2.roundTrips (haction c hc)))
        ((roundTrips_encList_sized houtcome).trans
          (forall₂_congr fun p hp => SeqRanParam3.roundTrips (houtcomeName p hp))))

structure RanFuncDefCtrl.InBounds (c : RanFuncDefCtrl) : Prop where
  styles : oneTo 63 c.seqCtrlStyle.length
  style : ∀ s ∈ c.seqCtrlStyle, s.InBounds

def RanFuncDefCtrl.Sendable (c : RanFuncDefCtrl) : Prop := ∀ s ∈ c.seqCtrlStyle, s.Sendable

theorem RanFuncDefCtrl.roundTrips {c : RanFuncDefCtrl} (hc : c.InBounds) :
    RoundTrips encRanFuncDefCtrl decRanFuncDefCtrl c ↔ c.Sendable :=
  roundTrips_styles RanFuncDefCtrl.mk (fun _ => rfl) (fun _ _ h => by injection h) hc.styles fun s hs =>
    SeqCtrlStyle.roundTrips (hc.style s hs)

/-! ### Policies -/

structure SeqPolAction.InBounds (a : SeqPolAction) : Prop where
  name : oneTo 150 a.name.length
  action : ParamsInBounds a.seqAssocRpAction
  policy : ParamsInBounds a.seqAssocRpPolicy

def SeqPolAction.Sendable (a : SeqPolAction) : Prop :=
  (∀ p ∈ a.seqAssocRpAction, p.Sendable) ∧ ∀ p ∈ a.seqAssocRpPolicy, p.Sendable

theorem SeqPolAction.roundTrips {a : SeqPolAction} (ha : a.InBounds) :
    RoundTrips encRanFuncDefPolAct decSeqPolActionIt a ↔ a.Sendable := by
  obtain ⟨actionId, name, frmtType, action, policy⟩ := a
  obtain ⟨hname, ⟨haction, hactionName⟩, ⟨hpolicy, hpolicyName⟩⟩ := ha
  simp only [RoundTrips, encRanFuncDefPolAct, exists_require_iff, and_iff_right hname, and_iff_right haction,
    require_of hpolicy, Except.ok_bind]
  exact (exists_bind_bind_iff (SeqPolAction.mk actionId name frmtType) (fun b b' => by
    simp only [decSeqPolActionIt, require_of hname, Except.ok_bind, Except.pure_eq, UInt32.ofInt_toNat]
    rfl) fun _ _ _ _ h => by injection h; exact ⟨‹_›, ‹_›⟩).trans (and_congr
      ((roundTrips_encList_sized haction).trans
        (forall₂_congr fun p hp => SeqRanParam3.roundTrips (hactionName p hp)))
      ((roundTrips_encList_sized hpolicy).trans
        (forall₂_congr fun p hp => SeqRanParam3.roundTrips (hpolicyName p hp))))

structure SeqPolicySty.InBounds (s : SeqPolicySty) : Prop where
  name : oneTo 150 s.name.length
  actions : upTo 65535 s.seqPolAction.length
  action : ∀ a ∈ s.seqPolAction, a.InBounds

def SeqPolicySty.Sendable (s : SeqPolicySty) : Prop := ∀ a ∈ s.seqPolAction, a.Sendable

theorem SeqPolicySty.roundTrips {s : SeqPolicySty} (hs : s.InBounds) :
    RoundTrips encRanFuncDefPolIt decRanFuncDefPolicyIt s ↔ s.Sendable := by
  obtain ⟨styleType, name, evTrgStyleType, actions⟩ := s
  obtain ⟨hname, hsize, haction⟩ := hs
  simp only [RoundTrips, encRanFuncDefPolIt, exists_require_iff, and_iff_right hname, and_iff_right hsize]
  exact (exists_bind_iff (SeqPolicySty.mk styleType name evTrgStyleType) (fun b => by
    simp only [decRanFuncDefPolicyIt, require_of hname, Except.ok_bind, Except.pure_eq, UInt32.ofInt_toNat]
    rfl) fun _ _ h => by injection h).trans ((roundTrips_encList_sized hsize).trans
      (forall₂_congr fun a ha => SeqPolAction.roundTrips (haction a ha)))

structure RanFuncDefPolicy.InBounds (f : RanFuncDefPolicy) : Prop where
  styles : oneTo 63 f.seqPolicySty.length
  style : ∀ s ∈ f.seqPolicySty, s.InBounds

def RanFuncDefPolicy.Sendable (f : RanFuncDefPolicy) : Prop := ∀ s ∈ f.seqPolicySty, s.Sendable

theorem RanFuncDefPolicy.roundTrips {f : RanFuncDefPolicy} (hf : f.InBounds) :
    RoundTrips encRanFuncDefPolicy decRanFuncDefPolicy f ↔ f.Sendable :=
  roundTrips_styles RanFuncDefPolicy.mk (fun _ => rfl) (fun _ _ h => by injection h) hf.styles fun s hs =>
    SeqPolicySty.roundTrips (hf.style s hs)

/-! ### The definition -/

/-- Every list and every name is within the bounds that are written beside its member. -/
structure FuncDef.InBounds (f : FuncDef) : Prop where
  evTrig : ∀ t ∈ f.evTrig, t.InBounds
  report : ∀ r ∈ f.report, r.InBounds
  insert : ∀ i ∈ f.insert, i.InBounds
  ctrl : ∀ c ∈ f.ctrl, c.InBounds
  policy : ∀ p ∈ f.policy, p.InBounds

/-- Every identifier is positive, nothing is there that is not implemented, and the names of the call process types have
a byte to spare. -/
structure FuncDef.Sendable (f : FuncDef) : Prop where
  instance_ : f.name.instance_ = none
  evTrig : ∀ t ∈ f.evTrig, t.Sendable
  report : ∀ r ∈ f.report, r.Sendable
  insert : ∀ i ∈ f.insert, i.Sendable
  ctrl : ∀ c ∈ f.ctrl, c.Sendable
  policy : ∀ p ∈ f.policy, p.Sendable

theorem encRanFuncName_eq_ok {n : Kpm.RanFunctionName} {a : Kpm.RanFunctionNameAsn} (h : encRanFuncName n = .ok a) :
    n.instance_ = none ∧ decRanFuncName a = n := by
  obtain ⟨name, oid, description, instance_⟩ := n
  simp only [encRanFuncName, Except.bind_eq_ok, require_eq_ok, Except.pure_eq, Except.ok.injEq] at h
  obtain ⟨-, rfl, rfl⟩ := h
  exact ⟨rfl, rfl⟩

theorem FuncDef.roundTrips {f : FuncDef} (hf : f.InBounds) : RoundTrips rcEncFuncDef rcDecFuncDef f ↔ f.Sendable := by
  obtain ⟨name, evTrig, report, insert, ctrl, policy⟩ := f
  have hevTrig : RoundTrips (mapOptional encRanFuncDefEvTrg) (mapOptional decRanFunDefEvTrg) evTrig ↔
      ∀ t ∈ evTrig, t.Sendable :=
    roundTrips_mapOptional.trans (forall₂_congr fun t ht => RanFuncDefEvTrig.roundTrips (hf.evTrig t ht))
  have hreport : RoundTrips (mapOptional encRanFuncDefReport) (mapOptional decRanFuncDefReport) report ↔
      ∀ r ∈ report, r.Sendable :=
    roundTrips_mapOptional.trans (forall₂_congr fun r hr => RanFuncDefReport.roundTrips (hf.report r hr))
  have hinsert : RoundTrips (mapOptional encRanFuncDefInsert) (mapOptional decRanFuncDefInsert) insert ↔
      ∀ i ∈ insert, i.Sendable :=
    roundTrips_mapOptional.trans (forall₂_congr fun i hi => RanFuncDefInsert.roundTrips (hf.insert i hi))
  have hctrl : RoundTrips (mapOptional encRanFuncDefCtrl) (mapOptional decRanFuncDefCtrl) ctrl ↔
      ∀ c ∈ ctrl, c.Sendable :=
    roundTrips_mapOptional.trans (forall₂_congr fun c hc => RanFuncDefCtrl.roundTrips (hf.ctrl c hc))
  have hpolicy : RoundTrips (mapOptional encRanFuncDefPolicy) (mapOptional decRanFuncDefPolicy) policy ↔
      ∀ p ∈ policy, p.Sendable :=
    roundTrips_mapOptional.trans (forall₂_congr fun p hp => RanFuncDefPolicy.roundTrips (hf.policy p hp))
  constructor
  · rintro ⟨_, henc, hdec⟩
    simp only [rcEncFuncDef, Except.bind_eq_ok, Except.pure_eq, Except.ok.injEq] at henc
    obtain ⟨n, hname, e, heEnc, r, hrEnc, i, hiEnc, c, hcEnc, p, hpEnc, rfl⟩ := henc
    simp only [rcDecFuncDef, Except.bind_eq_ok, Except.pure_eq, Except.ok.injEq] at hdec
    obtain ⟨_, heDec, _, hrDec, _, hiDec, _, hcDec, _, hpDec, heq⟩ := hdec
    cases heq
    exact ⟨(encRanFuncName_eq_ok hname).1, hevTrig.mp ⟨e, heEnc, heDec⟩, hreport.mp ⟨r, hrEnc, hrDec⟩,
      hinsert.mp ⟨i, hiEnc, hiDec⟩, hctrl.mp ⟨c, hcEnc, hcDec⟩, hpolicy.mp ⟨p, hpEnc, hpDec⟩⟩
  · rintro ⟨hinst, heOk, hrOk, hiOk, hcOk, hpOk⟩
    obtain ⟨e, heEnc, heDec⟩ := hevTrig.mpr heOk
    obtain ⟨r, hrEnc, hrDec⟩ := hreport.mpr hrOk
    obtain ⟨i, hiEnc, hiDec⟩ := hinsert.mpr hiOk
    obtain ⟨c, hcEnc, hcDec⟩ := hctrl.mpr hcOk
    obtain ⟨p, hpEnc, hpDec⟩ := hpolicy.mpr hpOk
    have hname : encRanFuncName name = .ok ⟨name.name, name.oid, name.description, none⟩ := by
      rw [encRanFuncName, require_of hinst]
      rfl
    refine ⟨⟨⟨name.name, name.oid, name.description, none⟩, e, r, i, c, p⟩, ?_, ?_⟩
    · simp only [rcEncFuncDef, hname, heEnc, hrEnc, hiEnc, hcEnc, hpEnc, Except.ok_bind, Except.pure_eq]
    · simp only [rcDecFuncDef, heDec, hrDec, hiDec, hcDec, hpDec, (encRanFuncName_eq_ok hname).2, Except.ok_bind,
        Except.pure_eq]

end FlexRic.Sm.Rc
