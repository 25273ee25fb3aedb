import FlexRic.Sm.Rc.Eq
import FlexRic.Theorems.Sm.Rc.Ctrl
import FlexRic.Theorems.Ue.Eq
import FlexRic.Theorems.Ue.RoundTrip

/-! # Using what was decoded

Of what a decoder of the RC service model accepts, the encoder makes the same structure again, and the copy functions
the same value, when nothing was narrowed on the way and no value is a list with items: the identifiers of the items
are zero then, which the copy functions refuse. The identities of UEs and cells are those of `lib/sm`. -/

namespace FlexRic.Sm.Rc
open E2ap (BitString)
open Kpm (Cgi)
open Ue (UeIdAsn)
open Util (IdKind PlmnDigits)

/-! ### Values of parameters -/

@[elab_as_elim]
theorem Asn.RanParameterValueType.induct {motive : Asn.RanParameterValueType → Prop} (nothing : motive .nothing)
    (elementTrue : ∀ v, motive (.elementTrue v)) (elementFalse : ∀ v, motive (.elementFalse v))
    (missing : motive (.structure_ none))
    (structure_ : ∀ is, (∀ i ∈ is, motive i.ranParameterValueType) → motive (.structure_ (some is)))
    (list : ∀ ss, motive (.list ss)) (v : Asn.RanParameterValueType) : motive v :=
  @Asn.RanParameterValueType.rec motive (fun s => motive (.structure_ s)) (fun _ => True)
    (fun is => ∀ i ∈ is, motive i.ranParameterValueType) (fun i => motive i.ranParameterValueType) nothing elementTrue
    elementFalse (fun _ h => h) (fun ss _ => list ss) missing structure_ trivial (fun _ _ _ _ => trivial)
    (List.forall_mem_nil _) (fun _ _ hi his => List.forall_mem_cons.mpr ⟨hi, his⟩) (fun _ _ h => h) v

/-- No list of the value, at any depth, has items, and the identifiers of its members have room in 32 bits. -/
inductive Asn.RanParameterValueType.Usable : Asn.RanParameterValueType → Prop
  | elementTrue (v : Asn.RanParameterValue) : Usable (.elementTrue v)
  | elementFalse (v : Asn.RanParameterValue) : Usable (.elementFalse (some v))
  | structure_ {is : List (Asn.RanParameterItem Asn.RanParameterValueType)}
      (hid : ∀ i ∈ is, i.ranParameterId < 4294967296) (hval : ∀ i ∈ is, Usable i.ranParameterValueType) :
      Usable (.structure_ (some is))
  | list : Usable (.list [])

theorem Asn.RanParameterValueType.usable_structure {is : List (Asn.RanParameterItem Asn.RanParameterValueType)} :
    Usable (.structure_ (some is)) ↔ ∀ i ∈ is, i.ranParameterId < 4294967296 ∧ Usable i.ranParameterValueType := by
  constructor
  · intro h
    cases h with
    | structure_ hid hval => exact fun i hi => ⟨hid i hi, hval i hi⟩
  · intro h
    exact .structure_ (fun i hi => (h i hi).1) fun i hi => (h i hi).2

theorem Asn.RanParameterValueType.not_usable_list {s : Option (List (Asn.RanParameterItem Asn.RanParameterValueType))}
    {ss : List (Option (List (Asn.RanParameterItem Asn.RanParameterValueType)))} : ¬Usable (.list (s :: ss)) := by
  intro h
  cases h

theorem cpSeqRanParams_eq (ps : List (SeqRanParam RanParamValType)) : cpSeqRanParams ps = ps.mapM cpSeqRanParam := by
  induction ps with
  | nil => rfl
  | cons p ps ih =>
    rw [cpSeqRanParams, ih, List.mapM_cons, cpSeqRanParam]
    simp only [bind_assoc, pure_bind]

@[simp] theorem cpRanParameterValue_eq (v : RanParameterValue) : cpRanParameterValue v = v := by
  cases v <;> rfl

theorem cpRanParamVal_of_dec {a : Asn.RanParameterValue} {v : RanParameterValue} (h : decRanParamVal a = .ok v) :
    cpRanParamVal v = a := by
  cases a with
  | nothing => cases h
  | valueBitS bs =>
    obtain ⟨ba, hba, h⟩ := Except.bind_eq_ok.mp h
    obtain rfl := Except.ok.inj h
    obtain ⟨_, hunused, hba⟩ := Except.bind_eq_ok.mp hba
    obtain rfl := Except.ok.inj hba
    obtain ⟨buf, unused⟩ := bs
    obtain rfl : unused = 0 := require_eq_ok.mp hunused
    rfl
  | _ =>
    obtain rfl := Except.ok.inj h
    rfl

/-- The items of a list have no identifier once they are decoded. -/
theorem decLstRanParam_id {s : Option (List (Asn.RanParameterItem Asn.RanParameterValueType))}
    {i : LstRanParam RanParamValType} (h : decLstRanParam s = .ok i) : i.ranParamId = 0 := by
  cases s with
  | none => cases h
  | some is =>
    obtain ⟨ps, -, h⟩ := Except.bind_eq_ok.mp h
    obtain rfl := Except.ok.inj h
    rfl

theorem cpRanParamValType_lst_ne_ok {i : LstRanParam RanParamValType} {is : List (LstRanParam RanParamValType)}
    {v : RanParamValType} (hid : i.ranParamId = 0) : cpRanParamValType (.lst (i :: is)) ≠ .ok v := by
  obtain ⟨id, ps⟩ := i
  obtain rfl : id = 0 := hid
  intro h
  obtain ⟨js, hjs, -⟩ := Except.bind_eq_ok.mp h
  rw [cpLstRanParams] at hjs
  obtain ⟨_, hpos, -⟩ := Except.bind_eq_ok.mp hjs
  exact absurd (require_eq_ok.mp hpos) (by decide)

section Item
variable {i : Asn.RanParameterItem Asn.RanParameterValueType} {P : Prop}

/-- An identifier that is not zero comes back when it has room. -/
theorem encRanParamItem_ofNat_iff {v : RanParamValType} (hid : 0 < i.ranParameterId) :
    encRanParamItem cpRanParamValueType ⟨UInt32.ofNat i.ranParameterId, v⟩ = .ok i ∧
      cpSeqRanParam ⟨UInt32.ofNat i.ranParameterId, v⟩ = .ok ⟨UInt32.ofNat i.ranParameterId, v⟩ ↔
    i.ranParameterId < 4294967296 ∧
      cpRanParamValueType v = .ok i.ranParameterValueType ∧ cpRanParamValType v = .ok v := by
  obtain ⟨id, w⟩ := i
  rw [encRanParamItem_eq_ok]
  simp only [cpSeqRanParam, Except.bind_eq_ok, require_eq_ok, Except.pure_eq, Except.ok.injEq,
    Asn.RanParameterItem.mk.injEq, SeqRanParam.mk.injEq, true_and, UInt32.toNat_ofNat_eq_iff]
  constructor
  · rintro ⟨⟨-, w', hw, hlt, rfl⟩, -, -, v', hv, rfl⟩
    exact ⟨hlt, hw, hv⟩
  · rintro ⟨hlt, hw, hv⟩
    have hpos : 0 < UInt32.ofNat id := by
      rw [UInt32.lt_iff_toNat_lt, UInt32.toNat_ofNat_eq_iff.mpr hlt]
      exact hid
    exact ⟨⟨hpos, w, hw, hlt, rfl⟩, (), hpos, v, hv, rfl⟩

theorem decRanParamItem_usable
    (h : UsableAs cpRanParamValueType decRanParamValueType cpRanParamValType i.ranParameterValueType P) :
    UsableAs (encRanParamItem cpRanParamValueType) (decRanParamItem decRanParamValueType) cpSeqRanParam i
      (i.ranParameterId < 4294967296 ∧ P) := by
  intro p hp
  simp only [decRanParamItem, Except.bind_eq_ok, require_eq_ok, Except.pure_eq, Except.ok.injEq] at hp
  obtain ⟨-, hid, v, hv, rfl⟩ := hp
  rw [encRanParamItem_ofNat_iff hid, h v hv]

/-- The decoder has seen to it that the identifier has room. -/
theorem decRanParamItemInRange_usable
    (h : UsableAs cpRanParamValueType decRanParamValueType cpRanParamValType i.ranParameterValueType P) :
    UsableAs (encRanParamItem cpRanParamValueType) (decRanParamItemInRange decRanParamValueType) cpSeqRanParam i P := by
  intro p hp
  simp only [decRanParamItemInRange, Except.bind_eq_ok, require_eq_ok, Except.pure_eq, Except.ok.injEq] at hp
  obtain ⟨-, ⟨hid, hlt⟩, v, hv, rfl⟩ := hp
  rw [encRanParamItem_ofNat_iff hid, h v hv, and_iff_right hlt]

end Item

/-- A value is usable exactly when it has no lists with items, and identifiers of 32 bits. -/
theorem Asn.RanParameterValueType.usable (a : Asn.RanParameterValueType) :
    UsableAs cpRanParamValueType decRanParamValueType cpRanParamValType a a.Usable := by
  induction a using Asn.RanParameterValueType.induct with
  | nothing => exact fun v hv => by cases hv
  | elementTrue a =>
    intro v hv
    obtain ⟨w, hw, hv⟩ := Except.bind_eq_ok.mp hv
    obtain rfl := Except.ok.inj hv
    simp [cpRanParamValueType, cpRanParamValType, cpRanParamVal_of_dec hw, Usable.elementTrue]
  | elementFalse a =>
    intro v hv
    cases a with
    | none => cases hv
    | some a =>
      obtain ⟨w, hw, hv⟩ := Except.bind_eq_ok.mp hv
      obtain rfl := Except.ok.inj hv
      simp [cpRanParamValueType, cpRanParamValType, cpRanParamVal_of_dec hw, Usable.elementFalse]
  | missing => exact fun v hv => by cases hv
  | structure_ is ih =>
    intro v hv
    rw [decRanParamValueType_structure] at hv
    obtain ⟨ps, hps, hv⟩ := Except.bind_eq_ok.mp hv
    obtain rfl := Except.ok.inj hv
    obtain ⟨hsize, hps⟩ := mapSized_eq_ok.mp hps
    rw [← Except.length_of_mapM hps] at hsize
    rw [usable_structure, ← UsableAs.mapM (fun i hi => decRanParamItem_usable (ih i hi)) ps hps]
    rw [cpRanParamValueType_strct, cpRanParamValType, require_of hsize, Except.ok_bind, cpSeqRanParams_eq]
    simp only [Except.bind_eq_ok, Except.pure_eq, Except.ok.injEq, RanParamValType.strct.injEq,
      Asn.RanParameterValueType.structure_.injEq, Option.some.injEq, exists_eq_right]
    rfl
  | list ss =>
    intro v hv
    rw [decRanParamValueType_list] at hv
    obtain ⟨is, his, hv⟩ := Except.bind_eq_ok.mp hv
    obtain rfl := Except.ok.inj hv
    cases ss with
    | nil =>
      obtain rfl := Except.ok.inj his
      simp [cpRanParamValueType, cpRanParamValType, Usable.list, encLstRanParams, cpLstRanParams]
    | cons s ss =>
      rw [List.mapM_cons] at his
      obtain ⟨i, hi, his⟩ := Except.bind_eq_ok.mp his
      obtain ⟨is', -, his⟩ := Except.bind_eq_ok.mp his
      obtain rfl := Except.ok.inj his
      exact iff_of_false (fun h => cpRanParamValType_lst_ne_ok (decLstRanParam_id hi) h.2) not_usable_list

/-! ### Control messages -/

/-- Room in 32 bits, which the type of a style has and its decoders do not ask for -/
abbrev FitsStyle (style : Int) : Prop := 0 ≤ style ∧ style < 4294967296

def Asn.ControlMessageFormat1.Usable (f : Asn.ControlMessageFormat1) : Prop :=
  ∀ i ∈ f.ranPList, i.ranParameterValueType.Usable

def Asn.ControlMessageFormat2.Usable (f : Asn.ControlMessageFormat2) : Prop :=
  ∀ s ∈ f.ricControlStyleList, FitsStyle s.indicatedControlStyleType ∧ ∀ c ∈ s.ricControlActionList, c.ranPList.Usable

def Asn.ControlMessage.Usable : Asn.ControlMessage → Prop
  | .nothing => True
  | .format1 f => f.Usable
  | .format2 f => f.Usable

theorem Asn.ControlMessageFormat1.usable (a : Asn.ControlMessageFormat1) :
    UsableAs encCtrlMsgFrmt1 decCtrlMsgFrmt1 cpE2smRcCtrlMsgFrmt1 a a.Usable :=
  (UsableAs.mapSized _ _ _ id id fun i _ => decRanParamItemInRange_usable i.ranParameterValueType.usable).wrap
    (fun _ => rfl) rfl (fun _ => rfl) (fun _ _ => ControlMessageFormat1.mk.inj) (fun _ _ => CtrlMsgFrmt1.mk.inj)

theorem decCtrlMsgSeqCtrlAct_usable (a : Asn.ControlMessageFormat2ControlActionItem) :
    UsableAs encCtrlMsgFrmt2CtrlActIt decCtrlMsgSeqCtrlAct cpSeqCtrlAct a a.ranPList.Usable := by
  obtain ⟨id, f⟩ := a
  intro c hc
  simp only [decCtrlMsgSeqCtrlAct, Except.bind_eq_ok, require_eq_ok, Except.pure_eq, Except.ok.injEq] at hc
  obtain ⟨-, ⟨hpos, hlt⟩, m, hm, rfl⟩ := hc
  have hid := UInt16.toNat_ofInt_eq_iff.mpr ⟨Int.le_of_lt hpos, hlt⟩
  rw [← f.usable m hm]
  simp only [encCtrlMsgFrmt2CtrlActIt, cpSeqCtrlAct, mapOptional, require_of (UInt16.ofInt_pos hpos hlt),
    Except.ok_bind, Except.pure_eq, bind_assoc]
  refine (UsableAs.beside_iff Asn.ControlMessageFormat2ControlActionItem.mk (fun n m => SeqCtrlAct.mk n (some m))
    (fun _ _ _ _ => Asn.ControlMessageFormat2ControlActionItem.mk.inj) fun _ _ _ _ h => ?_).trans (and_iff_right hid)
  exact ⟨(SeqCtrlAct.mk.inj h).1, Option.some.inj (SeqCtrlAct.mk.inj h).2⟩

theorem decCtrlMsgSeqCtrlSma_usable (a : Asn.ControlMessageFormat2StyleItem) :
    UsableAs encCtrlMsgFrmt2It decCtrlMsgSeqCtrlSma cpSeqCtrlSma a
      (FitsStyle a.indicatedControlStyleType ∧ ∀ c ∈ a.ricControlActionList, c.ranPList.Usable) := by
  obtain ⟨style, actions⟩ := a
  intro s hs
  simp only [decCtrlMsgSeqCtrlSma, Except.bind_eq_ok, Except.pure_eq, Except.ok.injEq] at hs
  obtain ⟨cs, hcs, rfl⟩ := hs
  rw [FitsStyle, ← UInt32.toNat_ofInt_eq_iff]
  exact (UsableAs.beside_iff _ _ (fun _ _ _ _ => Asn.ControlMessageFormat2StyleItem.mk.inj)
    fun _ _ _ _ => SeqCtrlSma.mk.inj).trans (and_congr_right fun _ =>
      UsableAs.mapSized _ _ _ id id (fun c _ => decCtrlMsgSeqCtrlAct_usable c) cs hcs)

theorem Asn.ControlMessageFormat2.usable (a : Asn.ControlMessageFormat2) :
    UsableAs encCtrlMsgFrmt2 decCtrlMsgFrmt2 cpE2smRcCtrlMsgFrmt2 a a.Usable :=
  (UsableAs.mapSized _ _ _ id id fun s _ => decCtrlMsgSeqCtrlSma_usable s).wrap (fun _ => rfl) rfl (fun _ => rfl)
    (fun _ _ => ControlMessageFormat2.mk.inj) fun _ _ => CtrlMsgFrmt2.mk.inj

theorem Asn.ControlMessage.usable (a : Asn.ControlMessage) :
    UsableAs rcEncCtrlMsg rcDecCtrlMsg cpE2smRcCtrlMsg a a.Usable := by
  cases a with
  | nothing => exact fun v hv => by cases hv
  | format1 f =>
    exact f.usable.wrap (fun _ => rfl) rfl (fun _ => rfl) (fun _ _ => ControlMessage.format1.inj)
      fun _ _ => CtrlMsg.frmt1.inj
  | format2 f =>
    exact f.usable.wrap (fun _ => rfl) rfl (fun _ => rfl) (fun _ _ => ControlMessage.format2.inj)
      fun _ _ => CtrlMsg.frmt2.inj

/-! ### Indication messages -/

/-- Parameters of which the decoder does not ask that their identifiers have room -/
abbrev ParamsUsable (is : List (Asn.RanParameterItem Asn.RanParameterValueType)) : Prop :=
  ∀ i ∈ is, i.ranParameterId < 4294967296 ∧ i.ranParameterValueType.Usable

section Usable
variable {UeAsn CellAsn : Type} (ue : UeAsn → Prop) (cell : CellAsn → Prop)

def Asn.IndicationMessageFormat2Item.Usable (a : Asn.IndicationMessageFormat2Item UeAsn) : Prop :=
  ue a.ueId ∧ ParamsUsable a.ranPList

def Asn.IndicationMessageFormat4.Usable (f : Asn.IndicationMessageFormat4 UeAsn CellAsn) : Prop :=
  (∀ i ∈ f.ueInfoList, ue i.ueId ∧ cell i.cellGlobalId) ∧ ∀ i ∈ f.cellInfoList, cell i.cellGlobalId

def Asn.IndicationMessageFormat6.Usable (f : Asn.IndicationMessageFormat6) : Prop :=
  ∀ s ∈ f.ricInsertStyleList, FitsStyle s.indicatedInsertStyleType ∧
    ∀ i ∈ s.ricInsertIndicationList, ∀ p ∈ i.ranPInsertIndicationList, p.ranParameterValueType.Usable

/-- Identifiers and style types that have room, identities of UEs and cells that are `ue` and `cell`, and no list with
items -/
def Asn.IndicationMessage.Usable : Asn.IndicationMessage UeAsn CellAsn → Prop
  | .nothing => True
  | .format1 f => ParamsUsable f.ranPReportedList
  | .format2 f => ∀ u ∈ f.ueParameterList, u.Usable ue
  | .format3 f => ∀ i ∈ f.cellInfoList, cell i.cellGlobalId
  | .format4 f => f.Usable ue cell
  | .format5 f => ParamsUsable f.ranPRequestedList
  | .format6 f => f.Usable

end Usable

theorem Asn.IndicationMessageFormat1.usable (a : Asn.IndicationMessageFormat1) :
    UsableAs encIndMsgFrmt1 decIndMsgFrmt1 cpE2smRcIndMsgFrmt1 a (ParamsUsable a.ranPReportedList) :=
  (UsableAs.mapSized _ _ _ id And.left fun i _ => decRanParamItem_usable i.ranParameterValueType.usable).wrap
    (fun _ => rfl) rfl (fun _ => rfl) (fun _ _ => IndicationMessageFormat1.mk.inj) fun _ _ => IndMsgFrmt1.mk.inj

section Identities
variable {I : Identities} {ue : I.UeAsn → Prop} {cell : I.CellAsn → Prop}
  (hue : ∀ a, UsableAs I.encUeIdAsn I.decUeIdAsn I.cpUeIdE2sm a (ue a))
  (hcell : ∀ a, UsableAs I.encCellGlobalIdAsn I.decCellGlobalIdAsn I.cpCellGlobalId a (cell a))

include hue in
theorem decSeqUeId_usable (a : Asn.IndicationMessageFormat2Item I.UeAsn) :
    UsableAs (encIndMsgFrmt2It I) (decSeqUeId I) (cpSeqUeId I) a (a.Usable ue) := by
  obtain ⟨ueId, params⟩ := a
  intro s hs
  simp only [decSeqUeId, Except.bind_eq_ok, Except.pure_eq, Except.ok.injEq] at hs
  obtain ⟨u, hu, ps, hps, rfl⟩ := hs
  rw [Asn.IndicationMessageFormat2Item.Usable, ← hue ueId u hu]
  exact (and_congr (bind_bind_mk_eq_ok fun _ _ _ _ => Asn.IndicationMessageFormat2Item.mk.inj)
    (bind_bind_mk_eq_ok fun _ _ _ _ => SeqUeId.mk.inj)).trans (and_and_and_comm.trans (and_congr_right fun _ =>
      UsableAs.mapSized _ _ _ id And.left (fun i _ => decRanParamItem_usable i.ranParameterValueType.usable) ps hps))

include hue in
theorem Asn.IndicationMessageFormat2.usable (a : Asn.IndicationMessageFormat2 I.UeAsn) :
    UsableAs (encIndMsgFrmt2 I) (decIndMsgFrmt2 I) (cpE2smRcIndMsgFrmt2 I) a (∀ u ∈ a.ueParameterList, u.Usable ue) :=
  (UsableAs.mapSized _ _ _ id id fun u _ => decSeqUeId_usable hue u).wrap (fun _ => rfl) rfl (fun _ => rfl)
    (fun _ _ => IndicationMessageFormat2.mk.inj) fun _ _ => IndMsgFrmt2.mk.inj

include hcell in
theorem decIndMsgFrmt3It_usable (a : Asn.IndicationMessageFormat3Item I.CellAsn) :
    UsableAs (encIndMsgFrmt3It I) (decIndMsgFrmt3It I) (cpSeqCellInfo I) a (cell a.cellGlobalId) := by
  obtain ⟨id, ctx, del, tbl⟩ := a
  intro i hi
  simp only [decIndMsgFrmt3It, Except.bind_eq_ok, require_eq_ok, Except.pure_eq, Except.ok.injEq] at hi
  obtain ⟨c, hc, -, rfl, -, rfl, -, rfl, rfl⟩ := hi
  rw [← hcell id c hc]
  simp only [encIndMsgFrmt3It, cpSeqCellInfo, require_true, Except.ok_bind, Except.pure_eq]
  exact and_congr (bind_mk_eq_ok fun _ _ h => (Asn.IndicationMessageFormat3Item.mk.inj h).1)
    (bind_mk_eq_ok fun _ _ h => (SeqCellInfo.mk.inj h).1)

include hcell in
theorem Asn.IndicationMessageFormat3.usable (a : Asn.IndicationMessageFormat3 I.CellAsn) :
    UsableAs (encIndMsgFrmt3 I) (decIndMsgFrmt3 I) (cpE2smRcIndMsgFrmt3 I) a
      (∀ i ∈ a.cellInfoList, cell i.cellGlobalId) :=
  (UsableAs.mapSized _ _ _ id id fun i _ => decIndMsgFrmt3It_usable hcell i).wrap (fun _ => rfl) rfl (fun _ => rfl)
    (fun _ _ => IndicationMessageFormat3.mk.inj) fun _ _ => IndMsgFrmt3.mk.inj

include hue hcell in
theorem decIndMsgFrmt4ItUeInfo_usable (a : Asn.IndicationMessageFormat4ItemUe I.UeAsn I.CellAsn) :
    UsableAs (encIndMsgFrmt4ItUe I) (decIndMsgFrmt4ItUeInfo I) (cpSeqUeInfo I) a
      (ue a.ueId ∧ cell a.cellGlobalId) := by
  obtain ⟨ueId, ctx, cellId⟩ := a
  intro i hi
  simp only [decIndMsgFrmt4ItUeInfo, Except.bind_eq_ok, require_eq_ok, Except.pure_eq, Except.ok.injEq] at hi
  obtain ⟨u, hu, -, rfl, c, hc, rfl⟩ := hi
  rw [← hue ueId u hu, ← hcell cellId c hc, and_and_and_comm]
  simp only [encIndMsgFrmt4ItUe, cpSeqUeInfo, require_true, Except.ok_bind, Except.pure_eq]
  refine and_congr (bind_bind_mk_eq_ok fun _ _ _ _ h => ?_) (bind_bind_mk_eq_ok fun _ _ _ _ h => ?_)
  · exact ⟨(Asn.IndicationMessageFormat4ItemUe.mk.inj h).1, (Asn.IndicationMessageFormat4ItemUe.mk.inj h).2.2⟩
  · exact ⟨(SeqUeInfo.mk.inj h).1, (SeqUeInfo.mk.inj h).2.2⟩

include hcell in
theorem decIndMsgFrmt4ItDellInfo_usable (a : Asn.IndicationMessageFormat4ItemCell I.CellAsn) :
    UsableAs (encIndMsgFrmt4ItCell I) (decIndMsgFrmt4ItDellInfo I) (cpSeqCellInfo2 I) a
      (cell a.cellGlobalId) := by
  obtain ⟨id, ctx, tbl⟩ := a
  intro i hi
  simp only [decIndMsgFrmt4ItDellInfo, Except.bind_eq_ok, require_eq_ok, Except.pure_eq, Except.ok.injEq] at hi
  obtain ⟨c, hc, -, rfl, -, rfl, rfl⟩ := hi
  rw [← hcell id c hc]
  simp only [encIndMsgFrmt4ItCell, cpSeqCellInfo2, require_true, Except.ok_bind, Except.pure_eq]
  exact and_congr (bind_mk_eq_ok fun _ _ h => (Asn.IndicationMessageFormat4ItemCell.mk.inj h).1)
    (bind_mk_eq_ok fun _ _ h => (SeqCellInfo2.mk.inj h).1)

include hue hcell in
theorem Asn.IndicationMessageFormat4.usable (a : Asn.IndicationMessageFormat4 I.UeAsn I.CellAsn) :
    UsableAs (encIndMsgFrmt4 I) (decIndMsgFrmt4 I) (cpE2smRcIndMsgFrmt4 I) a (a.Usable ue cell) := by
  obtain ⟨ues, cells⟩ := a
  intro f hf
  simp only [decIndMsgFrmt4, Except.bind_eq_ok, Except.pure_eq, Except.ok.injEq] at hf
  obtain ⟨us, hus, cs, hcs, rfl⟩ := hf
  rw [Usable, ← UsableAs.mapM_mapSized _ (fun i _ => decIndMsgFrmt4ItUeInfo_usable hue hcell i) us hus,
    ← UsableAs.mapM_mapSized _ (fun i _ => decIndMsgFrmt4ItDellInfo_usable hcell i) cs hcs, and_and_and_comm]
  exact and_congr (bind_bind_mk_eq_ok fun _ _ _ _ => IndicationMessageFormat4.mk.inj)
    (bind_bind_mk_eq_ok fun _ _ _ _ => IndMsgFrmt4.mk.inj)

theorem Asn.IndicationMessageFormat5.usable (a : Asn.IndicationMessageFormat5) :
    UsableAs encIndMsgFrmt5 decIndMsgFrmt5 cpE2smRcIndMsgFrmt5 a (ParamsUsable a.ranPRequestedList) :=
  (UsableAs.mapM_mapSized _ fun i _ => decRanParamItem_usable i.ranParameterValueType.usable).wrap
    (fun _ => rfl) rfl (fun _ => rfl) (fun _ _ => IndicationMessageFormat5.mk.inj) fun _ _ => IndMsgFrmt5.mk.inj

theorem decSeqInsIndAct_usable (a : Asn.IndicationMessageFormat6IndicationItem) :
    UsableAs encIndMsgFrmt6IndIt decSeqInsIndAct cpSeqInsIndAct2 a
      (∀ p ∈ a.ranPInsertIndicationList, p.ranParameterValueType.Usable) := by
  obtain ⟨id, params⟩ := a
  intro i hi
  simp only [decSeqInsIndAct, Except.bind_eq_ok, require_eq_ok, Except.pure_eq, Except.ok.injEq] at hi
  obtain ⟨-, ⟨hpos, hlt⟩, ps, hps, rfl⟩ := hi
  have hid := UInt16.toNat_ofInt_eq_iff.mpr ⟨Int.le_of_lt hpos, hlt⟩
  rw [← UsableAs.mapM (fun p _ => decRanParamItemInRange_usable p.ranParameterValueType.usable) ps hps]
  simp only [encIndMsgFrmt6IndIt, cpSeqInsIndAct2, require_of (UInt16.ofInt_pos hpos hlt), Except.ok_bind,
    Except.pure_eq]
  exact (UsableAs.beside_iff _ _ (fun _ _ _ _ => Asn.IndicationMessageFormat6IndicationItem.mk.inj)
    fun _ _ _ _ => SeqInsIndAct2.mk.inj).trans (and_iff_right hid)

theorem decSeqInsStyle_usable (a : Asn.IndicationMessageFormat6StyleItem) :
    UsableAs encIndMsgFrmt6It decSeqInsStyle cpSeqInsStyle2 a
      (FitsStyle a.indicatedInsertStyleType ∧
        ∀ i ∈ a.ricInsertIndicationList, ∀ p ∈ i.ranPInsertIndicationList, p.ranParameterValueType.Usable) := by
  obtain ⟨style, indications⟩ := a
  intro s hs
  simp only [decSeqInsStyle, Except.bind_eq_ok, Except.pure_eq, Except.ok.injEq] at hs
  obtain ⟨is, his, rfl⟩ := hs
  rw [FitsStyle, ← UInt32.toNat_ofInt_eq_iff]
  exact (UsableAs.beside_iff _ _ (fun _ _ _ _ => Asn.IndicationMessageFormat6StyleItem.mk.inj)
    fun _ _ _ _ => SeqInsStyle2.mk.inj).trans (and_congr_right fun _ =>
      UsableAs.mapSized _ _ _ id id (fun i _ => decSeqInsIndAct_usable i) is his)

theorem Asn.IndicationMessageFormat6.usable (a : Asn.IndicationMessageFormat6) :
    UsableAs encIndMsgFrmt6 decIndMsgFrmt6 cpE2smRcIndMsgFrmt6 a a.Usable :=
  (UsableAs.mapSized _ _ _ id id fun s _ => decSeqInsStyle_usable s).wrap (fun _ => rfl) rfl (fun _ => rfl)
    (fun _ _ => IndicationMessageFormat6.mk.inj) fun _ _ => IndMsgFrmt6.mk.inj

include hue hcell in
theorem Asn.IndicationMessage.usable (a : Asn.IndicationMessage I.UeAsn I.CellAsn) :
    UsableAs (rcEncIndMsg I) (rcDecIndMsg I) (cpE2smRcIndMsg I) a (a.Usable ue cell) := by
  cases a with
  | nothing => exact fun v hv => by cases hv
  | format1 f =>
    exact f.usable.wrap (fun _ => rfl) rfl (fun _ => rfl) (fun _ _ => IndicationMessage.format1.inj)
      fun _ _ => IndMsg.frmt1.inj
  | format2 f =>
    exact (f.usable hue).wrap (fun _ => rfl) rfl (fun _ => rfl) (fun _ _ => IndicationMessage.format2.inj)
      fun _ _ => IndMsg.frmt2.inj
  | format3 f =>
    exact (f.usable hcell).wrap (fun _ => rfl) rfl (fun _ => rfl) (fun _ _ => IndicationMessage.format3.inj)
      fun _ _ => IndMsg.frmt3.inj
  | format4 f =>
    exact (f.usable hue hcell).wrap (fun _ => rfl) rfl (fun _ => rfl) (fun _ _ => IndicationMessage.format4.inj)
      fun _ _ => IndMsg.frmt4.inj
  | format5 f =>
    exact f.usable.wrap (fun _ => rfl) rfl (fun _ => rfl) (fun _ _ => IndicationMessage.format5.inj)
      fun _ _ => IndMsg.frmt5.inj
  | format6 f =>
    exact f.usable.wrap (fun _ => rfl) rfl (fun _ => rfl) (fun _ _ => IndicationMessage.format6.inj)
      fun _ _ => IndMsg.frmt6.inj

end Identities

/-! ### Action definitions -/

/-- References to parameters of which the decoder does not ask that their identifiers have room -/
abbrev RefsUsable (rs : List Asn.RanParameterRef) : Prop := ∀ r ∈ rs, r.ranParameterId < 4294967296

def Asn.ActionDefinitionFormat2.Usable (f : Asn.ActionDefinitionFormat2) : Prop :=
  ∀ c ∈ f.ricPolicyConditionsList, ∀ is ∈ c.ricPolicyAction.ranParametersList, ∀ i ∈ is,
    i.ranParameterValueType.Usable

def Asn.ActionDefinitionFormat4IndicationItem.Usable (a : Asn.ActionDefinitionFormat4IndicationItem) : Prop :=
  a.ricInsertIndicationId < 65536 ∧ RefsUsable a.ranPInsertIndicationList

def Asn.ActionDefinitionFormat4StyleItem.Usable (a : Asn.ActionDefinitionFormat4StyleItem) : Prop :=
  FitsStyle a.requestedInsertStyleType ∧ ∀ i ∈ a.ricInsertIndicationList, i.Usable

section Action
variable {UeAsn : Type}

def Asn.ActionDefinitionFormats.Usable : Asn.ActionDefinitionFormats UeAsn → Prop
  | .nothing => True
  | .format1 f => RefsUsable f.ranPToBeReportedList
  | .format2 f => f.Usable
  | .format3 f => RefsUsable f.ranPInsertIndicationList
  | .format4 f => ∀ s ∈ f.ricInsertStyleList, s.Usable

/-- Identifiers and style types that have room, and no list with items -/
def Asn.ActionDefinition.Usable (a : Asn.ActionDefinition UeAsn) : Prop := FitsStyle a.ricStyleType ∧ a.formats.Usable

end Action

variable {I : Identities}

theorem decRanParamRef_usable (a : Asn.RanParameterRef) (msgId msgDef msgId' msgDef' : String) :
    UsableAs (encRanParamRef msgId msgDef) decRanParamRef (cpRanParamRef msgId' msgDef') a
      (a.ranParameterId < 4294967296) := by
  obtain ⟨id, ref⟩ := a
  intro p hp
  simp only [decRanParamRef, Except.bind_eq_ok, require_eq_ok, Except.pure_eq, Except.ok.injEq] at hp
  obtain ⟨-, hid, -, rfl, rfl⟩ := hp
  simp only [encRanParamRef, cpRanParamRef, Except.bind_eq_ok, require_eq_ok, Except.pure_eq, Except.ok.injEq,
    Asn.RanParameterRef.mk.injEq, and_true, UInt32.toNat_ofNat_eq_iff]
  constructor
  · rintro ⟨⟨-, -, -, -, hlt⟩, -⟩
    exact hlt
  · intro hlt
    have hpos : 0 < UInt32.ofNat id := by
      rw [UInt32.lt_iff_toNat_lt, UInt32.toNat_ofNat_eq_iff.mpr hlt]
      exact hid
    exact ⟨⟨(), hpos, (), trivial, hlt⟩, (), hpos, (), trivial⟩

theorem Asn.ActionDefinitionFormat1.usable (a : Asn.ActionDefinitionFormat1) :
    UsableAs cpActDefFrmt1 decActDefFrmt1 cpE2smRcActDefFrmt1 a (RefsUsable a.ranPToBeReportedList) :=
  (UsableAs.mapSized _ _ _ id id fun r _ => decRanParamRef_usable r _ _ _ _).wrap (fun _ => rfl) rfl (fun _ => rfl)
    (fun _ _ => ActionDefinitionFormat1.mk.inj) fun _ _ => ActDefFrmt1.mk.inj

/-- An empty list is not sent, and a list that was sent is not empty. -/
theorem decSeqRanParams_usable {params : Option (List (Asn.RanParameterItem Asn.RanParameterValueType))}
    {ps : List (SeqRanParam RanParamValType)} (h : decSeqRanParams params = .ok ps) :
    (∃ is, ps.mapM cpRicPolicyActionRanParam = .ok is ∧ (if 0 < ps.length then some is else none) = params) ∧
      mapSized (upTo 65535) "src->sz_seq_ran_param <  65536" cpSeqRanParam ps = .ok ps ↔
    ∀ is ∈ params, ∀ i ∈ is, i.ranParameterValueType.Usable := by
  cases params with
  | none =>
    obtain rfl := Except.ok.inj h
    simp [mapSized_eq_ok, pure, Except.pure]
  | some is =>
    obtain ⟨hsize, hps⟩ := mapSized_eq_ok.mp h
    have hlen := Except.length_of_mapM hps
    have husable := UsableAs.mapM (fun i _ => decRanParamItemInRange_usable i.ranParameterValueType.usable) ps hps
    have hle : upTo 65535 ps.length := by rw [hlen]; exact Nat.lt_succ_of_lt hsize.2
    simp only [Option.mem_def, Option.some.injEq, forall_eq', ← husable, mapSized_eq_ok, hle, true_and,
      if_pos (hlen ▸ hsize.1), exists_eq_right]
    rfl

theorem decPolicyAction_usable (a : Asn.RicPolicyAction) :
    UsableAs cpRicPolicyAction decPolicyAction cpPolicyAction a
      (∀ is ∈ a.ranParametersList, ∀ i ∈ is, i.ranParameterValueType.Usable) := by
  obtain ⟨id, params, dec⟩ := a
  intro act hact
  simp only [decPolicyAction, Except.bind_eq_ok, require_eq_ok, Except.pure_eq, Except.ok.injEq] at hact
  obtain ⟨-, ⟨hpos, hlt⟩, ps, hps, -, rfl, rfl⟩ := hact
  have hid := UInt16.toNat_ofInt_eq_iff.mpr ⟨Int.le_of_lt hpos, hlt⟩
  rw [← decSeqRanParams_usable hps]
  simp only [cpRicPolicyAction, cpPolicyAction, require_of (UInt16.ofInt_pos hpos hlt), require_true, Except.ok_bind,
    Except.bind_eq_ok, Except.pure_eq, Except.ok.injEq, Asn.RicPolicyAction.mk.injEq, PolicyAction.mk.injEq, hid,
    true_and, and_true, exists_eq_right]

theorem decPolicyCond_usable (a : Asn.ActionDefinitionFormat2Item) :
    UsableAs cpRcActDefFrmt2It decPolicyCond cpPolicyCond a
      (∀ is ∈ a.ricPolicyAction.ranParametersList, ∀ i ∈ is, i.ranParameterValueType.Usable) := by
  obtain ⟨act, cond⟩ := a
  intro c hc
  simp only [decPolicyCond, Except.bind_eq_ok, require_eq_ok, Except.pure_eq, Except.ok.injEq] at hc
  obtain ⟨pa, hpa, -, rfl, rfl⟩ := hc
  rw [← decPolicyAction_usable act pa hpa]
  simp only [cpRcActDefFrmt2It, cpPolicyCond, require_true, Except.ok_bind, Except.pure_eq]
  exact and_congr (bind_mk_eq_ok fun _ _ h => (Asn.ActionDefinitionFormat2Item.mk.inj h).1)
    (bind_mk_eq_ok fun _ _ h => (PolicyCond.mk.inj h).1)

theorem Asn.ActionDefinitionFormat2.usable (a : Asn.ActionDefinitionFormat2) :
    UsableAs cpActDefFrmt2 decActDefFrmt2 cpE2smRcActDefFrmt2 a a.Usable :=
  (UsableAs.mapSized _ _ _ And.left id fun c _ => decPolicyCond_usable c).wrap (fun _ => rfl) rfl (fun _ => rfl)
    (fun _ _ => ActionDefinitionFormat2.mk.inj) fun _ _ => ActDefFrmt2.mk.inj

theorem Asn.ActionDefinitionFormat3.usable (a : Asn.ActionDefinitionFormat3 I.UeAsn) :
    UsableAs cpActDefFrmt3 decActDefFrmt3 (cpE2smRcActDefFrmt3 I) a (RefsUsable a.ranPInsertIndicationList) := by
  obtain ⟨id, params, ue⟩ := a
  intro f hf
  simp only [decActDefFrmt3, Except.bind_eq_ok, require_eq_ok, Except.pure_eq, Except.ok.injEq,
    Option.isNone_iff_eq_none] at hf
  obtain ⟨-, ⟨hpos, hlt⟩, ps, hps, -, rfl, rfl⟩ := hf
  have hid := UInt16.toNat_ofInt_eq_iff.mpr ⟨Int.le_of_lt hpos, hlt⟩
  simp only [cpActDefFrmt3, cpE2smRcActDefFrmt3, require_of (UInt16.ofInt_pos hpos hlt), require_true, mapOptional_none,
    Option.isNone_none, Except.ok_bind, Except.pure_eq]
  exact (UsableAs.beside_iff (fun n ps => ActionDefinitionFormat3.mk n ps none) (fun n ps => ActDefFrmt3.mk n ps none)
    (fun _ _ _ _ h => ⟨(ActionDefinitionFormat3.mk.inj h).1, (ActionDefinitionFormat3.mk.inj h).2.1⟩)
    (fun _ _ _ _ h => ⟨(ActDefFrmt3.mk.inj h).1, (ActDefFrmt3.mk.inj h).2.1⟩)).trans ((and_iff_right hid).trans
      (UsableAs.mapSized _ _ _ And.left (fun h => h) (fun r _ => decRanParamRef_usable r _ _ _ _) ps hps))

/-- Here the decoder does not ask that the identifier of the indication has room. -/
theorem decSeqInsIndActDef_usable (a : Asn.ActionDefinitionFormat4IndicationItem) :
    UsableAs encSeqInsIndActDef decSeqInsIndActDef cpSeqInsIndActDef a a.Usable := by
  obtain ⟨id, params⟩ := a
  intro i hi
  simp only [decSeqInsIndActDef, Except.bind_eq_ok, require_eq_ok, Except.pure_eq, Except.ok.injEq] at hi
  obtain ⟨-, hpos, ps, hps, rfl⟩ := hi
  by_cases hlt : id < 65536
  · have hid := UInt16.toNat_ofInt_eq_iff.mpr ⟨Int.le_of_lt hpos, hlt⟩
    simp only [encSeqInsIndActDef, cpSeqInsIndActDef, require_of (UInt16.ofInt_pos hpos hlt), Except.ok_bind,
      Except.pure_eq, Asn.ActionDefinitionFormat4IndicationItem.Usable, and_iff_right hlt]
    exact (UsableAs.beside_iff _ _ (fun _ _ _ _ => Asn.ActionDefinitionFormat4IndicationItem.mk.inj)
      fun _ _ _ _ => SeqInsIndActDef.mk.inj).trans ((and_iff_right hid).trans
        (UsableAs.mapSized _ _ _ (fun h => h) And.right (fun r _ => decRanParamRef_usable r _ _ _ _) ps hps))
  · refine iff_of_false (fun h => ?_) fun h => hlt h.1
    simp only [encSeqInsIndActDef, Except.bind_eq_ok, Except.pure_eq, Except.ok.injEq] at h
    obtain ⟨⟨_, -, _, -, heq⟩, -⟩ := h
    exact hlt (UInt16.toNat_ofInt_eq_iff.mp (Asn.ActionDefinitionFormat4IndicationItem.mk.inj heq).1).2

theorem decSeqInsStyles_usable (a : Asn.ActionDefinitionFormat4StyleItem) :
    UsableAs cpSeqInsStyles decSeqInsStyles cpSeqInsStyle a a.Usable := by
  obtain ⟨style, indications⟩ := a
  intro s hs
  simp only [decSeqInsStyles, Except.bind_eq_ok, Except.pure_eq, Except.ok.injEq] at hs
  obtain ⟨is, his, rfl⟩ := hs
  rw [Asn.ActionDefinitionFormat4StyleItem.Usable, FitsStyle, ← UInt32.toNat_ofInt_eq_iff]
  exact (UsableAs.beside_iff _ _ (fun _ _ _ _ => Asn.ActionDefinitionFormat4StyleItem.mk.inj)
    fun _ _ _ _ => SeqInsStyle.mk.inj).trans (and_congr_right fun _ =>
      UsableAs.mapSized _ _ _ id id (fun i _ => decSeqInsIndActDef_usable i) is his)

theorem Asn.ActionDefinitionFormat4.usable (a : Asn.ActionDefinitionFormat4 I.UeAsn) :
    UsableAs cpActDefFrmt4 decActDefFrmt4 (cpE2smRcActDefFrmt4 I) a (∀ s ∈ a.ricInsertStyleList, s.Usable) := by
  obtain ⟨styles, ue⟩ := a
  intro f hf
  simp only [decActDefFrmt4, Except.bind_eq_ok, require_eq_ok, Except.pure_eq, Except.ok.injEq,
    Option.isNone_iff_eq_none] at hf
  obtain ⟨ss, hss, -, rfl, rfl⟩ := hf
  simp only [cpActDefFrmt4, cpE2smRcActDefFrmt4, require_true, mapOptional_none, Option.isNone_none, Except.ok_bind,
    Except.pure_eq]
  exact (and_congr (bind_mk_eq_ok fun _ _ h => (ActionDefinitionFormat4.mk.inj h).1)
    (bind_mk_eq_ok fun _ _ h => (ActDefFrmt4.mk.inj h).1)).trans
      (UsableAs.mapSized _ _ _ id id (fun s _ => decSeqInsStyles_usable s) ss hss)

theorem Asn.ActionDefinitionFormats.usable (a : Asn.ActionDefinitionFormats I.UeAsn) :
    UsableAs cpActDefFormat decActDefFormat (cpE2smRcActDefFormat I) a a.Usable := by
  cases a with
  | nothing => exact fun v hv => by cases hv
  | format1 f =>
    exact f.usable.wrap (fun _ => rfl) rfl (fun _ => rfl) (fun _ _ => ActionDefinitionFormats.format1.inj)
      fun _ _ => ActDefFormat.frmt1.inj
  | format2 f =>
    exact f.usable.wrap (fun _ => rfl) rfl (fun _ => rfl) (fun _ _ => ActionDefinitionFormats.format2.inj)
      fun _ _ => ActDefFormat.frmt2.inj
  | format3 f =>
    exact f.usable.wrap (fun _ => rfl) rfl (fun _ => rfl) (fun _ _ => ActionDefinitionFormats.format3.inj)
      fun _ _ => ActDefFormat.frmt3.inj
  | format4 f =>
    exact f.usable.wrap (fun _ => rfl) rfl (fun _ => rfl) (fun _ _ => ActionDefinitionFormats.format4.inj)
      fun _ _ => ActDefFormat.frmt4.inj

theorem Asn.ActionDefinition.usable (a : Asn.ActionDefinition I.UeAsn) :
    UsableAs rcEncActionDef rcDecActionDef (cpE2smRcActionDef I) a a.Usable := by
  obtain ⟨style, formats⟩ := a
  intro ad had
  obtain ⟨f, hf, had⟩ := Except.bind_eq_ok.mp had
  obtain rfl := Except.ok.inj had
  rw [Usable, FitsStyle, ← UInt32.toNat_ofInt_eq_iff]
  exact (UsableAs.beside_iff _ _ (fun _ _ _ _ => ActionDefinition.mk.inj) fun _ _ _ _ => ActionDef.mk.inj).trans
    (and_congr_right fun _ => formats.usable f hf)

/-! ### Identities -/

/-- The string of the cell has the form that its encoder gives it, and the network has decimal digits; of an NR cell the
byte that is moved as a signed number has no sign. -/
def CgiRemade : Cgi → Prop
  | .nothing => True
  | .nrCgi plmn cell => PlmnDigits plmn ∧ IdKind.nrCell.Remade cell
  | .eutraCgi plmn cell => PlmnDigits plmn ∧ IdKind.eutraCell.Remade cell

theorem ueId_usable (a : UeIdAsn) :
    UsableAs identities.encUeIdAsn identities.decUeIdAsn identities.cpUeIdE2sm a a.Remade := by
  intro u hu
  have hcp : identities.cpUeIdE2sm u = .ok u := congrArg Except.ok (Ue.cpUeIdE2sm_eq u)
  rw [and_iff_left hcp]
  exact Ue.ueId_remade a u hu

theorem cell_usable (a : Cgi) :
    UsableAs identities.encCellGlobalIdAsn identities.decCellGlobalIdAsn identities.cpCellGlobalId a (CgiRemade a) := by
  have hparts {x : Except String BitString} {mk : List UInt8 → BitString → Cgi} (hmk : Function.Injective2 mk)
      {plmn plmn' : List UInt8} {cell : BitString} :
      (x >>= fun b => .ok (mk plmn' b)) = .ok (mk plmn cell) ↔ plmn' = plmn ∧ x = .ok cell := by
    simp only [Except.bind_eq_ok, Except.ok.injEq]
    constructor
    · rintro ⟨b, hb, heq⟩
      obtain ⟨hplmn, rfl⟩ := hmk heq
      exact ⟨hplmn, hb⟩
    · rintro ⟨rfl, hb⟩
      exact ⟨cell, hb, rfl⟩
  intro c hc
  cases a with
  | nothing => cases hc
  | nrCgi plmn cell =>
    obtain ⟨n, hn, hc⟩ := Except.bind_eq_ok.mp hc
    obtain rfl := Except.ok.inj hc
    rw [CgiRemade, ← Util.encPlmn_decPlmn_iff, ← IdKind.nrCell.remade cell n hn]
    exact (and_iff_left rfl).trans (hparts fun _ _ _ _ => Cgi.nrCgi.inj)
  | eutraCgi plmn cell =>
    obtain ⟨n, hn, hc⟩ := Except.bind_eq_ok.mp hc
    obtain rfl := Except.ok.inj hc
    rw [CgiRemade, ← Util.encPlmn_decPlmn_iff, ← IdKind.eutraCell.remade cell n hn]
    exact (and_iff_left rfl).trans (hparts fun _ _ _ _ => Cgi.eutraCgi.inj)

/-! ### What was decoded -/

/-- Of a control message, an indication message or an action definition that its decoder accepts, the encoder makes the
same structure again and the copy function the same value, exactly when its identifiers and style types have room, its
identities of UEs and cells are made again, and no value of a parameter holds a list with items. -/
theorem decoded_usable_iff {ctrl : Asn.ControlMessage} {ctrlMsg : CtrlMsg} {ind : Asn.IndicationMessage UeIdAsn Cgi}
    {indMsg : IndMsg Ue.UeId Kpm.CellGlobalId} {actDef : Asn.ActionDefinition UeIdAsn} {ad : ActionDef Ue.UeId}
    (hctrl : rcDecCtrlMsg ctrl = .ok ctrlMsg) (hind : rcDecIndMsg identities ind = .ok indMsg)
    (hactDef : rcDecActionDef actDef = .ok ad) :
    (rcEncCtrlMsg ctrlMsg = .ok ctrl ∧ cpE2smRcCtrlMsg ctrlMsg = .ok ctrlMsg ↔ ctrl.Usable) ∧
      (rcEncIndMsg identities indMsg = .ok ind ∧ cpE2smRcIndMsg identities indMsg = .ok indMsg ↔
        ind.Usable UeIdAsn.Remade CgiRemade) ∧
      (rcEncActionDef ad = .ok actDef ∧ cpE2smRcActionDef identities ad = .ok ad ↔ actDef.Usable) :=
  ⟨ctrl.usable ctrlMsg hctrl, Asn.IndicationMessage.usable (I := identities) ueId_usable cell_usable ind indMsg hind,
    Asn.ActionDefinition.usable (I := identities) actDef ad hactDef⟩

/-- A control message with a structure of two members -/
def structCtrlMsgAsn : Asn.ControlMessage :=
  .format1 ⟨[⟨8, .structure_ (some [⟨9, .elementTrue (.valueInt 1)⟩, ⟨10, .elementFalse (some (.valueBoolean true))⟩])⟩]⟩

def structCtrlMsg : CtrlMsg := .frmt1 ⟨[⟨8, .strct [⟨9, .flagTrue (.int 1)⟩, ⟨10, .flagFalse (.bool true)⟩]⟩]⟩

/-- An indication of an NR cell -/
def cellIndMsgAsn : Asn.IndicationMessage UeIdAsn Cgi :=
  .format3 ⟨[⟨.nrCgi [0x05, 0xF1, 0x10] ⟨[1, 2, 3, 4, 0x50], 4⟩, none, none, none⟩]⟩

def cellIndMsg : IndMsg Ue.UeId Kpm.CellGlobalId :=
  .frmt3 ⟨[⟨.nrCgi ⟨501, 1, 2⟩ 0x504030201, none, none, none⟩]⟩

/-- An action definition that asks for one parameter -/
def refActionDefAsn : Asn.ActionDefinition UeIdAsn := ⟨1, .format1 ⟨[⟨8, none⟩]⟩⟩

def refActionDef : ActionDef Ue.UeId := ⟨1, .frmt1 ⟨[⟨8, none⟩]⟩⟩

theorem decoded_usable_iff_three :
    (rcEncCtrlMsg structCtrlMsg = .ok structCtrlMsgAsn ∧ cpE2smRcCtrlMsg structCtrlMsg = .ok structCtrlMsg) ∧
      (rcEncIndMsg identities cellIndMsg = .ok cellIndMsgAsn ∧ cpE2smRcIndMsg identities cellIndMsg = .ok cellIndMsg) ∧
      rcEncActionDef refActionDef = .ok refActionDefAsn ∧ cpE2smRcActionDef identities refActionDef = .ok refActionDef := by
  have hparams : (Asn.RanParameterValueType.structure_
      (some [⟨9, .elementTrue (.valueInt 1)⟩, ⟨10, .elementFalse (some (.valueBoolean true))⟩])).Usable := by
    refine Asn.RanParameterValueType.usable_structure.mpr fun i hi => ?_
    rw [List.mem_cons, List.mem_singleton] at hi
    rcases hi with rfl | rfl
    · exact ⟨by decide, .elementTrue _⟩
    · exact ⟨by decide, .elementFalse _⟩
  have hcell : CgiRemade (.nrCgi [0x05, 0xF1, 0x10] ⟨[1, 2, 3, 4, 0x50], 4⟩) := by
    simp only [CgiRemade, PlmnDigits, IdKind.Remade, Util.PaddedWithZeroes]
    decide
  have hctrlDec : rcDecCtrlMsg structCtrlMsgAsn = .ok structCtrlMsg := rfl
  have hindDec : rcDecIndMsg identities cellIndMsgAsn = .ok cellIndMsg := rfl
  have hactDefDec : rcDecActionDef refActionDefAsn = .ok refActionDef := rfl
  obtain ⟨hctrl, hind, hactDef⟩ := decoded_usable_iff hctrlDec hindDec hactDefDec
  refine ⟨hctrl.mpr fun i hi => ?_, hind.mpr fun i hi => ?_, hactDef.mpr ⟨by decide, fun i hi => ?_⟩⟩
  · obtain rfl := List.mem_singleton.mp hi
    exact hparams
  · obtain rfl := List.mem_singleton.mp hi
    exact hcell
  · obtain rfl := List.mem_singleton.mp hi
    decide

/-- A control message with a list of one item -/
def listItemCtrlMsgAsn : Asn.ControlMessage :=
  .format1 ⟨[⟨8, .list [some [⟨9, .elementFalse (some (.valueBoolean true))⟩]]⟩]⟩

def listItemCtrlMsg : CtrlMsg := .frmt1 ⟨[⟨8, .lst [⟨0, [⟨9, .flagFalse (.bool true)⟩]⟩]⟩]⟩

/-- It is decoded, and the copy function aborts. -/
theorem list_item_not_copied :
    rcDecCtrlMsg listItemCtrlMsgAsn = .ok listItemCtrlMsg ∧
      cpE2smRcCtrlMsg listItemCtrlMsg = .error "src->ran_param_id > 0" := ⟨rfl, rfl⟩

end FlexRic.Sm.Rc
