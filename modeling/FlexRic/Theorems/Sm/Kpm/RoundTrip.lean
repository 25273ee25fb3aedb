import FlexRic.Sm.Kpm.Formats
import FlexRic.Theorems.Sm.Kpm.Data

/-! # Which indications and action definitions come back

The mapping to ASN.1 and back, when the coding in between changes nothing. -/

namespace FlexRic.Sm.Kpm
open Ue (UeId)
open Util

variable {R : Type}

/-! ### Indication messages -/

theorem granPeriod_optional_restored (o : Option UInt32) :
    Restored (mapOptional encGranPeriod) (mapOptional decGranPeriod) o True :=
  .optional granPeriod_restored o

theorem decMeasInfo_getD_eq (o : Option (List MeasurementInfoItem)) :
    kpmDecMeasInfoAsn (o.getD []) = mapListed (fun _ => True) "" decMeasInfoItem o := by
  cases o with
  | none => rfl
  | some l => rw [mapListed, mapSized, require_true, Except.ok_bind, Option.getD_some, kpmDecMeasInfoAsn]

/-- A list that is not there is read as an empty one. -/
theorem measInfos_restored (l : List MeasInfoFrm1) :
    Restored (mapNonempty (oneTo maxnoofMeasurementInfo) "Number of measures not allowed" encMeasInfoItem)
      (fun o => kpmDecMeasInfoAsn (o.getD [])) l (∀ m ∈ l, m.Kept) := by
  have h : Restored (mapNonempty (oneTo maxnoofMeasurementInfo) "Number of measures not allowed" encMeasInfoItem)
      (mapListed (fun _ => True) "" decMeasInfoItem) l (∀ m ∈ l, m.Kept) :=
    .mapNonempty _ _ (fun _ => trivial) fun m _ => measInfoItem_restored m
  simpa only [Restored, decMeasInfo_getD_eq] using h

def IndMsgFrm1.Kept (x : IndMsgFrm1 R) : Prop := ∀ m ∈ x.measInfoLst, m.Kept

theorem indMsgFrm1_restored (x : IndMsgFrm1 R) : Restored kpmEncIndMsgFrm1Asn kpmDecIndMsgFrm1Asn x x.Kept := by
  obtain ⟨data, infos, period⟩ := x
  refine (Restored.triple (measData_restored data) (measInfos_restored infos) (granPeriod_optional_restored period) rfl
    (fun _ _ _ => rfl) IndMsgFrm1.mk.inj).congr ?_
  rw [true_and, and_true, IndMsgFrm1.Kept]

def IndMsgFrm2.Kept (x : IndMsgFrm2 R) : Prop := ∀ m ∈ x.measInfoCondUeLst, m.Kept

theorem measInfoCondUe_restored (l : List (MeasInfoCondUe R)) :
    Restored kpmEncMeasInfoCondUeAsn kpmDecMeasInfoCondUeAsn l (∀ m ∈ l, m.Kept) :=
  Restored.mapSized _ _ id fun m _ => measInfoCondUeItem_restored m

theorem indMsgFrm2_restored (x : IndMsgFrm2 R) : Restored kpmEncIndMsgFrm2Asn kpmDecIndMsgFrm2Asn x x.Kept := by
  obtain ⟨data, infos, period⟩ := x
  refine (Restored.triple (measData_restored data) (measInfoCondUe_restored infos) (granPeriod_optional_restored period)
    rfl (fun _ _ _ => rfl) IndMsgFrm2.mk.inj).congr ?_
  rw [true_and, and_true, IndMsgFrm2.Kept]

def MeasReportPerUe.Kept (x : MeasReportPerUe R) : Prop := x.ueMeasReportLst.KeptAsSent ∧ x.indMsgFormat1.Kept

theorem measReportPerUe_restored (x : MeasReportPerUe R) : Restored encMeasReportPerUe decMeasReportPerUe x x.Kept := by
  obtain ⟨id, msg⟩ := x
  exact (Ue.ueId_asSent_restored id).pair (indMsgFrm1_restored msg) rfl (fun _ _ => rfl) MeasReportPerUe.mk.inj

def IndMsgFrm3.Kept (x : IndMsgFrm3 R) : Prop := ∀ r ∈ x.measReportPerUe, r.Kept

theorem indMsgFrm3_restored (x : IndMsgFrm3 R) : Restored kpmEncIndMsgFrm3Asn kpmDecIndMsgFrm3Asn x x.Kept := by
  obtain ⟨reports⟩ := x
  exact (Restored.mapSized _ _ id fun r _ => measReportPerUe_restored r).wrap rfl (fun _ => rfl)
    fun _ _ => IndMsgFrm3.mk.inj

/-- No label has one of the last three members, or anything beside `noLabel`; a granularity period without a UE says
so; and networks and identities of UEs come back. -/
def IndMsg.Kept : IndMsg (IePart R) → Prop
  | frm1 x => IndMsgFrm1.Kept x
  | frm2 x => IndMsgFrm2.Kept x
  | frm3 x => IndMsgFrm3.Kept x

theorem indMsg_restored (v : IndMsg (IePart R)) : Restored (encIndMsg (kpmParts R)) (decIndMsg (kpmParts R)) v v.Kept := by
  cases v with
  | frm1 x => exact (indMsgFrm1_restored x).wrap rfl (fun _ => rfl) fun _ _ => IndMsg.frm1.inj
  | frm2 x => exact (indMsgFrm2_restored x).wrap rfl (fun _ => rfl) fun _ _ => IndMsg.frm2.inj
  | frm3 x => exact (indMsgFrm3_restored x).wrap rfl (fun _ => rfl) fun _ _ => IndMsg.frm3.inj

/-- **An indication message that was accepted comes back if and only if** no label in it has an index or anything beside
`noLabel`, no UE is matched only with the first value of the enumeration, and the networks of labels and the identities
of UEs come back. -/
theorem indMsg_comes_back_iff (v : IndMsg (IePart R)) (a : IndicationMessage (AsnPart R))
    (h : encIndMsg (kpmParts R) v = .ok a) : decIndMsg (kpmParts R) a = .ok v ↔ v.Kept :=
  indMsg_restored v a h

/-- A message with one measurement that is labelled so -/
def msgLabelled (l : LabelInfo) : IndMsg (IePart Nat) :=
  .frm1 (⟨[⟨[.integer 7], none⟩], [⟨.id 1, [l]⟩], some 1000⟩ : IndMsgFrm1 Nat)

def msgLabelledAsn (l : MeasurementLabel) : IndicationMessage (AsnPart Nat) :=
  .indicationMessageFormat1 (⟨[⟨[.integer 7], none⟩], some [⟨.measId 1, [l]⟩], some 1000⟩ : IndicationMessageFormat1 Nat)

theorem indMsg_comes_back_iff_noLabel :
    encIndMsg (kpmParts Nat) (msgLabelled (.only (some .true_) none none)) =
        .ok (msgLabelledAsn (.only (some 0) none none)) ∧
      (decIndMsg (kpmParts Nat) (msgLabelledAsn (.only (some 0) none none)) =
          .ok (msgLabelled (.only (some .true_) none none)) ↔
        (msgLabelled (.only (some .true_) none none)).Kept) :=
  ⟨rfl, indMsg_comes_back_iff _ _ rfl⟩

/-- The index of a beam is not sent. -/
theorem ssbIndex_does_not_come_back :
    ¬∀ (v : IndMsg (IePart Nat)) (a : IndicationMessage (AsnPart Nat)),
      encIndMsg (kpmParts Nat) v = .ok a → decIndMsg (kpmParts Nat) a = .ok v := by
  intro h
  have hback := h (msgLabelled { LabelMembers.only none none none with ssbIndex := some 3 })
    (msgLabelledAsn (.only none none none)) rfl
  have hlost : decIndMsg (kpmParts Nat) (msgLabelledAsn (.only none none none)) =
    .ok (msgLabelled (.only none none none)) := rfl
  rw [hlost] at hback
  cases Except.ok.inj hback

/-! ### Action definitions -/

def ActDefFrm1.Kept (x : ActDefFrm1 R) : Prop :=
  (∀ m ∈ x.measInfoLst, m.Kept) ∧ (∀ c ∈ x.cellGlobalId, c.Kept) ∧ ∀ m ∈ x.measBinInfoLst, m.binRangeDef.Kept

theorem actDefFrm1_restored (x : ActDefFrm1 R) : Restored kpmEncActionDefFrm1Asn kpmDecActionDefFrm1Asn x x.Kept := by
  obtain ⟨infos, period, cell, bins⟩ := x
  intro b hb
  simp only [kpmEncActionDefFrm1Asn, Except.bind_eq_ok, Except.pure_eq, Except.ok.injEq] at hb
  obtain ⟨infos', hinfos, period', hperiod, cell', hcell, bins', hbins, rfl⟩ := hb
  obtain ⟨hlen, hinfos⟩ := mapSized_eq_ok.mp hinfos
  have hlen' : oneTo maxnoofMeasurementInfo infos'.length := by rwa [Except.length_of_mapM hinfos]
  have hi := (Restored.mapM fun m _ => measInfoItem_restored m) infos' hinfos
  have hp := (granPeriod_restored period period' hperiod).mpr trivial
  have hc := (Restored.mapOptional fun c _ => cellGlobalId_restored c) cell' hcell
  have hb := (Restored.mapNonempty _ "meas_bin_range_info_lst_len >= 1 && meas_bin_range_info_lst_len <= maxnoofBin" id
    fun m _ => measBinRange_restored m) bins' hbins
  rw [ActDefFrm1.Kept, ← hi, ← hc, ← hb, kpmDecActionDefFrm1Asn, require_of hlen', Except.ok_bind]
  simp only [kpmDecMeasInfoAsn, hp, Except.bind_eq_ok, Except.pure_eq, Except.ok.injEq, ActDefFrm1.mk.injEq,
    existsAndEq, true_and, and_true]

def ActDefFrm3.Kept (x : ActDefFrm3 R) : Prop := (∀ m ∈ x.measInfoLst, m.Kept) ∧ ∀ c ∈ x.cellGlobalId, c.Kept

theorem measInfoCond_restored (l : List (MeasInfoFrm3 R)) :
    Restored kpmEncMeasInfoCondAsn kpmDecMeasInfoCondAsn l (∀ m ∈ l, m.Kept) :=
  Restored.mapSized _ _ id fun m _ => measInfoCondItem_restored m

theorem actDefFrm3_restored (x : ActDefFrm3 R) : Restored kpmEncActionDefFrm3Asn kpmDecActionDefFrm3Asn x x.Kept := by
  obtain ⟨infos, period, cell⟩ := x
  refine (Restored.triple (measInfoCond_restored infos) (granPeriod_restored period)
    (Restored.mapOptional fun c _ => cellGlobalId_restored c) rfl (fun _ _ _ => rfl) ActDefFrm3.mk.inj).congr ?_
  rw [true_and, ActDefFrm3.Kept]

/-- Labels, networks and identities of UEs come back as in an indication, identities of cells do, the numbers of bins
have four bytes, and with the third format every measurement has its bins. -/
def ActDef.Kept : ActDef (IePart R) → Prop
  | frm1 x => ActDefFrm1.Kept x
  | frm2 x => UeId.KeptAsSent (ActDefFrm2.ueId x) ∧ ActDefFrm1.Kept (ActDefFrm2.actionDefFormat1 x)
  | frm3 x => ActDefFrm3.Kept x
  | frm4 x => ActDefFrm1.Kept (ActDefFrm4.actionDefFormat1 x)
  | frm5 x => (∀ id ∈ ActDefFrm5.ueIdLst x, id.KeptAsSent) ∧ ActDefFrm1.Kept (ActDefFrm5.actionDefFormat1 x)

theorem actDefFrm2_restored (x : ActDefFrm2 R) :
    Restored kpmEncActionDefFrm2Asn kpmDecActionDefFrm2Asn x (x.ueId.KeptAsSent ∧ x.actionDefFormat1.Kept) := by
  obtain ⟨id, frm1⟩ := x
  exact (Ue.ueId_asSent_restored id).pair (actDefFrm1_restored frm1) rfl (fun _ _ => rfl) ActDefFrm2.mk.inj

theorem actDefFrm4_restored (x : ActDefFrm4 R) :
    Restored kpmEncActionDefFrm4Asn kpmDecActionDefFrm4Asn x x.actionDefFormat1.Kept := by
  obtain ⟨conds, frm1⟩ := x
  refine ((Restored.mapSized _ _ id fun c _ => matchingCondFrm4_restored c).pair (actDefFrm1_restored frm1) rfl
    (fun _ _ => rfl) ActDefFrm4.mk.inj).congr ?_
  exact and_iff_right fun _ _ => trivial

theorem actDefFrm5_restored (x : ActDefFrm5 R) :
    Restored kpmEncActionDefFrm5Asn kpmDecActionDefFrm5Asn x
      ((∀ id ∈ x.ueIdLst, id.KeptAsSent) ∧ x.actionDefFormat1.Kept) := by
  obtain ⟨ids, frm1⟩ := x
  exact (Restored.mapSized _ _ id fun id _ => Ue.ueId_asSent_restored id).pair (actDefFrm1_restored frm1) rfl
    (fun _ _ => rfl) ActDefFrm5.mk.inj

theorem actDef_restored (v : ActDef (IePart R)) :
    Restored (encActionDef (kpmParts R)) (decActionDef (kpmParts R)) v v.Kept := by
  cases v with
  | frm1 x => exact (actDefFrm1_restored x).wrap rfl (fun _ => rfl) fun _ _ => ActDef.frm1.inj
  | frm2 x => exact (actDefFrm2_restored x).wrap rfl (fun _ => rfl) fun _ _ => ActDef.frm2.inj
  | frm3 x => exact (actDefFrm3_restored x).wrap rfl (fun _ => rfl) fun _ _ => ActDef.frm3.inj
  | frm4 x => exact (actDefFrm4_restored x).wrap rfl (fun _ => rfl) fun _ _ => ActDef.frm4.inj
  | frm5 x => exact (actDefFrm5_restored x).wrap rfl (fun _ => rfl) fun _ _ => ActDef.frm5.inj

/-- **An action definition that was accepted comes back if and only if** it does not have the third format with a
measurement without bins, no label in it has an index or anything beside `noLabel`, all bins have numbers of four bytes
or floating-point numbers, no NR cell has bit 31 set, and networks and the identities of UEs come back. -/
theorem actDef_comes_back_iff (v : ActDef (IePart R)) (a : ActionDefinition (AsnPart R))
    (h : encActionDef (kpmParts R) v = .ok a) : decActionDef (kpmParts R) a = .ok v ↔ v.Kept :=
  actDef_restored v a h

/-- The third format with one measurement, under the condition that it has no label -/
def actDefBinned (bins : Option (BinRangeDef Nat)) : ActDef (IePart Nat) :=
  .frm3 (⟨[⟨.id 1, [⟨.labelInfo (.only (some .true_) none none), none⟩], bins⟩], 1000, none⟩ : ActDefFrm3 Nat)

def actDefBinnedAsn (bins : Option (BinRangeDefinition Nat)) : ActionDefinition (AsnPart Nat) :=
  ⟨3, .actionDefinitionFormat3
    (⟨[⟨.measId 1, [⟨.measLabel (.only (some 0) none none), none⟩], bins⟩], 1000, none⟩ : ActionDefinitionFormat3 Nat)⟩

theorem actDef_comes_back_iff_binned :
    encActionDef (kpmParts Nat) (actDefBinned (some ⟨[⟨1, .integer 0, .integer 9⟩], [], []⟩)) =
        .ok (actDefBinnedAsn (some ⟨[⟨1, .valueInt 0, .valueInt 9⟩], none, none⟩)) ∧
      (decActionDef (kpmParts Nat) (actDefBinnedAsn (some ⟨[⟨1, .valueInt 0, .valueInt 9⟩], none, none⟩)) =
          .ok (actDefBinned (some ⟨[⟨1, .integer 0, .integer 9⟩], [], []⟩)) ↔
        (actDefBinned (some ⟨[⟨1, .integer 0, .integer 9⟩], [], []⟩)).Kept) :=
  ⟨rfl, actDef_comes_back_iff _ _ rfl⟩

/-- Without bins the decoder reads what is not there. -/
theorem withoutBins_does_not_come_back :
    ¬∀ (v : ActDef (IePart Nat)) (a : ActionDefinition (AsnPart Nat)),
      encActionDef (kpmParts Nat) v = .ok a → decActionDef (kpmParts Nat) a = .ok v := by
  intro h
  have hback := h (actDefBinned none) (actDefBinnedAsn none) rfl
  have hfails : decActionDef (kpmParts Nat) (actDefBinnedAsn none) = .error "read from NULL" := rfl
  rw [hfails] at hback
  cases hback

end FlexRic.Sm.Kpm
