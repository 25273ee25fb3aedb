import FlexRic.Sm.Kpm.DataCoding
import FlexRic.Theorems.Ue.RoundTrip

/-! # Which measurements come back

The parts of indications and action definitions that the mapping to ASN.1 and back leaves as they are. -/

namespace FlexRic.Sm.Kpm
open E2ap (E2apPlmn encPlmn decPlmn)
open Ue (UeId plmn_iff)
open Util

variable {R : Type}

/-! ### Numbers -/

theorem enumValue_restored (v : EnumValue) : Restored encEnumValue decEnumValue v True := by
  refine .of_ok fun b hb => ?_
  simp only [encEnumValue, Except.bind_eq_ok, require_eq_ok, exists_const, Except.pure_eq, Except.ok.injEq] at hb
  obtain ⟨rfl, rfl⟩ := hb
  rfl

theorem measType_restored (t : MeasType) : decMeasType (encMeasType t) = .ok t := by
  cases t with
  | name name => rfl
  | id id =>
    rw [encMeasType, decMeasType, UInt16.ofInt_toNat]
    rfl

theorem granPeriod_restored (ms : UInt32) : Restored encGranPeriod decGranPeriod ms True := by
  refine .of_ok fun b hb => ?_
  simp only [encGranPeriod, Except.bind_eq_ok, require_eq_ok, exists_const, Except.pure_eq, Except.ok.injEq] at hb
  obtain ⟨hms, rfl⟩ := hb
  rw [decGranPeriod, UInt32.ofNat_toNat, require_of hms]
  rfl

/-! ### Labels -/

theorem LabelMembers.eq_only_iff {E P S : Type} {l : LabelMembers E P S} :
    l = .only l.noLabel l.plmnId l.avg ↔ l.hasNotImplemented = false ∧ l.hasIndex = false := by
  cases l
  simp only [LabelMembers.only, LabelMembers.hasNotImplemented, LabelMembers.hasIndex, LabelMembers.mk.injEq,
    Bool.or_eq_false_iff, Option.isSome_eq_false_iff, Option.isNone_iff_eq_none, true_and, and_assoc]

/-- Nothing is sent of the last three members, and nothing else with `noLabel`. -/
def LabelInfo.Kept (l : LabelInfo) : Prop :=
  l.hasIndex = false ∧ (∀ p ∈ l.plmnId, InHalfBytes p) ∧ (l.noLabel ≠ none → l = .only l.noLabel none none)

theorem map_plmn_iff (o : Option E2apPlmn) : (o.map encPlmn).map decPlmn = o ↔ ∀ p ∈ o, InHalfBytes p := by
  cases o with
  | none => simp
  | some p => simp [plmn_iff]

theorem avg_restored {o : Option EnumValue} {o' : Option Int} (h : mapOptional encEnumValue o = .ok o') :
    o'.map (fun _ => EnumValue.true_) = o := by
  obtain ⟨rfl, rfl⟩ | ⟨v, b, rfl, hv, rfl⟩ := mapOptional_eq_ok.mp h
  · rfl
  · simp only [encEnumValue, Except.bind_eq_ok, require_eq_ok, exists_const] at hv
    rw [hv.1, Option.map_some]

theorem labelInfo_restored (l : LabelInfo) : Restored kpmEncLabelInfoAsn kpmDecLabelInfoAsn l l.Kept := by
  intro b hb
  rw [kpmEncLabelInfoAsn] at hb
  rcases hl : l.noLabel with _ | v
  · simp only [hl, Except.bind_eq_ok, require_eq_ok, exists_const, Except.pure_eq, Except.ok.injEq] at hb
    obtain ⟨hnot, avg, havg, rfl⟩ := hb
    have hdec : kpmDecLabelInfoAsn (.only none (l.plmnId.map encPlmn) avg) =
      .ok (.only none ((l.plmnId.map encPlmn).map decPlmn) (avg.map fun _ => .true_)) := rfl
    rw [hdec, avg_restored havg, Except.ok.injEq, LabelInfo.Kept, hl, ← map_plmn_iff]
    constructor
    · intro h
      refine ⟨?_, congrArg LabelMembers.plmnId h, fun hne => absurd rfl hne⟩
      rw [← h]
      rfl
    · rintro ⟨hindex, hplmn, -⟩
      rw [hplmn, ← hl]
      exact (LabelMembers.eq_only_iff.mpr ⟨hnot, hindex⟩).symm
  · simp only [hl, Except.bind_eq_ok, Except.pure_eq, Except.ok.injEq] at hb
    obtain ⟨_, hv, rfl⟩ := hb
    simp only [encEnumValue, Except.bind_eq_ok, require_eq_ok, exists_const, Except.pure_eq, Except.ok.injEq] at hv
    obtain ⟨rfl, rfl⟩ := hv
    have hdec : kpmDecLabelInfoAsn (.only (some 0) none none) = .ok (.only (some .true_) none none) := rfl
    rw [hdec, LabelInfo.Kept, hl, Except.ok.injEq]
    constructor
    · rintro rfl
      exact ⟨rfl, by simp [LabelMembers.only], fun _ => rfl⟩
    · intro h
      exact (h.2.2 (by simp)).symm

/-! ### Conditions -/

theorem testCond_restored (c : TestCond) : Restored encTestCond decTestCond c True := by
  refine .of_ok fun b hb => ?_
  cases c with
  | end_ => cases hb
  | _ =>
    obtain rfl := Except.ok.inj hb
    rfl

theorem testCondValue_restored (v : TestCondValue R) : Restored encTestCondValue decTestCondValue v True := by
  refine .of_ok fun b hb => ?_
  cases v with
  | bitString => cases hb
  | end_ => cases hb
  | _ =>
    obtain rfl := Except.ok.inj hb
    rfl

theorem testInfo_restored (t : TestInfo R) : Restored kpmEncTestInfoAsn kpmDecTestInfoAsn t True := by
  obtain ⟨type, cond, expr, value⟩ := t
  exact (Restored.pair
    (Restored.optional testCond_restored expr) (Restored.optional testCondValue_restored value) rfl
    (fun _ _ => rfl) fun h => by cases h; exact ⟨rfl, rfl⟩).congr (iff_of_true ⟨trivial, trivial⟩ trivial)

def LabelOrTest.Kept : LabelOrTest R → Prop
  | labelInfo l => LabelInfo.Kept l
  | testInfo _ => True

theorem labelOrTest_restored (c : LabelOrTest R) : Restored encLabelOrTest decLabelOrTest c c.Kept := by
  cases c with
  | labelInfo l => exact (labelInfo_restored l).wrap rfl (fun _ => rfl) fun _ _ => LabelOrTest.labelInfo.inj
  | testInfo t => exact (testInfo_restored t).wrap rfl (fun _ => rfl) fun _ _ => LabelOrTest.testInfo.inj

def MatchingCondFrm3.Kept (m : MatchingCondFrm3 R) : Prop := m.cond.Kept

theorem matchingCond_restored (m : MatchingCondFrm3 R) :
    Restored kpmEncMatchingCondAsn kpmDecMatchingCondAsn m m.Kept := by
  obtain ⟨cond, logicalOr⟩ := m
  exact ((labelOrTest_restored cond).pair (Restored.optional enumValue_restored logicalOr) rfl (fun _ _ => rfl)
    MatchingCondFrm3.mk.inj).congr (and_iff_left trivial)

theorem matchingConds_restored (l : List (MatchingCondFrm3 R)) :
    Restored encMatchingConds decMatchingConds l (∀ m ∈ l, m.Kept) :=
  Restored.mapSized _ _ id fun m _ => matchingCond_restored m

theorem matchingCondFrm4_restored (m : MatchingCondFrm4 R) :
    Restored kpmEncMatchingCondFrm4Asn kpmDecMatchingCondFrm4Asn m True := by
  refine .of_ok fun b hb => ?_
  obtain ⟨test, logicalOr⟩ := m
  simp only [kpmEncMatchingCondFrm4Asn, Except.bind_eq_ok, require_eq_ok, exists_const, Except.pure_eq,
    Except.ok.injEq] at hb
  obtain ⟨t, ht, rfl, rfl⟩ := hb
  rw [kpmDecMatchingCondFrm4Asn, (testInfo_restored test t ht).mpr trivial]
  rfl

/-! ### Bins -/

/-- Four bytes are enough for the number, and there is one. -/
def BinRangeVal.Kept : BinRangeVal R → Prop
  | integer v => v.toNat < 4294967296
  | real _ => True
  | end_ => False

theorem binRangeValue_iff (v : BinRangeVal R) : decBinRangeValue (encBinRangeValue v) = v ↔ v.Kept := by
  cases v with
  | integer v =>
    have hv := v.toNat_lt
    rw [encBinRangeValue, decBinRangeValue, BinRangeVal.integer.injEq, BinRangeVal.Kept, ← UInt64.toNat_inj,
      UInt64.toNat_ofNat']
    omega
  | real v => exact iff_of_true rfl trivial
  | end_ => exact iff_of_false (by simp [encBinRangeValue, decBinRangeValue]) id

def BinDistr.Kept (b : BinDistr R) : Prop := b.startValue.Kept ∧ b.endValue.Kept

theorem binRangeItem_iff (b : BinDistr R) : decBinRangeItem (encBinRangeItem b) = b ↔ b.Kept := by
  rw [BinDistr.Kept, ← binRangeValue_iff, ← binRangeValue_iff]
  cases b
  simp only [decBinRangeItem, encBinRangeItem, UInt16.ofNat_toNat, BinDistr.mk.injEq, true_and]

def BinRangeDef.Kept (b : BinRangeDef R) : Prop := ∀ d ∈ b.binXLst, d.Kept

theorem binRangeDef_restored (b : BinRangeDef R) : Restored kpmEncBinRangeDef kpmDecBinRangeDef b b.Kept := by
  obtain ⟨x, y, z⟩ := b
  have hx : Restored (mapSized (oneTo maxnoofBin) "bin_x_lst_len >= 1 && bin_x_lst_len <= maxnoofBin"
      fun b => .ok (encBinRangeItem b)) (mapSized (oneTo maxnoofBin)
        "bin_x_lst_len >= 1 && bin_x_lst_len <= maxnoofBin" fun b => .ok (decBinRangeItem b)) x (∀ d ∈ x, d.Kept) := by
    refine Restored.mapSized _ _ id fun d _ b hb => ?_
    obtain rfl := Except.ok.inj hb
    rw [Except.ok.injEq, binRangeItem_iff]
  intro b hb
  simp only [kpmEncBinRangeDef, Except.bind_eq_ok, require_eq_ok, exists_const, Except.pure_eq, Except.ok.injEq] at hb
  obtain ⟨items, hitems, rfl, rfl, rfl⟩ := hb
  rw [BinRangeDef.Kept, ← hx items hitems, kpmDecBinRangeDef]
  simp only [Option.isNone_none, require_true, Except.ok_bind, Except.pure_eq]
  exact bind_mk_eq_ok fun _ _ h => (BinRangeDef.mk.inj h).1

theorem measBinRange_restored (m : MeasBinRangeInfo R) :
    Restored kpmEncMeasBinRangeItem kpmDecMeasBinRangeItem m m.binRangeDef.Kept := by
  obtain ⟨type, bins⟩ := m
  refine (binRangeDef_restored bins).wrap rfl (fun b => ?_)
    fun _ _ h => (MeasBinRangeInfo.mk.inj h).2
  rw [kpmDecMeasBinRangeItem, measType_restored]
  rfl

/-! ### Measurements -/

def MeasInfoFrm1.Kept (m : MeasInfoFrm1) : Prop := ∀ l ∈ m.labelInfoLst, LabelInfo.Kept l

theorem measInfoItem_restored (m : MeasInfoFrm1) : Restored encMeasInfoItem decMeasInfoItem m m.Kept := by
  obtain ⟨type, labels⟩ := m
  refine (Restored.mapSized _ "Number of labels not allowed" id fun l _ => labelInfo_restored l).wrap
    rfl (fun b => ?_) fun _ _ h => (MeasInfoFrm1.mk.inj h).2
  rw [decMeasInfoItem, measType_restored]
  rfl

/-- A definition of bins that is not there is read all the same. -/
def MeasInfoFrm3.Kept (m : MeasInfoFrm3 R) : Prop :=
  (∀ c ∈ m.matchingCondLst, c.Kept) ∧ ∃ b, m.binRangeDef = some b ∧ b.Kept

theorem measInfoCondItem_restored (m : MeasInfoFrm3 R) : Restored encMeasInfoCondItem decMeasInfoCondItem m m.Kept := by
  obtain ⟨type, conds, bins⟩ := m
  intro b hb
  simp only [encMeasInfoCondItem, Except.bind_eq_ok, Except.pure_eq, Except.ok.injEq] at hb
  obtain ⟨conds', hconds, bins', hbins, rfl⟩ := hb
  rw [decMeasInfoCondItem, measType_restored, Except.ok_bind, MeasInfoFrm3.Kept,
    ← matchingConds_restored conds conds' hconds]
  obtain ⟨rfl, rfl⟩ | ⟨d, d', rfl, hd, rfl⟩ := mapOptional_eq_ok.mp hbins
  · refine iff_of_false (fun h => ?_) (by simp)
    obtain ⟨_, -, h⟩ := Except.bind_eq_ok.mp h
    cases h
  · have hdef := binRangeDef_restored d d' hd
    simp only [Option.some.injEq, exists_eq_left', ← hdef, Except.bind_eq_ok, Except.pure_eq, Except.ok.injEq,
      MeasInfoFrm3.mk.injEq, true_and, existsAndEq, and_true]

theorem measRecord_restored (r : MeasRecord R) : decMeasRecord (encMeasRecord r) = .ok r := by
  cases r with
  | integer v =>
    rw [encMeasRecord, decMeasRecord, UInt32.ofNat_toNat]
    rfl
  | real v => rfl
  | noValue => rfl

theorem measDataItem_restored (m : MeasData R) : Restored encMeasDataItem decMeasDataItem m True := by
  obtain ⟨records, flag⟩ := m
  have hrecord (r : MeasRecord R) : Restored (fun r => .ok (encMeasRecord r)) decMeasRecord r True := by
    refine .of_ok fun b hb => ?_
    obtain rfl := Except.ok.inj hb
    exact measRecord_restored r
  exact (Restored.pair (Restored.mapSized _ _ id fun r _ => hrecord r) (Restored.optional enumValue_restored flag) rfl
    (fun _ _ => rfl) MeasData.mk.inj).congr (by simp)

theorem measData_restored (l : List (MeasData R)) : Restored kpmEncMeasDataAsn kpmDecMeasDataAsn l True :=
  (Restored.mapSized _ _ id fun m _ => measDataItem_restored m).congr (iff_true_intro fun _ _ => trivial)

/-! ### Identities of a UE -/

/-- Of no UE only that there is none is sent. -/
def UeIdGranPeriod.Kept : UeIdGranPeriod → Prop
  | noneMatched v => v = .true_
  | oneOrMoreMatched ueLst => ∀ id ∈ ueLst, id.KeptAsSent

theorem ueIdGranPeriod_restored (p : UeIdGranPeriod) : Restored kpmEncUeIdGranPeriodAsn decUeIdGranPeriod p p.Kept := by
  cases p with
  | noneMatched v =>
    intro b hb
    obtain rfl := Except.ok.inj hb
    simp only [decUeIdGranPeriod, Except.pure_eq, Except.ok.injEq, UeIdGranPeriod.noneMatched.injEq,
      UeIdGranPeriod.Kept, eq_comm]
  | oneOrMoreMatched ueLst =>
    exact (Restored.mapSized _ _ id fun id _ => Ue.ueId_asSent_restored id).wrap rfl (fun _ => rfl)
      fun _ _ => UeIdGranPeriod.oneOrMoreMatched.inj

def MeasInfoCondUe.Kept (m : MeasInfoCondUe R) : Prop :=
  (∀ c ∈ m.matchingCondLst, c.Kept) ∧ (∀ id ∈ m.ueIdMatchedLst, id.KeptAsSent) ∧ ∀ p ∈ m.ueIdGranPeriodLst, p.Kept

theorem measInfoCondUeItem_restored (m : MeasInfoCondUe R) :
    Restored encMeasInfoCondUeItem decMeasInfoCondUeItem m m.Kept := by
  obtain ⟨type, conds, ueIds, periods⟩ := m
  refine Restored.triple (matchingConds_restored conds)
    (Restored.mapNonempty _ "ue_id_matched_lst_len >= 1 && ue_id_matched_lst_len <= maxnoofUEID" id
      fun id _ => Ue.ueId_asSent_restored id)
    (Restored.mapNonempty _ "ue_id_gran_period_lst_len >=1 && ue_id_gran_period_lst_len <= maxnoofUEID" id
      fun p _ => ueIdGranPeriod_restored p)
    rfl (fun b₁ b₂ b₃ => ?_) fun h => (MeasInfoCondUe.mk.inj h).2
  rw [decMeasInfoCondUeItem, measType_restored]
  rfl

/-! ### Cells -/

/-- Bit 31 of the identity of an NR cell is not set. -/
def CellGlobalId.Kept : CellGlobalId → Prop
  | nrCgi plmnId nrCellId => InHalfBytes plmnId ∧ nrCellId / 0x80000000 % 2 = 0
  | eutra plmnId _ => InHalfBytes plmnId

theorem cellGlobalId_restored (c : CellGlobalId) : Restored encCellGlobalIdAsn decCellGlobalIdAsn c c.Kept := by
  cases c with
  | nrCgi plmnId nrCellId =>
    intro b hb
    simp only [encCellGlobalIdAsn, Except.bind_eq_ok, Except.pure_eq, Except.ok.injEq] at hb
    obtain ⟨bits, hbits, rfl⟩ := hb
    obtain ⟨hval, rfl⟩ := cpToBitString_eq_ok.mp hbits
    rw [CellGlobalId.Kept, ← plmn_iff, ← cpNrCellIdToU64_bitStringOf hval, decCellGlobalIdAsn]
    simp only [Except.bind_eq_ok, Except.pure_eq, Except.ok.injEq, CellGlobalId.nrCgi.injEq, existsAndEq, and_true]
    exact and_comm
  | eutra plmnId eutraCellId =>
    intro b hb
    simp only [encCellGlobalIdAsn, Except.bind_eq_ok, Except.pure_eq, Except.ok.injEq] at hb
    obtain ⟨bits, hbits, rfl⟩ := hb
    have hback : cpEutraCellIdToU32 bits = .ok eutraCellId := Ue.kind_kept (k := .eutraCell) (by decide) hbits
    rw [CellGlobalId.Kept, ← plmn_iff, decCellGlobalIdAsn, hback]
    simp only [Except.ok_bind, Except.pure_eq, Except.ok.injEq, CellGlobalId.eutra.injEq, and_true]

end FlexRic.Sm.Kpm
