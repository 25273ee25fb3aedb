import FlexRic.Sm.Kpm.FuncDef
import FlexRic.Lib.Carried

/-! # Which RAN function definitions of the KPM service model go there and back

A definition does when its lists have the lengths that both sides assert, no measurement has a range of bins and no
instance is given: of the instance the decoder hands out a pointer into the structure that it frees. -/

namespace FlexRic.Sm.Kpm

variable {Ie Asn : Part → Type}

/-! ### Styles -/

section Styles
variable {α β : Type} {enc : α → Except String β} {dec : β → Except String α} {msg msg' : String}

theorem roundTrips_mapStyles {o : Option (List α)} :
    RoundTrips (mapStyles enc msg) (mapStyles dec msg') o ↔
      ∀ l ∈ o, (1 ≤ l.length ∧ l.length ≤ maxnoofRicStyles) ∧ ∀ a ∈ l, RoundTrips enc dec a := by
  cases o with
  | none => exact iff_of_true ⟨none, rfl, rfl⟩ (by simp)
  | some l =>
    simp only [Option.mem_def, Option.some.injEq, forall_eq', ← roundTrips_mapM]
    simp only [RoundTrips, mapStyles, exists_require_iff]
    refine and_congr_right fun hsize => ?_
    constructor
    · rintro ⟨_, henc, hdec⟩
      obtain ⟨bs, hbs, heq⟩ := Except.bind_eq_ok.mp henc
      cases heq
      obtain ⟨-, -, hdec⟩ := Except.bind_eq_ok.mp hdec
      exact ⟨bs, hbs, (bind_mk_eq_ok fun _ _ => Option.some.inj).mp hdec⟩
    · rintro ⟨bs, hbs, hback⟩
      have hlen : bs.length ≥ 1 ∧ bs.length ≤ maxnoofRicStyles := by rwa [Except.length_of_mapM hbs]
      exact ⟨some bs, by rw [hbs]; rfl, by simp only [require_of hlen, hback, Except.ok_bind, Except.pure_eq]⟩

end Styles

theorem RicEventTriggerStyleItem.roundTrips {i : RicEventTriggerStyleItem} (hstyle : i.styleType = .style1)
    (hformat : i.formatType = .format1) : RoundTrips encEventTriggerStyle decEventTriggerStyle i := by
  obtain ⟨_, name, _⟩ := i
  cases hstyle
  cases hformat
  exact ⟨_, rfl, rfl⟩

/-- The formats of a report style -/
def RicServiceReport.formats : RicServiceReport → Option (FormatActionDef × FormatIndHdr × FormatIndMsg)
  | style1 => some (.format1, .format1, .format1)
  | style2 => some (.format2, .format1, .format1)
  | style3 => some (.format3, .format1, .format2)
  | style4 => some (.format4, .format1, .format3)
  | style5 => some (.format5, .format1, .format3)
  | end_ => none

/-- The two switches over the style agree. -/
theorem decReportStyleTypes_enc {t : RicServiceReport} {fs : FormatActionDef × FormatIndHdr × FormatIndMsg}
    (h : t.formats = some fs) :
    ∃ styleType actionType hdrType msgType,
      encReportStyleTypes t = .ok (styleType, actionType, hdrType, msgType) ∧
      decReportStyleTypes styleType = .ok (t, fs) := by
  cases t <;> cases h <;> exact ⟨_, _, _, _, rfl, rfl⟩

theorem MeasInfoForAction.roundTrips {m : MeasInfoForAction Ie} (hid : ∀ id ∈ m.id, id < 65536) :
    RoundTrips (encMeasInfoForAction : _ → Except String (MeasurementInfoActionItem Asn)) decMeasInfoForAction m ↔
      m.binRangeDef = none := by
  obtain ⟨name, id, bins⟩ := m
  cases bins with
  | some b => exact iff_of_false (fun ⟨_, henc, _⟩ => nomatch henc) (fun h => nomatch h)
  | none =>
    refine iff_of_true ⟨_, rfl, ?_⟩ rfl
    cases id with
    | none => rfl
    | some n =>
      have hback : ((n : Int) % 65536).toNat = n := by
        have hlt := hid n rfl
        omega
      exact congrArg (fun k => Except.ok (MeasInfoForAction.mk name (some k) none)) hback

/-! ### Reports -/

/-- The formats are those of the style, and the identifiers have two bytes. -/
structure RicReportStyleItem.WellFormed (i : RicReportStyleItem Ie) : Prop where
  formats : i.reportStyleType.formats = some (i.actDefFormatType, i.indHdrFormatType, i.indMsgFormatType)
  ids : ∀ m ∈ i.measInfoForActionLst, ∀ id ∈ m.id, id < 65536

def RicReportStyleItem.Sendable (i : RicReportStyleItem Ie) : Prop :=
  (1 ≤ i.measInfoForActionLst.length ∧ i.measInfoForActionLst.length ≤ maxnoofMeasurementInfo) ∧
    ∀ m ∈ i.measInfoForActionLst, m.binRangeDef = none

theorem RicReportStyleItem.roundTrips {i : RicReportStyleItem Ie} (hi : i.WellFormed) :
    RoundTrips (encReportStyle : _ → Except String (ReportStyleItem Asn)) decReportStyle i ↔ i.Sendable := by
  obtain ⟨style, name, act, meas, hdr, msg⟩ := i
  obtain ⟨hformats, hids⟩ := hi
  obtain ⟨st, at_, ht, mt, henc, hdec⟩ := decReportStyleTypes_enc hformats
  have hmeas : RoundTrips (List.mapM encMeasInfoForAction : _ → Except String (List (MeasurementInfoActionItem Asn)))
      (List.mapM decMeasInfoForAction) meas ↔
      ∀ m ∈ meas, m.binRangeDef = none :=
    roundTrips_mapM.trans (forall₂_congr fun m hm => MeasInfoForAction.roundTrips (hids m hm))
  simp only [RoundTrips, encReportStyle, henc, Except.ok_bind, exists_require_iff]
  refine and_congr_right fun hsize => Iff.trans ?_ hmeas
  constructor
  · rintro ⟨_, hitem, hback⟩
    obtain ⟨bs, hbs, heq⟩ := Except.bind_eq_ok.mp hitem
    cases heq
    simp only [decReportStyle, hdec, Except.bind_eq_ok, Except.ok_bind, require_eq_ok, Except.pure_eq,
      Except.ok.injEq] at hback
    obtain ⟨-, -, _, hms, heq⟩ := hback
    cases heq
    exact ⟨bs, hbs, hms⟩
  · rintro ⟨bs, hbs, hms⟩
    have hlen : bs.length ≥ 1 ∧ bs.length ≤ maxnoofMeasurementInfo := by rwa [Except.length_of_mapM hbs]
    refine ⟨⟨st, name, at_, bs, ht, mt⟩, by rw [hbs]; rfl, ?_⟩
    simp only [decReportStyle, hdec, require_of hlen, hms, Except.ok_bind, Except.pure_eq]

/-! ### The definition -/

/-- The style items carry the types that the encoder fixes for their style. -/
structure RanFunctionDef.WellFormed (f : RanFunctionDef Ie) : Prop where
  triggers : ∀ l ∈ f.ricEventTriggerStyleList, ∀ i ∈ l, i.styleType = .style1 ∧ i.formatType = .format1
  reports : ∀ l ∈ f.ricReportStyleList, ∀ i ∈ l, i.WellFormed

/-- No instance, no ranges of bins, and lists with something in them -/
structure RanFunctionDef.Sendable (f : RanFunctionDef Ie) : Prop where
  instance_ : f.name.instance_ = none
  triggers : ∀ l ∈ f.ricEventTriggerStyleList, 1 ≤ l.length ∧ l.length ≤ maxnoofRicStyles
  reports : ∀ l ∈ f.ricReportStyleList, (1 ≤ l.length ∧ l.length ≤ maxnoofRicStyles) ∧ ∀ i ∈ l, i.Sendable

/-- Whatever is written where the instance was, the caller has the definition: then there is no instance. -/
theorem decFuncDefFreed_eq_ok {a : RanFunctionDescription Asn} {f : RanFunctionDef Ie} :
    (∀ stale, decFuncDefFreed stale a = .ok f) ↔ f.name.instance_ = none ∧ decFuncDef a = .ok f := by
  constructor
  · intro h
    obtain ⟨d, hd, hzero⟩ := Except.bind_eq_ok.mp (h 0)
    have hone := h 1
    rw [decFuncDefFreed, hd, Except.ok_bind] at hone
    obtain ⟨⟨name, oid, description, instance_⟩, triggers, reports⟩ := d
    cases instance_ with
    | none =>
      obtain rfl := Except.ok.inj hzero
      exact ⟨rfl, hd⟩
    | some x =>
      obtain rfl := Except.ok.inj hzero
      cases hone
  · rintro ⟨hnone, hdec⟩ stale
    obtain ⟨⟨name, oid, description, _⟩, triggers, reports⟩ := f
    cases hnone
    rw [decFuncDefFreed, hdec]
    rfl

theorem RanFunctionDef.roundTrips {f : RanFunctionDef Ie} (hf : f.WellFormed) :
    (∃ a : RanFunctionDescription Asn, encFuncDef f = .ok a ∧ ∀ stale, decFuncDefFreed stale a = .ok f) ↔ f.Sendable := by
  obtain ⟨name, triggers, reports⟩ := f
  obtain ⟨htriggers, hreports⟩ := hf
  have htrigger : (∀ l ∈ triggers, (1 ≤ l.length ∧ l.length ≤ maxnoofRicStyles) ∧
      ∀ i ∈ l, RoundTrips encEventTriggerStyle decEventTriggerStyle i) ↔
      ∀ l ∈ triggers, 1 ≤ l.length ∧ l.length ≤ maxnoofRicStyles :=
    forall₂_congr fun l hl => and_iff_left fun i hi =>
      RicEventTriggerStyleItem.roundTrips (htriggers l hl i hi).1 (htriggers l hl i hi).2
  have hreport : (∀ l ∈ reports, (1 ≤ l.length ∧ l.length ≤ maxnoofRicStyles) ∧
      ∀ i ∈ l, RoundTrips (encReportStyle : _ → Except String (ReportStyleItem Asn)) decReportStyle i) ↔
      ∀ l ∈ reports, (1 ≤ l.length ∧ l.length ≤ maxnoofRicStyles) ∧ ∀ i ∈ l, i.Sendable :=
    forall₂_congr fun l hl => and_congr_right fun _ =>
      forall₂_congr fun i hi => RicReportStyleItem.roundTrips (hreports l hl i hi)
  have hlists : RoundTrips (encFuncDef : _ → Except String (RanFunctionDescription Asn)) decFuncDef ⟨name, triggers, reports⟩ ↔
      (∀ l ∈ triggers, 1 ≤ l.length ∧ l.length ≤ maxnoofRicStyles) ∧
        ∀ l ∈ reports, (1 ≤ l.length ∧ l.length ≤ maxnoofRicStyles) ∧ ∀ i ∈ l, i.Sendable := by
    simp only [RoundTrips, encFuncDef]
    exact (exists_bind_bind_iff (RanFunctionDef.mk name) (fun _ _ => by rfl)
      fun _ _ _ _ h => by injection h; exact ⟨‹_›, ‹_›⟩).trans (and_congr (roundTrips_mapStyles.trans htrigger)
        (roundTrips_mapStyles.trans hreport))
  simp only [decFuncDefFreed_eq_ok, and_left_comm, exists_and_left]
  constructor
  · rintro ⟨hnone, hback⟩
    obtain ⟨ht, hr⟩ := hlists.mp hback
    exact ⟨hnone, ht, hr⟩
  · rintro ⟨hnone, ht, hr⟩
    exact ⟨hnone, hlists.mpr ⟨ht, hr⟩⟩

end FlexRic.Sm.Kpm
