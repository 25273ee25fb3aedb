import FlexRic.Theorems.Sm.Kpm.FuncDef
import FlexRic.Theorems.Sm.Rc.FuncDef

/-! # The RAN function definitions that a node sends at setup

Those of the RC service model and those of the KPM service model. -/

namespace FlexRic.Sm

/-- A definition goes there and back exactly when it can be sent: of the RC service model every definition within its
bounds, of the KPM service model every definition with the types of its styles. -/
theorem func_defs_round_trip_iff {Ie Asn : Kpm.Part → Type} (rc : Rc.FuncDef) (kpm : Kpm.RanFunctionDef Ie)
    (hrc : rc.InBounds) (hkpm : kpm.WellFormed) :
    (RoundTrips Rc.rcEncFuncDef Rc.rcDecFuncDef rc ↔ rc.Sendable) ∧
      ((∃ a : Kpm.RanFunctionDescription Asn,
        Kpm.encFuncDef kpm = .ok a ∧ ∀ stale, Kpm.decFuncDefFreed stale a = .ok kpm) ↔ kpm.Sendable) :=
  ⟨Rc.FuncDef.roundTrips hrc, Kpm.RanFunctionDef.roundTrips hkpm⟩

/-! ### A call process type with a name -/

/-- One event trigger style, and one call process type with one breakpoint -/
def Rc.callProcFuncDef (name : List UInt8) : Rc.FuncDef where
  name := ⟨[82, 67], [49], [82, 67], none⟩
  evTrig := some ⟨[⟨1, [77], 1⟩], [], [⟨3, name, [⟨1, [72], [⟨1, [84], none⟩]⟩]⟩], [], []⟩
  report := none
  insert := none
  ctrl := none
  policy := none

theorem Rc.callProcFuncDef_inBounds {name : List UInt8} (h : oneTo 150 name.length) : (callProcFuncDef name).InBounds := by
  have hone : ∀ m, 0 < m → oneTo m 1 := fun m hm => ⟨Nat.one_pos, Nat.lt_succ_of_le hm⟩
  have hparams : ParamsInBounds [⟨1, [84], none⟩] := ⟨by decide, List.forall_mem_singleton.mpr (by decide)⟩
  have hbreak : CallProcBreak.InBounds ⟨1, [72], [⟨1, [84], none⟩]⟩ := ⟨by decide, hparams⟩
  have hproc : SeqCallProcType.InBounds ⟨3, name, [⟨1, [72], [⟨1, [84], none⟩]⟩]⟩ :=
    ⟨h, hone 65535 (by decide), List.forall_mem_singleton.mpr hbreak⟩
  have hempty : ParamsInBounds [] := ⟨by decide, List.forall_mem_nil _⟩
  have htrig : ∀ t ∈ (callProcFuncDef name).evTrig, t.InBounds := by
    rintro t ⟨⟩
    exact ⟨hone 63 (by decide), List.forall_mem_singleton.mpr (hone 150 (by decide)), hempty,
      (hone 65535 (by decide)).2, List.forall_mem_singleton.mpr hproc, hempty, hempty⟩
  exact ⟨htrig, nofun, nofun, nofun, nofun⟩

theorem Rc.callProcFuncDef_sendable_iff {name : List UInt8} : (callProcFuncDef name).Sendable ↔ name.length < 150 := by
  constructor
  · intro h
    exact ((h.evTrig _ rfl).callProcType _ (List.mem_singleton_self _)).2.1
  · intro h
    have htrig : ∀ t ∈ (callProcFuncDef name).evTrig, t.Sendable := by
      rintro t ⟨⟩
      have hid : (0 : UInt16) < 3 := by decide
      have hbreak : CallProcBreak.Sendable ⟨1, [72], [⟨1, [84], none⟩]⟩ :=
        ⟨by decide, List.forall_mem_singleton.mpr ⟨by decide, rfl⟩⟩
      exact ⟨nofun, List.forall_mem_singleton.mpr ⟨hid, h, List.forall_mem_singleton.mpr hbreak⟩, nofun, nofun⟩
    exact ⟨rfl, htrig, nofun, nofun, nofun, nofun⟩

/-- One event trigger style, and one report style with one measurement -/
def Kpm.oneReportFuncDef : Kpm.RanFunctionDef (fun _ => Unit) where
  name := ⟨[75, 80, 77], [49], [75, 80, 77], none⟩
  ricEventTriggerStyleList := some [⟨.style1, [80], .format1⟩]
  ricReportStyleList := some [⟨.style4, [82], .format4, [⟨[68], some 7, none⟩], .format1, .format3⟩]

theorem Kpm.oneReportFuncDef_wellFormed : oneReportFuncDef.WellFormed := by
  refine ⟨?_, ?_⟩
  · rintro l ⟨⟩
    exact List.forall_mem_singleton.mpr ⟨rfl, rfl⟩
  · rintro l ⟨⟩
    refine List.forall_mem_singleton.mpr ⟨rfl, List.forall_mem_singleton.mpr ?_⟩
    rintro id ⟨⟩
    decide

theorem Kpm.oneReportFuncDef_sendable : oneReportFuncDef.Sendable := by
  refine ⟨rfl, ?_, ?_⟩
  · rintro l ⟨⟩
    decide
  · rintro l ⟨⟩
    exact ⟨by decide, List.forall_mem_singleton.mpr ⟨by decide, List.forall_mem_singleton.mpr rfl⟩⟩

theorem func_defs_round_trip_iff_small :
    RoundTrips Rc.rcEncFuncDef Rc.rcDecFuncDef (Rc.callProcFuncDef (List.replicate 149 72)) ∧
      ∃ a : Kpm.RanFunctionDescription (fun _ => Unit), Kpm.encFuncDef Kpm.oneReportFuncDef = .ok a ∧
        ∀ stale, Kpm.decFuncDefFreed stale a = .ok Kpm.oneReportFuncDef := by
  have hname : oneTo 150 (List.replicate 149 (72 : UInt8)).length := by
    rw [List.length_replicate]
    decide
  have hboth := @func_defs_round_trip_iff _ (fun _ => Unit) (Rc.callProcFuncDef (List.replicate 149 72))
    Kpm.oneReportFuncDef (Rc.callProcFuncDef_inBounds hname) Kpm.oneReportFuncDef_wellFormed
  exact ⟨hboth.1.mpr (Rc.callProcFuncDef_sendable_iff.mpr (by simp)), hboth.2.mpr Kpm.oneReportFuncDef_sendable⟩

/-- A name of 150 bytes is within its bounds, and the encoder refuses it. -/
theorem call_process_name_refused :
    (Rc.callProcFuncDef (List.replicate 150 72)).InBounds ∧
      ¬RoundTrips Rc.rcEncFuncDef Rc.rcDecFuncDef (Rc.callProcFuncDef (List.replicate 150 72)) := by
  have hname : oneTo 150 (List.replicate 150 (72 : UInt8)).length := by
    rw [List.length_replicate]
    decide
  have hbounds := Rc.callProcFuncDef_inBounds hname
  refine ⟨hbounds, fun hback => ?_⟩
  have hshort := Rc.callProcFuncDef_sendable_iff.mp ((Rc.FuncDef.roundTrips hbounds).mp hback)
  simp at hshort

end FlexRic.Sm
