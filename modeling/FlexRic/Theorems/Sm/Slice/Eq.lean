import FlexRic.Sm.Slice.Eq
import FlexRic.Theorems.Sm.Slice.RoundTrip

/-! # What the comparisons of the slice service model tell apart

What a comparison looks at is the same record with less in it: the schedulers of the slices without their
bytes, and zeros without a sign. It says no whenever there is a slice without an algorithm, and it may come to
an array that it reads past the end of. -/

namespace FlexRic.Sm.Slice
open Plain

/-! ### Outcomes of controls -/

section CtrlOut
variable {v w : SliceCtrlOut}

theorem eqSliceCtrlOut_tells : Tells (eqSliceCtrlOut v w) (v.diagnostic = w.diagnostic) False := by
  by_cases hlen : v.diagnostic.len = w.diagnostic.len
  · have hbytes : Tells (if v.diagnostic.len > 0 then
        memcmp v.diagnostic.items w.diagnostic.items v.diagnostic.len.toNat else .ok true)
        (v.diagnostic = w.diagnostic) False := by
      split
      · rw [memcmp_counted hlen]
        exact (same_tells _).congr Counted.items_inj.symm Iff.rfl
      · next h =>
        have hv : v.diagnostic.items = [] := by simpa [Counted.len_pos_iff] using h
        have hw : w.diagnostic.items = [] := by
          rw [Counted.len_eq_iff, hv] at hlen
          exact List.length_eq_zero_iff.mp hlen.symm
        exact true_tells.congr (by rw [Counted.items_inj, hv, hw]; simp) Iff.rfl
    exact ((same_tells _).andThen hbytes).congr (by simp [hlen]) (by simp)
  · refine ((same_tells _).andThen (.mk Iff.rfl Iff.rfl)).congr ?_ ?_
    · exact ⟨fun h => absurd h.1 hlen, fun h => absurd (congrArg _ h) hlen⟩
    · exact ⟨fun h => hlen h.1, False.elim⟩

/-- The encoding carries the diagnostic; the answer is decoded as the first one. -/
theorem sliceDecCtrlOut_sliceEncCtrlOut (v : SliceCtrlOut) :
    ∃ buf, sliceEncCtrlOutPlain v = .ok buf ∧ sliceDecCtrlOutPlain buf = .ok ⟨.ok, v.diagnostic⟩ := by
  have hlen : (put v.diagnostic.len ++ v.diagnostic.items.flatMap put).length =
      sizeof UInt32 + v.diagnostic.items.length := by
    simp
  refine ⟨put v.diagnostic.len ++ v.diagnostic.items.flatMap put, ?_, ?_⟩
  · rw [sliceEncCtrlOutPlain, require_of hlen]
    rfl
  · have hr := reads_text v.diagnostic [] (Nat.zero_le _)
    rw [List.append_nil] at hr
    rw [sliceDecCtrlOutPlain, hr]
    rfl

/-- What is expected of the codec, the copy and the comparison of outcomes. -/
structure SliceCtrlOut.Kept (v w : SliceCtrlOut) : Prop where
  decoded : ∃ buf, sliceEncCtrlOutPlain v = .ok buf ∧ sliceDecCtrlOutPlain buf = .ok v
  copied : cpSliceCtrlOut v = v
  compared : Says (eqSliceCtrlOut v w) (v = w)

/-- **An outcome is carried and copied if and only if its answer is `SLICE_CTRL_OUT_OK`, and compared as it
should be if and only if no other one has the same diagnostic.** -/
theorem SliceCtrlOut.kept_iff (v w : SliceCtrlOut) :
    v.Kept w ↔ v.ans = .ok ∧ (v.diagnostic = w.diagnostic → v.ans = w.ans) := by
  have hok : (⟨.ok, v.diagnostic⟩ : SliceCtrlOut) = v ↔ v.ans = .ok := by
    obtain ⟨a, d⟩ := v
    simp [eq_comm]
  have heq : v = w ↔ v.diagnostic = w.diagnostic ∧ v.ans = w.ans := by
    cases v
    cases w
    simp [and_comm]
  have hsays : Says (eqSliceCtrlOut v w) (v = w) ↔ (v.diagnostic = w.diagnostic → v.ans = w.ans) := by
    rw [eqSliceCtrlOut_tells.says_iff, heq]
    tauto
  constructor
  · rintro ⟨-, hcp, hcmp⟩
    exact ⟨hok.mp hcp, hsays.mp hcmp⟩
  · rintro ⟨hans, hne⟩
    refine ⟨?_, hok.mpr hans, hsays.mpr hne⟩
    obtain ⟨buf, henc, hdec⟩ := sliceDecCtrlOut_sliceEncCtrlOut v
    exact ⟨buf, henc, by rw [hdec, hok.mpr hans]⟩

/-- An error without a diagnostic is decoded, and copied, as a success. -/
theorem error_not_kept : ¬∀ v w : SliceCtrlOut, v.Kept w := by
  intro h
  have hcp := (h ⟨.error, .empty⟩ ⟨.error, .empty⟩).copied
  cases hcp

end CtrlOut

/-! ### What is compared -/

def NvsRate.compared (r : NvsRate) : NvsRate := ⟨r.mbpsRequired.unsigned, r.mbpsReference.unsigned⟩

def NvsSlice.compared : NvsSlice → NvsSlice
  | .rate r => .rate r.compared
  | .capacity c => .capacity ⟨c.pctReserved.unsigned⟩

def Scn19Slice.compared : Scn19Slice → Scn19Slice
  | .dynamic r => .dynamic r.compared
  | .fixed s => .fixed s
  | .onDemand od => .onDemand ⟨od.pctReserved.unsigned, od.logDelta.unsigned, od.tau⟩

def SliceParams.compared : SliceParams → SliceParams
  | .nvs n => .nvs n.compared
  | .scn19 n => .scn19 n.compared
  | par => par

/-- The slice without the bytes of its scheduler. -/
def FrSlice.compared (s : FrSlice) : FrSlice where
  id := s.id
  label := s.label
  sched := ⟨List.replicate s.sched.items.length 0, by rw [List.length_replicate]; exact s.sched.length_lt⟩
  params := s.params.compared

def UlDlSliceConf.compared (c : UlDlSliceConf) : UlDlSliceConf where
  slices := ⟨c.slices.items.map FrSlice.compared, by rw [List.length_map]; exact c.slices.length_lt⟩
  schedName := c.schedName

def SliceConf.compared (c : SliceConf) : SliceConf := ⟨c.dl.compared, c.ul.compared⟩

/-! ### What can be equal to itself -/

def NvsRate.Comparable (r : NvsRate) : Prop := r.mbpsReference.isNaN = false ∧ r.mbpsRequired.isNaN = false

def NvsSlice.Comparable : NvsSlice → Prop
  | .rate r => r.Comparable
  | .capacity c => c.pctReserved.isNaN = false

def Scn19Slice.Comparable : Scn19Slice → Prop
  | .dynamic r => r.Comparable
  | .fixed _ => True
  | .onDemand od => od.logDelta.isNaN = false ∧ od.pctReserved.isNaN = false

/-- The parameters are of an algorithm, and the numbers in them are numbers. -/
def SliceParams.Comparable : SliceParams → Prop
  | .none => False
  | .sta _ => True
  | .nvs n => n.Comparable
  | .scn19 n => n.Comparable
  | .edf _ => True

def UlDlSliceConf.Comparable (c : UlDlSliceConf) : Prop := ∀ s ∈ c.slices.items, s.params.Comparable

def SliceConf.Comparable (c : SliceConf) : Prop := c.ul.Comparable ∧ c.dl.Comparable

/-! ### Where an array is read past its end -/

/-- The second array is shorter, and no item of it differs. -/
def EdfSlice.ReadsPast (a b : EdfSlice) : Prop :=
  b.over_.items <+: a.over_.items ∧ b.over_.items.length < a.over_.items.length

def SliceParams.ReadsPast : SliceParams → SliceParams → Prop
  | .edf a, .edf b => a.ReadsPast b
  | _, _ => False

/-- What is compared before the parameters does not differ. -/
def FrSlice.ReadsPast (a b : FrSlice) : Prop :=
  a.id = b.id ∧ a.label = b.label ∧ a.sched.items.length = b.sched.items.length ∧ a.params.ReadsPast b.params

/-- The comparison finds no difference between two slices. -/
def FrSlice.Alike (a b : FrSlice) : Prop := a.compared = b.compared ∧ a.params.Comparable

/-- The slices before those whose parameters are read too far are alike. -/
def UlDlSliceConf.ReadsPast (a b : UlDlSliceConf) : Prop :=
  a.schedName = b.schedName ∧ a.slices.items.length = b.slices.items.length ∧
    FailsIn FrSlice.Alike FrSlice.ReadsPast a.slices.items b.slices.items

def UlDlSliceConf.Alike (a b : UlDlSliceConf) : Prop := a.compared = b.compared ∧ a.Comparable

def SliceConf.ReadsPast (a b : SliceConf) : Prop :=
  a.ul.ReadsPast b.ul ∨ a.ul.Alike b.ul ∧ a.dl.ReadsPast b.dl

/-! ### The comparisons of parameters -/

section Params

theorem eqStaticSlice_tells (a b : StaticSlice) : Tells (eqStaticSlice a b) (a = b) False := by
  refine ((same_tells _).andThen (same_tells _)).congr ?_ (by simp)
  cases a
  cases b
  rw [StaticSlice.mk.injEq]
  exact and_comm

theorem eqNvsRate_tells (a b : NvsRate) : Tells (eqNvsRate a b) (a.compared = b.compared ∧ a.Comparable) False := by
  refine ((same_tells _).andThen (same_tells _)).congr ?_ (by simp)
  simp only [Float4.ceq_iff, NvsRate.compared, NvsRate.Comparable, NvsRate.mk.injEq]
  tauto

theorem eqNvsSlice_tells (a b : NvsSlice) : Tells (eqNvsSlice a b) (a.compared = b.compared ∧ a.Comparable) False := by
  cases a with
  | rate a =>
    cases b with
    | rate b => exact (eqNvsRate_tells a b).congr (by simp [NvsSlice.compared, NvsSlice.Comparable]) Iff.rfl
    | capacity b => exact false_tells.congr (by simp [NvsSlice.compared]) Iff.rfl
  | capacity a =>
    cases b with
    | rate b => exact false_tells.congr (by simp [NvsSlice.compared]) Iff.rfl
    | capacity b =>
      exact (same_tells _).congr (by simp [Float4.ceq_iff, NvsSlice.compared, NvsSlice.Comparable]) Iff.rfl

theorem eqScn19OnDemand_tells (a b : Scn19OnDemand) :
    Tells (eqScn19OnDemand a b)
      ((Scn19Slice.onDemand a).compared = (Scn19Slice.onDemand b).compared ∧ (Scn19Slice.onDemand a).Comparable)
      False := by
  refine ((same_tells _).andThen ((same_tells _).andThen (same_tells _))).congr ?_ (by simp)
  simp only [Float4.ceq_iff, Scn19Slice.compared, Scn19Slice.Comparable, Scn19Slice.onDemand.injEq,
    Scn19OnDemand.mk.injEq]
  tauto

theorem eqScn19Slice_tells (a b : Scn19Slice) :
    Tells (eqScn19Slice a b) (a.compared = b.compared ∧ a.Comparable) False := by
  cases a with
  | dynamic a =>
    cases b with
    | dynamic b => exact (eqNvsRate_tells a b).congr (by simp [Scn19Slice.compared, Scn19Slice.Comparable]) Iff.rfl
    | fixed b => exact false_tells.congr (by simp [Scn19Slice.compared]) Iff.rfl
    | onDemand b => exact false_tells.congr (by simp [Scn19Slice.compared]) Iff.rfl
  | fixed a =>
    cases b with
    | dynamic b => exact false_tells.congr (by simp [Scn19Slice.compared]) Iff.rfl
    | fixed b =>
      exact (eqStaticSlice_tells a b).congr (by simp [Scn19Slice.compared, Scn19Slice.Comparable]) Iff.rfl
    | onDemand b => exact false_tells.congr (by simp [Scn19Slice.compared]) Iff.rfl
  | onDemand a =>
    cases b with
    | dynamic b => exact false_tells.congr (by simp [Scn19Slice.compared]) Iff.rfl
    | fixed b => exact false_tells.congr (by simp [Scn19Slice.compared]) Iff.rfl
    | onDemand b => exact eqScn19OnDemand_tells a b

theorem eqEdfSlice_tells (a b : EdfSlice) : Tells (eqEdfSlice a b) (a = b) (a.ReadsPast b) := by
  refine ((eqArray_tells (fun a b => same_tells (a = b)) _ _).both ((same_tells _).andThen
    ((same_tells _).andThen ((same_tells _).andThen (same_tells _))))).congr ?_ ?_
  · obtain ⟨d, g, m, o⟩ := a
    obtain ⟨d', g', m', o'⟩ := b
    rw [alikeIn_eq, EdfSlice.mk.injEq, Counted.len_eq_iff, Counted.items_inj]
    constructor
    · rintro ⟨ho, hd, hg, hm, hlen⟩
      exact ⟨hd, hg, hm, ho.eq_of_length hlen⟩
    · rintro ⟨hd, hg, hm, ho⟩
      exact ⟨ho ▸ List.prefix_rfl, hd, hg, hm, congrArg _ ho⟩
  · rw [failsIn_eq]
    simp [EdfSlice.ReadsPast]

theorem eqSliceParams_tells (a b : SliceParams) :
    Tells (eqSliceParams a b) (a.compared = b.compared ∧ a.Comparable) (a.ReadsPast b) := by
  cases a with
  | none => cases b <;> exact false_tells.congr (by simp [SliceParams.Comparable]) Iff.rfl
  | sta a =>
    cases b with
    | sta b => exact (eqStaticSlice_tells a b).congr (by simp [SliceParams.compared, SliceParams.Comparable]) Iff.rfl
    | _ => exact false_tells.congr (by simp [SliceParams.compared]) Iff.rfl
  | nvs a =>
    cases b with
    | nvs b => exact (eqNvsSlice_tells a b).congr (by simp [SliceParams.compared, SliceParams.Comparable]) Iff.rfl
    | _ => exact false_tells.congr (by simp [SliceParams.compared]) Iff.rfl
  | scn19 a =>
    cases b with
    | scn19 b =>
      exact (eqScn19Slice_tells a b).congr (by simp [SliceParams.compared, SliceParams.Comparable]) Iff.rfl
    | _ => exact false_tells.congr (by simp [SliceParams.compared]) Iff.rfl
  | edf a =>
    cases b with
    | edf b => exact (eqEdfSlice_tells a b).congr (by simp [SliceParams.compared, SliceParams.Comparable]) Iff.rfl
    | _ => exact false_tells.congr (by simp [SliceParams.compared]) Iff.rfl

end Params

/-! ### The comparisons of slices -/

section Slices

theorem eqSlice_tells (a b : FrSlice) : Tells (eqSlice a b) (a.Alike b) (a.ReadsPast b) := by
  have hcompared : a.compared = b.compared ↔ a.id = b.id ∧ a.label = b.label ∧
      a.sched.items.length = b.sched.items.length ∧ a.params.compared = b.params.compared := by
    simp [FrSlice.compared, List.replicate_inj]
  by_cases hlen : a.label.len = b.label.len
  · have hlabel := Counted.len_eq_iff.mp hlen
    rw [eqSlice, memcmp_counted hlen]
    refine ((same_tells _).andThen ((same_tells _).andThen ((same_tells _).andThen ((same_tells _).andThen
      (eqSliceParams_tells a.params b.params))))).congr ?_ ?_
    · simp only [FrSlice.Alike, hcompared, ← Counted.items_inj, Counted.len_eq_iff]
      tauto
    · simp only [FrSlice.ReadsPast, ← Counted.items_inj, Counted.len_eq_iff]
      tauto
  · have hne : a.label ≠ b.label := fun h => hlen (congrArg _ h)
    refine ((same_tells _).andThen ((same_tells _).andThen (.mk Iff.rfl Iff.rfl))).congr ?_ ?_
    · simp only [FrSlice.Alike, hcompared, hlen, hne, false_and, and_false]
    · simp only [FrSlice.ReadsPast, hlen, hne, false_and, and_false]

/-- Of two arrays of one length all pairs are alike when the compared parts are the same. -/
theorem alikeIn_slices {as bs : List FrSlice} (hlen : as.length = bs.length) :
    AlikeIn FrSlice.Alike as bs ↔
      as.map FrSlice.compared = bs.map FrSlice.compared ∧ ∀ s ∈ as, s.params.Comparable := by
  induction as generalizing bs with
  | nil =>
    obtain rfl := List.length_eq_zero_iff.mp hlen.symm
    simp [AlikeIn]
  | cons a as ih =>
    cases bs with
    | nil => cases hlen
    | cons b bs =>
      rw [AlikeIn, ih (Nat.succ.inj hlen), FrSlice.Alike, List.map_cons, List.map_cons, List.cons.injEq,
        List.forall_mem_cons]
      tauto

theorem eqUlDlSliceConf_tells (a b : UlDlSliceConf) : Tells (eqUlDlSliceConf a b) (a.Alike b) (a.ReadsPast b) := by
  have hcompared : a.compared = b.compared ↔ a.schedName = b.schedName ∧
      a.slices.items.map FrSlice.compared = b.slices.items.map FrSlice.compared := by
    simp [UlDlSliceConf.compared, and_comm]
  by_cases hname : a.schedName.len = b.schedName.len
  · have hlenName := Counted.len_eq_iff.mp hname
    rw [eqUlDlSliceConf, memcmp_counted hname]
    refine ((same_tells _).andThen ((same_tells _).andThen ((same_tells _).andThen
      (eqArray_tells eqSlice_tells _ _)))).congr ?_ ?_
    · simp only [UlDlSliceConf.Alike, hcompared, ← Counted.items_inj, Counted.len_eq_iff]
      constructor
      · rintro ⟨-, hlen, hn, h⟩
        obtain ⟨hmap, hself⟩ := (alikeIn_slices hlen).mp h
        exact ⟨⟨hn, hmap⟩, hself⟩
      · rintro ⟨⟨hn, hmap⟩, hself⟩
        have hlen : a.slices.items.length = b.slices.items.length := by simpa using congrArg List.length hmap
        exact ⟨hlenName, hlen, hn, (alikeIn_slices hlen).mpr ⟨hmap, hself⟩⟩
    · simp only [UlDlSliceConf.ReadsPast, ← Counted.items_inj, Counted.len_eq_iff]
      tauto
  · have hne : a.schedName ≠ b.schedName := fun h => hname (congrArg _ h)
    refine ((same_tells _).andThen (.mk Iff.rfl Iff.rfl)).congr ?_ ?_
    · simp only [UlDlSliceConf.Alike, hcompared, hname, hne, false_and]
    · simp only [UlDlSliceConf.ReadsPast, hname, hne, false_and]

theorem eqSliceConf_tells (a b : SliceConf) :
    Tells (eqSliceConf a b) (a.compared = b.compared ∧ a.Comparable) (a.ReadsPast b) := by
  refine ((eqUlDlSliceConf_tells a.ul b.ul).both (eqUlDlSliceConf_tells a.dl b.dl)).congr ?_ Iff.rfl
  simp only [UlDlSliceConf.Alike, SliceConf.compared, SliceConf.Comparable, SliceConf.mk.injEq]
  tauto

theorem eqUeSliceAssoc_tells (a b : UeSliceAssoc) : Tells (eqUeSliceAssoc a b) (a = b) False := by
  refine ((same_tells _).andThen ((same_tells _).andThen (same_tells _))).congr ?_ (by simp)
  cases a
  cases b
  rw [UeSliceAssoc.mk.injEq]
  tauto

theorem eqUeSliceConf_tells (a b : UeSliceConf) : Tells (eqUeSliceConf a b) (a = b) False := by
  have hconf : a = b ↔ a.ues = b.ues := by
    cases a
    cases b
    rw [UeSliceConf.mk.injEq]
  exact (eqCounted_tells eqUeSliceAssoc_tells).congr hconf.symm Iff.rfl

theorem eqDelSlice_tells (a b : DelSliceConf) : Tells (eqDelSlice a b) (a = b) False := by
  have hconf : a = b ↔ a.dl = b.dl ∧ a.ul = b.ul := by
    cases a
    cases b
    rw [DelSliceConf.mk.injEq]
  have hassoc : eqDelSlice a b =
      both (both (same (a.dl.len = b.dl.len)) (eqArray (fun a b => same (a = b)) a.dl.items b.dl.items))
        (both (same (a.ul.len = b.ul.len)) (eqArray (fun a b => same (a = b)) a.ul.items b.ul.items)) :=
    (both_assoc ..).symm
  rw [hassoc]
  have harray : ∀ xs ys : Counted UInt32,
      Tells (both (same (xs.len = ys.len)) (eqArray (fun a b => same (a = b)) xs.items ys.items)) (xs = ys) False :=
    fun _ _ => eqCounted_tells fun a b => same_tells (a = b)
  exact ((harray _ _).andThen (harray _ _)).congr hconf.symm (by simp)

end Slices

/-! ### Messages -/

/-- Two configurations that the comparison is right about, when nothing else differs. -/
structure SliceConf.Told (a b : SliceConf) : Prop where
  within : ¬a.ReadsPast b
  self : a = b → a.Comparable
  others : a.compared = b.compared → a.Comparable → a = b

/-- As for the configurations, unless the comparison comes to a difference behind them. -/
structure SliceIndMsg.Told (a b : SliceIndMsg) : Prop where
  within : ¬a.sliceConf.ReadsPast b.sliceConf
  self : a = b → a.sliceConf.Comparable
  others : a.sliceConf.compared = b.sliceConf.compared → a.sliceConf.Comparable →
    a.ueSliceConf = b.ueSliceConf → a.tstamp = b.tstamp → a.sliceConf = b.sliceConf

/-- Messages of one kind are told apart as what they carry is. Of messages of two kinds the first one is not to
add slices, and a number is to differ that has the place of a length in both: that of the first array, or that
of the second one when the first ones are empty. -/
def SliceCtrlMsg.Told : SliceCtrlMsg → SliceCtrlMsg → Prop
  | .add a, .add b => a.Told b
  | .add _, _ => False
  | .del _, .del _ => True
  | .del a, .add b => a.dl.len ≠ b.dl.slices.len ∨ a.dl.items = [] ∧ a.ul.len ≠ b.dl.schedName.len
  | .del a, .ueSliceAssoc b => a.dl.len ≠ b.ues.len
  | .ueSliceAssoc _, .ueSliceAssoc _ => True
  | .ueSliceAssoc a, .add b => a.ues.len ≠ b.dl.slices.len
  | .ueSliceAssoc a, .del b => a.ues.len ≠ b.dl.len

section Messages

theorem eqSliceConf_says {a b : SliceConf} : Says (eqSliceConf a b) (a = b) ↔ a.Told b := by
  rw [(eqSliceConf_tells a b).says_iff]
  constructor
  · rintro ⟨hpast, h⟩
    exact ⟨hpast, fun he => (h.mpr he).2, fun hc hself => h.mp ⟨hc, hself⟩⟩
  · rintro ⟨hpast, hself, hothers⟩
    exact ⟨hpast, fun h => hothers h.1 h.2, fun h => ⟨congrArg _ h, hself h⟩⟩

theorem eqSliceIndMsg_says {a b : SliceIndMsg} : Says (eqSliceIndMsg a b) (a = b) ↔ a.Told b := by
  have hmsg : a = b ↔ a.sliceConf = b.sliceConf ∧ a.ueSliceConf = b.ueSliceConf ∧ a.tstamp = b.tstamp := by
    cases a
    cases b
    rw [SliceIndMsg.mk.injEq]
  have htells := (eqSliceConf_tells a.sliceConf b.sliceConf).both
    ((eqUeSliceConf_tells a.ueSliceConf b.ueSliceConf).andThen (same_tells (a.tstamp = b.tstamp)))
  rw [eqSliceIndMsg, htells.says_iff, and_false, and_false, or_false]
  constructor
  · rintro ⟨hpast, h⟩
    refine ⟨hpast, fun he => (h.mpr he).1.2, fun hc hself hue ht => ?_⟩
    exact congrArg _ (h.mp ⟨⟨hc, hself⟩, hue, ht⟩)
  · rintro ⟨hpast, hself, hothers⟩
    refine ⟨hpast, fun h => ?_, fun h => ?_⟩
    · obtain ⟨⟨hc, hs⟩, hue, ht⟩ := h
      exact hmsg.mpr ⟨hothers hc hs hue ht, hue, ht⟩
    · exact ⟨⟨by rw [h], hself h⟩, by rw [h], by rw [h]⟩

/-- Lengths that differ are told apart; where they are equal, all depends on what comes next. -/
theorem says_eqForeign {len len' : UInt32} {rest : Except String Bool} :
    Says (eqForeign len len' rest) False ↔ len ≠ len' ∨ len = 0 ∧ Says rest False := by
  unfold eqForeign
  by_cases hlen : len = len'
  · subst hlen
    by_cases hzero : len = 0
    · subst hzero
      simp [FlexRic.both, same]
    · have hpos : len > 0 := UInt32.pos_iff_ne_zero.mpr hzero
      simp [FlexRic.both, same, hpos, hzero, Says]
  · simp [FlexRic.both, same, hlen, Says]

theorem says_eqForeign_of_not {len len' : UInt32} {rest : Except String Bool} (h : ¬Says rest False) :
    Says (eqForeign len len' rest) False ↔ len ≠ len' := by
  rw [says_eqForeign]
  exact ⟨fun hor => hor.resolve_right fun hrest => h hrest.2, .inl⟩

theorem not_says_true : ¬Says (.ok true) False := by
  simp [Says]

theorem not_says_error {msg : String} {p : Prop} : ¬Says (.error msg) p := by
  simp [Says]

theorem len_eq_zero_iff {α : Type} {xs : Counted α} : xs.len = 0 ↔ xs.items = [] := by
  rw [← not_iff_not]
  exact UInt32.pos_iff_ne_zero.symm.trans Counted.len_pos_iff

theorem eqSliceCtrlMsg_says {a b : SliceCtrlMsg} : Says (eqSliceCtrlMsg a b) (a = b) ↔ a.Told b := by
  cases a with
  | add a =>
    cases b with
    | add b =>
      rw [SliceCtrlMsg.add.injEq]
      exact eqSliceConf_says
    | del b => exact iff_of_false not_says_error id
    | ueSliceAssoc b => exact iff_of_false not_says_error id
  | del a =>
    cases b with
    | add b =>
      simp only [reduceCtorEq, eqSliceCtrlMsg, SliceCtrlMsg.Told]
      rw [says_eqForeign]
      exact or_congr_right (and_congr len_eq_zero_iff (says_eqForeign_of_not not_says_true))
    | del b =>
      rw [SliceCtrlMsg.del.injEq, eqSliceCtrlMsg, (eqDelSlice_tells a b).says_iff]
      exact iff_of_true ⟨id, Iff.rfl⟩ trivial
    | ueSliceAssoc b =>
      simp only [reduceCtorEq, eqSliceCtrlMsg, SliceCtrlMsg.Told]
      exact says_eqForeign_of_not not_says_error
  | ueSliceAssoc a =>
    cases b with
    | add b =>
      simp only [reduceCtorEq, eqSliceCtrlMsg, SliceCtrlMsg.Told]
      exact says_eqForeign_of_not not_says_true
    | del b =>
      simp only [reduceCtorEq, eqSliceCtrlMsg, SliceCtrlMsg.Told]
      exact says_eqForeign_of_not not_says_true
    | ueSliceAssoc b =>
      rw [SliceCtrlMsg.ueSliceAssoc.injEq, eqSliceCtrlMsg, (eqUeSliceConf_tells a b).says_iff]
      exact iff_of_true ⟨id, Iff.rfl⟩ trivial

/-- **The comparisons of messages answer, and say yes exactly to equal messages, if and only if the messages
are told apart**: no array is read past its end, a message is not compared to itself when a slice in it has no
algorithm or a number that is none, and two messages do not differ only in the bytes of schedulers, in the sign
of a zero or in their kind. -/
theorem eqSliceMsg_says_iff (a b : SliceIndMsg) (c d : SliceCtrlMsg) :
    (Says (eqSliceIndMsg a b) (a = b) ↔ a.Told b) ∧ (Says (eqSliceCtrlMsg c d) (c = d) ↔ c.Told d) :=
  ⟨ eqSliceIndMsg_says, eqSliceCtrlMsg_says⟩

/-- One slice, the scheduler of which has a name of one letter. -/
def oneSlice (sched : UInt8) : SliceIndMsg where
  sliceConf := ⟨⟨⟨[⟨7, .empty, ⟨[sched], by simp⟩, .sta ⟨0, 3⟩⟩], by simp⟩, .empty⟩, ⟨.empty, .empty⟩⟩
  ueSliceConf := ⟨.empty⟩
  tstamp := 1

/-- Two messages with different schedulers compare equal, and so do two controls of different kinds. -/
theorem eqSliceMsg_not_right :
    (¬∀ a b : SliceIndMsg, Says (eqSliceIndMsg a b) (a = b)) ∧
      ¬∀ a b : SliceCtrlMsg, Says (eqSliceCtrlMsg a b) (a = b) := by
  constructor
  · intro h
    obtain ⟨b, hb, hiff⟩ := h (oneSlice 112) (oneSlice 114)
    have htrue : eqSliceIndMsg (oneSlice 112) (oneSlice 114) = .ok true := by decide
    obtain rfl := Except.ok.inj (hb.symm.trans htrue)
    have hsched := congrArg (fun m : SliceIndMsg => m.sliceConf.dl.slices.items.map (·.sched.items)) (hiff.mp rfl)
    exact absurd hsched (by decide)
  · intro h
    obtain ⟨b, hb, hiff⟩ := h (.del ⟨.empty, .empty⟩) (.add ⟨⟨.empty, .empty⟩, ⟨.empty, .empty⟩⟩)
    have htrue : eqSliceCtrlMsg (.del ⟨.empty, .empty⟩) (.add ⟨⟨.empty, .empty⟩, ⟨.empty, .empty⟩⟩) = .ok true := by
      decide
    obtain rfl := Except.ok.inj (hb.symm.trans htrue)
    cases hiff.mp rfl

end Messages

end FlexRic.Sm.Slice
