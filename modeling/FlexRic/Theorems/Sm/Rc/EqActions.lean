import FlexRic.Theorems.Sm.Rc.EqValues

/-! # What the comparisons of action definitions see

Definitions are told apart but by the signs of zeros and by the identifiers of the indications of format 4. One that
has the identity of a UE is copied and not compared. -/

namespace FlexRic.Sm.Rc
open Ue (UeId)

/-! ### References to parameters -/

def RanParamRef.Usable (r : RanParamRef) : Prop := 0 < r.ranParamId ∧ r.ranParamDef = none

theorem eqRanParamRef_tells (member : String) {a b : RanParamRef} (ha : a.Usable) (hb : b.Usable) :
    Tells (eqRanParamRef member a b) (a = b) False := by
  obtain ⟨ida, defa⟩ := a
  obtain ⟨idb, defb⟩ := b
  obtain ⟨-, rfl⟩ := ha
  obtain ⟨-, rfl⟩ := hb
  exact ((same_tells _).andThen true_tells).congr (by simp) (by simp)

theorem eqParamReportDef_tells {a b : RanParamRef} (ha : a.Usable) (hb : b.Usable) :
    Tells (eqParamReportDef a b) (a = b) False := by
  rw [eqParamReportDef, requireBoth_of ha.1 hb.1]
  exact eqRanParamRef_tells _ ha hb

theorem eqRanParamInsInd_tells {a b : RanParamRef} (ha : a.Usable) (hb : b.Usable) :
    Tells (eqRanParamInsInd a b) (a = b) False := by
  rw [eqRanParamInsInd, requireBoth_of ha.1 hb.1]
  exact eqRanParamRef_tells _ ha hb

theorem cpRanParamRef_eq_self {msgId msgDef : String} {r : RanParamRef} :
    cpRanParamRef msgId msgDef r = .ok r ↔ r.Usable := by
  obtain ⟨id, ref⟩ := r
  simp only [cpRanParamRef, RanParamRef.Usable, Except.bind_eq_ok, require_eq_ok, Except.pure_eq, Except.ok.injEq,
    RanParamRef.mk.injEq]
  tauto

/-! ### Reports -/

def ActDefFrmt1.Usable (f : ActDefFrmt1) : Prop := oneTo 65535 f.paramReportDef.length ∧ ∀ r ∈ f.paramReportDef, r.Usable

theorem eqE2smRcActDefFrmt1_tells {a b : ActDefFrmt1} (ha : a.Usable) (hb : b.Usable) :
    Tells (eqE2smRcActDefFrmt1 a b) (a = b) False := by
  have hrefs : Tells (eqList eqParamReportDef a.paramReportDef b.paramReportDef) (a.paramReportDef = b.paramReportDef)
      False := eqList_tells_of fun r hr r' hr' => eqParamReportDef_tells (ha.2 r hr) (hb.2 r' hr')
  rw [eqE2smRcActDefFrmt1, requireBoth_of ha.1.1 hb.1.1]
  refine hrefs.congr ?_ Iff.rfl
  cases a
  cases b
  simp

theorem cpE2smRcActDefFrmt1_eq_self {f : ActDefFrmt1} : cpE2smRcActDefFrmt1 f = .ok f ↔ f.Usable := by
  obtain ⟨refs⟩ := f
  simp only [cpE2smRcActDefFrmt1, cpParamReportDef, ActDefFrmt1.Usable, cpRanParamRef_eq_self, Except.bind_eq_ok,
    Except.pure_eq, Except.ok.injEq, ActDefFrmt1.mk.injEq, exists_eq_right, mapSized_eq_self]

theorem ActDefFrmt1.kept (f : ActDefFrmt1) : Kept cpE2smRcActDefFrmt1 eqE2smRcActDefFrmt1 f ↔ f.Usable :=
  kept_iff_of_cp cpE2smRcActDefFrmt1_eq_self fun h => (eqE2smRcActDefFrmt1_tells h h).true_iff.mpr rfl

/-! ### Policies -/

/-- The action has an identifier and less than 65535 parameters, and nothing that is not implemented. -/
def PolicyAction.Usable (a : PolicyAction) : Prop :=
  0 < a.policyActId ∧ upTo 65534 a.seqRanParam.length ∧ (∀ p ∈ a.seqRanParam, p.Usable RanParamValType.Usable) ∧
    a.polDec = none

def PolicyAction.compared (a : PolicyAction) : PolicyAction :=
  ⟨a.policyActId, a.seqRanParam.map SeqRanParam.compared, a.polDec⟩

theorem eqPolicyAction_tells {a b : PolicyAction} (ha : a.Usable) (hb : b.Usable) :
    Tells (eqPolicyAction a b) (a.compared = b.compared) False := by
  obtain ⟨ida, psa, deca⟩ := a
  obtain ⟨idb, psb, decb⟩ := b
  obtain ⟨hida, hsizea, hpsa, rfl⟩ := ha
  obtain ⟨hidb, hsizeb, hpsb, rfl⟩ := hb
  rw [eqPolicyAction, requireBoth_of hida hidb, requireBoth_of hsizea hsizeb]
  exact ((same_tells _).andThen ((eqSeqRanParam_list_tells hpsa hpsb).andThen true_tells)).congr
    (by simp [PolicyAction.compared]) (by simp)

theorem PolicyAction.kept (a : PolicyAction) : Kept cpPolicyAction eqPolicyAction a ↔ a.Usable := by
  obtain ⟨id, ps, dec⟩ := a
  have hsize : upTo 65534 ps.length → upTo 65535 ps.length := fun h => Nat.lt_succ_of_lt h
  simp only [Kept, cpPolicyAction, eqPolicyAction, requireAbsent, PolicyAction.Usable,
    forall_kept fun p _ => SeqRanParam.kept p, Except.bind_eq_ok, require_eq_ok, Except.pure_eq, Except.ok.injEq,
    PolicyAction.mk.injEq, existsAndEq, mapSized_eq_self, requireBoth_eq_ok, both_eq_true, same_eq_true, eqList_self]
  tauto

def PolicyCond.Usable (c : PolicyCond) : Prop := c.polAct.Usable ∧ c.pol = none

def PolicyCond.compared (c : PolicyCond) : PolicyCond := ⟨c.polAct.compared, c.pol⟩

theorem eqPolicyCond_tells {a b : PolicyCond} (ha : a.Usable) (hb : b.Usable) :
    Tells (eqPolicyCond a b) (a.compared = b.compared) False := by
  obtain ⟨acta, pola⟩ := a
  obtain ⟨actb, polb⟩ := b
  obtain ⟨hacta, rfl⟩ := ha
  obtain ⟨hactb, rfl⟩ := hb
  exact ((eqPolicyAction_tells hacta hactb).andThen true_tells).congr (by simp [PolicyCond.compared]) (by simp)

theorem PolicyCond.kept (c : PolicyCond) : Kept cpPolicyCond eqPolicyCond c ↔ c.Usable := by
  obtain ⟨act, pol⟩ := c
  simp only [Kept, cpPolicyCond, eqPolicyCond, PolicyCond.Usable, ← act.kept, Except.bind_eq_ok, require_eq_ok,
    Except.pure_eq, Except.ok.injEq, PolicyCond.mk.injEq, existsAndEq, requireBoth_eq_ok, both_eq_true]
  tauto

def ActDefFrmt2.Usable (f : ActDefFrmt2) : Prop := oneTo 65535 f.policyCond.length ∧ ∀ c ∈ f.policyCond, c.Usable

def ActDefFrmt2.compared (f : ActDefFrmt2) : ActDefFrmt2 := ⟨f.policyCond.map PolicyCond.compared⟩

theorem eqE2smRcActDefFrmt2_tells {a b : ActDefFrmt2} (ha : a.Usable) (hb : b.Usable) :
    Tells (eqE2smRcActDefFrmt2 a b) (a.compared = b.compared) False := by
  have hconds : Tells (eqList eqPolicyCond a.policyCond b.policyCond)
      (a.policyCond.map PolicyCond.compared = b.policyCond.map PolicyCond.compared) False :=
    eqList_tells_map fun c hc d hd => eqPolicyCond_tells (ha.2 c hc) (hb.2 d hd)
  rw [eqE2smRcActDefFrmt2, requireBoth_of ha.1 hb.1]
  exact hconds.congr (by simp [ActDefFrmt2.compared]) Iff.rfl

theorem ActDefFrmt2.kept (f : ActDefFrmt2) : Kept cpE2smRcActDefFrmt2 eqE2smRcActDefFrmt2 f ↔ f.Usable := by
  obtain ⟨conds⟩ := f
  simp only [Kept, cpE2smRcActDefFrmt2, eqE2smRcActDefFrmt2, ActDefFrmt2.Usable,
    forall_kept fun c _ => PolicyCond.kept c, Except.bind_eq_ok, Except.pure_eq, Except.ok.injEq, ActDefFrmt2.mk.injEq,
    exists_eq_right, mapSized_eq_self, requireBoth_eq_ok, eqList_self]
  tauto

/-! ### Insertions -/

section Ue
variable {Ue : Type}

/-- The definition has an identifier and parameters, and no UE. -/
def ActDefFrmt3.Usable (f : ActDefFrmt3 Ue) : Prop :=
  0 < f.id ∧ oneTo 65535 f.ranParam.length ∧ (∀ r ∈ f.ranParam, r.Usable) ∧ f.ueId = none

theorem eqE2smRcActDefFrmt3_tells {a b : ActDefFrmt3 Ue} (ha : a.Usable) (hb : b.Usable) :
    Tells (eqE2smRcActDefFrmt3 a b) (a = b) False := by
  obtain ⟨ida, refsa, uea⟩ := a
  obtain ⟨idb, refsb, ueb⟩ := b
  obtain ⟨-, hsizea, ha, rfl⟩ := ha
  obtain ⟨-, hsizeb, hb, rfl⟩ := hb
  have hrefs : Tells (eqList eqRanParamIns refsa refsb) (refsa = refsb) False :=
    eqList_tells_of fun r hr r' hr' => eqRanParamRef_tells _ (ha r hr) (hb r' hr')
  rw [eqE2smRcActDefFrmt3, requireBoth_of hsizea.1 hsizeb.1]
  exact ((same_tells _).andThen (hrefs.andThen true_tells)).congr (by simp) (by simp)

def SeqInsIndActDef.Usable (i : SeqInsIndActDef) : Prop :=
  0 < i.indId ∧ upTo 65535 i.ranParamInsInd.length ∧ ∀ r ∈ i.ranParamInsInd, r.Usable

/-- The identifier is not seen. -/
def SeqInsIndActDef.compared (i : SeqInsIndActDef) : SeqInsIndActDef := ⟨0, i.ranParamInsInd⟩

theorem eqSeqInsIndActDef_tells {a b : SeqInsIndActDef} (ha : a.Usable) (hb : b.Usable) :
    Tells (eqSeqInsIndActDef a b) (a.compared = b.compared) False := by
  have hrefs : Tells (eqList eqRanParamInsInd a.ranParamInsInd b.ranParamInsInd) (a.ranParamInsInd = b.ranParamInsInd)
      False := eqList_tells_of fun r hr r' hr' => eqRanParamInsInd_tells (ha.2.2 r hr) (hb.2.2 r' hr')
  rw [eqSeqInsIndActDef, requireBoth_of ha.1 hb.1]
  exact hrefs.congr (by simp [SeqInsIndActDef.compared]) Iff.rfl

theorem cpSeqInsIndActDef_eq_self {i : SeqInsIndActDef} : cpSeqInsIndActDef i = .ok i ↔ i.Usable := by
  obtain ⟨id, refs⟩ := i
  simp only [cpSeqInsIndActDef, cpRanParamInsInd, SeqInsIndActDef.Usable, cpRanParamRef_eq_self, Except.bind_eq_ok,
    require_eq_ok, Except.pure_eq, Except.ok.injEq, SeqInsIndActDef.mk.injEq, true_and, exists_eq_right, exists_const,
    mapSized_eq_self]

def SeqInsStyle.Usable (s : SeqInsStyle) : Prop :=
  oneTo 63 s.seqInsIndActDef.length ∧ ∀ i ∈ s.seqInsIndActDef, i.Usable

def SeqInsStyle.compared (s : SeqInsStyle) : SeqInsStyle :=
  ⟨s.reqInsertStyle, s.seqInsIndActDef.map SeqInsIndActDef.compared⟩

theorem eqSeqInsStyle_tells {a b : SeqInsStyle} (ha : a.Usable) (hb : b.Usable) :
    Tells (eqSeqInsStyle a b) (a.compared = b.compared) False := by
  have hindications : Tells (eqList eqSeqInsIndActDef a.seqInsIndActDef b.seqInsIndActDef)
      (a.seqInsIndActDef.map SeqInsIndActDef.compared = b.seqInsIndActDef.map SeqInsIndActDef.compared) False :=
    eqList_tells_map fun i hi j hj => eqSeqInsIndActDef_tells (ha.2 i hi) (hb.2 j hj)
  rw [eqSeqInsStyle, requireBoth_of ha.1 hb.1]
  exact ((same_tells _).andThen hindications).congr (by simp [SeqInsStyle.compared]) (by simp)

theorem cpSeqInsStyle_eq_self {s : SeqInsStyle} : cpSeqInsStyle s = .ok s ↔ s.Usable := by
  obtain ⟨style, indications⟩ := s
  simp only [cpSeqInsStyle, SeqInsStyle.Usable, ← cpSeqInsIndActDef_eq_self, Except.bind_eq_ok, Except.pure_eq,
    Except.ok.injEq, SeqInsStyle.mk.injEq, true_and, exists_eq_right, mapSized_eq_self]

/-- The definition has styles, and no UE. -/
def ActDefFrmt4.Usable (f : ActDefFrmt4 Ue) : Prop :=
  oneTo 4 f.seqInsStyle.length ∧ (∀ s ∈ f.seqInsStyle, s.Usable) ∧ f.ueId = none

def ActDefFrmt4.compared (f : ActDefFrmt4 Ue) : ActDefFrmt4 Ue := ⟨f.seqInsStyle.map SeqInsStyle.compared, f.ueId⟩

theorem eqE2smRcActDefFrmt4_tells {a b : ActDefFrmt4 Ue} (ha : a.Usable) (hb : b.Usable) :
    Tells (eqE2smRcActDefFrmt4 a b) (a.compared = b.compared) False := by
  obtain ⟨stylesa, uea⟩ := a
  obtain ⟨stylesb, ueb⟩ := b
  obtain ⟨hsizea, ha, rfl⟩ := ha
  obtain ⟨hsizeb, hb, rfl⟩ := hb
  have hstyles : Tells (eqList eqSeqInsStyle stylesa stylesb)
      (stylesa.map SeqInsStyle.compared = stylesb.map SeqInsStyle.compared) False :=
    eqList_tells_map fun s hs s' hs' => eqSeqInsStyle_tells (ha s hs) (hb s' hs')
  rw [eqE2smRcActDefFrmt4, requireBoth_of hsizea hsizeb]
  exact (hstyles.andThen true_tells).congr (by simp [ActDefFrmt4.compared]) (by simp)

/-! ### Definitions -/

def ActDefFormat.Usable : ActDefFormat Ue → Prop
  | .frmt1 f => f.Usable
  | .frmt2 f => f.Usable
  | .frmt3 f => f.Usable
  | .frmt4 f => f.Usable

def ActDefFormat.compared : ActDefFormat Ue → ActDefFormat Ue
  | .frmt1 f => .frmt1 f
  | .frmt2 f => .frmt2 f.compared
  | .frmt3 f => .frmt3 f
  | .frmt4 f => .frmt4 f.compared

theorem eqE2smRcActDefFormat_tells {a b : ActDefFormat Ue} (ha : a.Usable) (hb : b.Usable) :
    Tells (eqE2smRcActDefFormat a b) (a.compared = b.compared) False := by
  cases a with
  | frmt1 a => cases b with
    | frmt1 b => exact (eqE2smRcActDefFrmt1_tells ha hb).congr (by simp [ActDefFormat.compared]) Iff.rfl
    | _ => exact false_tells.congr (by simp [ActDefFormat.compared]) Iff.rfl
  | frmt2 a => cases b with
    | frmt2 b => exact (eqE2smRcActDefFrmt2_tells ha hb).congr (by simp [ActDefFormat.compared]) Iff.rfl
    | _ => exact false_tells.congr (by simp [ActDefFormat.compared]) Iff.rfl
  | frmt3 a => cases b with
    | frmt3 b => exact (eqE2smRcActDefFrmt3_tells ha hb).congr (by simp [ActDefFormat.compared]) Iff.rfl
    | _ => exact false_tells.congr (by simp [ActDefFormat.compared]) Iff.rfl
  | frmt4 a => cases b with
    | frmt4 b => exact (eqE2smRcActDefFrmt4_tells ha hb).congr (by simp [ActDefFormat.compared]) Iff.rfl
    | _ => exact false_tells.congr (by simp [ActDefFormat.compared]) Iff.rfl

def ActionDef.Usable (d : ActionDef Ue) : Prop := d.format.Usable

/-- The definition as its comparison sees it: with one zero, and without the identifiers of the indications of
format 4 -/
def ActionDef.compared (d : ActionDef Ue) : ActionDef Ue := ⟨d.ricStyleType, d.format.compared⟩

theorem eqE2smRcActionDef_tells {a b : ActionDef Ue} (ha : a.Usable) (hb : b.Usable) :
    Tells (eqE2smRcActionDef a b) (a.compared = b.compared) False :=
  ((same_tells _).andThen (eqE2smRcActDefFormat_tells ha hb)).congr (by simp [ActionDef.compared]) (by simp)

end Ue

/-- The identity of a UE, which is copied, is asserted not to be there. -/
theorem ActDefFrmt3.kept (f : ActDefFrmt3 UeId) :
    Kept (cpE2smRcActDefFrmt3 identities) eqE2smRcActDefFrmt3 f ↔ f.Usable := by
  have htells (h : f.Usable) : eqE2smRcActDefFrmt3 f f = .ok true := (eqE2smRcActDefFrmt3_tells h h).true_iff.mpr rfl
  obtain ⟨id, refs, ue⟩ := f
  simp only [Kept, cpE2smRcActDefFrmt3, cpRanParamIns, cpRanParamRef_eq_self, mapOptional_cpUeIdE2sm, Except.bind_eq_ok,
    require_eq_ok, Except.pure_eq, Except.ok.injEq, ActDefFrmt3.mk.injEq, existsAndEq, mapSized_eq_self, and_true,
    exists_const]
  constructor
  · rintro ⟨⟨hid, hrefs⟩, heq⟩
    simp only [eqE2smRcActDefFrmt3, both_eq_true, requireBoth_bind_eq_true, Option.isNone_iff_eq_none] at heq
    exact ⟨hid, hrefs.1, hrefs.2, heq.2.2.2.2.1⟩
  · intro h
    exact ⟨⟨h.1, h.2.1, h.2.2.1⟩, htells h⟩

theorem ActDefFrmt4.kept (f : ActDefFrmt4 UeId) :
    Kept (cpE2smRcActDefFrmt4 identities) eqE2smRcActDefFrmt4 f ↔ f.Usable := by
  have htells (h : f.Usable) : eqE2smRcActDefFrmt4 f f = .ok true := (eqE2smRcActDefFrmt4_tells h h).true_iff.mpr rfl
  obtain ⟨styles, ue⟩ := f
  simp only [Kept, cpE2smRcActDefFrmt4, cpSeqInsStyle_eq_self, mapOptional_cpUeIdE2sm, Except.bind_eq_ok,
    Except.pure_eq, Except.ok.injEq, ActDefFrmt4.mk.injEq, existsAndEq, mapSized_eq_self, and_true]
  constructor
  · rintro ⟨hstyles, heq⟩
    simp only [eqE2smRcActDefFrmt4, both_eq_true, requireBoth_bind_eq_true, Option.isNone_iff_eq_none] at heq
    exact ⟨hstyles.1, hstyles.2, heq.2.2.2.1⟩
  · intro h
    exact ⟨⟨h.1, h.2.1⟩, htells h⟩

theorem ActDefFormat.kept (f : ActDefFormat UeId) :
    Kept (cpE2smRcActDefFormat identities) eqE2smRcActDefFormat f ↔ f.Usable := by
  cases f with
  | frmt1 f => exact (kept_wrap rfl rfl fun _ _ => ActDefFormat.frmt1.inj).trans f.kept
  | frmt2 f => exact (kept_wrap rfl rfl fun _ _ => ActDefFormat.frmt2.inj).trans f.kept
  | frmt3 f => exact (kept_wrap rfl rfl fun _ _ => ActDefFormat.frmt3.inj).trans f.kept
  | frmt4 f => exact (kept_wrap rfl rfl fun _ _ => ActDefFormat.frmt4.inj).trans f.kept

theorem ActionDef.kept (d : ActionDef UeId) : Kept (cpE2smRcActionDef identities) eqE2smRcActionDef d ↔ d.Usable := by
  obtain ⟨style, f⟩ := d
  rw [ActionDef.Usable, ← f.kept]
  simp only [Kept, cpE2smRcActionDef, eqE2smRcActionDef, Except.bind_eq_ok, Except.pure_eq, Except.ok.injEq,
    ActionDef.mk.injEq, true_and, exists_eq_right, both_eq_true, same_eq_true]

end FlexRic.Sm.Rc
