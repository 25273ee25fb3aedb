import FlexRic.Theorems.Sm.Rc.EqValues

/-! # What the comparisons of indications see

A difference between the UEs of two headers of format 2, and any difference between the elements of two messages, is
asserted not to be there. -/

namespace FlexRic.Sm.Rc
open Kpm (CellGlobalId)
open Ue (UeId eqUeIdE2sm eqE2smPlmn_tells)

/-! ### Identities -/

theorem eqCellGlobalId_tells (a b : CellGlobalId) : Tells (eqCellGlobalId a b) (a = b) False := by
  cases a with
  | nrCgi plmna ida => cases b with
    | nrCgi plmnb idb => exact ((eqE2smPlmn_tells _ _).andThen (same_tells _)).congr (by simp) (by simp)
    | eutra plmnb idb => exact false_tells.congr (by simp) Iff.rfl
  | eutra plmna ida => cases b with
    | nrCgi plmnb idb => exact false_tells.congr (by simp) Iff.rfl
    | eutra plmnb idb => exact ((eqE2smPlmn_tells _ _).andThen (same_tells _)).congr (by simp) (by simp)

theorem eqCellGlobalId_self (c : CellGlobalId) : eqCellGlobalId c c = .ok true := (eqCellGlobalId_tells c c).true_iff.mpr rfl

theorem cpCellGlobalId_eq (c : CellGlobalId) : cpCellGlobalId c = c := by
  cases c <;> rfl

theorem eqUeIdE2sm_self (u : UeId) : eqUeIdE2sm u u = .ok true ↔ u.Complete :=
  (Ue.eqUeIdE2sm_tells u u).true_iff.trans u.alike_self

/-- Identities of which no member is missing that must not be are compared without failing. -/
theorem eqUeIdE2sm_tells_of {a b : UeId} (ha : a.Complete) (hb : b.Complete) :
    Tells (eqUeIdE2sm a b) (a.Alike b) False := by
  refine (Ue.eqUeIdE2sm_tells a b).congr Iff.rfl (iff_false_intro fun h => ?_)
  cases a with
  | gnbDu a => cases b with
    | gnbDu b => exact h.2.elim ha hb
    | _ => exact h
  | enb a => cases b with
    | enb b => exact h.2.elim ha hb
    | _ => exact h
  | _ => cases b <;> exact h

/-! ### Headers -/

/-- The condition is there. -/
def IndHdrFrmt1.Usable (f : IndHdrFrmt1) : Prop := ∃ id ∈ f.evTriggerId, 0 < id

def IndHdrFrmt2.Usable (f : IndHdrFrmt2 UeId) : Prop := f.ueId.Complete ∧ 0 < f.insIndId

def IndHdrFrmt3.Usable (f : IndHdrFrmt3 UeId) : Prop :=
  (∀ id ∈ f.evTriggerCond, 0 < id) ∧ ∀ u ∈ f.ueId, u.Complete

def IndHdr.Usable : IndHdr UeId → Prop
  | .frmt1 f => f.Usable
  | .frmt2 f => f.Usable
  | .frmt3 f => f.Usable

/-- Both UEs are missing, or the comparison finds no difference between them. -/
def AlikeUes : Option UeId → Option UeId → Prop
  | none, none => True
  | some a, some b => a.Alike b
  | _, _ => False

theorem eqPresent_eqUeIdE2sm_tells {o p : Option UeId} (ho : ∀ u ∈ o, u.Complete) (hp : ∀ u ∈ p, u.Complete) :
    Tells (eqPresent eqUeIdE2sm o p) (AlikeUes o p) False := by
  cases o with
  | none => cases p with
    | none => exact true_tells
    | some b => exact false_tells
  | some a => cases p with
    | none => exact false_tells
    | some b => exact eqUeIdE2sm_tells_of (ho a rfl) (hp b rfl)

theorem eqPresent_eqEvTriggerCond_tells {o p : Option UInt16} (ho : ∀ id ∈ o, 0 < id) (hp : ∀ id ∈ p, 0 < id) :
    Tells (eqPresent eqEvTriggerCond o p) (o = p) False := by
  refine eqPresent_tells_of fun a ha b hb => ?_
  rw [eqEvTriggerCond, requireBoth_of (ho a ha) (hp b hb)]
  exact same_tells _

/-- Headers of different formats, or of which the comparison comes to a difference that it does not assert not to be
there: the UEs of two headers of format 2 must be alike. -/
def IndHdr.Apart : IndHdr UeId → IndHdr UeId → Prop
  | .frmt1 a, .frmt1 b => a ≠ b
  | .frmt2 a, .frmt2 b => a.ueId.Alike b.ueId ∧ (a.ricStyleType = b.ricStyleType → a.insIndId ≠ b.insIndId)
  | .frmt3 a, .frmt3 b => a.evTriggerCond = b.evTriggerCond → ¬AlikeUes a.ueId b.ueId
  | _, _ => True

theorem eqE2smRcIndHdrFrmt2_eq_false {a b : IndHdrFrmt2 UeId} (ha : a.Usable) (hb : b.Usable) :
    eqE2smRcIndHdrFrmt2 a b = .ok false ↔
      a.ueId.Alike b.ueId ∧ (a.ricStyleType = b.ricStyleType → a.insIndId ≠ b.insIndId) := by
  rw [eqE2smRcIndHdrFrmt2, requireBoth_of ha.2 hb.2, both_eq_false, or_iff_right orAssert_ne_false, orAssert_eq_true,
    (eqUeIdE2sm_tells_of ha.1 hb.1).true_iff, both_eq_false, same_eq_false, same_eq_true, Except.ok_bind, same_eq_false]
  tauto

theorem eqE2smRcIndHdr_eq_false {a b : IndHdr UeId} (ha : a.Usable) (hb : b.Usable) :
    eqE2smRcIndHdr a b = .ok false ↔ a.Apart b := by
  have hformats : (.ok false : Except String Bool) = .ok false ↔ True := iff_true_intro rfl
  cases a with
  | frmt1 a => cases b with
    | frmt1 b =>
      obtain ⟨ida⟩ := a
      obtain ⟨idb⟩ := b
      have htells : Tells (eqPresent Ue.eqNumber ida idb) (ida = idb) False :=
        eqPresent_tells_of fun a _ b _ => Ue.eqNumber_tells a b
      refine htells.eq_false_iff.trans ?_
      simp [IndHdr.Apart]
    | _ => exact hformats
  | frmt2 a => cases b with
    | frmt2 b => exact eqE2smRcIndHdrFrmt2_eq_false ha hb
    | _ => exact hformats
  | frmt3 a => cases b with
    | frmt3 b =>
      have htells := (eqPresent_eqEvTriggerCond_tells ha.1 hb.1).andThen (eqPresent_eqUeIdE2sm_tells ha.2 hb.2)
      rw [eqE2smRcIndHdr, eqE2smRcIndHdrFrmt3, htells.false_iff, IndHdr.Apart]
      simp
    | _ => exact hformats

theorem IndHdrFrmt1.kept (f : IndHdrFrmt1) : Kept cpE2smRcIndHdrFrmt1 eqE2smRcIndHdrFrmt1 f ↔ f.Usable := by
  obtain ⟨id⟩ := f
  cases id with
  | none => simp [Kept, cpE2smRcIndHdrFrmt1, IndHdrFrmt1.Usable, throw, throwThe, MonadExceptOf.throw]
  | some id =>
    simp [Kept, cpE2smRcIndHdrFrmt1, eqE2smRcIndHdrFrmt1, IndHdrFrmt1.Usable, eqPresent, Ue.eqNumber,
      Except.bind_eq_ok, require_eq_ok]

theorem IndHdrFrmt2.kept (f : IndHdrFrmt2 UeId) :
    Kept (cpE2smRcIndHdrFrmt2 identities) eqE2smRcIndHdrFrmt2 f ↔ f.Usable := by
  obtain ⟨ue, style, id⟩ := f
  simp only [Kept, cpE2smRcIndHdrFrmt2, eqE2smRcIndHdrFrmt2, IndHdrFrmt2.Usable, Ue.cpUeIdE2sm_eq, eqUeIdE2sm_self,
    Except.ok_bind, Except.bind_eq_ok, require_eq_ok, Except.pure_eq, requireBoth_eq_ok, both_eq_true, same_eq_true,
    orAssert_eq_true]
  tauto

theorem IndHdrFrmt3.kept (f : IndHdrFrmt3 UeId) :
    Kept (cpE2smRcIndHdrFrmt3 identities) eqE2smRcIndHdrFrmt3 f ↔ f.Usable := by
  obtain ⟨cond, ue⟩ := f
  simp only [Kept, cpE2smRcIndHdrFrmt3, eqE2smRcIndHdrFrmt3, IndHdrFrmt3.Usable, cpEvTriggerCond, eqEvTriggerCond,
    mapOptional_cpUeIdE2sm, Except.bind_eq_ok, require_eq_ok, Except.pure_eq, Except.ok.injEq, IndHdrFrmt3.mk.injEq,
    existsAndEq, mapOptional_eq_self, both_eq_true, eqPresent_self, eqUeIdE2sm_self, requireBoth_eq_ok, same_eq_true,
    and_true, exists_const]
  tauto

theorem IndHdr.kept (h : IndHdr UeId) : Kept (cpE2smRcIndHdr identities) eqE2smRcIndHdr h ↔ h.Usable := by
  cases h with
  | frmt1 f => exact (kept_wrap rfl rfl fun _ _ => IndHdr.frmt1.inj).trans f.kept
  | frmt2 f => exact (kept_wrap rfl rfl fun _ _ => IndHdr.frmt2.inj).trans f.kept
  | frmt3 f => exact (kept_wrap rfl rfl fun _ _ => IndHdr.frmt3.inj).trans f.kept

/-! ### Messages -/

section Debug
variable {α : Type} {eq : α → α → Except String Bool}

@[simp] theorem eqDebug_eq_true {a b : α} : eqDebug eq a b = .ok true ↔ eq a b = .ok true := orAssert_eq_true

theorem eqDebug_ne_false {a b : α} : eqDebug eq a b ≠ .ok false := orAssert_ne_false

/-- The lengths are all that the comparison answers no for. -/
theorem eqList_eqDebug_eq_false {as bs : List α} :
    eqList (eqDebug eq) as bs = .ok false ↔ as.length ≠ bs.length :=
  eqList_eq_false_iff_length fun _ _ => eqDebug_ne_false

end Debug

/-- Every parameter is kept by its copy. -/
abbrev UsableParams (ps : List (SeqRanParam RanParamValType)) : Prop := ∀ p ∈ ps, p.Usable RanParamValType.Usable

def IndMsgFrmt1.Usable (f : IndMsgFrmt1) : Prop := 0 < f.seqRanParam.length ∧ UsableParams f.seqRanParam

theorem IndMsgFrmt1.kept (f : IndMsgFrmt1) : Kept cpE2smRcIndMsgFrmt1 eqE2smRcIndMsgFrmt1 f ↔ f.Usable := by
  obtain ⟨ps⟩ := f
  simp only [Kept, cpE2smRcIndMsgFrmt1, eqE2smRcIndMsgFrmt1, IndMsgFrmt1.Usable,
    forall_kept fun p _ => SeqRanParam.kept p, Except.bind_eq_ok, Except.pure_eq, Except.ok.injEq, IndMsgFrmt1.mk.injEq,
    exists_eq_right, mapSized_eq_self, eqList_self, eqDebug_eq_true, and_assoc]

/-- The UE has parameters, and an identity that can be compared. -/
def SeqUeId.Usable (u : SeqUeId UeId) : Prop :=
  u.ueId.Complete ∧ oneTo 65535 u.seqRanParam.length ∧ UsableParams u.seqRanParam

theorem SeqUeId.kept (u : SeqUeId UeId) : Kept (cpSeqUeId identities) eqSeqUeId u ↔ u.Usable := by
  obtain ⟨ue, ps⟩ := u
  simp only [Kept, cpSeqUeId, eqSeqUeId, SeqUeId.Usable, forall_kept fun p _ => SeqRanParam.kept p, Ue.cpUeIdE2sm_eq,
    eqUeIdE2sm_self, Except.ok_bind, Except.bind_eq_ok, Except.pure_eq, Except.ok.injEq, SeqUeId.mk.injEq, true_and,
    exists_eq_right, mapSized_eq_self, both_eq_true, requireBoth_eq_ok, eqArray_self, exists_const]
  tauto

def IndMsgFrmt2.Usable (f : IndMsgFrmt2 UeId) : Prop := oneTo 65535 f.seqUeId.length ∧ ∀ u ∈ f.seqUeId, u.Usable

theorem IndMsgFrmt2.kept (f : IndMsgFrmt2 UeId) :
    Kept (cpE2smRcIndMsgFrmt2 identities) eqE2smRcIndMsgFrmt2 f ↔ f.Usable := by
  obtain ⟨us⟩ := f
  simp only [Kept, cpE2smRcIndMsgFrmt2, eqE2smRcIndMsgFrmt2, IndMsgFrmt2.Usable, forall_kept fun u _ => SeqUeId.kept u,
    Except.bind_eq_ok, Except.pure_eq, Except.ok.injEq, IndMsgFrmt2.mk.injEq, exists_eq_right, mapSized_eq_self,
    eqList_self, eqDebug_eq_true, and_assoc]

def SeqCellInfo.Usable (c : SeqCellInfo CellGlobalId) : Prop :=
  c.cellCtxInfo = none ∧ c.cellDel = none ∧ c.neighbourRelaTbl = none

theorem SeqCellInfo.kept (c : SeqCellInfo CellGlobalId) : Kept (cpSeqCellInfo identities) eqSeqCellInfo c ↔ c.Usable := by
  obtain ⟨cell, ctx, del, tbl⟩ := c
  simp only [Kept, cpSeqCellInfo, eqSeqCellInfo, SeqCellInfo.Usable, requireAbsent, cpCellGlobalId_eq,
    eqCellGlobalId_self, Except.ok_bind, Except.bind_eq_ok, require_eq_ok, Except.pure_eq, Except.ok.injEq,
    SeqCellInfo.mk.injEq, both_eq_true, requireBoth_eq_ok]
  tauto

def IndMsgFrmt3.Usable (f : IndMsgFrmt3 CellGlobalId) : Prop :=
  oneTo 65535 f.seqCellInfo.length ∧ ∀ c ∈ f.seqCellInfo, c.Usable

theorem IndMsgFrmt3.kept (f : IndMsgFrmt3 CellGlobalId) :
    Kept (cpE2smRcIndMsgFrmt3 identities) eqE2smRcIndMsgFrmt3 f ↔ f.Usable := by
  obtain ⟨cs⟩ := f
  simp only [Kept, cpE2smRcIndMsgFrmt3, eqE2smRcIndMsgFrmt3, IndMsgFrmt3.Usable,
    forall_kept fun c _ => SeqCellInfo.kept c, Except.bind_eq_ok, Except.pure_eq, Except.ok.injEq, IndMsgFrmt3.mk.injEq,
    exists_eq_right, mapSized_eq_self, eqList_self, eqDebug_eq_true, and_assoc]

def SeqUeInfo.Usable (u : SeqUeInfo UeId CellGlobalId) : Prop := u.ueId.Complete ∧ u.ueCtxInfo = none

theorem SeqUeInfo.kept (u : SeqUeInfo UeId CellGlobalId) : Kept (cpSeqUeInfo identities) eqSeqUeInfo u ↔ u.Usable := by
  obtain ⟨ue, ctx, cell⟩ := u
  simp only [Kept, cpSeqUeInfo, eqSeqUeInfo, SeqUeInfo.Usable, requireAbsent, Ue.cpUeIdE2sm_eq, eqUeIdE2sm_self,
    cpCellGlobalId_eq, eqCellGlobalId_self, Except.ok_bind, Except.bind_eq_ok, require_eq_ok, Except.pure_eq,
    Except.ok.injEq, SeqUeInfo.mk.injEq, both_eq_true, requireBoth_eq_ok]
  tauto

def SeqCellInfo2.Usable (c : SeqCellInfo2 CellGlobalId) : Prop := c.cellCtxInfo = none ∧ c.neighbourRelaTbl = none

theorem SeqCellInfo2.kept (c : SeqCellInfo2 CellGlobalId) :
    Kept (cpSeqCellInfo2 identities) eqSeqCellInfo2 c ↔ c.Usable := by
  obtain ⟨cell, ctx, tbl⟩ := c
  simp only [Kept, cpSeqCellInfo2, eqSeqCellInfo2, SeqCellInfo2.Usable, requireAbsent, cpCellGlobalId_eq,
    eqCellGlobalId_self, Except.ok_bind, Except.bind_eq_ok, require_eq_ok, Except.pure_eq, Except.ok.injEq,
    SeqCellInfo2.mk.injEq, both_eq_true, requireBoth_eq_ok]
  tauto

def IndMsgFrmt4.Usable (f : IndMsgFrmt4 UeId CellGlobalId) : Prop :=
  (upTo 65535 f.seqUeInfo.length ∧ ∀ u ∈ f.seqUeInfo, u.Usable) ∧
    upTo 65535 f.seqCellInfo2.length ∧ ∀ c ∈ f.seqCellInfo2, c.Usable

theorem IndMsgFrmt4.kept (f : IndMsgFrmt4 UeId CellGlobalId) :
    Kept (cpE2smRcIndMsgFrmt4 identities) eqE2smRcIndMsgFrmt4 f ↔ f.Usable := by
  obtain ⟨us, cs⟩ := f
  simp only [Kept, cpE2smRcIndMsgFrmt4, eqE2smRcIndMsgFrmt4, IndMsgFrmt4.Usable,
    forall_kept fun u _ => SeqUeInfo.kept u, forall_kept fun c _ => SeqCellInfo2.kept c, Except.bind_eq_ok,
    Except.pure_eq, Except.ok.injEq, IndMsgFrmt4.mk.injEq, existsAndEq, Except.mapM_eq_self, both_eq_true,
    requireBoth_eq_ok, eqList_self, eqArray_self, eqDebug_eq_true]
  tauto

def IndMsgFrmt5.Usable (f : IndMsgFrmt5) : Prop := UsableParams f.seqRanParam

theorem IndMsgFrmt5.kept (f : IndMsgFrmt5) : Kept cpE2smRcIndMsgFrmt5 eqE2smRcIndMsgFrmt5 f ↔ f.Usable := by
  obtain ⟨ps⟩ := f
  simp only [Kept, cpE2smRcIndMsgFrmt5, eqE2smRcIndMsgFrmt5, IndMsgFrmt5.Usable,
    forall_kept fun p _ => SeqRanParam.kept p, Except.bind_eq_ok, Except.pure_eq, Except.ok.injEq, IndMsgFrmt5.mk.injEq,
    exists_eq_right, Except.mapM_eq_self, eqList_self, eqDebug_eq_true]

theorem kept_ranParamReq (p : SeqRanParam RanParamValType) :
    Kept cpRanParamReq eqRanParamReq p ↔ p.Usable RanParamValType.Usable := by
  rw [← p.kept, Kept, Kept, cpRanParamReq, eqRanParamReq, requireBoth_bind_eq_true, eqSeqRanParam, cpSeqRanParam_eq_self]
  tauto

/-- The indication has an identifier. -/
def SeqInsIndAct2.Usable (i : SeqInsIndAct2) : Prop :=
  0 < i.insIndId ∧ upTo 65535 i.ranParamReq.length ∧ UsableParams i.ranParamReq

theorem SeqInsIndAct2.kept (i : SeqInsIndAct2) : Kept cpSeqInsIndAct2 eqSeqInsIndAct2 i ↔ i.Usable := by
  obtain ⟨id, ps⟩ := i
  simp only [Kept, cpSeqInsIndAct2, eqSeqInsIndAct2, SeqInsIndAct2.Usable, UsableParams,
    forall_kept fun p _ => kept_ranParamReq p, Except.bind_eq_ok, require_eq_ok, Except.pure_eq, Except.ok.injEq,
    SeqInsIndAct2.mk.injEq, true_and, exists_eq_right, exists_const, Except.mapM_eq_self, both_eq_true, same_eq_true,
    requireBoth_eq_ok, eqList_self]
  tauto

def SeqInsStyle2.Usable (s : SeqInsStyle2) : Prop := oneTo 63 s.seqInsIndAct.length ∧ ∀ i ∈ s.seqInsIndAct, i.Usable

theorem SeqInsStyle2.kept (s : SeqInsStyle2) : Kept cpSeqInsStyle2 eqSeqInsStyle2 s ↔ s.Usable := by
  obtain ⟨style, is⟩ := s
  simp only [Kept, cpSeqInsStyle2, eqSeqInsStyle2, SeqInsStyle2.Usable, forall_kept fun i _ => SeqInsIndAct2.kept i,
    Except.bind_eq_ok, Except.pure_eq, Except.ok.injEq, SeqInsStyle2.mk.injEq, true_and, exists_eq_right, exists_const,
    mapSized_eq_self, both_eq_true, same_eq_true, requireBoth_eq_ok, eqArray_self]
  tauto

def IndMsgFrmt6.Usable (f : IndMsgFrmt6) : Prop := oneTo 63 f.seqInsStyle.length ∧ ∀ s ∈ f.seqInsStyle, s.Usable

theorem IndMsgFrmt6.kept (f : IndMsgFrmt6) : Kept cpE2smRcIndMsgFrmt6 eqE2smRcIndMsgFrmt6 f ↔ f.Usable := by
  obtain ⟨ss⟩ := f
  simp only [Kept, cpE2smRcIndMsgFrmt6, eqE2smRcIndMsgFrmt6, IndMsgFrmt6.Usable,
    forall_kept fun s _ => SeqInsStyle2.kept s, Except.bind_eq_ok, Except.pure_eq, Except.ok.injEq,
    IndMsgFrmt6.mk.injEq, exists_eq_right, exists_const, mapSized_eq_self, requireBoth_eq_ok, eqList_self,
    eqDebug_eq_true]
  tauto

def IndMsg.Usable : IndMsg UeId CellGlobalId → Prop
  | .frmt1 f => f.Usable
  | .frmt2 f => f.Usable
  | .frmt3 f => f.Usable
  | .frmt4 f => f.Usable
  | .frmt5 f => f.Usable
  | .frmt6 f => f.Usable

theorem IndMsg.kept (m : IndMsg UeId CellGlobalId) : Kept (cpE2smRcIndMsg identities) eqE2smRcIndMsg m ↔ m.Usable := by
  cases m with
  | frmt1 f => exact (kept_wrap rfl rfl fun _ _ => IndMsg.frmt1.inj).trans f.kept
  | frmt2 f => exact (kept_wrap rfl rfl fun _ _ => IndMsg.frmt2.inj).trans f.kept
  | frmt3 f => exact (kept_wrap rfl rfl fun _ _ => IndMsg.frmt3.inj).trans f.kept
  | frmt4 f => exact (kept_wrap rfl rfl fun _ _ => IndMsg.frmt4.inj).trans f.kept
  | frmt5 f => exact (kept_wrap rfl rfl fun _ _ => IndMsg.frmt5.inj).trans f.kept
  | frmt6 f => exact (kept_wrap rfl rfl fun _ _ => IndMsg.frmt6.inj).trans f.kept

/-- Messages of different formats, or of different numbers of the elements that come first -/
def IndMsg.Apart : IndMsg UeId CellGlobalId → IndMsg UeId CellGlobalId → Prop
  | .frmt1 a, .frmt1 b => a.seqRanParam.length ≠ b.seqRanParam.length
  | .frmt2 a, .frmt2 b => a.seqUeId.length ≠ b.seqUeId.length
  | .frmt3 a, .frmt3 b => a.seqCellInfo.length ≠ b.seqCellInfo.length
  | .frmt4 a, .frmt4 b => a.seqUeInfo.length ≠ b.seqUeInfo.length
  | .frmt5 a, .frmt5 b => a.seqRanParam.length ≠ b.seqRanParam.length
  | .frmt6 a, .frmt6 b => a.seqInsStyle.length ≠ b.seqInsStyle.length
  | _, _ => True

theorem eqE2smRcIndMsgFrmt4_eq_false {a b : IndMsgFrmt4 UeId CellGlobalId} (ha : a.Usable) (hb : b.Usable) :
    eqE2smRcIndMsgFrmt4 a b = .ok false ↔ a.seqUeInfo.length ≠ b.seqUeInfo.length := by
  have hcells : eqArray (eqDebug eqSeqCellInfo2) a.seqCellInfo2 b.seqCellInfo2 ≠ .ok false :=
    eqArray_ne_false fun _ _ => eqDebug_ne_false
  rw [eqE2smRcIndMsgFrmt4, requireBoth_of ha.1.1 hb.1.1, requireBoth_of ha.2.1 hb.2.1, Except.ok_bind, Except.ok_bind,
    both_eq_false, eqList_eqDebug_eq_false, or_iff_left fun h => hcells h.2]

theorem eqE2smRcIndMsg_eq_false {a b : IndMsg UeId CellGlobalId} (ha : a.Usable) (hb : b.Usable) :
    eqE2smRcIndMsg a b = .ok false ↔ a.Apart b := by
  have hformats : (.ok false : Except String Bool) = .ok false ↔ True := iff_true_intro rfl
  cases a with
  | frmt1 a => cases b with
    | frmt1 b => exact eqList_eqDebug_eq_false
    | _ => exact hformats
  | frmt2 a => cases b with
    | frmt2 b => exact eqList_eqDebug_eq_false
    | _ => exact hformats
  | frmt3 a => cases b with
    | frmt3 b => exact eqList_eqDebug_eq_false
    | _ => exact hformats
  | frmt4 a => cases b with
    | frmt4 b => exact eqE2smRcIndMsgFrmt4_eq_false ha hb
    | _ => exact hformats
  | frmt5 a => cases b with
    | frmt5 b => exact eqList_eqDebug_eq_false
    | _ => exact hformats
  | frmt6 a => cases b with
    | frmt6 b =>
      rw [eqE2smRcIndMsg, eqE2smRcIndMsgFrmt6, requireBoth_of ha.1 hb.1, Except.ok_bind]
      exact eqList_eqDebug_eq_false
    | _ => exact hformats

end FlexRic.Sm.Rc
