import FlexRic.Theorems.Sm.Rc.EqIndications

/-! # What the comparisons of controls see

Headers and messages are told apart as far as the identities of the UEs and the zeros of both signs are. Outcomes of
format 2 are asserted to be equal. -/

namespace FlexRic.Sm.Rc
open Ue (UeId)

/-! ### Headers -/

/-- The identity of the UE can be compared, the action has an identifier, and the decision is not there. -/
def CtrlHdrFrmt1.Usable (f : CtrlHdrFrmt1 UeId) : Prop :=
  f.ueId.Complete ∧ 0 < f.ctrlActId ∧ f.ricCtrlDecision = none

def CtrlHdrFrmt1.Alike (a b : CtrlHdrFrmt1 UeId) : Prop :=
  a.ueId.Alike b.ueId ∧ a.ricStyleType = b.ricStyleType ∧ a.ctrlActId = b.ctrlActId

theorem eqE2smRcCtrlHdrFrmt1_tells {a b : CtrlHdrFrmt1 UeId} (ha : a.Usable) (hb : b.Usable) :
    Tells (eqE2smRcCtrlHdrFrmt1 a b) (a.Alike b) False := by
  obtain ⟨uea, stylea, ida, deca⟩ := a
  obtain ⟨ueb, styleb, idb, decb⟩ := b
  obtain ⟨hua, hida, rfl⟩ := ha
  obtain ⟨hub, hidb, rfl⟩ := hb
  have hids : Tells (both (same (ida = idb)) (.ok true)) (ida = idb) False :=
    ((same_tells _).andThen true_tells).congr (by simp) (by simp)
  rw [eqE2smRcCtrlHdrFrmt1, requireBoth_of hida hidb]
  exact ((eqUeIdE2sm_tells_of hua hub).andThen ((same_tells _).andThen hids)).congr Iff.rfl (by simp)

theorem CtrlHdrFrmt1.kept (f : CtrlHdrFrmt1 UeId) :
    Kept (cpE2smRcCtrlHdrFrmt1 identities) eqE2smRcCtrlHdrFrmt1 f ↔ f.Usable := by
  obtain ⟨ue, style, id, dec⟩ := f
  simp only [Kept, cpE2smRcCtrlHdrFrmt1, eqE2smRcCtrlHdrFrmt1, CtrlHdrFrmt1.Usable, requireAbsent, Ue.cpUeIdE2sm_eq,
    eqUeIdE2sm_self, Except.ok_bind, Except.bind_eq_ok, require_eq_ok, Except.pure_eq, Except.ok.injEq,
    CtrlHdrFrmt1.mk.injEq, both_eq_true, same_eq_true, requireBoth_eq_ok]
  tauto

/-- The UE is there, and the decision is not. -/
def CtrlHdrFrmt2.Usable (f : CtrlHdrFrmt2 UeId) : Prop := (∃ u ∈ f.ueId, u.Complete) ∧ f.ricCtrlDec = none

theorem eqE2smRcCtrlHdrFrmt2_tells {a b : CtrlHdrFrmt2 UeId} (ha : a.Usable) (hb : b.Usable) :
    Tells (eqE2smRcCtrlHdrFrmt2 a b) (AlikeUes a.ueId b.ueId) False := by
  obtain ⟨_, deca⟩ := a
  obtain ⟨_, decb⟩ := b
  obtain ⟨⟨ua, rfl, hua⟩, rfl⟩ := ha
  obtain ⟨⟨ub, rfl, hub⟩, rfl⟩ := hb
  exact ((eqUeIdE2sm_tells_of hua hub).andThen true_tells).congr (by simp [AlikeUes]) (by simp)

theorem CtrlHdrFrmt2.kept (f : CtrlHdrFrmt2 UeId) :
    Kept (cpE2smRcCtrlHdrFrmt2 identities) eqE2smRcCtrlHdrFrmt2 f ↔ f.Usable := by
  obtain ⟨ue, dec⟩ := f
  cases ue with
  | none => simp [Kept, cpE2smRcCtrlHdrFrmt2, CtrlHdrFrmt2.Usable, throw, throwThe, MonadExceptOf.throw]
  | some u =>
    simp only [Kept, cpE2smRcCtrlHdrFrmt2, eqE2smRcCtrlHdrFrmt2, eqUeIdPresent, CtrlHdrFrmt2.Usable, Ue.cpUeIdE2sm_eq,
      eqUeIdE2sm_self, Except.ok_bind, Except.bind_eq_ok, require_eq_ok, Except.pure_eq, Except.ok.injEq,
      CtrlHdrFrmt2.mk.injEq, both_eq_true, Option.isNone_some, Bool.false_eq_true, or_self, and_false, if_false,
      eqRead_eq_true, Option.mem_some_iff, exists_eq_left', true_and, and_true, exists_const]
    exact ⟨fun h => ⟨h.2, h.1.1⟩, fun h => ⟨⟨h.2, h.2.symm⟩, h.1⟩⟩

def CtrlHdr.Usable : CtrlHdr UeId → Prop
  | .frmt1 f => f.Usable
  | .frmt2 f => f.Usable

/-- The comparison finds no difference between the headers. -/
def CtrlHdr.Alike : CtrlHdr UeId → CtrlHdr UeId → Prop
  | .frmt1 a, .frmt1 b => a.Alike b
  | .frmt2 a, .frmt2 b => AlikeUes a.ueId b.ueId
  | _, _ => False

theorem eqE2smRcCtrlHdr_tells {a b : CtrlHdr UeId} (ha : a.Usable) (hb : b.Usable) :
    Tells (eqE2smRcCtrlHdr a b) (a.Alike b) False := by
  cases a with
  | frmt1 a => cases b with
    | frmt1 b => exact eqE2smRcCtrlHdrFrmt1_tells ha hb
    | frmt2 b => exact false_tells
  | frmt2 a => cases b with
    | frmt1 b => exact false_tells
    | frmt2 b => exact eqE2smRcCtrlHdrFrmt2_tells ha hb

theorem CtrlHdr.kept (h : CtrlHdr UeId) : Kept (cpE2smRcCtrlHdr identities) eqE2smRcCtrlHdr h ↔ h.Usable := by
  cases h with
  | frmt1 f => exact (kept_wrap rfl rfl fun _ _ => CtrlHdr.frmt1.inj).trans f.kept
  | frmt2 f => exact (kept_wrap rfl rfl fun _ _ => CtrlHdr.frmt2.inj).trans f.kept

/-! ### Messages -/

def CtrlMsgFrmt1.Usable (f : CtrlMsgFrmt1) : Prop := upTo 65535 f.ranParam.length ∧ UsableParams f.ranParam

def CtrlMsgFrmt1.compared (f : CtrlMsgFrmt1) : CtrlMsgFrmt1 := ⟨f.ranParam.map SeqRanParam.compared⟩

theorem eqE2smRcCtrlMsgFrmt1_tells {a b : CtrlMsgFrmt1} (ha : a.Usable) (hb : b.Usable) :
    Tells (eqE2smRcCtrlMsgFrmt1 a b) (a.compared = b.compared) False :=
  (eqSeqRanParam_list_tells ha.2 hb.2).congr (by simp [CtrlMsgFrmt1.compared]) Iff.rfl

theorem CtrlMsgFrmt1.kept (f : CtrlMsgFrmt1) : Kept cpE2smRcCtrlMsgFrmt1 eqE2smRcCtrlMsgFrmt1 f ↔ f.Usable := by
  obtain ⟨ps⟩ := f
  simp only [Kept, cpE2smRcCtrlMsgFrmt1, eqE2smRcCtrlMsgFrmt1, CtrlMsgFrmt1.Usable, UsableParams,
    forall_kept fun p _ => SeqRanParam.kept p, Except.bind_eq_ok, Except.pure_eq, Except.ok.injEq, CtrlMsgFrmt1.mk.injEq,
    exists_eq_right, mapSized_eq_self, eqList_self, and_assoc]

/-- The action has an identifier. -/
def SeqCtrlAct.Usable (c : SeqCtrlAct) : Prop := 0 < c.ctrlActId ∧ ∀ f ∈ c.ctrlMsgFrmt1, f.Usable

def SeqCtrlAct.compared (c : SeqCtrlAct) : SeqCtrlAct := ⟨c.ctrlActId, c.ctrlMsgFrmt1.map CtrlMsgFrmt1.compared⟩

theorem eqSeqCtrlAct_tells {a b : SeqCtrlAct} (ha : a.Usable) (hb : b.Usable) :
    Tells (eqSeqCtrlAct a b) (a.compared = b.compared) False := by
  have hmsgs : Tells (eqPresent eqE2smRcCtrlMsgFrmt1 a.ctrlMsgFrmt1 b.ctrlMsgFrmt1)
      (a.ctrlMsgFrmt1.map CtrlMsgFrmt1.compared = b.ctrlMsgFrmt1.map CtrlMsgFrmt1.compared) False :=
    eqPresent_tells_map fun f hf g hg => eqE2smRcCtrlMsgFrmt1_tells (ha.2 f hf) (hb.2 g hg)
  rw [eqSeqCtrlAct, requireBoth_of ha.1 hb.1]
  exact ((same_tells _).andThen hmsgs).congr (by simp [SeqCtrlAct.compared]) (by simp)

theorem SeqCtrlAct.kept (c : SeqCtrlAct) : Kept cpSeqCtrlAct eqSeqCtrlAct c ↔ c.Usable := by
  obtain ⟨id, msg⟩ := c
  simp only [Kept, cpSeqCtrlAct, eqSeqCtrlAct, SeqCtrlAct.Usable, forall_some_kept CtrlMsgFrmt1.kept,
    Except.bind_eq_ok, require_eq_ok, Except.pure_eq, Except.ok.injEq, SeqCtrlAct.mk.injEq, true_and, exists_eq_right,
    exists_const, mapOptional_eq_self, both_eq_true, same_eq_true, requireBoth_eq_ok, eqPresent_self]
  tauto

def SeqCtrlSma.Usable (s : SeqCtrlSma) : Prop := oneTo 63 s.seqCtrlAct.length ∧ ∀ c ∈ s.seqCtrlAct, c.Usable

def SeqCtrlSma.compared (s : SeqCtrlSma) : SeqCtrlSma := ⟨s.ctrlStyle, s.seqCtrlAct.map SeqCtrlAct.compared⟩

theorem eqSeqCtrlSma_tells {a b : SeqCtrlSma} (ha : a.Usable) (hb : b.Usable) :
    Tells (eqSeqCtrlSma a b) (a.compared = b.compared) False := by
  have hacts : Tells (eqList eqSeqCtrlAct a.seqCtrlAct b.seqCtrlAct)
      (a.seqCtrlAct.map SeqCtrlAct.compared = b.seqCtrlAct.map SeqCtrlAct.compared) False :=
    eqList_tells_map fun c hc d hd => eqSeqCtrlAct_tells (ha.2 c hc) (hb.2 d hd)
  rw [eqSeqCtrlSma, requireBoth_of ha.1 hb.1]
  exact ((same_tells _).andThen hacts).congr (by simp [SeqCtrlSma.compared]) (by simp)

theorem SeqCtrlSma.kept (s : SeqCtrlSma) : Kept cpSeqCtrlSma eqSeqCtrlSma s ↔ s.Usable := by
  obtain ⟨style, acts⟩ := s
  simp only [Kept, cpSeqCtrlSma, eqSeqCtrlSma, SeqCtrlSma.Usable, forall_kept fun c _ => SeqCtrlAct.kept c,
    Except.bind_eq_ok, Except.pure_eq, Except.ok.injEq, SeqCtrlSma.mk.injEq, true_and, exists_eq_right, exists_const,
    mapSized_eq_self, both_eq_true, same_eq_true, requireBoth_eq_ok, eqList_self]
  tauto

def CtrlMsgFrmt2.Usable (f : CtrlMsgFrmt2) : Prop := oneTo 63 f.action.length ∧ ∀ s ∈ f.action, s.Usable

def CtrlMsgFrmt2.compared (f : CtrlMsgFrmt2) : CtrlMsgFrmt2 := ⟨f.action.map SeqCtrlSma.compared⟩

theorem eqE2smRcCtrlMsgFrmt2_tells {a b : CtrlMsgFrmt2} (ha : a.Usable) (hb : b.Usable) :
    Tells (eqE2smRcCtrlMsgFrmt2 a b) (a.compared = b.compared) False := by
  have hstyles : Tells (eqList eqSeqCtrlSma a.action b.action)
      (a.action.map SeqCtrlSma.compared = b.action.map SeqCtrlSma.compared) False :=
    eqList_tells_map fun s hs s' hs' => eqSeqCtrlSma_tells (ha.2 s hs) (hb.2 s' hs')
  rw [eqE2smRcCtrlMsgFrmt2, requireBoth_of ha.1 hb.1]
  exact hstyles.congr (by simp [CtrlMsgFrmt2.compared]) Iff.rfl

theorem CtrlMsgFrmt2.kept (f : CtrlMsgFrmt2) : Kept cpE2smRcCtrlMsgFrmt2 eqE2smRcCtrlMsgFrmt2 f ↔ f.Usable := by
  obtain ⟨styles⟩ := f
  simp only [Kept, cpE2smRcCtrlMsgFrmt2, eqE2smRcCtrlMsgFrmt2, CtrlMsgFrmt2.Usable,
    forall_kept fun s _ => SeqCtrlSma.kept s, Except.bind_eq_ok, Except.pure_eq, Except.ok.injEq, CtrlMsgFrmt2.mk.injEq,
    exists_eq_right, mapSized_eq_self, requireBoth_eq_ok, eqList_self, exists_const]
  tauto

def CtrlMsg.Usable : CtrlMsg → Prop
  | .frmt1 f => f.Usable
  | .frmt2 f => f.Usable

def CtrlMsg.compared : CtrlMsg → CtrlMsg
  | .frmt1 f => .frmt1 f.compared
  | .frmt2 f => .frmt2 f.compared

theorem eqE2smRcCtrlMsg_tells {a b : CtrlMsg} (ha : a.Usable) (hb : b.Usable) :
    Tells (eqE2smRcCtrlMsg a b) (a.compared = b.compared) False := by
  cases a with
  | frmt1 a => cases b with
    | frmt1 b => exact (eqE2smRcCtrlMsgFrmt1_tells ha hb).congr (by simp [CtrlMsg.compared]) Iff.rfl
    | frmt2 b => exact false_tells.congr (by simp [CtrlMsg.compared]) Iff.rfl
  | frmt2 a => cases b with
    | frmt1 b => exact false_tells.congr (by simp [CtrlMsg.compared]) Iff.rfl
    | frmt2 b => exact (eqE2smRcCtrlMsgFrmt2_tells ha hb).congr (by simp [CtrlMsg.compared]) Iff.rfl

theorem CtrlMsg.kept (m : CtrlMsg) : Kept cpE2smRcCtrlMsg eqE2smRcCtrlMsg m ↔ m.Usable := by
  cases m with
  | frmt1 f => exact (kept_wrap rfl rfl fun _ _ => CtrlMsg.frmt1.inj).trans f.kept
  | frmt2 f => exact (kept_wrap rfl rfl fun _ _ => CtrlMsg.frmt2.inj).trans f.kept

/-! ### Outcomes -/

/-- The parameters of outcomes have elements for values. -/
abbrev UsableOutcomes (ps : List (SeqRanParam RanParameterValue)) : Prop := ∀ p ∈ ps, p.Usable RanParameterValue.Usable

abbrev SeqRanParam.comparedOutcome (p : SeqRanParam RanParameterValue) : SeqRanParam RanParameterValue :=
  p.withVal RanParameterValue.compared

theorem eqSeqRanParam2_tells {p q : SeqRanParam RanParameterValue} (hp : p.Usable RanParameterValue.Usable)
    (hq : q.Usable RanParameterValue.Usable) :
    Tells (eqSeqRanParam2 p q) (p.comparedOutcome = q.comparedOutcome) False := by
  rw [eqSeqRanParam2, requireBoth_of hp.1 hq.1]
  exact ((same_tells _).andThen (eqRanParameterValue_tells hp.2 hq.2)).congr SeqRanParam.withVal_inj.symm (by simp)

theorem eqSeqRanParam2_list_tells {ps qs : List (SeqRanParam RanParameterValue)} (hps : UsableOutcomes ps)
    (hqs : UsableOutcomes qs) : Tells (eqList eqSeqRanParam2 ps qs)
      (ps.map SeqRanParam.comparedOutcome = qs.map SeqRanParam.comparedOutcome) False :=
  eqList_tells_map fun p hp q hq => eqSeqRanParam2_tells (hps p hp) (hqs q hq)

theorem kept_seqRanParam2 (p : SeqRanParam RanParameterValue) :
    Kept cpSeqRanParam2 eqSeqRanParam2 p ↔ p.Usable RanParameterValue.Usable := by
  obtain ⟨id, v⟩ := p
  simp only [Kept, cpSeqRanParam2, eqSeqRanParam2, SeqRanParam.Usable, cpRanParameterValue_eq, eqRanParameterValue_self,
    Except.bind_eq_ok, require_eq_ok, Except.pure_eq, and_true, exists_const, both_eq_true, same_eq_true,
    requireBoth_eq_ok]
  tauto

def CtrlOutFrmt1.Usable (f : CtrlOutFrmt1) : Prop := upTo 255 f.ranParam.length ∧ UsableOutcomes f.ranParam

def CtrlOutFrmt1.compared (f : CtrlOutFrmt1) : CtrlOutFrmt1 := ⟨f.ranParam.map SeqRanParam.comparedOutcome⟩

theorem eqE2smRcCtrlOutFrmt1_tells {a b : CtrlOutFrmt1} (ha : a.Usable) (hb : b.Usable) :
    Tells (eqE2smRcCtrlOutFrmt1 a b) (a.compared = b.compared) False := by
  rw [eqE2smRcCtrlOutFrmt1, requireBoth_of ha.1 hb.1]
  exact (eqSeqRanParam2_list_tells ha.2 hb.2).congr (by simp [CtrlOutFrmt1.compared]) Iff.rfl

theorem CtrlOutFrmt1.kept (f : CtrlOutFrmt1) : Kept cpE2smRcCtrlOutFrmt1 eqE2smRcCtrlOutFrmt1 f ↔ f.Usable := by
  obtain ⟨ps⟩ := f
  simp only [Kept, cpE2smRcCtrlOutFrmt1, eqE2smRcCtrlOutFrmt1, CtrlOutFrmt1.Usable, UsableOutcomes,
    forall_kept fun p _ => kept_seqRanParam2 p, Except.bind_eq_ok, Except.pure_eq, Except.ok.injEq, CtrlOutFrmt1.mk.injEq,
    exists_eq_right, mapSized_eq_self, requireBoth_eq_ok, eqList_self, exists_const]
  tauto

/-- The outcome has an identifier and parameters. -/
def SeqCtrlActOut.Usable (c : SeqCtrlActOut) : Prop :=
  0 < c.ctrlActId ∧ oneTo 255 c.ranParam.length ∧ UsableOutcomes c.ranParam

theorem SeqCtrlActOut.kept (c : SeqCtrlActOut) : Kept cpSeqCtrlActOut eqSeqCtrlActOut c ↔ c.Usable := by
  obtain ⟨id, ps⟩ := c
  simp only [Kept, cpSeqCtrlActOut, eqSeqCtrlActOut, SeqCtrlActOut.Usable, UsableOutcomes,
    forall_kept fun p _ => kept_seqRanParam2 p, Except.bind_eq_ok, require_eq_ok, Except.pure_eq, Except.ok.injEq,
    SeqCtrlActOut.mk.injEq, true_and, exists_eq_right, exists_const, mapSized_eq_self, both_eq_true, same_eq_true,
    requireBoth_eq_ok, eqList_self]
  tauto

def SeqCtrlStyMulOut.Usable (s : SeqCtrlStyMulOut) : Prop :=
  oneTo 63 s.seqCtrlActOut.length ∧ ∀ c ∈ s.seqCtrlActOut, c.Usable

theorem SeqCtrlStyMulOut.kept (s : SeqCtrlStyMulOut) : Kept cpSeqCtrlStyMulOut eqSeqCtrlStyMulOut s ↔ s.Usable := by
  obtain ⟨style, cs⟩ := s
  simp only [Kept, cpSeqCtrlStyMulOut, eqSeqCtrlStyMulOut, SeqCtrlStyMulOut.Usable,
    forall_kept fun c _ => SeqCtrlActOut.kept c, Except.bind_eq_ok, Except.pure_eq, Except.ok.injEq,
    SeqCtrlStyMulOut.mk.injEq, true_and, exists_eq_right, exists_const, mapSized_eq_self, both_eq_true, same_eq_true,
    requireBoth_eq_ok, eqList_self]
  tauto

def CtrlOutFrmt2.Usable (f : CtrlOutFrmt2) : Prop :=
  oneTo 63 f.seqCtrlStyMulOut.length ∧ ∀ s ∈ f.seqCtrlStyMulOut, s.Usable

theorem CtrlOutFrmt2.kept (f : CtrlOutFrmt2) : Kept cpE2smRcCtrlOutFrmt2 eqE2smRcCtrlOutFrmt2 f ↔ f.Usable := by
  obtain ⟨ss⟩ := f
  simp only [Kept, cpE2smRcCtrlOutFrmt2, eqE2smRcCtrlOutFrmt2, CtrlOutFrmt2.Usable,
    forall_kept fun s _ => SeqCtrlStyMulOut.kept s, Except.bind_eq_ok, Except.pure_eq, Except.ok.injEq,
    CtrlOutFrmt2.mk.injEq, exists_eq_right, exists_const, mapSized_eq_self, both_eq_true, orAssert_eq_true, same_eq_true,
    requireBoth_eq_ok, eqArray_self, eqDebug_eq_true]
  tauto

theorem eqE2smRcCtrlOutFrmt2_ne_false {a b : CtrlOutFrmt2} (ha : a.Usable) (hb : b.Usable) :
    eqE2smRcCtrlOutFrmt2 a b ≠ .ok false := by
  rw [eqE2smRcCtrlOutFrmt2, requireBoth_of ha.1 hb.1, Except.ok_bind]
  exact both_ne_false orAssert_ne_false (eqArray_ne_false fun _ _ => eqDebug_ne_false)

def CtrlOutFrmt3.Usable (f : CtrlOutFrmt3) : Prop := upTo 255 f.ranParam.length ∧ UsableParams f.ranParam

def CtrlOutFrmt3.compared (f : CtrlOutFrmt3) : CtrlOutFrmt3 := ⟨f.ranParam.map SeqRanParam.compared⟩

theorem eqE2smRcCtrlOutFrmt3_tells {a b : CtrlOutFrmt3} (ha : a.Usable) (hb : b.Usable) :
    Tells (eqE2smRcCtrlOutFrmt3 a b) (a.compared = b.compared) False := by
  rw [eqE2smRcCtrlOutFrmt3, requireBoth_of ha.1 hb.1]
  exact (eqSeqRanParam_list_tells ha.2 hb.2).congr (by simp [CtrlOutFrmt3.compared]) Iff.rfl

theorem CtrlOutFrmt3.kept (f : CtrlOutFrmt3) : Kept cpE2smRcCtrlOutFrmt3 eqE2smRcCtrlOutFrmt3 f ↔ f.Usable := by
  obtain ⟨ps⟩ := f
  simp only [Kept, cpE2smRcCtrlOutFrmt3, eqE2smRcCtrlOutFrmt3, CtrlOutFrmt3.Usable, UsableParams,
    forall_kept fun p _ => SeqRanParam.kept p, Except.bind_eq_ok, Except.pure_eq, Except.ok.injEq, CtrlOutFrmt3.mk.injEq,
    exists_eq_right, mapSized_eq_self, requireBoth_eq_ok, eqList_self, exists_const]
  tauto

def CtrlOut.Usable : CtrlOut → Prop
  | .frmt1 f => f.Usable
  | .frmt2 f => f.Usable
  | .frmt3 f => f.Usable

/-- Outcomes of different formats, or with different parameters; nothing is told apart in format 2. -/
def CtrlOut.Apart : CtrlOut → CtrlOut → Prop
  | .frmt1 a, .frmt1 b => a.compared ≠ b.compared
  | .frmt2 _, .frmt2 _ => False
  | .frmt3 a, .frmt3 b => a.compared ≠ b.compared
  | _, _ => True

theorem eqE2smRcCtrlOut_eq_false {a b : CtrlOut} (ha : a.Usable) (hb : b.Usable) :
    eqE2smRcCtrlOut a b = .ok false ↔ a.Apart b := by
  have hformats : (.ok false : Except String Bool) = .ok false ↔ True := iff_true_intro rfl
  cases a with
  | frmt1 a => cases b with
    | frmt1 b => exact (eqE2smRcCtrlOutFrmt1_tells ha hb).eq_false_iff
    | _ => exact hformats
  | frmt2 a => cases b with
    | frmt2 b => exact iff_of_false (eqE2smRcCtrlOutFrmt2_ne_false ha hb) not_false
    | _ => exact hformats
  | frmt3 a => cases b with
    | frmt3 b => exact (eqE2smRcCtrlOutFrmt3_tells ha hb).eq_false_iff
    | _ => exact hformats

theorem CtrlOut.kept (o : CtrlOut) : Kept cpE2smRcCtrlOut eqE2smRcCtrlOut o ↔ o.Usable := by
  cases o with
  | frmt1 f => exact (kept_wrap rfl rfl fun _ _ => CtrlOut.frmt1.inj).trans f.kept
  | frmt2 f => exact (kept_wrap rfl rfl fun _ _ => CtrlOut.frmt2.inj).trans f.kept
  | frmt3 f => exact (kept_wrap rfl rfl fun _ _ => CtrlOut.frmt3.inj).trans f.kept

end FlexRic.Sm.Rc
