import FlexRic.Lib.CopyEq
import FlexRic.Sm.Rc.Eq
import FlexRic.Theorems.Sm.Rc.Copy
import FlexRic.Theorems.Sm.Rc.EventTrigger
import FlexRic.Theorems.Ue.Eq

/-! # What the comparisons of RAN parameters see

The comparison of two values takes the zeros of both signs for one number, at any depth, and fails on a number that is
not one. The comparison of two tests fails where their contents differ. -/

namespace FlexRic.Sm.Rc
open Ue (UeId cpUeIdE2sm)
open Util (eqByteArray_tells)

/-! ### Identities -/

/-- The copy of an identity that may be missing -/
theorem mapOptional_cpUeIdE2sm (o : Option UeId) :
    mapOptional (fun id => (.ok (cpUeIdE2sm id) : Except String UeId)) o = .ok o :=
  mapOptional_eq_self.mpr fun id _ => congrArg Except.ok (Ue.cpUeIdE2sm_eq id)

/-! ### Elements -/

/-- The number, if it is one, is equal to itself. -/
def RanParameterValue.Usable : RanParameterValue → Prop
  | .real x => ¬isnan x
  | _ => True

/-- The value as its comparison sees it -/
def RanParameterValue.compared : RanParameterValue → RanParameterValue
  | .bool b => .bool b
  | .int i => .int i
  | .real x => .real (oneZero x)
  | .bitStr ba => .bitStr ba
  | .octetStr ba => .octetStr ba
  | .printableStr ba => .printableStr ba

theorem eqRanParameterValue_tells {v w : RanParameterValue} (hv : v.Usable) (hw : w.Usable) :
    Tells (eqRanParameterValue v w) (v.compared = w.compared) False := by
  cases v with
  | bool a => cases w with
    | bool b => exact (same_tells _).congr (by simp [RanParameterValue.compared]) Iff.rfl
    | _ => exact false_tells.congr (by simp [RanParameterValue.compared]) Iff.rfl
  | int a => cases w with
    | int b => exact (same_tells _).congr (by simp [RanParameterValue.compared]) Iff.rfl
    | _ => exact false_tells.congr (by simp [RanParameterValue.compared]) Iff.rfl
  | real a => cases w with
    | real b =>
      have ha : ¬isnan a := hv
      have hb : ¬isnan b := hw
      rw [eqRanParameterValue, requireBoth_of (c := fun x => ¬isnan x) ha hb]
      exact (same_tells _).congr (by simp [RanParameterValue.compared]) Iff.rfl
    | _ => exact false_tells.congr (by simp [RanParameterValue.compared]) Iff.rfl
  | bitStr a => cases w with
    | bitStr b => exact (eqByteArray_tells a b).congr (by simp [RanParameterValue.compared]) Iff.rfl
    | _ => exact false_tells.congr (by simp [RanParameterValue.compared]) Iff.rfl
  | octetStr a => cases w with
    | octetStr b => exact (eqByteArray_tells a b).congr (by simp [RanParameterValue.compared]) Iff.rfl
    | _ => exact false_tells.congr (by simp [RanParameterValue.compared]) Iff.rfl
  | printableStr a => cases w with
    | printableStr b => exact (eqByteArray_tells a b).congr (by simp [RanParameterValue.compared]) Iff.rfl
    | _ => exact false_tells.congr (by simp [RanParameterValue.compared]) Iff.rfl

theorem eqRanParameterValue_self (v : RanParameterValue) : eqRanParameterValue v v = .ok true ↔ v.Usable := by
  cases v with
  | real x => simp [eqRanParameterValue, RanParameterValue.Usable]
  | _ => simp [eqRanParameterValue, RanParameterValue.Usable, (eqByteArray_tells _ _).true_iff]

/-! ### Values -/

/-- The structures of the value and the items of its lists have members, of any depth, all of them have identifiers,
and its numbers are equal to themselves. -/
inductive RanParamValType.Usable : RanParamValType → Prop
  | flagTrue {v : RanParameterValue} (hv : v.Usable) : Usable (.flagTrue v)
  | flagFalse {v : RanParameterValue} (hv : v.Usable) : Usable (.flagFalse v)
  | strct {ps : List (SeqRanParam RanParamValType)} (hsize : oneTo 65535 ps.length) (hid : ∀ p ∈ ps, 0 < p.ranParamId)
      (hval : ∀ p ∈ ps, Usable p.ranParamVal) : Usable (.strct ps)
  | lst {is : List (LstRanParam RanParamValType)} (hid : ∀ i ∈ is, 0 < i.ranParamId)
      (hsize : ∀ i ∈ is, oneTo 65535 i.ranParamStruct.length) (hids : ∀ i ∈ is, ∀ p ∈ i.ranParamStruct, 0 < p.ranParamId)
      (hval : ∀ i ∈ is, ∀ p ∈ i.ranParamStruct, Usable p.ranParamVal) : Usable (.lst is)

/-- The parameter has an identifier and a value with which it can be used. -/
def SeqRanParam.Usable {V : Type} (P : V → Prop) (p : SeqRanParam V) : Prop := 0 < p.ranParamId ∧ P p.ranParamVal

/-- The item has an identifier and members. -/
def LstRanParam.Usable (i : LstRanParam RanParamValType) : Prop :=
  0 < i.ranParamId ∧ oneTo 65535 i.ranParamStruct.length ∧ ∀ p ∈ i.ranParamStruct, p.Usable RanParamValType.Usable

theorem RanParamValType.usable_strct {ps : List (SeqRanParam RanParamValType)} :
    (RanParamValType.strct ps).Usable ↔ oneTo 65535 ps.length ∧ ∀ p ∈ ps, p.Usable RanParamValType.Usable := by
  constructor
  · intro h
    cases h with
    | strct hsize hid hval => exact ⟨hsize, fun p hp => ⟨hid p hp, hval p hp⟩⟩
  · rintro ⟨hsize, hps⟩
    exact .strct hsize (fun p hp => (hps p hp).1) fun p hp => (hps p hp).2

theorem RanParamValType.usable_lst {is : List (LstRanParam RanParamValType)} :
    (RanParamValType.lst is).Usable ↔ ∀ i ∈ is, i.Usable := by
  constructor
  · intro h
    cases h with
    | lst hid hsize hids hval => exact fun i hi => ⟨hid i hi, hsize i hi, fun p hp => ⟨hids i hi p hp, hval i hi p hp⟩⟩
  · intro h
    exact .lst (fun i hi => (h i hi).1) (fun i hi => (h i hi).2.1) (fun i hi p hp => ((h i hi).2.2 p hp).1)
      fun i hi p hp => ((h i hi).2.2 p hp).2

mutual

/-- The value as its comparison sees it -/
def RanParamValType.compared : RanParamValType → RanParamValType
  | .flagTrue v => .flagTrue v.compared
  | .flagFalse v => .flagFalse v.compared
  | .strct ps => .strct (comparedStructs ps)
  | .lst is => .lst (comparedLsts is)

def comparedStructs : List (SeqRanParam RanParamValType) → List (SeqRanParam RanParamValType)
  | [] => []
  | ⟨id, v⟩ :: ps => ⟨id, v.compared⟩ :: comparedStructs ps

def comparedLsts : List (LstRanParam RanParamValType) → List (LstRanParam RanParamValType)
  | [] => []
  | ⟨id, ps⟩ :: is => ⟨id, comparedStructs ps⟩ :: comparedLsts is

end

abbrev SeqRanParam.compared (p : SeqRanParam RanParamValType) : SeqRanParam RanParamValType :=
  p.withVal RanParamValType.compared

def LstRanParam.compared (i : LstRanParam RanParamValType) : LstRanParam RanParamValType :=
  ⟨i.ranParamId, i.ranParamStruct.map SeqRanParam.compared⟩

theorem comparedStructs_eq (ps : List (SeqRanParam RanParamValType)) :
    comparedStructs ps = ps.map SeqRanParam.compared := by
  induction ps with
  | nil => rfl
  | cons p ps ih => rw [comparedStructs, ih]; rfl

theorem comparedLsts_eq (is : List (LstRanParam RanParamValType)) : comparedLsts is = is.map LstRanParam.compared := by
  induction is with
  | nil => rfl
  | cons i is ih => rw [comparedLsts, ih, comparedStructs_eq]; rfl

theorem SeqRanParam.withVal_inj {V V' : Type} {f : V → V'} {p q : SeqRanParam V} :
    p.withVal f = q.withVal f ↔ p.ranParamId = q.ranParamId ∧ f p.ranParamVal = f q.ranParamVal := by
  rw [SeqRanParam.withVal, SeqRanParam.withVal, SeqRanParam.mk.injEq]

theorem eqSeqRanParams_eq (ps qs : List (SeqRanParam RanParamValType)) :
    eqSeqRanParams ps qs = eqArray eqSeqRanParam ps qs := by
  induction ps generalizing qs with
  | nil => rfl
  | cons p ps ih => cases qs with
    | nil => rfl
    | cons q qs => rw [eqSeqRanParams, ih, eqArray, eqSeqRanParam]

theorem eqLstRanParams_eq (is js : List (LstRanParam RanParamValType)) :
    eqLstRanParams is js = eqArray eqLstRanParam is js := by
  induction is generalizing js with
  | nil => rfl
  | cons i is ih => cases js with
    | nil => rfl
    | cons j js => rw [eqLstRanParams, ih, eqSeqRanParams_eq, eqArray, eqLstRanParam, eqRanParamStruct]

theorem eqRanParamValType_strct (ps qs : List (SeqRanParam RanParamValType)) :
    eqRanParamValType (.strct ps) (.strct qs) = eqRanParamStruct ps qs := by
  rw [eqRanParamValType, eqSeqRanParams_eq, eqRanParamStruct]

theorem eqRanParamValType_lst (is js : List (LstRanParam RanParamValType)) :
    eqRanParamValType (.lst is) (.lst js) = eqList eqLstRanParam is js := by
  rw [eqRanParamValType, eqLstRanParams_eq, eqList]

theorem eqRanParamStruct_of {ps qs : List (SeqRanParam RanParamValType)} (hps : oneTo 65535 ps.length)
    (hqs : oneTo 65535 qs.length) : eqRanParamStruct ps qs = eqList eqSeqRanParam ps qs := by
  rw [eqRanParamStruct, requireStructs, requireBoth_of hps hqs, Except.ok_bind, eqList]

theorem eqRanParamValType_tells {v w : RanParamValType} (hv : v.Usable) (hw : w.Usable) :
    Tells (eqRanParamValType v w) (v.compared = w.compared) False := by
  induction v using RanParamValType.induct generalizing w with
  | flagTrue a => cases w with
    | flagTrue b =>
      cases hv with | flagTrue ha => cases hw with | flagTrue hb =>
      exact (eqRanParameterValue_tells ha hb).congr (by simp [RanParamValType.compared]) Iff.rfl
    | _ => exact false_tells.congr (by simp [RanParamValType.compared]) Iff.rfl
  | flagFalse a => cases w with
    | flagFalse b =>
      cases hv with | flagFalse ha => cases hw with | flagFalse hb =>
      exact (eqRanParameterValue_tells ha hb).congr (by simp [RanParamValType.compared]) Iff.rfl
    | _ => exact false_tells.congr (by simp [RanParamValType.compared]) Iff.rfl
  | strct ps ih => cases w with
    | strct qs =>
      obtain ⟨hsize, hps⟩ := (RanParamValType.usable_strct).mp hv
      obtain ⟨hsize', hqs⟩ := (RanParamValType.usable_strct).mp hw
      have hseq : ∀ p ∈ ps, ∀ q ∈ qs, Tells (eqSeqRanParam p q) (p.compared = q.compared) False := by
        intro p hp q hq
        exact ((same_tells _).andThen (ih p hp (hps p hp).2 (hqs q hq).2)).congr (SeqRanParam.withVal_inj).symm (by simp)
      rw [eqRanParamValType_strct, eqRanParamStruct_of hsize hsize']
      exact (eqList_tells_map hseq).congr (by simp [RanParamValType.compared, comparedStructs_eq]) Iff.rfl
    | _ => exact false_tells.congr (by simp [RanParamValType.compared]) Iff.rfl
  | lst is ih => cases w with
    | lst js =>
      have his := (RanParamValType.usable_lst).mp hv
      have hjs := (RanParamValType.usable_lst).mp hw
      have hlst : ∀ i ∈ is, ∀ j ∈ js, Tells (eqLstRanParam i j) (i.compared = j.compared) False := by
        intro i hi j hj
        have hseq : ∀ p ∈ i.ranParamStruct, ∀ q ∈ j.ranParamStruct,
            Tells (eqSeqRanParam p q) (p.compared = q.compared) False := by
          intro p hp q hq
          exact ((same_tells _).andThen (ih i hi p hp ((his i hi).2.2 p hp).2 ((hjs j hj).2.2 q hq).2)).congr
            (SeqRanParam.withVal_inj).symm (by simp)
        rw [eqLstRanParam, eqRanParamStruct_of (his i hi).2.1 (hjs j hj).2.1]
        exact ((same_tells _).andThen (eqList_tells_map hseq)).congr (by simp [LstRanParam.compared]) (by simp)
      rw [eqRanParamValType_lst]
      exact (eqList_tells_map hlst).congr (by simp [RanParamValType.compared, comparedLsts_eq]) Iff.rfl
    | _ => exact false_tells.congr (by simp [RanParamValType.compared]) Iff.rfl

theorem eqSeqRanParam_tells {p q : SeqRanParam RanParamValType} (hp : p.Usable RanParamValType.Usable)
    (hq : q.Usable RanParamValType.Usable) : Tells (eqSeqRanParam p q) (p.compared = q.compared) False :=
  ((same_tells _).andThen (eqRanParamValType_tells hp.2 hq.2)).congr (SeqRanParam.withVal_inj).symm (by simp)

theorem eqSeqRanParam_list_tells {ps qs : List (SeqRanParam RanParamValType)}
    (hps : ∀ p ∈ ps, p.Usable RanParamValType.Usable) (hqs : ∀ q ∈ qs, q.Usable RanParamValType.Usable) :
    Tells (eqList eqSeqRanParam ps qs) (ps.map SeqRanParam.compared = qs.map SeqRanParam.compared) False :=
  eqList_tells_map fun p hp q hq => eqSeqRanParam_tells (hps p hp) (hqs q hq)

/-! ### Copies of values -/

theorem cpLstRanParams_eq (is : List (LstRanParam RanParamValType)) : cpLstRanParams is = is.mapM cpLstRanParam := by
  induction is with
  | nil => rfl
  | cons i is ih =>
    rw [cpLstRanParams, ih, List.mapM_cons, cpLstRanParam, cpSeqRanParams_eq, mapSized]
    simp only [bind_assoc, pure_bind]

theorem cpSeqRanParam_eq_self {p : SeqRanParam RanParamValType} :
    cpSeqRanParam p = .ok p ↔ 0 < p.ranParamId ∧ cpRanParamValType p.ranParamVal = .ok p.ranParamVal := by
  obtain ⟨id, v⟩ := p
  simp only [cpSeqRanParam, Except.bind_eq_ok, require_eq_ok, Except.pure_eq, Except.ok.injEq, SeqRanParam.mk.injEq,
    true_and, exists_eq_right, exists_const]

theorem eqSeqRanParam_self {p : SeqRanParam RanParamValType} :
    eqSeqRanParam p p = .ok true ↔ eqRanParamValType p.ranParamVal p.ranParamVal = .ok true := by
  simp [eqSeqRanParam]

theorem cpLstRanParam_eq_self {i : LstRanParam RanParamValType} : cpLstRanParam i = .ok i ↔
    0 < i.ranParamId ∧ oneTo 65535 i.ranParamStruct.length ∧ ∀ p ∈ i.ranParamStruct, cpSeqRanParam p = .ok p := by
  obtain ⟨id, ps⟩ := i
  simp only [cpLstRanParam, Except.bind_eq_ok, require_eq_ok, Except.pure_eq, Except.ok.injEq, LstRanParam.mk.injEq,
    true_and, exists_eq_right, exists_const, mapSized_eq_self]

theorem eqRanParamStruct_self {ps : List (SeqRanParam RanParamValType)} :
    eqRanParamStruct ps ps = .ok true ↔ oneTo 65535 ps.length ∧ ∀ p ∈ ps, eqSeqRanParam p p = .ok true := by
  rw [eqRanParamStruct, requireStructs, both_eq_true, requireBoth_bind_eq_true, eqArray_self, same_eq_true,
    and_iff_right rfl, ← and_assoc, and_self]

theorem SeqRanParam.kept_of_val (p : SeqRanParam RanParamValType)
    (h : Kept cpRanParamValType eqRanParamValType p.ranParamVal ↔ p.ranParamVal.Usable) :
    Kept cpSeqRanParam eqSeqRanParam p ↔ p.Usable RanParamValType.Usable := by
  rw [Kept, cpSeqRanParam_eq_self, eqSeqRanParam_self, and_assoc, SeqRanParam.Usable, ← h, Kept]

theorem RanParamValType.kept (v : RanParamValType) : Kept cpRanParamValType eqRanParamValType v ↔ v.Usable := by
  induction v using RanParamValType.induct with
  | flagTrue v =>
    rw [Kept, cpRanParamValType, cpRanParameterValue_eq, and_iff_right rfl, eqRanParamValType, eqRanParameterValue_self]
    exact ⟨.flagTrue, fun h => by cases h with | flagTrue hv => exact hv⟩
  | flagFalse v =>
    rw [Kept, cpRanParamValType, cpRanParameterValue_eq, and_iff_right rfl, eqRanParamValType, eqRanParameterValue_self]
    exact ⟨.flagFalse, fun h => by cases h with | flagFalse hv => exact hv⟩
  | strct ps ih =>
    have hcp : cpRanParamValType (.strct ps) = .ok (.strct ps) ↔
        oneTo 65535 ps.length ∧ ∀ p ∈ ps, cpSeqRanParam p = .ok p := by
      rw [cpRanParamValType, cpSeqRanParams_eq]
      simp only [Except.bind_eq_ok, require_eq_ok, Except.pure_eq, Except.ok.injEq, RanParamValType.strct.injEq,
        exists_eq_right, exists_const, Except.mapM_eq_self]
    rw [Kept, hcp, eqRanParamValType_strct, eqRanParamStruct_self, usable_strct,
      forall_kept fun p hp => SeqRanParam.kept_of_val p (ih p hp)]
    exact and_and_and_comm.trans (and_congr_left' and_self_iff)
  | lst is ih =>
    have hcp : cpRanParamValType (.lst is) = .ok (.lst is) ↔ ∀ i ∈ is, cpLstRanParam i = .ok i := by
      rw [cpRanParamValType, cpLstRanParams_eq]
      simp only [Except.bind_eq_ok, Except.pure_eq, Except.ok.injEq, RanParamValType.lst.injEq, exists_eq_right,
        Except.mapM_eq_self]
    have hitem : ∀ i ∈ is, Kept cpLstRanParam eqLstRanParam i ↔ i.Usable := by
      intro i hi
      rw [Kept, cpLstRanParam_eq_self, eqLstRanParam, both_eq_true, same_eq_true, and_iff_right rfl,
        eqRanParamStruct_self, LstRanParam.Usable, forall_kept fun p hp => SeqRanParam.kept_of_val p (ih i hi p hp)]
      tauto
    rw [Kept, hcp, eqRanParamValType_lst, eqList_self, usable_lst, forall_kept hitem]

theorem SeqRanParam.kept (p : SeqRanParam RanParamValType) :
    Kept cpSeqRanParam eqSeqRanParam p ↔ p.Usable RanParamValType.Usable := p.kept_of_val p.ranParamVal.kept

/-! ### Tests -/

theorem eqRanParamTestCond_tells (a b : RanParamTestCond) : Tells (eqRanParamTestCond a b) (a = b) False := by
  cases a with
  | comparison a => cases b with
    | comparison b => exact (same_tells _).congr (by simp) Iff.rfl
    | presence b => exact false_tells.congr (by simp) Iff.rfl
  | presence a => cases b with
    | comparison b => exact false_tells.congr (by simp) Iff.rfl
    | presence b => exact (same_tells _).congr (by simp) Iff.rfl

/-- The members that are not implemented are not there. -/
def RanParamElmKeyFalse.Usable (e : RanParamElmKeyFalse) : Prop := e.value = none ∧ e.logicalOr = none

theorem eqRanParamElmKeyFalse_tells {a b : RanParamElmKeyFalse} (ha : a.Usable) (hb : b.Usable) :
    Tells (eqRanParamElmKeyFalse a b) (a = b) False := by
  obtain ⟨conda, valuea, ora⟩ := a
  obtain ⟨condb, valueb, orb⟩ := b
  obtain ⟨rfl, rfl⟩ := ha
  obtain ⟨rfl, rfl⟩ := hb
  exact ((eqRanParamTestCond_tells conda condb).andThen true_tells).congr (by simp) (by simp)

theorem RanParamElmKeyFalse.kept (e : RanParamElmKeyFalse) : Kept cpRanParamElmKeyFalse eqRanParamElmKeyFalse e ↔ e.Usable := by
  have hcond : cpRanParamTestCond e.testCond = e.testCond := by cases e.testCond <;> rfl
  constructor
  · rintro ⟨hcp, -⟩
    simp only [cpRanParamElmKeyFalse, Except.bind_eq_ok, require_eq_ok] at hcp
    obtain ⟨-, hvalue, -, hor, -⟩ := hcp
    exact ⟨hvalue, hor⟩
  · intro h
    refine ⟨?_, (eqRanParamElmKeyFalse_tells h h).true_iff.mpr rfl⟩
    obtain ⟨cond, value, or⟩ := e
    obtain ⟨rfl, rfl⟩ := h
    simp only [cpRanParamElmKeyFalse, hcond, require_true, Except.ok_bind, Except.pure_eq]

/-- The tests have identifiers, the lists and structures have members, of any depth, and the numbers are equal to
themselves. -/
inductive RanParamTest.Usable : RanParamTest → Prop
  | lst {id : UInt32} {ts : List RanParamTest} (hid : 0 < id) (hsize : oneTo 65535 ts.length)
      (hts : ∀ t ∈ ts, Usable t) : Usable ⟨id, .lst ts⟩
  | strct {id : UInt32} {ts : List RanParamTest} (hid : 0 < id) (hsize : oneTo 65535 ts.length)
      (hts : ∀ t ∈ ts, Usable t) : Usable ⟨id, .strct ts⟩
  | flagTrue {id : UInt32} {v : RanParameterValue} (hid : 0 < id) (hv : v.Usable) : Usable ⟨id, .flagTrue v⟩
  | flagFalse {id : UInt32} {e : RanParamElmKeyFalse} (hid : 0 < id) (he : e.Usable) : Usable ⟨id, .flagFalse e⟩

theorem RanParamTest.usable_lst {id : UInt32} {ts : List RanParamTest} :
    RanParamTest.Usable ⟨id, .lst ts⟩ ↔ 0 < id ∧ oneTo 65535 ts.length ∧ ∀ t ∈ ts, t.Usable := by
  constructor
  · intro h
    cases h with
    | lst hid hsize hts => exact ⟨hid, hsize, hts⟩
  · rintro ⟨hid, hsize, hts⟩
    exact .lst hid hsize hts

theorem RanParamTest.usable_strct {id : UInt32} {ts : List RanParamTest} :
    RanParamTest.Usable ⟨id, .strct ts⟩ ↔ 0 < id ∧ oneTo 65535 ts.length ∧ ∀ t ∈ ts, t.Usable := by
  constructor
  · intro h
    cases h with
    | strct hid hsize hts => exact ⟨hid, hsize, hts⟩
  · rintro ⟨hid, hsize, hts⟩
    exact .strct hid hsize hts

theorem RanParamTest.usable_flagTrue {id : UInt32} {v : RanParameterValue} :
    RanParamTest.Usable ⟨id, .flagTrue v⟩ ↔ 0 < id ∧ v.Usable := by
  constructor
  · intro h
    cases h with
    | flagTrue hid hv => exact ⟨hid, hv⟩
  · rintro ⟨hid, hv⟩
    exact .flagTrue hid hv

theorem RanParamTest.usable_flagFalse {id : UInt32} {e : RanParamElmKeyFalse} :
    RanParamTest.Usable ⟨id, .flagFalse e⟩ ↔ 0 < id ∧ e.Usable := by
  constructor
  · intro h
    cases h with
    | flagFalse hid he => exact ⟨hid, he⟩
  · rintro ⟨hid, he⟩
    exact .flagFalse hid he

mutual

/-- The test as its comparison sees it -/
def RanParamTest.compared : RanParamTest → RanParamTest
  | ⟨id, type⟩ =>
    match type with
    | .lst ts => ⟨id, .lst (comparedTests ts)⟩
    | .strct ts => ⟨id, .strct (comparedTests ts)⟩
    | .flagTrue v => ⟨id, .flagTrue v.compared⟩
    | .flagFalse e => ⟨id, .flagFalse e⟩

def comparedTests : List RanParamTest → List RanParamTest
  | [] => []
  | t :: ts => t.compared :: comparedTests ts

end

theorem comparedTests_eq (ts : List RanParamTest) : comparedTests ts = ts.map RanParamTest.compared := by
  induction ts with
  | nil => rfl
  | cons t ts ih => rw [comparedTests, ih, List.map_cons]

theorem cpRanParamTests_eq (ts : List RanParamTest) : cpRanParamTests ts = ts.mapM cpRanParamTest := by
  induction ts with
  | nil => rfl
  | cons t ts ih => rw [cpRanParamTests, ih, List.mapM_cons]

theorem eqRanParamTests_eq (ts us : List RanParamTest) : eqRanParamTests ts us = eqArray eqRanParamTest ts us := by
  induction ts generalizing us with
  | nil => rfl
  | cons t ts ih => cases us with
    | nil => rfl
    | cons u us => rw [eqRanParamTests, ih, eqArray]

/-- The loops in both kinds of sequences -/
theorem both_same_eqRanParamTests (ts us : List RanParamTest) :
    both (same (ts.length = us.length)) (eqRanParamTests ts us) = eqList eqRanParamTest ts us := by
  rw [eqRanParamTests_eq, eqList]

theorem eqRanParamTest_eq_true {t u : RanParamTest} (ht : t.Usable) (hu : u.Usable) :
    eqRanParamTest t u = .ok true ↔ t.compared = u.compared := by
  induction t using RanParamTest.induct generalizing u with
  | lst id ts ih =>
    obtain ⟨id', type'⟩ := u
    cases type' with
    | lst us =>
      have hts := ((RanParamTest.usable_lst).mp ht).2.2
      have hus := ((RanParamTest.usable_lst).mp hu).2.2
      rw [eqRanParamTest, both_same_eqRanParamTests, both_eq_true, same_eq_true, orAssert_eq_true,
        eqList_eq_true_map fun t hmem u hmem' => ih t hmem (hts t hmem) (hus u hmem')]
      simp [RanParamTest.compared, comparedTests_eq]
    | _ => simp [eqRanParamTest, RanParamTest.compared]
  | strct id ts ih =>
    obtain ⟨id', type'⟩ := u
    cases type' with
    | strct us =>
      have hts := ((RanParamTest.usable_strct).mp ht).2.2
      have hus := ((RanParamTest.usable_strct).mp hu).2.2
      rw [eqRanParamTest, both_same_eqRanParamTests, both_eq_true, same_eq_true, orAssert_eq_true,
        eqList_eq_true_map fun t hmem u hmem' => ih t hmem (hts t hmem) (hus u hmem')]
      simp [RanParamTest.compared, comparedTests_eq]
    | _ => simp [eqRanParamTest, RanParamTest.compared]
  | flagTrue id v =>
    obtain ⟨id', type'⟩ := u
    cases type' with
    | flagTrue w =>
      have hv := ((RanParamTest.usable_flagTrue).mp ht).2
      have hw := ((RanParamTest.usable_flagTrue).mp hu).2
      simp [eqRanParamTest, RanParamTest.compared, (eqRanParameterValue_tells hv hw).true_iff]
    | _ => simp [eqRanParamTest, RanParamTest.compared]
  | flagFalse id e =>
    obtain ⟨id', type'⟩ := u
    cases type' with
    | flagFalse e' =>
      have he := ((RanParamTest.usable_flagFalse).mp ht).2
      have he' := ((RanParamTest.usable_flagFalse).mp hu).2
      simp [eqRanParamTest, RanParamTest.compared, (eqRanParamElmKeyFalse_tells he he').true_iff]
    | _ => simp [eqRanParamTest, RanParamTest.compared]

/-- The tests have the same identifier, and are lists, structures or elements of one kind. -/
def RanParamTest.SameKind : RanParamTest → RanParamTest → Prop
  | ⟨id0, .lst _⟩, ⟨id1, .lst _⟩ => id0 = id1
  | ⟨id0, .strct _⟩, ⟨id1, .strct _⟩ => id0 = id1
  | ⟨id0, .flagTrue _⟩, ⟨id1, .flagTrue _⟩ => id0 = id1
  | ⟨id0, .flagFalse _⟩, ⟨id1, .flagFalse _⟩ => id0 = id1
  | _, _ => False

/-- Nothing but another identifier or another kind is answered with no. -/
theorem eqRanParamTest_eq_false (t u : RanParamTest) : eqRanParamTest t u = .ok false ↔ ¬t.SameKind u := by
  have hassert {x : Except String Bool} {id0 id1 : UInt32} :
      both (same (id0 = id1)) (orAssert "0!=0" x) = .ok false ↔ ¬id0 = id1 := by
    rw [both_eq_false, same_eq_false, or_iff_left fun h => orAssert_ne_false h.2]
  have hkinds {id0 id1 : UInt32} : both (same (id0 = id1)) (.ok false) = .ok false ↔ ¬False := by
    rw [both_eq_false, same_eq_false, same_eq_true]
    simp [em']
  obtain ⟨id0, type0⟩ := t
  obtain ⟨id1, type1⟩ := u
  cases type0 with
  | lst ts => cases type1 with
    | lst us => exact hassert
    | _ => exact hkinds
  | strct ts => cases type1 with
    | strct us => exact hassert
    | _ => exact hkinds
  | flagTrue v => cases type1 with
    | flagTrue w => exact hassert
    | _ => exact hkinds
  | flagFalse e => cases type1 with
    | flagFalse e' => exact hassert
    | _ => exact hkinds

theorem RanParamTest.kept (t : RanParamTest) : Kept cpRanParamTest eqRanParamTest t ↔ t.Usable := by
  induction t using RanParamTest.induct with
  | lst id ts ih =>
    rw [Kept, eqRanParamTest, both_same_eqRanParamTests, both_eq_true, orAssert_eq_true, eqList_self, same_eq_true,
      and_iff_right rfl, cpRanParamTest, cpRanParamTests_eq, usable_lst, forall_kept ih]
    simp only [Except.bind_eq_ok, require_eq_ok, Except.pure_eq, Except.ok.injEq, RanParamTest.mk.injEq,
      RanParamTestType.lst.injEq, true_and, exists_eq_right, exists_const, Except.mapM_eq_self, and_assoc]
  | strct id ts ih =>
    rw [Kept, eqRanParamTest, both_same_eqRanParamTests, both_eq_true, orAssert_eq_true, eqList_self, same_eq_true,
      and_iff_right rfl, cpRanParamTest, cpRanParamTests_eq, usable_strct, forall_kept ih]
    simp only [Except.bind_eq_ok, require_eq_ok, Except.pure_eq, Except.ok.injEq, RanParamTest.mk.injEq,
      RanParamTestType.strct.injEq, true_and, exists_eq_right, exists_const, Except.mapM_eq_self, and_assoc]
  | flagTrue id v =>
    rw [Kept, eqRanParamTest, both_eq_true, orAssert_eq_true, eqRanParameterValue_self, same_eq_true, and_iff_right rfl,
      cpRanParamTest, cpRanParameterValue_eq, usable_flagTrue]
    simp only [Except.bind_eq_ok, require_eq_ok, Except.pure_eq, and_true, exists_const]
  | flagFalse id e =>
    rw [Kept, eqRanParamTest, both_eq_true, orAssert_eq_true, same_eq_true, and_iff_right rfl, cpRanParamTest,
      usable_flagFalse, ← e.kept, Kept]
    simp only [Except.bind_eq_ok, require_eq_ok, Except.pure_eq, Except.ok.injEq, RanParamTest.mk.injEq,
      RanParamTestType.flagFalse.injEq, true_and, exists_eq_right, exists_const, and_assoc]

end FlexRic.Sm.Rc
