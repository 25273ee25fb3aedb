import Mathlib.Data.Set.Basic
import FlexRic.Ue.Eq

/-! # What the comparison of identities of a UE tells apart

A copy is the same identity. The comparison misses an optional member that only one of two identities has. -/

namespace FlexRic.Ue
open E2ap (E2apPlmn)

/-! ### Members that are compared as they should be -/

section Members

theorem eqNumber_tells {α : Type} [DecidableEq α] (a b : α) : Tells (eqNumber a b) (a = b) False := same_tells _

theorem eqE2smPlmn_tells (a b : E2apPlmn) : Tells (eqE2smPlmn a b) (a = b) False := by
  refine ((same_tells _).andThen ((same_tells _).andThen (same_tells _))).congr ?_ (by simp)
  cases a
  cases b
  simp

theorem eqGuami_tells (a b : Guami) : Tells (eqGuami a b) (a = b) False := by
  refine ((eqE2smPlmn_tells _ _).andThen ((same_tells _).andThen ((same_tells _).andThen (same_tells _)))).congr ?_
    (by simp)
  cases a
  cases b
  simp

theorem eqE2smGummei_tells (a b : Gummei) : Tells (eqE2smGummei a b) (a = b) False := by
  refine ((eqE2smPlmn_tells _ _).andThen ((same_tells _).andThen (same_tells _))).congr ?_ (by simp)
  cases a
  cases b
  simp

theorem eqGlobalEnbId_tells (a b : GlobalEnbId) : Tells (eqGlobalEnbId a b) (a = b) False := by
  refine ((eqE2smPlmn_tells _ _).andThen ((same_tells _).andThen (same_tells _))).congr ?_ (by simp)
  cases a
  cases b
  simp

theorem eqGlobalGnbId_tells (a b : GlobalGnbId) : Tells (eqGlobalGnbId a b) (a = b) False := by
  refine ((eqE2smPlmn_tells _ _).andThen ((same_tells _).andThen (same_tells _))).congr ?_ (by simp)
  cases a
  cases b
  simp

theorem eqGlobalNgEnbId_tells (a b : GlobalNgEnbId) : Tells (eqGlobalNgEnbId a b) (a = b) False := by
  refine ((eqE2smPlmn_tells _ _).andThen ((same_tells _).andThen (same_tells _))).congr ?_ (by simp)
  cases a
  cases b
  simp

theorem eqGlobalNgRanNodeId_tells (a b : GlobalNgRanNodeId) : Tells (eqGlobalNgRanNodeId a b) (a = b) False := by
  cases a with
  | gnb a =>
    cases b with
    | gnb b => exact (eqGlobalGnbId_tells a b).congr (by simp) Iff.rfl
    | ngEnb b => exact false_tells.congr (by simp) Iff.rfl
  | ngEnb a =>
    cases b with
    | gnb b => exact false_tells.congr (by simp) Iff.rfl
    | ngEnb b => exact (eqGlobalNgEnbId_tells a b).congr (by simp) Iff.rfl

end Members

/-! ### Members that are compared when both are there -/

/-- Two optional members that do not differ when both are there. -/
def AlikeWhenBoth {α : Type} (o p : Option α) : Prop := ∀ a ∈ o, ∀ b ∈ p, a = b

theorem AlikeWhenBoth.rfl {α : Type} {o : Option α} : AlikeWhenBoth o o := by
  intro a ha b hb
  exact Option.some.inj (ha.symm.trans hb)

theorem eqWhenBoth_eq_tells {α : Type} {eq : α → α → Except String Bool} (h : ∀ a b, Tells (eq a b) (a = b) False)
    (o p : Option α) : Tells (eqWhenBoth eq o p) (AlikeWhenBoth o p) False :=
  (eqWhenBoth_tells h o p).congr Iff.rfl (by simp)

/-! ### The kinds of identities -/

section Kinds

/-- Nothing that is compared differs; the node that is compared to itself does not count. -/
def Gnb.Alike (m0 m1 : Gnb) : Prop :=
  m0.amfUeNgapId = m1.amfUeNgapId ∧ m0.guami = m1.guami ∧ m0.gnbCuUeF1apLst = m1.gnbCuUeF1apLst ∧
    m0.gnbCuCpUeE1apLst = m1.gnbCuCpUeE1apLst ∧ AlikeWhenBoth m0.ranUeId m1.ranUeId ∧
      AlikeWhenBoth m0.ngRanNodeUeXnapId m1.ngRanNodeUeXnapId ∧ AlikeWhenBoth m0.globalGnbId m1.globalGnbId

def GnbCuUp.Alike (m0 m1 : GnbCuUp) : Prop :=
  m0.gnbCuCpUeE1ap = m1.gnbCuCpUeE1ap ∧ AlikeWhenBoth m0.ranUeId m1.ranUeId

def NgEnb.Alike (m0 m1 : NgEnb) : Prop :=
  m0.amfUeNgapId = m1.amfUeNgapId ∧ m0.guami = m1.guami ∧ AlikeWhenBoth m0.ngEnbCuUeW1apId m1.ngEnbCuUeW1apId ∧
    AlikeWhenBoth m0.ngRanNodeUeXnapId m1.ngRanNodeUeXnapId ∧ AlikeWhenBoth m0.globalNgEnbId m1.globalNgEnbId ∧
      AlikeWhenBoth m0.globalNgRanNodeId m1.globalNgRanNodeId

def EnGnb.Alike (m0 m1 : EnGnb) : Prop :=
  m0.enbUeX2apId = m1.enbUeX2apId ∧ AlikeWhenBoth m0.enbUeX2apIdExtension m1.enbUeX2apIdExtension ∧
    m0.globalEnbId = m1.globalEnbId ∧ AlikeWhenBoth m0.gnbCuUeF1apLst m1.gnbCuUeF1apLst ∧
      m0.gnbCuCpUeE1apLst = m1.gnbCuCpUeE1apLst ∧ AlikeWhenBoth m0.ranUeId m1.ranUeId

/-- Nothing differs that is compared before the identity of the node. -/
def Enb.Alike (m0 m1 : Enb) : Prop :=
  m0.mmeUeS1apId = m1.mmeUeS1apId ∧ m0.gummei = m1.gummei ∧ AlikeWhenBoth m0.enbUeX2apId m1.enbUeX2apId ∧
    AlikeWhenBoth m0.enbUeX2apIdExtension m1.enbUeX2apIdExtension

theorem eqGnbUeIdE2sm_tells (a b : Gnb) : Tells (eqGnbUeIdE2sm a b) (a.Alike b) False := by
  have hself : Tells (eqWhenBoth (fun m0 _ => eqGlobalNgRanNodeId m0 m0) a.globalNgRanNodeId b.globalNgRanNodeId)
      (∀ m0 ∈ a.globalNgRanNodeId, ∀ m1 ∈ b.globalNgRanNodeId, True)
      (∃ m0 ∈ a.globalNgRanNodeId, ∃ m1 ∈ b.globalNgRanNodeId, False) :=
    eqWhenBoth_tells (fun m0 _ => (eqGlobalNgRanNodeId_tells m0 m0).congr (by simp) Iff.rfl) _ _
  refine ((same_tells _).andThen ((eqGuami_tells _ _).andThen ((eqList_tells eqNumber_tells _ _).andThen
    ((eqList_tells eqNumber_tells _ _).andThen ((eqWhenBoth_eq_tells eqNumber_tells _ _).andThen
      ((eqWhenBoth_eq_tells eqNumber_tells _ _).andThen
        ((eqWhenBoth_eq_tells eqGlobalGnbId_tells _ _).andThen hself))))))).congr ?_ (by simp)
  simp [Gnb.Alike]

theorem eqGnbCuUpUeIdE2sm_tells (a b : GnbCuUp) : Tells (eqGnbCuUpUeIdE2sm a b) (a.Alike b) False :=
  ((same_tells _).andThen (eqWhenBoth_eq_tells eqNumber_tells _ _)).congr Iff.rfl (by simp)

theorem eqNgEnbUeIdE2sm_tells (a b : NgEnb) : Tells (eqNgEnbUeIdE2sm a b) (a.Alike b) False :=
  ((same_tells _).andThen ((eqGuami_tells _ _).andThen ((eqWhenBoth_eq_tells eqNumber_tells _ _).andThen
    ((eqWhenBoth_eq_tells eqNumber_tells _ _).andThen ((eqWhenBoth_eq_tells eqGlobalNgEnbId_tells _ _).andThen
      (eqWhenBoth_eq_tells eqGlobalNgRanNodeId_tells _ _)))))).congr Iff.rfl (by simp)

theorem eqEnGnbUeIdE2sm_tells (a b : EnGnb) : Tells (eqEnGnbUeIdE2sm a b) (a.Alike b) False :=
  ((same_tells _).andThen ((eqWhenBoth_eq_tells eqNumber_tells _ _).andThen ((eqGlobalEnbId_tells _ _).andThen
    ((eqWhenBoth_eq_tells eqNumber_tells _ _).andThen ((eqList_tells eqNumber_tells _ _).andThen
      (eqWhenBoth_eq_tells eqNumber_tells _ _)))))).congr Iff.rfl (by simp)

theorem eqGnbDuUeIdE2sm_tells (a b : GnbDu) :
    Tells (eqGnbDuUeIdE2sm a b) (a = b ∧ a.ranUeId ≠ none) (a.gnbCuUeF1ap = b.gnbCuUeF1ap ∧ (a.ranUeId = none ∨ b.ranUeId = none)) := by
  obtain ⟨f1ap, ran⟩ := a
  obtain ⟨f1ap', ran'⟩ := b
  rcases ran with _ | ran
  · exact ((same_tells _).andThen (error_tells _)).congr (by simp) (by simp)
  · rcases ran' with _ | ran'
    · exact ((same_tells _).andThen (error_tells _)).congr (by simp) (by simp)
    · exact ((same_tells _).andThen (eqNumber_tells ran ran')).congr (by simp) (by simp)

theorem eqEnbUeIdE2sm_tells (a b : Enb) :
    Tells (eqEnbUeIdE2sm a b) (a.Alike b ∧ a.globalEnbId ≠ none ∧ a.globalEnbId = b.globalEnbId)
      (a.Alike b ∧ (a.globalEnbId = none ∨ b.globalEnbId = none)) := by
  -- The last comparison is made when nothing else differs.
  have hlast {t : Except String Bool} {A F : Prop} (ht : Tells t A F) :
      Tells (both (same (a.mmeUeS1apId = b.mmeUeS1apId)) <| both (eqE2smGummei a.gummei b.gummei) <|
        both (eqWhenBoth eqNumber a.enbUeX2apId b.enbUeX2apId) <|
          both (eqWhenBoth eqNumber a.enbUeX2apIdExtension b.enbUeX2apIdExtension) t) (a.Alike b ∧ A) (a.Alike b ∧ F) :=
    ((same_tells _).andThen ((eqE2smGummei_tells _ _).andThen ((eqWhenBoth_eq_tells eqNumber_tells _ _).andThen
      ((eqWhenBoth_eq_tells eqNumber_tells _ _).andThen ht)))).congr (by simp [Enb.Alike, and_assoc])
        (by simp [Enb.Alike, and_assoc])
  rw [eqEnbUeIdE2sm]
  rcases ha : a.globalEnbId with _ | idA
  · exact (hlast (error_tells _)).congr (by simp) (by simp)
  · rcases hb : b.globalEnbId with _ | idB
    · exact (hlast (error_tells _)).congr (by simp) (by simp)
    · exact (hlast (eqGlobalEnbId_tells idA idB)).congr (by simp) (by simp)

end Kinds

/-! ### Identities -/

/-- The comparison finds no difference. -/
def UeId.Alike : UeId → UeId → Prop
  | .gnb a, .gnb b => a.Alike b
  | .gnbDu a, .gnbDu b => a = b ∧ a.ranUeId ≠ none
  | .gnbCuUp a, .gnbCuUp b => a.Alike b
  | .ngEnb a, .ngEnb b => a.Alike b
  | .ngEnbDu a, .ngEnbDu b => a = b
  | .enGnb a, .enGnb b => a.Alike b
  | .enb a, .enb b => a.Alike b ∧ a.globalEnbId ≠ none ∧ a.globalEnbId = b.globalEnbId
  | _, _ => False

/-- The comparison comes to a member that must not be missing, and is. -/
def UeId.Fails : UeId → UeId → Prop
  | .gnbDu a, .gnbDu b => a.gnbCuUeF1ap = b.gnbCuUeF1ap ∧ (a.ranUeId = none ∨ b.ranUeId = none)
  | .enb a, .enb b => a.Alike b ∧ (a.globalEnbId = none ∨ b.globalEnbId = none)
  | _, _ => False

theorem eqUeIdE2sm_tells (a b : UeId) : Tells (eqUeIdE2sm a b) (a.Alike b) (a.Fails b) := by
  cases a with
  | gnb a => cases b with
    | gnb b => exact eqGnbUeIdE2sm_tells a b
    | _ => exact false_tells
  | gnbDu a => cases b with
    | gnbDu b => exact eqGnbDuUeIdE2sm_tells a b
    | _ => exact false_tells
  | gnbCuUp a => cases b with
    | gnbCuUp b => exact eqGnbCuUpUeIdE2sm_tells a b
    | _ => exact false_tells
  | ngEnb a => cases b with
    | ngEnb b => exact eqNgEnbUeIdE2sm_tells a b
    | _ => exact false_tells
  | ngEnbDu a => cases b with
    | ngEnbDu b =>
      refine (same_tells _).congr ?_ Iff.rfl
      cases a
      cases b
      simp [UeId.Alike]
    | _ => exact false_tells
  | enGnb a => cases b with
    | enGnb b => exact eqEnGnbUeIdE2sm_tells a b
    | _ => exact false_tells
  | enb a => cases b with
    | enb b => exact eqEnbUeIdE2sm_tells a b
    | _ => exact false_tells

/-- Two identities that differ in anything differ in something that is compared. Where the kind has a member that must
not be missing, it is not, or is not come to. -/
def UeId.Told : UeId → UeId → Prop
  | .gnb a, .gnb b => a.Alike b → a = b
  | .gnbDu a, .gnbDu b => a.gnbCuUeF1ap = b.gnbCuUeF1ap → a.ranUeId ≠ none ∧ b.ranUeId ≠ none
  | .gnbCuUp a, .gnbCuUp b => a.Alike b → a = b
  | .ngEnb a, .ngEnb b => a.Alike b → a = b
  | .enGnb a, .enGnb b => a.Alike b → a = b
  | .enb a, .enb b =>
    a.Alike b → a.globalEnbId ≠ none ∧ b.globalEnbId ≠ none ∧ (a.globalEnbId = b.globalEnbId → a = b)
  | _, _ => True

section UeId

theorem Gnb.Alike.refl (a : Gnb) : a.Alike a := ⟨rfl, rfl, rfl, rfl, .rfl, .rfl, .rfl⟩

theorem GnbCuUp.Alike.refl (a : GnbCuUp) : a.Alike a := ⟨rfl, .rfl⟩

theorem NgEnb.Alike.refl (a : NgEnb) : a.Alike a := ⟨rfl, rfl, .rfl, .rfl, .rfl, .rfl⟩

theorem EnGnb.Alike.refl (a : EnGnb) : a.Alike a := ⟨rfl, .rfl, rfl, .rfl, rfl, .rfl⟩

theorem Enb.Alike.refl (a : Enb) : a.Alike a := ⟨rfl, rfl, .rfl, .rfl⟩

/-- No member is missing that must not be. -/
def UeId.Complete : UeId → Prop
  | .gnbDu id => id.ranUeId ≠ none
  | .enb id => id.globalEnbId ≠ none
  | _ => True

theorem UeId.alike_self (a : UeId) : a.Alike a ↔ a.Complete := by
  cases a with
  | gnb a => exact iff_of_true (.refl a) trivial
  | gnbDu a => exact and_iff_right rfl
  | gnbCuUp a => exact iff_of_true (.refl a) trivial
  | ngEnb a => exact iff_of_true (.refl a) trivial
  | ngEnbDu a => exact iff_of_true rfl trivial
  | enGnb a => exact iff_of_true (.refl a) trivial
  | enb a => exact (and_iff_right (.refl a)).trans (and_iff_left rfl)

theorem UeId.fails_self (a : UeId) : a.Fails a ↔ ¬a.Complete := by
  cases a with
  | gnbDu a => simp [UeId.Fails, UeId.Complete]
  | enb a => simp [UeId.Fails, UeId.Complete, Enb.Alike.refl]
  | _ => exact iff_of_false id (not_not_intro trivial)

theorem eqGnbDuUeIdE2sm_says_iff (a b : GnbDu) :
    Says (eqGnbDuUeIdE2sm a b) (a = b) ↔ (a.gnbCuUeF1ap = b.gnbCuUeF1ap → a.ranUeId ≠ none ∧ b.ranUeId ≠ none) := by
  rw [(eqGnbDuUeIdE2sm_tells a b).says_iff, not_and, not_or]
  refine and_iff_left_of_imp fun h => and_iff_left_of_imp fun hab => (h (congrArg _ hab)).1

theorem eqEnbUeIdE2sm_says_iff (a b : Enb) :
    Says (eqEnbUeIdE2sm a b) (a = b) ↔
      (a.Alike b → a.globalEnbId ≠ none ∧ b.globalEnbId ≠ none ∧ (a.globalEnbId = b.globalEnbId → a = b)) := by
  rw [(eqEnbUeIdE2sm_tells a b).says_iff, not_and, not_or]
  constructor
  · rintro ⟨hthere, htells⟩ halike
    obtain ⟨ha, hb⟩ := hthere halike
    exact ⟨ha, hb, fun hid => htells.mp ⟨halike, ha, hid⟩⟩
  · intro h
    refine ⟨fun halike => ⟨(h halike).1, (h halike).2.1⟩, fun ⟨halike, _, hid⟩ => (h halike).2.2 hid, ?_⟩
    rintro rfl
    exact ⟨.refl a, (h (.refl a)).1, rfl⟩

theorem eqUeIdE2sm_says_iff (a b : UeId) : Says (eqUeIdE2sm a b) (a = b) ↔ a.Told b := by
  have hkinds {p : Prop} (hp : ¬p) : Says (.ok false) p ↔ True := by
    rw [false_tells.says_iff]
    exact iff_of_true ⟨id, iff_of_false id hp⟩ trivial
  cases a with
  | gnb a =>
    cases b with
    | gnb b =>
      rw [UeId.gnb.injEq]
      exact says_eq_iff (eqGnbUeIdE2sm_tells a b) fun h => h ▸ .refl a
    | _ => exact hkinds (by simp)
  | gnbDu a =>
    cases b with
    | gnbDu b =>
      rw [UeId.gnbDu.injEq]
      exact eqGnbDuUeIdE2sm_says_iff a b
    | _ => exact hkinds (by simp)
  | gnbCuUp a =>
    cases b with
    | gnbCuUp b =>
      rw [UeId.gnbCuUp.injEq]
      exact says_eq_iff (eqGnbCuUpUeIdE2sm_tells a b) fun h => h ▸ .refl a
    | _ => exact hkinds (by simp)
  | ngEnb a =>
    cases b with
    | ngEnb b =>
      rw [UeId.ngEnb.injEq]
      exact says_eq_iff (eqNgEnbUeIdE2sm_tells a b) fun h => h ▸ .refl a
    | _ => exact hkinds (by simp)
  | ngEnbDu a =>
    cases b with
    | ngEnbDu b =>
      rw [UeId.ngEnbDu.injEq]
      obtain ⟨idA⟩ := a
      obtain ⟨idB⟩ := b
      refine iff_of_true ⟨decide (idA = idB), rfl, ?_⟩ trivial
      simp
    | _ => exact hkinds (by simp)
  | enGnb a =>
    cases b with
    | enGnb b =>
      rw [UeId.enGnb.injEq]
      exact says_eq_iff (eqEnGnbUeIdE2sm_tells a b) fun h => h ▸ .refl a
    | _ => exact hkinds (by simp)
  | enb a =>
    cases b with
    | enb b =>
      rw [UeId.enb.injEq]
      exact eqEnbUeIdE2sm_says_iff a b
    | _ => exact hkinds (by simp)

theorem cpUeIdE2sm_eq (a : UeId) : cpUeIdE2sm a = a := by
  have hgnb : cpGlobalGnbId = id := rfl
  have hngEnb : cpGlobalNgEnbId = id := rfl
  have henb : cpGlobalEnbUeIdE2sm = id := rfl
  have hnode : cpGlobalNgRanNodeId = id := by
    funext node
    cases node <;> rfl
  cases a <;>
    simp only [cpUeIdE2sm, cpGnbUeIdE2sm, cpNgEnbUeIdE2sm, cpEnbUeIdE2sm, hgnb, hngEnb, henb, hnode, Option.map_id, id] <;>
    rfl

/-- **Copies of identities of a UE are equal to them, and a comparison is right if and only if the two are told
apart**; among identities of which any two are, it is an equivalence. -/
theorem eqUeIdE2sm_cpUeIdE2sm (a b : UeId) (s : Set UeId) :
    cpUeIdE2sm a = a ∧ (Says (eqUeIdE2sm a b) (a = b) ↔ a.Told b) ∧
      ((∀ v ∈ s, ∀ w ∈ s, v.Told w) → Equivalence fun v w : s => eqUeIdE2sm v w = .ok true) := by
  refine ⟨cpUeIdE2sm_eq a, eqUeIdE2sm_says_iff a b, fun h => ?_⟩
  have heq (v w : s) : eqUeIdE2sm v w = .ok true ↔ v = w := by
    obtain ⟨answer, hanswer, hiff⟩ := (eqUeIdE2sm_says_iff v w).mpr (h v v.2 w w.2)
    rw [hanswer, Except.ok.injEq, hiff, Subtype.ext_iff]
  simp only [heq]
  exact eq_equivalence

/-- A UE of a gNB-CU-UP is taken for one without a RAN identity. -/
theorem eqUeIdE2sm_not_right : ¬∀ a b : UeId, Says (eqUeIdE2sm a b) (a = b) := by
  intro h
  obtain ⟨answer, hanswer, hiff⟩ := h (.gnbCuUp ⟨1, some 7⟩) (.gnbCuUp ⟨1, none⟩)
  have htrue : eqUeIdE2sm (.gnbCuUp ⟨1, some 7⟩) (.gnbCuUp ⟨1, none⟩) = .ok true := rfl
  obtain rfl := Except.ok.inj (hanswer.symm.trans htrue)
  exact absurd (hiff.mp rfl) (by decide)

end UeId

end FlexRic.Ue
