import FlexRic.E2ap.MessageEq
import FlexRic.Theorems.Comparators

/-! # What the comparisons of messages tell apart

The comparison of subscription requests is right unless it reads a time to wait that is not there. The one of setup
responses looks at the first acknowledgement only. -/

namespace FlexRic.E2ap
open Util

/-! ### Subscription requests -/

/-- A time to wait is there, and none to compare it to. -/
def TimeMissing (o p : Option Nat) : Prop := o ≠ none ∧ p = none

theorem eqTimeToWait_tells (o p : Option Nat) : Tells (eqTimeToWait o p) (o = p) (TimeMissing o p) := by
  cases o with
  | none =>
    cases p with
    | none => exact true_tells.congr (by simp) (by simp [TimeMissing])
    | some b => exact false_tells.congr (by simp) (by simp [TimeMissing])
  | some a =>
    cases p with
    | none => exact (error_tells _).congr (by simp) (by simp [TimeMissing])
    | some b => exact (same_tells _).congr (by simp) (by simp [TimeMissing])

/-- The subsequent actions are alike up to the times to wait, and the one of the second action is missing. -/
def RicSubsequentAction.ReadsNull (m0 m1 : RicSubsequentAction) : Prop :=
  m0.type = m1.type ∧ TimeMissing m0.timeToWaitMs m1.timeToWaitMs

theorem eqRicSubsequentAction_tells (a b : RicSubsequentAction) :
    Tells (eqRicSubsequentAction a b) (a = b) (a.ReadsNull b) := by
  refine ((same_tells _).andThen (eqTimeToWait_tells _ _)).congr ?_ Iff.rfl
  cases a
  cases b
  simp

/-- The actions are alike up to the times to wait of their subsequent actions. -/
def RicAction.ReadsNull (m0 m1 : RicAction) : Prop :=
  m0.id = m1.id ∧ m0.type = m1.type ∧ m0.definition = m1.definition ∧
    ∃ s0 ∈ m0.subseqAction, ∃ s1 ∈ m1.subseqAction, s0.ReadsNull s1

theorem eqRicAction_tells (a b : RicAction) : Tells (eqRicAction a b) (a = b) (a.ReadsNull b) := by
  have hdef : Tells (eqPresent eqByteArray a.definition b.definition) (a.definition = b.definition) False :=
    (eqPresent_tells eqByteArray_tells _ _).congr Iff.rfl (by simp)
  refine ((same_tells _).andThen ((same_tells _).andThen
    (hdef.andThen (eqPresent_tells eqRicSubsequentAction_tells _ _)))).congr ?_ Iff.rfl
  cases a
  cases b
  simp

/-- The loop over the actions comes to two that are alike but for a time to wait that only the first one has. -/
def RicSubscriptionRequest.ReadsNull (m0 m1 : RicSubscriptionRequest) : Prop :=
  m0.ricId = m1.ricId ∧ m0.eventTrigger = m1.eventTrigger ∧ m0.action.length = m1.action.length ∧
    FailsIn (· = ·) RicAction.ReadsNull m0.action m1.action

theorem eqRicSubscriptionRequest_tells (a b : RicSubscriptionRequest) :
    Tells (eqRicSubscriptionRequest a b) (a = b) (a.ReadsNull b) := by
  have hactions : Tells (eqList eqRicAction a.action b.action) (a.action = b.action)
      (a.action.length = b.action.length ∧ FailsIn (· = ·) RicAction.ReadsNull a.action b.action) := by
    refine ((same_tells _).andThen (eqArray_tells eqRicAction_tells _ _)).congr ?_ Iff.rfl
    constructor
    · rintro ⟨hlen, h⟩
      exact (alikeIn_of_length hlen).mp h
    · intro h
      have hlen := congrArg List.length h
      exact ⟨hlen, (alikeIn_of_length hlen).mpr h⟩
  refine ((ok_tells eqRicGenId_iff).andThen ((eqByteArray_tells _ _).andThen hactions)).congr ?_ Iff.rfl
  cases a
  cases b
  simp

/-! ### Setup responses -/

section SetupResponse
variable {Xn X2 : Type}

/-- An assertion about one of the identifiers fails: about its type, or about the number when both are of DUs. -/
def NodeCompIdOf.Fails (m0 m1 : NodeCompIdOf Xn X2) : Prop :=
  m0.supported = false ∨ m1.supported = false ∨
    ∃ id0 id1, m0 = f1 id0 ∧ m1 = f1 id1 ∧ ¬(id0.toNat < 2 ^ 36 ∧ id1.toNat < 2 ^ 36)

theorem eqNodeCompIdUnion_f1 (id0 id1 : UInt64) :
    Tells (eqNodeCompIdUnion (.f1 id0 : NodeCompIdOf Xn X2) (.f1 id1))
      (id0 = id1 ∧ id0.toNat < 2 ^ 36 ∧ id1.toNat < 2 ^ 36) (¬(id0.toNat < 2 ^ 36 ∧ id1.toNat < 2 ^ 36)) :=
  (same_tells _).guarded.guarded.congr (by rw [and_comm (a := id0 = id1), and_assoc]) (by rw [or_false, not_and_or])

theorem eqNodeCompId_tells (a b : NodeCompIdOf Xn X2) : Tells (eqNodeCompId a b) (a = b ∧ ¬a.Fails b) (a.Fails b) := by
  cases a with
  | ng m0 =>
    cases b with
    | ng m1 =>
      exact (eqByteArray_tells m0 m1).guarded.guarded.congr (by simp [NodeCompIdOf.Fails, NodeCompIdOf.supported])
        (by simp [NodeCompIdOf.Fails, NodeCompIdOf.supported])
    | _ =>
      exact false_tells.guarded.guarded.congr (by simp) (by simp [NodeCompIdOf.Fails, NodeCompIdOf.supported])
  | f1 m0 =>
    cases b with
    | f1 m1 =>
      exact (eqNodeCompIdUnion_f1 m0 m1).guarded.guarded.congr (by simp [NodeCompIdOf.Fails, NodeCompIdOf.supported])
        (by simp [NodeCompIdOf.Fails, NodeCompIdOf.supported])
    | _ =>
      exact false_tells.guarded.guarded.congr (by simp) (by simp [NodeCompIdOf.Fails, NodeCompIdOf.supported])
  | _ =>
    exact false_tells.guarded.guarded.congr (by simp [NodeCompIdOf.Fails, NodeCompIdOf.supported])
      (by simp [NodeCompIdOf.Fails, NodeCompIdOf.supported])

/-- One of two outcomes that are the same has a cause. -/
def NodeCompConfAck.Fails (m0 m1 : NodeCompConfAck) : Prop := m0.outcome = m1.outcome ∧ ¬(m0.cause = none ∧ m1.cause = none)

theorem eqNodeCompConfAck_tells (a b : NodeCompConfAck) :
    Tells (eqNodeCompConfAck a b) (a = b ∧ ¬a.Fails b) (a.Fails b) := by
  obtain ⟨o0, c0⟩ := a
  obtain ⟨o1, c1⟩ := b
  have hcauses : Tells (do require (c0 = none) "Not implemented"; require (c1 = none) "Not implemented"; return true)
      (c0 = none ∧ c1 = none) (¬(c0 = none ∧ c1 = none)) := by
    cases c0 with
    | none =>
      cases c1 with
      | none => exact true_tells.congr (by simp) (by simp)
      | some c => exact (error_tells _).congr (by simp) (by simp)
    | some c => exact (error_tells _).congr (by simp) (by simp)
  refine ((same_tells _).andThen hcauses).congr ?_ Iff.rfl
  simp only [NodeCompConfAck.Fails, NodeCompConfAck.mk.injEq]
  constructor
  · rintro ⟨rfl, rfl, rfl⟩
    exact ⟨⟨rfl, rfl⟩, fun h => h.2 ⟨rfl, rfl⟩⟩
  · rintro ⟨⟨rfl, rfl⟩, h⟩
    exact ⟨rfl, not_not.mp fun hne => h ⟨rfl, hne⟩⟩

/-- The types of the interface are the same, and an assertion about the identifiers fails, or, when these are the same,
about the causes. -/
def NodeCompConfigAddAckOf.Fails (m0 m1 : NodeCompConfigAddAckOf Xn X2) : Prop :=
  m0.e2NodeCompInterfaceType = m1.e2NodeCompInterfaceType ∧
    (m0.e2NodeCompId.Fails m1.e2NodeCompId ∨
      m0.e2NodeCompId = m1.e2NodeCompId ∧ m0.e2NodeCompConfAck.Fails m1.e2NodeCompConfAck)

theorem eqNodeCompConfigAddAck_tells (a b : NodeCompConfigAddAckOf Xn X2) :
    Tells (eqNodeCompConfigAddAck a b) (a = b ∧ ¬a.Fails b) (a.Fails b) := by
  refine ((same_tells _).andThen ((eqNodeCompId_tells _ _).both (eqNodeCompConfAck_tells _ _))).congr ?_ ?_
  · cases a
    cases b
    simp only [NodeCompConfigAddAckOf.Fails, NodeCompConfigAddAckOf.mk.injEq]
    grind
  · simp only [NodeCompConfigAddAckOf.Fails]
    grind

theorem eqRejectedRanFunction_tells (a b : RejectedRanFunction) : Tells (eqRejectedRanFunction a b) (a = b) False := by
  refine ((same_tells _).andThen (same_tells _)).congr ?_ (by simp)
  cases a
  cases b
  simp

theorem eqGlobalRicId_tells (a b : GlobalRicId) : Tells (eqGlobalRicId a b) (a = b) False := by
  refine ((ok_tells eqE2apPlmn_iff).andThen (same_tells _)).congr ?_ (by simp)
  cases a
  cases b
  simp

/-- Every turn of the loop gives the answer of the first one. -/
theorem eqFirsts_cons {α : Type} (eq : α → α → Except String Bool) (a b : α) (as bs : List α) (n : Nat) :
    eqFirsts eq (a :: as) (b :: bs) (n + 1) = eq a b := by
  induction n with
  | zero =>
    rw [eqFirsts, eqFirsts, eqFirst]
    rcases eq a b with msg | _ | _ <;> rfl
  | succ n ih =>
    rw [eqFirsts, ih, eqFirst]
    rcases eq a b with msg | _ | _ <;> rfl

/-- What a comparison of the first elements finds about them. -/
def OfFirst {α : Type} (P : α → α → Prop) (empty : Prop) : List α → List α → Prop
  | a :: _, b :: _ => P a b
  | _, _ => empty

theorem eqFirsts_tells {α : Type} {eq : α → α → Except String Bool} {Alike Fails : α → α → Prop}
    (h : ∀ a b, Tells (eq a b) (Alike a b) (Fails a b)) {as bs : List α} (hlen : as.length = bs.length) :
    Tells (eqFirsts eq as bs as.length) (OfFirst Alike True as bs) (OfFirst Fails False as bs) := by
  cases as with
  | nil => exact true_tells
  | cons a as =>
    cases bs with
    | nil => cases hlen
    | cons b bs =>
      rw [List.length_cons, eqFirsts_cons]
      exact h a b

/-- The first acknowledgements pass the assertions, and when they are the same, so are all others. -/
def AcksTold : List (NodeCompConfigAddAckOf Xn X2) → List (NodeCompConfigAddAckOf Xn X2) → Prop
  | a :: as, b :: bs => ¬a.Fails b ∧ (a = b → as = bs)
  | _, _ => True

/-- Nothing differs up to the acknowledgements, and there are as many of them. -/
def E2SetupResponseOf.AlikeBefore (m0 m1 : E2SetupResponseOf Xn X2) : Prop :=
  m0.transId = m1.transId ∧ m0.id = m1.id ∧ m0.accepted = m1.accepted ∧ m0.rejected = m1.rejected ∧
    m0.compConfigAddAck.length = m1.compConfigAddAck.length

theorem eqE2SetupResponse_tells (m0 m1 : E2SetupResponseOf Xn X2) : Tells (eqE2SetupResponse m0 m1)
    (m0.AlikeBefore m1 ∧ OfFirst (fun a b => a = b ∧ ¬a.Fails b) True m0.compConfigAddAck m1.compConfigAddAck)
    (m0.AlikeBefore m1 ∧ OfFirst NodeCompConfigAddAckOf.Fails False m0.compConfigAddAck m1.compConfigAddAck) := by
  have hacks := (same_tells (m0.compConfigAddAck.length = m1.compConfigAddAck.length)).andThen_of
    (eqFirsts_tells eqNodeCompConfigAddAck_tells)
  refine ((same_tells _).andThen ((eqGlobalRicId_tells _ _).andThen ((eqList_tells (fun _ _ => same_tells _) _ _).andThen
    ((eqList_tells eqRejectedRanFunction_tells _ _).andThen hacks)))).congr ?_ ?_
  · simp only [E2SetupResponseOf.AlikeBefore, and_assoc]
  · simp only [E2SetupResponseOf.AlikeBefore, and_assoc]

theorem eqE2SetupResponse_says_iff (m0 m1 : E2SetupResponseOf Xn X2) : Says (eqE2SetupResponse m0 m1) (m0 = m1) ↔
    (m0.AlikeBefore m1 → AcksTold m0.compConfigAddAck m1.compConfigAddAck) := by
  rw [(eqE2SetupResponse_tells m0 m1).says_iff]
  obtain ⟨t0, id0, acc0, rej0, acks0⟩ := m0
  obtain ⟨t1, id1, acc1, rej1, acks1⟩ := m1
  have heq : (⟨t0, id0, acc0, rej0, acks0⟩ : E2SetupResponseOf Xn X2) = ⟨t1, id1, acc1, rej1, acks1⟩ ↔
      E2SetupResponseOf.AlikeBefore ⟨t0, id0, acc0, rej0, acks0⟩ ⟨t1, id1, acc1, rej1, acks1⟩ ∧ acks0 = acks1 := by
    simp only [E2SetupResponseOf.mk.injEq, E2SetupResponseOf.AlikeBefore]
    constructor
    · rintro ⟨rfl, rfl, rfl, rfl, rfl⟩
      exact ⟨⟨rfl, rfl, rfl, rfl, rfl⟩, rfl⟩
    · rintro ⟨⟨ht, hid, hacc, hrej, -⟩, hacks⟩
      exact ⟨ht, hid, hacc, hrej, hacks⟩
  rw [heq]
  by_cases hbefore : E2SetupResponseOf.AlikeBefore ⟨t0, id0, acc0, rej0, acks0⟩ ⟨t1, id1, acc1, rej1, acks1⟩
  · have hlen : acks0.length = acks1.length := hbefore.2.2.2.2
    simp only [hbefore, true_and, forall_const]
    cases acks0 with
    | nil =>
      obtain rfl := List.length_eq_zero_iff.mp hlen.symm
      simp [OfFirst, AcksTold]
    | cons a as =>
      cases acks1 with
      | nil => cases hlen
      | cons b bs =>
        simp only [OfFirst, AcksTold, List.cons.injEq]
        refine and_congr_right fun hok => ?_
        simp only [hok, not_false_eq_true, and_true]
        exact ⟨fun h hab => (h.mp hab).2, fun h => ⟨fun hab => ⟨hab, h hab⟩, And.left⟩⟩
  · simp [hbefore]

/-- The subscription requests and the setup responses whose comparison answers, and with yes if and only if they are the
same. -/
theorem eq_messages_say_iff {Xn X2 : Type} (r0 r1 : RicSubscriptionRequest) (m0 m1 : E2SetupResponseOf Xn X2) :
    (Says (eqRicSubscriptionRequest r0 r1) (r0 = r1) ↔ ¬r0.ReadsNull r1) ∧
      (Says (eqE2SetupResponse m0 m1) (m0 = m1) ↔
        (m0.AlikeBefore m1 → AcksTold m0.compConfigAddAck m1.compConfigAddAck)) := by
  refine ⟨?_, eqE2SetupResponse_says_iff m0 m1⟩
  rw [(eqRicSubscriptionRequest_tells r0 r1).says_iff, and_iff_left Iff.rfl]

/-- A request with one action, whose subsequent action has this time to wait -/
def waiting (timeToWaitMs : Option Nat) : RicSubscriptionRequest where
  ricId := ⟨1, 0, 2⟩
  eventTrigger := [1]
  action := [⟨0, .report, none, some ⟨.continue, timeToWaitMs⟩⟩]

/-- A response that acknowledges the components of two DUs -/
def acknowledging (second : UInt64) : E2SetupResponseOf Unit Unit where
  transId := 0
  id := ⟨⟨1, 1, 2⟩, 7⟩
  accepted := []
  rejected := []
  compConfigAddAck := [⟨.f1, .f1 1, ⟨.success, none⟩⟩, ⟨.f1, .f1 second, ⟨.success, none⟩⟩]

/-- A time to wait that only the first request has makes the comparison read from `NULL`, and a difference in the second
acknowledgement is not found. -/
theorem missing_time_and_second_ack :
    eqRicSubscriptionRequest (waiting (some 10)) (waiting none) = .error "read from NULL" ∧
      ¬Says (eqRicSubscriptionRequest (waiting (some 10)) (waiting none)) (waiting (some 10) = waiting none) ∧
      eqE2SetupResponse (acknowledging 2) (acknowledging 3) = .ok true ∧
      ¬Says (eqE2SetupResponse (acknowledging 2) (acknowledging 3)) (acknowledging 2 = acknowledging 3) := by
  have htime : eqRicSubscriptionRequest (waiting (some 10)) (waiting none) = .error "read from NULL" := rfl
  have hack : eqE2SetupResponse (acknowledging 2) (acknowledging 3) = .ok true := rfl
  refine ⟨htime, ?_, hack, ?_⟩
  · rw [htime]
    rintro ⟨b, hb, -⟩
    cases hb
  · rw [hack]
    rintro ⟨b, hb, hiff⟩
    have hsame := hiff.mp (Except.ok.inj hb).symm
    cases hsame

end SetupResponse

end FlexRic.E2ap
