import FlexRic.Theorems.Agent.AsyncSteps
import FlexRic.Theorems.Agent.IndEvents

/-! # Deletes of aperiodic subscriptions, and the calls that are under way

The RAN is not told of a delete, and an indication outlives in the queue the subscription it is for. A call
fails when its subscription goes before it is found, and an indication follows the delete response when its
subscription goes after. -/

namespace FlexRic.Agent
open Ds E2ap

namespace AsyncEvents

/-! ### What is required of the calls and of the messages sent -/

/-- The last message about the subscription, other than indications, is a delete response. The messages are
the newest first. -/
def Closed : List AgentMsg → RicGenId → Prop
  | [], _ => False
  | .subscriptionDeleteResponse m :: sent, k => m.ricId = k ∨ Closed sent k
  | .subscriptionResponse m :: sent, k => m.ricId ≠ k ∧ Closed sent k
  | .indication _ :: sent, k => Closed sent k

/-- No indication of a subscription follows its delete response, unless the subscription was made anew. -/
def Orderly : List AgentMsg → Prop
  | [] => True
  | .indication m :: sent => ¬Closed sent m.ricId ∧ Orderly sent
  | .subscriptionDeleteResponse _ :: sent => Orderly sent
  | .subscriptionResponse _ :: sent => Orderly sent

/-- What is required of the steps of a call: no assertion fails, and the look-up that goes through has found an
aperiodic subscription with the identifier asked for, whose own data the indication carries into the queue. -/
def CallLaw (s : AsyncEvents) : Act → Prop
  | .lookup i => (∀ msg, s.step (.lookup i) ≠ .abort msg) ∧
      ∀ t ricReqId indData tries ricReqId' aind, s.calls[i]? = some (.looking ricReqId indData tries) →
        s.step (.lookup i) = .next t → t.calls[i]? = some (.pushing ricReqId' aind) →
        ∃ indEv, (indEv, 0) ∈ s.agent.indEvent.right.toList ∧ indEv.ricId.ricReqId = ricReqId.toNat ∧
          aind = ⟨indEv.ricId, indEv.sm, indEv.actionId, indData⟩
  | .push i => (∀ msg, s.step (.push i) ≠ .abort msg) ∧
      ∀ t ricReqId aind, s.calls[i]? = some (.pushing ricReqId aind) → s.step (.push i) = .next t →
        t.aind = s.aind ++ [aind]
  | .write i => ∀ msg, s.step (.write i) ≠ .abort msg
  | _ => True

/-- The request identifier that a call is looking for. -/
def AsyncCall.sought? : AsyncCall → Option Nat
  | .looking ricReqId _ _ => some ricReqId.toNat
  | _ => none

/-- The table has a subscription with the request identifier, and all that it has with it are aperiodic. -/
def Aperiodic (s : AsyncEvents) (ricReqId : Nat) : Prop :=
  (∃ e ∈ s.agent.indEvent.right.toList, e.1.ricId.ricReqId = ricReqId) ∧
    ∀ e ∈ s.agent.indEvent.right.toList, e.1.ricId.ricReqId = ricReqId → e.2 = 0

instance (s : AsyncEvents) (ricReqId : Nat) : Decidable (s.Aperiodic ricReqId) := inferInstanceAs (Decidable (_ ∧ _))

/-- A call is for a request identifier that is subscribed as aperiodic, and as nothing else. No periodic
subscription with an identifier is made while a call is looking for it. A delete is handled when its subscription
is in the table once at most, when no indication of it is on its way from the look-up through the queue, and when
the calls that are looking for its request identifier have another subscription to find. -/
def Current (s : AsyncEvents) : Act → Prop
  | .call ricReqId _ => s.Aperiodic ricReqId.toNat
  | .message (.request sr t _) => t.ms ≠ 0 → ∀ c ∈ s.calls, c.sought? ≠ some sr.ricId.ricReqId
  | .message (.deleteRequest sdr) =>
    s.agent.indEvent.right.toList.countP (·.1.ricId = sdr.ricId) ≤ 1 ∧
      (∀ aind ∈ s.calls.filterMap AsyncCall.aind? ++ s.aind, aind.ricId ≠ sdr.ricId) ∧
      ∀ c ∈ s.calls, c.sought? = some sdr.ricId.ricReqId →
        ∃ e ∈ s.agent.indEvent.right.toList, e.1.ricId.ricReqId = sdr.ricId.ricReqId ∧ e.1.ricId ≠ sdr.ricId
  | _ => True

instance (s : AsyncEvents) : ∀ a, Decidable (s.Current a)
  | .call ricReqId _ => inferInstanceAs (Decidable (s.Aperiodic ricReqId.toNat))
  | .message (.request ..) | .message (.deleteRequest _) => by unfold Current; infer_instance
  | .lookup _ | .push _ | .write _ | .epoll | .pop | .send _ | .consume => .isTrue trivial

/-! ### What a run keeps -/

/-- The indication that the event loop holds. -/
def AgentLoop.aind? : AgentLoop → Option AindEvent
  | .sending aiEv => some aiEv
  | _ => none

/-- The indications between the table and the RIC. -/
def onTheWay (s : AsyncEvents) : List AindEvent :=
  s.calls.filterMap AsyncCall.aind? ++ s.aind ++ s.loop.aind?.toList

/-- What was sent is in order, and of a closed subscription neither an entry nor an indication is left. -/
structure Kept (s : AsyncEvents) : Prop where
  orderly : Orderly s.sent
  table : ∀ k, Closed s.sent k → ∀ e ∈ s.agent.indEvent.right.toList, e.1.ricId ≠ k
  underWay : ∀ k, Closed s.sent k → ∀ aind ∈ s.onTheWay, aind.ricId ≠ k

variable {s t : AsyncEvents} {a : Act} {ag : E2Agent} {as : List Act}

/-- A request that is answered puts a subscription with its identifier into the table. -/
theorem handle_request_right {sr : RicSubscriptionRequest} {tm : SubscribeTimer} {fd : Nat} {agent : E2Agent}
    {ans : SubscriptionAnswer} (h : ag.handle (.request sr tm fd) = .ok (agent, ans)) :
    ∃ ev fd', ev.ricId = sr.ricId ∧ (tm.ms = 0 → fd' = 0) ∧
      agent.indEvent.right.toList.Perm ((ev, fd') :: ag.indEvent.right.toList) := by
  obtain ⟨action, sm, -, -, -, ⟨hpos, -, rfl⟩ | ⟨-, rfl⟩⟩ := handle_request_eq_ok.mp h
  · exact ⟨⟨sr.ricId, some sm, action.id, tm.actDef⟩, fd, rfl, fun hz => by omega, AssocRbTree.toList_insert ..⟩
  · exact ⟨⟨sr.ricId, some sm, action.id, tm.actDef⟩, 0, rfl, fun _ => rfl, AssocRbTree.toList_insert ..⟩

/-- The steps that send nothing and leave the table alone. -/
theorem Kept.frame (h : s.Kept) (ha : t.agent = s.agent) (hs : t.sent = s.sent)
    (hw : ∀ aind ∈ t.onTheWay, aind ∈ s.onTheWay) : t.Kept where
  orderly := by
    rw [hs]
    exact h.orderly
  table := by
    rw [hs, ha]
    exact h.table
  underWay k hk aind hm := h.underWay k (hs ▸ hk) aind (hw aind hm)

theorem mem_filterMap_set {l : List AsyncCall} {i : Nat} {c d : AsyncCall} {aind : AindEvent} (hc : l[i]? = some c)
    (hm : aind ∈ (l.set i d).filterMap AsyncCall.aind?) : d.aind? = some aind ∨ aind ∈ l.filterMap AsyncCall.aind? := by
  rcases List.mem_append.mp ((filterMap_set_eraseIdx hc d _).mem_iff.mp hm) with hd | hl
  · exact .inl (by simpa using hd)
  · exact .inr ((filterMap_eraseIdx hc _).mem_iff.mpr (List.mem_append_right _ hl))

theorem Kept.lookup {i : Nat} (h : s.Kept) (hs : s.step (.lookup i) = .next t) : t.Kept := by
  obtain ⟨ricReqId, indData, tries, c, hc, rfl, hcase⟩ := step_lookup_inv hs
  refine ⟨h.orderly, h.table, fun k hk aind hm => ?_⟩
  rcases List.mem_append.mp hm with hm | hm
  · rcases List.mem_append.mp hm with hm | hm
    · rcases mem_filterMap_set hc hm with hd | hl
      · -- The indication is made from an entry of the table.
        rcases hcase with ⟨-, rfl⟩ | ⟨indEv, fd, hf, rfl⟩
        · cases hd
        · obtain rfl := Option.some.inj hd
          exact h.table k hk _ (AssocRbTree.mem_of_findIf hf).1
      · exact h.underWay k hk aind (List.mem_append_left _ (List.mem_append_left _ hl))
    · exact h.underWay k hk aind (List.mem_append_left _ (List.mem_append_right _ hm))
  · exact h.underWay k hk aind (List.mem_append_right _ hm)

theorem Kept.message {e : SubscriptionEvent} (h : s.Kept) (hg : s.Current (.message e))
    (hs : s.step (.message e) = .next t) : t.Kept := by
  obtain ⟨agent, ans, hl, ho, rfl⟩ := step_message_inv hs
  cases e with
  | request sr t fd =>
    obtain ⟨action, sm, -, -, rfl, -⟩ := handle_request_eq_ok.mp ho
    obtain ⟨ev, fd', hev, -, hp⟩ := handle_request_right ho
    refine ⟨h.orderly, ?_, fun k hk => h.underWay k hk.2⟩
    rintro k ⟨hne, hk⟩ e he
    rcases List.mem_cons.mp (hp.mem_iff.mp he) with rfl | he
    · exact fun heq => hne (hev.symm.trans heq)
    · exact h.table k hk e he
  | deleteRequest sdr =>
    obtain ⟨released, hstop, rfl⟩ := handle_deleteRequest_inv ho
    obtain ⟨ev, fd, hev, hp⟩ := stopIndEvent_inv hstop
    refine ⟨h.orderly, ?_, ?_⟩
    · rintro k (rfl | hk) e he
      · -- The one entry of the subscription is the one that was taken out.
        intro heq
        have hcount := hg.1
        rw [hp.countP_eq, List.countP_cons_of_pos (by simpa using hev)] at hcount
        have hpos : 0 < agent.indEvent.right.toList.countP (·.1.ricId = sdr.ricId) :=
          List.countP_pos_iff.mpr ⟨e, he, by simpa using heq⟩
        omega
      · exact h.table k hk e (hp.mem_iff.mpr (List.mem_cons_of_mem _ he))
    · rintro k (rfl | hk) aind hm
      · simp only [onTheWay, hl, AgentLoop.aind?, Option.toList, List.append_nil] at hm
        exact hg.2.1 aind hm
      · exact h.underWay k hk aind hm

theorem Kept.step (h : s.Kept) (hg : s.Current a) (hs : s.step a = .next t) : t.Kept := by
  cases a with
  | call ricReqId indData =>
    obtain rfl := step_call_inv hs
    exact h.frame rfl rfl fun aind hm => by simpa [onTheWay, AsyncCall.aind?] using hm
  | lookup i => exact h.lookup hs
  | push i =>
    obtain ⟨ricReqId, aind, hc, rfl⟩ := step_push_inv hs
    refine h.frame rfl rfl fun a hm => ?_
    have hmem : aind ∈ s.calls.filterMap AsyncCall.aind? :=
      List.mem_filterMap.mpr ⟨_, List.mem_of_getElem? hc, rfl⟩
    simp only [onTheWay, List.mem_append, List.mem_singleton] at hm ⊢
    rcases hm with (hm | hm | rfl) | hm
    · rcases mem_filterMap_set hc hm with hd | hl
      · cases hd
      · exact .inl (.inl hl)
    · exact .inl (.inr hm)
    · exact .inl (.inl hmem)
    · exact .inr hm
  | write i =>
    obtain ⟨ricReqId, hc, rfl⟩ := step_write_inv hs
    refine h.frame rfl rfl fun a hm => ?_
    simp only [onTheWay, List.mem_append] at hm ⊢
    exact hm.imp_left (Or.imp_left fun hm => (filterMap_eraseIdx hc _).mem_iff.mpr (List.mem_append_right _ hm))
  | epoll =>
    obtain ⟨hl, -, ⟨-, rfl⟩ | ⟨-, rfl⟩⟩ := step_epoll_inv hs
    · exact h.frame rfl rfl fun a hm => by simpa [onTheWay, hl, AgentLoop.aind?] using hm
    · exact h.frame rfl rfl fun a hm => hm
  | pop =>
    obtain ⟨aiEv, aind, hl, ha, rfl⟩ := step_pop_inv hs
    refine h.frame rfl rfl fun a hm => ?_
    simp only [onTheWay, hl, ha, AgentLoop.aind?, Option.toList, List.mem_append, List.mem_cons, List.not_mem_nil,
      or_false] at hm ⊢
    tauto
  | send data =>
    obtain ⟨aiEv, hl, rfl⟩ := step_send_inv hs
    have hmem : aiEv ∈ s.onTheWay := by simp [onTheWay, hl, AgentLoop.aind?]
    refine ⟨⟨fun hk => h.underWay _ hk aiEv hmem rfl, h.orderly⟩, h.table, fun k hk a hm => h.underWay k hk a ?_⟩
    exact List.mem_append_left _ (by simpa [onTheWay, AgentLoop.aind?] using hm)
  | consume =>
    obtain ⟨hl, -, rfl⟩ := step_consume_inv hs
    exact h.frame rfl rfl fun a hm => by simpa [onTheWay, hl, AgentLoop.aind?] using hm
  | message e => exact h.message hg hs

/-! ### The calls -/

/-- What the calls are looking for is there to be found, so that none has looked in vain. -/
def Found (s : AsyncEvents) : Prop :=
  ∀ ricReqId indData tries, .looking ricReqId indData tries ∈ s.calls → tries = 0 ∧ s.Aperiodic ricReqId.toNat

/-- The steps that leave the table alone, and after which no other call is looking. -/
theorem Found.frame (h : s.Found) (ha : t.agent = s.agent)
    (hc : ∀ ricReqId indData tries, .looking ricReqId indData tries ∈ t.calls →
      .looking ricReqId indData tries ∈ s.calls) : t.Found := fun ricReqId indData tries hm => by
  unfold Aperiodic
  rw [ha]
  exact h ricReqId indData tries (hc _ _ _ hm)

/-- A call that has found its subscription looks no further. -/
theorem looking_mem_set {l : List AsyncCall} {i : Nat} {c : AsyncCall} {ricReqId : UInt32} {indData tries : Nat}
    (hne : c.sought? = none) (hm : .looking ricReqId indData tries ∈ l.set i c) :
    .looking ricReqId indData tries ∈ l := by
  rcases List.mem_or_eq_of_mem_set hm with hm | rfl
  · exact hm
  · cases hne

theorem Found.lookup {i : Nat} (h : s.Found) (hs : s.step (.lookup i) = .next t) : t.Found := by
  obtain ⟨ricReqId, indData, tries, c, hc, rfl, ⟨hf, -⟩ | ⟨indEv, fd, -, rfl⟩⟩ := step_lookup_inv hs
  · obtain ⟨-, ⟨e, he, hid⟩, -⟩ := h _ _ _ (List.mem_of_getElem? hc)
    simpa [hid] using AssocRbTree.findIf_eq_none.mp hf e he
  · exact h.frame rfl fun _ _ _ hm => looking_mem_set rfl hm

/-- A new subscription is aperiodic when a call is looking for its request identifier. -/
theorem Found.request {sr : RicSubscriptionRequest} {tm : SubscribeTimer} {fd : Nat} {agent : E2Agent}
    {ans : SubscriptionAnswer} (h : s.Found) (hg : s.Current (.message (.request sr tm fd)))
    (ho : s.agent.handle (.request sr tm fd) = .ok (agent, ans)) :
    Found { s with agent, sent := answer ans :: s.sent } := by
  intro ricReqId indData tries hm
  obtain ⟨ht, ⟨e, he, hid⟩, hall⟩ := h _ _ _ hm
  obtain ⟨ev, fd', hev, hz, hp⟩ := handle_request_right ho
  refine ⟨ht, ⟨e, hp.mem_iff.mpr (List.mem_cons_of_mem _ he), hid⟩, fun e' he' hid' => ?_⟩
  rcases List.mem_cons.mp (hp.mem_iff.mp he') with rfl | he'
  · by_contra hne
    exact hg (fun h0 => hne (hz h0)) _ hm (by simp [AsyncCall.sought?, ← hev, ← hid'])
  · exact hall e' he' hid'

/-- The entry that a delete takes out is not the only one that the calls can find. -/
theorem Found.deleteRequest {sdr : RicSubscriptionDeleteRequest} {agent : E2Agent} {ans : SubscriptionAnswer}
    (h : s.Found) (hg : s.Current (.message (.deleteRequest sdr)))
    (ho : s.agent.handle (.deleteRequest sdr) = .ok (agent, ans)) :
    Found { s with agent, sent := answer ans :: s.sent } := by
  intro ricReqId indData tries hm
  obtain ⟨ht, ⟨e, he, hid⟩, hall⟩ := h _ _ _ hm
  obtain ⟨released, hstop, rfl⟩ := handle_deleteRequest_inv ho
  obtain ⟨ev, fd, hev, hp⟩ := stopIndEvent_inv hstop
  -- One that stays: the other one that the condition gives, or any when the delete is for another identifier.
  have hstays : ∃ e ∈ s.agent.indEvent.right.toList, e.1.ricId.ricReqId = ricReqId.toNat ∧ e.1.ricId ≠ sdr.ricId := by
    by_cases heq : e.1.ricId = sdr.ricId
    · obtain ⟨e', he', hid', hne⟩ := hg.2.2 _ hm (by simp [AsyncCall.sought?, ← heq, hid])
      exact ⟨e', he', hid'.trans (by rw [← heq, hid]), hne⟩
    · exact ⟨e, he, hid, heq⟩
  obtain ⟨e', he', hid', hne⟩ := hstays
  refine ⟨ht, ⟨e', ?_, hid'⟩, fun e he hid => hall e (hp.mem_iff.mpr (List.mem_cons_of_mem _ he)) hid⟩
  rcases List.mem_cons.mp (hp.mem_iff.mp he') with rfl | he'
  · exact absurd hev hne
  · exact he'

theorem Found.step (h : s.Found) (hg : s.Current a) (hs : s.step a = .next t) : t.Found := by
  cases a with
  | call ricReqId indData =>
    obtain rfl := step_call_inv hs
    intro ricReqId' indData' tries hm
    rcases List.mem_append.mp hm with hm | hm
    · exact h _ _ _ hm
    · obtain ⟨rfl, rfl, rfl⟩ : ricReqId' = ricReqId ∧ indData' = indData ∧ tries = 0 := by simpa using hm
      exact ⟨rfl, hg⟩
  | lookup i => exact h.lookup hs
  | push i =>
    obtain ⟨ricReqId, aind, -, rfl⟩ := step_push_inv hs
    exact h.frame rfl fun _ _ _ hm => looking_mem_set rfl hm
  | write i =>
    obtain ⟨ricReqId, -, rfl⟩ := step_write_inv hs
    exact h.frame rfl fun _ _ _ hm => List.mem_of_mem_eraseIdx hm
  | epoll =>
    obtain ⟨-, -, ⟨-, rfl⟩ | ⟨-, rfl⟩⟩ := step_epoll_inv hs
    · exact h.frame rfl fun _ _ _ hm => hm
    · exact h.frame rfl fun _ _ _ hm => hm
  | pop =>
    obtain ⟨aiEv, aind, -, -, rfl⟩ := step_pop_inv hs
    exact h.frame rfl fun _ _ _ hm => hm
  | send data =>
    obtain ⟨aiEv, -, rfl⟩ := step_send_inv hs
    exact h.frame rfl fun _ _ _ hm => hm
  | consume =>
    obtain ⟨-, -, rfl⟩ := step_consume_inv hs
    exact h.frame rfl fun _ _ _ hm => hm
  | message e =>
    obtain ⟨agent, ans, -, ho, rfl⟩ := step_message_inv hs
    cases e with
    | request sr tm fd => exact h.request hg ho
    | deleteRequest sdr => exact h.deleteRequest hg ho

theorem callLaw_lookup {i : Nat} (h : s.Found) : s.CallLaw (.lookup i) := by
  constructor
  · intro msg hs
    simp only [AsyncEvents.step] at hs
    split at hs
    · next ricReqId indData tries hc =>
      obtain ⟨rfl, -⟩ := h _ _ _ (List.mem_of_getElem? hc)
      split at hs <;> cases hs
    · cases hs
  · intro t ricReqId indData tries ricReqId' aind hc hs ht
    obtain ⟨ricReqId₁, indData₁, tries₁, c, hc', rfl, hcase⟩ := step_lookup_inv hs
    obtain ⟨rfl, rfl, rfl⟩ : ricReqId = ricReqId₁ ∧ indData = indData₁ ∧ tries = tries₁ := by simpa [hc] using hc'
    have hlt : i < s.calls.length := (List.getElem?_eq_some_iff.mp hc).1
    obtain rfl : c = .pushing ricReqId' aind := by simpa [List.getElem?_set, hlt] using ht
    rcases hcase with ⟨-, hcase⟩ | ⟨indEv, fd, hf, hcase⟩
    · cases hcase
    · obtain ⟨rfl, rfl⟩ := AsyncCall.pushing.inj hcase
      obtain ⟨hm, hp⟩ := AssocRbTree.mem_of_findIf hf
      have hid : indEv.ricId.ricReqId = ricReqId'.toNat := by simpa using hp
      obtain ⟨-, -, hall⟩ := h _ _ _ (List.mem_of_getElem? hc)
      obtain rfl : fd = 0 := hall _ hm hid
      exact ⟨indEv, hm, hid, rfl⟩

theorem callLaw_push {i : Nat} : s.CallLaw (.push i) := by
  constructor
  · intro msg hs
    simp only [AsyncEvents.step] at hs
    split at hs <;> cases hs
  · intro t ricReqId aind hc hs
    obtain ⟨_, aind', hc', rfl⟩ := step_push_inv hs
    obtain ⟨-, rfl⟩ : _ ∧ aind = aind' := by simpa [hc] using hc'
    rfl

theorem callLaw_write {i : Nat} : s.CallLaw (.write i) := by
  intro msg hs
  simp only [AsyncEvents.step] at hs
  split at hs
  · rcases Outcome.bind_eq_abort.mp hs with hs | ⟨_, -, hs⟩
    · exact (Outcome.check_eq_abort.mp hs).1 (lineLength_bound _)
    · rcases Outcome.bind_eq_abort.mp hs with hs | ⟨_, -, hs⟩
      · exact Outcome.await_ne_abort hs
      · cases hs
  · cases hs

/-- As long as no delete overtakes a call, the calls do what is required of them and nothing follows a delete
response. -/
theorem callLaw_of_run (hr : (asyncEvents ag).Run Current as s) : (∀ a, s.CallLaw a) ∧ Orderly s.sent := by
  have hkept : s.Kept :=
    hr.invariant ⟨trivial, fun k hk => hk.elim, fun k hk => hk.elim⟩ fun s a t h hg hs => h.step hg hs
  have hfound : s.Found := hr.invariant (fun _ _ _ hm => by cases hm) fun s a t h hg hs => h.step hg hs
  refine ⟨fun a => ?_, hkept.orderly⟩
  cases a with
  | lookup i => exact callLaw_lookup hfound
  | push i => exact callLaw_push
  | write i => exact callLaw_write
  | _ => trivial

/-! ### A delete between the request and the indication -/

/-- Every call is for a request identifier that was subscribed as aperiodic before it. -/
def callsSubscribed (ids : List Nat) : List Act → Bool
  | [] => true
  | .message (.request sr t _) :: as =>
    callsSubscribed (if t.ms = 0 then sr.ricId.ricReqId :: ids else ids) as
  | .call ricReqId _ :: as => ids.contains ricReqId.toNat && callsSubscribed ids as
  | _ :: as => callsSubscribed ids as

/-- An agent with one service model, and the descriptors of the pipe and of the association. -/
def reportingAgent : E2Agent := .init (loadPluginAg .init ⟨3, false⟩) [4, 6]

def subscribeAperiodic : Act := .message (.request (reportRequest 1 3) ⟨0, 200⟩ 0)

def deleteAperiodic : Act := .message (.deleteRequest ⟨⟨1, 0, 3⟩⟩)

/-- The indication is sent before the delete. -/
def sentBeforeDelete : List Act :=
  [subscribeAperiodic, .call 1 100, .lookup 0, .push 0, .write 0, .epoll, .pop, .send ⟨[], [], none⟩, .consume,
    deleteAperiodic]

theorem sentBeforeDelete_orderly : ∃ s, (asyncEvents reportingAgent).Run Current sentBeforeDelete s ∧
    callsSubscribed [] sentBeforeDelete = true ∧ s.sent.length = 3 ∧ (∀ a, s.CallLaw a) ∧ Orderly s.sent := by
  have h : (((asyncEvents reportingAgent).exec Current (asyncEvents reportingAgent).init sentBeforeDelete).passes
      fun s => s.sent.length == 3) = true := by decide +kernel
  obtain ⟨s, hr, hs⟩ := System.exists_run_of_exec h
  exact ⟨s, hr, by decide +kernel, by simpa using hs, callLaw_of_run hr⟩

/-- The delete is handled before the call looks the subscription up, nine times in vain. -/
def deletedBeforeLookup : List Act := [subscribeAperiodic, .call 1 100, deleteAperiodic] ++ List.replicate 9 (.lookup 0)

/-- The delete is handled while the indication is in the queue. -/
def deletedBeforePop : List Act :=
  [subscribeAperiodic, .call 1 100, .lookup 0, .push 0, deleteAperiodic, .write 0, .epoll, .pop,
    .send ⟨[], [], none⟩]

/-- The newest message is an indication, and the one before it the delete response of the same subscription. -/
def lateIndication : List AgentMsg → Bool
  | .indication m :: .subscriptionDeleteResponse m' :: _ => m'.ricId == m.ricId
  | _ => false

theorem not_orderly_of_late {sent : List AgentMsg} (h : lateIndication sent = true) : ¬Orderly sent := by
  unfold lateIndication at h
  split at h
  · exact fun ho => ho.1 (.inl (by simpa using h))
  · cases h

theorem delete_overtakes_call :
    (callsSubscribed [] (deletedBeforeLookup ++ [.lookup 0]) = true ∧
      ∃ s, (asyncEvents reportingAgent).Run System.Any deletedBeforeLookup s ∧
        s.step (.lookup 0) = .abort "Not found RIC Request ID" ∧ ¬s.CallLaw (.lookup 0)) ∧
    callsSubscribed [] deletedBeforePop = true ∧
      ∃ s, (asyncEvents reportingAgent).Run System.Any deletedBeforePop s ∧ ¬Orderly s.sent := by
  have h₁ : (((asyncEvents reportingAgent).exec System.Any (asyncEvents reportingAgent).init
      deletedBeforeLookup).passes fun s => (s.step (.lookup 0)).abort? == some "Not found RIC Request ID") = true := by
    decide +kernel
  have h₂ : (((asyncEvents reportingAgent).exec System.Any (asyncEvents reportingAgent).init
      deletedBeforePop).passes fun s => lateIndication s.sent) = true := by decide +kernel
  obtain ⟨s, hs, ha⟩ := System.exists_run_of_exec h₁
  obtain ⟨t, ht, hl⟩ := System.exists_run_of_exec h₂
  have habort : s.step (.lookup 0) = .abort "Not found RIC Request ID" :=
    Outcome.abort?_eq_some.mp (by simpa using ha)
  exact ⟨⟨by decide +kernel, s, hs, habort, fun hlaw => hlaw.1 _ habort⟩, by decide +kernel, t, ht,
    not_orderly_of_late hl⟩

end AsyncEvents

end FlexRic.Agent
