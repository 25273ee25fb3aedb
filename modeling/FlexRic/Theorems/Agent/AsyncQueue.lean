import FlexRic.Theorems.Agent.AsyncSteps

/-! # What becomes of the indications in the queue

Every write makes the pipe ready, but two writes before `epoll_wait` returns make it ready once, and one read
may take the bytes of several writes. An indication waits for ever when its write had no readiness of its
own. -/

namespace FlexRic.Agent
open Ds E2ap

namespace AsyncEvents

/-- The call has pushed its indication, and has not written to the pipe yet. -/
def AsyncCall.isWriting : AsyncCall → Bool
  | .writing _ => true
  | _ => false

/-- No call is between its push and its write, and the event loop has nothing to learn of the pipe. -/
structure Quiet (s : AsyncEvents) : Prop where
  calls : ∀ c ∈ s.calls, c.isWriting = false
  loop : s.loop = .waiting
  ready : s.ready = false

/-- The queue is never empty when it is popped, what is pushed is popped in order, and nothing stays in the
queue when all is quiet. -/
structure QueueLaw (s : AsyncEvents) : Prop where
  pop : s.step .pop ≠ .abort "trying to pop from a void queue"
  order : s.popped ++ s.aind = s.pushed
  drained : s.Quiet → s.aind = []

/-- A call writes when the readiness of the write before was taken up, and the read that the event loop is
about to do, if any, leaves a byte in the pipe. -/
def Apart (s : AsyncEvents) : Act → Prop
  | .write i => ∀ ricReqId, s.calls[i]? = some (.writing ricReqId) →
      s.ready = false ∧ (s.loop = .waiting ∨ 8 < s.pipe + lineLength ricReqId)
  | _ => True

instance (s : AsyncEvents) : ∀ a, Decidable (s.Apart a)
  | .write i =>
    match h : s.calls[i]? with
    | some (.writing ricReqId) =>
      decidable_of_iff (s.ready = false ∧ (s.loop = .waiting ∨ 8 < s.pipe + lineLength ricReqId))
        ⟨fun hp id hid => by
          obtain rfl : ricReqId = id := by simpa [h] using hid
          exact hp, fun hp => hp ricReqId h⟩
    | none => .isTrue fun id hid => by simp [h] at hid
    | some (.looking ..) => .isTrue fun id hid => by simp [h] at hid
    | some (.pushing ..) => .isTrue fun id hid => by simp [h] at hid
  | .call .. | .lookup _ | .push _ | .epoll | .pop | .send _ | .consume | .message _ => .isTrue trivial

/-! ### Indications and the pops that are due -/

/-- The pops that are to come without another push: one for each write still to be made, one when the pipe is
ready, and one when the event loop has taken its readiness up. -/
def popsDue (s : AsyncEvents) : Nat :=
  s.calls.countP AsyncCall.isWriting + (if s.ready then 1 else 0) + (if s.loop = .popping then 1 else 0)

/-- The pops that a step forgoes: a write to a pipe that is ready already makes none due, and the readiness of a
pipe that was emptied since is dropped. -/
def forgone (s : AsyncEvents) : Act → Nat
  | .write _ => if s.ready then 1 else 0
  | .epoll => if s.pipe = 0 then 1 else 0
  | _ => 0

section Calls
variable {l : List AsyncCall} {i : Nat} {c d : AsyncCall}

theorem countP_set_calls (h : l[i]? = some c) : (l.set i d).countP AsyncCall.isWriting + (if c.isWriting then 1 else 0) =
    l.countP AsyncCall.isWriting + (if d.isWriting then 1 else 0) := by
  rw [(perm_set h d).countP_eq, (perm_eraseIdx h).countP_eq, List.countP_cons, List.countP_cons]
  omega

theorem countP_eraseIdx_calls (h : l[i]? = some c) :
    l.countP AsyncCall.isWriting = (l.eraseIdx i).countP AsyncCall.isWriting + (if c.isWriting then 1 else 0) := by
  rw [(perm_eraseIdx h).countP_eq, List.countP_cons]

end Calls

variable {s t : AsyncEvents} {a : Act} {ag : E2Agent} {as : List Act}

/-- How a step changes the pops that are due, and the queue. -/
theorem popsDue_step (hs : s.step a = .next t) :
    t.popsDue + s.aind.length + s.forgone a = s.popsDue + t.aind.length := by
  cases a with
  | call ricReqId indData =>
    obtain rfl := step_call_inv hs
    simp [popsDue, forgone, List.countP_append, AsyncCall.isWriting]
  | lookup i =>
    obtain ⟨ricReqId, indData, tries, c, hc, rfl, hcase⟩ := step_lookup_inv hs
    have hw : c.isWriting = false := by
      rcases hcase with ⟨-, rfl⟩ | ⟨_, _, -, rfl⟩ <;> rfl
    have hcount := countP_set_calls (d := c) hc
    rw [hw] at hcount
    simp only [AsyncCall.isWriting, Bool.false_eq_true, if_false] at hcount
    simp only [popsDue, forgone]
    omega
  | push i =>
    obtain ⟨ricReqId, aind, hc, rfl⟩ := step_push_inv hs
    have hcount := countP_set_calls (d := .writing ricReqId) hc
    simp only [AsyncCall.isWriting, Bool.false_eq_true, if_false, if_true] at hcount
    simp only [popsDue, forgone, List.length_append, List.length_singleton]
    omega
  | write i =>
    obtain ⟨ricReqId, hc, rfl⟩ := step_write_inv hs
    have hcount := countP_eraseIdx_calls hc
    simp only [AsyncCall.isWriting, if_true] at hcount
    simp only [popsDue, forgone, if_true]
    omega
  | epoll =>
    obtain ⟨hl, hr, ⟨hp, rfl⟩ | ⟨hp, rfl⟩⟩ := step_epoll_inv hs
    · simp [popsDue, forgone, hl, hr, hp.ne']
    · simp [popsDue, forgone, hl, hr, hp]
      omega
  | pop =>
    obtain ⟨aiEv, aind, hl, ha, rfl⟩ := step_pop_inv hs
    simp [popsDue, forgone, hl, ha]
    omega
  | send data =>
    obtain ⟨aiEv, hl, rfl⟩ := step_send_inv hs
    simp [popsDue, forgone, hl]
  | consume =>
    obtain ⟨hl, -, rfl⟩ := step_consume_inv hs
    simp [popsDue, forgone, hl]
  | message e =>
    obtain ⟨agent, ans, hl, -, rfl⟩ := step_message_inv hs
    simp [popsDue, forgone, hl]

/-- In every run: the pops that are due find something in the queue, and what was popped came out in order. -/
structure Covered (s : AsyncEvents) : Prop where
  due : s.popsDue ≤ s.aind.length
  order : s.popped ++ s.aind = s.pushed

theorem order_step (h : s.popped ++ s.aind = s.pushed) (hs : s.step a = .next t) :
    t.popped ++ t.aind = t.pushed := by
  cases a with
  | call ricReqId indData =>
    obtain rfl := step_call_inv hs
    exact h
  | lookup i =>
    obtain ⟨_, _, _, _, -, rfl, -⟩ := step_lookup_inv hs
    exact h
  | push i =>
    obtain ⟨_, aind, -, rfl⟩ := step_push_inv hs
    exact (List.append_assoc ..).symm.trans (congrArg (· ++ [aind]) h)
  | write i =>
    obtain ⟨_, -, rfl⟩ := step_write_inv hs
    exact h
  | epoll =>
    obtain ⟨-, -, ⟨-, rfl⟩ | ⟨-, rfl⟩⟩ := step_epoll_inv hs
    · exact h
    · exact h
  | pop =>
    obtain ⟨aiEv, aind, -, ha, rfl⟩ := step_pop_inv hs
    rw [ha] at h
    exact (List.append_assoc ..).trans h
  | send data =>
    obtain ⟨_, -, rfl⟩ := step_send_inv hs
    exact h
  | consume =>
    obtain ⟨-, -, rfl⟩ := step_consume_inv hs
    exact h
  | message e =>
    obtain ⟨_, _, -, -, rfl⟩ := step_message_inv hs
    exact h

theorem covered_of_run (hr : (asyncEvents ag).Run System.Any as s) : s.Covered := by
  refine hr.invariant ⟨by simp [asyncEvents, init, popsDue], rfl⟩ fun s a t h _ hs => ⟨?_, order_step h.order hs⟩
  have hb := popsDue_step hs
  have := h.due
  omega

/-- A pop finds something in the queue, in every run. -/
theorem Covered.pop (h : s.Covered) : s.step .pop ≠ .abort "trying to pop from a void queue" := by
  intro hs
  rcases Outcome.bind_eq_abort.mp hs with hw | ⟨_, hw, hs⟩
  · exact Outcome.await_ne_abort hw
  · have hl : s.loop = .popping := Outcome.await_eq_next.mp hw
    have hd := h.due
    cases ha : s.aind with
    | nil =>
      simp only [popsDue, hl, ha, List.length_nil, if_true] at hd
      omega
    | cons => simp [ha] at hs

/-! ### Writes that are apart -/

/-- As long as the writes are apart: nothing but what is due is in the queue, and a pipe that is ready has a byte
left when the event loop comes back to it. -/
structure Exhausted (s : AsyncEvents) : Prop where
  due : s.popsDue = s.aind.length
  waiting : s.ready = true → s.loop = .waiting → 0 < s.pipe
  busy : s.ready = true → s.loop ≠ .waiting → 8 < s.pipe

theorem exhausted_init : (init ag).Exhausted := ⟨by simp [init, popsDue], by simp [init], by simp [init]⟩

theorem Exhausted.forgone (h : s.Exhausted) (ha : s.Apart a) (hs : s.step a = .next t) : s.forgone a = 0 := by
  cases a with
  | write i =>
    obtain ⟨ricReqId, hc, -⟩ := step_write_inv hs
    simp [AsyncEvents.forgone, (ha ricReqId hc).1]
  | epoll =>
    obtain ⟨hl, hr, -⟩ := step_epoll_inv hs
    simp [AsyncEvents.forgone, (h.waiting hr hl).ne']
  | _ => rfl

/-- The pipe of a step that leaves the loop, the readiness and the bytes alone. -/
theorem Exhausted.frame (h : s.Exhausted) (hd : t.popsDue = t.aind.length) (hr : t.ready = s.ready)
    (hl : t.loop = .waiting ↔ s.loop = .waiting) (hp : t.pipe = s.pipe) : t.Exhausted where
  due := hd
  waiting h₁ h₂ := by
    rw [hp]
    exact h.waiting (hr ▸ h₁) (hl.mp h₂)
  busy h₁ h₂ := by
    rw [hp]
    exact h.busy (hr ▸ h₁) fun h₃ => h₂ (hl.mpr h₃)

theorem Exhausted.step (h : s.Exhausted) (ha : s.Apart a) (hs : s.step a = .next t) : t.Exhausted := by
  have hd : t.popsDue = t.aind.length := by
    have hb := popsDue_step hs
    have hf := h.forgone ha hs
    have := h.due
    omega
  cases a with
  | call ricReqId indData =>
    obtain rfl := step_call_inv hs
    exact h.frame hd rfl .rfl rfl
  | lookup i =>
    obtain ⟨_, _, _, _, -, rfl, -⟩ := step_lookup_inv hs
    exact h.frame hd rfl .rfl rfl
  | push i =>
    obtain ⟨_, _, -, rfl⟩ := step_push_inv hs
    exact h.frame hd rfl .rfl rfl
  | write i =>
    obtain ⟨ricReqId, hc, rfl⟩ := step_write_inv hs
    have hpos := (lineLength_bound ricReqId).1
    refine ⟨hd, fun _ _ => by dsimp only; omega, fun _ hl => ?_⟩
    exact (ha ricReqId hc).2.resolve_left hl
  | epoll =>
    obtain ⟨-, -, ⟨-, rfl⟩ | ⟨-, rfl⟩⟩ := step_epoll_inv hs
    · exact ⟨hd, by simp, by simp⟩
    · exact ⟨hd, by simp, by simp⟩
  | pop =>
    obtain ⟨_, _, hl, -, rfl⟩ := step_pop_inv hs
    exact h.frame hd rfl (by simp [hl]) rfl
  | send data =>
    obtain ⟨_, hl, rfl⟩ := step_send_inv hs
    exact h.frame hd rfl (by simp [hl]) rfl
  | consume =>
    obtain ⟨hl, -, rfl⟩ := step_consume_inv hs
    refine ⟨hd, fun hr _ => ?_, by simp⟩
    have := h.busy hr (by simp [hl])
    dsimp only
    omega
  | message e =>
    obtain ⟨_, _, hl, -, rfl⟩ := step_message_inv hs
    exact h.frame hd rfl .rfl rfl

/-- In a run whose writes are apart every indication that is pushed is popped. -/
theorem queueLaw_of_run (hr : (asyncEvents ag).Run Apart as s) : s.QueueLaw := by
  have hc : s.Covered := covered_of_run (hr.mono fun _ _ _ => trivial)
  have he : s.Exhausted := hr.invariant exhausted_init fun s a t h ha hs => h.step ha hs
  refine ⟨hc.pop, hc.order, fun hq => ?_⟩
  have hw : s.calls.countP AsyncCall.isWriting = 0 :=
    List.countP_eq_zero.mpr fun c hm => by simp [hq.calls c hm]
  have hd := he.due
  simp only [popsDue, hw, hq.ready, hq.loop] at hd
  simpa using hd.symm

/-! ### Two calls for one subscription -/

/-- An agent with one service model, and the descriptors of the pipe and of the association. -/
def rcAgent : E2Agent := .init (loadPluginAg .init ⟨3, false⟩) [4, 6]

/-- An aperiodic subscription, and two calls that have pushed their indications. -/
def twoPushed : List Act :=
  [.message (.request ⟨⟨1, 0, 3⟩, [], [⟨0, .report, none, none⟩]⟩ ⟨0, 200⟩ 0), .call 1 100, .call 1 101,
    .lookup 0, .lookup 1, .push 0, .push 1]

/-- The event loop sends one indication. -/
def sendOne : List Act := [.epoll, .pop, .send ⟨[], [], none⟩, .consume]

/-- Each indication is sent before the other call writes. -/
def writesApart : List Act := twoPushed ++ (.write 0 :: sendOne) ++ (.write 0 :: sendOne)

theorem writesApart_drained :
    ∃ s, (asyncEvents rcAgent).Run Apart writesApart s ∧ s.pushed.length = 2 ∧ s.QueueLaw := by
  have h : (((asyncEvents rcAgent).exec Apart (asyncEvents rcAgent).init writesApart).passes
      fun s => s.pushed.length == 2) = true := by decide +kernel
  obtain ⟨s, hr, hs⟩ := System.exists_run_of_exec h
  exact ⟨s, hr, by simpa using hs, queueLaw_of_run hr⟩

/-- Both calls write before `epoll_wait` returns. -/
def writesTogether : List Act := twoPushed ++ [.write 0, .write 0] ++ sendOne

theorem indication_stuck : ∃ s, (asyncEvents rcAgent).Run System.Any writesTogether s ∧
    s.calls = [] ∧ s.Quiet ∧ s.aind ≠ [] ∧ ¬s.QueueLaw := by
  have h : (((asyncEvents rcAgent).exec System.Any (asyncEvents rcAgent).init writesTogether).passes fun s =>
      s.calls == [] && s.loop == .waiting && !s.ready && s.aind.length == 1) = true := by decide +kernel
  obtain ⟨s, hr, hs⟩ := System.exists_run_of_exec h
  simp only [Bool.and_eq_true, beq_iff_eq, Bool.not_eq_true'] at hs
  obtain ⟨⟨⟨hc, hl⟩, hready⟩, ha⟩ := hs
  have hq : s.Quiet := ⟨by simp [hc], hl, hready⟩
  have hne : s.aind ≠ [] := by
    intro hn
    simp [hn] at ha
  exact ⟨s, hr, hc, hq, hne, fun hlaw => hne (hlaw.drained hq)⟩

end AsyncEvents

end FlexRic.Agent
