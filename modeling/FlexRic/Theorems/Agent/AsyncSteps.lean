import FlexRic.Agent.AsyncEvents

/-! # What the steps of the agent's threads do -/

namespace FlexRic.Agent
open Ds E2ap

namespace AsyncEvents
variable {s t : AsyncEvents} {i : Nat}

/-- The indication that a call has taken from the table, and has not pushed yet. -/
def AsyncCall.aind? : AsyncCall → Option AindEvent
  | .pushing _ aind => some aind
  | _ => none

theorem step_call_inv {ricReqId : UInt32} {indData : Nat} (h : s.step (.call ricReqId indData) = .next t) :
    t = { s with calls := s.calls ++ [.looking ricReqId indData 0] } := (Outcome.next.inj h).symm

/-- A look-up takes what it needs of the subscription that it finds, or it is made again. -/
theorem step_lookup_inv (h : s.step (.lookup i) = .next t) : ∃ ricReqId indData tries c,
    s.calls[i]? = some (.looking ricReqId indData tries) ∧ t = { s with calls := s.calls.set i c } ∧
    ((findRicReqId s.agent ricReqId = none ∧ c = .looking ricReqId indData (tries + 1)) ∨
      ∃ indEv fd, findRicReqId s.agent ricReqId = some (indEv, fd) ∧
        c = .pushing ricReqId ⟨indEv.ricId, indEv.sm, indEv.actionId, indData⟩) := by
  simp only [step] at h
  split at h
  · next ricReqId indData tries hc =>
    split at h
    · next indEv fd hf => exact ⟨ricReqId, indData, tries, _, hc, (Outcome.next.inj h).symm, .inr ⟨indEv, fd, hf, rfl⟩⟩
    · next hf =>
      split at h
      · exact ⟨ricReqId, indData, tries, _, hc, (Outcome.next.inj h).symm, .inl ⟨hf, rfl⟩⟩
      · cases h
  · cases h

theorem step_push_inv (h : s.step (.push i) = .next t) : ∃ ricReqId aind,
    s.calls[i]? = some (.pushing ricReqId aind) ∧ t = { s with
      aind := s.aind ++ [aind], calls := s.calls.set i (.writing ricReqId), pushed := s.pushed ++ [aind] } := by
  simp only [step] at h
  split at h
  · next ricReqId aind hc => exact ⟨ricReqId, aind, hc, (Outcome.next.inj h).symm⟩
  · cases h

theorem step_write_inv (h : s.step (.write i) = .next t) : ∃ ricReqId,
    s.calls[i]? = some (.writing ricReqId) ∧ t = { s with
      pipe := s.pipe + lineLength ricReqId, ready := true, calls := s.calls.eraseIdx i } := by
  simp only [step] at h
  split at h
  · next ricReqId hc =>
    obtain ⟨_, -, h⟩ := Outcome.bind_eq_next.mp h
    obtain ⟨_, -, h⟩ := Outcome.bind_eq_next.mp h
    exact ⟨ricReqId, hc, (Outcome.next.inj h).symm⟩
  · cases h

theorem step_epoll_inv (h : s.step .epoll = .next t) : s.loop = .waiting ∧ s.ready = true ∧
    ((0 < s.pipe ∧ t = { s with ready := false, loop := .popping }) ∨ s.pipe = 0 ∧ t = { s with ready := false }) := by
  obtain ⟨_, hw, h⟩ := Outcome.bind_eq_next.mp h
  obtain ⟨hl, hr⟩ := Outcome.await_eq_next.mp hw
  refine ⟨hl, hr, ?_⟩
  split at h
  · next hp => exact .inl ⟨hp, (Outcome.next.inj h).symm⟩
  · next hp => exact .inr ⟨Nat.eq_zero_of_not_pos hp, (Outcome.next.inj h).symm⟩

theorem step_pop_inv (h : s.step .pop = .next t) : ∃ aiEv aind, s.loop = .popping ∧ s.aind = aiEv :: aind ∧
    t = { s with aind, loop := .sending aiEv, popped := s.popped ++ [aiEv] } := by
  obtain ⟨_, hw, h⟩ := Outcome.bind_eq_next.mp h
  split at h
  · cases h
  · next aiEv aind ha => exact ⟨aiEv, aind, Outcome.await_eq_next.mp hw, ha, (Outcome.next.inj h).symm⟩

theorem step_send_inv {data : SmIndData} (h : s.step (.send data) = .next t) : ∃ aiEv, s.loop = .sending aiEv ∧
    t = { s with loop := .consuming, sent := .indication (generateAindication data aiEv) :: s.sent } := by
  simp only [step] at h
  split at h
  · next aiEv hl => exact ⟨aiEv, hl, (Outcome.next.inj h).symm⟩
  · cases h

theorem step_consume_inv (h : s.step .consume = .next t) : s.loop = .consuming ∧ 0 < s.pipe ∧
    t = { s with pipe := s.pipe - min 8 s.pipe, loop := .waiting } := by
  obtain ⟨_, hw, h⟩ := Outcome.bind_eq_next.mp h
  obtain ⟨hl, hp⟩ := Outcome.await_eq_next.mp hw
  exact ⟨hl, hp, (Outcome.next.inj h).symm⟩

theorem step_message_inv {e : SubscriptionEvent} (h : s.step (.message e) = .next t) : ∃ agent ans,
    s.loop = .waiting ∧ s.agent.handle e = .ok (agent, ans) ∧ t = { s with agent, sent := answer ans :: s.sent } := by
  obtain ⟨_, hw, h⟩ := Outcome.bind_eq_next.mp h
  obtain ⟨⟨agent, ans⟩, ho, h⟩ := Outcome.bind_eq_next.mp h
  exact ⟨agent, ans, Outcome.await_eq_next.mp hw, Outcome.ofExcept_eq_next.mp ho, (Outcome.next.inj h).symm⟩

/-- What is written to the pipe fits the buffer it is written from. -/
theorem lineLength_bound (ricReqId : UInt32) : 0 < lineLength ricReqId ∧ lineLength ricReqId < 31 := by
  have hlt : ricReqId.toNat < 10 ^ 10 := by
    have := ricReqId.toNat_lt
    omega
  have := (Nat.length_toDigits_le_iff (k := 10) (by decide : 1 < 10) (by decide)).mpr hlt
  unfold lineLength
  omega

end AsyncEvents

end FlexRic.Agent
