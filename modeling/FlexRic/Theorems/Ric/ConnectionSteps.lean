import FlexRic.Ric.Connections
import FlexRic.Theorems.Ric.E2Nodes

/-! # What each step of the connections does

One inversion lemma for each action: what the step was taken from and what it has changed. -/

namespace FlexRic.Ric
open Ds E2ap Ep MsgHand IApp XApp

namespace Connections

section Steps
variable {plugins : List Nat} {s t : Connections} {req : E2SetupRequest} {info : SctpInfo} {i j n : Nat}
  {who : Notifier} {p : Nat × Nat × Nat}

theorem setupArrives_inv (h : step plugins s (.setupArrives req info) = .next t) : s.loop = .idle ∧
    t = { s with queued := s.queued ++ [(req, info)], live := (req.id, info) :: s.live } := by
  obtain ⟨_, hw, h⟩ := Outcome.bind_eq_next.mp h
  exact ⟨Outcome.await_eq_next.mp hw, (Outcome.next.inj h).symm⟩

theorem shutdownArrives_inv (h : step plugins s (.shutdownArrives info) = .next t) : s.loop = .idle ∧
    ∃ id reg, s.reg.rmSockAddr info = .ok (id, reg) ∧
      t = { s with reg, loop := .erasing id, live := s.live.filter fun e => ¬info.SamePeer e.2 } := by
  obtain ⟨_, hw, h⟩ := Outcome.bind_eq_next.mp h
  obtain ⟨⟨id, reg⟩, hr, h⟩ := Outcome.bind_eq_next.mp h
  exact ⟨Outcome.await_eq_next.mp hw, id, reg, Outcome.ofExcept_eq_next.mp hr, (Outcome.next.inj h).symm⟩

theorem erase_inv (h : step plugins s .erase = .next t) : ∃ id reg, s.loop = .erasing id ∧ s.connLocked = false ∧
    s.reg.eraseE2Node id = .ok reg ∧ t = { s with reg, loop := .removing id } := by
  simp only [step] at h
  split at h
  · next id hl =>
    obtain ⟨_, hw, h⟩ := Outcome.bind_eq_next.mp h
    obtain ⟨reg, hr, h⟩ := Outcome.bind_eq_next.mp h
    exact ⟨id, reg, hl, Outcome.await_eq_next.mp hw, Outcome.ofExcept_eq_next.mp hr, (Outcome.next.inj h).symm⟩
  · cases h

theorem remove_inv (h : step plugins s .remove = .next t) : ∃ id reg, s.loop = .removing id ∧
    s.reg.rmE2NodeIapp id = .ok reg ∧ t = { s with reg, loop := .notifying .counting } := by
  simp only [step] at h
  split at h
  · next id hl =>
    obtain ⟨reg, hr, h⟩ := Outcome.bind_eq_next.mp h
    exact ⟨id, reg, hl, Outcome.ofExcept_eq_next.mp hr, (Outcome.next.inj h).symm⟩
  · cases h

theorem regSockAddr_inv (h : step plugins s (.regSockAddr i) = .next t) : ∃ req info,
    s.queued[i]? = some (req, info) ∧ t = { s with
      reg := s.reg.regSockAddr req.id info
      queued := s.queued.eraseIdx i
      workers := .adding req info :: s.workers } := by
  obtain ⟨⟨req, info⟩, hq, h⟩ := Outcome.bind_eq_next.mp h
  exact ⟨req, info, Outcome.ofOption_eq_next.mp hq, (Outcome.next.inj h).symm⟩

theorem addE2Node_inv (h : step plugins s (.addE2Node j) = .next t) : ∃ req info reg ans,
    s.workers[j]? = some (.adding req info) ∧ s.reg.addE2NodeIapp req = .ok reg ∧
    generateSetupResponse plugins req = .ok ans ∧
    t = { s with reg, workers := s.workers.set j (.connecting req.id ans info) } := by
  simp only [step] at h
  split at h
  · next req info hj =>
    obtain ⟨reg, hr, h⟩ := Outcome.bind_eq_next.mp h
    obtain ⟨ans, ha, h⟩ := Outcome.bind_eq_next.mp h
    exact ⟨req, info, reg, ans, hj, Outcome.ofExcept_eq_next.mp hr, Outcome.ofExcept_eq_next.mp ha,
      (Outcome.next.inj h).symm⟩
  · cases h

theorem connect_inv (h : step plugins s (.connect j) = .next t) : ∃ id ans info,
    s.workers[j]? = some (.connecting id ans info) ∧ s.connLocked = false ∧ t = { s with
      reg.connE2Nodes := s.reg.connE2Nodes ++ [initE2Node id ans.accepted]
      workers := s.workers.set j (.notifying ans info .counting) } := by
  simp only [step] at h
  split at h
  · next id ans info hj =>
    obtain ⟨_, hw, h⟩ := Outcome.bind_eq_next.mp h
    exact ⟨id, ans, info, hj, Outcome.await_eq_next.mp hw, (Outcome.next.inj h).symm⟩
  · cases h

theorem respond_inv (h : step plugins s (.respond j) = .next t) : ∃ ans info,
    s.workers[j]? = some (.responding ans info) ∧ t = { s with workers := s.workers.eraseIdx j } := by
  simp only [step] at h
  split at h
  · next ans info hj => exact ⟨ans, info, hj, (Outcome.next.inj h).symm⟩
  · cases h

theorem notify_inv (h : step plugins s (.notify who) = .next t) : ∃ n n' sent, s.notice? who = some n ∧
    n.step s.reg s.xapps = .ok (n', sent) ∧ t = sent.elim (s.setNotice n' who) fun m => (s.setNotice n' who).send m.1 m.2 := by
  simp only [step] at h
  split at h
  · next n hn =>
    obtain ⟨⟨n', sent⟩, hs, h⟩ := Outcome.bind_eq_next.mp h
    exact ⟨n, n', sent, hn, Outcome.ofExcept_eq_next.mp hs, (Outcome.next.inj h).symm⟩
  · cases h

/-- Where a notification goes on: in the worker that has the lock, or in the loop. -/
theorem setNotice_cases {n' : Option Notice} {m : Notice} (hn : s.notice? who = some m) :
    (∃ j ans info, who = .worker j ∧ s.workers[j]? = some (.notifying ans info m) ∧
      s.setNotice n' who =
        { s with workers := s.workers.set j (n'.elim (.responding ans info) (.notifying ans info)) }) ∨
    who = .loop ∧ s.loop = .notifying m ∧ s.setNotice n' who = { s with loop := n'.elim .idle .notifying } := by
  cases who with
  | worker j =>
    simp only [notice?] at hn
    split at hn
    · next ans info m' hj =>
      obtain rfl := Option.some.inj hn
      exact .inl ⟨j, ans, info, rfl, hj, by simp only [setNotice, hj]⟩
    · cases hn
  | loop =>
    simp only [notice?] at hn
    split at hn
    · next m' hl =>
      obtain rfl := Option.some.inj hn
      exact .inr ⟨rfl, hl, rfl⟩
    · cases hn

theorem e42Setup_inv (h : step plugins s (.e42Setup n info) = .next t) : s.iappLoop = .idle ∧
    t = { s with
      iappLoop := .registering (s.xappId % 65536) info (carried (generateE2NodeArr s.reg.iappE2Nodes))
      xappId := (s.xappId + 1) % 2 ^ 32 } := by
  obtain ⟨_, hw, h⟩ := Outcome.bind_eq_next.mp h
  obtain ⟨_, -, h⟩ := Outcome.bind_eq_next.mp h
  exact ⟨Outcome.await_eq_next.mp hw, (Outcome.next.inj h).symm⟩

theorem registerXapp_inv (h : step plugins s .registerXapp = .next t) : ∃ xappId info nodes xapps,
    s.iappLoop = .registering xappId info nodes ∧ addMapXappsSad s.xapps xappId info = .ok xapps ∧
    t = { s with iappLoop := .responding xappId info nodes, xapps } := by
  simp only [step] at h
  split at h
  · next xappId info nodes hl =>
    obtain ⟨xapps, hx, h⟩ := Outcome.bind_eq_next.mp h
    exact ⟨xappId, info, nodes, xapps, hl, Outcome.ofExcept_eq_next.mp hx, (Outcome.next.inj h).symm⟩
  · cases h

theorem respondXapp_inv (h : step plugins s .respondXapp = .next t) : ∃ xappId info nodes,
    s.iappLoop = .responding xappId info nodes ∧
    t = { s.send info (.setupResponse xappId nodes) with iappLoop := .idle } := by
  simp only [step] at h
  split at h
  · next xappId info nodes hl => exact ⟨xappId, info, nodes, hl, (Outcome.next.inj h).symm⟩
  · cases h

theorem xappReads_inv (h : step plugins s (.xappReads p) = .next t) : ∃ m inbox nodes,
    (s.xapp p).inbox = m :: inbox ∧ handleNodes (s.xapp p).nodes m = .ok nodes ∧
    t = { s with xapp := fun q => if q = p then ⟨inbox, nodes⟩ else s.xapp q } := by
  simp only [step] at h
  split at h
  · next m inbox hi =>
    obtain ⟨nodes, hn, h⟩ := Outcome.bind_eq_next.mp h
    exact ⟨m, inbox, nodes, hi, Outcome.ofExcept_eq_next.mp hn, (Outcome.next.inj h).symm⟩
  · cases h

end Steps

end Connections

end FlexRic.Ric
