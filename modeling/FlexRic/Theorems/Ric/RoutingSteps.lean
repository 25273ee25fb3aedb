import FlexRic.Ric.Routing

/-! # What each step of the routing does

One inversion lemma for each action: what the step was taken from and what it has changed. -/

namespace FlexRic.Ric
open Ds E2ap Ep IApp

/-- The request that the loop of the iApp is passing on. -/
def IappPc.request? : IappPc → Option NodeRequest
  | .timing q _ | .arming q _ _ | .sending q _ => some q
  | _ => none

/-- The entry that the loop has yet to add to `map_ric_id`. -/
def IappPc.entry? : IappPc → Option MapEntry
  | .timing _ entry | .arming _ _ entry | .sending _ entry => entry
  | .recording entry => some entry
  | _ => none

/-- The message that the worker handles. -/
def Worker.msg : Worker → NodeMsg
  | .stopping _ m | .looking m | .forwarding m _ => m

/-- The timer that the worker has yet to remove. -/
def Worker.fd? : Worker → Option Nat
  | .stopping fd _ => some fd
  | _ => none

/-- The event that waits for the message, when it is an answer. -/
def answerEvent? (m : NodeMsg) : Option PendingEventRic := m.answers?.map fun kind => ⟨kind.pendingEvent, m.ricId⟩

/-- Where the loop is after `e2ap_send_bytes_ric`. -/
def IappPc.afterSend : Option MapEntry → IappPc
  | some entry => .recording entry
  | none => .idle

/-- The action is one of the iApp's loop. -/
def Act.ofIapp : Act → Bool
  | .e42Setup .. | .register | .e42Request .. | .e42Delete _ | .takeId | .createTimer _ | .arm | .send | .record => true
  | _ => false

namespace Routing

section Steps
variable {cfg : Config} {s t : Routing} {fd i j n : Nat} {info : SctpInfo} {m : NodeMsg} {x : XappRicId}

theorem e42Setup_inv (h : step cfg s (.e42Setup n info) = .next t) : s.loop = .idle ∧
    t = { s with
      loop := .registering (s.iapp.xappId % 65536) info
      iapp.xappId := (s.iapp.xappId + 1) % 2 ^ 32 } := by
  obtain ⟨_, hw, h⟩ := Outcome.bind_eq_next.mp h
  obtain ⟨_, -, h⟩ := Outcome.bind_eq_next.mp h
  exact ⟨Outcome.await_eq_next.mp hw, (Outcome.next.inj h).symm⟩

theorem register_inv (h : step cfg s .register = .next t) : ∃ xappId info xapps,
    s.loop = .registering xappId info ∧ addMapXappsSad s.iapp.xapps xappId info = .ok xapps ∧
    t = { s with loop := .idle, iapp.xapps := xapps } := by
  simp only [step] at h
  split at h
  · next xappId info hl =>
    obtain ⟨xapps, hx, h⟩ := Outcome.bind_eq_next.mp h
    exact ⟨xappId, info, xapps, hl, Outcome.ofExcept_eq_next.mp hx, (Outcome.next.inj h).symm⟩
  · cases h

/-- The tests that a request passes before the lock is taken. -/
def Accepts (cfg : Config) (s : Routing) (req : E42Request) : Prop :=
  req.xappId < 65536 ∧ req.xappId ≤ s.iapp.xappId ∧ req.e2NodeId ∈ cfg.e2Nodes

theorem e42Request_inv {req : E42Request} (h : step cfg s (.e42Request req info) = .next t) :
    s.loop = .idle ∧ s.Accepts cfg req ∧ t = { s with loop := .stamping req info } := by
  obtain ⟨_, hw, h₁⟩ := Outcome.bind_eq_next.mp h
  obtain ⟨valid, hv, h₂⟩ := Outcome.bind_eq_next.mp h₁
  obtain ⟨_, hc, h₃⟩ := Outcome.bind_eq_next.mp h₂
  obtain ⟨_, hn, h₄⟩ := Outcome.bind_eq_next.mp h₃
  obtain ⟨_, hx, hv⟩ := Outcome.bind_eq_next.mp hv
  have hle : req.xappId ≤ s.iapp.xappId := by
    rw [← Outcome.next.inj hv] at hc
    simpa using Outcome.check_eq_next.mp hc
  exact ⟨Outcome.await_eq_next.mp hw, ⟨Outcome.check_eq_next.mp hx, hle,
    by simpa [validGlobalE2Node] using Outcome.check_eq_next.mp hn⟩, (Outcome.next.inj h₄).symm⟩

theorem e42Delete_inv {req : E42DeleteRequest} (h : step cfg s (.e42Delete req) = .next t) :
    s.loop = .idle ∧ ∃ n, findRicReqMapRicId s.iapp.mapRicId ⟨req.ricId, req.xappId⟩ = .ok n ∧
    t = { s with
      loop := .timing ⟨.subscriptionDelete, n.e2NodeId, { req.ricId with ricReqId := n.ricReqId }, []⟩ none } := by
  obtain ⟨_, hw, h⟩ := Outcome.bind_eq_next.mp h
  obtain ⟨n, hn, h⟩ := Outcome.bind_eq_next.mp h
  exact ⟨Outcome.await_eq_next.mp hw, n, Outcome.ofExcept_eq_next.mp hn, (Outcome.next.inj h).symm⟩

theorem takeId_inv (h : step cfg s .takeId = .next t) : ∃ req info, s.loop = .stamping req info ∧
    t = { s with
      ric.reqId := (s.ric.reqId + 1) % 2 ^ 32
      loop := .timing ⟨req.kind, req.e2NodeId, stamp req.ricId s.freshId, req.body⟩
        (some (⟨req.e2NodeId, s.freshId⟩, ⟨req.ricId, req.xappId⟩))
      issued := ⟨s.freshId, req, info⟩ :: s.issued } := by
  simp only [step] at h
  split at h
  · next req info hl => exact ⟨req, info, hl, (Outcome.next.inj h).symm⟩
  · cases h

theorem createTimer_inv (h : step cfg s (.createTimer fd) = .next t) : ∃ q entry, s.loop = .timing q entry ∧
    0 < fd ∧ fd ∉ s.ric.asio ∧ t = { s with loop := .arming q fd entry, ric.asio := fd :: s.ric.asio } := by
  simp only [step] at h
  split at h
  · next q entry hl =>
    obtain ⟨_, hw, h⟩ := Outcome.bind_eq_next.mp h
    obtain ⟨hpos, hfd⟩ := Outcome.await_eq_next.mp hw
    exact ⟨q, entry, hl, hpos, hfd, (Outcome.next.inj h).symm⟩
  · cases h

theorem arm_inv (h : step cfg s .arm = .next t) : ∃ q fd entry, s.loop = .arming q fd entry ∧
    t = { s with
      loop := .sending q entry
      ric.pending := s.ric.pending.insert fd (requestEvent q)
      outstanding := (fd, requestEvent q) :: s.outstanding } := by
  simp only [step] at h
  split at h
  · next q fd entry hl => exact ⟨q, fd, entry, hl, (Outcome.next.inj h).symm⟩
  · cases h

theorem send_inv (h : step cfg s .send = .next t) : ∃ q entry, s.loop = .sending q entry ∧
    t = { s with loop := .afterSend entry, toNode := s.toNode ++ [q] } := by
  simp only [step] at h
  split at h
  · next q entry hl =>
    refine ⟨q, entry, hl, ?_⟩
    rw [← Outcome.next.inj h]
    cases entry <;> rfl
  · cases h

theorem record_inv (h : step cfg s .record = .next t) : ∃ entry mapRicId, s.loop = .recording entry ∧
    addMapRicId s.iapp.mapRicId entry.1 entry.2 = .ok mapRicId ∧
    t = { s with loop := .idle, iapp.mapRicId := mapRicId } := by
  simp only [step] at h
  split at h
  · next entry hl =>
    obtain ⟨map, hm, h⟩ := Outcome.bind_eq_next.mp h
    exact ⟨entry, map, hl, Outcome.ofExcept_eq_next.mp hm, (Outcome.next.inj h).symm⟩
  · cases h

theorem nodeAnswer_inv (h : step cfg s (.nodeAnswer i m) = .next t) : ∃ q subscribed, s.toNode[i]? = some q ∧
    m.answers? = some q.kind ∧ m.ricId = q.ricId ∧ (∀ id ∈ subscribed, id ∈ s.subscribed ∨ id = q.ricId) ∧
    t = { s with
      toNode := s.toNode.eraseIdx i, subscribed, toRic := s.toRic ++ [m], fromNodes := m :: s.fromNodes } := by
  obtain ⟨q, hq, h⟩ := Outcome.bind_eq_next.mp h
  obtain ⟨_, hw, h⟩ := Outcome.bind_eq_next.mp h
  obtain ⟨hk, hid⟩ := Outcome.await_eq_next.mp hw
  refine ⟨q, _, Outcome.ofOption_eq_next.mp hq, hk, hid, fun id hm => ?_, (Outcome.next.inj h).symm⟩
  split at hm
  · rcases List.mem_cons.mp hm with rfl | hm
    · exact .inr rfl
    · exact .inl hm
  · exact .inl hm

theorem nodeIndicate_inv {m : RicIndication} (h : step cfg s (.nodeIndicate m) = .next t) : m.ricId ∈ s.subscribed ∧
    t = { s with toRic := s.toRic ++ [.indication m], fromNodes := .indication m :: s.fromNodes } := by
  obtain ⟨_, hw, h⟩ := Outcome.bind_eq_next.mp h
  exact ⟨Outcome.await_eq_next.mp hw, (Outcome.next.inj h).symm⟩

/-- A worker that takes an answer removes its event from the table; one that takes an indication does not
touch the table. -/
theorem take_inv (h : step cfg s (.take i) = .next t) : ∃ m, s.toRic[i]? = some m ∧
    ((∃ ev fd pending, answerEvent? m = some ev ∧ stopPendingEvent s.ric.pending ev = .ok (fd, pending) ∧
        t = { s with
          toRic := s.toRic.eraseIdx i, ric.pending := pending, workers := .stopping fd m :: s.workers
          outstanding := s.outstanding.eraseP fun e => e.2 = ev }) ∨
      (answerEvent? m = none ∧ m.ricId.ranFuncId > 0 ∧ m.ricId.ranFuncId ∈ cfg.plugins ∧
        t = { s with toRic := s.toRic.eraseIdx i, workers := .looking m :: s.workers })) := by
  obtain ⟨m, hm, h⟩ := Outcome.bind_eq_next.mp h
  refine ⟨m, Outcome.ofOption_eq_next.mp hm, ?_⟩
  split at h
  · next kind hk =>
    obtain ⟨⟨fd, pending⟩, hp, h⟩ := Outcome.bind_eq_next.mp h
    exact .inl ⟨_, fd, pending, by rw [answerEvent?, hk]; rfl, Outcome.ofExcept_eq_next.mp hp,
      (Outcome.next.inj h).symm⟩
  · next hk =>
    obtain ⟨_, hr, h⟩ := Outcome.bind_eq_next.mp h
    obtain ⟨_, hp, h⟩ := Outcome.bind_eq_next.mp h
    exact .inr ⟨by rw [answerEvent?, hk]; rfl, Outcome.check_eq_next.mp hr, Outcome.check_eq_next.mp hp,
      (Outcome.next.inj h).symm⟩

theorem rmFd_inv (h : step cfg s (.rmFd j) = .next t) : ∃ fd m, s.workers[j]? = some (.stopping fd m) ∧
    t = { s with ric.asio := s.ric.asio.erase fd, workers := s.workers.set j (.looking m) } := by
  simp only [step] at h
  split at h
  · next fd m hj =>
    obtain ⟨_, -, h⟩ := Outcome.bind_eq_next.mp h
    obtain ⟨_, -, h⟩ := Outcome.bind_eq_next.mp h
    obtain ⟨_, -, h⟩ := Outcome.bind_eq_next.mp h
    exact ⟨fd, m, hj, (Outcome.next.inj h).symm⟩
  · cases h

theorem lookup_inv (h : step cfg s (.lookup j) = .next t) : ∃ m x, s.workers[j]? = some (.looking m) ∧
    s.loop.writeLocked = false ∧ findXappMapRicId s.iapp.mapRicId (m.ricId.ricReqId % 65536) = .ok x ∧
    m.ricId.ranFuncId = x.ricId.ranFuncId ∧ m.ricId.ricInstId = x.ricId.ricInstId ∧
    t = { s with workers := s.workers.set j (.forwarding m x) } := by
  simp only [step] at h
  split at h
  · next m hj =>
    obtain ⟨_, hw, h⟩ := Outcome.bind_eq_next.mp h
    obtain ⟨x, hx, h⟩ := Outcome.bind_eq_next.mp h
    obtain ⟨_, hr, h⟩ := Outcome.bind_eq_next.mp h
    obtain ⟨_, hi, h⟩ := Outcome.bind_eq_next.mp h
    exact ⟨m, x, hj, Outcome.await_eq_next.mp hw, Outcome.ofExcept_eq_next.mp hx, Outcome.check_eq_next.mp hr,
      Outcome.check_eq_next.mp hi, (Outcome.next.inj h).symm⟩
  · cases h

theorem forward_inv (h : step cfg s (.forward j) = .next t) : ∃ m x info,
    s.workers[j]? = some (.forwarding m x) ∧ findMapXappsSad s.iapp.xapps x.xappId = .ok info ∧
    t = { s with
      workers := s.workers.eraseIdx j, forwarded := ⟨m, info, answerToXapp x m⟩ :: s.forwarded } := by
  simp only [step] at h
  split at h
  · next m x hj =>
    obtain ⟨info, hi, h⟩ := Outcome.bind_eq_next.mp h
    exact ⟨m, x, info, hj, Outcome.ofExcept_eq_next.mp hi, (Outcome.next.inj h).symm⟩
  · cases h

theorem epoll_inv {fds : List Nat} (h : step cfg s (.epoll fds) = .next t) :
    s.fetched = [] ∧ (∀ fd ∈ fds, fd ∈ s.ric.asio) ∧ t = { s with fetched := fds } := by
  obtain ⟨_, hw, h⟩ := Outcome.bind_eq_next.mp h
  obtain ⟨hf, -, -, -, hfds⟩ := Outcome.await_eq_next.mp hw
  exact ⟨hf, hfds, (Outcome.next.inj h).symm⟩

theorem pendEvent_inv (h : step cfg s .pendEvent = .next t) : ∃ fd rest ev, s.fetched = fd :: rest ∧
    Ric.pendEvent s.ric.pending fd = .ok ev ∧ t = { s with fetched := rest } := by
  simp only [step] at h
  split at h
  · next fd rest hf =>
    obtain ⟨ev, he, h⟩ := Outcome.bind_eq_next.mp h
    exact ⟨fd, rest, ev, hf, Outcome.ofExcept_eq_next.mp he, (Outcome.next.inj h).symm⟩
  · cases h

end Steps

/-! ### What the other steps leave alone -/

section Frame
variable {cfg : Config} {s t : Routing} {a : Act}

theorem frame_of_step (h : step cfg s a = .next t) (ha : a.ofIapp = false) :
    t.loop = s.loop ∧ t.iapp = s.iapp ∧ t.issued = s.issued := by
  cases a with
  | e42Setup | register | e42Request | e42Delete | takeId | createTimer | arm | send | record => cases ha
  | nodeAnswer i m => obtain ⟨_, _, -, -, -, -, rfl⟩ := nodeAnswer_inv h; exact ⟨rfl, rfl, rfl⟩
  | nodeIndicate m => obtain ⟨-, rfl⟩ := nodeIndicate_inv h; exact ⟨rfl, rfl, rfl⟩
  | take i => obtain ⟨_, -, ⟨_, _, _, -, -, rfl⟩ | ⟨-, -, -, rfl⟩⟩ := take_inv h <;> exact ⟨rfl, rfl, rfl⟩
  | rmFd j => obtain ⟨_, _, -, rfl⟩ := rmFd_inv h; exact ⟨rfl, rfl, rfl⟩
  | lookup j => obtain ⟨_, _, -, -, -, -, -, rfl⟩ := lookup_inv h; exact ⟨rfl, rfl, rfl⟩
  | forward j => obtain ⟨_, _, _, -, -, rfl⟩ := forward_inv h; exact ⟨rfl, rfl, rfl⟩
  | epoll fds => obtain ⟨-, -, rfl⟩ := epoll_inv h; exact ⟨rfl, rfl, rfl⟩
  | pendEvent => obtain ⟨_, _, _, -, -, rfl⟩ := pendEvent_inv h; exact ⟨rfl, rfl, rfl⟩

theorem issued_of_step (h : step cfg s a = .next t) (ha : a ≠ .takeId) : t.issued = s.issued := by
  cases a with
  | takeId => exact absurd rfl ha
  | e42Setup n info => obtain ⟨-, rfl⟩ := e42Setup_inv h; rfl
  | register => obtain ⟨_, _, _, -, -, rfl⟩ := register_inv h; rfl
  | e42Request req info => obtain ⟨-, -, rfl⟩ := e42Request_inv h; rfl
  | e42Delete req => obtain ⟨-, _, -, rfl⟩ := e42Delete_inv h; rfl
  | createTimer fd => obtain ⟨_, _, -, -, -, rfl⟩ := createTimer_inv h; rfl
  | arm => obtain ⟨_, _, _, -, rfl⟩ := arm_inv h; rfl
  | send => obtain ⟨_, _, -, rfl⟩ := send_inv h; rfl
  | record => obtain ⟨_, _, -, -, rfl⟩ := record_inv h; rfl
  | nodeAnswer | nodeIndicate | take | rmFd | lookup | forward | epoll | pendEvent => exact (frame_of_step h rfl).2.2

end Frame

end Routing

/-! ### One node, for concrete runs -/

def oneNode : Config := ⟨[gnb], [2]⟩

/-- A control request to the node. -/
def controlGnb (xappId ricReqId : Nat) (h : ricReqId < 65536) : E42Request :=
  ⟨.control, xappId, gnb, ⟨ricReqId, 0, 2⟩, [], by decide, h⟩

/-- The steps that pass a request on. -/
def passOn (req : E42Request) (info : SctpInfo) (fd : Nat) : List Act :=
  [.e42Request req info, .takeId, .createTimer fd, .arm, .send, .record]

end FlexRic.Ric
