import FlexRic.Theorems.Ric.RequestIds

/-! # What the nodes are asked

Every request on its way to a node belongs to a request of an xApp: it is that request, or the deletion of its
subscription, it has the identifier that was given, and it goes to the node that the xApp has named. -/

namespace FlexRic.Ric
open Ds E2ap Ep IApp

/-- The node is asked what the request of the xApp is about, or to delete it. -/
structure Issue.Asks (i : Issue) (q : NodeRequest) : Prop where
  ricId : q.ricId = i.ricId
  node : q.e2NodeId = i.req.e2NodeId
  kind : q.kind = i.req.kind ∨ q.kind = .subscriptionDelete

/-- The step is one of a node. -/
def Act.ofNode : Act → Bool
  | .nodeAnswer .. | .nodeIndicate _ => true
  | _ => false

namespace Routing

section Steps
variable {cfg : Config} {s t : Routing} {a : Act} {q : NodeRequest} {id : RicGenId} {i : Issue}

/-- The request is with the loop, or on its way to its node. -/
def Held (s : Routing) (q : NodeRequest) : Prop := s.loop.request? = some q ∨ q ∈ s.toNode

/-- What is given an identifier keeps it. -/
theorem issued_mono (h : step cfg s a = .next t) (hi : i ∈ s.issued) : i ∈ t.issued := by
  by_cases ha : a = .takeId
  · subst ha
    obtain ⟨_, _, -, rfl⟩ := takeId_inv h
    exact List.mem_cons_of_mem _ hi
  · exact issued_of_step h ha ▸ hi

/-- A request for a node comes from an identifier that is given, or from a deletion. -/
theorem held_of_step (h : step cfg s a = .next t) (hq : t.Held q) : s.Held q ∨
    (∃ req info, s.loop = .stamping req info ∧ q = ⟨req.kind, req.e2NodeId, stamp req.ricId s.freshId, req.body⟩ ∧
      ⟨s.freshId, req, info⟩ ∈ t.issued) ∨
    ∃ req n, a = .e42Delete req ∧ s.loop = .idle ∧ findRicReqMapRicId s.iapp.mapRicId ⟨req.ricId, req.xappId⟩ = .ok n ∧
      q = ⟨.subscriptionDelete, n.e2NodeId, { req.ricId with ricReqId := n.ricReqId }, []⟩ := by
  cases a with
  | e42Setup n info =>
    obtain ⟨-, rfl⟩ := e42Setup_inv h
    exact .inl (.inr (hq.resolve_left nofun))
  | register =>
    obtain ⟨_, _, _, -, -, rfl⟩ := register_inv h
    exact .inl (.inr (hq.resolve_left nofun))
  | e42Request req info =>
    obtain ⟨-, -, rfl⟩ := e42Request_inv h
    exact .inl (.inr (hq.resolve_left nofun))
  | e42Delete req =>
    obtain ⟨hl, n, hn, rfl⟩ := e42Delete_inv h
    rcases hq with hq | hq
    · obtain rfl := Option.some.inj hq
      exact .inr (.inr ⟨req, n, rfl, hl, hn, rfl⟩)
    · exact .inl (.inr hq)
  | takeId =>
    obtain ⟨req, info, hl, rfl⟩ := takeId_inv h
    rcases hq with hq | hq
    · obtain rfl := Option.some.inj hq
      exact .inr (.inl ⟨req, info, hl, rfl, List.mem_cons_self⟩)
    · exact .inl (.inr hq)
  | createTimer fd =>
    obtain ⟨q', entry, hl, -, -, rfl⟩ := createTimer_inv h
    exact .inl (hq.imp_left fun hq => by rw [hl]; exact hq)
  | arm =>
    obtain ⟨q', fd, entry, hl, rfl⟩ := arm_inv h
    exact .inl (hq.imp_left fun hq => by rw [hl]; exact hq)
  | send =>
    obtain ⟨q', entry, hl, rfl⟩ := send_inv h
    rcases hq with hq | hq
    · cases entry <;> cases hq
    · rcases List.mem_append.mp hq with hq | hq
      · exact .inl (.inr hq)
      · obtain rfl := List.mem_singleton.mp hq
        exact .inl (.inl (by rw [hl]; rfl))
  | record =>
    obtain ⟨_, _, -, -, rfl⟩ := record_inv h
    exact .inl (.inr (hq.resolve_left nofun))
  | nodeAnswer i m =>
    obtain ⟨_, _, -, -, -, -, rfl⟩ := nodeAnswer_inv h
    exact .inl (hq.imp_right List.mem_of_mem_eraseIdx)
  | nodeIndicate m => obtain ⟨-, rfl⟩ := nodeIndicate_inv h; exact .inl hq
  | take i => obtain ⟨_, -, ⟨_, _, _, -, -, rfl⟩ | ⟨-, -, -, rfl⟩⟩ := take_inv h <;> exact .inl hq
  | rmFd j => obtain ⟨_, _, -, rfl⟩ := rmFd_inv h; exact .inl hq
  | lookup j => obtain ⟨_, _, -, -, -, -, -, rfl⟩ := lookup_inv h; exact .inl hq
  | forward j => obtain ⟨_, _, _, -, -, rfl⟩ := forward_inv h; exact .inl hq
  | epoll fds => obtain ⟨-, -, rfl⟩ := epoll_inv h; exact .inl hq
  | pendEvent => obtain ⟨_, _, _, -, -, rfl⟩ := pendEvent_inv h; exact .inl hq

/-- The steps of the RIC change neither what the nodes are subscribed to nor what they have sent. -/
theorem nodes_frame (h : step cfg s a = .next t) (ha : a.ofNode = false) :
    t.subscribed = s.subscribed ∧ t.fromNodes = s.fromNodes := by
  cases a with
  | nodeAnswer | nodeIndicate => cases ha
  | e42Setup n info => obtain ⟨-, rfl⟩ := e42Setup_inv h; exact ⟨rfl, rfl⟩
  | register => obtain ⟨_, _, _, -, -, rfl⟩ := register_inv h; exact ⟨rfl, rfl⟩
  | e42Request req info => obtain ⟨-, -, rfl⟩ := e42Request_inv h; exact ⟨rfl, rfl⟩
  | e42Delete req => obtain ⟨-, _, -, rfl⟩ := e42Delete_inv h; exact ⟨rfl, rfl⟩
  | takeId => obtain ⟨_, _, -, rfl⟩ := takeId_inv h; exact ⟨rfl, rfl⟩
  | createTimer fd => obtain ⟨_, _, -, -, -, rfl⟩ := createTimer_inv h; exact ⟨rfl, rfl⟩
  | arm => obtain ⟨_, _, _, -, rfl⟩ := arm_inv h; exact ⟨rfl, rfl⟩
  | send => obtain ⟨_, _, -, rfl⟩ := send_inv h; exact ⟨rfl, rfl⟩
  | record => obtain ⟨_, _, -, -, rfl⟩ := record_inv h; exact ⟨rfl, rfl⟩
  | take i => obtain ⟨_, -, ⟨_, _, _, -, -, rfl⟩ | ⟨-, -, -, rfl⟩⟩ := take_inv h <;> exact ⟨rfl, rfl⟩
  | rmFd j => obtain ⟨_, _, -, rfl⟩ := rmFd_inv h; exact ⟨rfl, rfl⟩
  | lookup j => obtain ⟨_, _, -, -, -, -, -, rfl⟩ := lookup_inv h; exact ⟨rfl, rfl⟩
  | forward j => obtain ⟨_, _, _, -, -, rfl⟩ := forward_inv h; exact ⟨rfl, rfl⟩
  | epoll fds => obtain ⟨-, -, rfl⟩ := epoll_inv h; exact ⟨rfl, rfl⟩
  | pendEvent => obtain ⟨_, _, _, -, -, rfl⟩ := pendEvent_inv h; exact ⟨rfl, rfl⟩

/-- A subscription is added when a node answers the request for it. -/
theorem subscribed_of_step (h : step cfg s a = .next t) (hid : id ∈ t.subscribed) :
    id ∈ s.subscribed ∨ ∃ q ∈ s.toNode, q.kind = .subscription ∧ id = q.ricId := by
  cases ha : a.ofNode with
  | false => exact .inl ((nodes_frame h ha).1 ▸ hid)
  | true =>
    cases a with
    | nodeAnswer i m =>
      obtain ⟨q, hq, h⟩ := Outcome.bind_eq_next.mp h
      obtain ⟨_, -, h⟩ := Outcome.bind_eq_next.mp h
      obtain rfl := Outcome.next.inj h
      dsimp only at hid
      split at hid
      · next hk =>
        rcases List.mem_cons.mp hid with rfl | hid
        · exact .inr ⟨q, List.mem_of_getElem? (Outcome.ofOption_eq_next.mp hq), hk, rfl⟩
        · exact .inl hid
      · exact .inl hid
    | nodeIndicate m =>
      obtain ⟨-, rfl⟩ := nodeIndicate_inv h
      exact .inl hid
    | _ => cases ha

/-! ### Requests of xApps behind the requests of nodes -/

/-- An entry that the loop finds for a deletion is that of a request with the identifiers. -/
theorem Ids.issue_of_find (h : s.Ids) (hl : s.loop = .idle) {xr : XappRicId} {n : E2NodeRicReq}
    (hn : findRicReqMapRicId s.iapp.mapRicId xr = .ok n) :
    ∃ i ∈ s.issued, n = ⟨i.req.e2NodeId, i.id⟩ ∧ xr = ⟨i.req.ricId, i.req.xappId⟩ := by
  have hh := h.holds_of_unlocked (by rw [hl]; rfl)
  obtain ⟨i, hi, heq⟩ := List.mem_map.mp (findRicReqMapRicId_mem hh hn)
  obtain ⟨rfl, rfl⟩ := Prod.mk.inj heq
  exact ⟨i, hi, rfl, rfl⟩

/-- What the nodes are asked, and what they are subscribed to, belongs to requests of xApps. -/
structure Asked (s : Routing) : Prop where
  held : ∀ q, s.Held q → ∃ i ∈ s.issued, i.Asks q
  subscribed : ∀ id ∈ s.subscribed, ∃ i ∈ s.issued, id = i.ricId ∧ i.req.kind = .subscription

theorem asked_init : init.Asked := ⟨fun _ hq => hq.elim nofun nofun, nofun⟩

theorem Asked.step (h : s.Asked) (hi : s.Ids) (hs : step cfg s a = .next t) : t.Asked where
  held q hq := by
    rcases held_of_step hs hq with hq | ⟨req, info, -, rfl, hm⟩ | ⟨req, n, -, hl, hn, rfl⟩
    · obtain ⟨i, hi, ha⟩ := h.held q hq
      exact ⟨i, issued_mono hs hi, ha⟩
    · exact ⟨_, hm, stamp_of_lt req.ricReqId_lt, rfl, .inl rfl⟩
    · obtain ⟨i, hm, rfl, hx⟩ := hi.issue_of_find hl hn
      obtain ⟨hid, -⟩ := XappRicId.mk.inj hx
      exact ⟨i, issued_mono hs hm, by rw [Issue.ricId, hid], rfl, .inr rfl⟩
  subscribed id hid := by
    rcases subscribed_of_step hs hid with hid | ⟨q, hq, hk, rfl⟩
    · obtain ⟨i, hm, hid⟩ := h.subscribed id hid
      exact ⟨i, issued_mono hs hm, hid⟩
    · obtain ⟨i, hm, ha⟩ := h.held q (.inr hq)
      refine ⟨i, issued_mono hs hm, ha.ricId, ?_⟩
      rcases ha.kind with hkind | hkind
      · exact hkind ▸ hk
      · rw [hk] at hkind
        cases hkind

theorem asked_of_run {as : List Act} (h : (routing cfg).Run System.Any as s) : s.Asked :=
  h.invariant_trace (I := fun _ s => s.Asked) asked_init fun _ _ _ _ hr ha _ hs => ha.step (ids_of_run hr) hs

end Steps

end Routing

end FlexRic.Ric
