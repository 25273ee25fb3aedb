import FlexRic.XApp.PendingEvents

/-! # Which entry an answer removes from the xApp's table

The table tells events apart by their kind alone. Two requests of one kind that wait at the same time are
one key for it, whatever their identifiers, and the answer to either takes the same entry out. -/

namespace FlexRic.XApp
open Ds E2ap

theorem same_pendingEventXapp {a b : PendingEventXapp} : pendingEventXappOrder.Same a b ↔ a.ev = b.ev := by
  rw [pendingEventXappOrder, Comparator.same_comap, same_pendingEvent]

theorem cmpFdOnEvent_eq_zero {a b : PendingEventXapp} : cmpFdOnEvent a b = 0 ↔ a.ev = b.ev := by
  rw [cmpFdOnEvent, ← PendingEvent.value_inj]
  exact same_fd

section Table
variable {p p' : PendingEvents} {es rest : List (Nat × PendingEventXapp)}

theorem leftKeys_iff : BiMap.LeftKeys fdOrder es ↔ (es.map Prod.fst).Nodup := by
  rw [BiMap.LeftKeys, List.Nodup, List.pairwise_map]
  simp only [same_fd, ne_eq]

theorem holds_registerAll (es : List (Nat × PendingEventXapp)) : (registerAll es).Holds es := by
  induction es with
  | nil => exact BiMap.holds_init
  | cons e es ih => exact ih.insert e.1 e.2

/-- The answer to a request whose kind no other request has. -/
theorem rmPendingEventEv_holds {fd : Nat} {ev key : PendingEventXapp} (h : p.Holds es)
    (hfd : (es.map Prod.fst).Nodup) (hpos : fd > 0) (hp : es.Perm ((fd, ev) :: rest)) (hk : key.ev = ev.ev)
    (hu : ∀ e ∈ rest, e.2.ev ≠ key.ev) : ∃ p', rmPendingEventEv p key = .ok (fd, p') ∧ p'.Holds rest := by
  obtain ⟨p', hx, hh⟩ := h.extractRight (leftKeys_iff.mpr hfd) hp (same_pendingEventXapp.mpr hk)
    (fun e he hs => hu e he (same_pendingEventXapp.mp hs).symm) (cmpFdOnEvent_eq_zero.mpr hk)
  refine ⟨p', ?_, hh⟩
  have hsz : p.size = p'.size + 1 := by rw [h.size_eq, hh.size_eq, hp.length_eq, List.length_cons]
  simp [rmPendingEventEv, hx, hsz, hpos, Bind.bind, Except.bind]

/-- A timer of the table leads to the event that was registered with it. -/
theorem findPendingEventFd_holds (h : p.Holds es) (hfd : (es.map Prod.fst).Nodup) {e : Nat × PendingEventXapp}
    (he : e ∈ es) : findPendingEventFd p e.1 = some e.2 := by
  have hf : p.left.findIf (e.1 == ·) = some e := h.findIf_eq he (by simp) fun e' he' hq =>
    ((leftKeys_iff.mpr hfd).eq_of_same he he' (same_fd.mpr (by simpa using hq))).symm
  rw [findPendingEventFd, hf]
  rfl

/-- The answers to two requests of one kind remove the same entry. -/
theorem rmPendingEventEv_congr (p : PendingEvents) {a b : PendingEventXapp} (h : a.ev = b.ev) :
    rmPendingEventEv p a = rmPendingEventEv p b := by
  have hx : p.extractRight cmpFdOnEvent a = p.extractRight cmpFdOnEvent b :=
    p.extractRight_congr (same_pendingEventXapp.mpr h) fun z => by rw [cmpFdOnEvent, cmpFdOnEvent, h]
  rw [rmPendingEventEv, rmPendingEventEv, hx]

end Table

/-! ### Every order of the answers -/

/-- The answers to the requests of the list, one after the other: each removes the entry of its own
request, with the timer armed for it, and leaves the entries of the requests that still wait, so that each
of their timers still leads to its own request. -/
def AnswersOwn (p : PendingEvents) : List (Nat × PendingEventXapp) → Prop
  | [] => True
  | (fd, ev) :: rest =>
    ∃ p', rmPendingEventEv p ev.answered = .ok (fd, p') ∧ p'.Holds rest ∧
      (∀ e ∈ rest, findPendingEventFd p' e.1 = some e.2) ∧ AnswersOwn p' rest

theorem answersOwn_of_kinds {p : PendingEvents} {es : List (Nat × PendingEventXapp)} (h : p.Holds es)
    (hfd : (es.map Prod.fst).Nodup) (hpos : ∀ e ∈ es, e.1 > 0) (hk : (es.map (·.2.ev)).Nodup) :
    AnswersOwn p es := by
  induction es generalizing p with
  | nil => trivial
  | cons e rest ih =>
    obtain ⟨fd, ev⟩ := e
    rw [List.map_cons, List.nodup_cons] at hk
    have hkey : ev.answered.ev = ev.ev := rfl
    obtain ⟨p', hr, hh⟩ := rmPendingEventEv_holds h hfd (hpos _ (List.mem_cons_self ..)) (.refl _) hkey
      fun e he heq => hk.1 (List.mem_map.mpr ⟨e, he, heq⟩)
    have hfd' := (List.nodup_cons.mp hfd).2
    exact ⟨p', hr, hh, fun e he => findPendingEventFd_holds hh hfd' he,
      ih hh hfd' (fun e he => hpos e (List.mem_cons_of_mem _ he)) hk.2⟩

/-- Two requests of one kind cannot both get their own entry removed first. -/
theorem kinds_of_first {p : PendingEvents} {es : List (Nat × PendingEventXapp)} (hfd : (es.map Prod.fst).Nodup)
    (h : ∀ e ∈ es, ∃ p', rmPendingEventEv p e.2.answered = .ok (e.1, p')) : (es.map (·.2.ev)).Nodup := by
  rw [List.Nodup, List.pairwise_map] at hfd ⊢
  refine hfd.imp_of_mem fun {a b} ha hb hne heq => hne ?_
  obtain ⟨pa, hpa⟩ := h a ha
  obtain ⟨pb, hpb⟩ := h b hb
  have hcongr := rmPendingEventEv_congr p (a := a.2.answered) (b := b.2.answered) heq
  rw [hpa, hpb] at hcongr
  exact (Prod.mk.inj (Except.ok.inj hcongr)).1

/-- For requests with timers of their own and different identifiers: in every order of their answers each
answer removes its own request's entry exactly when no two of the requests have the same kind. The entries are told
apart by the kinds alone, so that the identifiers differ is said of the requests and needed by no step. -/
theorem answersOwn_iff_kinds (es : List (Nat × PendingEventXapp)) (hpos : ∀ e ∈ es, e.1 > 0)
    (hfd : (es.map Prod.fst).Nodup) (_hid : (es.map (·.2.id)).Nodup) :
    (∀ order, order.Perm es → AnswersOwn (registerAll es) order) ↔ (es.map (·.2.ev)).Nodup := by
  constructor
  · intro h
    refine kinds_of_first (p := registerAll es) hfd fun e he => ?_
    obtain ⟨A, B, hAB⟩ := List.append_of_mem he
    obtain ⟨p', hr, -⟩ := h (e :: (A ++ B)) (hAB ▸ List.perm_middle.symm)
    exact ⟨p', hr⟩
  · intro hk order ho
    refine answersOwn_of_kinds ((holds_registerAll es).perm ho.symm) ?_ ?_ ?_
    · exact (ho.map _).nodup_iff.mpr hfd
    · exact fun e he => hpos e (ho.mem_iff.mp he)
    · exact (ho.map _).nodup_iff.mpr hk

/-- A subscription and a control request that wait together. -/
theorem answersOwn_iff_kinds_two :
    (PendingEvent.e42RicSubscriptionRequest ≠ .e42RicControlRequest) ∧
    ∀ order, order.Perm [(5, ⟨.e42RicSubscriptionRequest, ⟨1, 0, 2⟩, 5000⟩), (6, ⟨.e42RicControlRequest, ⟨2, 0, 3⟩, 5000⟩)] →
      AnswersOwn (registerAll
        [(5, ⟨.e42RicSubscriptionRequest, ⟨1, 0, 2⟩, 5000⟩), (6, ⟨.e42RicControlRequest, ⟨2, 0, 3⟩, 5000⟩)]) order :=
  ⟨by decide, (answersOwn_iff_kinds _ (by decide) (by decide) (by decide)).mpr (by decide)⟩

/-- Two control requests that wait together: the answer to the first removes the entry and the timer of the
second. -/
theorem two_control_requests :
    let es : List (Nat × PendingEventXapp) :=
      [(5, ⟨.e42RicControlRequest, ⟨1, 0, 3⟩, 5000⟩), (6, ⟨.e42RicControlRequest, ⟨2, 0, 3⟩, 5000⟩)]
    (es.map Prod.fst).Nodup ∧ (es.map (·.2.id)).Nodup ∧
      (∃ p', rmPendingEventEv (registerAll es) ⟨.e42RicControlRequest, ⟨1, 0, 3⟩, 0⟩ = .ok (6, p') ∧
        findPendingEventFd p' 6 = none) ∧
      ¬∀ order, order.Perm es → AnswersOwn (registerAll es) order := by
  refine ⟨by decide, by decide, ⟨_, rfl, by decide⟩, fun h => ?_⟩
  obtain ⟨p', hr, -⟩ := h _ (.refl _)
  have hr' : rmPendingEventEv (registerAll _) ⟨.e42RicControlRequest, ⟨1, 0, 3⟩, 0⟩ = .ok (5, p') := hr
  have h5 := congrArg (·.toOption.map Prod.fst) hr'
  change _ = some 5 at h5
  revert h5
  decide

end FlexRic.XApp
