import FlexRic.Agent.IndEvents
import FlexRic.Lib.Sequence

/-! # Deletes of subscriptions release exactly what they name

Aperiodic subscriptions share the left key zero, and an extraction by right key takes from the left tree the
entry that the search for the file descriptor meets. What becomes of a delete depends on which entry
that is. -/

namespace FlexRic.Agent
open Ds E2ap

/-! ### What is required of the handlers, and when they grant it -/

/-- The subscriptions in the table, each with its file descriptor. -/
def E2Agent.entries (ag : E2Agent) : List (Nat × IndEvent) := ag.indEvent.left.toList

/-- The subscription has joined the others, with a timer of its own when it is periodic. -/
def Added (ag : E2Agent) (sr : RicSubscriptionRequest) (t : SubscribeTimer) (fd : Nat) (ag' : E2Agent) : Prop :=
  ∃ ev : IndEvent, ev.ricId = sr.ricId ∧ ev.actDef = t.actDef ∧
    ag'.indEvent.Holds ((if t.ms = 0 then 0 else fd, ev) :: ag.entries) ∧
    ag'.io = if t.ms = 0 then ag.io else fd :: ag.io

/-- Exactly the subscription `k` has left the table, with its own timer and its own action definition. -/
def Removed (ag : E2Agent) (k : RicGenId) (ag' : E2Agent) (released : Released) : Prop :=
  ∃ fd ev rest, ag.entries.Perm ((fd, ev) :: rest) ∧ ev.ricId = k ∧ (∀ e ∈ rest, e.2.ricId ≠ k) ∧
    ag'.indEvent.Holds rest ∧
    released.fd = (if fd = 0 then none else some fd) ∧ ag'.io = (if fd = 0 then ag.io else ag.io.erase fd) ∧
    released.actDef = ev.sm.bind fun sm => if sm.hasFreeActDef then some ev.actDef else none

/-- No assertion fails, and the request adds or removes one subscription. -/
def Exact (ag : E2Agent) : SubscriptionEvent → Prop
  | .request sr t fd => ∃ ag' ans, ag.handle (.request sr t fd) = .ok (ag', .response ans) ∧ Added ag sr t fd ag'
  | .deleteRequest sdr => ∃ ag' released,
      ag.handle (.deleteRequest sdr) = .ok (ag', .deleteResponse released ⟨sdr.ricId⟩) ∧
        Removed ag sdr.ricId ag' released

/-- A request is one that the agent supports; a delete names a subscription that the search of the left
tree for its file descriptor meets. -/
def Clear (ag : E2Agent) : SubscriptionEvent → Prop
  | .request sr t _ =>
      (supportedRicSubscriptionRequest sr).isOk ∧ (smPluginAg ag.plugin sr.ricId.ranFuncId).isOk ∧
        0 ≤ t.ms ∧ t.ms ≤ 10000
  | .deleteRequest sdr => ∃ e ∈ ag.entries, e.2.ricId = sdr.ricId ∧ ag.indEvent.left.find e.1 = some e.2

/-- The kernel gives a timer a descriptor that is not in use; zero is the standard input. -/
def NewFd (ag : E2Agent) : SubscriptionEvent → Prop
  | .request _ t fd => 0 < t.ms → 0 < fd ∧ fd ∉ ag.io
  | .deleteRequest _ => True

instance : ∀ ag e, Decidable (Clear ag e)
  | _, .request .. => by unfold Clear; infer_instance
  | _, .deleteRequest _ => by unfold Clear; infer_instance

instance : ∀ ag e, Decidable (NewFd ag e)
  | _, .request .. => by unfold NewFd; infer_instance
  | _, .deleteRequest _ => .isTrue trivial

/-- The RIC identifiers of the subscription requests. -/
def requestedIds (es : List SubscriptionEvent) : List RicGenId :=
  es.filterMap fun
    | .request sr _ _ => some sr.ricId
    | .deleteRequest _ => none

theorem requestedIds_request {sr : RicSubscriptionRequest} {t : SubscribeTimer} {fd : Nat}
    {es : List SubscriptionEvent} : requestedIds (.request sr t fd :: es) = sr.ricId :: requestedIds es := rfl

theorem requestedIds_deleteRequest {sdr : RicSubscriptionDeleteRequest} {es : List SubscriptionEvent} :
    requestedIds (.deleteRequest sdr :: es) = requestedIds es := rfl

section Handlers
variable {ag ag' : E2Agent} {sr : RicSubscriptionRequest} {sdr : RicSubscriptionDeleteRequest}
  {t : SubscribeTimer} {fd : Nat} {es : List SubscriptionEvent} {ans : SubscriptionAnswer}

/-- What a subscription request does when no assertion fails. -/
theorem handle_request_eq_ok : ag.handle (.request sr t fd) = .ok (ag', ans) ↔
    ∃ action sm, supportedRicSubscriptionRequest sr = .ok action ∧
      smPluginAg ag.plugin sr.ricId.ranFuncId = .ok sm ∧
      ans = .response (generateSubscriptionResponse sr.ricId action.id) ∧
      ((0 < t.ms ∧ t.ms ≤ 10000 ∧ ag' = { ag with
          io := fd :: ag.io, indEvent := ag.indEvent.insert fd ⟨sr.ricId, some sm, action.id, t.actDef⟩ }) ∨
        (t.ms = 0 ∧ ag' = { ag with
          indEvent := ag.indEvent.insert 0 ⟨sr.ricId, some sm, action.id, t.actDef⟩ })) := by
  simp only [E2Agent.handle, E2Agent.handleSubscriptionRequest]
  cases ha : supportedRicSubscriptionRequest sr with
  | error msg => simp
  | ok action =>
    cases hs : smPluginAg ag.plugin sr.ricId.ranFuncId with
    | error msg => simp
    | ok sm =>
      simp only [Except.ok_bind, Except.ok.injEq, exists_and_left, exists_eq_left']
      rcases lt_trichotomy t.ms 0 with h | h | h
      · have h₀ : ¬0 < t.ms := by omega
        have h₁ : t.ms ≠ 0 := by omega
        by_cases h₂ : -2 < t.ms <;> simp [h₀, h₁, h₂]
      · simp [h, eq_comm, and_comm]
      · have h₁ : t.ms ≠ 0 := by omega
        have h₂ : -2 < t.ms := by omega
        by_cases h₃ : t.ms < 10001
        · have h₄ : t.ms ≤ 10000 := by omega
          simp [h, h₁, h₂, h₃, h₄, eq_comm, and_comm]
        · have h₄ : ¬t.ms ≤ 10000 := by omega
          simp [h, h₁, h₂, h₃, h₄]

/-- What a delete does to the right tree when no assertion fails, whatever the table holds. -/
theorem stopIndEvent_inv {id : RicGenId} {released : Released} (h : ag.stopIndEvent id = .ok (ag', released)) :
    ∃ ev fd, ev.ricId = id ∧ ag.indEvent.right.toList.Perm ((ev, fd) :: ag'.indEvent.right.toList) := by
  unfold E2Agent.stopIndEvent at h
  split at h
  · cases h
  · split at h
    · cases h
    · obtain ⟨⟨fd, m⟩, hx, h⟩ := Except.bind_eq_ok.mp h
      obtain ⟨ev, hs, hp⟩ := BiMap.extractRight_inv hx
      have hm : ag'.indEvent = m := by
        dsimp only at h
        split at h
        · obtain ⟨io, -, h⟩ := Except.bind_eq_ok.mp h
          rw [← (Prod.mk.inj (Except.ok.inj h)).1]
        · rw [← (Prod.mk.inj (Except.ok.inj h)).1]
      subst hm
      exact ⟨ev, fd, (same_indEvent.mp hs).symm, hp⟩

theorem handle_deleteRequest_inv (h : ag.handle (.deleteRequest sdr) = .ok (ag', ans)) :
    ∃ released, ag.stopIndEvent sdr.ricId = .ok (ag', released) ∧ ans = .deleteResponse released ⟨sdr.ricId⟩ := by
  simp only [E2Agent.handle, E2Agent.handleSubscriptionDeleteRequest] at h
  cases hs : ag.stopIndEvent sdr.ricId with
  | error msg =>
    rw [hs] at h
    cases h
  | ok r =>
    rw [hs] at h
    cases h
    exact ⟨r.2, rfl, rfl⟩

end Handlers

/-! ### What the handlers keep -/

/-- The table while `es` is still to come: both sides have the same subscriptions, their identifiers
differ from each other and from those to come, and every timer is one that the kernel knows. -/
structure Tracks (ag : E2Agent) (es : List SubscriptionEvent) : Prop where
  holds : ag.indEvent.Holds ag.entries
  ids : (ag.entries.map (·.2.ricId) ++ requestedIds es).Nodup
  sms : ∀ e ∈ ag.entries, e.2.sm.isSome
  fds : ((ag.entries.map Prod.fst).filter (· ≠ 0)).Nodup
  io : ∀ e ∈ ag.entries, e.1 ≠ 0 → e.1 ∈ ag.io
  newFds : Throughout E2Agent.handle NewFd ag es

section Keeps
variable {ag ag' : E2Agent} {sr : RicSubscriptionRequest} {sdr : RicSubscriptionDeleteRequest}
  {t : SubscribeTimer} {fd : Nat} {es : List SubscriptionEvent} {ans : SubscriptionAnswer}

theorem Tracks.rightKeys {es : List SubscriptionEvent} (h : Tracks ag es) :
    BiMap.RightKeys indEventOrder ag.entries := by
  have hp := (List.nodup_append.mp h.ids).1
  rw [List.nodup_iff_pairwise_ne, List.pairwise_map] at hp
  exact hp.imp fun hne hs => hne (same_indEvent.mp hs)

/-- A new subscription, under a descriptor that is zero or new. -/
theorem Tracks.insert {ev : IndEvent} (h : Tracks ag (.request sr t fd :: es)) (hr : ev.ricId = sr.ricId)
    (hs : ev.sm.isSome) {fd' : Nat} {io : List Nat} (hfd : fd' = 0 ∧ io = ag.io ∨ fd' ∉ ag.io ∧ io = fd' :: ag.io)
    (hnew : Throughout E2Agent.handle NewFd { ag with io, indEvent := ag.indEvent.insert fd' ev } es) :
    Tracks { ag with io, indEvent := ag.indEvent.insert fd' ev } es := by
  have hp : (ag.indEvent.insert fd' ev).left.toList.Perm ((fd', ev) :: ag.entries) :=
    ag.indEvent.left.toList_insert fd' ev
  refine ⟨(h.holds.insert fd' ev).perm hp.symm, ?_, ?_, ?_, ?_, hnew⟩
  · have hids := h.ids
    rw [requestedIds_request] at hids
    refine (((hp.map _).append_right _).nodup_iff).mpr ?_
    rw [List.map_cons, hr]
    exact (List.perm_middle.nodup_iff).mp hids
  · intro e he
    rcases List.mem_cons.mp (hp.mem_iff.mp he) with rfl | he
    · exact hs
    · exact h.sms e he
  · refine ((((hp.map Prod.fst).filter _).nodup_iff).mpr ?_)
    rw [List.map_cons]
    by_cases h0 : fd' = 0
    · simpa [List.filter_cons, h0] using h.fds
    · have hmem : fd' ∉ (ag.entries.map Prod.fst).filter (· ≠ 0) := by
        intro hm
        obtain ⟨e, he, rfl⟩ := List.mem_map.mp (List.mem_filter.mp hm).1
        rcases hfd with ⟨hz, -⟩ | ⟨hn, -⟩
        · exact h0 hz
        · exact hn (h.io e he h0)
      rw [List.filter_cons_of_pos (by simpa using h0)]
      exact List.nodup_cons.mpr ⟨hmem, h.fds⟩
  · intro e he h0
    rcases List.mem_cons.mp (hp.mem_iff.mp he) with rfl | hmem
    · rcases hfd with ⟨hz, -⟩ | ⟨-, rfl⟩
      · exact absurd hz h0
      · exact List.mem_cons_self ..
    · rcases hfd with ⟨-, rfl⟩ | ⟨-, rfl⟩
      · exact h.io e hmem h0
      · exact List.mem_cons_of_mem _ (h.io e hmem h0)

theorem Tracks.request (h : Tracks ag (.request sr t fd :: es))
    (ho : ag.handle (.request sr t fd) = .ok (ag', ans)) : Added ag sr t fd ag' ∧ Tracks ag' es := by
  have hnew := h.newFds.2 ag' ans ho
  have hkfd := h.newFds.1
  obtain ⟨action, sm, -, -, -, ⟨hpos, -, rfl⟩ | ⟨hz, rfl⟩⟩ := handle_request_eq_ok.mp ho
  · have hne : t.ms ≠ 0 := by omega
    refine ⟨⟨⟨sr.ricId, some sm, action.id, t.actDef⟩, rfl, rfl, ?_, ?_⟩, h.insert rfl rfl (.inr ⟨(hkfd hpos).2, rfl⟩) hnew⟩
    · rw [if_neg hne]
      exact h.holds.insert ..
    · rw [if_neg hne]
  · refine ⟨⟨⟨sr.ricId, some sm, action.id, t.actDef⟩, rfl, rfl, ?_, ?_⟩, h.insert rfl rfl (.inl ⟨rfl, rfl⟩) hnew⟩
    · rw [if_pos hz]
      exact h.holds.insert ..
    · rw [if_pos hz]

/-- Taking one subscription out keeps the table right. -/
theorem Tracks.remove {ev : IndEvent} {rest : List (Nat × IndEvent)} {m : IndEvents}
    (h : Tracks ag (.deleteRequest sdr :: es)) (hp : ag.entries.Perm ((fd, ev) :: rest)) (hm : m.Holds rest)
    {io : List Nat} (hio : io = if fd = 0 then ag.io else ag.io.erase fd)
    (hnew : Throughout E2Agent.handle NewFd { ag with io, indEvent := m } es) :
    Tracks { ag with io, indEvent := m } es := by
  have hl : m.left.toList.Perm rest := hm.left
  have hfds := (((hp.map Prod.fst).filter (· ≠ 0)).nodup_iff).mp h.fds
  refine ⟨hm.perm hl.symm, ?_, ?_, ?_, ?_, hnew⟩
  · have hids := h.ids
    rw [requestedIds_deleteRequest] at hids
    refine (((hl.map _).append_right _).nodup_iff).mpr ?_
    exact (List.nodup_cons.mp ((((hp.map _).append_right _).nodup_iff).mp hids)).2
  · exact fun e he => h.sms e (hp.mem_iff.mpr (List.mem_cons_of_mem _ (hl.mem_iff.mp he)))
  · refine (((hl.map Prod.fst).filter _).nodup_iff).mpr ?_
    rw [List.map_cons] at hfds
    exact hfds.sublist ((List.sublist_cons_self ..).filter _)
  · intro e he h0
    have her : e ∈ rest := hl.mem_iff.mp he
    have heio : e.1 ∈ ag.io := h.io e (hp.mem_iff.mpr (List.mem_cons_of_mem _ her)) h0
    subst hio
    split
    · exact heio
    · next hfd =>
      have hne : e.1 ≠ fd := by
        rintro rfl
        rw [List.map_cons, List.filter_cons_of_pos (by simpa using hfd)] at hfds
        exact (List.nodup_cons.mp hfds).1
          (List.mem_filter.mpr ⟨List.mem_map.mpr ⟨e, her, rfl⟩, by simpa using hfd⟩)
      exact (List.mem_erase_of_ne hne).mpr heio

theorem Tracks.eq_of_ricId (h : Tracks ag es) {e e' : Nat × IndEvent} (he : e ∈ ag.entries) (he' : e' ∈ ag.entries)
    (hr : e.2.ricId = e'.2.ricId) : e = e' :=
  h.rightKeys.eq_of_same he he' (same_indEvent.mpr hr)

/-- What a delete of a subscription that is there does: the entry of the right tree is its own, that of the
left tree is the one that the search for its descriptor meets. -/
theorem Tracks.handle_delete (h : Tracks ag es) {ev : IndEvent} (hmem : (fd, ev) ∈ ag.entries)
    (hr : ev.ricId = sdr.ricId) :
    ∃ ev' l r, ag.indEvent.left.find fd = some ev' ∧ ag.entries.Perm ((fd, ev') :: l.toList) ∧
      (ag.entries.map Prod.swap).Perm ((ev, fd) :: r.toList) ∧
      ag.handle (.deleteRequest sdr) =
        if ev'.ricId.ricReqId = sdr.ricId.ricReqId then
          .ok ({ ag with io := if fd = 0 then ag.io else ag.io.erase fd, indEvent := ⟨l, r⟩ },
            .deleteResponse ⟨ev.sm.bind fun sm => if sm.hasFreeActDef then some ev.actDef else none,
              if fd = 0 then none else some fd⟩ ⟨sdr.ricId⟩)
        else .error "cmp == 0" := by
  obtain ⟨sm, hsm⟩ : ∃ sm, ev.sm = some sm := Option.isSome_iff_exists.mp (h.sms _ hmem)
  have hfind : ag.indEvent.right.findIf (·.ricId == sdr.ricId) = some (ev, fd) :=
    h.holds.findIf_right hmem (by simpa using hr) fun e he hq =>
      h.eq_of_ricId he hmem ((by simpa using hq : e.2.ricId = sdr.ricId).trans hr.symm)
  obtain ⟨fd', ev', l, r, hs, hmem', hf, hl, hrp, hx⟩ := h.holds.extractRight_crossed h.rightKeys hmem
    (same_indEvent.mpr hr.symm : indEventOrder.Same ⟨sdr.ricId, none, 0, 0⟩ ev) cmpFdOnIndEvent
  obtain rfl : fd = fd' := same_fd.mp hs
  refine ⟨ev', l, r, hf, hl, hrp, ?_⟩
  simp only [E2Agent.handle, E2Agent.handleSubscriptionDeleteRequest, E2Agent.stopIndEvent, hfind, hsm, hx,
    cmpFdOnIndEvent_eq_zero, eq_comm (a := sdr.ricId.ricReqId)]
  split
  · by_cases h0 : fd = 0
    · simp [h0]
    · have hio : fd ∈ ag.io := h.io _ hmem h0
      simp [h0, rmFdAsioAgent, Ep.rmFdAsio, hio]
  · simp

/-- A delete is exact when the subscription is there and the search of the left tree meets it. -/
theorem Tracks.exact_delete_iff (h : Tracks ag (.deleteRequest sdr :: es)) :
    Exact ag (.deleteRequest sdr) ↔ Clear ag (.deleteRequest sdr) := by
  constructor
  · rintro ⟨ag', released, ho, fd, ev, rest, hp, hr, -, hm, -⟩
    have hmem : (fd, ev) ∈ ag.entries := hp.mem_iff.mpr (List.mem_cons_self ..)
    obtain ⟨ev', l, r, hf, hl, -, he⟩ := h.handle_delete hmem hr
    rw [he] at ho
    split at ho
    · obtain ⟨rfl, -⟩ := Prod.mk.inj (Except.ok.inj ho)
      -- What is left on the left side tells which entry went.
      have hperm : ((fd, ev') :: rest).Perm ((fd, ev) :: rest) := ((hm.left.cons _).symm.trans hl.symm).trans hp
      have heq : [(fd, ev')].Perm [(fd, ev)] := (List.perm_append_right_iff rest).mp hperm
      obtain rfl : ev' = ev := by simpa using heq
      exact ⟨_, hmem, hr, hf⟩
    · cases ho
  · rintro ⟨⟨fd, ev⟩, hmem, hr, hf⟩
    obtain ⟨ev', l, r, hf', hl, hrp, he⟩ := h.handle_delete hmem hr
    obtain rfl : ev = ev' := Option.some.inj (hf.symm.trans hf')
    rw [if_pos (congrArg RicGenId.ricReqId hr)] at he
    have hrl : r.toList.Perm (l.toList.map Prod.swap) := (hrp.symm.trans (hl.map _)).cons_inv
    refine ⟨_, _, he, fd, ev, l.toList, hl, hr, ?_, ⟨.refl _, hrl⟩, rfl, rfl, rfl⟩
    have hids := (((hl.map (·.2.ricId)).append_right _).nodup_iff).mp h.ids
    rw [List.map_cons, List.cons_append, List.nodup_cons] at hids
    exact fun e he heq => hids.1 (List.mem_append_left _ (List.mem_map.mpr ⟨e, he, heq.trans hr.symm⟩))

theorem Tracks.delete (h : Tracks ag (.deleteRequest sdr :: es)) (hx : Exact ag (.deleteRequest sdr))
    (ho : ag.handle (.deleteRequest sdr) = .ok (ag', ans)) : Tracks ag' es := by
  have hnew := h.newFds.2 ag' ans ho
  obtain ⟨ag₁, released, ho', fd, ev, rest, hp, hr, -, hm, -⟩ := hx
  obtain ⟨rfl, -⟩ := Prod.mk.inj (Except.ok.inj (ho.symm.trans ho'))
  obtain ⟨ev', l, r, -, -, -, he⟩ := h.handle_delete (hp.mem_iff.mpr (List.mem_cons_self ..)) hr
  rw [he] at ho
  split at ho
  · obtain ⟨rfl, -⟩ := Prod.mk.inj (Except.ok.inj ho)
    exact h.remove hp hm rfl hnew
  · cases ho

theorem Tracks.exact_request_iff (h : Tracks ag (.request sr t fd :: es)) :
    Exact ag (.request sr t fd) ↔ Clear ag (.request sr t fd) := by
  constructor
  · rintro ⟨ag', ans, ho, -⟩
    obtain ⟨action, sm, ha, hs, -, ht⟩ := handle_request_eq_ok.mp ho
    refine ⟨Except.isOk_iff.mpr ⟨action, ha⟩, Except.isOk_iff.mpr ⟨sm, hs⟩, ?_⟩
    rcases ht with ⟨h₁, h₂, -⟩ | ⟨h₁, -⟩ <;> omega
  · rintro ⟨ha, hs, h₁, h₂⟩
    obtain ⟨action, ha⟩ := Except.isOk_iff.mp ha
    obtain ⟨sm, hs⟩ := Except.isOk_iff.mp hs
    have ho : ∃ ag', ag.handle (.request sr t fd) =
        .ok (ag', .response (generateSubscriptionResponse sr.ricId action.id)) := by
      rcases h₁.lt_or_eq with hpos | hz
      · exact ⟨_, handle_request_eq_ok.mpr ⟨action, sm, ha, hs, rfl, .inl ⟨hpos, h₂, rfl⟩⟩⟩
      · exact ⟨_, handle_request_eq_ok.mpr ⟨action, sm, ha, hs, rfl, .inr ⟨hz.symm, rfl⟩⟩⟩
    obtain ⟨ag', ho⟩ := ho
    exact ⟨ag', _, ho, (h.request ho).1⟩

/-- The search for a descriptor meets the subscription that alone has it. Periodic subscriptions never share
theirs. -/
theorem Tracks.clear_deleteRequest (h : Tracks ag (.deleteRequest sdr :: es)) {ev : IndEvent}
    (hmem : (fd, ev) ∈ ag.entries) (hr : ev.ricId = sdr.ricId)
    (hu : fd = 0 → ∀ e ∈ ag.entries, e.1 = 0 → e = (fd, ev)) : Clear ag (.deleteRequest sdr) := by
  obtain ⟨ev', l, r, hf, hl, -⟩ := h.handle_delete hmem hr
  have hmem' : (fd, ev') ∈ ag.entries := hl.mem_iff.mpr (List.mem_cons_self ..)
  have heq : (fd, ev') = (fd, ev) := by
    by_cases h0 : fd = 0
    · exact hu h0 _ hmem' h0
    · by_contra hne
      have hfds := (((hl.map Prod.fst).filter (· ≠ 0)).nodup_iff).mp h.fds
      rw [List.map_cons, List.filter_cons_of_pos (by simpa using h0), List.nodup_cons] at hfds
      rcases List.mem_cons.mp (hl.mem_iff.mp hmem) with heq | hrest
      · exact hne heq.symm
      · exact hfds.1 (List.mem_filter.mpr ⟨List.mem_map.mpr ⟨_, hrest, rfl⟩, by simpa using h0⟩)
  obtain rfl : ev' = ev := (Prod.mk.inj heq).2
  exact ⟨_, hmem, hr, hf⟩

end Keeps

/-! ### Sequences of requests -/

section Sequences
variable {plugin : PluginAg} {io : List Nat} {es : List SubscriptionEvent}

theorem tracks_init (hids : (requestedIds es).Nodup)
    (hfd : Throughout E2Agent.handle NewFd (E2Agent.init plugin io) es) : Tracks (E2Agent.init plugin io) es where
  holds := BiMap.holds_init
  ids := hids
  sms _ he := by cases he
  fds := List.nodup_nil
  io _ he := by cases he
  newFds := hfd

/-- Every request of a sequence is handled exactly when every one is supported and every delete meets its own
subscription. -/
theorem exact_iff_clear (hids : (requestedIds es).Nodup)
    (hfd : Throughout E2Agent.handle NewFd (E2Agent.init plugin io) es) :
    Throughout E2Agent.handle Exact (E2Agent.init plugin io) es ↔
      Throughout E2Agent.handle Clear (E2Agent.init plugin io) es := by
  refine throughout_iff (I := Tracks) ?_ ?_ (tracks_init hids hfd)
  · intro ag e es h
    cases e with
    | request => exact h.exact_request_iff
    | deleteRequest => exact h.exact_delete_iff
  · intro ag e es ag' ans h hc ho
    cases e with
    | request => exact (h.request ho).2
    | deleteRequest => exact h.delete (h.exact_delete_iff.mpr hc) ho

end Sequences

/-- A subscription request for one report. -/
def reportRequest (ricReqId ranFuncId : Nat) : RicSubscriptionRequest :=
  ⟨⟨ricReqId, 0, ranFuncId⟩, [], [⟨0, .report, none, none⟩]⟩

/-- An agent with a service model that frees its action definitions and one that does not, and the descriptors
of the pipe and of the association. -/
def agentStarted : E2Agent := .init (loadPluginAg (loadPluginAg .init ⟨2, true⟩) ⟨3, false⟩) [4, 6]

/-- A periodic subscription and an aperiodic one, and the deletes of both in turn. -/
def mixedEvents : List SubscriptionEvent :=
  [.request (reportRequest 1 2) ⟨1000, 100⟩ 7, .request (reportRequest 2 3) ⟨0, 200⟩ 0,
    .deleteRequest ⟨⟨2, 0, 3⟩⟩, .deleteRequest ⟨⟨1, 0, 2⟩⟩]

theorem exact_mixedEvents : Throughout E2Agent.handle Exact agentStarted mixedEvents :=
  (exact_iff_clear (by decide) (by decide +kernel)).mpr (by decide +kernel)

/-- Two aperiodic subscriptions, and the delete of the second. -/
def aperiodicEvents : List SubscriptionEvent :=
  [.request (reportRequest 1 3) ⟨0, 100⟩ 0, .request (reportRequest 2 3) ⟨0, 200⟩ 0, .deleteRequest ⟨⟨2, 0, 3⟩⟩]

theorem aperiodic_delete_fails :
    (requestedIds aperiodicEvents).Nodup ∧ Throughout E2Agent.handle NewFd agentStarted aperiodicEvents ∧
      failure? E2Agent.handle agentStarted aperiodicEvents = some "cmp == 0" ∧
      ¬Throughout E2Agent.handle Exact agentStarted aperiodicEvents := by
  have hf : failure? E2Agent.handle agentStarted aperiodicEvents = some "cmp == 0" := by decide +kernel
  refine ⟨by decide, by decide +kernel, hf, not_throughout_of_failure hf ?_⟩
  intro ag e h
  cases e with
  | request =>
    obtain ⟨_, _, ho, _⟩ := h
    exact ⟨_, ho⟩
  | deleteRequest =>
    obtain ⟨_, _, ho, _⟩ := h
    exact ⟨_, ho⟩

end FlexRic.Agent
