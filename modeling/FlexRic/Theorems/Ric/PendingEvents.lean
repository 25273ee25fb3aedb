import Mathlib.Data.List.Nodup
import Mathlib.Data.List.Perm.Basic
import FlexRic.Theorems.Ric.RoutingSteps

/-! # The RIC's pending events

Every reachable state has one entry in the table for each request that was passed on and whose answer no
worker has taken, and the timers of these entries are armed. Which entry an expired timer or an answer
leads to depends on what else is outstanding. -/

namespace FlexRic.Ric
open Ds E2ap Ep IApp

section Table
variable {p : PendingEvents} {es : List (Nat × PendingEventRic)} {fd : Nat} {ev : PendingEventRic}

theorem leftKeys_iff : BiMap.LeftKeys fdOrder es ↔ (es.map Prod.fst).Nodup := by
  rw [BiMap.LeftKeys, List.Nodup, List.pairwise_map]
  simp only [same_fd, ne_eq]

/-- An event in the table is found, and its entry, or an equal one, is taken out of both sides. -/
theorem stopPendingEvent_holds (h : p.Holds es) (hfd : (es.map Prod.fst).Nodup) (he : ev ∈ es.map Prod.snd) :
    ∃ fd rest p', es.Perm ((fd, ev) :: rest) ∧ stopPendingEvent p ev = .ok (fd, p') ∧ p'.Holds rest := by
  rcases h.extractRight_cases (leftKeys_iff.mpr hfd) cmpFdOnEvent ev with ⟨hn, -⟩ | ⟨fd, b, rest, hp, hs, hif⟩
  · obtain ⟨e, hm, rfl⟩ := List.mem_map.mp he
    exact absurd (Comparator.Same.refl _ e.2) (hn e hm)
  · obtain rfl := same_pendingEventRic.mp hs
    rw [if_pos (show cmpFdOnEvent ev ev = 0 from same_fd.mpr rfl)] at hif
    obtain ⟨p', hx, hh⟩ := hif
    exact ⟨fd, rest, p', hp, hx, hh⟩

/-- `pend_event` succeeds exactly for the timer of the one entry of the table. -/
theorem pendEvent_eq_ok (h : p.Holds es) : pendEvent p fd = .ok ev ↔ es = [(fd, ev)] := by
  unfold pendEvent
  rw [h.size_eq]
  constructor
  · intro hp
    split at hp
    · cases hp
    · next hsz =>
      obtain ⟨e, rfl⟩ := List.length_eq_one_iff.mp (by simpa using hsz)
      split at hp
      · cases hp
      · next hf =>
        obtain ⟨hm, hq⟩ := h.findIf_mem hf
        obtain rfl := List.mem_singleton.mp hm
        obtain rfl := Except.ok.inj hp
        obtain rfl : fd = _ := by simpa using hq
        rfl
  · rintro rfl
    rw [if_neg (by simp), h.findIf_eq (List.mem_singleton.mpr rfl) (by simp) (by simp)]

theorem pendEvent_error {msg : String} (h : pendEvent p fd = .error msg) :
    msg = "bi_map_size(&ric->pending) == 1" ∨ msg = "it != end_it" := by
  unfold pendEvent at h
  split at h
  · exact .inl (Except.error.inj h).symm
  · split at h
    · exact .inr (Except.error.inj h).symm
    · cases h

end Table

/-- The event in the table whose request has not been sent. -/
def IappPc.unsent : IappPc → List PendingEventRic
  | .sending q _ => [requestEvent q]
  | _ => []

/-- The timer that is armed and whose event is not in the table. -/
def IappPc.unpaired : IappPc → List Nat
  | .arming _ fd _ => [fd]
  | _ => []

@[simp] theorem IappPc.unsent_afterSend (entry : Option MapEntry) : (afterSend entry).unsent = [] := by
  cases entry <;> rfl

@[simp] theorem IappPc.unpaired_afterSend (entry : Option MapEntry) : (afterSend entry).unpaired = [] := by
  cases entry <;> rfl

namespace Routing

/-! ### The table and the requests on their way -/

/-- The events whose requests, or the answers to them, are on their way. -/
def waiting (s : Routing) : List PendingEventRic :=
  s.loop.unsent ++ s.toNode.map requestEvent ++ s.toRic.filterMap answerEvent?

/-- The timers without an event in the table: one that is being armed, and those being removed. -/
def held (s : Routing) : List Nat := s.loop.unpaired ++ s.workers.filterMap Worker.fd?

/-- What every reachable state keeps of the table, whose pairs are `es`. -/
structure Table (s : Routing) (es : List (Nat × PendingEventRic)) : Prop where
  holds : s.ric.pending.Holds es
  events : (es.map Prod.snd).Perm s.waiting
  timers : s.ric.asio.Perm (es.map Prod.fst ++ s.held)
  nodup : s.ric.asio.Nodup
  pos : ∀ fd ∈ s.ric.asio, 0 < fd

theorem table_init : init.Table [] where
  holds := BiMap.holds_init
  events := .refl _
  timers := .refl _
  nodup := List.nodup_nil
  pos := by simp [init]

section Preserve
variable {cfg : Config} {s t : Routing} {es : List (Nat × PendingEventRic)} {a : Act}

theorem Table.fst_nodup (h : s.Table es) : (es.map Prod.fst).Nodup :=
  (List.nodup_append.mp (h.timers.nodup_iff.mp h.nodup)).1

theorem Table.mem_asio (h : s.Table es) {e : Nat × PendingEventRic} (he : e ∈ es) : e.1 ∈ s.ric.asio :=
  h.timers.mem_iff.mpr (List.mem_append_left _ (List.mem_map_of_mem he))

theorem Table.event_mem (h : s.Table es) {m : NodeMsg} {ev : PendingEventRic} (hm : m ∈ s.toRic)
    (hev : answerEvent? m = some ev) : ev ∈ es.map Prod.snd :=
  h.events.mem_iff.mpr (List.mem_append_right _ (List.mem_filterMap.mpr ⟨m, hm, hev⟩))

/-- A step that leaves the table and the timers alone. -/
theorem Table.frame (h : s.Table es) (hric : t.ric.pending = s.ric.pending) (hasio : t.ric.asio = s.ric.asio)
    (hw : s.waiting.Perm t.waiting) (hh : s.held.Perm t.held) : t.Table es where
  holds := hric ▸ h.holds
  events := h.events.trans hw
  timers := hasio ▸ h.timers.trans (hh.append_left _)
  nodup := hasio ▸ h.nodup
  pos := hasio ▸ h.pos

/-- Every step keeps the table in line with the requests on their way. -/
theorem Table.step (h : s.Table es) (hs : step cfg s a = .next t) : ∃ es', t.Table es' := by
  cases a with
  | e42Setup n info =>
    obtain ⟨hl, rfl⟩ := e42Setup_inv hs
    exact ⟨es, h.frame rfl rfl (by simp [waiting, hl, IappPc.unsent])
      (by simp [held, hl, IappPc.unpaired])⟩
  | register =>
    obtain ⟨x, info, xapps, hl, -, rfl⟩ := register_inv hs
    exact ⟨es, h.frame rfl rfl (by simp [waiting, hl, IappPc.unsent])
      (by simp [held, hl, IappPc.unpaired])⟩
  | e42Request req info =>
    obtain ⟨hl, -, rfl⟩ := e42Request_inv hs
    exact ⟨es, h.frame rfl rfl (by simp [waiting, hl, IappPc.unsent])
      (by simp [held, hl, IappPc.unpaired])⟩
  | e42Delete req =>
    obtain ⟨hl, n, -, rfl⟩ := e42Delete_inv hs
    exact ⟨es, h.frame rfl rfl (by simp [waiting, hl, IappPc.unsent])
      (by simp [held, hl, IappPc.unpaired])⟩
  | takeId =>
    obtain ⟨req, info, hl, rfl⟩ := takeId_inv hs
    exact ⟨es, h.frame rfl rfl (by simp [waiting, hl, IappPc.unsent])
      (by simp [held, hl, IappPc.unpaired])⟩
  | createTimer fd =>
    obtain ⟨q, entry, hl, hpos, hfd, rfl⟩ := createTimer_inv hs
    exact ⟨es, {
      holds := h.holds
      events := by simpa [waiting, hl, IappPc.unsent] using h.events
      timers := by
        have ht := h.timers
        simp only [held, hl, IappPc.unpaired] at ht ⊢
        exact (ht.cons fd).trans List.perm_middle.symm
      nodup := List.nodup_cons.mpr ⟨hfd, h.nodup⟩
      pos := by simpa [hpos] using h.pos }⟩
  | arm =>
    obtain ⟨q, fd, entry, hl, rfl⟩ := arm_inv hs
    exact ⟨(fd, requestEvent q) :: es, {
      holds := h.holds.insert fd (requestEvent q)
      events := by simpa [waiting, hl, IappPc.unsent] using h.events
      timers := by
        have ht := h.timers
        simp only [held, hl, IappPc.unpaired] at ht ⊢
        exact ht.trans List.perm_middle
      nodup := h.nodup
      pos := h.pos }⟩
  | send =>
    obtain ⟨q, entry, hl, rfl⟩ := send_inv hs
    have hu : s.loop.unsent = [requestEvent q] := by rw [hl]; rfl
    have hp : s.loop.unpaired = [] := by rw [hl]; rfl
    refine ⟨es, h.frame rfl rfl ?_ (by simp only [held, hp, IappPc.unpaired_afterSend]; exact .refl _)⟩
    refine List.perm_iff_count.mpr fun e => ?_
    simp only [waiting, hu, IappPc.unsent_afterSend, List.map_append, List.map_cons, List.map_nil,
      List.count_append, List.count_nil]
    omega
  | record =>
    obtain ⟨entry, map, hl, -, rfl⟩ := record_inv hs
    exact ⟨es, h.frame rfl rfl (by simp [waiting, hl, IappPc.unsent]) (by simp [held, hl, IappPc.unpaired])⟩
  | nodeAnswer i m =>
    obtain ⟨q, subscribed, hq, hk, hid, -, rfl⟩ := nodeAnswer_inv hs
    refine ⟨es, h.frame rfl rfl ?_ (.refl _)⟩
    have hev : answerEvent? m = some (requestEvent q) := by rw [answerEvent?, hk, hid]; rfl
    have hp := (perm_eraseIdx hq).map requestEvent
    refine List.perm_iff_count.mpr fun e => ?_
    have hc := hp.count_eq e
    simp only [waiting, List.filterMap_append, List.filterMap_cons, hev, List.filterMap_nil, List.count_append, List.map_cons,
      List.count_cons, List.count_nil] at hc ⊢
    omega
  | nodeIndicate m =>
    obtain ⟨-, rfl⟩ := nodeIndicate_inv hs
    exact ⟨es, h.frame rfl rfl (by simp [waiting, List.filterMap_cons, answerEvent?, NodeMsg.answers?]) (.refl _)⟩
  | take i =>
    obtain ⟨m, hm, ⟨ev, fd, p, hev, hp, rfl⟩ | ⟨hev, -, -, rfl⟩⟩ := take_inv hs
    · have hin := h.event_mem (List.mem_of_getElem? hm) hev
      obtain ⟨fd', rest, p', hes, hp', hh⟩ := stopPendingEvent_holds h.holds h.fst_nodup hin
      obtain ⟨rfl, rfl⟩ : fd' = fd ∧ p' = p := by simpa [hp] using hp'.symm
      refine ⟨rest, ⟨hh, ?_, ?_, h.nodup, h.pos⟩⟩
      · refine List.perm_iff_count.mpr fun e => ?_
        have h₁ := ((hes.map Prod.snd).symm.trans h.events).count_eq e
        have h₂ := ((perm_eraseIdx hm).filterMap answerEvent?).count_eq e
        simp only [waiting, List.map_cons, List.filterMap_cons, hev, List.count_append, List.count_cons] at h₁ h₂ ⊢
        omega
      · refine List.perm_iff_count.mpr fun e => ?_
        have h₁ := (h.timers.trans ((hes.map Prod.fst).append_right _)).count_eq e
        simp only [held, List.map_cons, List.filterMap_cons, Worker.fd?, List.count_append, List.count_cons] at h₁ ⊢
        omega
    · refine ⟨es, h.frame rfl rfl ?_ (.refl _)⟩
      have hp := (perm_eraseIdx hm).filterMap answerEvent?
      rw [List.filterMap_cons_none hev] at hp
      exact hp.append_left _
  | rmFd j =>
    obtain ⟨fd, m, hj, rfl⟩ := rmFd_inv hs
    have hw := (perm_eraseIdx hj).filterMap Worker.fd?
    have hw' := (perm_set hj (.looking m)).filterMap Worker.fd?
    have hfd : fd ∈ s.ric.asio := h.timers.mem_iff.mpr <| List.mem_append_right _ <| List.mem_append_right _ <|
      hw.mem_iff.mpr (List.mem_cons_self ..)
    refine ⟨es, ⟨h.holds, h.events, ?_, h.nodup.erase fd, fun fd' hm => h.pos fd' (List.mem_of_mem_erase hm)⟩⟩
    refine List.perm_iff_count.mpr fun e => ?_
    have h₁ := ((List.perm_cons_erase hfd).symm.trans h.timers).count_eq e
    have h₂ := hw.count_eq e
    have h₃ := hw'.count_eq e
    simp only [held, List.filterMap_cons, Worker.fd?, List.count_append, List.count_cons] at h₁ h₂ h₃ ⊢
    omega
  | lookup j =>
    obtain ⟨m, x, hj, -, -, -, -, rfl⟩ := lookup_inv hs
    have hw := (perm_eraseIdx hj).filterMap Worker.fd?
    have hw' := (perm_set hj (.forwarding m x)).filterMap Worker.fd?
    exact ⟨es, h.frame rfl rfl (.refl _) ((hw.trans hw'.symm).append_left _)⟩
  | forward j =>
    obtain ⟨m, x, info, hj, -, rfl⟩ := forward_inv hs
    exact ⟨es, h.frame rfl rfl (.refl _) (((perm_eraseIdx hj).filterMap Worker.fd?).append_left _)⟩
  | epoll fds =>
    obtain ⟨-, -, rfl⟩ := epoll_inv hs
    exact ⟨es, h.frame rfl rfl (.refl _) (.refl _)⟩
  | pendEvent =>
    obtain ⟨fd, rest, ev, -, -, rfl⟩ := pendEvent_inv hs
    exact ⟨es, h.frame rfl rfl (.refl _) (.refl _)⟩

theorem table_of_reachable (h : (routing cfg).Reachable System.Any s) : ∃ es, s.Table es := by
  obtain ⟨as, hr⟩ := h
  exact hr.invariant (I := fun s => ∃ es, s.Table es) ⟨[], table_init⟩ fun _ _ _ ⟨_, h⟩ _ hs => h.step hs

end Preserve

/-! ### Expiries and answers -/

/-- What the table is for. The timer that the loop looks up leads to the request it was armed for, and the
answer to an outstanding request takes out its event and its timer and leaves the others armed. -/
structure PendingLaw (s : Routing) : Prop where
  expiry : ∀ fd rest, s.fetched = fd :: rest →
    ∃ ev, (fd, ev) ∈ s.outstanding ∧ Ric.pendEvent s.ric.pending fd = .ok ev
  answer : ∀ fd ev, (fd, ev) ∈ s.outstanding → ∃ p rest, s.outstanding.Perm ((fd, ev) :: rest) ∧
    stopPendingEvent s.ric.pending ev = .ok (fd, p) ∧ p.Holds rest ∧
    fd ∉ s.ric.asio.erase fd ∧ ∀ e ∈ rest, e.1 ∈ s.ric.asio.erase fd

/-- A timer that the loop looks up is that of the only request outstanding, and no two requests outstanding
have one kind and one identifier. -/
structure Apart (s : Routing) : Prop where
  alone : ∀ fd rest, s.fetched = fd :: rest → s.outstanding.map Prod.fst = [fd]
  distinct : (s.outstanding.map Prod.snd).Nodup

section Law
variable {cfg : Config} {s t : Routing} {a : Act} {as : List Act} {es : List (Nat × PendingEventRic)}

theorem pendingLaw_iff_apart (ht : s.Table es) (hk : s.ric.pending.Holds s.outstanding) :
    s.PendingLaw ↔ s.Apart := by
  have hes : es.Perm s.outstanding := ht.holds.unique hk
  have hfst : (s.outstanding.map Prod.fst).Nodup := (hes.map _).nodup_iff.mp ht.fst_nodup
  constructor
  · intro h
    refine ⟨fun fd rest hf => ?_, ?_⟩
    · obtain ⟨ev, -, hp⟩ := h.expiry fd rest hf
      rw [(pendEvent_eq_ok hk).mp hp]
      rfl
    · -- Equal events are taken out by one answer, which names one timer only.
      rw [List.Nodup, List.pairwise_map] at hfst ⊢
      refine hfst.imp_of_mem fun {a b} ha hb hne heq => hne ?_
      obtain ⟨pa, -, -, hpa, -⟩ := h.answer a.1 a.2 ha
      obtain ⟨pb, -, -, hpb, -⟩ := h.answer b.1 b.2 hb
      rw [heq, hpb] at hpa
      exact (Prod.mk.inj (Except.ok.inj hpa)).1.symm
  · intro h
    refine ⟨fun fd rest hf => ?_, fun fd ev he => ?_⟩
    · obtain ⟨e, ho, rfl⟩ := List.map_eq_singleton_iff.mp (h.alone fd rest hf)
      exact ⟨e.2, by simp [ho], (pendEvent_eq_ok hk).mpr ho⟩
    · obtain ⟨fd', rest, p, hp, hstop, hh⟩ := stopPendingEvent_holds hk hfst (List.mem_map_of_mem he)
      obtain rfl : fd' = fd := by
        have hmem : (fd', ev) ∈ s.outstanding := hp.mem_iff.mpr (List.mem_cons_self ..)
        exact congrArg Prod.fst (List.inj_on_of_nodup_map h.distinct hmem he rfl)
      refine ⟨p, rest, hp, hstop, hh, ht.nodup.not_mem_erase, fun e her => ?_⟩
      have hne : e.1 ≠ fd' := by
        have hn := (hp.map Prod.fst).nodup_iff.mp hfst
        exact fun heq => (List.nodup_cons.mp hn).1 (List.mem_map.mpr ⟨e, her, heq⟩)
      exact (List.mem_erase_of_ne hne).mpr (ht.mem_asio (hes.mem_iff.mpr (hp.mem_iff.mpr (List.mem_cons_of_mem _ her))))

/-- As long as events are told apart, the table holds the requests that are outstanding. -/
theorem holds_outstanding_step (ht : s.Table es) (hk : s.ric.pending.Holds s.outstanding) (ha : s.Apart)
    (hs : step cfg s a = .next t) : t.ric.pending.Holds t.outstanding := by
  cases a with
  | e42Setup n info => obtain ⟨-, rfl⟩ := e42Setup_inv hs; exact hk
  | register => obtain ⟨_, _, _, -, -, rfl⟩ := register_inv hs; exact hk
  | e42Request req info => obtain ⟨-, -, rfl⟩ := e42Request_inv hs; exact hk
  | e42Delete req => obtain ⟨-, _, -, rfl⟩ := e42Delete_inv hs; exact hk
  | takeId => obtain ⟨_, _, -, rfl⟩ := takeId_inv hs; exact hk
  | createTimer fd => obtain ⟨_, _, -, -, -, rfl⟩ := createTimer_inv hs; exact hk
  | arm => obtain ⟨_, _, _, -, rfl⟩ := arm_inv hs; exact hk.insert _ _
  | send => obtain ⟨_, _, -, rfl⟩ := send_inv hs; exact hk
  | record => obtain ⟨_, _, -, -, rfl⟩ := record_inv hs; exact hk
  | nodeAnswer i m => obtain ⟨_, _, -, -, -, -, rfl⟩ := nodeAnswer_inv hs; exact hk
  | nodeIndicate m => obtain ⟨-, rfl⟩ := nodeIndicate_inv hs; exact hk
  | take i =>
    obtain ⟨m, hm, ⟨ev, fd, p, hev, hp, rfl⟩ | ⟨-, -, -, rfl⟩⟩ := take_inv hs
    · have hes := ht.holds.unique hk
      have hin := (hes.map Prod.snd).mem_iff.mp (ht.event_mem (List.mem_of_getElem? hm) hev)
      obtain ⟨fd', rest, p', hp', hstop, hh⟩ :=
        stopPendingEvent_holds hk ((hes.map _).nodup_iff.mp ht.fst_nodup) hin
      obtain ⟨rfl, rfl⟩ : fd' = fd ∧ p' = p := by simpa [hp] using hstop.symm
      have hmem : (fd', ev) ∈ s.outstanding := hp'.mem_iff.mpr (List.mem_cons_self ..)
      obtain ⟨e, l₁, l₂, -, he, hl, hl'⟩ :=
        List.exists_of_eraseP (p := fun e : Nat × PendingEventRic => decide (e.2 = ev)) hmem (by simp)
      obtain rfl : e = (fd', ev) := List.inj_on_of_nodup_map ha.distinct (by simp [hl]) hmem (by simpa using he)
      refine hh.perm ?_
      simp only [hl']
      exact List.Perm.cons_inv ((hp'.symm.trans (hl ▸ .refl _)).trans List.perm_middle)
    · exact hk
  | rmFd j => obtain ⟨_, _, -, rfl⟩ := rmFd_inv hs; exact hk
  | lookup j => obtain ⟨_, _, -, -, -, -, -, rfl⟩ := lookup_inv hs; exact hk
  | forward j => obtain ⟨_, _, _, -, -, rfl⟩ := forward_inv hs; exact hk
  | epoll fds => obtain ⟨-, -, rfl⟩ := epoll_inv hs; exact hk
  | pendEvent => obtain ⟨_, _, _, -, -, rfl⟩ := pendEvent_inv hs; exact hk

/-- Along every run: the table does what it is for in all states exactly when all states have the timer
being looked up alone, and the events told apart. -/
theorem pendingLaw_along_iff (cfg : Config) (as : List Act) :
    (routing cfg).Along PendingLaw as ↔ (routing cfg).Along Apart as := by
  refine System.along_iff (K := fun s => s.ric.pending.Holds s.outstanding) BiMap.holds_init ?_ ?_
  · intro s hr hk
    obtain ⟨es, ht⟩ := table_of_reachable hr
    exact pendingLaw_iff_apart ht hk
  · intro s a t hr hk ha hs
    obtain ⟨es, ht⟩ := table_of_reachable hr
    exact holds_outstanding_step ht hk ha hs

/-- Two control requests wait for their acknowledges when the timer of the first expires. -/
theorem two_requests_outstanding : ∃ s : Routing,
    (routing oneNode).Reachable System.Any s ∧ s.fetched = [5] ∧
    s.outstanding = [(6, ⟨.controlRequest, ⟨1022, 0, 2⟩⟩), (5, ⟨.controlRequest, ⟨1021, 0, 2⟩⟩)] ∧
    step oneNode s .pendEvent = .abort "bi_map_size(&ric->pending) == 1" ∧ ¬s.PendingLaw := by
  let as := [.e42Setup 1 (localHost 4000), .register] ++ passOn (controlGnb 7 1 (by decide)) (localHost 4000) 5 ++
    passOn (controlGnb 7 2 (by decide)) (localHost 4000) 6 ++ [.epoll [5]]
  have h : ((routing oneNode).exec System.Any init as).passes (fun s => s.fetched = [5] ∧
      s.outstanding = [(6, ⟨.controlRequest, ⟨1022, 0, 2⟩⟩), (5, ⟨.controlRequest, ⟨1021, 0, 2⟩⟩)] ∧
      (step oneNode s .pendEvent).abort? = some "bi_map_size(&ric->pending) == 1") = true := by
    decide +kernel
  obtain ⟨s, hr, hs⟩ := System.exists_run_of_exec h
  obtain ⟨hf, ho, ha⟩ := of_decide_eq_true hs
  have ha := Outcome.abort?_eq_some.mp ha
  refine ⟨s, ⟨as, hr⟩, hf, ho, ha, fun hl => ?_⟩
  obtain ⟨ev, -, hev⟩ := hl.expiry 5 [] hf
  simp [step, hf, hev, Outcome.ofExcept] at ha

end Law

end Routing

end FlexRic.Ric
