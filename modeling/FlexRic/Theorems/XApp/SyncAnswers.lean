import FlexRic.Theorems.XApp.Sync

/-! # When an answer finds its pending event, and when it finds its waiter

The handlers of delete and control requests send before they register, so an answer can come in between.
`cond_wait_sync_ui` clears the flags after the request was sent, so a signal can come before it and be
lost. Both happen on some schedules and on no others. -/

namespace FlexRic.XApp
open Ds E2ap

/-- The UI thread has sent the request that the answer answers, and has its pending event still to register. -/
def UiPc.Unregistered (ui : UiPc) (a : Answer) : Prop := ∃ r, ui = .sent r ∧ a.Answers r

namespace Xapp
variable {s t : Xapp} {r : Request} {a : Answer}

/-- The table has an entry for the request that the answer answers. -/
def Registered (s : Xapp) (a : Answer) : Prop :=
  ∃ fd ev, findPendingEventFd s.pending fd = some ev ∧ ev.ev = a.kind.e42PendingEvent ∧ ev.id = a.id

theorem mem_of_findPendingEventFd {p : PendingEvents} {es : List (Nat × PendingEventXapp)} (h : p.Holds es)
    {fd : Nat} {ev : PendingEventXapp} (hf : findPendingEventFd p fd = some ev) : (fd, ev) ∈ es := by
  unfold findPendingEventFd at hf
  rw [Option.map_eq_some_iff] at hf
  obtain ⟨⟨fd', ev'⟩, hf, rfl⟩ := hf
  obtain ⟨hm, hq⟩ := h.findIf_mem hf
  obtain rfl : fd = fd' := by simpa using hq
  exact hm

theorem not_registered_of_empty (h : s.pending.Holds []) : ¬s.Registered a := by
  rintro ⟨fd, ev, hf, -⟩
  cases mem_of_findPendingEventFd h hf

theorem answers_of_registered {fd : Nat} (h : s.pending.Holds [(fd, r.event)]) (hr : s.Registered a) : a.Answers r := by
  obtain ⟨fd', ev, hf, hk, hid⟩ := hr
  obtain ⟨-, rfl⟩ : fd' = fd ∧ ev = r.event := by simpa using mem_of_findPendingEventFd h hf
  exact ⟨(RequestKind.e42PendingEvent_inj hk).symm, hid.symm⟩

theorem registered_of_answers {fd : Nat} (h : s.pending.Holds [(fd, r.event)]) (ha : a.Answers r) : s.Registered a :=
  ⟨fd, r.event, findPendingEventFd_holds h (by simp) (List.mem_singleton.mpr rfl), by rw [ha.1]; rfl, ha.2.symm⟩

/-- The table is empty, or it has the one event of a request whose answer has not been handled. -/
theorem Inv.table (h : s.Inv) :
    s.pending.Holds [] ∨ ∃ r fd, s.pending.Holds [(fd, r.event)] ∧ s.Fresh r ∧ s.loop = .idle := by
  have hpos := h.position
  cases hui : s.ui with
  | idle =>
    simp only [Position, hui] at hpos
    exact .inl hpos.2
  | entered r =>
    simp only [Position, hui] at hpos
    exact .inl hpos.2.2
  | registered r =>
    simp only [Position, hui] at hpos
    obtain ⟨hq, hf, fd, -, hh⟩ := hpos
    exact .inr ⟨r, fd, hh, hf, hq.loop⟩
  | sent r =>
    simp only [Position, hui] at hpos
    exact .inl hpos.2.2.2
  | handled r | waiting r | timedOut r =>
    simp only [Position, hui] at hpos
    obtain ⟨st, hat, htold, htimer⟩ := hpos
    cases st with
    | asked =>
      obtain ⟨fd, -, hh⟩ := htimer
      exact .inr ⟨r, fd, hh, htold, hat.2.2⟩
    | answered =>
      obtain ⟨fd, -, hh⟩ := htimer
      exact .inr ⟨r, fd, hh, htold, hat.2.2.2⟩
    | signalling => exact .inl htimer
    | signalled => exact .inl htimer
  | woken r =>
    simp only [Position, hui] at hpos
    obtain ⟨-, -, -, hh, -⟩ := hpos
    exact .inl hh

/-- In every reachable state: the answer that the event loop takes next finds the pending event of its
request and removes it, exactly when the UI thread is not between sending that request and registering the
event; and no answer that was handled has its request's event, and so its timer, in the table. -/
theorem answer_finds_event_iff (h : xapp.Reachable System.Any s) :
    (∀ a rest, s.loop = .idle → s.toXapp = a :: rest →
      ((s.Registered a ∧ ∃ t, s.step .handle = .next t ∧ ¬t.Registered a) ↔ ¬s.ui.Unregistered a)) ∧
    ∀ a, a ∈ s.signalled ∨ s.loop = .signalling a → ¬s.Registered a := by
  obtain ⟨as, hrun⟩ := h
  have hi := inv_of_run hrun
  refine ⟨fun a rest hl hto => ?_, fun a ha hr => ?_⟩
  · obtain ⟨rfl, r, hreq, hat, ⟨hui, hh⟩ | ⟨hns, hf, fd, hfd, hh⟩⟩ := hi.onItsWay hto
    · exact ⟨fun ⟨hreg, _⟩ => absurd hreg (not_registered_of_empty hh), fun hn => absurd ⟨r, hui, hat.1⟩ hn⟩
    · obtain ⟨p, hp, hh'⟩ := rmPending_one ⟨a.kind.e42PendingEvent, r.id, 0⟩ hh hfd (by rw [hat.1.1]; rfl)
      constructor
      · rintro - ⟨r', hui', ha'⟩
        obtain rfl : r' = r := by simpa [hui', UiPc.request?] using hreq
        exact hns hui'
      · refine fun _ => ⟨registered_of_answers hh hat.1, { s with
          pending := p, asio := s.asio.erase fd, loop := .signalling a, toXapp := [] }, ?_, not_registered_of_empty hh'⟩
        simp only [step, hl, hto, hi.handleAnswer hreq hat.1, hp, Outcome.next_bind, Outcome.pure_eq]
  · rcases hi.table with hh | ⟨r, fd, hh, hf, hl⟩
    · exact not_registered_of_empty hh hr
    · rcases ha with ha | ha
      · exact hf a ha (answers_of_registered hh hr)
      · rw [hl] at ha
        cases ha

/-- A subscription registers its event before it sends, so its response finds the event. -/
theorem answer_finds_event_iff_subscription : ∃ s : Xapp, s.toXapp = [.subscriptionResponse ⟨1, 0, 3⟩] ∧
    s.Registered (.subscriptionResponse ⟨1, 0, 3⟩) ∧
    ∃ t, s.step .handle = .next t ∧ ¬t.Registered (.subscriptionResponse ⟨1, 0, 3⟩) := by
  have h : (xapp.exec System.Any xapp.init [.report 3, .register 5, .send, .answer 0 none]).passes (fun s =>
      s.loop = .idle ∧ s.toXapp = [.subscriptionResponse ⟨1, 0, 3⟩] ∧
        s.ui = .handled ⟨.subscription, ⟨1, 0, 3⟩⟩) = true := by decide +kernel
  obtain ⟨s, hr, hs⟩ := System.exists_run_of_exec h
  obtain ⟨hl, hto, hui⟩ := of_decide_eq_true hs
  refine ⟨s, hto, ((answer_finds_event_iff ⟨_, hr⟩).1 _ _ hl hto).mpr ?_⟩
  rintro ⟨r, hsent, -⟩
  rw [hui] at hsent
  cases hsent

/-- A control request whose answer has arrived while its handler has yet to return. -/
theorem control_answered_early : ∃ s a rest, xapp.Reachable System.Any s ∧ s.loop = .idle ∧ s.toXapp = a :: rest ∧
    ¬s.Registered a ∧ s.step .handle = .abort "Trying to extract a key not found in the tree" := by
  have h : (xapp.exec System.Any xapp.init [.control 3, .send, .answer 0 none]).passes (fun s =>
      s.loop = .idle ∧ s.toXapp = [.controlAcknowledge ⟨1, 0, 3⟩] ∧ s.pending.left.toList = [] ∧
        (s.step .handle).abort? = some "Trying to extract a key not found in the tree") = true := by decide +kernel
  obtain ⟨s, hr, hs⟩ := System.exists_run_of_exec h
  obtain ⟨hl, hto, hnil, habort⟩ := of_decide_eq_true hs
  refine ⟨s, _, _, ⟨_, hr⟩, hl, hto, ?_, Outcome.abort?_eq_some.mp habort⟩
  rintro ⟨fd, ev, hf, -⟩
  obtain ⟨e, he, -⟩ := Option.map_eq_some_iff.mp hf
  obtain ⟨hmem, -⟩ := AssocRbTree.mem_of_findIf he
  rw [hnil] at hmem
  cases hmem

/-! ### Signals -/

/-- A signal comes while the UI thread waits, inside `pthread_cond_timedwait`. -/
def SignalFindsWaiter (s : Xapp) (act : Act) : Prop := act = .signal → ∃ r, s.ui = .waiting r

/-- The law of the synchronous requests: once the answer to the current request was signalled, the wait is
over, it cannot time out any more and returns the outcome of that answer; and the waits before returned the
outcomes of the answers to their own requests. -/
structure SyncLaw (s : Xapp) : Prop where
  current : ∀ r a, s.ui.request? = some r → a ∈ s.signalled → a.Answers r →
    s.step .deadline = .blocked ∧ ∃ t, s.step .resume = .next t ∧ t.ui = .idle ∧
      t.returned = (r, a.success) :: s.returned
  before : ∀ r ok, (r, ok) ∈ s.returned → ∃ a ∈ s.signalled, a.Answers r ∧ a.success = ok

/-- A wait that is not over has no answer signalled. -/
def Prompt (s : Xapp) : Prop := ∀ r, (s.ui = .handled r ∨ s.ui = .waiting r ∨ s.ui = .timedOut r) → s.Fresh r

theorem Prompt.step (hi : s.Inv) (h : s.Prompt) {act : Act} (hg : SignalFindsWaiter s act)
    (hs : s.step act = .next t) : t.Prompt := by
  have hpos := hi.position
  -- The steps that leave the history alone and put the thread where the request was fresh.
  have keep : t.signalled = s.signalled →
      (∀ r, (t.ui = .handled r ∨ t.ui = .waiting r ∨ t.ui = .timedOut r) → s.Fresh r) → t.Prompt := by
    intro hsig hf r hr a ha
    exact hf r hr a (hsig ▸ ha)
  cases act with
  | report ranFuncId | control ranFuncId =>
    obtain ⟨_, -, hs⟩ := Outcome.bind_eq_next.mp hs
    obtain rfl := generate_inv hs
    exact keep rfl fun r hr => by simp at hr
  | rmReport k =>
    obtain ⟨_, -, hs⟩ := Outcome.bind_eq_next.mp hs
    cases hv : s.actProc.find k with
    | none => simp [hv] at hs
    | some v =>
      simp only [hv] at hs
      obtain rfl := Outcome.next.inj hs
      exact keep rfl fun r hr => by simp at hr
  | register fd =>
    simp only [Xapp.step] at hs
    split at hs
    · obtain ⟨_, -, hs⟩ := Outcome.bind_eq_next.mp hs
      obtain ⟨s', hs', hs⟩ := Outcome.bind_eq_next.mp hs
      obtain ⟨-, rfl⟩ := addPending_inv hs'
      obtain rfl := Outcome.next.inj hs
      exact keep rfl fun r hr => by simp at hr
    · next r hui =>
      simp only [Position, hui] at hpos
      obtain ⟨s', hs', hs⟩ := Outcome.bind_eq_next.mp hs
      obtain ⟨-, rfl⟩ := addPending_inv hs'
      obtain rfl := Outcome.next.inj hs
      exact keep rfl fun r' hr' => by
        obtain rfl : r = r' := by simpa using hr'
        exact hpos.2.2.1
    · cases hs
  | send =>
    simp only [Xapp.step] at hs
    split at hs
    · obtain ⟨_, -, hs⟩ := Outcome.bind_eq_next.mp hs
      obtain rfl := Outcome.next.inj hs
      exact keep rfl fun r hr => by simp at hr
    · next r hui =>
      simp only [Position, hui] at hpos
      obtain rfl := Outcome.next.inj hs
      exact keep rfl fun r' hr' => by
        obtain rfl : r = r' := by simpa using hr'
        exact hpos.2.1
    · cases hs
  | wait =>
    simp only [Xapp.step] at hs
    split at hs
    · next r hui =>
      obtain ⟨_, -, hs⟩ := Outcome.bind_eq_next.mp hs
      obtain rfl := Outcome.next.inj hs
      exact keep rfl fun r' hr' => h r' (.inl (by simpa [hui] using hr'))
    · cases hs
  | deadline =>
    simp only [Xapp.step] at hs
    split at hs
    · next r hui =>
      obtain rfl := Outcome.next.inj hs
      exact keep rfl fun r' hr' => h r' (.inr (.inl (by simpa [hui] using hr')))
    · cases hs
  | resume =>
    simp only [Xapp.step] at hs
    split at hs
    · next r hui =>
      simp only [Position, hui] at hpos
      obtain ⟨-, -, -, -, hflag, -⟩ := hpos
      rw [if_pos hflag] at hs
      obtain ⟨s', -, hs⟩ := Outcome.bind_eq_next.mp hs
      obtain rfl := Outcome.next.inj hs
      intro r' hr'
      simp at hr'
    · cases hs
    · cases hs
  | answer i failure =>
    obtain ⟨r', -, hs⟩ := Outcome.bind_eq_next.mp hs
    obtain rfl := Outcome.next.inj hs
    exact keep rfl h
  | handle =>
    simp only [Xapp.step] at hs
    split at hs
    · next a rest hl hto =>
      obtain ⟨s', hs', hs⟩ := Outcome.bind_eq_next.mp hs
      obtain rfl := Outcome.next.inj hs
      have hsame : s'.ui = s.ui ∧ s'.signalled = s.signalled := by
        obtain ⟨-, r, hreq, hat, -⟩ := hi.onItsWay hto
        rw [hi.handleAnswer hreq hat.1] at hs'
        obtain ⟨fd, p, -, rfl⟩ := rmPending_inv hs'
        exact ⟨rfl, rfl⟩
      exact keep hsame.2 fun r hr => h r (hsame.1 ▸ hr)
    · cases hs
  | signal =>
    obtain ⟨r, hui⟩ := hg rfl
    simp only [Xapp.step] at hs
    split at hs
    · simp only [hui] at hs
      obtain rfl := Outcome.next.inj hs
      intro r' hr'
      simp at hr'
    · cases hs
  | expire fd =>
    obtain ⟨_, -, hs⟩ := Outcome.bind_eq_next.mp hs
    cases hf : findPendingEventFd s.pending fd <;> simp [hf] at hs

theorem Inv.resume_woken (hi : s.Inv) (hui : s.ui = .woken r) (ha : a ∈ s.signalled) (har : a.Answers r) :
    ∃ t, s.step .resume = .next t ∧ t.ui = .idle ∧ t.returned = (r, a.success) :: s.returned := by
  have hpos := hi.position
  simp only [Position, hui] at hpos
  obtain ⟨b, -, ⟨-, huniq⟩, -, hflag, hok⟩ := hpos
  obtain rfl := huniq a ha har
  obtain ⟨v, hv, -⟩ := hi.known r (by simp [UiPc.request?, hui])
  have haft : ∃ s', s.afterWait r = .next s' ∧ s'.returned = s.returned := by
    unfold afterWait
    cases r.kind with
    | subscription => exact ⟨s, rfl, rfl⟩
    | subscriptionDelete | control =>
      rw [ActProc.rm_eq (ActProc.has_of_find hv)]
      exact ⟨_, rfl, rfl⟩
  obtain ⟨s', haft, hret⟩ := haft
  refine ⟨{ s' with ui := .idle, returned := (r, s.sync.ok) :: s.returned }, ?_, rfl, by rw [hok]⟩
  simp only [Xapp.step, hui, hflag, if_true, haft, Outcome.next_bind, Outcome.pure_eq]

/-- In every run whose signals all find the UI thread waiting, the law of the synchronous requests holds
wherever the run has come to. -/
theorem syncLaw_of_run {as : List Act} (h : xapp.Run SignalFindsWaiter as s) : s.SyncLaw := by
  have hp : s.Inv ∧ s.Prompt := by
    refine h.invariant (I := fun s => s.Inv ∧ s.Prompt) ⟨inv_init, fun r hr => by simp [xapp, init] at hr⟩ ?_
    exact fun s act t ⟨hi, hp⟩ hg hs => ⟨hi.step hs, hp.step hi hg hs⟩
  obtain ⟨hi, hp⟩ := hp
  refine ⟨fun r a hreq ha har => ?_, hi.outcomes⟩
  have hpos := hi.position
  cases hui : s.ui with
  | idle => simp [UiPc.request?, hui] at hreq
  | entered r' | registered r' =>
    obtain rfl : r' = r := by simpa [UiPc.request?, hui] using hreq
    simp only [Position, hui] at hpos
    exact absurd har (hpos.2.1 a ha)
  | sent r' =>
    obtain rfl : r' = r := by simpa [UiPc.request?, hui] using hreq
    simp only [Position, hui] at hpos
    exact absurd har (hpos.2.2.1 a ha)
  | handled r' | waiting r' | timedOut r' =>
    obtain rfl : r' = r := by simpa [UiPc.request?, hui] using hreq
    exact absurd har (hp r' (by simp [hui]) a ha)
  | woken r' =>
    obtain rfl : r' = r := by simpa [UiPc.request?, hui] using hreq
    exact ⟨by simp [step, hui], hi.resume_woken hui ha har⟩

/-- A control request that waits, is acknowledged and is signalled. -/
theorem syncLaw_of_run_control : ∃ s : Xapp, s.SyncLaw ∧ s.ui = .woken ⟨.control, ⟨1, 0, 3⟩⟩ ∧
    .controlAcknowledge ⟨1, 0, 3⟩ ∈ s.signalled := by
  have h : (xapp.exec (fun s act => act = .signal → s.ui = .waiting ⟨.control, ⟨1, 0, 3⟩⟩) xapp.init
      [.control 3, .send, .register 7, .wait, .answer 0 none, .handle, .signal]).passes (fun s =>
        s.ui = .woken ⟨.control, ⟨1, 0, 3⟩⟩ ∧ .controlAcknowledge ⟨1, 0, 3⟩ ∈ s.signalled) = true := by decide +kernel
  obtain ⟨s, hr, hs⟩ := System.exists_run_of_exec h
  obtain ⟨hui, hmem⟩ := of_decide_eq_true hs
  exact ⟨s, syncLaw_of_run (hr.mono fun s act hg ha => ⟨_, hg ha⟩), hui, hmem⟩

/-- The acknowledge is signalled between the handler of the control request and `cond_wait_sync_ui`: the wait
clears the flag, and it times out. -/
theorem control_signalled_early : ∃ s : Xapp, xapp.Reachable System.Any s ∧
    .controlAcknowledge ⟨1, 0, 3⟩ ∈ s.signalled ∧ s.ui.request? = some ⟨.control, ⟨1, 0, 3⟩⟩ ∧
    s.step .resume =
      .abort "Timeout. No response from the E2 Node received, and neither from epoll. Unforeseen path" ∧
    ¬s.SyncLaw := by
  have h : (xapp.exec System.Any xapp.init
      [.control 3, .send, .register 7, .answer 0 none, .handle, .signal, .wait, .deadline]).passes (fun s =>
        .controlAcknowledge ⟨1, 0, 3⟩ ∈ s.signalled ∧ s.ui = .timedOut ⟨.control, ⟨1, 0, 3⟩⟩ ∧
          (s.step .resume).abort? =
            some "Timeout. No response from the E2 Node received, and neither from epoll. Unforeseen path") = true := by
    decide +kernel
  obtain ⟨s, hr, hs⟩ := System.exists_run_of_exec h
  obtain ⟨hmem, hui, habort⟩ := of_decide_eq_true hs
  have hreq : s.ui.request? = some ⟨.control, ⟨1, 0, 3⟩⟩ := by rw [hui]; rfl
  have hresume := Outcome.abort?_eq_some.mp habort
  refine ⟨s, ⟨_, hr⟩, hmem, hreq, hresume, fun hlaw => ?_⟩
  obtain ⟨-, t, ht, -⟩ := hlaw.current _ _ hreq hmem ⟨rfl, rfl⟩
  rw [hresume] at ht
  cases ht

end Xapp

end FlexRic.XApp
