import FlexRic.XApp.Sync
import FlexRic.Theorems.XApp.PendingEvents

/-! # One synchronous request at a time: the invariant

What every reachable state of the xApp's two threads keeps: where the current request and its answer are,
which timer the table of pending events holds for it, and what the active procedures and the history say
about the requests before it. -/

namespace FlexRic.XApp
open Ds E2ap

/-- The request that the UI thread is at. -/
def UiPc.request? : UiPc → Option Request
  | .idle => none
  | .entered r | .registered r | .sent r | .handled r | .waiting r | .woken r | .timedOut r => some r

/-- Where a request that was sent, or its answer, is. -/
inductive Stage
  | asked
  | answered (a : Answer)
  | signalling (a : Answer)
  | signalled (a : Answer)

namespace Xapp

/-! ### Steps -/

section Steps
variable {s t : Xapp} {r : Request} {a : Answer} {fd i : Nat}

theorem generate_inv {kind : RequestKind} {type : ActProcType} {ranFuncId : Nat}
    (h : s.generate kind type ranFuncId = .next t) :
    t = { s with
      actProc := (s.actProc.add type ⟨0, 0, ranFuncId⟩).2
      ui := .entered ⟨kind, ⟨s.actProc.keyId, 0, ranFuncId⟩⟩ } := by
  unfold generate at h
  obtain ⟨_, -, h⟩ := Outcome.bind_eq_next.mp h
  exact (Outcome.next.inj h).symm

theorem addPending_inv (h : s.addPending r fd = .next t) :
    0 < fd ∧ t = { s with pending := s.pending.insert fd r.event, asio := fd :: s.asio } := by
  unfold addPending at h
  obtain ⟨_, hw, h⟩ := Outcome.bind_eq_next.mp h
  obtain ⟨hfd, -⟩ := Outcome.await_eq_next.mp hw
  obtain ⟨p, hp, h⟩ := Outcome.bind_eq_next.mp h
  rw [Outcome.ofExcept_eq_next, addPendingEvent, if_pos hfd] at hp
  obtain rfl := Except.ok.inj hp
  exact ⟨hfd, (Outcome.next.inj h).symm⟩

theorem rmPending_inv {ev : PendingEventXapp} (h : s.rmPending ev = .next t) :
    ∃ fd p, rmPendingEventEv s.pending ev = .ok (fd, p) ∧ t = { s with pending := p, asio := s.asio.erase fd } := by
  unfold rmPending at h
  obtain ⟨⟨fd, p⟩, hp, h⟩ := Outcome.bind_eq_next.mp h
  exact ⟨fd, p, Outcome.ofExcept_eq_next.mp hp, (Outcome.next.inj h).symm⟩

/-- The removal of the one pending event in the table. -/
theorem rmPending_one (key : PendingEventXapp) {fd : Nat} {ev : PendingEventXapp} (h : s.pending.Holds [(fd, ev)]) (hfd : 0 < fd)
    (hk : key.ev = ev.ev) : ∃ p, s.rmPending key = .next { s with pending := p, asio := s.asio.erase fd } ∧
      p.Holds [] := by
  obtain ⟨p, hp, hh⟩ := rmPendingEventEv_holds h (by simp) hfd (.refl _) hk (by simp)
  exact ⟨p, by simp [rmPending, hp, Outcome.ofExcept], hh⟩

theorem rmPending_none (h : s.pending.Holds []) (ev : PendingEventXapp) :
    s.rmPending ev = .abort "Trying to extract a key not found in the tree" := by
  rcases h.extractRight_cases List.Pairwise.nil cmpFdOnEvent ev with ⟨-, he⟩ | ⟨a, b, rest, hp, -⟩
  · simp [rmPending, rmPendingEventEv, he, Outcome.ofExcept, Bind.bind, Except.bind, Outcome.bind]
  · exact absurd hp.length_eq (by simp)

end Steps

/-! ### The invariant -/

/-- No request is on its way and no answer. -/
structure Quiet (s : Xapp) : Prop where
  toIapp : s.toIapp = []
  toXapp : s.toXapp = []
  loop : s.loop = .idle

/-- The request, or its answer, is at the stage, and no other message is on its way. -/
def At (s : Xapp) (r : Request) : Stage → Prop
  | .asked => s.toIapp = [r] ∧ s.toXapp = [] ∧ s.loop = .idle
  | .answered a => a.Answers r ∧ s.toIapp = [] ∧ s.toXapp = [a] ∧ s.loop = .idle
  | .signalling a => a.Answers r ∧ s.toIapp = [] ∧ s.toXapp = [] ∧ s.loop = .signalling a
  | .signalled a => a.Answers r ∧ s.Quiet

/-- No answer to the request has been signalled. -/
def Fresh (s : Xapp) (r : Request) : Prop := ∀ a ∈ s.signalled, ¬a.Answers r

/-- What the history says of the request at the stage: its answer is the one signalled, or none was. -/
def Told (s : Xapp) (r : Request) : Stage → Prop
  | .signalled a => a ∈ s.signalled ∧ ∀ a' ∈ s.signalled, a'.Answers r → a' = a
  | _ => s.Fresh r

/-- The pending event of a request whose handler has returned: its timer runs until the answer is handled. -/
def Timer (s : Xapp) (r : Request) : Stage → Prop
  | .asked | .answered _ => ∃ fd, 0 < fd ∧ s.pending.Holds [(fd, r.event)]
  | .signalling _ | .signalled _ => s.pending.Holds []

/-- A request that was sent and registered is at some stage. -/
def InFlight (s : Xapp) (r : Request) : Prop := ∃ st, s.At r st ∧ s.Told r st ∧ s.Timer r st

/-- Where the UI thread is, and what goes with it. -/
def Position (s : Xapp) : Prop :=
  match s.ui with
  | .idle => s.Quiet ∧ s.pending.Holds []
  | .entered r => s.Quiet ∧ s.Fresh r ∧ s.pending.Holds []
  | .registered r => s.Quiet ∧ s.Fresh r ∧ ∃ fd, 0 < fd ∧ s.pending.Holds [(fd, r.event)]
  | .sent r => r.kind ≠ .subscription ∧ (s.At r .asked ∨ ∃ a, s.At r (.answered a)) ∧ s.Fresh r ∧
      s.pending.Holds []
  | .handled r | .waiting r | .timedOut r => s.InFlight r
  | .woken r => ∃ a, s.At r (.signalled a) ∧ s.Told r (.signalled a) ∧ s.pending.Holds [] ∧
      s.sync.flagSync = true ∧ s.sync.ok = a.success

/-- The answer belongs to a request whose active procedure is over, or stays for the indications. -/
def Spent (s : Xapp) (a : Answer) : Prop :=
  a.id.ricReqId < s.actProc.keyId ∧ (a.kind ≠ .subscription → ¬s.actProc.Has a.id.ricReqId)

/-- What every reachable state of the xApp keeps. -/
structure Inv (s : Xapp) : Prop where
  waitMs : 0 < s.sync.waitMs
  wellKeyed : s.actProc.WellKeyed
  /-- The request that the UI thread is at is an active procedure. -/
  known : ∀ r, s.ui.request? = some r → ∃ v, s.actProc.find r.id.ricReqId = some v ∧ v.id = r.id
  /-- An answer that was signalled answers the current request, or it is spent. -/
  spent : ∀ a ∈ s.signalled, (∃ r, s.ui.request? = some r ∧ a.Answers r) ∨ s.Spent a
  position : s.Position
  /-- The waits have returned the outcome of the answer to their own request. -/
  outcomes : ∀ r ok, (r, ok) ∈ s.returned → ∃ a ∈ s.signalled, a.Answers r ∧ a.success = ok

theorem inv_init : init.Inv where
  waitMs := by decide
  wellKeyed := .init
  known r h := by cases h
  spent a h := by cases h
  position := ⟨⟨rfl, rfl, rfl⟩, BiMap.holds_init⟩
  outcomes r ok h := by cases h

/-! ### What the steps preserve -/

section Preserve
variable {s t : Xapp} {r : Request} {a : Answer}

/-- A new request is none of the requests that were answered before. -/
theorem Inv.begin (h : s.Inv) (hui : s.ui = .idle) {actProc : ActProc} (hk : actProc.WellKeyed)
    (hr : ∃ v, actProc.find r.id.ricReqId = some v ∧ v.id = r.id)
    (hs : ∀ a ∈ s.signalled, s.Spent a → ¬a.Answers r ∧ a.id.ricReqId < actProc.keyId ∧
      (a.kind ≠ .subscription → ¬actProc.Has a.id.ricReqId)) :
    Inv { s with actProc, ui := .entered r } := by
  have hsp : ∀ a ∈ s.signalled, s.Spent a := fun a ha => (h.spent a ha).resolve_left (by simp [hui, UiPc.request?])
  have hpos := h.position
  simp only [Position, hui] at hpos
  exact {
    waitMs := h.waitMs
    wellKeyed := hk
    known := by rintro r' ⟨⟩; exact hr
    spent := fun a ha => .inr (hs a ha (hsp a ha)).2
    position := ⟨⟨hpos.1.toIapp, hpos.1.toXapp, hpos.1.loop⟩, fun a ha => (hs a ha (hsp a ha)).1, hpos.2⟩
    outcomes := h.outcomes }

theorem Inv.generate (h : s.Inv) (hui : s.ui = .idle) {kind : RequestKind} {type : ActProcType} {ranFuncId : Nat}
    (hs : s.generate kind type ranFuncId = .next t) : t.Inv := by
  obtain rfl := generate_inv hs
  refine h.begin hui (h.wellKeyed.add _ _) ?_ fun a _ ⟨hlt, hn⟩ => ⟨fun ha => ?_, Nat.lt_succ_of_lt hlt, fun hk hh => ?_⟩
  · exact ⟨_, (h.wellKeyed.add type ⟨0, 0, ranFuncId⟩).find_eq (List.mem_append_right _ (List.mem_singleton.mpr rfl)), rfl⟩
  · have : a.id.ricReqId = s.actProc.keyId := by rw [ha.2]
    omega
  · rcases ActProc.has_add.mp hh with hh | hh
    · exact hn hk hh
    · omega

theorem Inv.rmReport (h : s.Inv) (hui : s.ui = .idle) {k : Nat} {v : ActProcVal} (hv : s.actProc.find k = some v) :
    Inv { s with ui := .entered ⟨.subscriptionDelete, v.id⟩ } := by
  have hk : v.id.ricReqId = k := by
    simp only [ActProc.find, Option.map_eq_some_iff] at hv
    obtain ⟨e, -, rfl⟩ := hv
    rfl
  refine h.begin hui h.wellKeyed ⟨v, hk ▸ hv, rfl⟩ fun a _ ⟨hlt, hn⟩ => ⟨fun ha => ?_, hlt, hn⟩
  have hd : a.kind ≠ .subscription := by rw [ha.1]; simp
  exact hn hd (by rw [ha.2, hk]; exact ActProc.has_of_find hv)

/-- A step that leaves the request, the procedures and the history as they are. -/
theorem Inv.move (h : s.Inv) (hreq : t.ui.request? = s.ui.request?) (hap : t.actProc = s.actProc)
    (hsig : t.signalled = s.signalled) (hret : t.returned = s.returned) (hw : 0 < t.sync.waitMs)
    (hpos : t.Position) : t.Inv where
  waitMs := hw
  wellKeyed := hap ▸ h.wellKeyed
  known r hr := hap ▸ h.known r (hreq ▸ hr)
  spent a ha := by
    rw [hsig] at ha
    rw [hreq]
    unfold Spent
    rw [hap]
    exact h.spent a ha
  position := hpos
  outcomes r ok hr := by
    rw [hsig]
    exact h.outcomes r ok (hret ▸ hr)

theorem Inv.register (h : s.Inv) {fd : Nat} (hs : s.step (.register fd) = .next t) : t.Inv := by
  have hpos := h.position
  simp only [step] at hs
  split at hs
  · next r hui =>
    simp only [Position, hui] at hpos
    obtain ⟨hq, hf, hh⟩ := hpos
    obtain ⟨_, -, hs⟩ := Outcome.bind_eq_next.mp hs
    obtain ⟨s', hs', hs⟩ := Outcome.bind_eq_next.mp hs
    obtain ⟨hfd, rfl⟩ := addPending_inv hs'
    obtain rfl := Outcome.next.inj hs
    exact h.move (by simp [UiPc.request?, hui]) rfl rfl rfl h.waitMs
      ⟨⟨hq.toIapp, hq.toXapp, hq.loop⟩, hf, fd, hfd, hh.insert fd r.event⟩
  · next r hui =>
    simp only [Position, hui] at hpos
    obtain ⟨-, hat, hf, hh⟩ := hpos
    obtain ⟨s', hs', hs⟩ := Outcome.bind_eq_next.mp hs
    obtain ⟨hfd, rfl⟩ := addPending_inv hs'
    obtain rfl := Outcome.next.inj hs
    refine h.move (by simp [UiPc.request?, hui]) rfl rfl rfl h.waitMs ?_
    have hh' := hh.insert fd r.event
    rcases hat with hat | ⟨a, hat⟩
    · exact ⟨.asked, hat, hf, fd, hfd, hh'⟩
    · exact ⟨.answered a, hat, hf, fd, hfd, hh'⟩
  · cases hs

theorem Inv.send (h : s.Inv) (hs : s.step .send = .next t) : t.Inv := by
  have hpos := h.position
  simp only [step] at hs
  split at hs
  · next r hui =>
    simp only [Position, hui] at hpos
    obtain ⟨hq, hf, hh⟩ := hpos
    obtain ⟨_, hk, hs⟩ := Outcome.bind_eq_next.mp hs
    obtain rfl := Outcome.next.inj hs
    exact h.move (by simp [UiPc.request?, hui]) rfl rfl rfl h.waitMs
      ⟨Outcome.await_eq_next.mp hk, .inl ⟨by simp [hq.toIapp], hq.toXapp, hq.loop⟩, hf, hh⟩
  · next r hui =>
    simp only [Position, hui] at hpos
    obtain ⟨hq, hf, hh⟩ := hpos
    obtain rfl := Outcome.next.inj hs
    exact h.move (by simp [UiPc.request?, hui]) rfl rfl rfl h.waitMs
      ⟨.asked, ⟨by simp [hq.toIapp], hq.toXapp, hq.loop⟩, hf, hh⟩
  · cases hs

/-- A step of the UI thread that touches no message, no timer and no history. -/
theorem InFlight.keep (h : s.InFlight r) (h₁ : t.toIapp = s.toIapp) (h₂ : t.toXapp = s.toXapp)
    (h₃ : t.loop = s.loop) (h₄ : t.signalled = s.signalled) (h₅ : t.pending = s.pending) : t.InFlight r := by
  obtain ⟨st, hat, htold, htimer⟩ := h
  refine ⟨st, ?_, ?_, ?_⟩
  · cases st
    · exact ⟨h₁ ▸ hat.1, h₂ ▸ hat.2.1, h₃ ▸ hat.2.2⟩
    · exact ⟨hat.1, h₁ ▸ hat.2.1, h₂ ▸ hat.2.2.1, h₃ ▸ hat.2.2.2⟩
    · exact ⟨hat.1, h₁ ▸ hat.2.1, h₂ ▸ hat.2.2.1, h₃ ▸ hat.2.2.2⟩
    · exact ⟨hat.1, h₁ ▸ hat.2.toIapp, h₂ ▸ hat.2.toXapp, h₃ ▸ hat.2.loop⟩
  · cases st <;> simpa only [Told, Fresh, h₄] using htold
  · cases st <;> simpa only [Timer, h₅] using htimer

theorem Inv.wait (h : s.Inv) (hs : s.step .wait = .next t) : t.Inv := by
  have hpos := h.position
  simp only [step] at hs
  split at hs
  · next r hui =>
    simp only [Position, hui] at hpos
    obtain ⟨_, -, hs⟩ := Outcome.bind_eq_next.mp hs
    obtain rfl := Outcome.next.inj hs
    exact h.move (by simp [UiPc.request?, hui]) rfl rfl rfl h.waitMs (hpos.keep rfl rfl rfl rfl rfl)
  · cases hs

theorem Inv.deadline (h : s.Inv) (hs : s.step .deadline = .next t) : t.Inv := by
  have hpos := h.position
  simp only [step] at hs
  split at hs
  · next r hui =>
    simp only [Position, hui] at hpos
    obtain rfl := Outcome.next.inj hs
    exact h.move (by simp [UiPc.request?, hui]) rfl rfl rfl h.waitMs (hpos.keep rfl rfl rfl rfl rfl)
  · cases hs

theorem Inv.resume (h : s.Inv) (hs : s.step .resume = .next t) : t.Inv := by
  have hpos := h.position
  simp only [step] at hs
  split at hs
  · next r hui =>
    simp only [Position, hui] at hpos
    obtain ⟨a, ⟨har, hq⟩, ⟨hmem, huniq⟩, hh, hflag, hok⟩ := hpos
    rw [if_pos hflag] at hs
    obtain ⟨s', hs', hs⟩ := Outcome.bind_eq_next.mp hs
    obtain rfl := Outcome.next.inj hs
    -- Whatever the kind, only the active procedures differ, and the request's own is gone unless it is a
    -- subscription.
    have hap : ∃ ap : ActProc, s' = { s with actProc := ap } ∧ ap.WellKeyed ∧ ap.keyId = s.actProc.keyId ∧
        (∀ j, ap.Has j → s.actProc.Has j) ∧ (r.kind ≠ .subscription → ¬ap.Has r.id.ricReqId) := by
      cases hk : r.kind with
      | subscription =>
        simp only [afterWait, hk] at hs'
        obtain rfl := Outcome.next.inj hs'
        exact ⟨s.actProc, rfl, h.wellKeyed, rfl, fun _ hj => hj, fun hn => absurd rfl hn⟩
      | subscriptionDelete | control =>
        simp only [afterWait, hk] at hs'
        obtain ⟨ap, hrm, hs'⟩ := Outcome.bind_eq_next.mp hs'
        obtain ⟨hwk, hkey, hhas⟩ := h.wellKeyed.rm (Outcome.ofExcept_eq_next.mp hrm)
        exact ⟨ap, (Outcome.next.inj hs').symm, hwk, hkey, fun j hj => ((hhas j).mp hj).1,
          fun _ hj => ((hhas _).mp hj).2 rfl⟩
    obtain ⟨ap, rfl, hwk, hkey, hhas, hgone⟩ := hap
    obtain ⟨v, hv, -⟩ := h.known r (by simp [UiPc.request?, hui])
    have hlt := h.wellKeyed.lt_of_has (ActProc.has_of_find hv)
    exact {
      waitMs := h.waitMs
      wellKeyed := hwk
      known := by rintro r' ⟨⟩
      spent := fun b hb => .inr <| by
        rcases h.spent b hb with ⟨r', hr', hbr⟩ | ⟨hb₁, hb₂⟩
        · obtain rfl : r = r' := by simpa [UiPc.request?, hui] using hr'
          exact ⟨by rw [hkey, hbr.2]; exact hlt, fun hk => by rw [hbr.2]; exact hgone (hbr.1 ▸ hk)⟩
        · exact ⟨by rw [hkey]; exact hb₁, fun hk hj => hb₂ hk (hhas _ hj)⟩
      position := ⟨⟨hq.toIapp, hq.toXapp, hq.loop⟩, hh⟩
      outcomes := fun r' ok hr' => by
        rcases List.mem_cons.mp hr' with heq | hr'
        · obtain ⟨rfl, rfl⟩ : r' = r ∧ ok = s.sync.ok := by simpa using heq
          exact ⟨a, hmem, har, hok.symm⟩
        · exact h.outcomes r' ok hr' }
  · cases hs
  · cases hs

/-- The peer answers the one request that is on its way. -/
theorem Inv.answer (h : s.Inv) {i : Nat} {failure : Option Cause} (hs : s.step (.answer i failure) = .next t) :
    t.Inv := by
  have hpos := h.position
  simp only [step] at hs
  obtain ⟨r', hr', hs⟩ := Outcome.bind_eq_next.mp hs
  rw [Outcome.ofOption_eq_next] at hr'
  obtain rfl := Outcome.next.inj hs
  refine h.move rfl rfl rfl rfl h.waitMs ?_
  -- Only a request that waits for its answer is on its way.
  have one : ∀ r, s.At r .asked → r' = r ∧ s.toIapp.eraseIdx i = [] := by
    rintro r ⟨hto, -, -⟩
    rw [hto] at hr' ⊢
    cases i with
    | zero => exact ⟨by simpa using hr'.symm, rfl⟩
    | succ i => simp at hr'
  have none : s.toIapp = [] → False := fun hto => by simp [hto] at hr'
  have asked : ∀ r, s.At r .asked → At { s with
      toIapp := s.toIapp.eraseIdx i, toXapp := s.toXapp ++ [.reply r' failure] } r (.answered (.reply r' failure)) := by
    intro r hat
    obtain ⟨rfl, herase⟩ := one r hat
    exact ⟨Answer.reply_answers _ _, herase, by simp [hat.2.1], hat.2.2⟩
  have inFlight : ∀ r, s.InFlight r → InFlight { s with
      toIapp := s.toIapp.eraseIdx i, toXapp := s.toXapp ++ [.reply r' failure] } r := by
    rintro r ⟨st, hat, htold, htimer⟩
    cases st with
    | asked => exact ⟨_, asked r hat, htold, htimer⟩
    | answered => exact (none hat.2.1).elim
    | signalling => exact (none hat.2.1).elim
    | signalled => exact (none hat.2.toIapp).elim
  cases hui : s.ui with
  | idle | entered | registered =>
    simp only [Position, hui] at hpos
    exact (none hpos.1.toIapp).elim
  | sent r =>
    simp only [Position, hui] at hpos ⊢
    obtain ⟨hk, hat | ⟨a, hat⟩, hf, hh⟩ := hpos
    · exact ⟨hk, .inr ⟨_, asked r hat⟩, hf, hh⟩
    · exact (none hat.2.1).elim
  | handled | waiting | timedOut =>
    simp only [Position, hui] at hpos ⊢
    exact (inFlight _ hpos).keep rfl rfl rfl rfl rfl
  | woken =>
    simp only [Position, hui] at hpos
    obtain ⟨a, ⟨-, hq⟩, -⟩ := hpos
    exact (none hq.toIapp).elim

/-- The handler of the answer to the current request looks for the request's pending event. -/
theorem Inv.handleAnswer (h : s.Inv) (hr : s.ui.request? = some r) (ha : a.Answers r) :
    s.handleAnswer a = s.rmPending ⟨a.kind.e42PendingEvent, r.id, 0⟩ := by
  obtain ⟨v, hv, hid⟩ := h.known r hr
  unfold Xapp.handleAnswer
  rw [ha.2, hv]
  cases a <;> simp [hid]

/-- An answer on its way answers the current request, which was sent. -/
theorem Inv.onItsWay (h : s.Inv) {rest : List Answer} (ha : s.toXapp = a :: rest) :
    rest = [] ∧ ∃ r, s.ui.request? = some r ∧ s.At r (.answered a) ∧
      ((s.ui = .sent r ∧ s.pending.Holds []) ∨
        (s.ui ≠ .sent r ∧ s.Fresh r ∧ ∃ fd, 0 < fd ∧ s.pending.Holds [(fd, r.event)])) := by
  have hpos := h.position
  have none : s.toXapp = [] → False := fun hto => by simp [hto] at ha
  have atIt : ∀ r b, s.At r (.answered b) → b = a ∧ rest = [] := by
    rintro r b ⟨-, -, hto, -⟩
    rw [hto] at ha
    simpa using ha
  have inFlight : ∀ r, s.InFlight r →
      rest = [] ∧ s.At r (.answered a) ∧ s.Fresh r ∧ ∃ fd, 0 < fd ∧ s.pending.Holds [(fd, r.event)] := by
    rintro r ⟨st, hat, htold, htimer⟩
    cases st with
    | asked => exact (none hat.2.1).elim
    | answered b =>
      obtain ⟨rfl, hrest⟩ := atIt r b hat
      exact ⟨hrest, hat, htold, htimer⟩
    | signalling => exact (none hat.2.2.1).elim
    | signalled => exact (none hat.2.toXapp).elim
  cases hui : s.ui with
  | idle | entered | registered =>
    simp only [Position, hui] at hpos
    exact (none hpos.1.toXapp).elim
  | sent r =>
    simp only [Position, hui] at hpos
    obtain ⟨-, hat | ⟨b, hat⟩, -, hh⟩ := hpos
    · exact (none hat.2.1).elim
    · obtain ⟨rfl, hrest⟩ := atIt r b hat
      exact ⟨hrest, r, rfl, hat, .inl ⟨rfl, hh⟩⟩
  | handled r | waiting r | timedOut r =>
    simp only [Position, hui] at hpos
    obtain ⟨hrest, hat, hf, htimer⟩ := inFlight r hpos
    exact ⟨hrest, r, rfl, hat, .inr ⟨by simp, hf, htimer⟩⟩
  | woken r =>
    simp only [Position, hui] at hpos
    obtain ⟨b, ⟨-, hq⟩, -⟩ := hpos
    exact (none hq.toXapp).elim

theorem Inv.handle (h : s.Inv) (hs : s.step .handle = .next t) : t.Inv := by
  have hpos := h.position
  simp only [step] at hs
  split at hs
  · next a rest hloop hto =>
    obtain ⟨rfl, r, hreq, hat, ⟨-, hh⟩ | ⟨hns, hf, fd, hfd, hh⟩⟩ := h.onItsWay hto
    · rw [h.handleAnswer hreq hat.1, rmPending_none hh] at hs
      cases hs
    · obtain ⟨p, hp, hh'⟩ := rmPending_one ⟨a.kind.e42PendingEvent, r.id, 0⟩ hh hfd
        (by rw [hat.1.1]; rfl)
      rw [h.handleAnswer hreq hat.1, hp] at hs
      obtain rfl := Outcome.next.inj hs
      refine h.move rfl rfl rfl rfl h.waitMs ?_
      have hin : InFlight { s with pending := p, asio := s.asio.erase fd, loop := .signalling a, toXapp := [] } r :=
        ⟨.signalling a, ⟨hat.1, hat.2.1, rfl, rfl⟩, hf, hh'⟩
      cases hui : s.ui with
      | idle => simp [UiPc.request?, hui] at hreq
      | entered | registered =>
        simp only [Position, hui] at hpos
        simp [hpos.1.toXapp] at hto
      | sent r' =>
        obtain rfl : r' = r := by simpa [UiPc.request?, hui] using hreq
        exact absurd hui hns
      | handled r' | waiting r' | timedOut r' =>
        obtain rfl : r' = r := by simpa [UiPc.request?, hui] using hreq
        simp only [Position]
        exact hin.keep rfl rfl rfl rfl rfl
      | woken r' =>
        simp only [Position, hui] at hpos
        obtain ⟨b, ⟨-, hq⟩, -⟩ := hpos
        simp [hq.toXapp] at hto
  · cases hs

/-- The event loop signals the answer to a request whose handler has returned. -/
theorem Inv.signallingOf (h : s.Inv) (hl : s.loop = .signalling a) :
    ∃ r, (s.ui = .handled r ∨ s.ui = .waiting r ∨ s.ui = .timedOut r) ∧ s.At r (.signalling a) ∧ s.Fresh r ∧
      s.pending.Holds [] := by
  have hpos := h.position
  have none : s.loop = .idle → False := fun hi => by simp [hi] at hl
  have inFlight : ∀ r, s.InFlight r → s.At r (.signalling a) ∧ s.Fresh r ∧ s.pending.Holds [] := by
    rintro r ⟨st, hat, htold, htimer⟩
    cases st with
    | asked => exact (none hat.2.2).elim
    | answered => exact (none hat.2.2.2).elim
    | signalling b =>
      obtain rfl : a = b := by simpa [hl] using hat.2.2.2
      exact ⟨hat, htold, htimer⟩
    | signalled => exact (none hat.2.loop).elim
  cases hui : s.ui with
  | idle | entered | registered =>
    simp only [Position, hui] at hpos
    exact (none hpos.1.loop).elim
  | sent r =>
    simp only [Position, hui] at hpos
    obtain ⟨-, hat | ⟨b, hat⟩, -⟩ := hpos
    · exact (none hat.2.2).elim
    · exact (none hat.2.2.2).elim
  | handled r | waiting r | timedOut r =>
    simp only [Position, hui] at hpos
    exact ⟨r, by simp, inFlight r hpos⟩
  | woken r =>
    simp only [Position, hui] at hpos
    obtain ⟨b, ⟨-, hq⟩, -⟩ := hpos
    exact (none hq.loop).elim

theorem flagSync_signal (a : Answer) (y : SyncUi) : (a.signal y).flagSync = true := by
  cases a <;> rfl

theorem ok_signal (a : Answer) (y : SyncUi) : (a.signal y).ok = a.success := by
  cases a <;> rfl

theorem waitMs_signal (a : Answer) (y : SyncUi) : (a.signal y).waitMs = y.waitMs := by
  cases a <;> rfl

theorem Inv.signal (h : s.Inv) (hs : s.step .signal = .next t) : t.Inv := by
  simp only [step] at hs
  split at hs
  · next a hl =>
    obtain ⟨r, hui, hat, hf, hh⟩ := h.signallingOf hl
    have htold : a ∈ a :: s.signalled ∧ ∀ a' ∈ a :: s.signalled, a'.Answers r → a' = a := by
      refine ⟨List.mem_cons_self .., fun a' ha' hr' => ?_⟩
      rcases List.mem_cons.mp ha' with rfl | ha'
      · rfl
      · exact absurd hr' (hf a' ha')
    have hreq : s.ui.request? = some r := by rcases hui with hui | hui | hui <;> simp [hui, UiPc.request?]
    have hspent : ∀ b ∈ a :: s.signalled, (∃ r', s.ui.request? = some r' ∧ b.Answers r') ∨ s.Spent b := by
      intro b hb
      rcases List.mem_cons.mp hb with rfl | hb
      · exact .inl ⟨r, hreq, hat.1⟩
      · exact h.spent b hb
    obtain rfl := Outcome.next.inj hs
    have common : ∀ ui : UiPc, ui.request? = s.ui.request? →
        Position { s with loop := .idle, ui, sync := a.signal s.sync, signalled := a :: s.signalled } →
        Inv { s with loop := .idle, ui, sync := a.signal s.sync, signalled := a :: s.signalled } := fun ui hu hp => {
      waitMs := by rw [waitMs_signal]; exact h.waitMs
      wellKeyed := h.wellKeyed
      known := fun r' hr' => h.known r' (hu ▸ hr')
      spent := fun b hb => by
        have := hspent b hb
        rwa [← hu] at this
      position := hp
      outcomes := fun r' ok hr' => by
        obtain ⟨b, hb, hbr, hok⟩ := h.outcomes r' ok hr'
        exact ⟨b, List.mem_cons_of_mem _ hb, hbr, hok⟩ }
    rcases hui with hui | hui | hui
    · simp only [hui]
      exact common (.handled r) (by simp [hui, UiPc.request?])
        ⟨.signalled a, ⟨hat.1, hat.2.1, hat.2.2.1, rfl⟩, htold, hh⟩
    · simp only [hui]
      exact common (.woken r) (by simp [hui, UiPc.request?])
        ⟨a, ⟨hat.1, hat.2.1, hat.2.2.1, rfl⟩, htold, hh, flagSync_signal a _, ok_signal a _⟩
    · simp only [hui]
      exact common (.timedOut r) (by simp [hui, UiPc.request?])
        ⟨.signalled a, ⟨hat.1, hat.2.1, hat.2.2.1, rfl⟩, htold, hh⟩
  · cases hs

theorem Inv.step (h : s.Inv) {act : Act} (hs : s.step act = .next t) : t.Inv := by
  cases act with
  | report ranFuncId =>
    obtain ⟨_, hui, hs⟩ := Outcome.bind_eq_next.mp hs
    exact h.generate (Outcome.await_eq_next.mp hui) hs
  | rmReport k =>
    obtain ⟨_, hui, hs⟩ := Outcome.bind_eq_next.mp hs
    cases hv : s.actProc.find k with
    | none => simp [hv] at hs
    | some v =>
      simp only [hv] at hs
      obtain rfl := Outcome.next.inj hs
      exact h.rmReport (Outcome.await_eq_next.mp hui) hv
  | control ranFuncId =>
    obtain ⟨_, hui, hs⟩ := Outcome.bind_eq_next.mp hs
    exact h.generate (Outcome.await_eq_next.mp hui) hs
  | register => exact h.register hs
  | send => exact h.send hs
  | wait => exact h.wait hs
  | deadline => exact h.deadline hs
  | resume => exact h.resume hs
  | answer => exact h.answer hs
  | handle => exact h.handle hs
  | signal => exact h.signal hs
  | expire fd =>
    -- An expired timer ends the process, one way or the other.
    obtain ⟨_, -, hs⟩ := Outcome.bind_eq_next.mp hs
    cases hf : findPendingEventFd s.pending fd <;> simp [hf] at hs

end Preserve

theorem inv_of_run {G : Xapp → Act → Prop} {as : List Act} {s : Xapp} (h : xapp.Run G as s) : s.Inv :=
  h.invariant inv_init fun _ _ _ hi _ hs => hi.step hs

end Xapp

end FlexRic.XApp
