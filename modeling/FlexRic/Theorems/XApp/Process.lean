import FlexRic.Theorems.XApp.Delivery
import FlexRic.Theorems.XApp.Sync
import FlexRic.XApp.Process

/-! # The process of an xApp, and what its parts see of it

The waiting of a call, the registry and the queues have systems of their own. Every step of the process is one of
their steps, so what they keep the process keeps. The answers that arrive are those that the iApp has sent: what is
shown of `XApp.Sync` holds of the process when there is one answer for each request. -/

namespace FlexRic.XApp
open Ds E2ap

variable {κ ρ : Type}

/-! ### The registry and its list -/

/-- The entry of the registry in the list. -/
def ActProcEntry.val (e : ActProcEntry κ) : ActProcVal := ⟨e.type, e.id⟩

/-- The list `ap` stands for a registry with the next key `keyId` and the procedures `ps`. -/
structure ActProc.Stands (ap : ActProc) (keyId : Nat) (ps : List (Nat × ActProcEntry κ)) : Prop where
  keyId : ap.keyId = keyId
  procs : ap.procs.map (fun e => (e.1, { e.2 with id := { e.2.id with ricReqId := e.1 } })) =
    ps.map fun e => (e.1, e.2.val)

section Stands
variable {ap : ActProc} {keyId k : Nat} {ps : List (Nat × ActProcEntry κ)} {v : ActProcEntry κ}

theorem ActProc.stands_init : (init : ActProc).Stands 1 ([] : List (Nat × ActProcEntry κ)) := ⟨rfl, rfl⟩

theorem ActProc.Stands.find (h : ap.Stands keyId ps) :
    ap.find k = (ps.find? (·.1 = k)).map fun e => e.2.val := by
  have hf := congrArg (fun l => (l.find? (·.1 = k)).map Prod.snd) h.procs
  simp only [List.find?_map, Option.map_map, Function.comp_def] at hf
  rw [← hf, ActProc.find]
  cases he : ap.procs.find? (·.1 = k) with
  | none => rfl
  | some e =>
    have hk : e.1 = k := by simpa using List.find?_some he
    simp [hk]

theorem ActProc.Stands.find_some (h : ap.Stands keyId ps) {reg : ActProcReg κ} (hp : reg.Procs ps) (hv : (k, v) ∈ ps) :
    ap.find k = some v.val := by
  rw [h.find]
  cases hf : ps.find? (·.1 = k) with
  | none => simpa using List.find?_eq_none.mp hf _ hv
  | some e =>
    obtain ⟨k', w⟩ := e
    obtain rfl : k' = k := by simpa using List.find?_some hf
    rw [Option.map_some, hp.unique (List.mem_of_find?_eq_some hf) hv]

theorem ActProc.Stands.find_none (h : ap.Stands keyId ps) (hn : ∀ v, (k, v) ∉ ps) : ap.find k = none := by
  rw [h.find, List.find?_eq_none.mpr]
  · rfl
  · rintro ⟨k', v⟩ hm hk
    obtain rfl : k' = k := by simpa using hk
    exact hn v hm

theorem ActProc.Stands.add (h : ap.Stands keyId ps) {type : ActProcType} {id : RicGenId} (hv : v.val = ⟨type, { id with ricReqId := keyId }⟩) :
    (ap.add type id).2.Stands (keyId + 1) (ps ++ [(keyId, v)]) where
  keyId := congrArg (· + 1) h.keyId
  procs := by
    simp only [ActProc.add, List.map_append, List.map_cons, List.map_nil, h.procs, h.keyId, hv]

theorem ActProc.Stands.rm (h : ap.Stands keyId ps) (hv : (k, v) ∈ ps) :
    ∃ ap', ap.rm k = .ok ap' ∧ ap'.Stands keyId (ps.filter (·.1 ≠ k)) := by
  have hhas : ap.Has k := by
    have hm : (k, v.val) ∈ ps.map fun e => (e.1, e.2.val) := List.mem_map_of_mem (f := fun e => (e.1, ActProcEntry.val e.2)) hv
    rw [← h.procs] at hm
    obtain ⟨e, he, heq⟩ := List.mem_map.mp hm
    obtain ⟨rfl, -⟩ := Prod.mk.inj heq
    exact ⟨e.2, he⟩
  refine ⟨_, ActProc.rm_eq hhas, h.keyId, ?_⟩
  have hf := congrArg (List.filter fun e => e.1 ≠ k) h.procs
  simpa only [List.filter_map, Function.comp_def] using hf

end Stands

/-! ### The process, as the two threads of a call see it -/

/-- The request that a call has made. -/
def CallPc.request? : CallPc κ → Option Request
  | .idle => none
  | .waiting _ r | .answered _ r _ => some r

/-- The request of the call, while it is not sent. -/
def UiPc.unsent? : UiPc → Option Request
  | .entered r | .registered r => some r
  | _ => none

/-- The action of the two threads that a call is. -/
def Call.act : Call κ → Act
  | .report _ rfId _ => .report rfId
  | .rmReport ricReqId => .rmReport ricReqId.toNat
  | .control _ ranFuncId | .controlRaw _ ranFuncId _ _ => .control ranFuncId

/-- A call that has entered waits. -/
theorem Calls.enter_waiting {s t : Calls κ} {c : Call κ} (h : s.enter c = .next t) : ∃ r, t.ui = .waiting c r := by
  cases c with
  | report | control =>
    obtain ⟨x, -, h⟩ := Outcome.bind_eq_next.mp h
    obtain rfl := Outcome.next.inj h
    exact ⟨_, rfl⟩
  | rmReport k =>
    obtain ⟨_, -, h⟩ := Outcome.bind_eq_next.mp h
    obtain ⟨⟨ans, p⟩, -, h⟩ := Outcome.bind_eq_next.mp h
    cases ans with
    | none => cases h
    | some v =>
      obtain rfl := Outcome.next.inj h
      exact ⟨_, rfl⟩
  | controlRaw =>
    obtain ⟨_, -, h⟩ := Outcome.bind_eq_next.mp h
    obtain ⟨_, -, h⟩ := Outcome.bind_eq_next.mp h
    obtain ⟨_, -, h⟩ := Outcome.bind_eq_next.mp h
    obtain ⟨x, -, h⟩ := Outcome.bind_eq_next.mp h
    obtain rfl := Outcome.next.inj h
    exact ⟨_, rfl⟩

theorem Calls.idle_of_return {s t : Calls κ} (h : s.step .return_ = .next t) : t.ui = .idle := by
  rw [Calls.step] at h
  split at h
  · next c r ok _ =>
    cases c with
    | report => exact Outcome.next.inj h ▸ rfl
    | rmReport | control | controlRaw =>
      obtain ⟨_, -, h⟩ := Outcome.bind_eq_next.mp h
      exact Outcome.next.inj h ▸ rfl
  · cases h

/-- A call that returns adds nothing to the registry. -/
theorem Calls.active_of_return {s t : Calls κ} (hi : s.Inv) (h : s.step .return_ = .next t) :
    t.actProc.keyId = s.actProc.keyId ∧ ∀ e ∈ t.actProc.active, e ∈ s.actProc.active := by
  obtain ⟨⟨ps, hp, hpos⟩, -, -⟩ := hi
  rw [Calls.step] at h
  split at h
  · next c r ok hui =>
    rw [Position, hui] at hpos
    obtain ⟨-, v, hv, -, hcase⟩ := hpos
    obtain ⟨p, hrm, hk, hp'⟩ := hp.rmActProc hv
    have hact : ∀ e ∈ p.active, e ∈ s.actProc.active := by
      intro e he
      rw [hp'.active] at he
      exact hp.active.symm ▸ (List.mem_filter.mp he).1
    cases c with
    | report =>
      obtain rfl := Outcome.next.inj h
      exact ⟨rfl, fun _ he => he⟩
    | rmReport k =>
      obtain ⟨_, hr, h⟩ := Outcome.bind_eq_next.mp h
      rw [hcase.1] at hrm
      obtain rfl := Except.ok.inj (hrm.symm.trans (Outcome.ofExcept_eq_next.mp hr))
      exact Outcome.next.inj h ▸ ⟨hk, hact⟩
    | control | controlRaw =>
      obtain ⟨_, hr, h⟩ := Outcome.bind_eq_next.mp h
      obtain rfl := Except.ok.inj (hrm.symm.trans (Outcome.ofExcept_eq_next.mp hr))
      exact Outcome.next.inj h ▸ ⟨hk, hact⟩
  · cases h

theorem Xapp.step_rmReport {x : Xapp} {k : Nat} {v : ActProcVal} (hui : x.ui = .idle) (hf : x.actProc.find k = some v) :
    x.step (.rmReport k) = .next { x with ui := .entered ⟨.subscriptionDelete, v.id⟩ } := by
  simp only [Xapp.step, hf]
  rw [Outcome.await_of hui]
  rfl

theorem Xapp.generate_next {x : Xapp} (h : x.actProc.keyId < 65536) (kind : RequestKind) (type : ActProcType) (rf : Nat) :
    x.generate kind type rf = .next { x with
      actProc := (x.actProc.add type ⟨0, 0, rf⟩).2, ui := .entered ⟨kind, ⟨x.actProc.keyId, 0, rf⟩⟩ } := by
  show (Outcome.check (x.actProc.keyId < 65536) _ >>= _) = _
  rw [Outcome.check_of h]
  rfl

theorem Calls.Inv.findActProc {s : Calls κ} (h : s.Inv) {k : Nat} {ans : Option (ActProcEntry κ)} {p : ActProcReg κ}
    (hf : s.actProc.findActProc k = .ok (ans, p)) :
    Calls.Inv { s with actProc := p } ∧ p.keyId = s.actProc.keyId ∧ p.active = s.actProc.active ∧
      ∀ v, ans = some v ↔ (k, v) ∈ s.actProc.active := by
  obtain ⟨ps, hp, -⟩ := h.procs
  obtain ⟨hp', hk, hans⟩ := hp.findActProc_inv hf
  have hs : s.step (.indication k) = .next { s with actProc := p } := by
    rw [Calls.step, hf]
    rfl
  exact ⟨h.step hs, hk, hp'.active.trans hp.active.symm, hp.active.symm ▸ hans⟩

theorem Calls.Inv.answered {s : Calls κ} (h : s.Inv) (ok : Bool) : (Process.answered s ok).Inv := by
  obtain ⟨⟨ps, hp, hpos⟩, hk, hb⟩ := h
  cases hui : s.ui with
  | idle | answered =>
    rw [Process.answered, hui]
    exact ⟨⟨ps, hp, hpos⟩, hk, hb⟩
  | waiting c r =>
    rw [Process.answered, hui]
    rw [Calls.Position, hui] at hpos
    exact ⟨⟨ps, hp, hpos.keeps rfl⟩, hk, hb⟩

theorem Process.answered_actProc (s : Calls κ) (ok : Bool) : (answered s ok).actProc = s.actProc := by
  unfold answered
  split <;> rfl

theorem Process.answered_request? (s : Calls κ) (ok : Bool) : (answered s ok).ui.request? = s.ui.request? := by
  unfold answered
  split
  · next c r hui =>
    rw [hui]
    rfl
  · rfl

/-- What the steps of the queues do to the registry: at most a look-up. -/
theorem Delivery.calls_of_step {s d : Delivery κ ρ} {sm : SmAgIfRd ρ} {enable : Bool} {a : DeliveryAct κ ρ}
    (ha : ∀ c, a ≠ .calls c) (h : s.step sm enable a = .next d) : d.calls = s.calls ∨
      ∃ k ans p, s.calls.actProc.findActProc k = .ok (ans, p) ∧ d.calls = { s.calls with actProc := p } := by
  cases a with
  | calls c => exact absurd rfl (ha c)
  | receive ind =>
    rw [Delivery.step] at h
    split at h
    · obtain ⟨_, -, h⟩ := Outcome.bind_eq_next.mp h
      obtain ⟨⟨ans, p⟩, hf, h⟩ := Outcome.bind_eq_next.mp h
      exact .inr ⟨ind.ricReqId, ans, p, Outcome.ofExcept_eq_next.mp hf, Outcome.next.inj h ▸ rfl⟩
    · cases h
  | loop =>
    rw [Delivery.step, Delivery.goOn] at h
    split at h
    · cases h
    · split at h
      · obtain ⟨_, -, h⟩ := Outcome.bind_eq_next.mp h
        exact .inl (Outcome.next.inj h ▸ rfl)
      · exact .inl (Outcome.next.inj h ▸ rfl)
    · exact .inl (Outcome.next.inj h ▸ rfl)
  | dispatcher =>
    obtain ⟨_, -, h⟩ := Outcome.bind_eq_next.mp h
    exact .inl (Outcome.next.inj h ▸ rfl)
  | database =>
    rw [Delivery.step] at h
    split at h
    · obtain ⟨_, -, h⟩ := Outcome.bind_eq_next.mp h
      exact .inl (Outcome.next.inj h ▸ rfl)
    · cases h
  | wakeDispatcher | wakeDatabase => exact .inl (Outcome.next.inj h ▸ rfl)

theorem Delivery.step_answer {s : Delivery κ ρ} {sm : SmAgIfRd ρ} {enable failure : Bool} (h : s.loop = .idle) :
    s.step sm enable (.calls (.answer failure)) =
      (s.calls.step (.answer failure) >>= fun calls => pure { s with calls }) := by
  obtain ⟨calls, loop, msgDisp, db, arrived⟩ := s
  obtain rfl : loop = .idle := h
  rfl

namespace Process

/-- The two threads, with the requests that have no answer yet and the answers that have not arrived. -/
def threads (s : Process κ ρ) (ap : ActProc) (toIapp : List Request) (toXapp : List Answer) : Xapp where
  ui := s.ui
  loop := s.loop
  sync := s.sync
  pending := s.pending
  asio := s.asio
  actProc := ap
  toIapp := toIapp
  toXapp := toXapp
  signalled := s.signalled
  returned := s.returned

/-- The registry is in order, the list stands for it, and the call that is made is the one that the UI thread is at. -/
structure Kept (s : Process κ ρ) (ap : ActProc) : Prop where
  calls : s.delivery.calls.Inv
  stands : ap.Stands s.delivery.calls.actProc.keyId s.delivery.calls.actProc.active
  call : s.delivery.calls.ui.request? = s.ui.request?

theorem kept_init : (init : Process κ ρ).Kept .init := ⟨Calls.inv_init, ActProc.stands_init, rfl⟩

section Steps
variable {s t : Process κ ρ} {ap : ActProc} {sm : SmAgIfRd ρ} {enable : Bool}

theorem call_inv {c : Call κ} {body : List UInt8} (h : s.step sm enable (.call c body) = .next t) : ∃ calls r,
    s.ui = .idle ∧ s.id.isSome ∧ s.delivery.calls.step (.call c) = .next calls ∧ calls.ui = .waiting c r ∧
      t = { s.withCalls calls with body, ui := .entered r, made := madeBy s.made r.id c } := by
  obtain ⟨_, hw, h⟩ := Outcome.bind_eq_next.mp h
  obtain ⟨calls, hs, h⟩ := Outcome.bind_eq_next.mp h
  obtain ⟨hui, hid⟩ := Outcome.await_eq_next.mp hw
  split at h
  · next c' r hc =>
    refine ⟨calls, r, hui, hid, hs, ?_, (Outcome.next.inj h).symm⟩
    rw [Calls.step] at hs
    split at hs
    · obtain ⟨r', hr'⟩ := Calls.enter_waiting hs
      obtain ⟨rfl, rfl⟩ := CallPc.waiting.inj (hr'.symm.trans hc)
      exact hr'
    · cases hs
  · cases h

theorem Kept.idle (hk : s.Kept ap) (hui : s.ui = .idle) : s.delivery.calls.ui = .idle := by
  have hc := hk.call
  rw [hui] at hc
  cases hcalls : s.delivery.calls.ui with
  | idle => rfl
  | waiting | answered =>
    rw [hcalls] at hc
    cases hc

/-- A call of the API, as a step of the two threads. -/
theorem Kept.call_step (hk : s.Kept ap) {c : Call κ} {body : List UInt8} (h : s.step sm enable (.call c body) = .next t) :
    ∃ ap', t.Kept ap' ∧ ∀ l l', (s.threads ap l l').step c.act = .next (t.threads ap' l l') := by
  obtain ⟨calls, r, hui, -, hs, hcui, rfl⟩ := call_inv h
  have hi := hk.calls.step hs
  rw [Calls.step, hk.idle hui] at hs
  dsimp only at hs
  obtain ⟨⟨ps, hp, -⟩, hkey, hb⟩ := hk.calls
  have hst := hk.stands
  rw [hp.active] at hst
  have hkept : ∀ ap' : ActProc, ap'.Stands calls.actProc.keyId calls.actProc.active →
      Kept { s.withCalls calls with body, ui := .entered r, made := madeBy s.made r.id c } ap' := by
    intro ap' hap
    refine ⟨hi, hap, ?_⟩
    show calls.ui.request? = some r
    rw [hcui]
    rfl
  rcases Calls.generates_of_enter hs with hg | ⟨k, rfl⟩
  · obtain ⟨p, v, hk', hp', hentry, hid, he⟩ := Calls.enter_eq hp hkey hb hg
    rw [hs] at he
    split at he
    · next hlt =>
      obtain rfl := Outcome.next.inj he
      obtain ⟨-, rfl⟩ := CallPc.waiting.inj hcui
      have hapk : ap.keyId = s.delivery.calls.generated + 1 := hst.keyId.trans hkey
      have hap : ap.keyId < 65536 := by omega
      rw [hkey] at hst
      -- The three calls that generate a request differ in its kind.
      have common : ∀ kind type rf, v.val = ⟨type, ⟨s.delivery.calls.generated + 1, 0, rf⟩⟩ → c.kind = kind →
          ∃ ap', Kept { s.withCalls { s.delivery.calls with
              ui := .waiting c ⟨c.kind, v.id⟩, actProc := p, generated := s.delivery.calls.generated + 1 } with
            body, ui := .entered ⟨c.kind, v.id⟩, made := madeBy s.made v.id c } ap' ∧
          ∀ l l', (s.threads ap l l').generate kind type rf = .next (threads { s.withCalls { s.delivery.calls with
              ui := .waiting c ⟨c.kind, v.id⟩, actProc := p, generated := s.delivery.calls.generated + 1 } with
            body, ui := .entered ⟨c.kind, v.id⟩, made := madeBy s.made v.id c } ap' l l') := by
        rintro kind type rf hv rfl
        refine ⟨(ap.add type ⟨0, 0, rf⟩).2, hkept _ ?_, fun l l' => ?_⟩
        · show ActProc.Stands _ p.keyId p.active
          rw [hk', hp'.active]
          exact hst.add hv
        · rw [Xapp.generate_next hap]
          have hid' : v.id = ⟨ap.keyId, 0, rf⟩ := by rw [hapk]; exact congrArg ActProcVal.id hv
          rw [hid']
          rfl
      cases c with
      | rmReport => cases hg
      | report id rf cb =>
        obtain rfl := Option.some.inj hentry
        obtain ⟨ap', hkap, hstep⟩ := common .subscription .ricSubscriptionProcedureActive rf rfl rfl
        refine ⟨ap', hkap, fun l l' => ?_⟩
        rw [← hstep l l']
        show (Outcome.await (s.ui = .idle) >>= _) = _
        rw [Outcome.await_of hui, Outcome.next_bind]
      | control id rf | controlRaw id rf =>
        obtain rfl := Option.some.inj hentry
        obtain ⟨ap', hkap, hstep⟩ := common .control .ricControlProcedureActive rf rfl rfl
        refine ⟨ap', hkap, fun l l' => ?_⟩
        rw [← hstep l l']
        show (Outcome.await (s.ui = .idle) >>= _) = _
        rw [Outcome.await_of hui, Outcome.next_bind]
    · cases he
  · obtain ⟨_, -, hs⟩ := Outcome.bind_eq_next.mp hs
    obtain ⟨⟨ans, p⟩, hf, hs⟩ := Outcome.bind_eq_next.mp hs
    obtain ⟨hp', hk', hans⟩ := hp.findActProc_inv (Outcome.ofExcept_eq_next.mp hf)
    cases ans with
    | none => cases hs
    | some v =>
      obtain rfl := Outcome.next.inj hs
      obtain ⟨-, rfl⟩ := CallPc.waiting.inj hcui
      refine ⟨ap, hkept ap ?_, fun l l' => ?_⟩
      · show ap.Stands p.keyId p.active
        rw [hk', hp'.active]
        exact hst
      · exact Xapp.step_rmReport (x := s.threads ap l l') hui (hst.find_some hp ((hans v).mp rfl))

theorem threads_addPending (ap : ActProc) {r : Request} {fd : Nat} (h : s.addPending r fd = .next t) (l : List Request) (l' : List Answer) :
    (s.threads ap l l').addPending r fd = .next (t.threads ap l l') ∧ t.delivery = s.delivery ∧ t.ui = s.ui := by
  obtain ⟨_, hw, h⟩ := Outcome.bind_eq_next.mp h
  obtain ⟨p, hp, h⟩ := Outcome.bind_eq_next.mp h
  obtain rfl := Outcome.next.inj h
  refine ⟨?_, rfl, rfl⟩
  show (Outcome.await (0 < fd ∧ fd ∉ s.asio) >>= fun _ => Outcome.ofExcept (addPendingEvent s.pending fd r.event) >>= _) = _
  rw [Outcome.await_of (Outcome.await_eq_next.mp hw), Outcome.next_bind, hp]
  rfl

theorem threads_rmPending (ap : ActProc) {ev : PendingEventXapp} (h : s.rmPending ev = .next t) (l : List Request) (l' : List Answer) :
    (s.threads ap l l').rmPending ev = .next (t.threads ap l l') ∧ t.delivery = s.delivery ∧ t.ui = s.ui := by
  obtain ⟨⟨fd, p⟩, hp, h⟩ := Outcome.bind_eq_next.mp h
  obtain rfl := Outcome.next.inj h
  refine ⟨?_, rfl, rfl⟩
  show (Outcome.ofExcept (rmPendingEventEv s.pending ev) >>= _) = _
  rw [hp]
  rfl

/-- A step that does not touch the registry. -/
theorem Kept.move (hk : s.Kept ap) (hd : t.delivery = s.delivery) (hr : t.ui.request? = s.ui.request?) : t.Kept ap :=
  ⟨hd ▸ hk.calls, hd ▸ hk.stands, by rw [hd, hr]; exact hk.call⟩

theorem Kept.register (hk : s.Kept ap) {fd : Nat} (h : s.step sm enable (.register fd) = .next t) :
    t.Kept ap ∧ ∀ l l', (s.threads ap l l').step (.register fd) = .next (t.threads ap l l') := by
  simp only [step] at h
  split at h
  · next r hui =>
    obtain ⟨_, hw, h⟩ := Outcome.bind_eq_next.mp h
    obtain ⟨s', hs', h⟩ := Outcome.bind_eq_next.mp h
    obtain rfl := Outcome.next.inj h
    refine ⟨hk.move (threads_addPending ap hs' [] []).2.1 (by rw [hui]; rfl), fun l l' => ?_⟩
    simp only [Xapp.step, threads, hui]
    rw [Outcome.await_of (Outcome.await_eq_next.mp hw), Outcome.next_bind]
    have ha := (threads_addPending ap hs' l l').1
    rw [threads, hui] at ha
    rw [ha]
    rfl
  · next r hui =>
    obtain ⟨s', hs', h⟩ := Outcome.bind_eq_next.mp h
    obtain rfl := Outcome.next.inj h
    refine ⟨hk.move (threads_addPending ap hs' [] []).2.1 (by rw [hui]; rfl), fun l l' => ?_⟩
    simp only [Xapp.step, threads, hui]
    have ha := (threads_addPending ap hs' l l').1
    rw [threads, hui] at ha
    rw [ha]
    rfl
  · cases h

theorem Kept.wait (hk : s.Kept ap) (h : s.step sm enable .wait = .next t) :
    t.Kept ap ∧ ∀ l l', (s.threads ap l l').step .wait = .next (t.threads ap l l') := by
  simp only [step] at h
  split at h
  · next r hui =>
    obtain ⟨_, hc, h⟩ := Outcome.bind_eq_next.mp h
    obtain rfl := Outcome.next.inj h
    refine ⟨hk.move rfl (by rw [hui]; rfl), fun l l' => ?_⟩
    simp only [Xapp.step, threads, hui]
    rw [Outcome.check_of (Outcome.check_eq_next.mp hc)]
    rfl
  · cases h

theorem Kept.deadline (hk : s.Kept ap) (h : s.step sm enable .deadline = .next t) :
    t.Kept ap ∧ ∀ l l', (s.threads ap l l').step .deadline = .next (t.threads ap l l') := by
  simp only [step] at h
  split at h
  · next r hui =>
    obtain rfl := Outcome.next.inj h
    refine ⟨hk.move rfl (by rw [hui]; rfl), fun l l' => ?_⟩
    simp only [Xapp.step, threads, hui]
  · cases h

theorem Kept.signal (hk : s.Kept ap) (h : s.step sm enable .signal = .next t) :
    t.Kept ap ∧ ∀ l l', (s.threads ap l l').step .signal = .next (t.threads ap l l') := by
  simp only [step] at h
  split at h
  · next a hl =>
    obtain rfl := Outcome.next.inj h
    refine ⟨hk.move rfl ?_, fun l l' => ?_⟩
    · dsimp only
      split
      · next r hui =>
        rw [hui]
        rfl
      · rfl
    · rw [Xapp.step, show (s.threads ap l l').loop = .signalling a from hl]
      rfl
  · cases h

/-- The call that goes on is the one of the request, and what it removes is the procedure of the request. -/
theorem Kept.resume (hk : s.Kept ap) (h : s.step sm enable .resume = .next t) :
    ∃ ap', t.Kept ap' ∧ ∀ l l', (s.threads ap l l').step .resume = .next (t.threads ap' l l') := by
  simp only [step] at h
  split at h
  · next r hui =>
    split at h
    · next hflag =>
      obtain ⟨calls, hs, h⟩ := Outcome.bind_eq_next.mp h
      obtain rfl := Outcome.next.inj h
      have hi := hk.calls.step hs
      obtain ⟨⟨ps, hp, hpos⟩, hkey, hb⟩ := hk.calls
      have hst := hk.stands
      rw [hp.active] at hst
      have hcall := hk.call
      rw [Calls.step] at hs
      split at hs
      · next c r' ok hcui =>
        rw [hcui, hui] at hcall
        obtain rfl := Option.some.inj hcall
        rw [Calls.Position, hcui] at hpos
        have hfilter := Calls.Serves.filter hp hpos
        obtain ⟨hkind, v, hv, hid, hcase⟩ := hpos
        have hthreads : ∀ ap' : ActProc, (∀ x : Xapp, x.actProc = ap → x.afterWait r' = .next { x with actProc := ap' }) →
            ∀ l l', (s.threads ap l l').step .resume = .next (threads { s.withCalls calls with
              ui := .idle, returned := (r', s.sync.ok) :: s.returned } ap' l l') := by
          intro ap' hx l l'
          simp only [Xapp.step, threads, hui]
          rw [if_pos hflag, hx _ rfl]
          rfl
        have hkept : ∀ ap' : ActProc, ap'.Stands calls.actProc.keyId calls.actProc.active → calls.ui = .idle →
            Kept { s.withCalls calls with ui := .idle, returned := (r', s.sync.ok) :: s.returned } ap' :=
          fun ap' hap hidle => ⟨hi, hap, by show calls.ui.request? = _; rw [hidle]; rfl⟩
        obtain ⟨p, hrm, hk', hp'⟩ := hp.rmActProc hv
        obtain ⟨ap', hap, hst'⟩ := hst.rm hv
        cases c with
        | report id rf cb =>
          obtain rfl := Outcome.next.inj hs
          refine ⟨ap, hkept ap (hp.active.symm ▸ hst) rfl, hthreads ap fun x hx => ?_⟩
          rw [Xapp.afterWait, hkind, ← hx]
          rfl
        | rmReport k =>
          obtain ⟨_, hr, hs⟩ := Outcome.bind_eq_next.mp hs
          rw [hcase.1] at hrm
          obtain rfl := Except.ok.inj (hrm.symm.trans (Outcome.ofExcept_eq_next.mp hr))
          obtain rfl := Outcome.next.inj hs
          refine ⟨ap', hkept ap' ?_ rfl, hthreads ap' fun x hx => ?_⟩
          · show ap'.Stands p.keyId p.active
            rw [hk', hp'.active]
            exact hst'
          · rw [Xapp.afterWait, hkind, hx]
            show (Outcome.ofExcept (ap.rm r'.id.ricReqId) >>= _) = _
            rw [hap]
            rfl
        | control | controlRaw =>
          obtain ⟨_, hr, hs⟩ := Outcome.bind_eq_next.mp hs
          obtain rfl := Except.ok.inj (hrm.symm.trans (Outcome.ofExcept_eq_next.mp hr))
          obtain rfl := Outcome.next.inj hs
          refine ⟨ap', hkept ap' ?_ rfl, hthreads ap' fun x hx => ?_⟩
          · show ap'.Stands p.keyId p.active
            rw [hk', hp'.active]
            exact hst'
          · rw [Xapp.afterWait, hkind, hx]
            show (Outcome.ofExcept (ap.rm r'.id.ricReqId) >>= _) = _
            rw [hap]
            rfl
      · cases hs
    · next hflag =>
      obtain rfl := Outcome.next.inj h
      refine ⟨ap, hk.move rfl (by rw [hui]; rfl), fun l l' => ?_⟩
      simp only [Xapp.step, threads, hui]
      rw [if_neg hflag]
  · cases h
  · cases h

/-- The handler of an answer, as the step of the event loop that takes it. -/
theorem Kept.handleAnswer (hk : s.Kept ap) (hl : s.loop = .idle) {a : Answer} (h : s.handleAnswer a = .next t) :
    t.Kept ap ∧ ∀ l l', (s.threads ap l (a :: l')).step .handle = .next (t.threads ap l l') := by
  obtain ⟨⟨rv, p⟩, hf, h⟩ := Outcome.bind_eq_next.mp h
  have hf := Outcome.ofExcept_eq_next.mp hf
  obtain ⟨hi, hkey, hact, hrv⟩ := hk.calls.findActProc hf
  obtain ⟨⟨ps, hp, -⟩, -, -⟩ := hk.calls
  have hst := hk.stands
  rw [hp.active] at hst hrv
  have hk₁ : Kept (s.withCalls (answered { s.delivery.calls with actProc := p } a.success)) ap := by
    refine ⟨hi.answered _, ?_, ?_⟩
    · show ap.Stands (answered _ _).actProc.keyId (answered _ _).actProc.active
      rw [answered_actProc]
      exact hkey.symm ▸ hact.symm ▸ hk.stands
    · show (answered _ _).ui.request? = _
      rw [answered_request?]
      exact hk.call
  have hthreads : ∀ x : Xapp, (∀ l l', (s.threads ap l l').handleAnswer a = .next { x with toIapp := l, toXapp := l' }) →
      ∀ l l', (s.threads ap l (a :: l')).step .handle =
        .next { x with loop := .signalling a, toIapp := l, toXapp := l' } := by
    intro x hx l l'
    simp only [Xapp.step, threads, hl]
    have ha := hx l (a :: l')
    rw [threads, hl] at ha
    rw [ha]
    rfl
  have found : ∀ val, rv = some val →
      ((s.withCalls (answered { s.delivery.calls with actProc := p } a.success)).rmPending
          ⟨a.kind.e42PendingEvent, val.id, 0⟩ >>= fun s => pure { s with loop := .signalling a }) = .next t →
      t.Kept ap ∧ ∀ l l', (s.threads ap l (a :: l')).step .handle = .next (t.threads ap l l') := by
    rintro val rfl h
    obtain ⟨s', hs', h⟩ := Outcome.bind_eq_next.mp h
    obtain rfl := Outcome.next.inj h
    obtain ⟨-, hd, hu⟩ := threads_rmPending ap hs' [] []
    refine ⟨(hk₁.move hd (by rw [hu])).move rfl rfl, hthreads (s'.threads ap [] []) fun l l' => ?_⟩
    have hfind := hst.find_some hp ((hrv val).mp rfl)
    have hr := (threads_rmPending ap hs' l l').1
    unfold Xapp.handleAnswer
    rw [show (s.threads ap l l').actProc = ap from rfl, hfind]
    cases a <;> exact hr
  cases rv with
  | some val =>
    refine found val rfl ?_
    cases a <;> exact h
  | none =>
    cases a with
    | controlFailure id cause =>
      obtain rfl := Outcome.next.inj h
      refine ⟨hk₁.move rfl rfl, hthreads (s.threads ap [] []) fun l l' => ?_⟩
      have hfind := hst.find_none fun v hv => by cases (hrv v).mpr hv
      unfold Xapp.handleAnswer
      rw [show (s.threads ap l l').actProc = ap from rfl, hfind]
      rfl
    | subscriptionResponse | subscriptionDeleteResponse | controlAcknowledge => cases h

/-- The message that is sent is that of the call. -/
theorem Kept.send (hk : s.Kept ap) {msg : E42Msg} (h : s.send = .next (t, msg)) : ∃ xappId c r ui,
    s.id = some xappId ∧ s.delivery.calls.ui = .waiting c r ∧ s.ui.request? = some r ∧ s.ui.unsent? = some r ∧
      ui.unsent? = none ∧ msg = e42Msg xappId r.id s.body c ∧ t = { s with ui } ∧ t.Kept ap ∧
      ∀ l l', (s.threads ap l l').step .send = .next (t.threads ap (l ++ [r]) l') := by
  unfold Process.send at h
  split at h
  · next xappId c r hid hc =>
    have hcall := hk.call
    rw [hc] at hcall
    dsimp only at h
    split at h
    · next r' hui =>
      rw [hui] at hcall
      obtain rfl := Option.some.inj hcall
      obtain ⟨_, hw, h⟩ := Outcome.bind_eq_next.mp h
      obtain ⟨rfl, rfl⟩ := Prod.mk.inj (Outcome.next.inj h)
      refine ⟨xappId, c, r, .sent r, hid, hc, by rw [hui]; rfl, by rw [hui]; rfl, rfl, rfl, rfl,
        hk.move rfl (by rw [hui]; rfl), fun l l' => ?_⟩
      simp only [Xapp.step, threads, hui]
      rw [Outcome.await_of (Outcome.await_eq_next.mp hw)]
      rfl
    · next r' hui =>
      rw [hui] at hcall
      obtain rfl := Option.some.inj hcall
      obtain ⟨rfl, rfl⟩ := Prod.mk.inj (Outcome.next.inj h)
      refine ⟨xappId, c, r, .handled r, hid, hc, by rw [hui]; rfl, by rw [hui]; rfl, rfl, rfl, rfl,
        hk.move rfl (by rw [hui]; rfl), fun l l' => ?_⟩
      simp only [Xapp.step, threads, hui]
    · cases h
  · cases h

/-- A step of the queues leaves the two threads as they are. -/
theorem Kept.delivery (hk : s.Kept ap) {d : Delivery κ ρ} {a : DeliveryAct κ ρ} (ha : ∀ c, a ≠ .calls c)
    (h : s.delivery.step sm enable a = .next d) : Kept { s with delivery := d } ap := by
  rcases Delivery.calls_of_step ha h with hd | ⟨k, ans, p, hf, hd⟩
  · refine ⟨?_, ?_, ?_⟩
    · exact hd.symm ▸ hk.calls
    · exact hd.symm ▸ hk.stands
    · show d.calls.ui.request? = _
      rw [hd]
      exact hk.call
  · obtain ⟨hi, hkey, hact, -⟩ := hk.calls.findActProc hf
    refine ⟨?_, ?_, ?_⟩
    · show d.calls.Inv
      rw [hd]
      exact hi
    · show ap.Stands d.calls.actProc.keyId d.calls.actProc.active
      rw [hd]
      exact hkey.symm ▸ hact.symm ▸ hk.stands
    · show d.calls.ui.request? = _
      rw [hd]
      exact hk.call

/-- Every step of the process that neither sends nor receives is a step of the two threads, or none. -/
theorem Kept.step (hk : s.Kept ap) {a : ProcessAct κ} (h : s.step sm enable a = .next t) :
    (∃ b ap', t.Kept ap' ∧ ∀ l l', (s.threads ap l l').step b = .next (t.threads ap' l l')) ∨
      t.Kept ap ∧ ∀ l l', t.threads ap l l' = s.threads ap l l' := by
  have queues : ∀ b, (∀ c, b ≠ .calls c) → (s.delivery.step sm enable b >>= fun delivery =>
      pure { s with delivery }) = .next t → t.Kept ap ∧ ∀ l l', t.threads ap l l' = s.threads ap l l' := by
    intro b hb h
    obtain ⟨d, hd, h⟩ := Outcome.bind_eq_next.mp h
    obtain rfl := Outcome.next.inj h
    exact ⟨hk.delivery hb hd, fun _ _ => rfl⟩
  cases a with
  | call c body =>
    obtain ⟨ap', hk', hs⟩ := hk.call_step h
    exact .inl ⟨_, ap', hk', hs⟩
  | register fd => exact .inl ⟨_, ap, hk.register h⟩
  | wait => exact .inl ⟨_, ap, hk.wait h⟩
  | deadline => exact .inl ⟨_, ap, hk.deadline h⟩
  | resume =>
    obtain ⟨ap', hk', hs⟩ := hk.resume h
    exact .inl ⟨_, ap', hk', hs⟩
  | signal => exact .inl ⟨_, ap, hk.signal h⟩
  | expire fd =>
    obtain ⟨_, -, h⟩ := Outcome.bind_eq_next.mp h
    split at h <;> cases h
  | goOn => exact .inr (queues .loop (by simp) h)
  | dispatcher => exact .inr (queues .dispatcher (by simp) h)
  | database => exact .inr (queues .database (by simp) h)
  | wakeDispatcher => exact .inr (queues .wakeDispatcher (by simp) h)
  | wakeDatabase => exact .inr (queues .wakeDatabase (by simp) h)

/-- What the event loop does with a message: it takes an answer, or it does nothing to the two threads. -/
theorem handle_inv {sm : Plugins ρ} {m : XappMsg} (h : s.handle sm enable m = .next t) : s.loop = .idle ∧
    s.delivery.loop = .idle ∧
    ((∃ m' a u, m = .node m' ∧ answer? m' = some a ∧ s.handleAnswer a = .next u ∧
        t = { u with received := m' :: u.received }) ∨
      (∃ m' data rd d, m = .node (.indication m') ∧ indSmPayload m' = .ok data ∧
        sm.onIndication m'.ricId.ranFuncId data = .ok rd ∧
        s.delivery.step sm.agIf enable (.receive ⟨m'.ricId.ricReqId, rd⟩) = .next d ∧
        t = { s with delivery := d, received := .indication m' :: s.received }) ∨
      ∃ xappId, m = .setupResponse xappId ∧ s.id = none ∧ t = { s with id := some xappId }) := by
  obtain ⟨_, hw, h⟩ := Outcome.bind_eq_next.mp h
  obtain ⟨hl, hd⟩ := Outcome.await_eq_next.mp hw
  refine ⟨hl, ?_, ?_⟩
  · cases hdl : s.delivery.loop with
    | idle => rfl
    | found | sending => simp [hdl] at hd
  cases m with
  | setupResponse xappId =>
    obtain ⟨_, hc, h⟩ := Outcome.bind_eq_next.mp h
    exact .inr (.inr ⟨xappId, rfl, Outcome.check_eq_next.mp hc, (Outcome.next.inj h).symm⟩)
  | node m' =>
    obtain ⟨u, hu, h⟩ := Outcome.bind_eq_next.mp h
    obtain rfl := Outcome.next.inj h
    cases m' with
    | indication m' =>
      obtain ⟨data, hdata, hu⟩ := Outcome.bind_eq_next.mp hu
      obtain ⟨rd, hrd, hu⟩ := Outcome.bind_eq_next.mp hu
      obtain ⟨d, hd, hu⟩ := Outcome.bind_eq_next.mp hu
      obtain rfl := Outcome.next.inj hu
      exact .inr (.inl ⟨m', data, rd, d, rfl, Outcome.ofExcept_eq_next.mp hdata, Outcome.ofExcept_eq_next.mp hrd, hd, rfl⟩)
    | subscriptionResponse | subscriptionDeleteResponse | controlAcknowledge | controlFailure =>
      obtain ⟨a, ha, hu⟩ := Outcome.bind_eq_next.mp hu
      exact .inl ⟨_, a, u, rfl, Outcome.ofOption_eq_next.mp ha, hu, rfl⟩

/-! ### The process, as the queues see it -/

/-- A call whose answer was handled: the event loop is about to signal it, or has done so. -/
def Told (s : Process κ ρ) : Prop := ∀ c r ok, s.delivery.calls.ui = .answered c r ok →
  ∃ a : Answer, a.Answers r ∧ (s.loop = .signalling a ∨ a ∈ s.signalled)

/-- The steps of the queues are taken when there is room. -/
def Admissible (sm : SmAgIfRd ρ) (enable : Bool) (s : Process κ ρ) : ProcessAct κ → Prop
  | .goOn => Delivery.Admissible sm enable s.delivery .loop
  | .database => Delivery.Admissible sm enable s.delivery .database
  | _ => True

instance (s : Process κ ρ) : ∀ a, Decidable (Admissible sm enable s a)
  | .goOn => inferInstanceAs (Decidable (Delivery.Admissible sm enable s.delivery .loop))
  | .database => inferInstanceAs (Decidable (Delivery.Admissible sm enable s.delivery .database))
  | .call .. | .register _ | .wait | .deadline | .resume | .signal | .expire _ | .dispatcher | .wakeDispatcher
  | .wakeDatabase => .isTrue trivial

/-- An indication is received when its data is of a type that is handled, and it is for a subscription with a callback
whose data can be copied. -/
def Receives (sm : Plugins ρ) (enable : Bool) (s : Process κ ρ) : XappMsg → Prop
  | .node (.indication m) => ∀ data rd, indSmPayload m = .ok data → sm.onIndication m.ricId.ranFuncId data = .ok rd →
      Delivery.Admissible sm.agIf enable s.delivery (.receive ⟨m.ricId.ricReqId, rd⟩)
  | _ => True

theorem told_init : (init : Process κ ρ).Told := nofun

/-- A step that leaves the registry, the event loop and its signals. -/
theorem Told.move (ht : s.Told) (hd : t.delivery = s.delivery) (hl : t.loop = s.loop) (hs : t.signalled = s.signalled) :
    t.Told := by
  intro c r ok hc
  rw [hl, hs]
  exact ht c r ok (hd ▸ hc)

theorem Told.queues (ht : s.Told) {d : Delivery κ ρ} {b : DeliveryAct κ ρ} (hb : ∀ c, b ≠ .calls c)
    (hd : s.delivery.step sm enable b = .next d) : Told { s with delivery := d } := by
  intro c r ok hc
  refine ht c r ok ?_
  rcases Delivery.calls_of_step hb hd with hcalls | ⟨_, _, _, -, hcalls⟩
  · exact hcalls ▸ hc
  · dsimp only at hc
    rw [hcalls] at hc
    exact hc

/-- A step of the process is a step of its delivery, or leaves it as it is. -/
theorem step_delivery (ht : s.Told) {a : ProcessAct κ} (ha : Admissible sm enable s a) (h : s.step sm enable a = .next t) :
    t.Told ∧ (t.delivery = s.delivery ∨
      ∃ b, Delivery.Admissible sm enable s.delivery b ∧ s.delivery.step sm enable b = .next t.delivery) := by
  have queues : ∀ b, (∀ c, b ≠ .calls c) → Delivery.Admissible sm enable s.delivery b →
      (s.delivery.step sm enable b >>= fun delivery => pure { s with delivery }) = .next t →
      t.Told ∧ (t.delivery = s.delivery ∨
        ∃ b, Delivery.Admissible sm enable s.delivery b ∧ s.delivery.step sm enable b = .next t.delivery) := by
    intro b hb hadm h
    obtain ⟨d, hd, h⟩ := Outcome.bind_eq_next.mp h
    obtain rfl := Outcome.next.inj h
    exact ⟨ht.queues hb hd, .inr ⟨b, hadm, hd⟩⟩
  cases a with
  | call c body =>
    obtain ⟨calls, r, -, -, hs, hc, rfl⟩ := call_inv h
    refine ⟨fun c' r' ok hc' => ?_, .inr ⟨.calls (.call c), trivial, ?_⟩⟩
    · cases hc.symm.trans hc'
    · show (s.delivery.calls.step (.call c) >>= _) = _
      rw [hs]
      rfl
  | register fd =>
    simp only [step] at h
    split at h
    · obtain ⟨_, -, h⟩ := Outcome.bind_eq_next.mp h
      obtain ⟨s', hs', h⟩ := Outcome.bind_eq_next.mp h
      obtain rfl := Outcome.next.inj h
      obtain ⟨_, -, hs'⟩ := Outcome.bind_eq_next.mp hs'
      obtain ⟨_, -, hs'⟩ := Outcome.bind_eq_next.mp hs'
      obtain rfl := Outcome.next.inj hs'
      exact ⟨ht.move rfl rfl rfl, .inl rfl⟩
    · obtain ⟨s', hs', h⟩ := Outcome.bind_eq_next.mp h
      obtain rfl := Outcome.next.inj h
      obtain ⟨_, -, hs'⟩ := Outcome.bind_eq_next.mp hs'
      obtain ⟨_, -, hs'⟩ := Outcome.bind_eq_next.mp hs'
      obtain rfl := Outcome.next.inj hs'
      exact ⟨ht.move rfl rfl rfl, .inl rfl⟩
    · cases h
  | wait =>
    simp only [step] at h
    split at h
    · obtain ⟨_, -, h⟩ := Outcome.bind_eq_next.mp h
      obtain rfl := Outcome.next.inj h
      exact ⟨ht.move rfl rfl rfl, .inl rfl⟩
    · cases h
  | deadline =>
    simp only [step] at h
    split at h
    · obtain rfl := Outcome.next.inj h
      exact ⟨ht.move rfl rfl rfl, .inl rfl⟩
    · cases h
  | resume =>
    simp only [step] at h
    split at h
    · split at h
      · obtain ⟨calls, hs, h⟩ := Outcome.bind_eq_next.mp h
        obtain rfl := Outcome.next.inj h
        refine ⟨fun c r ok hc => ?_, .inr ⟨.calls .return_, trivial, ?_⟩⟩
        · obtain hidle : calls.ui = .idle := Calls.idle_of_return hs
          cases hidle.symm.trans hc
        · show (s.delivery.calls.step .return_ >>= _) = _
          rw [hs]
          rfl
      · obtain rfl := Outcome.next.inj h
        exact ⟨ht.move rfl rfl rfl, .inl rfl⟩
    · cases h
    · cases h
  | signal =>
    simp only [step] at h
    split at h
    · next a hl =>
      obtain rfl := Outcome.next.inj h
      refine ⟨fun c r ok hc => ?_, .inl rfl⟩
      obtain ⟨a', har, hl' | hm⟩ := ht c r ok hc
      · obtain rfl := LoopPc.signalling.inj (hl.symm.trans hl')
        exact ⟨a, har, .inr List.mem_cons_self⟩
      · exact ⟨a', har, .inr (List.mem_cons_of_mem _ hm)⟩
    · cases h
  | expire fd =>
    obtain ⟨_, -, h⟩ := Outcome.bind_eq_next.mp h
    split at h <;> cases h
  | goOn => exact queues .loop (by simp) ha h
  | dispatcher => exact queues .dispatcher (by simp) trivial h
  | database => exact queues .database (by simp) ha h
  | wakeDispatcher => exact queues .wakeDispatcher (by simp) trivial h
  | wakeDatabase => exact queues .wakeDatabase (by simp) trivial h

theorem handleAnswer_inv {a : Answer} (h : s.handleAnswer a = .next t) : ∃ rv p,
    s.delivery.calls.actProc.findActProc a.id.ricReqId = .ok (rv, p) ∧
      t.delivery = { s.delivery with calls := answered { s.delivery.calls with actProc := p } a.success } ∧
      t.loop = .signalling a ∧ t.id = s.id ∧ t.made = s.made ∧ t.ui = s.ui ∧ t.received = s.received ∧
      t.signalled = s.signalled ∧ (a.success = true → rv.isSome = true) := by
  obtain ⟨⟨rv, p⟩, hf, h⟩ := Outcome.bind_eq_next.mp h
  refine ⟨rv, p, Outcome.ofExcept_eq_next.mp hf, ?_⟩
  cases rv with
  | none =>
    cases a with
    | controlFailure id cause =>
      obtain rfl := Outcome.next.inj h
      exact ⟨rfl, rfl, rfl, rfl, rfl, rfl, rfl, nofun⟩
    | subscriptionResponse | subscriptionDeleteResponse | controlAcknowledge => cases h
  | some val =>
    have hrm : ∃ ev, ((s.withCalls (answered { s.delivery.calls with actProc := p } a.success)).rmPending ev >>= fun s =>
        pure { s with loop := .signalling a }) = .next t := by
      cases a <;> exact ⟨_, h⟩
    obtain ⟨ev, hrm⟩ := hrm
    obtain ⟨s', hs', h⟩ := Outcome.bind_eq_next.mp hrm
    obtain rfl := Outcome.next.inj h
    obtain ⟨_, -, hs'⟩ := Outcome.bind_eq_next.mp hs'
    obtain rfl := Outcome.next.inj hs'
    exact ⟨rfl, rfl, rfl, rfl, rfl, rfl, rfl, fun _ => rfl⟩

/-- The handler of the answer to the request of the call that waits is the step of the calls. -/
theorem answer_step {calls : Calls κ} {c : Call κ} {r : Request} {a : Answer} (hc : calls.ui = .waiting c r)
    (ha : a.Answers r) {rv : Option (ActProcEntry κ)} {p : ActProcReg κ}
    (hf : calls.actProc.findActProc a.id.ricReqId = .ok (rv, p)) (hrv : a.success = true → rv.isSome = true) :
    calls.step (.answer !a.success) = .next (answered { calls with actProc := p } a.success) := by
  obtain ⟨hkind, hid⟩ := ha
  rw [hid] at hf
  rw [Calls.step, hc, answered]
  dsimp only
  cases a with
  | controlFailure id cause =>
    unfold Calls.handleAnswer
    rw [← hkind]
    dsimp only [Answer.kind, Answer.success, Bool.not_false]
    rw [hf]
    rfl
  | subscriptionResponse id | subscriptionDeleteResponse id | controlAcknowledge id =>
    unfold Calls.handleAnswer
    rw [← hkind]
    dsimp only [Answer.kind, Answer.success, Bool.not_true]
    rw [hf]
    show (Outcome.check (rv.isSome = true) _ >>= _) = _
    rw [Outcome.check_of (hrv rfl)]
    rfl

/-- A message that is handled is a step of the delivery as well: an answer, when it answers the request that the call
has made and was not told yet, or an indication. -/
theorem handle_delivery (hk : s.Kept ap) (ht : s.Told) {sm : Plugins ρ} {m : XappMsg} (hm : Receives sm enable s m)
    (hans : ∀ m' a, m = .node m' → answer? m' = some a → ∃ r, s.ui.request? = some r ∧ a.Answers r ∧
      ∀ a' ∈ s.signalled, ¬a'.Answers r)
    (h : s.handle sm enable m = .next t) :
    t.Told ∧ (t.delivery = s.delivery ∨
      ∃ b, Delivery.Admissible sm.agIf enable s.delivery b ∧ s.delivery.step sm.agIf enable b = .next t.delivery) := by
  obtain ⟨hl, hdl, ⟨m', a, u, rfl, ha, hs, rfl⟩ | ⟨m', data, rd, d, rfl, hdata, hrd, hd, rfl⟩ | ⟨xappId, rfl, -, rfl⟩⟩ :=
    handle_inv h
  · obtain ⟨r, hr, har, hfresh⟩ := hans m' a rfl ha
    -- The call of the request waits: its answer would have been signalled.
    obtain ⟨c, hc⟩ : ∃ c, s.delivery.calls.ui = .waiting c r := by
      have hcall := hk.call
      rw [hr] at hcall
      cases hc : s.delivery.calls.ui with
      | idle =>
        rw [hc] at hcall
        cases hcall
      | waiting c r' =>
        rw [hc] at hcall
        exact ⟨c, by rw [Option.some.inj hcall]⟩
      | answered c r' ok =>
        rw [hc] at hcall
        obtain rfl := Option.some.inj hcall
        obtain ⟨a', har', hl' | hm'⟩ := ht c r' ok hc
        · cases hl.symm.trans hl'
        · exact absurd har' (hfresh a' hm')
    obtain ⟨rv, p, hf, hdel, hlt, -, -, -, -, -, hrv⟩ := handleAnswer_inv hs
    have hans : answered { s.delivery.calls with actProc := p } a.success =
        { s.delivery.calls with actProc := p, ui := .answered c r a.success } := by
      rw [answered, hc]
    refine ⟨fun c' r' ok hc' => ?_, .inr ⟨.calls (.answer !a.success), trivial, ?_⟩⟩
    · dsimp only at hc'
      rw [hdel, hans] at hc'
      obtain ⟨-, rfl, -⟩ := CallPc.answered.inj hc'
      exact ⟨a, har, .inl hlt⟩
    · dsimp only
      rw [hdel, Delivery.step_answer hdl, answer_step hc har hf hrv]
      rfl
  · exact ⟨(ht.queues (b := .receive _) (by simp) hd).move rfl rfl rfl, .inr ⟨_, hm data rd hdata hrd, hd⟩⟩
  · exact ⟨ht.move rfl rfl rfl, .inl rfl⟩

/-! ### The requests that the process has made -/

/-- Requests have identifiers of their own, what is in the registry are procedures of requests that were made, and the
request of the call that waits is the last of them. -/
structure Registers (s : Process κ ρ) : Prop where
  nodup : (s.made.map fun e => e.1.ricReqId).Nodup
  bound : ∀ e ∈ s.made, e.1.ricReqId < s.delivery.calls.actProc.keyId
  active : ∀ k v, (k, v) ∈ s.delivery.calls.actProc.active → ∃ c, (v.id, c) ∈ s.made ∧ c.entry k = some v
  call : ∀ c r, s.delivery.calls.ui = .waiting c r → c.kind ≠ .subscriptionDelete → s.made.head? = some (r.id, c)

theorem registers_init : (init : Process κ ρ).Registers := ⟨List.nodup_nil, nofun, nofun, nofun⟩

/-- A step that makes no request, and adds nothing to the registry. -/
theorem Registers.move (h : s.Registers) (hm : t.made = s.made)
    (hk : t.delivery.calls.actProc.keyId = s.delivery.calls.actProc.keyId)
    (ha : ∀ e ∈ t.delivery.calls.actProc.active, e ∈ s.delivery.calls.actProc.active)
    (hui : ∀ c r, t.delivery.calls.ui = .waiting c r → s.delivery.calls.ui = .waiting c r) : t.Registers where
  nodup := hm ▸ h.nodup
  bound := hm ▸ hk ▸ h.bound
  active k v hv := hm ▸ h.active k v (ha _ hv)
  call c r hc := hm ▸ h.call c r (hui c r hc)

theorem Registers.same (h : s.Registers) (hm : t.made = s.made) (hd : t.delivery = s.delivery) : t.Registers :=
  h.move hm (by rw [hd]) (fun _ he => hd ▸ he) fun _ _ hc => hd ▸ hc

theorem Registers.queues (h : s.Registers) (hk : s.Kept ap) {d : Delivery κ ρ} {b : DeliveryAct κ ρ}
    (hb : ∀ c, b ≠ .calls c) (hd : s.delivery.step sm enable b = .next d) : Registers { s with delivery := d } := by
  rcases Delivery.calls_of_step hb hd with hcalls | ⟨k, ans, p, hf, hcalls⟩
  · exact h.move rfl (by rw [hcalls]) (fun e he => hcalls ▸ he) fun c r hc => hcalls ▸ hc
  · obtain ⟨-, hkey, hact, -⟩ := hk.calls.findActProc hf
    refine h.move rfl ?_ (fun e he => ?_) fun c r hc => ?_
    · rw [hcalls]
      exact hkey
    · rw [hcalls] at he
      exact hact ▸ he
    · rw [hcalls] at hc
      exact hc

theorem Registers.call_step (h : s.Registers) (hk : s.Kept ap) {c : Call κ} {body : List UInt8}
    (h' : s.step sm enable (.call c body) = .next t) : t.Registers := by
  obtain ⟨calls, r, hui, -, hs, hcui, rfl⟩ := call_inv h'
  rw [Calls.step, hk.idle hui] at hs
  dsimp only at hs
  obtain ⟨⟨ps, hp, -⟩, hkey, hb⟩ := hk.calls
  rcases Calls.generates_of_enter hs with hg | ⟨k, rfl⟩
  · obtain ⟨p, v, hk', hp', hentry, hid, he⟩ := Calls.enter_eq hp hkey hb hg
    rw [hs] at he
    split at he
    · obtain rfl := Outcome.next.inj he
      obtain ⟨-, rfl⟩ := CallPc.waiting.inj hcui
      have hmade : madeBy s.made v.id c = (v.id, c) :: s.made := by
        cases c with
        | rmReport => cases hg
        | report | control | controlRaw => rfl
      refine ⟨?_, fun e he => ?_, fun k w hw => ?_, fun c' r' hc' _ => ?_⟩
      · show ((madeBy s.made v.id c).map _).Nodup
        rw [hmade]
        refine List.nodup_cons.mpr ⟨fun hm => ?_, h.nodup⟩
        obtain ⟨e, he, heq⟩ := List.mem_map.mp hm
        have := h.bound e he
        dsimp only at heq
        omega
      · show e.1.ricReqId < p.keyId
        rcases List.mem_cons.mp (hmade ▸ he) with rfl | he
        · rw [hid, hk']
          exact Nat.lt_succ_self _
        · have := h.bound e he
          omega
      · show ∃ c', (w.id, c') ∈ madeBy s.made v.id c ∧ _
        rw [hmade]
        have hw' : (k, w) ∈ ps ++ [(s.delivery.calls.generated + 1, v)] := hp'.active ▸ hw
        rcases List.mem_append.mp hw' with hw' | hw'
        · obtain ⟨c', hc', hentry'⟩ := h.active k w (hp.active.symm ▸ hw')
          exact ⟨c', List.mem_cons_of_mem _ hc', hentry'⟩
        · obtain ⟨rfl, rfl⟩ := Prod.mk.inj (List.mem_singleton.mp hw')
          exact ⟨c, List.mem_cons_self, hentry⟩
      · obtain ⟨rfl, rfl⟩ := CallPc.waiting.inj hc'
        show (madeBy s.made v.id c).head? = some (v.id, c)
        rw [hmade]
        rfl
    · cases he
  · obtain ⟨_, -, hs⟩ := Outcome.bind_eq_next.mp hs
    obtain ⟨⟨ans, p⟩, hf, hs⟩ := Outcome.bind_eq_next.mp hs
    obtain ⟨hp', hk', -⟩ := hp.findActProc_inv (Outcome.ofExcept_eq_next.mp hf)
    cases ans with
    | none => cases hs
    | some v =>
      obtain rfl := Outcome.next.inj hs
      refine ⟨h.nodup, fun e he => hk'.symm ▸ h.bound e he, fun k' w hw => ?_, fun c' r' hc' hne => ?_⟩
      · exact h.active k' w (hp.active.symm ▸ hp'.active ▸ hw)
      · obtain ⟨rfl, -⟩ := CallPc.waiting.inj hc'
        exact absurd rfl hne

/-- A step is a call, the return of one, a step of a queue, or it leaves the registry as it is. -/
theorem step_cases {a : ProcessAct κ} (hs : s.step sm enable a = .next t) : t.id = s.id ∧ t.received = s.received ∧
    ((t.signalled = s.signalled ∧ t.loop = s.loop) ∨
      ∃ a, s.loop = .signalling a ∧ t.loop = .idle ∧ t.signalled = a :: s.signalled) ∧
    ((∃ c body, a = .call c body) ∨ (t.made = s.made ∧ t.body = s.body ∧ t.ui.unsent? = s.ui.unsent? ∧
      (t.delivery = s.delivery ∨
        (∃ b, (∀ c, b ≠ .calls c) ∧ (∀ ind, b ≠ .receive ind) ∧ s.delivery.step sm enable b = .next t.delivery ∧
          t.ui = s.ui) ∨
        ∃ calls r, s.ui = .woken r ∧ s.delivery.calls.step .return_ = .next calls ∧ t.delivery = { s.delivery with calls }))) := by
  have queues : ∀ b, (∀ c, b ≠ .calls c) → (∀ ind, b ≠ .receive ind) → (s.delivery.step sm enable b >>= fun delivery =>
      pure { s with delivery }) = .next t → t.id = s.id ∧ t.received = s.received ∧
      ((t.signalled = s.signalled ∧ t.loop = s.loop) ∨
        ∃ a, s.loop = .signalling a ∧ t.loop = .idle ∧ t.signalled = a :: s.signalled) ∧
      ((∃ c body, a = .call c body) ∨ (t.made = s.made ∧ t.body = s.body ∧ t.ui.unsent? = s.ui.unsent? ∧
        (t.delivery = s.delivery ∨
          (∃ b, (∀ c, b ≠ .calls c) ∧ (∀ ind, b ≠ .receive ind) ∧ s.delivery.step sm enable b = .next t.delivery ∧
            t.ui = s.ui) ∨
          ∃ calls r, s.ui = .woken r ∧ s.delivery.calls.step .return_ = .next calls ∧ t.delivery = { s.delivery with calls }))) := by
    intro b hb hb' hs
    obtain ⟨d, hd, hs⟩ := Outcome.bind_eq_next.mp hs
    obtain rfl := Outcome.next.inj hs
    exact ⟨rfl, rfl, .inl ⟨rfl, rfl⟩, .inr ⟨rfl, rfl, rfl, .inr (.inl ⟨b, hb, hb', hd, rfl⟩)⟩⟩
  cases a with
  | call c body =>
    obtain ⟨_, _, -, -, -, -, rfl⟩ := call_inv hs
    exact ⟨rfl, rfl, .inl ⟨rfl, rfl⟩, .inl ⟨c, body, rfl⟩⟩
  | register fd =>
    simp only [Process.step] at hs
    split at hs
    · next r hui =>
      obtain ⟨_, -, hs⟩ := Outcome.bind_eq_next.mp hs
      obtain ⟨s', hs', hs⟩ := Outcome.bind_eq_next.mp hs
      obtain rfl := Outcome.next.inj hs
      obtain ⟨_, -, hs'⟩ := Outcome.bind_eq_next.mp hs'
      obtain ⟨_, -, hs'⟩ := Outcome.bind_eq_next.mp hs'
      obtain rfl := Outcome.next.inj hs'
      exact ⟨rfl, rfl, .inl ⟨rfl, rfl⟩, .inr ⟨rfl, rfl, by rw [hui]; rfl, .inl rfl⟩⟩
    · next r hui =>
      obtain ⟨s', hs', hs⟩ := Outcome.bind_eq_next.mp hs
      obtain rfl := Outcome.next.inj hs
      obtain ⟨_, -, hs'⟩ := Outcome.bind_eq_next.mp hs'
      obtain ⟨_, -, hs'⟩ := Outcome.bind_eq_next.mp hs'
      obtain rfl := Outcome.next.inj hs'
      exact ⟨rfl, rfl, .inl ⟨rfl, rfl⟩, .inr ⟨rfl, rfl, by rw [hui]; rfl, .inl rfl⟩⟩
    · cases hs
  | wait =>
    simp only [Process.step] at hs
    split at hs
    · next r hui =>
      obtain ⟨_, -, hs⟩ := Outcome.bind_eq_next.mp hs
      obtain rfl := Outcome.next.inj hs
      exact ⟨rfl, rfl, .inl ⟨rfl, rfl⟩, .inr ⟨rfl, rfl, by rw [hui]; rfl, .inl rfl⟩⟩
    · cases hs
  | deadline =>
    simp only [Process.step] at hs
    split at hs
    · next r hui =>
      obtain rfl := Outcome.next.inj hs
      exact ⟨rfl, rfl, .inl ⟨rfl, rfl⟩, .inr ⟨rfl, rfl, by rw [hui]; rfl, .inl rfl⟩⟩
    · cases hs
  | resume =>
    simp only [Process.step] at hs
    split at hs
    · next r hui =>
      split at hs
      · obtain ⟨calls, hc, hs⟩ := Outcome.bind_eq_next.mp hs
        obtain rfl := Outcome.next.inj hs
        exact ⟨rfl, rfl, .inl ⟨rfl, rfl⟩, .inr ⟨rfl, rfl, by rw [hui]; rfl, .inr (.inr ⟨calls, r, hui, hc, rfl⟩)⟩⟩
      · obtain rfl := Outcome.next.inj hs
        exact ⟨rfl, rfl, .inl ⟨rfl, rfl⟩, .inr ⟨rfl, rfl, by rw [hui]; rfl, .inl rfl⟩⟩
    · cases hs
    · cases hs
  | signal =>
    simp only [Process.step] at hs
    split at hs
    · next a hl =>
      obtain rfl := Outcome.next.inj hs
      refine ⟨rfl, rfl, .inr ⟨a, hl, rfl, rfl⟩, .inr ⟨rfl, rfl, ?_, .inl rfl⟩⟩
      cases s.ui <;> rfl
    · cases hs
  | expire fd =>
    obtain ⟨_, -, hs⟩ := Outcome.bind_eq_next.mp hs
    split at hs <;> cases hs
  | goOn => exact queues .loop (by simp) (by simp) hs
  | dispatcher => exact queues .dispatcher (by simp) (by simp) hs
  | database => exact queues .database (by simp) (by simp) hs
  | wakeDispatcher => exact queues .wakeDispatcher (by simp) (by simp) hs
  | wakeDatabase => exact queues .wakeDatabase (by simp) (by simp) hs

theorem Registers.step (h : s.Registers) (hk : s.Kept ap) {a : ProcessAct κ} (hs : s.step sm enable a = .next t) :
    t.Registers := by
  obtain ⟨-, -, -, ⟨c, body, rfl⟩ | ⟨hmade, -, -, hd | ⟨b, hb, -, hd, -⟩ | ⟨calls, _, -, hc, hd⟩⟩⟩ := step_cases hs
  · exact h.call_step hk hs
  · exact h.same hmade hd
  · exact (h.queues hk hb hd).same hmade rfl
  · obtain ⟨hkey, hact⟩ := Calls.active_of_return hk.calls hc
    refine h.move hmade (by rw [hd]; exact hkey) (fun e he => hact e (by rw [hd] at he; exact he)) fun c r hw => ?_
    rw [hd] at hw
    cases (Calls.idle_of_return hc).symm.trans hw

theorem Registers.handle (h : s.Registers) (hk : s.Kept ap) {sm : Plugins ρ} {m : XappMsg}
    (hs : s.handle sm enable m = .next t) : t.Registers := by
  obtain ⟨-, -, ⟨m', a, u, -, -, hu, rfl⟩ | ⟨m', data, rd, d, -, -, -, hd, rfl⟩ | ⟨xappId, -, -, rfl⟩⟩ := handle_inv hs
  · obtain ⟨rv, p, hf, hdel, -, -, hmade, -⟩ := handleAnswer_inv hu
    obtain ⟨-, hkey, hact, -⟩ := hk.calls.findActProc hf
    refine Registers.same (s := u) (h.move hmade ?_ (fun e he => ?_) fun c r hc => ?_) rfl rfl
    · rw [hdel, answered_actProc]
      exact hkey
    · rw [hdel, answered_actProc] at he
      exact hact ▸ he
    · rw [hdel] at hc
      dsimp only at hc
      unfold answered at hc
      split at hc
      · cases hc
      · exact hc
  · exact (h.queues hk (b := .receive _) (by simp) hd).same rfl rfl
  · exact h.same rfl rfl

end Steps

end Process

end FlexRic.XApp
