import FlexRic.Lib.System
import FlexRic.XApp.ActProc
import FlexRic.XApp.PendingEvents

/-! # The xApp's synchronous requests

The UI thread sends a request and waits on a condition variable (`e42_xapp.c`, `sync_ui.c`); the event loop
handles the answer and signals the variable (`msg_handler_xapp.c`). The two threads take the steps below in
any order; a step is what a thread does under one lock or on one socket. The peer answers every request
once, whenever it likes. -/

namespace FlexRic.XApp
open Ds E2ap

/-! ### `sync_ui.c` -/

/-- `sync_ui_t`, without the lock and the condition variable, which are the thread's program counter. -/
structure SyncUi where
  waitMs : Nat
  flagSync : Bool
  msgAck : Bool
  msgError : Bool
  errorReason : String
  deriving DecidableEq, Repr

namespace SyncUi

/-- `init_sync_ui` -/
def init : SyncUi := ⟨5000, false, false, false, ""⟩

/-- The entry of `cond_wait_sync_ui`. -/
def reset (s : SyncUi) : SyncUi := { s with flagSync := false, msgAck := false, msgError := false, errorReason := "" }

/-- The result of `cond_wait_sync_ui`, when it returns. -/
def ok (s : SyncUi) : Bool := s.msgAck && !s.msgError

/-- `signal_sync_ui` -/
def signal (s : SyncUi) : SyncUi := { s with flagSync := true, msgAck := true, msgError := false, errorReason := "" }

/-- `signal_error_sync_ui`; `snprintf` cuts the reason to the buffer of 256 bytes. -/
def signalError (s : SyncUi) (reason : String) : SyncUi :=
  { s with flagSync := true, msgAck := false, msgError := true, errorReason := String.ofList (reason.toList.take 255) }

end SyncUi

/-! ### Requests and answers -/

/-- A request that the UI thread sends. -/
structure Request where
  kind : RequestKind
  id : RicGenId
  deriving DecidableEq, Repr

/-- The record that the handler of the request passes to `add_pending_event_xapp`. -/
def Request.event (r : Request) : PendingEventXapp := ⟨r.kind.e42PendingEvent, r.id, 5000⟩

/-- The answers that reach the xApp; only a control request can be answered with a failure, the handlers of
the other failures are not implemented. -/
inductive Answer
  | subscriptionResponse (id : RicGenId)
  | subscriptionDeleteResponse (id : RicGenId)
  | controlAcknowledge (id : RicGenId)
  | controlFailure (id : RicGenId) (cause : Cause)
  deriving DecidableEq, Repr

namespace Answer

@[simp] def id : Answer → RicGenId
  | subscriptionResponse id | subscriptionDeleteResponse id | controlAcknowledge id | controlFailure id _ => id

/-- The kind of the requests that the answer can answer. -/
@[simp] def kind : Answer → RequestKind
  | subscriptionResponse _ => .subscription
  | subscriptionDeleteResponse _ => .subscriptionDelete
  | controlAcknowledge _ | controlFailure _ _ => .control

/-- A response or an acknowledge is a success, a failure is not. -/
@[simp] def success : Answer → Bool
  | controlFailure _ _ => false
  | _ => true

/-- `cause_value` -/
def causeValue (c : Cause) : Int := if 1 ≤ c.present ∧ c.present ≤ 5 then c.value else -1

/-- `format_control_failure_reason` -/
def formatControlFailureReason (id : RicGenId) (c : Cause) : String :=
  "RIC_CONTROL_FAILURE cause_present=" ++ toString c.present ++ " cause_value=" ++ toString (causeValue c) ++
    " ric_req_id=" ++ toString id.ricReqId ++ " ran_func_id=" ++ toString id.ranFuncId

/-- What the last lines of the answer's handler do to the synchronisation. -/
def signal (a : Answer) (s : SyncUi) : SyncUi :=
  match a with
  | controlFailure id cause => s.signalError (formatControlFailureReason id cause)
  | _ => s.signal

/-- The answer is an answer to the request. -/
def Answers (a : Answer) (r : Request) : Prop := a.kind = r.kind ∧ a.id = r.id

instance (a : Answer) (r : Request) : Decidable (a.Answers r) := inferInstanceAs (Decidable (_ ∧ _))

/-- The answer of the peer to a request: a failure to a control request when there is a cause. -/
def reply (r : Request) (failure : Option Cause) : Answer :=
  match r.kind, failure with
  | .subscription, _ => subscriptionResponse r.id
  | .subscriptionDelete, _ => subscriptionDeleteResponse r.id
  | .control, none => controlAcknowledge r.id
  | .control, some cause => controlFailure r.id cause

theorem reply_answers (r : Request) (failure : Option Cause) : (reply r failure).Answers r := by
  obtain ⟨kind, id⟩ := r
  cases kind <;> cases failure <;> simp [reply, Answers]

end Answer

/-! ### The two threads -/

/-- Where the UI thread is, in the handler of a request and in `cond_wait_sync_ui`. -/
inductive UiPc
  | idle
  /-- The handler of the request is entered. -/
  | entered (r : Request)
  /-- The pending event is registered, the request is not sent yet. -/
  | registered (r : Request)
  /-- The request is sent, the pending event is not registered yet. -/
  | sent (r : Request)
  /-- The handler has returned; `cond_wait_sync_ui` comes next. -/
  | handled (r : Request)
  /-- In `pthread_cond_timedwait`. -/
  | waiting (r : Request)
  /-- Signalled out of `pthread_cond_timedwait`. -/
  | woken (r : Request)
  /-- `pthread_cond_timedwait` has returned `ETIMEDOUT`. -/
  | timedOut (r : Request)
  deriving DecidableEq, Repr

/-- Where the event loop is. -/
inductive LoopPc
  | idle
  /-- The handler has removed the pending event; signalling comes next. -/
  | signalling (a : Answer)
  deriving DecidableEq, Repr

/-- The parts of `e42_xapp_t` that the synchronous requests use, the two threads, and the messages on their
way. The last two fields keep the history: the answers whose handlers have signalled, and what the waits
have returned. -/
structure Xapp where
  ui : UiPc
  loop : LoopPc
  sync : SyncUi
  pending : PendingEvents
  asio : List Nat
  actProc : ActProc
  toIapp : List Request
  toXapp : List Answer
  signalled : List Answer
  returned : List (Request × Bool)

inductive Act
  /-- `report_sm_sync_xapp` -/
  | report (ranFuncId : Nat)
  /-- `rm_report_sm_sync_xapp` -/
  | rmReport (ricReqId : Nat)
  /-- `control_sm_sync_xapp` or `control_sm_raw_sync_xapp` -/
  | control (ranFuncId : Nat)
  /-- `add_pending_event_xapp`, whose new timer gets the file descriptor. -/
  | register (fd : Nat)
  /-- `e2ap_send_bytes_xapp` -/
  | send
  /-- `cond_wait_sync_ui` up to its wait -/
  | wait
  /-- The deadline of the wait passes. -/
  | deadline
  /-- `cond_wait_sync_ui` from its wait on, and what its caller does with the result -/
  | resume
  /-- The peer answers the request at the index. -/
  | answer (i : Nat) (failure : Option Cause)
  /-- The event loop takes the next answer and handles it up to the signal. -/
  | handle
  /-- The event loop signals. -/
  | signal
  /-- The event loop finds the timer of a pending event expired. -/
  | expire (fd : Nat)
  deriving DecidableEq, Repr

namespace Xapp

def init : Xapp := ⟨.idle, .idle, .init, .init, [], .init, [], [], [], []⟩

/-- `generate_ric_gen_id`, and the entry of the request's handler -/
def generate (s : Xapp) (kind : RequestKind) (type : ActProcType) (ranFuncId : Nat) : Outcome Xapp := do
  let (reqId, actProc) := s.actProc.add type ⟨0, 0, ranFuncId⟩
  Outcome.check (reqId < 65536) "Overflow detected"
  return { s with actProc, ui := .entered ⟨kind, ⟨reqId, 0, ranFuncId⟩⟩ }

/-- `add_pending_event_xapp` -/
def addPending (s : Xapp) (r : Request) (fd : Nat) : Outcome Xapp := do
  Outcome.await (0 < fd ∧ fd ∉ s.asio)
  let pending ← .ofExcept (addPendingEvent s.pending fd r.event)
  return { s with pending, asio := fd :: s.asio }

/-- `rm_pending_event_xapp` -/
def rmPending (s : Xapp) (ev : PendingEventXapp) : Outcome Xapp := do
  let (fd, pending) ← .ofExcept (rmPendingEventEv s.pending ev)
  return { s with pending, asio := s.asio.erase fd }

/-- The handler of an answer up to its signal. -/
def handleAnswer (s : Xapp) (a : Answer) : Outcome Xapp :=
  match a, s.actProc.find a.id.ricReqId with
  | .controlFailure .., none => .next s
  | _, none => .abort "ric_req_id not registered in the registry"
  | _, some val => s.rmPending ⟨a.kind.e42PendingEvent, val.id, 0⟩

/-- What the caller of `cond_wait_sync_ui` does after it: a subscription stays an active procedure. -/
def afterWait (s : Xapp) (r : Request) : Outcome Xapp :=
  match r.kind with
  | .subscription => .next s
  | .subscriptionDelete | .control => do
    let actProc ← .ofExcept (s.actProc.rm r.id.ricReqId)
    return { s with actProc }

/-- The assertions of `e2_event_loop_xapp` on a pending event whose timer expired; the set-up request, which
is sent again, is not among the events here. -/
def expiredText : PendingEvent → String
  | .e42RicSubscriptionRequest => "Timeout waiting for Report. Connection lost with the RIC?"
  | .e42RicSubscriptionDeleteRequest => "Timeout waiting for Subscription Delete. Connection lost with the RIC?"
  | .e42RicControlRequest => "Timeout waiting for Control ACK. Connection lost with the RIC?"
  | _ => "Unforeseen pending event happened!"

def step (s : Xapp) : Act → Outcome Xapp
  | .report ranFuncId => do
    Outcome.await (s.ui = .idle)
    s.generate .subscription .ricSubscriptionProcedureActive ranFuncId
  | .rmReport ricReqId => do
    Outcome.await (s.ui = .idle)
    match s.actProc.find ricReqId with
    | none => .abort "ric_req_id not registered"
    | some val => return { s with ui := .entered ⟨.subscriptionDelete, val.id⟩ }
  | .control ranFuncId => do
    Outcome.await (s.ui = .idle)
    s.generate .control .ricControlProcedureActive ranFuncId
  | .register fd =>
    match s.ui with
    -- The handler of a subscription registers first, the handlers of the other requests last.
    | .entered r => do
      Outcome.await (r.kind = .subscription)
      let s ← s.addPending r fd
      return { s with ui := .registered r }
    | .sent r => do
      let s ← s.addPending r fd
      return { s with ui := .handled r }
    | _ => .blocked
  | .send =>
    match s.ui with
    | .entered r => do
      Outcome.await (r.kind ≠ .subscription)
      return { s with ui := .sent r, toIapp := s.toIapp ++ [r] }
    | .registered r => .next { s with ui := .handled r, toIapp := s.toIapp ++ [r] }
    | _ => .blocked
  | .wait =>
    match s.ui with
    | .handled r => do
      Outcome.check (s.sync.waitMs > 0) "wait_ms > 0"
      return { s with ui := .waiting r, sync := s.sync.reset }
    | _ => .blocked
  | .deadline =>
    match s.ui with
    | .waiting r => .next { s with ui := .timedOut r }
    | _ => .blocked
  | .resume =>
    match s.ui with
    | .woken r =>
      if s.sync.flagSync then do
        let s' ← s.afterWait r
        return { s' with ui := .idle, returned := (r, s.sync.ok) :: s.returned }
      else .next { s with ui := .waiting r }
    | .timedOut _ =>
      .abort "Timeout. No response from the E2 Node received, and neither from epoll. Unforeseen path"
    | _ => .blocked
  | .answer i failure => do
    let r ← .ofOption s.toIapp[i]?
    return { s with toIapp := s.toIapp.eraseIdx i, toXapp := s.toXapp ++ [.reply r failure] }
  | .handle =>
    match s.loop, s.toXapp with
    | .idle, a :: rest => do
      let s' ← s.handleAnswer a
      return { s' with loop := .signalling a, toXapp := rest }
    | _, _ => .blocked
  | .signal =>
    match s.loop with
    | .signalling a =>
      -- A signal wakes the thread that waits, and no other.
      let ui := match s.ui with
        | .waiting r => .woken r
        | ui => ui
      .next { s with loop := .idle, ui, sync := a.signal s.sync, signalled := a :: s.signalled }
    | _ => .blocked
  | .expire fd => do
    Outcome.await (s.loop = .idle ∧ fd ∈ s.asio)
    match findPendingEventFd s.pending fd with
    | none => .abort "it != end"
    | some ev => .abort (expiredText ev.ev)

end Xapp

/-- The xApp with its two threads. -/
def xapp : System Xapp Act := ⟨Xapp.init, Xapp.step⟩

end FlexRic.XApp
