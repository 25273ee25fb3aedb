import FlexRic.Agent.AsyncEvents
import FlexRic.XApp.Delivery

/-! # An xApp with its threads and its messages

The UI thread calls the API (`e42_xapp.c`), the event loop handles what the iApp sends (`msg_handler_xapp.c`), and
the workers of the dispatcher and of the database take indications from their queues. `XApp.Sync` has the waiting
of a call, `XApp.Calls` the registry, and `XApp.Delivery` the queues; here they are one process, whose handlers
work on the messages as they come. -/

namespace FlexRic.XApp
open Agent Ds E2ap

/-! ### Messages -/

/-- What an xApp sends to the iApp. -/
inductive E42Msg
  | setupRequest (lenRf : Nat)
  | request (req : E42Request)
  | deleteRequest (req : E42DeleteRequest)
  deriving DecidableEq

/-- What the iApp sends to an xApp. The nodes of a setup response are in `XApp.Registration`. -/
inductive XappMsg
  | setupResponse (xappId : Nat)
  | node (m : NodeMsg)
  deriving DecidableEq, Repr

/-- The message as an answer to a request; an indication answers none. -/
def answer? : NodeMsg → Option Answer
  | .subscriptionResponse m => some (.subscriptionResponse m.ricId)
  | .subscriptionDeleteResponse m => some (.subscriptionDeleteResponse m.ricId)
  | .controlAcknowledge m => some (.controlAcknowledge m.ricId)
  | .controlFailure m => some (.controlFailure m.ricId m.cause)
  | .indication _ => none

/-- The identifiers as they are sent: the request identifier has 16 bits. -/
def wire (id : RicGenId) : RicGenId := { id with ricReqId := id.ricReqId % 65536 }

theorem wire_ricReqId_lt (id : RicGenId) : (wire id).ricReqId < 65536 := Nat.mod_lt _ (by decide)

theorem wire_eq {id : RicGenId} (h : id.ricReqId < 65536) : wire id = id := by
  rw [wire, Nat.mod_eq_of_lt h]

/-- The message of a call, under the identifiers that it was given. -/
def e42Msg {κ : Type} (xappId : Nat) (id : RicGenId) (body : List UInt8) : Call κ → E42Msg
  | .report e2Node _ _ => .request ⟨.subscription, xappId, e2Node, wire id, body, by simp, wire_ricReqId_lt id⟩
  | .rmReport _ => .deleteRequest ⟨xappId, wire id⟩
  | .control e2Node _ | .controlRaw e2Node _ _ _ =>
    .request ⟨.control, xappId, e2Node, wire id, body, by simp, wire_ricReqId_lt id⟩

/-! ### The process -/

/-- The service models that the xApp has loaded: what their data is, and what `on_indication` of the one with the
RAN function identifier reads from an indication. -/
structure Plugins (ρ : Type) where
  agIf : SmAgIfRd ρ
  onIndication : Nat → SmIndData → Except String ρ

/-- `e42_xapp_t` and its threads. `id` is there once the xApp is connected, `body` is what the service model has
encoded for the call. The last four fields keep the history: two as in `Xapp`, the calls that have generated a request
with its identifiers, and the messages of nodes that were received. -/
structure Process (κ ρ : Type) where
  id : Option Nat
  body : List UInt8
  ui : UiPc
  loop : LoopPc
  sync : SyncUi
  pending : PendingEvents
  asio : List Nat
  delivery : Delivery κ ρ
  signalled : List Answer
  returned : List (Request × Bool)
  made : List (RicGenId × Call κ)
  received : List NodeMsg

inductive ProcessAct (κ : Type)
  /-- A call of the API, with what the service model encodes for it -/
  | call (c : Call κ) (body : List UInt8)
  /-- `add_pending_event_xapp`, whose new timer gets the file descriptor -/
  | register (fd : Nat)
  /-- `cond_wait_sync_ui` up to its wait -/
  | wait
  | deadline
  /-- `cond_wait_sync_ui` from its wait on, and what the call does with the result -/
  | resume
  /-- The event loop signals. -/
  | signal
  /-- The event loop finds the timer of a pending event expired. -/
  | expire (fd : Nat)
  /-- The event loop goes on with an indication. -/
  | goOn
  | dispatcher
  | database
  | wakeDispatcher
  | wakeDatabase

namespace Process
variable {κ ρ : Type}

def init : Process κ ρ := ⟨none, [], .idle, .idle, .init, .init, [], .init, [], [], [], []⟩

/-- The process with other calls. -/
def withCalls (s : Process κ ρ) (calls : Calls κ) : Process κ ρ := { s with delivery := { s.delivery with calls } }

/-- `add_pending_event_xapp` -/
def addPending (s : Process κ ρ) (r : Request) (fd : Nat) : Outcome (Process κ ρ) := do
  Outcome.await (0 < fd ∧ fd ∉ s.asio)
  let pending ← .ofExcept (addPendingEvent s.pending fd r.event)
  return { s with pending, asio := fd :: s.asio }

/-- `rm_pending_event_xapp` -/
def rmPending (s : Process κ ρ) (ev : PendingEventXapp) : Outcome (Process κ ρ) := do
  let (fd, pending) ← .ofExcept (rmPendingEventEv s.pending ev)
  return { s with pending, asio := s.asio.erase fd }

/-- The history of the requests, after a call. A call that removes a subscription generates none. -/
def madeBy (made : List (RicGenId × Call κ)) (id : RicGenId) : Call κ → List (RicGenId × Call κ)
  | .rmReport _ => made
  | c => (id, c) :: made

/-- The call is over that waits, whichever it is. -/
def answered (calls : Calls κ) (ok : Bool) : Calls κ :=
  match calls.ui with
  | .waiting c r => { calls with ui := .answered c r ok }
  | _ => calls

/-- The handler of an answer up to its signal. -/
def handleAnswer (s : Process κ ρ) (a : Answer) : Outcome (Process κ ρ) := do
  let (rv, actProc) ← .ofExcept (s.delivery.calls.actProc.findActProc a.id.ricReqId)
  let s := s.withCalls (answered { s.delivery.calls with actProc } a.success)
  match a, rv with
  | .controlFailure .., none => return { s with loop := .signalling a }
  | _, none => .abort "ric_req_id not registered in the registry"
  | _, some val => do
    let s ← s.rmPending ⟨a.kind.e42PendingEvent, val.id, 0⟩
    return { s with loop := .signalling a }

/-- `ind_sm_payload` -/
def indSmPayload (m : RicIndication) : Except String SmIndData :=
  if m.callProcessId = some [] then .error "src->call_process_id->len > 0"
  else .ok ⟨m.hdr, m.msg, m.callProcessId⟩

/-- The handler of an indication up to its look-up. -/
def handleIndication (sm : Plugins ρ) (enable : Bool) (s : Process κ ρ) (m : RicIndication) : Outcome (Process κ ρ) := do
  let data ← .ofExcept (indSmPayload m)
  let rd ← .ofExcept (sm.onIndication m.ricId.ranFuncId data)
  let delivery ← s.delivery.step sm.agIf enable (.receive ⟨m.ricId.ricReqId, rd⟩)
  return { s with delivery }

/-- The handlers of the messages that come from nodes. -/
def handleNodeMsg (sm : Plugins ρ) (enable : Bool) (s : Process κ ρ) : NodeMsg → Outcome (Process κ ρ)
  | .indication m => s.handleIndication sm enable m
  | m => do
    let a ← .ofOption (answer? m)
    s.handleAnswer a

/-- `e2ap_msg_handle_xapp`, when the event loop has nothing else to do -/
def handle (sm : Plugins ρ) (enable : Bool) (s : Process κ ρ) (m : XappMsg) : Outcome (Process κ ρ) := do
  Outcome.await (s.loop = .idle ∧ s.delivery.loop matches .idle)
  match m with
  | .setupResponse xappId => do
    Outcome.check (s.id = none) "xapp->connected == false"
    return { s with id := some xappId }
  | .node m => do
    let s ← s.handleNodeMsg sm enable m
    return { s with received := m :: s.received }

/-- `e2ap_send_bytes_xapp` in the handler of a request, and the message that is sent -/
def send (s : Process κ ρ) : Outcome (Process κ ρ × E42Msg) :=
  match s.id, s.delivery.calls.ui with
  | some xappId, .waiting c r =>
    let msg := e42Msg xappId r.id s.body c
    match s.ui with
    | .entered r => do
      Outcome.await (r.kind ≠ .subscription)
      return ({ s with ui := .sent r }, msg)
    | .registered r => return ({ s with ui := .handled r }, msg)
    | _ => .blocked
  | _, _ => .blocked

def step (sm : SmAgIfRd ρ) (enable : Bool) (s : Process κ ρ) : ProcessAct κ → Outcome (Process κ ρ)
  | .call c body => do
    -- The API is there when the xApp is connected.
    Outcome.await (s.ui = .idle ∧ s.id.isSome)
    let calls ← s.delivery.calls.step (.call c)
    match calls.ui with
    | .waiting _ r => return { s.withCalls calls with body, ui := .entered r, made := madeBy s.made r.id c }
    | _ => .blocked
  | .register fd =>
    match s.ui with
    -- The handler of a subscription registers first, the handlers of the other requests last.
    | .entered r => do
      Outcome.await (r.kind = .subscription)
      let s ← s.addPending r fd
      return { s with ui := .registered r }
    | .sent r => do
      let s ← s.addPending r fd
      return { s with ui := .handled r }
    | _ => .blocked
  | .wait =>
    match s.ui with
    | .handled r => do
      Outcome.check (s.sync.waitMs > 0) "wait_ms > 0"
      return { s with ui := .waiting r, sync := s.sync.reset }
    | _ => .blocked
  | .deadline =>
    match s.ui with
    | .waiting r => return { s with ui := .timedOut r }
    | _ => .blocked
  | .resume =>
    match s.ui with
    | .woken r =>
      if s.sync.flagSync then do
        let calls ← s.delivery.calls.step .return_
        return { s.withCalls calls with ui := .idle, returned := (r, s.sync.ok) :: s.returned }
      else return { s with ui := .waiting r }
    | .timedOut _ =>
      .abort "Timeout. No response from the E2 Node received, and neither from epoll. Unforeseen path"
    | _ => .blocked
  | .signal =>
    match s.loop with
    | .signalling a =>
      -- A signal wakes the thread that waits, and no other.
      let ui := match s.ui with
        | .waiting r => .woken r
        | ui => ui
      return { s with loop := .idle, ui, sync := a.signal s.sync, signalled := a :: s.signalled }
    | _ => .blocked
  | .expire fd => do
    Outcome.await (s.loop = .idle ∧ (s.delivery.loop matches .idle) ∧ fd ∈ s.asio)
    match findPendingEventFd s.pending fd with
    | none => .abort "it != end"
    | some ev => .abort (Xapp.expiredText ev.ev)
  | .goOn => do
    let delivery ← s.delivery.step sm enable .loop
    return { s with delivery }
  | .dispatcher => do
    let delivery ← s.delivery.step sm enable .dispatcher
    return { s with delivery }
  | .database => do
    let delivery ← s.delivery.step sm enable .database
    return { s with delivery }
  | .wakeDispatcher => do
    let delivery ← s.delivery.step sm enable .wakeDispatcher
    return { s with delivery }
  | .wakeDatabase => do
    let delivery ← s.delivery.step sm enable .wakeDatabase
    return { s with delivery }

end Process

end FlexRic.XApp
