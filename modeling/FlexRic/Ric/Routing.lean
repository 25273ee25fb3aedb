import FlexRic.IApp.Maps
import FlexRic.Lib.System
import FlexRic.Ric.PendingEvents

/-! # Requests of xApps and answers of E2 nodes

The iApp's event loop takes the messages of xApps, the RIC's worker threads those of E2 nodes, and the RIC's
event loop the expired timers (`near_ric.c`, `msg_handler_ric.c`, `e42_iapp.c`, `msg_handler_iapp.c`). A step
is what one thread does under one lock, on one socket or on one counter, and the threads take their steps in
any order. -/

namespace FlexRic.Ric
open Ds E2ap Ep IApp

/-- What stays as it is: the nodes that are connected and the RAN functions that plug-ins handle. -/
structure Config where
  e2Nodes : List GlobalE2NodeId
  plugins : List Nat

/-- `near_ric_t`, the part that passes requests on. -/
structure NearRic where
  reqId : Nat
  pending : PendingEvents
  asio : List Nat

/-- `e42_iapp_t`, the part that keeps xApps and requests. -/
structure E42Iapp where
  xappId : Nat
  xapps : MapXapps
  mapRicId : MapRicId

/-- An entry for `add_map_ric_id`. -/
abbrev MapEntry := E2NodeRicReq × XappRicId

/-- Where the event loop of the iApp is. -/
inductive IappPc
  | idle
  /-- The E42 setup response is generated; `e2ap_reg_sock_addr_iapp` comes next. -/
  | registering (xappId : Nat) (info : SctpInfo)
  /-- The lock of `map_ric_id` is taken; `fwd_ric_…_request` comes next. -/
  | stamping (req : E42Request) (info : SctpInfo)
  /-- `create_timer_ms_asio_ric` comes next. A deletion has no entry to add to `map_ric_id`. -/
  | timing (q : NodeRequest) (entry : Option MapEntry)
  /-- The pending event comes next. -/
  | arming (q : NodeRequest) (fd : Nat) (entry : Option MapEntry)
  /-- `e2ap_send_bytes_ric` comes next. -/
  | sending (q : NodeRequest) (entry : Option MapEntry)
  /-- `add_map_ric_id` comes next. -/
  | recording (entry : MapEntry)
  deriving DecidableEq

/-- The loop holds `map_ric_id_t::rw` for writing. -/
def IappPc.writeLocked : IappPc → Bool
  | .stamping .. | .recording _ => true
  | .timing _ entry | .arming _ _ entry | .sending _ entry => entry.isSome
  | .idle | .registering .. => false

/-- Where a worker thread is with the message of a node. -/
inductive Worker
  /-- The pending event is taken out of the table; its timer comes next. -/
  | stopping (fd : Nat) (m : NodeMsg)
  /-- `find_xapp_map_ric_id` comes next. -/
  | looking (m : NodeMsg)
  /-- `find_map_xapps_sad` comes next. -/
  | forwarding (m : NodeMsg) (x : XappRicId)
  deriving DecidableEq, Repr

/-- A request that was given an identifier, and where it came from. -/
structure Issue where
  id : Nat
  req : E42Request
  info : SctpInfo
  deriving DecidableEq

/-- A message of a node, and what was sent to which address for it. -/
structure Forwarded where
  source : NodeMsg
  info : SctpInfo
  sent : NodeMsg
  deriving DecidableEq, Repr

/-- The RIC and its iApp, their threads and the messages on their way. The last four fields keep the
history: the requests that were given an identifier, the requests whose timer was armed and whose answer
has not been handled, what the nodes have sent and what was forwarded. -/
structure Routing where
  ric : NearRic
  iapp : E42Iapp
  loop : IappPc
  workers : List Worker
  fetched : List Nat
  toNode : List NodeRequest
  subscribed : List RicGenId
  toRic : List NodeMsg
  issued : List Issue
  outstanding : List (Nat × PendingEventRic)
  fromNodes : List NodeMsg
  forwarded : List Forwarded

inductive Act
  /-- `e2ap_handle_e42_setup_request_iapp` -/
  | e42Setup (lenRf : Nat) (info : SctpInfo)
  /-- `e2ap_reg_sock_addr_iapp`, and the response is sent -/
  | register
  /-- `e2ap_handle_e42_ric_subscription_request_iapp` or `e2ap_handle_e42_ric_control_request_iapp` up to
  the lock -/
  | e42Request (req : E42Request) (info : SctpInfo)
  /-- `e2ap_handle_e42_ric_subscription_delete_request_iapp` up to `fwd_ric_subscription_request_delete` -/
  | e42Delete (req : E42DeleteRequest)
  /-- The identifier of the request is taken from `req_id`. -/
  | takeId
  /-- `create_timer_ms_asio_ric`, with the file descriptor of the new timer -/
  | createTimer (fd : Nat)
  /-- The pending event is inserted. -/
  | arm
  /-- `e2ap_send_bytes_ric` -/
  | send
  /-- `add_map_ric_id`, and the lock is released -/
  | record
  /-- A node answers the request at the index. -/
  | nodeAnswer (i : Nat) (m : NodeMsg)
  /-- A node sends an indication for one of its subscriptions. -/
  | nodeIndicate (m : RicIndication)
  /-- A worker takes the message at the index and handles it up to the end of `stop_pending_event`'s lock,
  or up to `notify_msg_iapp_api`. -/
  | take (i : Nat)
  /-- `rm_fd_asio_ric`, and the rest of the RIC's handler up to `notify_msg_iapp_api` -/
  | rmFd (j : Nat)
  /-- `find_xapp_map_ric_id` in the iApp's handler -/
  | lookup (j : Nat)
  /-- `find_map_xapps_sad`, and the message is sent -/
  | forward (j : Nat)
  /-- `event_asio_ric` returns expired timers. -/
  | epoll (fds : List Nat)
  /-- `pend_event` for the next of them -/
  | pendEvent
  deriving DecidableEq

/-! ### The steps -/

/-- The store to the lower half of `ric_req_id` through a pointer to 16 bits. -/
def stamp (id : RicGenId) (r : Nat) : RicGenId := { id with ricReqId := id.ricReqId / 65536 * 65536 + r }

/-- What the iApp's handlers send to the xApp: responses and indications move over, the other answers are
made anew. -/
def answerToXapp (x : XappRicId) : NodeMsg → NodeMsg
  | .subscriptionResponse src => .subscriptionResponse { src with ricId.ricReqId := x.ricId.ricReqId }
  | .subscriptionDeleteResponse _ => .subscriptionDeleteResponse { ricId := x.ricId }
  | .controlAcknowledge _ =>
    .controlAcknowledge { ricId := x.ricId, callProcessId := none, controlOutcome := none }
  | .controlFailure src =>
    .controlFailure { ricId := x.ricId, callProcessId := none, cause := src.cause, controlOutcome := none }
  | .indication src => .indication { src with ricId.ricReqId := x.ricId.ricReqId }

/-- `valid_xapp_id` -/
def validXappId (iapp : E42Iapp) (xappId : Nat) : Outcome Bool := do
  Outcome.check (xappId < 65536) "xapp_id < 1 << 16"
  return xappId ≤ iapp.xappId

/-- `valid_global_e2_node` -/
def validGlobalE2Node (cfg : Config) (id : GlobalE2NodeId) : Bool := cfg.e2Nodes.contains id

/-- The assertions of the handlers of a subscription and of a control request. -/
def validTexts : RequestKind → String × String
  | .control => ("valid_xapp_id(iapp, e42_cr->xapp_id) == true", "valid_global_e2_node(iapp, &e42_cr->id)")
  | _ => ("valid_xapp_id(iapp, e42_sr->xapp_id) == true", "valid_global_e2_node(iapp, &e42_sr->id )")

/-- What `e2ap_handle_subscription_response_ric` asserts after the timer is gone. -/
def implemented : NodeMsg → Bool
  | .subscriptionResponse m => m.notAdmitted.isEmpty && m.admitted = [0]
  | _ => true

/-- The event that waits for the answer to a request. -/
def requestEvent (q : NodeRequest) : PendingEventRic := ⟨q.kind.pendingEvent, q.ricId⟩

namespace Routing

def init : Routing where
  ric := ⟨1021, .init, []⟩
  iapp := ⟨7, .init, .init⟩
  loop := .idle
  workers := []
  fetched := []
  toNode := []
  subscribed := []
  toRic := []
  issued := []
  outstanding := []
  fromNodes := []
  forwarded := []

/-- The identifier that the next request is given: the counter, cut to 16 bits. -/
def freshId (s : Routing) : Nat := s.ric.reqId % 65536

def step (cfg : Config) (s : Routing) : Act → Outcome Routing
  | .e42Setup lenRf info => do
    Outcome.await (s.loop = .idle)
    Outcome.check (lenRf > 0) "len_rf > 0"
    return { s with
      loop := .registering (s.iapp.xappId % 65536) info
      iapp.xappId := (s.iapp.xappId + 1) % 2 ^ 32 }
  | .register =>
    match s.loop with
    | .registering xappId info => do
      let xapps ← .ofExcept (addMapXappsSad s.iapp.xapps xappId info)
      return { s with loop := .idle, iapp.xapps := xapps }
    | _ => .blocked
  | .e42Request req info => do
    Outcome.await (s.loop = .idle)
    let valid ← validXappId s.iapp req.xappId
    Outcome.check valid (validTexts req.kind).1
    Outcome.check (validGlobalE2Node cfg req.e2NodeId) (validTexts req.kind).2
    return { s with loop := .stamping req info }
  | .e42Delete req => do
    Outcome.await (s.loop = .idle)
    let n ← .ofExcept (findRicReqMapRicId s.iapp.mapRicId ⟨req.ricId, req.xappId⟩)
    let dst : NodeRequest := ⟨.subscriptionDelete, n.e2NodeId, { req.ricId with ricReqId := n.ricReqId }, []⟩
    return { s with loop := .timing dst none }
  | .takeId =>
    match s.loop with
    | .stamping req info =>
      let q : NodeRequest := ⟨req.kind, req.e2NodeId, stamp req.ricId s.freshId, req.body⟩
      .next { s with
        ric.reqId := (s.ric.reqId + 1) % 2 ^ 32
        loop := .timing q (some (⟨req.e2NodeId, s.freshId⟩, ⟨req.ricId, req.xappId⟩))
        issued := ⟨s.freshId, req, info⟩ :: s.issued }
    | _ => .blocked
  | .createTimer fd =>
    match s.loop with
    | .timing q entry => do
      Outcome.await (0 < fd ∧ fd ∉ s.ric.asio)
      return { s with loop := .arming q fd entry, ric.asio := fd :: s.ric.asio }
    | _ => .blocked
  | .arm =>
    match s.loop with
    | .arming q fd entry =>
      .next { s with
        loop := .sending q entry
        ric.pending := s.ric.pending.insert fd (requestEvent q)
        outstanding := (fd, requestEvent q) :: s.outstanding }
    | _ => .blocked
  | .send =>
    match s.loop with
    | .sending q entry =>
      let loop := match entry with
        | some entry => .recording entry
        | none => .idle
      .next { s with loop, toNode := s.toNode ++ [q] }
    | _ => .blocked
  | .record =>
    match s.loop with
    | .recording entry => do
      let mapRicId ← .ofExcept (addMapRicId s.iapp.mapRicId entry.1 entry.2)
      return { s with loop := .idle, iapp.mapRicId := mapRicId }
    | _ => .blocked
  | .nodeAnswer i m => do
    let q ← .ofOption s.toNode[i]?
    Outcome.await (m.answers? = some q.kind ∧ m.ricId = q.ricId)
    let subscribed := if q.kind = .subscription then q.ricId :: s.subscribed else s.subscribed
    return { s with
      toNode := s.toNode.eraseIdx i, subscribed, toRic := s.toRic ++ [m], fromNodes := m :: s.fromNodes }
  | .nodeIndicate m => do
    Outcome.await (m.ricId ∈ s.subscribed)
    return { s with toRic := s.toRic ++ [.indication m], fromNodes := .indication m :: s.fromNodes }
  | .take i => do
    let m ← .ofOption s.toRic[i]?
    let toRic := s.toRic.eraseIdx i
    match m.answers? with
    | some kind =>
      let ev : PendingEventRic := ⟨kind.pendingEvent, m.ricId⟩
      let (fd, pending) ← .ofExcept (stopPendingEvent s.ric.pending ev)
      return { s with
        toRic, ric.pending := pending, workers := .stopping fd m :: s.workers
        outstanding := s.outstanding.eraseP fun e => e.2 = ev }
    | none =>
      Outcome.check (m.ricId.ranFuncId > 0) "Reserved value"
      Outcome.check (m.ricId.ranFuncId ∈ cfg.plugins) "RAN function ID not found in the RAN"
      return { s with toRic, workers := .looking m :: s.workers }
  | .rmFd j =>
    match s.workers[j]? with
    | some (.stopping fd m) => do
      Outcome.check (fd > 0) "*fd > 0"
      Outcome.check (fd ∈ s.ric.asio) "rc != -1"
      Outcome.check (implemented m) "No other case implemented"
      return { s with ric.asio := s.ric.asio.erase fd, workers := s.workers.set j (.looking m) }
    | _ => .blocked
  | .lookup j =>
    match s.workers[j]? with
    | some (.looking m) => do
      Outcome.await (s.loop.writeLocked = false)
      let x ← .ofExcept (findXappMapRicId s.iapp.mapRicId (m.ricId.ricReqId % 65536))
      Outcome.check (m.ricId.ranFuncId = x.ricId.ranFuncId) "src->ric_id.ran_func_id == x.ric_id.ran_func_id"
      Outcome.check (m.ricId.ricInstId = x.ricId.ricInstId) "src->ric_id.ric_inst_id == x.ric_id.ric_inst_id"
      return { s with workers := s.workers.set j (.forwarding m x) }
    | _ => .blocked
  | .forward j =>
    match s.workers[j]? with
    | some (.forwarding m x) => do
      let info ← .ofExcept (findMapXappsSad s.iapp.xapps x.xappId)
      return { s with
        workers := s.workers.eraseIdx j, forwarded := ⟨m, info, answerToXapp x m⟩ :: s.forwarded }
    | _ => .blocked
  | .epoll fds => do
    Outcome.await (s.fetched = [] ∧ fds ≠ [] ∧ fds.length ≤ 64 ∧ fds.Nodup ∧ ∀ fd ∈ fds, fd ∈ s.ric.asio)
    return { s with fetched := fds }
  | .pendEvent =>
    match s.fetched with
    | fd :: rest => do
      let _ ← .ofExcept (Ric.pendEvent s.ric.pending fd)
      return { s with fetched := rest }
    | [] => .blocked

end Routing

/-- The RIC with its iApp. -/
def routing (cfg : Config) : System Routing Act := ⟨Routing.init, Routing.step cfg⟩

end FlexRic.Ric
