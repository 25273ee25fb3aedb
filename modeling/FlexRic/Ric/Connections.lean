import FlexRic.Lib.System
import FlexRic.Ric.E2Nodes
import FlexRic.XApp.E2Nodes

/-! # Nodes and xApps that connect at the same time

The RIC's worker threads handle the setup requests of nodes and its event loop the shutdowns, the event loop
of the iApp handles E42 setup requests, and xApps read what they are sent (`near_ric.c`, `not_handler_ric.c`,
`task_manager.c`, `e42_iapp.c`, `msg_handler_iapp.c`). A step is what one thread does under one lock or on one
socket, and the threads take their steps in any order. The pool starts queued messages in any order too. -/

namespace FlexRic.Ric
open Ds E2ap Ep MsgHand IApp XApp

namespace Connections

/-- Where `e2ap_handle_ric_e2_setup_response_iapp` is. -/
inductive Notice
  /-- `get_num_connected_xapps` comes next. -/
  | counting
  /-- `generate_e2_node_arr` comes next. -/
  | copying (numXapp : Nat)
  /-- The message to the first of the identifiers comes next, or the return. -/
  | sending (newE2Arr : List E2NodeConnected) (xappIds : List Nat)
  deriving DecidableEq

/-- Where a worker thread is with the setup request of a node. -/
inductive Worker
  /-- `add_e2_node_iapp_api` comes next. -/
  | adding (req : E2SetupRequest) (info : SctpInfo)
  /-- The response is generated; the lock of `conn_e2_nodes` comes next. -/
  | connecting (id : GlobalE2NodeId) (ans : E2SetupResponse) (info : SctpInfo)
  /-- The worker has the lock, and notifies the xApps. -/
  | notifying (ans : E2SetupResponse) (info : SctpInfo) (n : Notice)
  /-- `e2ap_send_sctp_msg_ric` comes next. -/
  | responding (ans : E2SetupResponse) (info : SctpInfo)
  deriving DecidableEq

/-- Where the event loop of the RIC is. -/
inductive RicLoop
  | idle
  /-- `conn_e2_nodes` comes next in the handler of a shutdown. -/
  | erasing (id : GlobalE2NodeId)
  /-- `rm_reg_e2_node` comes next. -/
  | removing (id : GlobalE2NodeId)
  | notifying (n : Notice)
  deriving DecidableEq

/-- Where the event loop of the iApp is with an E42 setup request. -/
inductive IappLoop
  | idle
  /-- The response is generated; `e2ap_reg_sock_addr_iapp` comes next. -/
  | registering (xappId : Nat) (info : SctpInfo) (nodes : List E2NodeConnected)
  /-- `e2ap_send_sctp_msg_iapp` comes next. -/
  | responding (xappId : Nat) (info : SctpInfo) (nodes : List E2NodeConnected)
  deriving DecidableEq

/-- A thread that notifies the xApps. -/
inductive Notifier
  | worker (j : Nat)
  | loop
  deriving DecidableEq, Repr

/-- An xApp, and the messages on their way to it. -/
structure Peer where
  inbox : List E42NodesMsg
  nodes : XappNodes

inductive Act
  /-- A setup request is received, and `async_task_manager` queues it. -/
  | setupArrives (req : E2SetupRequest) (info : SctpInfo)
  /-- A shutdown is received, and `e2ap_rm_sock_addr_ric` takes the address out. -/
  | shutdownArrives (info : SctpInfo)
  /-- `notification_handle_ric` erases the node from `conn_e2_nodes`. -/
  | erase
  /-- `rm_reg_e2_node` in `rm_e2_node_iapp` -/
  | remove
  /-- A worker starts the queued message at the index, up to `e2ap_reg_sock_addr_ric`. -/
  | regSockAddr (i : Nat)
  /-- `add_e2_node_iapp_api`, and `generate_setup_response` -/
  | addE2Node (j : Nat)
  /-- The lock of `conn_e2_nodes` is taken, and the node is pushed. -/
  | connect (j : Nat)
  /-- The setup response is sent. -/
  | respond (j : Nat)
  /-- A step of the notification of the xApps -/
  | notify (who : Notifier)
  /-- `e2ap_handle_e42_setup_request_iapp` -/
  | e42Setup (lenRf : Nat) (info : SctpInfo)
  /-- `e2ap_reg_sock_addr_iapp` -/
  | registerXapp
  /-- The E42 setup response is sent. -/
  | respondXapp
  /-- The xApp handles the next message it was sent. -/
  | xappReads (peer : Nat × Nat × Nat)
  deriving DecidableEq

/-- One step of the notification: where it is then, unless it is over, and what it has sent. -/
def Notice.step (r : Registries) (xapps : MapXapps) :
    Notice → Except String (Option Notice × Option (SctpInfo × E42NodesMsg))
  | .counting => .ok (if xapps.size = 0 then none else some (.copying xapps.size), none)
  | .copying numXapp => .ok (some (.sending (generateE2NodeArr r.iappE2Nodes) (List.range' 7 numXapp)), none)
  | .sending newE2Arr (i :: xappIds) => do
    let info ← findMapXappsSad xapps (i % 65536)
    return (some (.sending newE2Arr xappIds), some (info, .updateE2Node (i % 65536) (carried newE2Arr)))
  | .sending _ [] => .ok (none, none)

/-- The worker has the lock of `conn_e2_nodes`. -/
def Worker.locks : Worker → Bool
  | .notifying .. => true
  | _ => false

end Connections

/-- The RIC, its iApp and the xApps, their threads and the messages on their way. The last field keeps the
history: the nodes that have sent a setup request and have not shut down since. -/
structure Connections where
  reg : Registries
  queued : List (E2SetupRequest × SctpInfo)
  workers : List Connections.Worker
  loop : Connections.RicLoop
  xappId : Nat
  xapps : MapXapps
  iappLoop : Connections.IappLoop
  xapp : Nat × Nat × Nat → Connections.Peer
  live : List (GlobalE2NodeId × SctpInfo)

namespace Connections

def init : Connections where
  reg := .init
  queued := []
  workers := []
  loop := .idle
  xappId := 7
  xapps := .init
  iappLoop := .idle
  xapp := fun _ => ⟨[], ⟨.init, false⟩⟩
  live := []

/-- The lock of `conn_e2_nodes` is taken. -/
def connLocked (s : Connections) : Bool := s.workers.any Worker.locks

/-- The message is on its way to the xApp with the address. -/
def send (s : Connections) (info : SctpInfo) (m : E42NodesMsg) : Connections :=
  { s with xapp := fun p =>
      if p = info.peer then { s.xapp p with inbox := (s.xapp p).inbox ++ [m] } else s.xapp p }

/-- Where the thread is with its notification. -/
def notice? (s : Connections) : Notifier → Option Notice
  | .worker j =>
    match s.workers[j]? with
    | some (.notifying _ _ n) => some n
    | _ => none
  | .loop =>
    match s.loop with
    | .notifying n => some n
    | _ => none

/-- The thread goes on with its notification, or it is over: then a worker releases the lock. -/
def setNotice (s : Connections) (n : Option Notice) : Notifier → Connections
  | .worker j =>
    match s.workers[j]? with
    | some (.notifying ans info _) =>
      { s with workers := s.workers.set j (n.elim (.responding ans info) (.notifying ans info)) }
    | _ => s
  | .loop => { s with loop := n.elim .idle .notifying }

def step (plugins : List Nat) (s : Connections) : Act → Outcome Connections
  | .setupArrives req info => do
    Outcome.await (s.loop = .idle)
    return { s with queued := s.queued ++ [(req, info)], live := (req.id, info) :: s.live }
  | .shutdownArrives info => do
    Outcome.await (s.loop = .idle)
    let (id, reg) ← .ofExcept (s.reg.rmSockAddr info)
    return { s with reg, loop := .erasing id, live := s.live.filter fun e => ¬info.SamePeer e.2 }
  | .erase =>
    match s.loop with
    | .erasing id => do
      Outcome.await (s.connLocked = false)
      let reg ← .ofExcept (s.reg.eraseE2Node id)
      return { s with reg, loop := .removing id }
    | _ => .blocked
  | .remove =>
    match s.loop with
    | .removing id => do
      let reg ← .ofExcept (s.reg.rmE2NodeIapp id)
      return { s with reg, loop := .notifying .counting }
    | _ => .blocked
  | .regSockAddr i => do
    let (req, info) ← .ofOption s.queued[i]?
    return { s with
      reg := s.reg.regSockAddr req.id info
      queued := s.queued.eraseIdx i
      workers := .adding req info :: s.workers }
  | .addE2Node j =>
    match s.workers[j]? with
    | some (.adding req info) => do
      let reg ← .ofExcept (s.reg.addE2NodeIapp req)
      let ans ← .ofExcept (generateSetupResponse plugins req)
      return { s with reg, workers := s.workers.set j (.connecting req.id ans info) }
    | _ => .blocked
  | .connect j =>
    match s.workers[j]? with
    | some (.connecting id ans info) => do
      Outcome.await (s.connLocked = false)
      return { s with
        reg.connE2Nodes := s.reg.connE2Nodes ++ [initE2Node id ans.accepted]
        workers := s.workers.set j (.notifying ans info .counting) }
    | _ => .blocked
  | .respond j =>
    match s.workers[j]? with
    | some (.responding ..) => .next { s with workers := s.workers.eraseIdx j }
    | _ => .blocked
  | .notify who =>
    match s.notice? who with
    | some n => do
      let (n, sent) ← .ofExcept (n.step s.reg s.xapps)
      let t := s.setNotice n who
      return sent.elim t fun (info, m) => t.send info m
    | none => .blocked
  | .e42Setup lenRf info => do
    Outcome.await (s.iappLoop = .idle)
    Outcome.check (lenRf > 0) "len_rf > 0"
    return { s with
      iappLoop := .registering (s.xappId % 65536) info (carried (generateE2NodeArr s.reg.iappE2Nodes))
      xappId := (s.xappId + 1) % 2 ^ 32 }
  | .registerXapp =>
    match s.iappLoop with
    | .registering xappId info nodes => do
      let xapps ← .ofExcept (addMapXappsSad s.xapps xappId info)
      return { s with iappLoop := .responding xappId info nodes, xapps }
    | _ => .blocked
  | .respondXapp =>
    match s.iappLoop with
    | .responding xappId info nodes =>
      .next { s.send info (.setupResponse xappId nodes) with iappLoop := .idle }
    | _ => .blocked
  | .xappReads peer =>
    match (s.xapp peer).inbox with
    | m :: inbox => do
      let nodes ← .ofExcept (handleNodes (s.xapp peer).nodes m)
      return { s with xapp := fun p => if p = peer then ⟨inbox, nodes⟩ else s.xapp p }
    | [] => .blocked

end Connections

/-- The RIC with its iApp and the xApps, for the RAN functions that have a plug-in. -/
def connections (plugins : List Nat) : System Connections Connections.Act :=
  ⟨Connections.init, Connections.step plugins⟩

end FlexRic.Ric
