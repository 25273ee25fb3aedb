import FlexRic.Ep.Asio
import FlexRic.IApp.Maps
import FlexRic.Lib.System
import FlexRic.XApp.E2Nodes
import FlexRic.XApp.PendingEvents

/-! # How xApps register at the iApp

An xApp sends an E42 setup request when it starts, and again each time the timer of the request expires. The
iApp gives every request that it handles a new identifier and registers the address it came from
(`e42_xapp.c`, `msg_handler_xapp.c`, `e42_iapp.c`, `msg_handler_iapp.c`). -/

namespace FlexRic.XApp
open Ds E2ap Ep IApp MsgHand

/-- The fields of `e42_xapp_t` that the setup uses. `ranFunctions` is what the plug-ins answer, `timers` are the
timers that are armed. -/
structure E42Xapp where
  ranFunctions : List RanFunction
  started : Bool
  pending : PendingEvents
  timers : List Nat
  id : Nat
  nodes : XappNodes

namespace E42Xapp

/-- `init_e42_xapp` -/
def init (ranFunctions : List RanFunction) : E42Xapp := ⟨ranFunctions, false, .init, [], 0, ⟨.init, false⟩⟩

/-- `generate_e42_setup_request` -/
def generateE42SetupRequest (x : E42Xapp) : Except String (List RanFunction) :=
  if x.ranFunctions.length = 0 then .error "No RAN function/service model registered. "
  else .ok x.ranFunctions

/-- `add_pending_event_xapp`, `fd` being the descriptor that the kernel gives to the timer -/
def addPendingEventXapp (x : E42Xapp) (fd : Nat) (ev : PendingEventXapp) : Except String E42Xapp := do
  let pending ← addPendingEvent x.pending fd ev
  return { x with pending, timers := fd :: x.timers }

/-- `rm_pending_event_xapp` -/
def rmPendingEventXapp (x : E42Xapp) (ev : PendingEventXapp) : Except String E42Xapp := do
  let (fd, pending) ← rmPendingEventEv x.pending ev
  let timers ← rmFdAsio x.timers fd
  return { x with pending, timers }

/-- The pending event of the setup request -/
def setupEvent : PendingEventXapp := ⟨.e42SetupRequest, ⟨0, 0, 0⟩, 3000⟩

/-- `e2ap_handle_e42_setup_request_xapp`: the request that is sent -/
def handleE42SetupRequest (x : E42Xapp) (fd : Nat) : Except String (E42Xapp × List RanFunction) := do
  let req ← x.generateE42SetupRequest
  let x ← x.addPendingEventXapp fd setupEvent
  return ({ x with started := true }, req)

/-- `PENDING_EVENT` in `e2_event_loop_xapp`: the request that is sent again -/
def handlePendingEvent (x : E42Xapp) (fd : Nat) : Except String (List RanFunction) :=
  match findPendingEventFd x.pending fd with
  | none => .error "it != end"
  | some ev =>
    match ev.ev with
    | .e42SetupRequest => x.generateE42SetupRequest
    | .e42RicSubscriptionRequest => .error "Timeout waiting for Report. Connection lost with the RIC?"
    | .e42RicSubscriptionDeleteRequest =>
      .error "Timeout waiting for Subscription Delete. Connection lost with the RIC?"
    | .e42RicControlRequest => .error "Timeout waiting for Control ACK. Connection lost with the RIC?"
    | _ => .error "Unforeseen pending event happened!"

/-- `e2ap_handle_e42_setup_response_xapp` -/
def handleE42SetupResponse (x : E42Xapp) (xappId : Nat) (nodes : List E2NodeConnected) : Except String E42Xapp := do
  let registered ← XApp.handleE42SetupResponse x.nodes nodes
  let x ← x.rmPendingEventXapp { setupEvent with waitMs := 0 }
  return { x with id := xappId, nodes := registered }

end E42Xapp

namespace Registration

/-- The address and the port of an xApp, with the family of the address. -/
abbrev Peer := Nat × Nat × Nat

inductive Act
  /-- The xApp starts; `fd` is the timer that the kernel gives it. -/
  | start (p : Peer) (fd : Nat)
  /-- The timer of the xApp expires. -/
  | expire (p : Peer) (fd : Nat)
  /-- The iApp handles the next request of the xApp, registers its address and answers. -/
  | handle (info : SctpInfo)
  /-- The xApp handles the next response. -/
  | read (p : Peer)
  /-- An E2 node joins the iApp's registry. -/
  | addNode (id : GlobalE2NodeId) (ranFunc : List RanFunction)
  /-- An E2 node leaves the iApp's registry. -/
  | rmNode (id : GlobalE2NodeId)
  deriving DecidableEq

end Registration

/-- The iApp with its counter of identifiers and its registries, the xApps, and the messages between them. -/
structure Registration where
  xappId : Nat
  xapps : MapXapps
  e2Nodes : RegE2Nodes
  xapp : Registration.Peer → E42Xapp
  requests : Registration.Peer → List (List RanFunction)
  responses : Registration.Peer → List (Nat × List E2NodeConnected)

namespace Registration

def init (plugins : Peer → List RanFunction) : Registration where
  xappId := 7
  xapps := .init
  e2Nodes := .init
  xapp p := .init (plugins p)
  requests _ := []
  responses _ := []

/-- The state with one xApp's own part changed. -/
def setPeer {α : Type} (f : Peer → α) (p : Peer) (a : α) : Peer → α := fun q => if q = p then a else f q

@[simp] theorem setPeer_self {α : Type} (f : Peer → α) (p : Peer) (a : α) : setPeer f p a p = a := if_pos rfl

theorem setPeer_ne {α : Type} (f : Peer → α) {p q : Peer} (a : α) (h : q ≠ p) : setPeer f p a q = f q := if_neg h

/-- `generate_setup_response` of the iApp -/
def generateSetupResponse (s : Registration) (req : List RanFunction) : Except String (Nat × List E2NodeConnected) :=
  if ¬req.length > 0 then .error "len_rf > 0"
  else .ok (s.xappId % 65536, carried (generateE2NodeArr s.e2Nodes))

def step (s : Registration) : Act → Outcome Registration
  | .start p fd => do
    Outcome.await ((s.xapp p).started = false)
    let (x, req) ← .ofExcept ((s.xapp p).handleE42SetupRequest fd)
    return { s with xapp := setPeer s.xapp p x, requests := setPeer s.requests p (s.requests p ++ [req]) }
  | .expire p fd => do
    Outcome.await (fd ∈ (s.xapp p).timers)
    let req ← .ofExcept ((s.xapp p).handlePendingEvent fd)
    return { s with requests := setPeer s.requests p (s.requests p ++ [req]) }
  | .handle info =>
    match s.requests info.peer with
    | [] => .blocked
    | req :: requests => do
      let (xappId, nodes) ← .ofExcept (s.generateSetupResponse req)
      let xapps ← .ofExcept (addMapXappsSad s.xapps xappId info)
      return { s with
        xappId := (s.xappId + 1) % 2 ^ 32
        xapps
        requests := setPeer s.requests info.peer requests
        responses := setPeer s.responses info.peer (s.responses info.peer ++ [(xappId, nodes)]) }
  | .read p =>
    match s.responses p with
    | [] => .blocked
    | (xappId, nodes) :: responses => do
      let x ← .ofExcept ((s.xapp p).handleE42SetupResponse xappId nodes)
      return { s with xapp := setPeer s.xapp p x, responses := setPeer s.responses p responses }
  | .addNode id ranFunc => do
    let e2Nodes ← .ofExcept (addRegE2Node s.e2Nodes id ranFunc)
    return { s with e2Nodes }
  | .rmNode id => do
    let e2Nodes ← .ofExcept (rmRegE2Node s.e2Nodes id)
    return { s with e2Nodes }

end Registration

/-- The iApp and the xApps, which have these plug-ins. -/
def registration (plugins : Registration.Peer → List RanFunction) : System Registration Registration.Act :=
  ⟨Registration.init plugins, Registration.step⟩

end FlexRic.XApp
