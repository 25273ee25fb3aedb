import FlexRic.Agent.IndEvents
import FlexRic.E2ap.Setup

/-! # How the E2 agent supervises its setup

A setup request waits for its response under a timer, and is sent again each time the timer expires. When the
association goes down a timer is armed for the next setup request (`e2_agent.c`, `gen_msg_agent.c`,
`not_handler_agent.c`, `msg_handler_agent.c`). -/

namespace FlexRic.Agent
open Ds E2ap

/-- What the plug-ins and the RAN contribute to a setup request. -/
structure RanSetup where
  globalE2NodeId : GlobalE2NodeId
  ranFunctions : List RanFunction
  compConfAdd : NodeComponentConfigAdd
  deriving DecidableEq

/-- `e2_agent_t::pending`: the left keys are file descriptors of timers. -/
abbrev PendingEvents := BiMap fdOrder pendingEventOrder

/-- The fields of `e2_agent_t` that setups use, with the setup requests sent. `timers` are the timers for setups
that are armed. -/
structure SetupAgent where
  ran : RanSetup
  pending : PendingEvents
  timers : List Nat
  transIdSetupReq : Nat
  sent : List E2SetupRequest

/-- `cmp_fd` on two pending events, which are enumeration constants -/
def cmpFdOnPendingEvent (ev1 ev2 : PendingEvent) : Int := cmpFd ev1.value ev2.value

/-- `pend_event` -/
def pendEvent (p : PendingEvents) (fd : Nat) : Except String PendingEvent :=
  if p.size ≠ 1 then .error "bi_map_size(&ag->pending) == 1"
  else
    match p.left.findIf (fd == ·) with
    | none => .error "it != end_it"
    | some (_, ev) => .ok ev

namespace SetupAgent

def init (ran : RanSetup) : SetupAgent := ⟨ran, .init, [], 0, []⟩

/-- `gen_setup_request_v2`, and the request is sent. -/
def sendSetupRequest (ag : SetupAgent) : Except String SetupAgent :=
  if ag.ran.ranFunctions.length = 0 then .error "No RAN function/service model registered. "
  else .ok { ag with
    transIdSetupReq := (ag.transIdSetupReq + 1) % 2 ^ 32
    sent := ag.sent ++ [⟨ag.transIdSetupReq, ag.ran.globalE2NodeId, ag.ran.ranFunctions, [ag.ran.compConfAdd]⟩] }

/-- `create_timer_ms_asio_agent` and `bi_map_insert`, `fd` being the descriptor that the kernel gives -/
def addSetupPending (ag : SetupAgent) (fd : Nat) : SetupAgent :=
  { ag with pending := ag.pending.insert fd .setupRequest, timers := fd :: ag.timers }

/-- `e2_start_agent`, up to the event loop -/
def start (ran : RanSetup) (fd : Nat) : Except String SetupAgent := do
  let ag ← (init ran).sendSetupRequest
  return ag.addSetupPending fd

/-- `notification_handle_ag` -/
def notificationHandle (ag : SetupAgent) (fd : Nat) : SetupAgent := ag.addSetupPending fd

/-- `PENDING_EVENT` in `e2_event_loop_agent` -/
def handlePendingEvent (ag : SetupAgent) (fd : Nat) : Except String SetupAgent := do
  let ev ← pendEvent ag.pending fd
  if ev = .setupRequest then ag.sendSetupRequest
  else .error "Unforeseen pending event happened!"

/-- `stop_pending_event` -/
def stopPendingEvent (ag : SetupAgent) (event : PendingEvent) : Except String SetupAgent := do
  let (fd, pending) ← ag.pending.extractRight cmpFdOnPendingEvent event
  if ¬0 < fd then .error "*fd > 0"
  else
    let timers ← rmFdAsioAgent ag.timers fd
    return { ag with pending, timers }

/-- `e2ap_handle_setup_response_agent` -/
def handleSetupResponse (ag : SetupAgent) : Except String SetupAgent := do
  let ag ← ag.stopPendingEvent .setupRequest
  if ¬0 < ag.transIdSetupReq then
    .error "Receiving an E2 SETUP-RESPONSE, eventhough not E2 SETUP-REQUEST not sent from this E2 Node"
  else return { ag with transIdSetupReq := 0 }

end SetupAgent

/-- What the event loop handles about setups. -/
inductive SetupEvent
  /-- `SCTP_CONNECTION_SHUTDOWN_EVENT`, with the descriptor that the kernel gives to the timer -/
  | shutdown (fd : Nat)
  /-- The timer has expired. -/
  | expiry (fd : Nat)
  /-- An E2 setup response arrives. -/
  | response
  deriving DecidableEq, Repr

/-- The event loop on one event about setups. -/
def SetupAgent.handle (ag : SetupAgent) : SetupEvent → Except String (SetupAgent × Unit)
  | .shutdown fd => .ok (ag.notificationHandle fd, ())
  | .expiry fd => do
    let ag ← ag.handlePendingEvent fd
    return (ag, ())
  | .response => do
    let ag ← ag.handleSetupResponse
    return (ag, ())

end FlexRic.Agent
