import FlexRic.Agent.AsyncEvents

/-! # An agent with its messages

The event loop of the agent handles the requests of the RIC, and sends indications: periodic ones when the timer
of a subscription expires, aperiodic ones from the queue (`e2_agent.c`, `msg_handler_agent.c`). The queue and
its threads are in `Agent.AsyncEvents`. -/

namespace FlexRic.Agent
open Ds E2ap

/-- `generate_indication` -/
def generateIndication (data : SmIndData) (iEv : IndEvent) : RicIndication where
  ricId := iEv.ricId
  actionId := iEv.actionId
  sn := none
  type := 0
  hdr := data.indHdr
  msg := data.indMsg
  callProcessId := data.callProcessId

/-- `ba_from_ctrl_out` -/
def baFromCtrlOut (data : List UInt8) : Option (List UInt8) := if data.length > 0 then some data else none

/-- What the service model and the kernel contribute to the answer to a request: the timer of a subscription with
the descriptor that it is given, or the outcome of a control request. -/
structure SmAnswer where
  timer : SubscribeTimer
  fd : Nat
  ctrlOut : List UInt8
  deriving DecidableEq, Repr

/-- What is given to an agent: its plug-ins, the descriptors of its socket and its pipe, and what the decoder makes
of the event trigger and the actions in a request. -/
structure Setting where
  plugin : PluginAg
  io : List Nat
  actions : List UInt8 → List UInt8 × List RicAction

/-- An agent, and all the messages that it has sent, the newest first. -/
structure Process where
  async : AsyncEvents
  sent : List NodeMsg

namespace Process

def init (cfg : Setting) : Process := ⟨.init (.init cfg.plugin cfg.io), []⟩

/-- The message as the RIC receives it. -/
def nodeMsg : AsyncEvents.AgentMsg → NodeMsg
  | .subscriptionResponse m => .subscriptionResponse m
  | .subscriptionDeleteResponse m => .subscriptionDeleteResponse m
  | .indication m => .indication m

/-- A step of the event loop that ends with a message. -/
def stepSending (s : Process) (a : AsyncEvents.Act) : Outcome (Process × NodeMsg) := do
  let async ← s.async.step a
  let m ← .ofOption async.sent.head?
  return (⟨async, nodeMsg m :: s.sent⟩, nodeMsg m)

/-- `e2ap_handle_control_request_agent`; the requests that reach an agent all ask for an acknowledge. -/
def handleControlRequest (s : Process) (ricId : RicGenId) (ctrlOut : List UInt8) : Outcome (Process × NodeMsg) := do
  Outcome.await (s.async.loop = .waiting)
  let _ ← .ofExcept (smPluginAg s.async.agent.plugin ricId.ranFuncId)
  let m : NodeMsg := .controlAcknowledge ⟨ricId, none, baFromCtrlOut ctrlOut⟩
  return ({ s with sent := m :: s.sent }, m)

/-- The request about a subscription, as it was decoded. -/
def subscriptionEvent (cfg : Setting) (q : NodeRequest) (ans : SmAnswer) : SubscriptionEvent :=
  if q.kind = .subscription then
    let (eventTrigger, action) := cfg.actions q.body
    .request ⟨q.ricId, eventTrigger, action⟩ ans.timer ans.fd
  else .deleteRequest ⟨q.ricId⟩

/-- `e2ap_msg_handle_agent` on a request of the RIC, and the answer -/
def handle (cfg : Setting) (s : Process) (q : NodeRequest) (ans : SmAnswer) : Outcome (Process × NodeMsg) :=
  match q.kind with
  | .control => s.handleControlRequest q.ricId ans.ctrlOut
  | .subscription | .subscriptionDelete => s.stepSending (.message (subscriptionEvent cfg q ans))

/-- `APERIODIC_INDICATION_EVENT`, once the event is popped -/
def sendAperiodic (s : Process) (data : SmIndData) : Outcome (Process × NodeMsg) := s.stepSending (.send data)

/-- `INDICATION_EVENT`: the timer of a subscription has expired. -/
def sendPeriodic (cfg : Setting) (s : Process) (fd : Nat) (data : SmIndData) : Outcome (Process × NodeMsg) := do
  Outcome.await (s.async.loop = .waiting ∧ 0 < fd ∧ fd ∈ s.async.agent.io ∧ fd ∉ cfg.io)
  match s.async.agent.indEvent.left.findIf (fd == ·) with
  | none => .abort "bi_map_size(&ag->pending) == 1"
  | some (_, iEv) => do
    Outcome.check iEv.sm.isSome "i_ev->sm"
    let m : NodeMsg := .indication (generateIndication data iEv)
    return ({ s with sent := m :: s.sent }, m)

/-- A step of a thread of the RAN, or of the event loop, that sends no message. -/
def step (s : Process) : AsyncEvents.Act → Outcome Process
  | .send _ | .message _ => .blocked
  | a => do
    let async ← s.async.step a
    return { s with async }

end Process

end FlexRic.Agent
