import FlexRic.Agent.IndEvents
import FlexRic.Lib.System

/-! # Aperiodic indications of the E2 agent

Threads of the RAN call `e2_async_event_agent`: they look the subscription up under the lock of the table, push
the indication into the queue and write to the pipe. The event loop learns of the pipe from `epoll`, which is
edge triggered, and sends one indication each time (`e2_agent.c`, `asio_agent.c`, `tsq.c`). -/

namespace FlexRic.Agent
open Ds E2ap

/-- `aind_event_t`; `indData` is a pointer that only the service model reads. -/
structure AindEvent where
  ricId : RicGenId
  sm : Option SmAgent
  actionId : Nat
  indData : Nat
  deriving DecidableEq, Repr

/-- `sm_ind_data_t` -/
structure SmIndData where
  indHdr : List UInt8
  indMsg : List UInt8
  callProcessId : Option (List UInt8)
  deriving DecidableEq, Repr

/-- `generate_aindication`; the type zero is that of a report. -/
def generateAindication (data : SmIndData) (aiEv : AindEvent) : RicIndication where
  ricId := aiEv.ricId
  actionId := aiEv.actionId
  sn := none
  type := 0
  hdr := data.indHdr
  msg := data.indMsg
  callProcessId := data.callProcessId

namespace AsyncEvents

/-- Where a thread of the RAN is in `e2_async_event_agent`. -/
inductive AsyncCall
  /-- The subscription was not there in the first `tries` look-ups. -/
  | looking (ricReqId : UInt32) (indData tries : Nat)
  | pushing (ricReqId : UInt32) (aind : AindEvent)
  | writing (ricReqId : UInt32)
  deriving DecidableEq, Repr

/-- Where the event loop is. -/
inductive AgentLoop
  /-- In `epoll_wait` -/
  | waiting
  /-- The descriptor of the pipe was returned. -/
  | popping
  | sending (aiEv : AindEvent)
  | consuming
  deriving DecidableEq, Repr

/-- What the agent sends to the RIC. -/
inductive AgentMsg
  | subscriptionResponse (m : RicSubscriptionResponse)
  | subscriptionDeleteResponse (m : RicSubscriptionDeleteResponse)
  | indication (m : RicIndication)
  deriving DecidableEq, Repr

inductive Act
  /-- A thread of the RAN calls `e2_async_event_agent`. -/
  | call (ricReqId : UInt32) (indData : Nat)
  /-- One look-up of the call at the index, under the lock -/
  | lookup (i : Nat)
  /-- `push_tsq` -/
  | push (i : Nat)
  /-- `write` to the pipe; the call returns. -/
  | write (i : Nat)
  /-- `epoll_wait` looks at the pipe, which is on its ready list. -/
  | epoll
  /-- `pop_tsq` -/
  | pop
  /-- `on_indication`, and the indication is sent. -/
  | send (data : SmIndData)
  /-- `consume_fd` -/
  | consume
  /-- A message of the RIC about subscriptions is handled and answered. -/
  | message (e : SubscriptionEvent)
  deriving DecidableEq, Repr

/-- `strlen` of the identifier and a newline, as `snprintf` writes them -/
def lineLength (ricReqId : UInt32) : Nat := (Nat.toDigits 10 ricReqId.toNat).length + 1

/-- The capacity of a pipe -/
def pipeCapacity : Nat := 65536

end AsyncEvents

/-- The agent, the queue of aperiodic indications, the pipe with the number of bytes in it, and the threads.
The last three fields keep the history: what was pushed and what was popped, the oldest first, and what was
sent, the newest first. -/
structure AsyncEvents where
  agent : E2Agent
  aind : List AindEvent
  pipe : Nat
  ready : Bool
  loop : AsyncEvents.AgentLoop
  calls : List AsyncEvents.AsyncCall
  pushed : List AindEvent
  popped : List AindEvent
  sent : List AsyncEvents.AgentMsg

namespace AsyncEvents

def init (ag : E2Agent) : AsyncEvents where
  agent := ag
  aind := []
  pipe := 0
  ready := false
  loop := .waiting
  calls := []
  pushed := []
  popped := []
  sent := []

/-- `find_if_rb_tree` with `eq_ind_event_ric_req_id` -/
def findRicReqId (ag : E2Agent) (ricReqId : UInt32) : Option (IndEvent × Nat) :=
  ag.indEvent.right.findIf (·.ricId.ricReqId == ricReqId.toNat)

/-- The message that answers a request. -/
def answer : SubscriptionAnswer → AgentMsg
  | .response m => .subscriptionResponse m
  | .deleteResponse _ m => .subscriptionDeleteResponse m

def step (s : AsyncEvents) : Act → Outcome AsyncEvents
  | .call ricReqId indData => .next { s with calls := s.calls ++ [.looking ricReqId indData 0] }
  | .lookup i =>
    match s.calls[i]? with
    | some (.looking ricReqId indData tries) =>
      match findRicReqId s.agent ricReqId with
      | some (indEv, _) =>
        let aind : AindEvent := ⟨indEv.ricId, indEv.sm, indEv.actionId, indData⟩
        .next { s with calls := s.calls.set i (.pushing ricReqId aind) }
      | none =>
        if tries + 1 < 10 then .next { s with calls := s.calls.set i (.looking ricReqId indData (tries + 1)) }
        else .abort "Not found RIC Request ID"
    | _ => .blocked
  | .push i =>
    match s.calls[i]? with
    | some (.pushing ricReqId aind) =>
      .next { s with
        aind := s.aind ++ [aind]
        calls := s.calls.set i (.writing ricReqId)
        pushed := s.pushed ++ [aind] }
    | _ => .blocked
  | .write i =>
    match s.calls[i]? with
    | some (.writing ricReqId) => do
      let rc := lineLength ricReqId
      Outcome.check (0 < rc ∧ rc < 31) "rc > 0 && rc < num_char -1"
      Outcome.await (s.pipe + rc ≤ pipeCapacity)
      return { s with pipe := s.pipe + rc, ready := true, calls := s.calls.eraseIdx i }
    | _ => .blocked
  | .epoll => do
    Outcome.await (s.loop = .waiting ∧ s.ready = true)
    -- Being on the ready list is not enough: the pipe has to be readable still.
    if 0 < s.pipe then return { s with ready := false, loop := .popping }
    else return { s with ready := false }
  | .pop => do
    Outcome.await (s.loop = .popping)
    match s.aind with
    | [] => .abort "trying to pop from a void queue"
    | aiEv :: aind => return { s with aind, loop := .sending aiEv, popped := s.popped ++ [aiEv] }
  | .send data =>
    match s.loop with
    | .sending aiEv =>
      .next { s with loop := .consuming, sent := .indication (generateAindication data aiEv) :: s.sent }
    | _ => .blocked
  | .consume => do
    Outcome.await (s.loop = .consuming ∧ 0 < s.pipe)
    return { s with pipe := s.pipe - min 8 s.pipe, loop := .waiting }
  | .message e => do
    Outcome.await (s.loop = .waiting)
    let (agent, ans) ← .ofExcept (s.agent.handle e)
    return { s with agent, sent := answer ans :: s.sent }

end AsyncEvents

/-- The agent's event loop and the threads of the RAN. -/
def asyncEvents (ag : E2Agent) : System AsyncEvents AsyncEvents.Act := ⟨AsyncEvents.init ag, AsyncEvents.step⟩

end FlexRic.Agent
