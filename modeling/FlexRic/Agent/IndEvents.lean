import FlexRic.Ds.BiMap
import FlexRic.E2ap.Messages
import FlexRic.Ep.Asio

/-! # The E2 agent's table of subscriptions

A subscription is an indication event of the agent: a timer of its own makes it periodic, and the file
descriptor zero stands for an aperiodic one (`plugin_agent.c`, `ind_event.c`, `msg_handler_agent.c`). -/

namespace FlexRic.Agent
open Ds E2ap

/-! ### `plugin_agent.c` -/

/-- `sm_agent_t`: what `info.id` answers, and whether there is a `free_act_def`. -/
structure SmAgent where
  id : Nat
  hasFreeActDef : Bool
  deriving DecidableEq, Repr

/-- `plugin_ag_t::sm_ds`; `cmp_ran_func_id` compares as `cmp_fd` does. -/
abbrev PluginAg := AssocRbTree fdOrder SmAgent

/-- `load_plugin_ag`, once the library is open -/
def loadPluginAg (p : PluginAg) (sm : SmAgent) : PluginAg := p.insert sm.id sm

/-- `sm_plugin_ag` -/
def smPluginAg (p : PluginAg) (key : Nat) : Except String SmAgent :=
  if ¬0 < key then .error "Reserved value"
  else
    match p.findIf (· == key) with
    | none => .error "RAN function ID not found in the RAN"
    | some (_, sm) => if sm.id = key then .ok sm else .error "sm->info.id() == key"

/-! ### `ind_event.c` -/

/-- `ind_event_t`; the service model is `none` in the keys of searches, and `actDef` is a pointer that only
the service model reads. -/
structure IndEvent where
  ricId : RicGenId
  sm : Option SmAgent
  actionId : Nat
  actDef : Nat
  deriving DecidableEq, Repr

/-- `cmp_ind_event` -/
def cmpIndEvent (m0 m1 : IndEvent) : Int := cmpRicGenId m0.ricId m1.ricId

theorem cmpIndEvent_eq (a b : IndEvent) : cmpIndEvent a b = (Comparator.comap IndEvent.ricId ricGenIdOrder).cmp a b := rfl

def indEventOrder : Comparator IndEvent := Comparator.ofEq _ cmpIndEvent cmpIndEvent_eq

theorem same_indEvent {a b : IndEvent} : indEventOrder.Same a b ↔ a.ricId = b.ricId := by
  simp only [indEventOrder, Comparator.same_ofEq, Comparator.same_comap, same_ricGenId]

/-- `cmp_fd` on the memory of two indication events: they begin with the request identifier. -/
def cmpFdOnIndEvent (m0 m1 : IndEvent) : Int := cmpFd m0.ricId.ricReqId m1.ricId.ricReqId

theorem cmpFdOnIndEvent_eq_zero {a b : IndEvent} :
    cmpFdOnIndEvent a b = 0 ↔ a.ricId.ricReqId = b.ricId.ricReqId := same_fd

/-- `e2_agent_t::ind_event`: the left keys are file descriptors, the right keys subscriptions. -/
abbrev IndEvents := BiMap fdOrder indEventOrder

/-! ### The handlers -/

/-- The fields of `e2_agent_t` that the handlers of subscriptions use; `io` has the file descriptors that
`epoll` watches. -/
structure E2Agent where
  plugin : PluginAg
  io : List Nat
  indEvent : IndEvents

/-- `subscribe_timer_t`, what a service model answers to a subscription -/
structure SubscribeTimer where
  ms : Int
  actDef : Nat
  deriving DecidableEq, Repr

/-- What a delete gives back: the action definition that the service model frees, and the timer closed. -/
structure Released where
  actDef : Option Nat
  fd : Option Nat
  deriving DecidableEq, Repr

/-- `supported_ric_subscription_request`, with the action -/
def supportedRicSubscriptionRequest (sr : RicSubscriptionRequest) : Except String RicAction :=
  match sr.action with
  | [action] => if action.type = .report then .ok action else .error "Only report supported"
  | _ => .error "Only one action supported"

/-- `generate_subscription_response` -/
def generateSubscriptionResponse (ricId : RicGenId) (ricActId : Nat) : RicSubscriptionResponse :=
  ⟨ricId, [ricActId], []⟩

/-- `rm_fd_asio_agent` -/
def rmFdAsioAgent : List Nat → Nat → Except String (List Nat) := Ep.rmFdAsio

namespace E2Agent

/-- An agent with its plug-ins loaded, before the first subscription. -/
def init (plugin : PluginAg) (io : List Nat) : E2Agent := ⟨plugin, io, .init⟩

/-- `e2ap_handle_subscription_request_agent`; `t` is what the service model answers, `fd` the descriptor
that the kernel gives to a new timer. -/
def handleSubscriptionRequest (ag : E2Agent) (sr : RicSubscriptionRequest) (t : SubscribeTimer) (fd : Nat) :
    Except String (E2Agent × RicSubscriptionResponse) := do
  let action ← supportedRicSubscriptionRequest sr
  let sm ← smPluginAg ag.plugin sr.ricId.ranFuncId
  if ¬-2 < t.ms then .error "Bug? 0 = create pipe value"
  else
    let ev : IndEvent := ⟨sr.ricId, some sm, action.id, t.actDef⟩
    let ans := generateSubscriptionResponse sr.ricId action.id
    if 0 < t.ms then
      if ¬t.ms < 10001 then .error "Subscription for granularity larger than 10 seconds requested? "
      else .ok ({ ag with io := fd :: ag.io, indEvent := ag.indEvent.insert fd ev }, ans)
    else if t.ms = 0 then .ok ({ ag with indEvent := ag.indEvent.insert 0 ev }, ans)
    else .error "Unknown subscritpion timer value"

/-- `stop_ind_event` -/
def stopIndEvent (ag : E2Agent) (id : RicGenId) : Except String (E2Agent × Released) :=
  match ag.indEvent.right.findIf (·.ricId == id) with
  | none => .error "it_r != end_r"
  | some (indEv, _) =>
    match indEv.sm with
    | none => .error "ind_ev->sm is NULL"
    | some sm => do
      let actDef := if sm.hasFreeActDef then some indEv.actDef else none
      let (fd, indEvent) ← ag.indEvent.extractRight cmpFdOnIndEvent ⟨id, none, 0, 0⟩
      if fd ≠ 0 then
        let io ← rmFdAsioAgent ag.io fd
        return ({ ag with io, indEvent }, ⟨actDef, some fd⟩)
      else return ({ ag with indEvent }, ⟨actDef, none⟩)

/-- `e2ap_handle_subscription_delete_request_agent` -/
def handleSubscriptionDeleteRequest (ag : E2Agent) (sdr : RicSubscriptionDeleteRequest) :
    Except String (E2Agent × Released × RicSubscriptionDeleteResponse) := do
  let (ag, released) ← ag.stopIndEvent sdr.ricId
  return (ag, released, ⟨sdr.ricId⟩)

end E2Agent

/-! ### One request after the other -/

/-- The requests about subscriptions that the agent handles, with what a service model and the kernel
contribute. -/
inductive SubscriptionEvent
  | request (sr : RicSubscriptionRequest) (t : SubscribeTimer) (fd : Nat)
  | deleteRequest (sdr : RicSubscriptionDeleteRequest)
  deriving DecidableEq, Repr

/-- What comes of a request. -/
inductive SubscriptionAnswer
  | response (m : RicSubscriptionResponse)
  | deleteResponse (released : Released) (m : RicSubscriptionDeleteResponse)
  deriving DecidableEq, Repr

/-- `e2ap_msg_handle_agent` on the requests about subscriptions -/
def E2Agent.handle (ag : E2Agent) : SubscriptionEvent → Except String (E2Agent × SubscriptionAnswer)
  | .request sr t fd => do
    let (ag, ans) ← ag.handleSubscriptionRequest sr t fd
    return (ag, .response ans)
  | .deleteRequest sdr => do
    let (ag, released, ans) ← ag.handleSubscriptionDeleteRequest sdr
    return (ag, .deleteResponse released ans)

end FlexRic.Agent
