import Mathlib.Logic.Function.Basic
import FlexRic.Agent.Process
import FlexRic.Ric.Routing
import FlexRic.XApp.Process

/-! # xApps, the RIC with its iApp, and E2 nodes

All the processes and the messages between them. A step is a step of one process: of one thread under one lock, or on
one socket. Messages of different xApps and nodes overtake each other, and for what is shown here those of one xApp or
node may do so as well. The nodes that are connected stay the same, and every xApp is started once. -/

namespace FlexRic.Net
open Agent Ds E2ap Ep Ric XApp

/-- What is given to the processes: the nodes and the service models of the RIC, the addresses of the xApps, what
they have loaded and whether they have a database, and what is given to the agents. -/
structure Config (ι ρ : Type) where
  ric : Ric.Config
  addr : ι → SctpInfo
  plugins : Plugins ρ
  enable : Bool
  agent : GlobalE2NodeId → Setting

/-- The processes, and the messages between the xApps and the iApp with the address of the xApp. The messages between
the RIC and the nodes are in `Routing`. -/
structure Network (ι κ ρ : Type) where
  ric : Routing
  xapps : ι → XApp.Process κ ρ
  agents : GlobalE2NodeId → Agent.Process
  toIapp : List (SctpInfo × E42Msg)
  toXapp : List (SctpInfo × XappMsg)

inductive Act (ι κ : Type)
  /-- An xApp that is not connected sends its setup request, again when the timer expires. -/
  | setup (x : ι) (lenRf : Nat)
  /-- A step of an xApp that neither sends nor receives -/
  | xapp (x : ι) (a : ProcessAct κ)
  /-- An xApp sends the request of its call. -/
  | xappSend (x : ι)
  /-- An xApp receives the message at the index. -/
  | xappReceive (x : ι) (i : Nat)
  /-- The iApp receives the message at the index. -/
  | iappReceive (i : Nat)
  /-- Another step of the RIC, its workers, and the iApp -/
  | ric (a : Ric.Act)
  /-- A step of an agent that neither sends nor receives -/
  | agent (n : GlobalE2NodeId) (a : AsyncEvents.Act)
  | agentAperiodic (n : GlobalE2NodeId) (data : SmIndData)
  | agentPeriodic (n : GlobalE2NodeId) (fd : Nat) (data : SmIndData)
  /-- An agent receives the request at the index, and answers it. -/
  | agentReceive (n : GlobalE2NodeId) (i : Nat) (ans : SmAnswer)

namespace Network
variable {ι κ ρ : Type} [DecidableEq ι]

def init (cfg : Config ι ρ) : Network ι κ ρ where
  ric := .init
  xapps _ := .init
  agents n := .init (cfg.agent n)
  toIapp := []
  toXapp := []

/-- The message of an agent is on its way to the RIC. -/
def fromNode (ric : Routing) (m : NodeMsg) : Routing :=
  { ric with toRic := ric.toRic ++ [m], fromNodes := m :: ric.fromNodes }

/-- The agent has taken the request at the index, and answers it. The history has the identifiers of the
subscriptions. -/
def answered (ric : Routing) (i : Nat) (q : NodeRequest) (m : NodeMsg) : Routing :=
  let subscribed := if q.kind = .subscription then q.ricId :: ric.subscribed else ric.subscribed
  fromNode { ric with toNode := ric.toNode.eraseIdx i, subscribed } m

/-- The step of the iApp's loop that a message of an xApp leads to -/
def received (info : SctpInfo) : E42Msg → Ric.Act
  | .setupRequest lenRf => .e42Setup lenRf info
  | .request req => .e42Request req info
  | .deleteRequest req => .e42Delete req

def step (cfg : Config ι ρ) (s : Network ι κ ρ) : Act ι κ → Outcome (Network ι κ ρ)
  | .setup x lenRf => do
    Outcome.await ((s.xapps x).id = none)
    return { s with toIapp := s.toIapp ++ [(cfg.addr x, .setupRequest lenRf)] }
  | .xapp x a => do
    let p ← (s.xapps x).step cfg.plugins.agIf cfg.enable a
    return { s with xapps := Function.update s.xapps x p }
  | .xappSend x => do
    let (p, msg) ← (s.xapps x).send
    return { s with xapps := Function.update s.xapps x p, toIapp := s.toIapp ++ [(cfg.addr x, msg)] }
  | .xappReceive x i => do
    let (info, msg) ← .ofOption s.toXapp[i]?
    Outcome.await (info.SamePeer (cfg.addr x))
    let p ← (s.xapps x).handle cfg.plugins cfg.enable msg
    return { s with xapps := Function.update s.xapps x p, toXapp := s.toXapp.eraseIdx i }
  | .iappReceive i => do
    let (info, msg) ← .ofOption s.toIapp[i]?
    let ric ← s.ric.step cfg.ric (received info msg)
    return { s with ric, toIapp := s.toIapp.eraseIdx i }
  | .ric a =>
    match a with
    -- These steps come with a message, and have an action of their own.
    | .e42Setup .. | .e42Request .. | .e42Delete _ | .nodeAnswer .. | .nodeIndicate _ => .blocked
    | .register =>
      match s.ric.loop with
      | .registering xappId info => do
        let ric ← s.ric.step cfg.ric .register
        return { s with ric, toXapp := s.toXapp ++ [(info, .setupResponse xappId)] }
      | _ => .blocked
    | .forward j => do
      let ric ← s.ric.step cfg.ric (.forward j)
      let f ← .ofOption ric.forwarded.head?
      return { s with ric, toXapp := s.toXapp ++ [(f.info, .node f.sent)] }
    | a => do
      let ric ← s.ric.step cfg.ric a
      return { s with ric }
  | .agent n a => do
    let p ← (s.agents n).step a
    return { s with agents := Function.update s.agents n p }
  | .agentAperiodic n data => do
    let (p, m) ← (s.agents n).sendAperiodic data
    return { s with agents := Function.update s.agents n p, ric := fromNode s.ric m }
  | .agentPeriodic n fd data => do
    let (p, m) ← (s.agents n).sendPeriodic (cfg.agent n) fd data
    return { s with agents := Function.update s.agents n p, ric := fromNode s.ric m }
  | .agentReceive n i ans => do
    let q ← .ofOption s.ric.toNode[i]?
    Outcome.await (q.e2NodeId = n)
    let (p, m) ← (s.agents n).handle (cfg.agent n) q ans
    return { s with agents := Function.update s.agents n p, ric := answered s.ric i q m }

end Network

/-- The xApps, the RIC with its iApp, and the agents of the nodes. -/
def network {ι : Type} [DecidableEq ι] (κ : Type) {ρ : Type} (cfg : Config ι ρ) : System (Network ι κ ρ) (Act ι κ) :=
  ⟨Network.init cfg, Network.step cfg⟩

end FlexRic.Net
