import FlexRic.Ds.TsnQueue
import FlexRic.XApp.Calls

/-! # Indications on their way to the callbacks and to the database

The event loop looks up the procedure of an indication and pushes to two queues (`msg_handler_xapp.c`); a thread pops
from each of them (`msg_dispatcher_xapp.c`, `db.c`). A step is what a thread does under one lock, one call of a
callback, or one write. The queues are not being closed. -/

namespace FlexRic.XApp
open Ds E2ap

/-- `sm_ag_if_rd_ind_e` -/
inductive SmAgIfRdInd
  | macStatsV0
  | rlcStatsV0
  | pdcpStatsV0
  | sliceStatsV0
  | tcStatsV0
  | gtpStatsV0
  | kpmStatsV30
  | ranCtrlStatsV103
  deriving DecidableEq, Repr

/-- What the service models make of the data that was read: its type, and the assertions of `cp_sm_ag_if_rd`. -/
structure SmAgIfRd (ρ : Type) where
  type : ρ → SmAgIfRdInd
  cp : ρ → Except String Unit

/-- `ric_indication_t`, with the data that `on_indication` of its service model reads from it. -/
structure Indication (ρ : Type) where
  ricReqId : Nat
  rd : ρ

/-- `msg_dispatch_t` -/
structure MsgDispatch (κ ρ : Type) where
  rd : ρ
  e2Node : GlobalE2NodeId
  smCb : Option κ

/-- `e2_node_ag_if_t` -/
structure E2NodeAgIf (ρ : Type) where
  id : GlobalE2NodeId
  rd : ρ

/-- Where the event loop is. -/
inductive IndicationPc (κ ρ : Type)
  | idle
  /-- The procedure is found; `write_db_xapp` comes next. -/
  | found (rd : ρ) (val : ActProcEntry κ)
  /-- `send_msg_dispatcher` comes next. -/
  | sending (rd : ρ) (val : ActProcEntry κ)

/-- Where the worker of the dispatcher is: in `wait_and_pop_tsnq`, or at the call, with `static_msg`. -/
inductive DispatcherPc (κ ρ : Type)
  | popping
  | calling (msg : Option (MsgDispatch κ ρ))

/-- Where the worker of the database is. -/
inductive DatabasePc (ρ : Type)
  /-- `size_tsnq` comes next. -/
  | sizing
  /-- The size is read, and a pop comes next. -/
  | popping (sz : Nat)
  /-- `data` has `sz` elements, of which `i` are written. -/
  | writing (data : List (Option (E2NodeAgIf ρ))) (i sz : Nat)

/-- `msg_dispatcher_xapp_t`, its worker, and the calls it has made. -/
structure MsgDispatcher (κ ρ : Type) where
  q : TsnQueue (MsgDispatch κ ρ)
  pc : DispatcherPc κ ρ
  called : List (MsgDispatch κ ρ)

/-- `db_xapp_t`, its worker with the static arrays, and what was written. -/
structure DbXapp (ρ : Type) where
  q : TsnQueue (E2NodeAgIf ρ)
  pc : DatabasePc ρ
  batch10 : TsnQueue.Batch (E2NodeAgIf ρ)
  batch100 : TsnQueue.Batch (E2NodeAgIf ρ)
  written : List (E2NodeAgIf ρ)

/-- The xApp's calls and its indications. `arrived` is history: the indications by the order of their arrival, each
with the procedure that was active under its identifier. -/
structure Delivery (κ ρ : Type) where
  calls : Calls κ
  loop : IndicationPc κ ρ
  msgDisp : MsgDispatcher κ ρ
  db : DbXapp ρ
  arrived : List (Indication ρ × Option (ActProcEntry κ))

inductive DeliveryAct (κ ρ : Type)
  /-- A step of a call, or of the handler of its answer. -/
  | calls (a : CallAct κ)
  /-- The event loop receives an indication, and looks up its procedure. -/
  | receive (ind : Indication ρ)
  /-- The event loop goes on with the indication. -/
  | loop
  | dispatcher
  | database
  /-- The worker of the dispatcher wakes up with no signal. -/
  | wakeDispatcher
  /-- The worker of the database wakes up with no signal. -/
  | wakeDatabase

/-- The procedure that is active under the identifier. -/
def ActProcReg.procedure {κ : Type} (p : ActProcReg κ) (ricReqId : Nat) : Option (ActProcEntry κ) :=
  (p.active.find? (·.1 = ricReqId)).map Prod.snd

/-- The types that `e2ap_handle_indication_xapp` asserts. -/
def handledTypes : List SmAgIfRdInd :=
  [.macStatsV0, .rlcStatsV0, .pdcpStatsV0, .sliceStatsV0, .kpmStatsV30, .gtpStatsV0, .ranCtrlStatsV103]

namespace MsgDispatcher
variable {κ ρ : Type}

def init : MsgDispatcher κ ρ := ⟨.init, .popping, []⟩

/-- `worker_thread` of the dispatcher -/
def work (d : MsgDispatcher κ ρ) : Outcome (MsgDispatcher κ ρ) :=
  match d.pc with
  | .popping => do
    Outcome.await (d.q.asleep = false)
    let (msg, q) ← .ofExcept (d.q.waitAndPop .ok)
    return { d with q, pc := msg.elim .popping .calling }
  | .calling msg =>
    -- The callback of a zeroed element is `NULL` as well.
    match msg.bind fun m => m.smCb.map fun _ => m with
    | none => .abort "msg->sm_cb"
    | some m => return { d with pc := .popping, called := d.called ++ [m] }

end MsgDispatcher

namespace DbXapp
variable {ρ : Type}

def init : DbXapp ρ := ⟨.init, .sizing, .init 10, .init 100, []⟩

/-- `worker_thread` of the database -/
def work (d : DbXapp ρ) : Outcome (DbXapp ρ) :=
  match d.pc with
  | .sizing => return { d with pc := .popping d.q.r.size }
  | .popping sz =>
    if sz > 100 then do
      let (b, q) ← .ofExcept (d.q.popTsnq100 (TsnQueue.Batch.create 100) { d.batch100 with val := 0 })
      return { d with q, batch100 := b, pc := .writing b.elms 0 100 }
    else if sz > 10 then do
      let (b, q) ← .ofExcept (d.q.popTsnq10 (TsnQueue.Batch.create 10) { d.batch10 with val := 0 })
      return { d with q, batch10 := b, pc := .writing b.elms 0 10 }
    else do
      Outcome.await (d.q.asleep = false)
      let (x, q) ← .ofExcept (d.q.waitAndPop .ok)
      return { d with q, pc := x.elim d.pc fun x => .writing [x] 0 1 }
  | .writing data i sz =>
    if i < sz then
      match data[i]?.bind id with
      | none => .abort "data[i]"
      | some x => return { d with pc := .writing data (i + 1) sz, written := d.written ++ [x] }
    else return { d with pc := .sizing }

end DbXapp

namespace Delivery
variable {κ ρ : Type}

def init : Delivery κ ρ := ⟨.init, .idle, .init, .init, []⟩

/-- `e2ap_handle_indication_xapp` up to its look-up -/
def receive (sm : SmAgIfRd ρ) (s : Delivery κ ρ) (ind : Indication ρ) : Outcome (Delivery κ ρ) := do
  Outcome.check (handledTypes.contains (sm.type ind.rd) = true) "msg_disp.rd.ind.type"
  let (ans, actProc) ← .ofExcept (s.calls.actProc.findActProc ind.ricReqId)
  return { s with
    calls := { s.calls with actProc }
    loop := ans.elim .idle (.found ind.rd)
    arrived := s.arrived ++ [(ind, s.calls.actProc.procedure ind.ricReqId)] }

/-- The rest of `e2ap_handle_indication_xapp`; `enable` says that there is a database. -/
def goOn (sm : SmAgIfRd ρ) (enable : Bool) (s : Delivery κ ρ) : Outcome (Delivery κ ρ) :=
  match s.loop with
  | .idle => .blocked
  | .found rd val =>
    if enable then do
      let _ ← .ofExcept (sm.cp rd)
      return { s with loop := .sending rd val, db := { s.db with q := s.db.q.push ⟨val.e2Node, rd⟩ } }
    else return { s with loop := .sending rd val }
  | .sending rd val =>
    return { s with
      loop := .idle
      msgDisp := { s.msgDisp with q := s.msgDisp.q.push ⟨rd, val.e2Node, val.smCb⟩ } }

def step (sm : SmAgIfRd ρ) (enable : Bool) (s : Delivery κ ρ) : DeliveryAct κ ρ → Outcome (Delivery κ ρ)
  | .calls a =>
    match a, s.loop with
    -- The event loop handles one message after the other, and looks up procedures of indications in `receive`.
    | .indication _, _ | .answer _, .found .. | .answer _, .sending .. => .blocked
    | a, _ => do
      let calls ← s.calls.step a
      return { s with calls }
  | .receive ind =>
    match s.loop with
    | .idle => s.receive sm ind
    | _ => .blocked
  | .loop => s.goOn sm enable
  | .dispatcher => do
    let msgDisp ← s.msgDisp.work
    return { s with msgDisp }
  | .database =>
    if enable then do
      let db ← s.db.work
      return { s with db }
    else .blocked
  | .wakeDispatcher => return { s with msgDisp := { s.msgDisp with q := { s.msgDisp.q with asleep := false } } }
  | .wakeDatabase => return { s with db := { s.db with q := { s.db.q with asleep := false } } }

end Delivery

/-- The xApp with its threads. -/
def delivery (κ : Type) {ρ : Type} (sm : SmAgIfRd ρ) (enable : Bool) : System (Delivery κ ρ) (DeliveryAct κ ρ) :=
  ⟨Delivery.init, Delivery.step sm enable⟩

end FlexRic.XApp
