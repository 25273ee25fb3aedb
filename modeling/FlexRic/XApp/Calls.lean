import FlexRic.XApp.ActProcReg
import FlexRic.XApp.Sync

/-! # Runs of synchronous calls (`e42_xapp.c`)

One call after the other, each with its answer, over the registry of the active procedures. The wait for the answer,
and the pending events, are in `XApp.Sync`. -/

namespace FlexRic.XApp
open Ds E2ap

/-- `valid_ran_func_id`: the slice, MAC, RLC, PDCP, TC, GTP, KPM, RC and CCC service models. -/
def validRanFuncId (ranFuncId : Nat) : Bool := [145, 142, 143, 144, 146, 148, 2, 3, 4].contains ranFuncId

/-- The calls of the API, with what the registry and the messages use of their arguments. -/
inductive Call (κ : Type)
  /-- `report_sm_sync_xapp` -/
  | report (id : GlobalE2NodeId) (rfId : Nat) (cb : Option κ)
  /-- `rm_report_sm_sync_xapp` -/
  | rmReport (ricReqId : Int)
  /-- `control_sm_sync_xapp` -/
  | control (id : GlobalE2NodeId) (ranFuncId : Nat)
  /-- `control_sm_raw_sync_xapp` -/
  | controlRaw (id : GlobalE2NodeId) (ranFuncId : Nat) (hdr msg : List UInt8)

/-- Where a call is. -/
inductive CallPc (κ : Type)
  | idle
  /-- The request is sent. -/
  | waiting (c : Call κ) (r : Request)
  /-- The handler of the answer has signalled, with this result of `cond_wait_sync_ui`. -/
  | answered (c : Call κ) (r : Request) (ok : Bool)

/-- The registry, and the call. The last two fields are history: the subscriptions made and not removed, and the
number of requests generated. -/
structure Calls (κ : Type) where
  ui : CallPc κ
  actProc : ActProcReg κ
  subscriptions : List (Nat × ActProcEntry κ)
  generated : Nat

inductive CallAct (κ : Type)
  | call (c : Call κ)
  /-- The event loop handles the answer: an acknowledge or a failure. -/
  | answer (failure : Bool)
  /-- The call goes on after its wait, and returns. -/
  | return_
  /-- The event loop looks up the procedure of an indication. -/
  | indication (ricReqId : Nat)

namespace Calls
variable {κ : Type}

def init : Calls κ := ⟨.idle, .init, [], 0⟩

/-- `generate_ric_gen_id` -/
def generateRicGenId (s : Calls κ) (type : ActProcType) (ranFuncId : Nat) (id : GlobalE2NodeId) (cb : Option κ) :
    Outcome (RicGenId × Calls κ) := do
  Outcome.check (validRanFuncId ranFuncId) "valid_ran_func_id(ran_func_id) == true"
  let (reqId, actProc) ← .ofExcept (s.actProc.addActProc type ⟨0, 0, ranFuncId⟩ id cb)
  Outcome.check (reqId < 65536) "Overflow detected"
  return (⟨reqId, 0, ranFuncId⟩, { s with actProc, generated := s.generated + 1 })

/-- A call up to its wait. -/
def enter (s : Calls κ) (c : Call κ) : Outcome (Calls κ) :=
  match c with
  | .report id rfId cb => do
    let (ricId, s) ← s.generateRicGenId .ricSubscriptionProcedureActive rfId id cb
    return { s with ui := .waiting c ⟨.subscription, ricId⟩ }
  | .rmReport ricReqId => do
    Outcome.check (ricReqId > -1 ∧ ricReqId < 65536) "ric_req_id  > -1 && ric_req_id < 1 << 16"
    let (ans, actProc) ← .ofExcept (s.actProc.findActProc ricReqId.toNat)
    match ans with
    | none => .abort "ric_req_id not registered"
    | some val => return { s with actProc, ui := .waiting c ⟨.subscriptionDelete, val.id⟩ }
  | .control id ranFuncId => do
    let (ricId, s) ← s.generateRicGenId .ricControlProcedureActive ranFuncId id none
    return { s with ui := .waiting c ⟨.control, ricId⟩ }
  | .controlRaw id ranFuncId hdr msg => do
    Outcome.check (validRanFuncId ranFuncId) "valid_ran_func_id(ran_func_id) == true"
    Outcome.check (hdr.length > 0) "hdr.buf != NULL && hdr.len > 0"
    Outcome.check (msg.length > 0) "msg.buf != NULL && msg.len > 0"
    let (ricId, s) ← s.generateRicGenId .ricControlProcedureActive ranFuncId id none
    return { s with ui := .waiting c ⟨.control, ricId⟩ }

/-- The handlers of the answers to a request. -/
def handleAnswer (s : Calls κ) (c : Call κ) (r : Request) (failure : Bool) : Outcome (Calls κ) :=
  match r.kind, failure with
  | .subscription, true | .subscriptionDelete, true => .abort "Not implemented"
  | .control, true => do
    let (_, actProc) ← .ofExcept (s.actProc.findActProc r.id.ricReqId)
    return { s with actProc, ui := .answered c r false }
  | _, false => do
    let (rv, actProc) ← .ofExcept (s.actProc.findActProc r.id.ricReqId)
    Outcome.check rv.isSome "ric_req_id not registered in the registry"
    return { s with actProc, ui := .answered c r true }

/-- A call after its wait: a subscription stays an active procedure. -/
def leave (s : Calls κ) (c : Call κ) (r : Request) : Outcome (Calls κ) :=
  match c with
  | .report id rfId cb =>
    return { s with
      ui := .idle
      subscriptions := s.subscriptions ++
        [(r.id.ricReqId, ⟨.ricSubscriptionProcedureActive, ⟨r.id.ricReqId, 0, rfId⟩, cb, id⟩)] }
  | .rmReport ricReqId => do
    let actProc ← .ofExcept (s.actProc.rmActProc ricReqId.toNat)
    return { s with
      actProc
      ui := .idle
      subscriptions := s.subscriptions.filter (·.1 ≠ ricReqId.toNat) }
  | .control .. | .controlRaw .. => do
    let actProc ← .ofExcept (s.actProc.rmActProc r.id.ricReqId)
    return { s with actProc, ui := .idle }

def step (s : Calls κ) : CallAct κ → Outcome (Calls κ)
  | .call c =>
    match s.ui with
    | .idle => s.enter c
    | _ => .blocked
  | .answer failure =>
    match s.ui with
    | .waiting c r => s.handleAnswer c r failure
    | _ => .blocked
  | .return_ =>
    match s.ui with
    | .answered c r _ => s.leave c r
    | _ => .blocked
  | .indication ricReqId => do
    let (_, actProc) ← .ofExcept (s.actProc.findActProc ricReqId)
    return { s with actProc }

end Calls

/-- The calls of an xApp. -/
def calls (κ : Type) : System (Calls κ) (CallAct κ) := ⟨Calls.init, Calls.step⟩

end FlexRic.XApp
