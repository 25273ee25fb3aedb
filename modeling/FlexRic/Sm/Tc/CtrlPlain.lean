import FlexRic.Sm.Tc.Types

/-! # The plain codec of traffic control commands

`tc_enc_plain.c` and `tc_dec_plain.c`, the functions of `tc_enc_ctrl_msg_plain` and `tc_dec_ctrl_msg_plain`: a
message names a component, an action on it, and what the action takes. -/

namespace FlexRic.Sm.Tc
open Plain

section Actions
variable {α δ μ : Type}

/-- The size of an action: that of `act` and of what the action takes. -/
def calTcCtrlPayloadAct (add : α → Nat) (del : δ → Nat) (mod : μ → Nat) : TcCtrl α δ μ → Nat
  | .add a => sizeofEnum + add a
  | .del d => sizeofEnum + del d
  | .mod m => sizeofEnum + mod m

def encTcCtrlPayloadAct (add : α → Bytes) (del : δ → Bytes) (mod : μ → Bytes) : TcCtrl α δ μ → Bytes
  | .add a => putEnum TcCtrlActE.add ++ add a
  | .del d => putEnum TcCtrlActE.del ++ del d
  | .mod m => putEnum TcCtrlActE.mod ++ mod m

def decTcCtrlPayloadAct (add : Reader α) (del : Reader δ) (mod : Reader μ) (msg : String) : Reader (TcCtrl α δ μ) := do
  match ← fetchEnum TcCtrlActE msg with
  | .add => return .add (← add)
  | .del => return .del (← del)
  | .mod => return .mod (← mod)

end Actions

/-! ### Sizes -/

def calTcAddCtrlPayloadClsOsi (_ : TcAddClsOsi) : Nat :=
  sizeofL3Filter + sizeofL4Filter + sizeofL7Filter + sizeof Int32

def calTcAddCtrlPayloadCls : TcAddCtrlCls → Nat
  | .rr _ => sizeofEnum + sizeof UInt32
  | .osi osi => sizeofEnum + calTcAddCtrlPayloadClsOsi osi
  | .sto _ => sizeofEnum + sizeof UInt32

def calTcModCtrlPayloadCls : TcModCtrlCls → Nat
  | .rr _ => sizeofEnum + sizeof UInt32
  | .osi _ => sizeofEnum + sizeofClsOsiFilter
  | .sto _ => sizeofEnum + sizeof UInt32

def calTcDelCtrlPayloadCls : TcDelCtrlCls → Nat
  | .rr _ => sizeofEnum + sizeof UInt32
  | .osi _ => sizeofEnum + sizeof UInt32
  | .sto _ => sizeofEnum + sizeof UInt32

def calTcCtrlPayloadCls (cls : TcCtrlCls) : Nat :=
  calTcCtrlPayloadAct calTcAddCtrlPayloadCls calTcDelCtrlPayloadCls calTcModCtrlPayloadCls cls

def calTcModCtrlPayloadPlc (_ : TcModCtrlPlc) : Nat :=
  sizeof UInt32 + sizeof UInt32 + sizeof UInt32 + sizeof UInt32 + sizeof UInt32

def calTcCtrlPayloadPlc (plc : TcCtrlPlc) : Nat :=
  calTcCtrlPayloadAct (fun _ => sizeof UInt32) (fun _ => sizeof UInt32) calTcModCtrlPayloadPlc plc

def calTcCtrlPayloadQCodel (_ : TcCtrlQueueCodel) : Nat := sizeof UInt32 + sizeof UInt32

def calTcCtrlPayloadQU : TcCtrlQueueU → Nat
  | .fifo _ => sizeof UInt32
  | .codel codel => calTcCtrlPayloadQCodel codel
  | .ecn ecn => calTcCtrlPayloadQCodel ecn

def calTcCtrlPayloadQAdd (add : TcAddCtrlQueue) : Nat := sizeofEnum + calTcCtrlPayloadQU add

def calTcCtrlPayloadQMod (mod : TcModCtrlQueue) : Nat := sizeof UInt32 + sizeofEnum + calTcCtrlPayloadQU mod.u

def calTcCtrlPayloadQDel (_ : TcDelCtrlQueue) : Nat := sizeof UInt32 + sizeofEnum

def calTcCtrlPayloadQ (q : TcCtrlQueue) : Nat :=
  calTcCtrlPayloadAct calTcCtrlPayloadQAdd calTcCtrlPayloadQDel calTcCtrlPayloadQMod q

def calTcCtrlPayloadSchMod : TcModCtrlSch → Nat
  | .rr _ => sizeofEnum + sizeof UInt32
  | .prio qPrio => sizeofEnum + (sizeof UInt32 + qPrio.items.length * sizeof UInt32)

def calTcCtrlPayloadSch (sch : TcCtrlSch) : Nat :=
  calTcCtrlPayloadAct (fun _ => sizeof UInt32) (fun _ => sizeof UInt32) calTcCtrlPayloadSchMod sch

def calTcCtrlPayloadShpMod (_ : TcModCtrlShp) : Nat := sizeof UInt32 + sizeof UInt32 + sizeof UInt32 + sizeof UInt32

def calTcCtrlPayloadShp (shp : TcCtrlShp) : Nat :=
  calTcCtrlPayloadAct (fun _ => sizeof UInt32) (fun _ => sizeof UInt32) calTcCtrlPayloadShpMod shp

def calTcCtrlPayloadPcrMod : TcModCtrlPcr → Nat
  | .dummy _ => sizeofEnum + sizeof UInt32
  | .bdp _ => sizeofEnum + (sizeof UInt32 + sizeof Int64)

def calTcCtrlPayloadPcr (pcr : TcCtrlPcr) : Nat :=
  calTcCtrlPayloadAct (fun _ => sizeof UInt32) (fun _ => sizeof UInt32) calTcCtrlPayloadPcrMod pcr

def calTcCtrlPayload : TcCtrlMsg → Nat
  | .cls cls => sizeofEnum + calTcCtrlPayloadCls cls
  | .plc plc => sizeofEnum + calTcCtrlPayloadPlc plc
  | .q q => sizeofEnum + calTcCtrlPayloadQ q
  | .sch sch => sizeofEnum + calTcCtrlPayloadSch sch
  | .shp shp => sizeofEnum + calTcCtrlPayloadShp shp
  | .pcr pcr => sizeofEnum + calTcCtrlPayloadPcr pcr

/-! ### Encoding -/

/-- The filter of layer 7 is not written. -/
def encTcAddCtrlPayloadClsOsi (osi : TcAddClsOsi) : Bytes :=
  put osi.l3.srcAddr ++ put osi.l3.dstAddr ++ put osi.l4.srcPort ++ put osi.l4.dstPort ++ put osi.l4.protocol ++
    put osi.dstQueue

def encTcAddCtrlPayloadCls : TcAddCtrlCls → Bytes
  | .rr dummy => putEnum TcClsE.rr ++ put dummy
  | .osi osi => putEnum TcClsE.osi ++ encTcAddCtrlPayloadClsOsi osi
  | .sto dummy => putEnum TcClsE.sto ++ put dummy

def encTcModCtrlPayloadCls : TcModCtrlCls → Bytes
  | .rr dummy => putEnum TcClsE.rr ++ put dummy
  | .osi filter => putEnum TcClsE.osi ++ putClsOsiFilter filter
  | .sto dummy => putEnum TcClsE.sto ++ put dummy

def encTcDelCtrlPayloadCls : TcDelCtrlCls → Bytes
  | .rr dummy => putEnum TcClsE.rr ++ put dummy
  | .osi filterId => putEnum TcClsE.osi ++ put filterId
  | .sto dummy => putEnum TcClsE.sto ++ put dummy

def encTcCtrlPayloadCls (cls : TcCtrlCls) : Bytes :=
  encTcCtrlPayloadAct encTcAddCtrlPayloadCls encTcDelCtrlPayloadCls encTcModCtrlPayloadCls cls

def encTcModCtrlPayloadPlc (mod : TcModCtrlPlc) : Bytes :=
  put mod.id ++ put mod.dropRateKbps ++ put mod.devId ++ put mod.devRateKbps ++ put mod.active

def encTcCtrlPayloadPlc (plc : TcCtrlPlc) : Bytes :=
  encTcCtrlPayloadAct (fun add => put add.dummy) (fun del => put del.id) encTcModCtrlPayloadPlc plc

def encTcCtrlPayloadQCodel (codel : TcCtrlQueueCodel) : Bytes := put codel.targetMs ++ put codel.intervalMs

def encTcCtrlPayloadQU : TcCtrlQueueU → Bytes
  | .fifo dummy => putEnum TcQueueE.fifo ++ put dummy
  | .codel codel => putEnum TcQueueE.codel ++ encTcCtrlPayloadQCodel codel
  | .ecn ecn => putEnum TcQueueE.ecnCodel ++ encTcCtrlPayloadQCodel ecn

def encTcAddCtrlPayloadQ (add : TcAddCtrlQueue) : Bytes := encTcCtrlPayloadQU add

def encTcModCtrlPayloadQ (mod : TcModCtrlQueue) : Bytes := put mod.id ++ encTcCtrlPayloadQU mod.u

def encTcDelCtrlPayloadQ (del : TcDelCtrlQueue) : Bytes := put del.id ++ put del.type

def encTcCtrlPayloadQ (q : TcCtrlQueue) : Bytes :=
  encTcCtrlPayloadAct encTcAddCtrlPayloadQ encTcDelCtrlPayloadQ encTcModCtrlPayloadQ q

def encTcModCtrlPayloadSch : TcModCtrlSch → Bytes
  | .rr dummy => putEnum TcSchE.rr ++ put dummy
  | .prio qPrio => putEnum TcSchE.prio ++ (put qPrio.len ++ qPrio.items.flatMap put)

def encTcCtrlPayloadSch (sch : TcCtrlSch) : Bytes :=
  encTcCtrlPayloadAct (fun add => put add.dummy) (fun del => put del.dummy) encTcModCtrlPayloadSch sch

def encTcModCtrlPayloadShp (mod : TcModCtrlShp) : Bytes :=
  put mod.id ++ put mod.timeWindowMs ++ put mod.maxRateKbps ++ put mod.active

def encTcCtrlPayloadShp (shp : TcCtrlShp) : Bytes :=
  encTcCtrlPayloadAct (fun add => put add.dummy) (fun del => put del.id) encTcModCtrlPayloadShp shp

def encTcModCtrlPayloadPcr : TcModCtrlPcr → Bytes
  | .dummy dummy => putEnum TcPcrE.dummy ++ put dummy
  | .bdp bdp => putEnum TcPcrE.bdp5g ++ (put bdp.drbSz ++ put bdp.tstamp)

def encTcCtrlPayloadPcr (pcr : TcCtrlPcr) : Bytes :=
  encTcCtrlPayloadAct (fun add => put add.dummy) (fun del => put del.dummy) encTcModCtrlPayloadPcr pcr

/-- What `tc_enc_ctrl_msg_plain` writes. -/
def encTcCtrlPayload : TcCtrlMsg → Bytes
  | .cls cls => putEnum TcCtrlMsgE.cls ++ encTcCtrlPayloadCls cls
  | .plc plc => putEnum TcCtrlMsgE.plc ++ encTcCtrlPayloadPlc plc
  | .q q => putEnum TcCtrlMsgE.queue ++ encTcCtrlPayloadQ q
  | .sch sch => putEnum TcCtrlMsgE.sch ++ encTcCtrlPayloadSch sch
  | .shp shp => putEnum TcCtrlMsgE.shp ++ encTcCtrlPayloadShp shp
  | .pcr pcr => putEnum TcCtrlMsgE.pcr ++ encTcCtrlPayloadPcr pcr

def tcEncCtrlMsgPlain (ctrlMsg : TcCtrlMsg) : Except String Bytes := do
  let sz := calTcCtrlPayload ctrlMsg
  let it := encTcCtrlPayload ctrlMsg
  require (it.length = sz) "it == ba.buf + ba.len"
  return it

/-! ### Decoding -/

/-- The filter of layer 7 keeps the zero that the message is initialised with. -/
def decTcAddCtrlPayloadClsOsi : Reader TcAddClsOsi := do
  let srcAddr ← fetch Int64
  let dstAddr ← fetch Int64
  let srcPort ← fetch Int32
  let dstPort ← fetch Int32
  let protocol ← fetch Int32
  let dstQueue ← fetch Int32
  return ⟨⟨srcAddr, dstAddr⟩, ⟨srcPort, dstPort, protocol⟩, ⟨0⟩, dstQueue⟩

def decTcAddCtrlPayloadCls : Reader TcAddCtrlCls := do
  match ← fetchEnum TcClsE "Unknown classifier type" with
  | .rr => return .rr (← fetch UInt32)
  | .osi => return .osi (← decTcAddCtrlPayloadClsOsi)
  | .sto => return .sto (← fetch UInt32)

def decTcDelCtrlPayloadCls : Reader TcDelCtrlCls := do
  match ← fetchEnum TcClsE "Unknown classifier type" with
  | .rr => return .rr (← fetch UInt32)
  | .osi => return .osi (← fetch UInt32)
  | .sto => return .sto (← fetch UInt32)

def decTcModCtrlPayloadCls : Reader TcModCtrlCls := do
  match ← fetchEnum TcClsE "Unknown classifier type" with
  | .rr => return .rr (← fetch UInt32)
  | .osi => return .osi (← fetchClsOsiFilter)
  | .sto => return .sto (← fetch UInt32)

def decTcCtrlPayloadCls : Reader TcCtrlCls :=
  decTcCtrlPayloadAct decTcAddCtrlPayloadCls decTcDelCtrlPayloadCls decTcModCtrlPayloadCls "Unknown action type"

def decTcAddCtrlPayloadPlc : Reader TcAddCtrlPlc := return ⟨← fetch UInt32⟩

def decTcDelCtrlPayloadPlc : Reader TcDelCtrlPlc := return ⟨← fetch UInt32⟩

def decTcModCtrlPayloadPlc : Reader TcModCtrlPlc := do
  let id ← fetch UInt32
  let dropRateKbps ← fetch UInt32
  let devId ← fetch UInt32
  let devRateKbps ← fetch UInt32
  let active ← fetch UInt32
  return ⟨id, dropRateKbps, devId, devRateKbps, active⟩

def decTcCtrlPayloadPlc : Reader TcCtrlPlc :=
  decTcCtrlPayloadAct decTcAddCtrlPayloadPlc decTcDelCtrlPayloadPlc decTcModCtrlPayloadPlc "Unknown action type "

def decTcCtrlPayloadQCodel : Reader TcCtrlQueueCodel := do
  let targetMs ← fetch UInt32
  let intervalMs ← fetch UInt32
  return ⟨targetMs, intervalMs⟩

def decTcCtrlPayloadQU : Reader TcCtrlQueueU := do
  match ← fetchEnum TcQueueE "Unknown type" with
  | .fifo => return .fifo (← fetch UInt32)
  | .codel => return .codel (← decTcCtrlPayloadQCodel)
  | .ecnCodel => return .ecn (← decTcCtrlPayloadQCodel)

def decTcAddCtrlPayloadQ : Reader TcAddCtrlQueue := decTcCtrlPayloadQU

def decTcDelCtrlPayloadQ : Reader TcDelCtrlQueue := do
  let id ← fetch UInt32
  let type ← fetch UInt32
  return ⟨id, type⟩

def decTcModCtrlPayloadQ : Reader TcModCtrlQueue := do
  let id ← fetch UInt32
  let u ← decTcCtrlPayloadQU
  return ⟨id, u⟩

def decTcCtrlPayloadQ : Reader TcCtrlQueue :=
  decTcCtrlPayloadAct decTcAddCtrlPayloadQ decTcDelCtrlPayloadQ decTcModCtrlPayloadQ "Unknown action"

def decTcAddCtrlPayloadSch : Reader TcAddCtrlSch := return ⟨← fetch UInt32⟩

def decTcDelCtrlPayloadSch : Reader TcDelCtrlSch := return ⟨← fetch UInt32⟩

def decTcModCtrlPayloadSch (calloc : Calloc) : Reader TcModCtrlSch := do
  match ← fetchEnum TcSchE "Unknown scheduler type" with
  | .rr => return .rr (← fetch UInt32)
  | .prio => return .prio (← fetchAllocated calloc (sizeof UInt32) (fetch UInt32))

def decTcCtrlPayloadSch (calloc : Calloc) : Reader TcCtrlSch :=
  decTcCtrlPayloadAct decTcAddCtrlPayloadSch decTcDelCtrlPayloadSch (decTcModCtrlPayloadSch calloc)
    "Unknown scheduler action"

def decTcAddCtrlPayloadShp : Reader TcAddCtrlShp := return ⟨← fetch UInt32⟩

def decTcDelCtrlPayloadShp : Reader TcDelCtrlShp := return ⟨← fetch UInt32⟩

def decTcModCtrlPayloadShp : Reader TcModCtrlShp := do
  let id ← fetch UInt32
  let timeWindowMs ← fetch UInt32
  let maxRateKbps ← fetch UInt32
  let active ← fetch UInt32
  return ⟨id, timeWindowMs, maxRateKbps, active⟩

def decTcCtrlPayloadShp : Reader TcCtrlShp :=
  decTcCtrlPayloadAct decTcAddCtrlPayloadShp decTcDelCtrlPayloadShp decTcModCtrlPayloadShp "Unknown shaper type"

def decTcAddCtrlPayloadPcr : Reader TcAddCtrlPcr := return ⟨← fetch UInt32⟩

def decTcDelCtrlPayloadPcr : Reader TcDelCtrlPcr := return ⟨← fetch UInt32⟩

def decTcModCtrlPayloadPcr : Reader TcModCtrlPcr := do
  match ← fetchEnum TcPcrE "unknown pacer type" with
  | .dummy => return .dummy (← fetch UInt32)
  | .bdp5g => do
    let drbSz ← fetch UInt32
    let tstamp ← fetch Int64
    return .bdp ⟨drbSz, tstamp⟩

def decTcCtrlPayloadPcr : Reader TcCtrlPcr :=
  decTcCtrlPayloadAct decTcAddCtrlPayloadPcr decTcDelCtrlPayloadPcr decTcModCtrlPayloadPcr "Unknown pacer action"

def decTcCtrlPayload (calloc : Calloc) : Reader TcCtrlMsg := do
  match ← fetchEnum TcCtrlMsgE "Unknown type" with
  | .cls => return .cls (← decTcCtrlPayloadCls)
  | .plc => return .plc (← decTcCtrlPayloadPlc)
  | .queue => return .q (← decTcCtrlPayloadQ)
  | .sch => return .sch (← decTcCtrlPayloadSch calloc)
  | .shp => return .shp (← decTcCtrlPayloadShp)
  | .pcr => return .pcr (← decTcCtrlPayloadPcr)

/-- The decoder of control messages, with what `calloc` does. -/
def tcDecCtrlMsgCalloc (calloc : Calloc) (ctrlMsg : Bytes) : Except String TcCtrlMsg := do
  require (0 < ctrlMsg.length) "len >0"
  (decTcCtrlPayload calloc).whole "ctrl_msg + len == it" ctrlMsg

def tcDecCtrlMsgPlain (ctrlMsg : Bytes) : Except String TcCtrlMsg := tcDecCtrlMsgCalloc granted ctrlMsg

/-! ### Headers and outcomes -/

def tcEncCtrlHdrPlain := encWord
def tcEncCtrlOutPlain := encWord
def tcDecCtrlHdrPlain := decWord "len == sizeof(tc_ctrl_hdr_t)"
def tcDecCtrlOutPlain := decOutcome "len == sizeof(tc_ctrl_out_e)"

end FlexRic.Sm.Tc
