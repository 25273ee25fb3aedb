import FlexRic.Sm.Tc.Types

/-! # The plain codec of traffic control indications

`tc_enc_plain.c` and `tc_dec_plain.c`, the functions of `tc_enc_ind_msg_plain` and `tc_dec_ind_msg_plain`. -/

namespace FlexRic.Sm.Tc
open Plain

/-! ### Sizes -/

def calSchPayload : TcSch → Nat
  | .rr _ => sizeofEnum
  | .prio qPrio => sizeofEnum + sizeof UInt32 + sizeof UInt32 * qPrio.items.length

def calMtrPayload (_ : TcMtr) : Nat := sizeof Float4 + sizeof UInt32

def calPcrPayload (pcr : TcPcr) : Nat := sizeofEnum + sizeof UInt32 + calMtrPayload pcr.mtr

def calClsOsiPayload (flt : Counted TcClsOsiFilter) : Nat := sizeof UInt32 + sizeofClsOsiFilter * flt.items.length

def calClsPayload : TcCls → Nat
  | .rr _ => sizeofEnum + sizeof UInt32
  | .osi flt => sizeofEnum + calClsOsiPayload flt
  | .sto _ => sizeofEnum + sizeof UInt32

def calDrpPayload (_ : TcDrp) : Nat := sizeof UInt32

def calMrkPayload (_ : TcMrk) : Nat := sizeof UInt32

def calQCounters {δ : Type} (cal : δ → Nat) (q : TcQueueCounters δ) : Nat :=
  sizeof UInt32 + sizeof UInt32 + sizeof UInt32 + sizeof UInt32 + cal q.drpOrMrk + sizeof Float4 + sizeof Int64

def calQPayload (q : TcQueue) : Nat :=
  match q.u with
  | .fifo fifo => sizeofEnum + calQCounters calDrpPayload fifo
  | .codel codel => sizeofEnum + calQCounters calDrpPayload codel
  | .ecn ecn => sizeofEnum + calQCounters calMrkPayload ecn

def calShpPayload (shp : TcShp) : Nat := sizeof UInt32 + sizeof UInt32 + sizeof UInt32 + calMtrPayload shp.mtr

def calPlcPayload (plc : TcPlc) : Nat :=
  sizeof UInt32 + calMtrPayload plc.mtr + calDrpPayload plc.drp + calMrkPayload plc.mrk + sizeof Float4 +
    sizeof UInt32 + sizeof UInt32 + sizeof UInt32

/-- One turn of the loop of `cal_ind_msg_payload`. -/
def calShpPlcQ (e : TcShp × TcPlc × TcQueue) : Nat := calQPayload e.2.2 + calShpPayload e.1 + calPlcPayload e.2.1

def calIndMsgPayload (indMsg : TcIndMsg) : Nat :=
  calSchPayload indMsg.sch + calPcrPayload indMsg.pcr + calClsPayload indMsg.cls + sizeof UInt32 +
    (indMsg.queues.items.map calShpPlcQ).sum + sizeof Int64

/-! ### Encoding -/

/-- Nothing is written of a round robin scheduler but its type. -/
def tcEncSch : TcSch → Bytes
  | .rr _ => putEnum TcSchE.rr
  | .prio qPrio => putEnum TcSchE.prio ++ put qPrio.len ++ qPrio.items.flatMap put

def tcEncMtr (mtr : TcMtr) : Bytes := put mtr.bnd ++ put mtr.timeWindowMs

def tcEncPcr (pcr : TcPcr) : Bytes := put pcr.type ++ put pcr.id ++ tcEncMtr pcr.mtr

def tcEncClsOsi (flt : Counted TcClsOsiFilter) : Bytes := put flt.len ++ flt.items.flatMap putClsOsiFilter

def tcEncCls : TcCls → Bytes
  | .rr dummy => putEnum TcClsE.rr ++ put dummy
  | .osi flt => putEnum TcClsE.osi ++ tcEncClsOsi flt
  | .sto dummy => putEnum TcClsE.sto ++ put dummy

def tcEncShp (shp : TcShp) : Bytes := put shp.id ++ put shp.active ++ put shp.maxRateKbps ++ tcEncMtr shp.mtr

def tcEncDrp (drp : TcDrp) : Bytes := put drp.droppedPkts

def tcEncMrk (mrk : TcMrk) : Bytes := put mrk.markedPkts

def tcEncPlc (plc : TcPlc) : Bytes :=
  put plc.id ++ tcEncMtr plc.mtr ++ tcEncDrp plc.drp ++ tcEncMrk plc.mrk ++ put plc.maxRateKbps ++ put plc.active ++
    put plc.dstId ++ put plc.devId

def tcEncQCounters {δ : Type} (enc : δ → Bytes) (q : TcQueueCounters δ) : Bytes :=
  put q.bytes ++ put q.pkts ++ put q.bytesFwd ++ put q.pktsFwd ++ enc q.drpOrMrk ++ put q.avgSojournTime ++
    put q.lastSojournTime

def tcEncQFifo (q : TcQueueFifo) : Bytes := tcEncQCounters tcEncDrp q
def tcEncQCodel (q : TcQueueCodel) : Bytes := tcEncQCounters tcEncDrp q
def tcEncQEcnCodel (q : TcQueueEcnCodel) : Bytes := tcEncQCounters tcEncMrk q

/-- The `id` of the queue is not written. -/
def tcEncQ (q : TcQueue) : Bytes :=
  match q.u with
  | .fifo fifo => putEnum TcQueueE.fifo ++ tcEncQFifo fifo
  | .codel codel => putEnum TcQueueE.codel ++ tcEncQCodel codel
  | .ecn ecn => putEnum TcQueueE.ecnCodel ++ tcEncQEcnCodel ecn

/-- One turn of the loop over the queues: `it` is what is written before it, into a chunk of `sz` bytes. -/
def tcEncShpPlcQ (sz : Nat) (it : Bytes) (e : TcShp × TcPlc × TcQueue) : Except String Bytes := do
  let it := it ++ tcEncShp e.1
  require (it.length < sz) "iterator out of the chunk of memory"
  let it := it ++ tcEncPlc e.2.1
  require (it.length < sz) "iterator out of the chunk of memory"
  let it := it ++ tcEncQ e.2.2
  require (it.length < sz) "iterator out of the chunk of memory"
  return it

def tcEncIndMsgPlain (indMsg : TcIndMsg) : Except String Bytes := do
  let sz := calIndMsgPayload indMsg
  let it := tcEncSch indMsg.sch
  require (it.length < sz) "iterator out of the chunk of memory"
  let it := it ++ tcEncPcr indMsg.pcr
  require (it.length < sz) "iterator out of the chunk of memory"
  let it := it ++ tcEncCls indMsg.cls
  require (it.length < sz) "iterator out of the chunk of memory"
  let it := it ++ put indMsg.queues.len
  require (it.length < sz) "iterator out of the chunk of memory"
  let it ← indMsg.queues.items.foldlM (tcEncShpPlcQ sz) it
  let it := it ++ put indMsg.tstamp
  require (it.length = sz) "Mismatch of data layout"
  return it

/-! ### Decoding -/

def tcDecSch (calloc : Calloc) : Reader TcSch := do
  match ← fetchEnum TcSchE "Unknown scheduler type" with
  -- The member keeps the zero that the message is initialised with.
  | .rr => return .rr 0
  | .prio => return .prio (← fetchAllocated calloc (sizeof UInt32) (fetch UInt32))

def tcDecMtr : Reader TcMtr := do
  let bnd ← fetch Float4
  let timeWindowMs ← fetch UInt32
  return ⟨timeWindowMs, bnd⟩

def tcDecPcr : Reader TcPcr := do
  let type ← fetch UInt32
  let id ← fetch UInt32
  let mtr ← tcDecMtr
  return ⟨type, id, mtr⟩

def tcDecCls (calloc : Calloc) : Reader TcCls := do
  match ← fetchEnum TcClsE "Unknown classifier type" with
  | .rr => return .rr (← fetch UInt32)
  | .osi => return .osi (← fetchAllocated calloc sizeofClsOsiFilter fetchClsOsiFilter)
  | .sto => return .sto (← fetch UInt32)

def tcDecShp : Reader TcShp := do
  let id ← fetch UInt32
  let active ← fetch UInt32
  let maxRateKbps ← fetch UInt32
  let mtr ← tcDecMtr
  return ⟨id, active, maxRateKbps, mtr⟩

def tcDecDrp : Reader TcDrp := do
  let droppedPkts ← fetch UInt32
  return ⟨droppedPkts⟩

def tcDecMrk : Reader TcMrk := do
  let markedPkts ← fetch UInt32
  return ⟨markedPkts⟩

def tcDecPlc : Reader TcPlc := do
  let id ← fetch UInt32
  let mtr ← tcDecMtr
  let drp ← tcDecDrp
  let mrk ← tcDecMrk
  let maxRateKbps ← fetch Float4
  let active ← fetch UInt32
  let dstId ← fetch UInt32
  let devId ← fetch UInt32
  return ⟨id, mtr, drp, mrk, maxRateKbps, active, dstId, devId⟩

def tcDecQCounters {δ : Type} (dec : Reader δ) : Reader (TcQueueCounters δ) := do
  let bytes ← fetch UInt32
  let pkts ← fetch UInt32
  let bytesFwd ← fetch UInt32
  let pktsFwd ← fetch UInt32
  let drpOrMrk ← dec
  let avgSojournTime ← fetch Float4
  let lastSojournTime ← fetch Int64
  return ⟨bytes, pkts, bytesFwd, pktsFwd, drpOrMrk, avgSojournTime, lastSojournTime⟩

def tcDecQFifo : Reader TcQueueFifo := tcDecQCounters tcDecDrp
def tcDecQCodel : Reader TcQueueCodel := tcDecQCounters tcDecDrp
def tcDecQEcnCodel : Reader TcQueueEcnCodel := tcDecQCounters tcDecMrk

/-- The queue is allocated with `calloc`, and its `id` stays zero. -/
def tcDecQ : Reader TcQueue := do
  match ← fetchEnum TcQueueE "unknown queue type" with
  | .fifo => return ⟨0, .fifo (← tcDecQFifo)⟩
  | .codel => return ⟨0, .codel (← tcDecQCodel)⟩
  | .ecnCodel => return ⟨0, .ecn (← tcDecQEcnCodel)⟩

def tcDecShpPlcQ : Reader (TcShp × TcPlc × TcQueue) := do
  let shp ← tcDecShp
  withinChunk "iterator out of memory chunk"
  let plc ← tcDecPlc
  withinChunk "iterator out of memory chunk"
  let q ← tcDecQ
  withinChunk "iterator out of memory chunk"
  return (shp, plc, q)

/-- What a shaper, a policer and a queue take of a message. -/
def sizeofShpPlcQ : Nat := 20 + 36 + 36

def tcDecIndMsg (calloc : Calloc) : Reader TcIndMsg := do
  let sch ← tcDecSch calloc
  withinChunk "iterator out of memory chunk"
  let pcr ← tcDecPcr
  withinChunk "iterator out of memory chunk"
  let cls ← tcDecCls calloc
  withinChunk "iterator out of memory chunk"
  let lenQ ← fetch UInt32
  withinChunk "iterator out of memory chunk"
  let queues ← allocated calloc sizeofShpPlcQ tcDecShpPlcQ lenQ
  let tstamp ← fetch Int64
  return ⟨sch, pcr, cls, .ofTimes queues, tstamp⟩

/-- The decoder of indications, with what `calloc` does. -/
def tcDecIndMsgCalloc (calloc : Calloc) (indMsg : Bytes) : Except String TcIndMsg :=
  (tcDecIndMsg calloc).whole "Data layout mismacth" indMsg

def tcDecIndMsgPlain (indMsg : Bytes) : Except String TcIndMsg := tcDecIndMsgCalloc granted indMsg

/-! ### Event triggers and headers -/

def tcEncEventTriggerPlain := encWord
def tcDecEventTriggerPlain := decTrigger
def tcEncIndHdrPlain := encWord
def tcDecIndHdrPlain := decWord "len == sizeof(tc_ind_hdr_t)"

end FlexRic.Sm.Tc
