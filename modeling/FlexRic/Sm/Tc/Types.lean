import FlexRic.Lib.Plain

/-! # The values of the traffic control service model

`tc_data_ie.h`. A union and the enumerator that selects its member are one value, and so are an array and its
length. -/

namespace FlexRic.Sm.Tc
open Plain

/-! ### Filters -/

structure L3Filter where
  srcAddr : Int64
  dstAddr : Int64

structure L4Filter where
  srcPort : Int32
  dstPort : Int32
  protocol : Int32

structure L7Filter where
  dummy : UInt32

structure TcClsOsiFilter where
  id : UInt32
  l3 : L3Filter
  l4 : L4Filter
  l7 : L7Filter
  dstQueue : Int32

/-- `tc_cls_e` -/
inductive TcClsE
  | rr
  | osi
  | sto
  deriving DecidableEq, Repr

/-- `tc_queue_e` -/
inductive TcQueueE
  | fifo
  | codel
  | ecnCodel
  deriving DecidableEq, Repr

/-- `tc_sch_e` -/
inductive TcSchE
  | rr
  | prio
  deriving DecidableEq, Repr

/-- `tc_pcr_e` -/
inductive TcPcrE
  | dummy
  | bdp5g
  deriving DecidableEq, Repr

/-! ### Indications -/

inductive TcCls
  | rr (dummy : UInt32)
  | osi (flt : Counted TcClsOsiFilter)
  | sto (dummy : UInt32)

structure TcMtr where
  timeWindowMs : UInt32
  bnd : Float4

structure TcDrp where
  droppedPkts : UInt32

structure TcMrk where
  markedPkts : UInt32

structure TcPlc where
  id : UInt32
  mtr : TcMtr
  drp : TcDrp
  mrk : TcMrk
  maxRateKbps : Float4
  active : UInt32
  dstId : UInt32
  devId : UInt32

/-- The counters of a queue; `δ` is its dropper or its marker. -/
structure TcQueueCounters (δ : Type) where
  bytes : UInt32
  pkts : UInt32
  bytesFwd : UInt32
  pktsFwd : UInt32
  drpOrMrk : δ
  avgSojournTime : Float4
  lastSojournTime : Int64

abbrev TcQueueFifo := TcQueueCounters TcDrp
abbrev TcQueueCodel := TcQueueCounters TcDrp
abbrev TcQueueEcnCodel := TcQueueCounters TcMrk

inductive TcQueueU
  | fifo (fifo : TcQueueFifo)
  | codel (codel : TcQueueCodel)
  | ecn (ecn : TcQueueEcnCodel)

structure TcQueue where
  id : UInt32
  u : TcQueueU

inductive TcSch
  | rr (dummy : UInt32)
  | prio (qPrio : Counted UInt32)

structure TcShp where
  id : UInt32
  active : UInt32
  maxRateKbps : UInt32
  mtr : TcMtr

/-- `type` is copied and never looked at. -/
structure TcPcr where
  type : UInt32
  id : UInt32
  mtr : TcMtr

/-- `queues` are the arrays `shp`, `plc` and `q`, which have one length. -/
structure TcIndMsg where
  sch : TcSch
  pcr : TcPcr
  cls : TcCls
  queues : Counted (TcShp × TcPlc × TcQueue)
  tstamp : Int64

/-! ### Control messages -/

/-- `tc_ctrl_act_e` -/
inductive TcCtrlActE
  | add
  | del
  | mod
  deriving DecidableEq, Repr

/-- An action on one of the components. -/
inductive TcCtrl (α δ μ : Type)
  | add (add : α)
  | del (del : δ)
  | mod (mod : μ)

structure TcAddClsOsi where
  l3 : L3Filter
  l4 : L4Filter
  l7 : L7Filter
  dstQueue : Int32

inductive TcAddCtrlCls
  | rr (dummy : UInt32)
  | osi (osi : TcAddClsOsi)
  | sto (dummy : UInt32)

inductive TcModCtrlCls
  | rr (dummy : UInt32)
  | osi (filter : TcClsOsiFilter)
  | sto (dummy : UInt32)

inductive TcDelCtrlCls
  | rr (dummy : UInt32)
  | osi (filterId : UInt32)
  | sto (dummy : UInt32)

abbrev TcCtrlCls := TcCtrl TcAddCtrlCls TcDelCtrlCls TcModCtrlCls

structure TcAddCtrlPlc where
  dummy : UInt32

structure TcModCtrlPlc where
  id : UInt32
  dropRateKbps : UInt32
  devId : UInt32
  devRateKbps : UInt32
  active : UInt32

structure TcDelCtrlPlc where
  id : UInt32

abbrev TcCtrlPlc := TcCtrl TcAddCtrlPlc TcDelCtrlPlc TcModCtrlPlc

structure TcCtrlQueueCodel where
  targetMs : UInt32
  intervalMs : UInt32

/-- The union of `tc_add_ctrl_queue_t` and of `tc_mod_ctrl_queue_t`. -/
inductive TcCtrlQueueU
  | fifo (dummy : UInt32)
  | codel (codel : TcCtrlQueueCodel)
  | ecn (ecn : TcCtrlQueueCodel)

abbrev TcAddCtrlQueue := TcCtrlQueueU

structure TcModCtrlQueue where
  id : UInt32
  u : TcCtrlQueueU

/-- The same holds of this `type`. -/
structure TcDelCtrlQueue where
  id : UInt32
  type : UInt32

abbrev TcCtrlQueue := TcCtrl TcAddCtrlQueue TcDelCtrlQueue TcModCtrlQueue

structure TcAddCtrlSch where
  dummy : UInt32

structure TcDelCtrlSch where
  dummy : UInt32

abbrev TcModCtrlSch := TcSch

abbrev TcCtrlSch := TcCtrl TcAddCtrlSch TcDelCtrlSch TcModCtrlSch

structure TcAddCtrlShp where
  dummy : UInt32

structure TcModCtrlShp where
  id : UInt32
  timeWindowMs : UInt32
  maxRateKbps : UInt32
  active : UInt32

structure TcDelCtrlShp where
  id : UInt32

abbrev TcCtrlShp := TcCtrl TcAddCtrlShp TcDelCtrlShp TcModCtrlShp

structure TcPcr5gBdp where
  drbSz : UInt32
  tstamp : Int64

structure TcAddCtrlPcr where
  dummy : UInt32

inductive TcModCtrlPcr
  | dummy (dummy : UInt32)
  | bdp (bdp : TcPcr5gBdp)

structure TcDelCtrlPcr where
  dummy : UInt32

abbrev TcCtrlPcr := TcCtrl TcAddCtrlPcr TcDelCtrlPcr TcModCtrlPcr

/-- `tc_ctrl_msg_e` -/
inductive TcCtrlMsgE
  | cls
  | plc
  | queue
  | sch
  | shp
  | pcr
  deriving DecidableEq, Repr

inductive TcCtrlMsg
  | cls (cls : TcCtrlCls)
  | plc (plc : TcCtrlPlc)
  | q (q : TcCtrlQueue)
  | sch (sch : TcCtrlSch)
  | shp (shp : TcCtrlShp)
  | pcr (pcr : TcCtrlPcr)

/-! ### Enumerators -/

instance : Enumerators TcClsE := ⟨[.rr, .osi, .sto], fun a => by cases a <;> decide, by decide⟩
instance : Enumerators TcQueueE := ⟨[.fifo, .codel, .ecnCodel], fun a => by cases a <;> decide, by decide⟩
instance : Enumerators TcSchE := ⟨[.rr, .prio], fun a => by cases a <;> decide, by decide⟩
instance : Enumerators TcPcrE := ⟨[.dummy, .bdp5g], fun a => by cases a <;> decide, by decide⟩
instance : Enumerators TcCtrlActE := ⟨[.add, .del, .mod], fun a => by cases a <;> decide, by decide⟩
instance : Enumerators TcCtrlMsgE := ⟨[.cls, .plc, .queue, .sch, .shp, .pcr], fun a => by cases a <;> decide, by decide⟩

/-! ### Structures that are copied whole

A filter is aligned to eight bytes: four bytes of padding follow its `id` and its `dst_queue`. -/

def sizeofL3Filter : Nat := 16
def sizeofL4Filter : Nat := 12
def sizeofL7Filter : Nat := 4
def sizeofClsOsiFilter : Nat := 48

def putClsOsiFilter (f : TcClsOsiFilter) : Bytes :=
  put f.id ++ padding 4 ++ put f.l3.srcAddr ++ put f.l3.dstAddr ++ put f.l4.srcPort ++ put f.l4.dstPort ++
    put f.l4.protocol ++ put f.l7.dummy ++ put f.dstQueue ++ padding 4

def fetchClsOsiFilter : Reader TcClsOsiFilter := do
  let id ← fetch UInt32
  skip 4
  let srcAddr ← fetch Int64
  let dstAddr ← fetch Int64
  let srcPort ← fetch Int32
  let dstPort ← fetch Int32
  let protocol ← fetch Int32
  let l7 ← fetch UInt32
  let dstQueue ← fetch Int32
  skip 4
  return ⟨id, ⟨srcAddr, dstAddr⟩, ⟨srcPort, dstPort, protocol⟩, ⟨l7⟩, dstQueue⟩

@[simp] theorem length_putClsOsiFilter (f : TcClsOsiFilter) : (putClsOsiFilter f).length = sizeofClsOsiFilter := by
  simp only [putClsOsiFilter, List.length_append, length_put, length_padding]
  rfl

theorem fetchClsOsiFilter_reads (f : TcClsOsiFilter) : Reads 0 fetchClsOsiFilter (putClsOsiFilter f) f := by
  simp only [putClsOsiFilter, List.append_assoc]
  exact (fetch_reads _).andThen ((skip_reads 4).andThen ((fetch_reads _).andThen ((fetch_reads _).andThen
    ((fetch_reads _).andThen ((fetch_reads _).andThen ((fetch_reads _).andThen ((fetch_reads _).andThen
      ((fetch_reads _).andThen (skip_reads 4).last))))))))

end FlexRic.Sm.Tc
