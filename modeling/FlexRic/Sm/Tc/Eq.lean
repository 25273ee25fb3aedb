import FlexRic.Lib.Equality
import FlexRic.Lib.Float4
import FlexRic.Sm.Tc.Types

/-! # Copies and comparisons of traffic control indications

The functions `cp` and `eq` of `tc_data_ie.c` for indication messages. What a copy does not assign is zero. -/

namespace FlexRic.Sm.Tc
open Plain

/-! ### Comparisons -/

/-- `0.01` -/
def rateEps : Float4.Eps := ⟨5764607523034235, 59⟩

/-- `0.001` -/
def sojournEps : Float4.Eps := ⟨4611686018427388, 62⟩

/-- Nothing is compared of two round robin schedulers. -/
def eqTcSchRr (_ _ : UInt32) : Except String Bool := return true

def eqTcSchPrio (m0 m1 : Counted UInt32) : Except String Bool :=
  both (same (m0.len = m1.len)) (eqArray (fun a b => same (a = b)) m0.items m1.items)

def eqTcSch : TcSch → TcSch → Except String Bool
  | .rr m0, .rr m1 => eqTcSchRr m0 m1
  | .prio m0, .prio m1 => eqTcSchPrio m0 m1
  | _, _ => return false

def eqTcMtr (m0 m1 : TcMtr) : Except String Bool :=
  both (same (m0.timeWindowMs = m1.timeWindowMs)) (Float4.eqFloat m0.bnd m1.bnd rateEps)

def eqTcPcr (m0 m1 : TcPcr) : Except String Bool :=
  both (same (m0.type = m1.type)) <| both (same (m0.id = m1.id)) (eqTcMtr m0.mtr m1.mtr)

def eqL3Filter (m0 m1 : L3Filter) : Except String Bool :=
  both (same (m0.srcAddr = m1.srcAddr)) (same (m0.dstAddr = m1.dstAddr))

def eqL4Filter (m0 m1 : L4Filter) : Except String Bool :=
  both (same (m0.srcPort = m1.srcPort)) <| both (same (m0.dstPort = m1.dstPort)) (same (m0.protocol = m1.protocol))

/-- The comparison of `l7` is commented out. -/
def eqTcClsOsiFilter (m0 m1 : TcClsOsiFilter) : Except String Bool :=
  both (same (m0.id = m1.id)) <| both (eqL3Filter m0.l3 m1.l3) <| both (eqL4Filter m0.l4 m1.l4)
    (same (m0.dstQueue = m1.dstQueue))

def eqTcClsOsi (m0 m1 : Counted TcClsOsiFilter) : Except String Bool :=
  both (same (m0.len = m1.len)) (eqArray eqTcClsOsiFilter m0.items m1.items)

def eqTcCls : TcCls → TcCls → Except String Bool
  | .rr m0, .rr m1 => same (m0 = m1)
  | .osi m0, .osi m1 => eqTcClsOsi m0 m1
  | .sto m0, .sto m1 => same (m0 = m1)
  | _, _ => return false

/-- The rate is not compared. -/
def eqTcShp (m0 m1 : TcShp) : Except String Bool :=
  both (same (m0.id = m1.id)) <| both (same (m0.active = m1.active)) (eqTcMtr m0.mtr m1.mtr)

def eqTcDrp (m0 m1 : TcDrp) : Except String Bool := same (m0.droppedPkts = m1.droppedPkts)

def eqTcMrk (m0 m1 : TcMrk) : Except String Bool := same (m0.markedPkts = m1.markedPkts)

def eqTcPlc (m0 m1 : TcPlc) : Except String Bool :=
  both (same (m0.id = m1.id)) <| both (eqTcMtr m0.mtr m1.mtr) <| both (eqTcDrp m0.drp m1.drp) <|
    both (eqTcMrk m0.mrk m1.mrk) <| both (Float4.eqFloat m0.maxRateKbps m1.maxRateKbps rateEps) <|
      both (same (m0.active = m1.active)) <| both (same (m0.dstId = m1.dstId)) (same (m0.devId = m1.devId))

/-- The last time is not compared. -/
def eqTcQueueCounters {δ : Type} (eq : δ → δ → Except String Bool) (m0 m1 : TcQueueCounters δ) : Except String Bool :=
  both (eq m0.drpOrMrk m1.drpOrMrk) <| both (Float4.eqFloat m0.avgSojournTime m1.avgSojournTime sojournEps) <|
    both (same (m0.bytes = m1.bytes)) <| both (same (m0.pkts = m1.pkts)) <| both (same (m0.bytesFwd = m1.bytesFwd))
      (same (m0.pktsFwd = m1.pktsFwd))

def eqTcQueueFifo : TcQueueFifo → TcQueueFifo → Except String Bool := eqTcQueueCounters eqTcDrp
def eqTcQueueCodel : TcQueueCodel → TcQueueCodel → Except String Bool := eqTcQueueCounters eqTcDrp
def eqTcQueueEcnCodel : TcQueueEcnCodel → TcQueueEcnCodel → Except String Bool := eqTcQueueCounters eqTcMrk

/-- The numbers of the queues are not compared. -/
def eqTcQ (m0 m1 : TcQueue) : Except String Bool :=
  match m0.u, m1.u with
  | .fifo m0, .fifo m1 => eqTcQueueFifo m0 m1
  | .codel m0, .codel m1 => eqTcQueueCodel m0 m1
  | .ecn m0, .ecn m1 => eqTcQueueEcnCodel m0 m1
  | _, _ => return false

/-- One turn of the loop of `eq_tc_ind_msg` -/
def eqTcShpPlcQ (m0 m1 : TcShp × TcPlc × TcQueue) : Except String Bool :=
  both (orAssert "0!=0" (eqTcShp m0.1 m1.1)) <| both (orAssert "0!=0" (eqTcPlc m0.2.1 m1.2.1))
    (orAssert "0!=0" (eqTcQ m0.2.2 m1.2.2))

def eqTcIndMsg (m0 m1 : TcIndMsg) : Except String Bool :=
  both (orAssert "0!=0" (same (m0.tstamp = m1.tstamp))) <| both (orAssert "0!=0" (eqTcSch m0.sch m1.sch)) <|
    both (orAssert "0!=0" (eqTcPcr m0.pcr m1.pcr)) <| both (orAssert "0!=0" (eqTcCls m0.cls m1.cls)) <|
      both (orAssert "0!=0" (same (m0.queues.len = m1.queues.len))) <|
        eqArray eqTcShpPlcQ m0.queues.items m1.queues.items

/-! ### Copies -/

def cpTcSchRr (src : UInt32) : UInt32 := src

def cpTcSchPrio (src : Counted UInt32) : Counted UInt32 := src.map id

def cpTcSch : TcSch → TcSch
  | .rr src => .rr (cpTcSchRr src)
  | .prio src => .prio (cpTcSchPrio src)

def cpTcMtr (src : TcMtr) : TcMtr := ⟨src.timeWindowMs, src.bnd⟩

def cpTcPcr (src : TcPcr) : TcPcr := ⟨src.type, src.id, cpTcMtr src.mtr⟩

def cpL3Filter (src : L3Filter) : L3Filter := ⟨src.srcAddr, src.dstAddr⟩

def cpL4Filter (src : L4Filter) : L4Filter := ⟨src.srcPort, src.dstPort, src.protocol⟩

def cpTcClsOsiFilter (src : TcClsOsiFilter) : TcClsOsiFilter :=
  ⟨src.id, cpL3Filter src.l3, cpL4Filter src.l4, ⟨0⟩, src.dstQueue⟩

def cpTcClsOsi (src : Counted TcClsOsiFilter) : Counted TcClsOsiFilter := src.map cpTcClsOsiFilter

def cpTcCls : TcCls → TcCls
  | .rr dummy => .rr dummy
  | .osi flt => .osi (cpTcClsOsi flt)
  | .sto dummy => .sto dummy

def cpTcDrp (src : TcDrp) : TcDrp := ⟨src.droppedPkts⟩

def cpTcMrk (src : TcMrk) : TcMrk := ⟨src.markedPkts⟩

def cpTcQueueCounters {δ : Type} (cp : δ → δ) (src : TcQueueCounters δ) : TcQueueCounters δ :=
  ⟨src.bytes, src.pkts, src.bytesFwd, src.pktsFwd, cp src.drpOrMrk, src.avgSojournTime, 0⟩

def cpTcQueueU : TcQueueU → TcQueueU
  | .fifo src => .fifo (cpTcQueueCounters cpTcDrp src)
  | .codel src => .codel (cpTcQueueCounters cpTcDrp src)
  | .ecn src => .ecn (cpTcQueueCounters cpTcMrk src)

def cpTcQueue (src : TcQueue) : TcQueue := ⟨0, cpTcQueueU src.u⟩

def cpTcShp (src : TcShp) : Except String TcShp := do
  require (src.active = 0 ∨ src.active = 1) "active == 0 || active == 1"
  return ⟨src.id, src.active, 0, cpTcMtr src.mtr⟩

def cpTcPlc (src : TcPlc) : Except String TcPlc := do
  require (src.active = 0 ∨ src.active = 1) "active == 0 || active == 1"
  return ⟨src.id, cpTcMtr src.mtr, cpTcDrp src.drp, cpTcMrk src.mrk, src.maxRateKbps, src.active, src.dstId, src.devId⟩

/-- One turn of the loop of `cp_tc_shp_q_plc` -/
def cpTcShpQPlc (src : TcShp × TcPlc × TcQueue) : Except String (TcShp × TcPlc × TcQueue) := do
  let shp ← cpTcShp src.1
  let plc ← cpTcPlc src.2.1
  return (shp, plc, cpTcQueue src.2.2)

/-- The copy is compared to its source. -/
def cpTcIndMsg (src : TcIndMsg) : Except String TcIndMsg := do
  let queues ← src.queues.mapM cpTcShpQPlc
  let dst : TcIndMsg := ⟨cpTcSch src.sch, cpTcPcr src.pcr, cpTcCls src.cls, queues, src.tstamp⟩
  let equal ← eqTcIndMsg src dst
  require equal "eq_tc_ind_msg(src, &dst )"
  return dst

end FlexRic.Sm.Tc
