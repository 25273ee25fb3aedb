import FlexRic.Lib.Float4

/-! # The MAC service model

`mac_data_ie.h`, the plain codec, and the comparison of indication messages. A record of statistics is copied
in one piece, as it lies in memory. -/

namespace FlexRic.Sm.Mac
open Plain

/-- `uint32_t[5]` -/
abbrev Harq := { xs : List UInt32 // xs.length = 5 }

structure MacUeStatsImpl where
  dlAggrTbs : UInt64
  ulAggrTbs : UInt64
  dlAggrBytesSdus : UInt64
  ulAggrBytesSdus : UInt64
  dlCurrTbs : UInt64
  ulCurrTbs : UInt64
  dlSchedRb : UInt64
  ulSchedRb : UInt64
  puschSnr : Float4
  pucchSnr : Float4
  dlBler : Float4
  ulBler : Float4
  dlHarq : Harq
  ulHarq : Harq
  dlNumHarq : UInt32
  ulNumHarq : UInt32
  rnti : UInt32
  dlAggrPrb : UInt32
  ulAggrPrb : UInt32
  dlAggrSdus : UInt32
  ulAggrSdus : UInt32
  dlAggrRetxPrb : UInt32
  ulAggrRetxPrb : UInt32
  bsr : UInt32
  frame : UInt16
  slot : UInt16
  wbCqi : UInt8
  dlMcs1 : UInt8
  ulMcs1 : UInt8
  dlMcs2 : UInt8
  ulMcs2 : UInt8
  phr : Int8

/-- `sizeof(mac_ue_stats_impl_t)`, with six bytes at the end that no member occupies. -/
def sizeofMacUeStatsImpl : Nat := 176

structure MacIndMsg where
  ueStats : Counted MacUeStatsImpl
  tstamp : Int64

/-! ### Encoding -/

/-- The bytes of a record in memory. -/
def putMacUeStatsImpl (ue : MacUeStatsImpl) : Bytes :=
  put ue.dlAggrTbs ++ (put ue.ulAggrTbs ++ (put ue.dlAggrBytesSdus ++ (put ue.ulAggrBytesSdus ++ (put ue.dlCurrTbs ++
  (put ue.ulCurrTbs ++ (put ue.dlSchedRb ++ (put ue.ulSchedRb ++ (put ue.puschSnr ++ (put ue.pucchSnr ++
  (put ue.dlBler ++ (put ue.ulBler ++ (ue.dlHarq.val.flatMap put ++ (ue.ulHarq.val.flatMap put ++
  (put ue.dlNumHarq ++ (put ue.ulNumHarq ++ (put ue.rnti ++ (put ue.dlAggrPrb ++ (put ue.ulAggrPrb ++
  (put ue.dlAggrSdus ++ (put ue.ulAggrSdus ++ (put ue.dlAggrRetxPrb ++ (put ue.ulAggrRetxPrb ++ (put ue.bsr ++
  (put ue.frame ++ (put ue.slot ++ (put ue.wbCqi ++ (put ue.dlMcs1 ++ (put ue.ulMcs1 ++ (put ue.dlMcs2 ++
  (put ue.ulMcs2 ++ (put ue.phr ++ padding 6)))))))))))))))))))))))))))))))

/-- The length of the chunk is a `uint32_t`. -/
def macEncIndMsgPlain (indMsg : MacIndMsg) : Except String Bytes := do
  let len := (sizeof UInt32 + sizeofMacUeStatsImpl * indMsg.ueStats.items.length + sizeof Int64) % 4294967296
  let ptr ← write len [] (put indMsg.ueStats.len)
  let ptr ← indMsg.ueStats.items.foldlM (fun ptr ue => write len ptr (putMacUeStatsImpl ue)) ptr
  let ptr ← write len ptr (put indMsg.tstamp)
  require (ptr.length = len) "Data layout mismacth"
  return ptr

/-! ### Decoding -/

def fetchMacUeStatsImpl : Reader MacUeStatsImpl := do
  let dlAggrTbs ← fetch UInt64
  let ulAggrTbs ← fetch UInt64
  let dlAggrBytesSdus ← fetch UInt64
  let ulAggrBytesSdus ← fetch UInt64
  let dlCurrTbs ← fetch UInt64
  let ulCurrTbs ← fetch UInt64
  let dlSchedRb ← fetch UInt64
  let ulSchedRb ← fetch UInt64
  let puschSnr ← fetch Float4
  let pucchSnr ← fetch Float4
  let dlBler ← fetch Float4
  let ulBler ← fetch Float4
  let dlHarq ← times (fetch UInt32) 5
  let ulHarq ← times (fetch UInt32) 5
  let dlNumHarq ← fetch UInt32
  let ulNumHarq ← fetch UInt32
  let rnti ← fetch UInt32
  let dlAggrPrb ← fetch UInt32
  let ulAggrPrb ← fetch UInt32
  let dlAggrSdus ← fetch UInt32
  let ulAggrSdus ← fetch UInt32
  let dlAggrRetxPrb ← fetch UInt32
  let ulAggrRetxPrb ← fetch UInt32
  let bsr ← fetch UInt32
  let frame ← fetch UInt16
  let slot ← fetch UInt16
  let wbCqi ← fetch UInt8
  let dlMcs1 ← fetch UInt8
  let ulMcs1 ← fetch UInt8
  let dlMcs2 ← fetch UInt8
  let ulMcs2 ← fetch UInt8
  let phr ← fetch Int8
  let _ ← skip 6
  return { dlAggrTbs, ulAggrTbs, dlAggrBytesSdus, ulAggrBytesSdus, dlCurrTbs, ulCurrTbs, dlSchedRb, ulSchedRb,
           puschSnr, pucchSnr, dlBler, ulBler, dlHarq, ulHarq, dlNumHarq, ulNumHarq, rnti, dlAggrPrb, ulAggrPrb,
           dlAggrSdus, ulAggrSdus, dlAggrRetxPrb, ulAggrRetxPrb, bsr, frame, slot, wbCqi, dlMcs1, ulMcs1, dlMcs2,
           ulMcs2, phr }

def decMacIndMsg : Reader MacIndMsg := do
  let ueStats ← fetchCounted fetchMacUeStatsImpl
  let tstamp ← fetch Int64
  return ⟨ueStats, tstamp⟩

def macDecIndMsgPlain (indMsg : Bytes) : Except String MacIndMsg := decMacIndMsg.whole "data layout mismacth" indMsg

/-! ### Control messages -/

/-- `mac_conf_t`, with the byte of its `bool`. -/
structure MacConf where
  rnti : UInt32
  puschMcs : UInt8
  issetPuschMcs : UInt8
  padEnd : Padding 2

/-- `sizeof(mac_conf_t)` -/
def sizeofMacConf : Nat := 8

structure MacCtrlMsg where
  ranConf : Counted MacConf

/-- The bytes of a configuration in memory. -/
def putMacConf (conf : MacConf) : Bytes :=
  put conf.rnti ++ (put conf.puschMcs ++ (put conf.issetPuschMcs ++ put conf.padEnd))

def macEncCtrlMsgPlain (ctrlMsg : MacCtrlMsg) : Except String Bytes := do
  let sz := sizeof UInt32 + sizeofMacConf * ctrlMsg.ranConf.items.length
  let ptr ← write sz [] (put ctrlMsg.ranConf.len)
  let ptr ← ctrlMsg.ranConf.items.foldlM (fun ptr conf => write sz ptr (putMacConf conf)) ptr
  require (ptr.length = sz) "Data layout mismacth"
  return ptr

def fetchMacConf : Reader MacConf := do
  let rnti ← fetch UInt32
  let puschMcs ← fetch UInt8
  let issetPuschMcs ← fetch UInt8
  let padEnd ← fetch (Padding 2)
  return { rnti, puschMcs, issetPuschMcs, padEnd }

def macDecCtrlMsgPlain (ctrlMsg : Bytes) : Except String MacCtrlMsg := do
  require (0 < ctrlMsg.length) "len >0"
  let ranConf ← (fetchCounted fetchMacConf).whole "Data layout mismatch" ctrlMsg
  return ⟨ranConf⟩

/-! ### Event triggers, headers and outcomes -/

def macEncEventTriggerPlain := encWord
def macEncIndHdrPlain := encWord
def macEncCtrlHdrPlain := encWord
def macEncCtrlOutPlain := encWord
def macDecEventTriggerPlain := decTrigger
def macDecIndHdrPlain := decWord "len == sizeof(mac_ind_hdr_t)"
def macDecCtrlHdrPlain := decWord "len == sizeof(mac_ctrl_hdr_t)"

/-! ### Comparison -/

/-- `0.0000001` -/
def snrEps : Float4.Eps := ⟨7555786372591432, 76⟩

/-- What is compared of two records without `eq_float`. -/
def MacUeStatsImpl.SameStats (ue0 ue1 : MacUeStatsImpl) : Prop :=
  ue0.dlAggrTbs = ue1.dlAggrTbs ∧ ue0.ulAggrTbs = ue1.ulAggrTbs ∧ ue0.dlAggrBytesSdus = ue1.dlAggrBytesSdus ∧
  ue0.ulAggrBytesSdus = ue1.ulAggrBytesSdus ∧ ue0.dlCurrTbs = ue1.dlCurrTbs ∧ ue0.ulCurrTbs = ue1.ulCurrTbs ∧
  ue0.dlSchedRb = ue1.dlSchedRb ∧ ue0.ulSchedRb = ue1.ulSchedRb ∧ ue0.rnti = ue1.rnti ∧
  ue0.dlAggrPrb = ue1.dlAggrPrb ∧ ue0.ulAggrPrb = ue1.ulAggrPrb ∧ ue0.dlAggrSdus = ue1.dlAggrSdus ∧
  ue0.ulAggrSdus = ue1.ulAggrSdus ∧ ue0.dlAggrRetxPrb = ue1.dlAggrRetxPrb ∧
  ue0.ulAggrRetxPrb = ue1.ulAggrRetxPrb ∧ ue0.wbCqi = ue1.wbCqi ∧ ue0.dlMcs1 = ue1.dlMcs1 ∧
  ue0.ulMcs1 = ue1.ulMcs1 ∧ ue0.dlMcs2 = ue1.dlMcs2 ∧ ue0.ulMcs2 = ue1.ulMcs2 ∧ ue0.phr = ue1.phr ∧
  ue0.bsr = ue1.bsr ∧ ue0.dlBler.ceq ue1.dlBler ∧ ue0.ulBler.ceq ue1.ulBler ∧ ue0.dlNumHarq = ue1.dlNumHarq ∧
  ue0.dlHarq = ue1.dlHarq ∧ ue0.ulNumHarq = ue1.ulNumHarq ∧ ue0.ulHarq = ue1.ulHarq ∧ ue0.frame = ue1.frame ∧
  ue0.slot = ue1.slot

instance (ue0 ue1 : MacUeStatsImpl) : Decidable (ue0.SameStats ue1) :=
  inferInstanceAs (Decidable (_ ∧ _))

/-- One turn of the loop of `eq_mac_ind_msg`; the second noise ratio of `ue0` is compared to itself. -/
def eqMacUeStatsImpl (ue0 ue1 : MacUeStatsImpl) : Except String Bool :=
  both (same (ue0.SameStats ue1)) <|
    both (Float4.eqFloat ue0.puschSnr ue1.puschSnr snrEps) (Float4.eqFloat ue0.pucchSnr ue0.pucchSnr snrEps)

def eqMacIndMsg (m0 m1 : MacIndMsg) : Except String Bool :=
  both (same (m0.ueStats.len = m1.ueStats.len ∧ m0.tstamp = m1.tstamp)) <|
    eqArray eqMacUeStatsImpl m0.ueStats.items m1.ueStats.items

end FlexRic.Sm.Mac
