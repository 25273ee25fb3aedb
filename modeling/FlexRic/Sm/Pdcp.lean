import FlexRic.Sm.Stats

/-! # The PDCP service model

`pdcp_data_ie.h`, and the plain codec of indications, of control messages and of their outcomes. -/

namespace FlexRic.Sm.Pdcp
open Plain

/-- `pdcp_radio_bearer_stats_t` -/
structure PdcpRadioBearerStats where
  txpduPkts : UInt32
  txpduBytes : UInt32
  txpduSn : UInt32
  rxpduPkts : UInt32
  rxpduBytes : UInt32
  rxpduSn : UInt32
  rxpduOoPkts : UInt32
  rxpduOoBytes : UInt32
  rxpduDdPkts : UInt32
  rxpduDdBytes : UInt32
  rxpduRoCount : UInt32
  txsduPkts : UInt32
  txsduBytes : UInt32
  rxsduPkts : UInt32
  rxsduBytes : UInt32
  rnti : UInt32
  mode : UInt8
  rbid : UInt8
  padEnd : Padding 2

/-- `sizeof(pdcp_radio_bearer_stats_t)` -/
def sizeofPdcpRadioBearerStats : Nat := 68

abbrev PdcpIndMsg := StatsMsg PdcpRadioBearerStats

/-! ### Encoding -/

/-- The bytes of a record in memory. -/
def putPdcpRadioBearerStats (rb : PdcpRadioBearerStats) : Bytes :=
  put rb.txpduPkts ++ (put rb.txpduBytes ++ (put rb.txpduSn ++ (put rb.rxpduPkts ++ (put rb.rxpduBytes ++
  (put rb.rxpduSn ++ (put rb.rxpduOoPkts ++ (put rb.rxpduOoBytes ++ (put rb.rxpduDdPkts ++
  (put rb.rxpduDdBytes ++ (put rb.rxpduRoCount ++ (put rb.txsduPkts ++ (put rb.txsduBytes ++
  (put rb.rxsduPkts ++ (put rb.rxsduBytes ++ (put rb.rnti ++ (put rb.mode ++ (put rb.rbid ++ put rb.padEnd)))))))))))))))))

def pdcpEncIndMsgPlain (indMsg : PdcpIndMsg) : Except String Bytes :=
  let sz := sizeof UInt32 + sizeof Int64 + sizeofPdcpRadioBearerStats * indMsg.records.items.length
  encStatsMsg putPdcpRadioBearerStats sz indMsg

def pdcpEncEventTriggerPlain := encWord
def pdcpEncIndHdrPlain := encWord
def pdcpEncCtrlHdrPlain := encWord
def pdcpEncCtrlMsgPlain := encWord
def pdcpEncCtrlOutPlain := encWord

/-! ### Decoding -/

def fetchPdcpRadioBearerStats : Reader PdcpRadioBearerStats := do
  let txpduPkts ← fetch UInt32
  let txpduBytes ← fetch UInt32
  let txpduSn ← fetch UInt32
  let rxpduPkts ← fetch UInt32
  let rxpduBytes ← fetch UInt32
  let rxpduSn ← fetch UInt32
  let rxpduOoPkts ← fetch UInt32
  let rxpduOoBytes ← fetch UInt32
  let rxpduDdPkts ← fetch UInt32
  let rxpduDdBytes ← fetch UInt32
  let rxpduRoCount ← fetch UInt32
  let txsduPkts ← fetch UInt32
  let txsduBytes ← fetch UInt32
  let rxsduPkts ← fetch UInt32
  let rxsduBytes ← fetch UInt32
  let rnti ← fetch UInt32
  let mode ← fetch UInt8
  let rbid ← fetch UInt8
  let padEnd ← fetch (Padding 2)
  return { txpduPkts, txpduBytes, txpduSn, rxpduPkts, rxpduBytes, rxpduSn, rxpduOoPkts, rxpduOoBytes, rxpduDdPkts,
           rxpduDdBytes, rxpduRoCount, txsduPkts, txsduBytes, rxsduPkts, rxsduBytes, rnti, mode, rbid, padEnd }

/-- The message is not initialised. -/
def pdcpDecIndMsgPlain (calloc : Calloc) (indMsg : Bytes) : Except String (StatsRet PdcpRadioBearerStats) := do
  require (indMsg.length ≥ sizeof UInt32 + sizeof Int64) "len >= sizeof(uint32_t) + sizeof(int64_t)"
  (decStatsMsg calloc .undefined sizeofPdcpRadioBearerStats fetchPdcpRadioBearerStats).whole "Data layout mismatch"
    indMsg

def pdcpDecEventTriggerPlain := decTrigger
def pdcpDecIndHdrPlain := decWord "len == sizeof(pdcp_ind_hdr_t)"
def pdcpDecCtrlHdrPlain := decWord "len == sizeof(pdcp_ctrl_hdr_t)"
def pdcpDecCtrlMsgPlain := decWord "len == sizeof(pdcp_ctrl_msg_t)"
def pdcpDecCtrlOutPlain := decOutcome "len == sizeof(pdcp_ctrl_out_t)"

end FlexRic.Sm.Pdcp
