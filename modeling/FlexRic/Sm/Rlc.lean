import FlexRic.Sm.Stats

/-! # The RLC service model

`rlc_data_ie.h`, and the plain codec of indications and of control messages. -/

namespace FlexRic.Sm.Rlc
open Plain

/-- `rlc_radio_bearer_stats_t`, which is aligned to eight bytes. -/
structure RlcRadioBearerStats where
  txpduPkts : UInt32
  txpduBytes : UInt32
  txpduWtMs : UInt32
  txpduDdPkts : UInt32
  txpduDdBytes : UInt32
  txpduRetxPkts : UInt32
  txpduRetxBytes : UInt32
  txpduSegmented : UInt32
  txpduStatusPkts : UInt32
  txpduStatusBytes : UInt32
  txbufOccBytes : UInt32
  txbufOccPkts : UInt32
  rxpduPkts : UInt32
  rxpduBytes : UInt32
  rxpduDupPkts : UInt32
  rxpduDupBytes : UInt32
  rxpduDdPkts : UInt32
  rxpduDdBytes : UInt32
  rxpduOwPkts : UInt32
  rxpduOwBytes : UInt32
  rxpduStatusPkts : UInt32
  rxpduStatusBytes : UInt32
  rxbufOccBytes : UInt32
  rxbufOccPkts : UInt32
  txsduPkts : UInt32
  padSdu : Padding 4
  txsduBytes : UInt64
  txsduAvgTimeToTx : Float8
  txsduWtUs : UInt32
  rxsduPkts : UInt32
  rxsduBytes : UInt64
  rxsduDdPkts : UInt32
  rxsduDdBytes : UInt32
  rnti : UInt32
  mode : UInt8
  rbid : UInt8
  padEnd : Padding 2

/-- `sizeof(rlc_radio_bearer_stats_t)` -/
def sizeofRlcRadioBearerStats : Nat := 152

abbrev RlcIndMsg := StatsMsg RlcRadioBearerStats

/-! ### Encoding -/

/-- The bytes of a record in memory. -/
def putRlcRadioBearerStats (rb : RlcRadioBearerStats) : Bytes :=
  put rb.txpduPkts ++ (put rb.txpduBytes ++ (put rb.txpduWtMs ++ (put rb.txpduDdPkts ++ (put rb.txpduDdBytes ++
  (put rb.txpduRetxPkts ++ (put rb.txpduRetxBytes ++ (put rb.txpduSegmented ++ (put rb.txpduStatusPkts ++
  (put rb.txpduStatusBytes ++ (put rb.txbufOccBytes ++ (put rb.txbufOccPkts ++ (put rb.rxpduPkts ++
  (put rb.rxpduBytes ++ (put rb.rxpduDupPkts ++ (put rb.rxpduDupBytes ++ (put rb.rxpduDdPkts ++
  (put rb.rxpduDdBytes ++ (put rb.rxpduOwPkts ++ (put rb.rxpduOwBytes ++ (put rb.rxpduStatusPkts ++
  (put rb.rxpduStatusBytes ++ (put rb.rxbufOccBytes ++ (put rb.rxbufOccPkts ++ (put rb.txsduPkts ++
  (put rb.padSdu ++ (put rb.txsduBytes ++ (put rb.txsduAvgTimeToTx ++ (put rb.txsduWtUs ++ (put rb.rxsduPkts ++
  (put rb.rxsduBytes ++ (put rb.rxsduDdPkts ++ (put rb.rxsduDdBytes ++ (put rb.rnti ++ (put rb.mode ++
  (put rb.rbid ++ put rb.padEnd)))))))))))))))))))))))))))))))))))

def rlcEncIndMsgPlain (indMsg : RlcIndMsg) : Except String Bytes :=
  let sz := sizeof UInt32 + sizeofRlcRadioBearerStats * indMsg.records.items.length + sizeof Int64
  encStatsMsg putRlcRadioBearerStats sz indMsg

def rlcEncEventTriggerPlain := encWord
def rlcEncIndHdrPlain := encWord
def rlcEncCtrlHdrPlain := encWord
def rlcEncCtrlMsgPlain := encWord

/-! ### Decoding -/

def fetchRlcRadioBearerStats : Reader RlcRadioBearerStats := do
  let txpduPkts ← fetch UInt32
  let txpduBytes ← fetch UInt32
  let txpduWtMs ← fetch UInt32
  let txpduDdPkts ← fetch UInt32
  let txpduDdBytes ← fetch UInt32
  let txpduRetxPkts ← fetch UInt32
  let txpduRetxBytes ← fetch UInt32
  let txpduSegmented ← fetch UInt32
  let txpduStatusPkts ← fetch UInt32
  let txpduStatusBytes ← fetch UInt32
  let txbufOccBytes ← fetch UInt32
  let txbufOccPkts ← fetch UInt32
  let rxpduPkts ← fetch UInt32
  let rxpduBytes ← fetch UInt32
  let rxpduDupPkts ← fetch UInt32
  let rxpduDupBytes ← fetch UInt32
  let rxpduDdPkts ← fetch UInt32
  let rxpduDdBytes ← fetch UInt32
  let rxpduOwPkts ← fetch UInt32
  let rxpduOwBytes ← fetch UInt32
  let rxpduStatusPkts ← fetch UInt32
  let rxpduStatusBytes ← fetch UInt32
  let rxbufOccBytes ← fetch UInt32
  let rxbufOccPkts ← fetch UInt32
  let txsduPkts ← fetch UInt32
  let padSdu ← fetch (Padding 4)
  let txsduBytes ← fetch UInt64
  let txsduAvgTimeToTx ← fetch Float8
  let txsduWtUs ← fetch UInt32
  let rxsduPkts ← fetch UInt32
  let rxsduBytes ← fetch UInt64
  let rxsduDdPkts ← fetch UInt32
  let rxsduDdBytes ← fetch UInt32
  let rnti ← fetch UInt32
  let mode ← fetch UInt8
  let rbid ← fetch UInt8
  let padEnd ← fetch (Padding 2)
  return { txpduPkts, txpduBytes, txpduWtMs, txpduDdPkts, txpduDdBytes, txpduRetxPkts, txpduRetxBytes,
           txpduSegmented, txpduStatusPkts, txpduStatusBytes, txbufOccBytes, txbufOccPkts, rxpduPkts, rxpduBytes,
           rxpduDupPkts, rxpduDupBytes, rxpduDdPkts, rxpduDdBytes, rxpduOwPkts, rxpduOwBytes, rxpduStatusPkts,
           rxpduStatusBytes, rxbufOccBytes, rxbufOccPkts, txsduPkts, padSdu, txsduBytes, txsduAvgTimeToTx,
           txsduWtUs, rxsduPkts, rxsduBytes, rxsduDdPkts, rxsduDdBytes, rnti, mode, rbid, padEnd }

/-- `sizeof(rlc_ind_msg_t)` without a pointer. -/
def sizeofRlcIndMsg : UInt64 := 24 - 8

def rlcDecIndMsgPlain (calloc : Calloc) (indMsg : Bytes) : Except String (StatsRet RlcRadioBearerStats) := do
  require (nextPow2 (UInt64.ofNat indMsg.length) ≥ sizeofRlcIndMsg) (
    "Less bytes than the case where there are not active Radio bearers! " ++
    "Next pow2 trick used for aligned struct")
  (decStatsMsg calloc .null sizeofRlcRadioBearerStats fetchRlcRadioBearerStats).whole "Mismatch of data layout" indMsg

def rlcDecEventTriggerPlain := decTrigger
def rlcDecIndHdrPlain := decWord "len == sizeof(rlc_ind_hdr_t)"
def rlcDecCtrlHdrPlain := decWord "len == sizeof(rlc_ctrl_hdr_t)"
def rlcDecCtrlMsgPlain := decWord "len == sizeof(rlc_ctrl_msg_t)"

end FlexRic.Sm.Rlc
