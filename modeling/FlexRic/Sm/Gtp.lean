import FlexRic.Sm.Stats

/-! # The GTP service model

`gtp_data_ie.h`, and the plain codec of indications and of control messages. -/

namespace FlexRic.Sm.Gtp
open Plain

/-- `gtp_ngu_t_stats_t` -/
structure GtpNguTStats where
  rnti : UInt32
  teidgnb : UInt32
  teidupf : UInt32
  qfi : UInt8
  padEnd : Padding 3

/-- `sizeof(gtp_ngu_t_stats_t)` -/
def sizeofGtpNguTStats : Nat := 16

abbrev GtpIndMsg := StatsMsg GtpNguTStats

/-! ### Encoding -/

/-- The bytes of a record in memory. -/
def putGtpNguTStats (ngut : GtpNguTStats) : Bytes :=
  put ngut.rnti ++ (put ngut.teidgnb ++ (put ngut.teidupf ++ (put ngut.qfi ++ put ngut.padEnd)))

def gtpEncIndMsgPlain (indMsg : GtpIndMsg) : Except String Bytes :=
  let sz := sizeof UInt32 + sizeofGtpNguTStats * indMsg.records.items.length + sizeof Int64
  encStatsMsg putGtpNguTStats sz indMsg

def gtpEncEventTriggerPlain := encWord
def gtpEncIndHdrPlain := encWord
def gtpEncCtrlHdrPlain := encWord
def gtpEncCtrlMsgPlain := encWord

/-! ### Decoding -/

def fetchGtpNguTStats : Reader GtpNguTStats := do
  let rnti ← fetch UInt32
  let teidgnb ← fetch UInt32
  let teidupf ← fetch UInt32
  let qfi ← fetch UInt8
  let padEnd ← fetch (Padding 3)
  return { rnti, teidgnb, teidupf, qfi, padEnd }

/-- `sizeof(gtp_ind_msg_t)` without a pointer. -/
def sizeofGtpIndMsg : UInt64 := 24 - 8

def gtpDecIndMsgPlain (calloc : Calloc) (indMsg : Bytes) : Except String (StatsRet GtpNguTStats) := do
  require (nextPow2 (UInt64.ofNat indMsg.length) ≥ sizeofGtpIndMsg) (
    "Less bytes than the case where there are not active Radio bearers! " ++
    "Next pow2 trick used for aligned struct")
  (decStatsMsg calloc .null sizeofGtpNguTStats fetchGtpNguTStats).whole "Mismatch of data layout" indMsg

def gtpDecEventTriggerPlain := decTrigger
def gtpDecIndHdrPlain := decWord "len == sizeof(gtp_ind_hdr_t)"
def gtpDecCtrlHdrPlain := decWord "len == sizeof(gtp_ctrl_hdr_t)"
def gtpDecCtrlMsgPlain := decWord "len == sizeof(gtp_ctrl_msg_t)"

end FlexRic.Sm.Gtp
