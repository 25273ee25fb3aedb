import FlexRic.Lib.Plain

/-! # Indications with an array of statistics

The plain codecs of the RLC, the PDCP and the GTP service model do the same things: the length of an array of
records, the records, each of them in one piece as it lies in memory, and a time stamp. They differ in the records,
in what they make sure of before they read, and in what the message holds that they read into. -/

namespace FlexRic.Sm
open Plain

/-- `records` are `len` records at `rb` or `ngut`. -/
structure StatsMsg (α : Type) where
  records : Counted α
  tstamp : Int64

variable {α : Type}

/-! ### Encoding -/

/-- What is written to a chunk of `sz` bytes, which is a `size_t`. -/
def encStatsMsg (record : α → Bytes) (sz : Nat) (indMsg : StatsMsg α) : Except String Bytes := do
  let sz := sz % 18446744073709551616
  let it ← write sz [] (put indMsg.records.len)
  let it ← indMsg.records.items.foldlM (fun it a => write sz it (record a)) it
  let it ← write sz it (put indMsg.tstamp)
  require (it.length = sz) "Mismatch of data layout"
  return it

/-! ### Decoding -/

/-- What a pointer holds: nothing was ever stored to it, or it is `NULL`, or an array begins where it points to. -/
inductive Pointer (α : Type)
  | undefined
  | null
  | array (xs : List α)

/-- The message that a decoder fills. -/
structure StatsRet (α : Type) where
  len : UInt32
  records : Pointer α
  tstamp : Int64

/-- `initial` is at the pointer before, and stays there when there are no records. -/
def decStatsMsg (calloc : Calloc) (initial : Pointer α) (size : Nat) (record : Reader α) : Reader (StatsRet α) := do
  let len ← fetch UInt32
  let xs ← allocated calloc size record len
  let tstamp ← fetch Int64
  return ⟨len, if 0 < len then .array xs.val else initial, tstamp⟩

/-- `next_pow2` -/
def nextPow2 (x : UInt64) : UInt64 :=
  let x := x - 1
  let x := x ||| (x >>> 1)
  let x := x ||| (x >>> 2)
  let x := x ||| (x >>> 4)
  let x := x ||| (x >>> 8)
  let x := x ||| (x >>> 16)
  let x := x ||| (x >>> 32)
  x + 1

end FlexRic.Sm
