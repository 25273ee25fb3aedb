import FlexRic.Lib.CString
import FlexRic.Sm.Slice.Types

/-! # The slice statistics as a text

`to_string_slice` of `string_parser.c`. Each piece of the text is formatted into a scratch buffer of `2048` bytes, with
the size of the output as its limit, and is then copied behind the pieces before it. -/

namespace FlexRic.IApp
open Plain Sm.Slice

/-- What `printf` makes of a `float` with `%.2f`, and of a name of no bytes with `%s` (its pointer may be `NULL`). -/
structure Printf where
  f2 : Float4 → List UInt8
  noName : List UInt8
  noNul_f2 : ∀ x, NoNul (f2 x)
  noNul_noName : NoNul noName

/-- `max` -/
def maxText : Nat := 2048

/-- The scratch buffer, the output, and how many bytes are in it. -/
structure TextBuf where
  temp : List UInt8
  out : List UInt8
  sz : Nat

namespace TextBuf

def noSpace : String := "Not enough space in the char array to write all the data"

/-- `snprintf` to the scratch buffer, and the check of its result -/
def print (b : TextBuf) (outLen : Nat) (text : List UInt8) : Outcome TextBuf := do
  let r ← snprintf b.temp outLen text
  Outcome.check (r.2 < maxText) noSpace
  return { b with temp := r.1 }

/-- `memset(temp, 0, sizeof(temp))` -/
def clear (b : TextBuf) : Outcome TextBuf := do
  let temp ← Block.write b.temp 0 (List.replicate maxText 0)
  return { b with temp }

/-- `memcpy(out + sz, temp, strlen(temp))`, and `sz` moves on. -/
def copy (b : TextBuf) : Outcome TextBuf := do
  let n ← strlen b.temp
  let bytes ← Block.read b.temp 0 n
  let out ← Block.write b.out b.sz bytes
  return { b with out, sz := b.sz + n }

/-- A piece that there may be, or not. -/
def printSome (b : TextBuf) (outLen : Nat) : Option (List UInt8) → Outcome TextBuf
  | some text => b.print outLen text
  | none => pure b

end TextBuf

section Text
variable (p : Printf)

/-- `%s` of a name -/
def nameText (name : Counted UInt8) : List UInt8 :=
  if name.items = [] then p.noName else name.items.takeWhile (· ≠ 0)

/-- The text when there are no slices. -/
def noSlicesText (slice : SliceIndMsg) (tstamp : Int64) : List UInt8 :=
  ascii "slice_stats: tstamp=" ++ decimal tstamp.toInt ++ ascii ",dl->sched_name=" ++
    nameText p slice.sliceConf.dl.schedName

/-- What precedes the first slice. -/
def slicesHead (tstamp : Int64) (lenSlices : Nat) : List UInt8 :=
  ascii "slice_stats: tstamp=" ++ decimal tstamp.toInt ++ ascii ",slice_conf,dl,len_slices=" ++ number 10 lenSlices

/-- The part that all kinds of slices have, with the value and the name of the kind. -/
def sliceHead (i : Nat) (s : FrSlice) (type : Nat) (kind : String) : List UInt8 :=
  ascii ",slice[" ++ number 10 i ++ ascii "],id=" ++ number 10 s.id.toNat ++ ascii ",label=" ++ nameText p s.label ++
    ascii ",type=" ++ number 10 type ++ ascii kind ++ ascii ",sched=" ++ nameText p s.sched

/-- What is printed of a slice; there is nothing for the kinds that have no branch. -/
def sliceText (i : Nat) (s : FrSlice) : Option (List UInt8) :=
  match s.params with
  | .sta sta => some (sliceHead p i s 1 ",static" ++ ascii ",pos_high=" ++ number 10 sta.posHigh.toNat ++
      ascii ",pos_low=" ++ number 10 sta.posLow.toNat)
  | .nvs (.rate rate) => some (sliceHead p i s 2 ",nvs" ++ ascii ",conf=" ++ number 10 0 ++ ascii ",rate,mbps_required=" ++
      p.f2 rate.mbpsRequired ++ ascii ",mbps_reference=" ++ p.f2 rate.mbpsReference)
  | .nvs (.capacity capacity) => some (sliceHead p i s 2 ",nvs" ++ ascii ",conf=" ++ number 10 1 ++
      ascii ",capacity,pct_reserved=" ++ p.f2 capacity.pctReserved)
  | .edf edf => some (sliceHead p i s 4 ",edf" ++ ascii ",deadline=" ++ number 10 edf.deadline.toNat ++
      ascii ",guaranteed_prbs=" ++ number 10 edf.guaranteedPrbs.toNat ++
      ascii ",max_replenish=" ++ number 10 edf.maxReplenish.toNat)
  | .none | .scn19 _ => none

/-- What precedes the first UE. -/
def uesHead (lenUeSlice : Nat) : List UInt8 := ascii ",ue_slice_conf,len_ue_slice=" ++ number 10 lenUeSlice

/-- What is printed of a UE; `dl_id` is printed as an `int`. -/
def ueText (i : Nat) (u : UeSliceAssoc) : List UInt8 :=
  ascii ",ues[" ++ number 10 i ++ ascii "],rnti=" ++ number 16 u.rnti.toNat ++ ascii ",dl_id=" ++
    decimal u.dlId.toBitVec.toInt

/-- One turn of the loop over the slices. -/
def sliceTurn (slice : SliceIndMsg) (tstamp : Int64) (outLen : Nat) (b : TextBuf) (x : FrSlice × Nat) :
    Outcome TextBuf := do
  let b ←
    if x.2 = 0 then do
      let b ← b.print outLen (slicesHead tstamp slice.sliceConf.dl.slices.items.length)
      b.copy
    else pure b
  let b ← b.clear
  let b ← b.printSome outLen (sliceText p x.2 x.1)
  b.copy

/-- One turn of the loop over the UEs. -/
def ueTurn (slice : SliceIndMsg) (outLen : Nat) (b : TextBuf) (x : UeSliceAssoc × Nat) : Outcome TextBuf := do
  let b ←
    if x.2 = 0 then do
      let b ← b.clear
      let b ← b.print outLen (uesHead slice.ueSliceConf.ues.items.length)
      b.copy
    else pure b
  let b ← b.clear
  let b ← b.print outLen (ueText x.2 x.1)
  b.copy

/-- All that is written to the output, up to its last zero. -/
def writeSlice (slice : SliceIndMsg) (tstamp : Int64) (out : List UInt8) (outLen : Nat) : Outcome (List UInt8) := do
  let b : TextBuf := ⟨List.replicate maxText 0, out, 0⟩
  let b ←
    if slice.sliceConf.dl.slices.items.length = 0 then do
      let b ← b.print outLen (noSlicesText p slice tstamp)
      b.copy
    else pure b
  let b ← slice.sliceConf.dl.slices.items.zipIdx.foldlM (sliceTurn p slice tstamp outLen) b
  let b ← slice.ueSliceConf.ues.items.zipIdx.foldlM (ueTurn slice outLen) b
  let out ← Block.write b.out b.sz (ascii "\n")
  Block.write out (b.sz + 1) [0]

/-- `to_string_slice`, with an output of `out_len` bytes -/
def toStringSlice (slice : SliceIndMsg) (tstamp : Int64) (out : List UInt8) (outLen : Nat) : Outcome (List UInt8) := do
  Outcome.check (outLen ≥ maxText) "out_len >= max"
  let out ← writeSlice p slice tstamp out outLen
  let n ← strlen out
  Outcome.check (n < maxText) TextBuf.noSpace
  return out

/-! ### The pieces of the text -/

/-- The pieces that a slice adds, and those that a UE adds. -/
def slicePieces (slice : SliceIndMsg) (tstamp : Int64) (x : FrSlice × Nat) : List UInt8 :=
  (if x.2 = 0 then slicesHead tstamp slice.sliceConf.dl.slices.items.length else []) ++ (sliceText p x.2 x.1).getD []

def uePieces (slice : SliceIndMsg) (x : UeSliceAssoc × Nat) : List UInt8 :=
  (if x.2 = 0 then uesHead slice.ueSliceConf.ues.items.length else []) ++ ueText x.2 x.1

/-- The whole text of the message. -/
def sliceStats (slice : SliceIndMsg) (tstamp : Int64) : List UInt8 :=
  (if slice.sliceConf.dl.slices.items.length = 0 then noSlicesText p slice tstamp else []) ++
    slice.sliceConf.dl.slices.items.zipIdx.flatMap (slicePieces p slice tstamp) ++
    slice.ueSliceConf.ues.items.zipIdx.flatMap (uePieces slice) ++ ascii "\n"

end Text

end FlexRic.IApp
