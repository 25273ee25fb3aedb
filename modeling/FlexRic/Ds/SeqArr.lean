import Mathlib.Algebra.Group.Nat.Defs
import FlexRic.Lib.Block
import FlexRic.Lib.CInt

/-! # The growable array of `seq_arr.c`

The elements lie one after the other in a block that doubles when it is full, and is halved when less than a quarter
of it is used. -/

namespace FlexRic.Ds

/-- `seq_arr_t` -/
structure SeqArr where
  data : List UInt8
  size : Nat
  eltSize : Nat
  cap : Nat
  deriving DecidableEq

namespace SeqArr

/-- `MIN_SIZE` -/
def minSize : Nat := 8

/-- `(float)n`: of the numbers with 24 significant bits the nearest, and the even one of two. -/
def toFloat (n : Nat) : Nat :=
  let unit := 2 ^ (n.log2 - 23)
  let q := n / unit
  let r := n % unit
  if 2 * r > unit ∨ 2 * r = unit ∧ q % 2 = 1 then (q + 1) * unit else q * unit

/-- `arr->size > MIN_SIZE && occ < 0.25`: the quotient of the occupation is exact, `cap` being a power of two. -/
def Sparse (arr : SeqArr) : Prop := arr.size > minSize ∧ 4 * toFloat arr.size < toFloat arr.cap

instance (arr : SeqArr) : Decidable arr.Sparse := inferInstanceAs (Decidable (_ ∧ _))

variable (A : Allocator)

/-- `realloc failed to allocate memory` in `maybe_expand`, `Memory exhausted` in `maybe_shrink` -/
def exhausted : List String := ["realloc failed to allocate memory", "Memory exhausted"]

/-- `maybe_expand` -/
def maybeExpand (arr : SeqArr) : Outcome SeqArr :=
  if arr.size + 1 = arr.cap then do
    let bytes := sizeT (2 * arr.cap * arr.eltSize)
    Outcome.check (A.gives bytes = true) "realloc failed to allocate memory"
    return { arr with data := Block.resize arr.data 0 bytes, cap := arr.cap * 2 }
  else return arr

/-- `maybe_shrink` -/
def maybeShrink (arr : SeqArr) : Outcome SeqArr :=
  if arr.Sparse then do
    Outcome.check (arr.cap > minSize) "arr->cap > MIN_SIZE"
    let cap := arr.cap / 2
    Outcome.check (A.gives (cap * cap) = true) "Memory exhausted"
    let data := List.replicate (cap * cap) 0
    Outcome.check (arr.size ≤ cap) "arr->size <= tmp.cap"
    let bytes ← Block.read arr.data 0 (sizeT (arr.size * arr.eltSize))
    let data ← Block.write data 0 bytes
    return { arr with data, cap }
  else return arr

/-- `seq_arr_init`, when `calloc` gives the block -/
def init (eltSize : Nat) : SeqArr := ⟨List.replicate (minSize * eltSize) 0, 0, eltSize, minSize⟩

/-- `seq_arr_push_back` -/
def pushBack (arr : SeqArr) (x : List UInt8) : Outcome SeqArr := do
  Outcome.check (x.length = arr.eltSize) "len == arr->elt_size"
  let arr ← arr.maybeExpand A
  let offset := sizeT (arr.size * arr.eltSize)
  let data ← Block.write arr.data offset x
  return { arr with data, size := sizeT (arr.size + 1) }

/-- `seq_arr_end`, as the number of bytes from the beginning of the block -/
def end_ (arr : SeqArr) : Nat := sizeT (arr.size * arr.eltSize)

/-- `seq_arr_erase`; the iterators are numbers of bytes from the beginning of the block. -/
def erase (arr : SeqArr) (startIt endIt : Nat) : Outcome SeqArr :=
  if startIt = endIt then return arr
  else do
    Outcome.check (endIt ≥ startIt) "end_it >= start_it"
    let numBytesMove := int32 (arr.end_ - endIt)
    Outcome.check (numBytesMove > -1) "num_bytes_move > -1"
    let moved ← Block.read arr.data endIt (sizeT numBytesMove)
    let data ← Block.write arr.data startIt moved
    let numBytesErase := int32 (endIt - startIt)
    let numElmErase := int32 (sizeT numBytesErase / arr.eltSize)
    Outcome.check (numElmErase > 0) "num_elm_erase > 0"
    let arr := { arr with data, size := sizeT (arr.size - numElmErase) }
    let data ← Block.write arr.data arr.end_ (List.replicate (sizeT numBytesErase) 0)
    maybeShrink A { arr with data }

/-- `seq_arr_at`, and the bytes of the element there -/
def at_ (arr : SeqArr) (pos : Nat) : Outcome (List UInt8) := do
  Outcome.check (pos < arr.size) "pos < arr->size"
  Block.read arr.data (sizeT (pos * arr.eltSize)) arr.eltSize

/-! ### The operations that an array sees -/

/-- An array, and the elements that were pushed to it and not erased. -/
structure Traced where
  arr : SeqArr
  live : List (List UInt8)
  deriving DecidableEq

inductive Op
  /-- `seq_arr_push_back` -/
  | push (x : List UInt8)
  /-- `seq_arr_erase` of the elements from `i` on and before `j` -/
  | erase (i j : Nat)
  deriving DecidableEq

def Traced.step (s : Traced) : Op → Outcome Traced
  | .push x => do
    Outcome.await (x.length = s.arr.eltSize)
    let arr ← s.arr.pushBack A x
    return ⟨arr, s.live ++ [x]⟩
  | .erase i j => do
    Outcome.await (i ≤ j ∧ j ≤ s.live.length)
    let arr ← s.arr.erase A (i * s.arr.eltSize) (j * s.arr.eltSize)
    return ⟨arr, s.live.take i ++ s.live.drop j⟩

/-- The sizes of elements for which `seq_arr_init` gets its block. -/
abbrev EltSize := { n : Nat // A.gives (minSize * n) = true }

end SeqArr

/-- An array from its initialisation on. -/
def seqArr (A : Allocator) (n : SeqArr.EltSize A) : System SeqArr.Traced SeqArr.Op :=
  ⟨⟨.init n, []⟩, SeqArr.Traced.step A⟩

end FlexRic.Ds
