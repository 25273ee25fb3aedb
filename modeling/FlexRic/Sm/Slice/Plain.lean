import FlexRic.Sm.Slice.Types

/-! # The plain codec of the slice service model

`slice_enc_plain.c` and `slice_dec_plain.c`. The size of a message is computed first, by the functions `cal`;
the functions `fill` write the message into a chunk of that size, or read it back. -/

namespace FlexRic.Sm.Slice
open Plain

/-! ### Encoding -/

namespace Enc

def calStatic (_ : StaticSlice) : Nat := sizeof UInt32 + sizeof UInt32

def calNvs : NvsSlice → Nat
  | .rate _ => sizeofEnum + sizeof Float4 + sizeof Float4
  | .capacity _ => sizeofEnum + sizeof Float4

def calScn19 : Scn19Slice → Nat
  | .dynamic _ => sizeofEnum + sizeof Float4 + sizeof Float4
  | .fixed _ => sizeofEnum + sizeof UInt32 + sizeof UInt32
  | .onDemand _ => sizeofEnum + sizeof Float4 + sizeof Float4 + sizeof UInt32

def calEdf (edf : EdfSlice) : Nat :=
  sizeof UInt32 + sizeof UInt32 + sizeof UInt32 + sizeof UInt32 + (edf.over_.items.map fun _ => sizeof UInt32).sum

def calParams : SliceParams → Except String Nat
  | .none => throw "Unknown slicing type"
  | .sta sta => return sizeofEnum + calStatic sta
  | .nvs nvs => return sizeofEnum + calNvs nvs
  | .scn19 scn19 => return sizeofEnum + calScn19 scn19
  | .edf edf => return sizeofEnum + calEdf edf

/-- One turn of the loop of `cal_slc`. -/
def calSlice (slc : FrSlice) : Except String Nat := do
  let szPar ← calParams slc.params
  return sizeof UInt32 + sizeof UInt32 + slc.label.items.length + sizeof UInt32 + slc.sched.items.length + szPar

def calSlc (slc : List FrSlice) : Except String Nat := do
  let szs ← slc.mapM calSlice
  return szs.sum

def calUlDl (slc : UlDlSliceConf) : Except String Nat := do
  let szSlice ← calSlc slc.slices.items
  return sizeof UInt32 + slc.schedName.items.length + sizeof UInt32 + szSlice

def calSliceConf (slc : SliceConf) : Except String Nat := do
  let ul ← calUlDl slc.ul
  let dl ← calUlDl slc.dl
  return ul + dl

def calUeSliceAssoc (_ : UeSliceAssoc) : Nat := sizeof UInt32 + sizeof UInt32 + sizeof UInt16

def calUeSliceConf (slc : UeSliceConf) : Nat := sizeof UInt32 + (slc.ues.items.map calUeSliceAssoc).sum

def calIndMsgPayload (indMsg : SliceIndMsg) : Except String Nat := do
  let szConf ← calSliceConf indMsg.sliceConf
  return szConf + calUeSliceConf indMsg.ueSliceConf + sizeof Int64

def fillStatic (sta : StaticSlice) : Bytes := put sta.posHigh ++ put sta.posLow

def fillRate (nvs : NvsRate) : Bytes := put nvs.mbpsReference ++ put nvs.mbpsRequired

def fillCapacity (nvs : NvsCapacity) : Bytes := put nvs.pctReserved

def fillNvs : NvsSlice → Bytes
  | .rate rate => putEnum NvsSliceConf.rate ++ fillRate rate
  | .capacity capacity => putEnum NvsSliceConf.capacity ++ fillCapacity capacity

def fillOnDemand (scn : Scn19OnDemand) : Bytes := put scn.logDelta ++ put scn.pctReserved ++ put scn.tau

def fillScn19 : Scn19Slice → Bytes
  | .dynamic dynamic => putEnum Scn19SliceConf.dynamic ++ fillRate dynamic
  | .fixed fixed => putEnum Scn19SliceConf.fixed ++ fillStatic fixed
  | .onDemand onDemand => putEnum Scn19SliceConf.onDemand ++ fillOnDemand onDemand

def fillEdf (edf : EdfSlice) : Bytes :=
  put edf.deadline ++ put edf.guaranteedPrbs ++ put edf.maxReplenish ++ put edf.over_.len ++ edf.over_.items.flatMap put

def fillParams : SliceParams → Except String Bytes
  | .none => throw "Unknown parameter type"
  | .sta sta => return putEnum SliceAlgorithm.static ++ fillStatic sta
  | .nvs nvs => return putEnum SliceAlgorithm.nvs ++ fillNvs nvs
  | .scn19 scn19 => return putEnum SliceAlgorithm.scn19 ++ fillScn19 scn19
  | .edf edf => return putEnum SliceAlgorithm.edf ++ fillEdf edf

def fillSlice (slc : FrSlice) : Except String Bytes := do
  let params ← fillParams slc.params
  return put slc.id ++ put slc.label.len ++ slc.label.items.flatMap put ++ put slc.sched.len ++
    slc.sched.items.flatMap put ++ params

def fillUlDlSliceConf (conf : UlDlSliceConf) : Except String Bytes := do
  let slices ← conf.slices.items.mapM fillSlice
  return put conf.schedName.len ++ conf.schedName.items.flatMap put ++ put conf.slices.len ++ slices.flatten

def fillSliceConf (conf : SliceConf) : Except String Bytes := do
  let dl ← fillUlDlSliceConf conf.dl
  let ul ← fillUlDlSliceConf conf.ul
  return dl ++ ul

def fillUeSliceAssoc (assoc : UeSliceAssoc) : Bytes := put assoc.dlId ++ put assoc.ulId ++ put assoc.rnti

def fillUeSliceConf (slc : UeSliceConf) : Bytes := put slc.ues.len ++ slc.ues.items.flatMap fillUeSliceAssoc

def calDelSlice (del : DelSliceConf) : Nat :=
  sizeof UInt32 + del.dl.items.length * sizeof UInt32 + sizeof UInt32 + del.ul.items.length * sizeof UInt32

def calCtrlMsgPayload : SliceCtrlMsg → Except String Nat
  | .add addModSlice => do
    let szConf ← calSliceConf addModSlice
    return sizeofEnum + szConf
  | .del delSlice => return sizeofEnum + calDelSlice delSlice
  | .ueSliceAssoc ueSlice => return sizeofEnum + calUeSliceConf ueSlice

def fillDelSliceConf (conf : DelSliceConf) : Bytes :=
  put conf.dl.len ++ conf.dl.items.flatMap put ++ put conf.ul.len ++ conf.ul.items.flatMap put

def fillSliceCtrlMsg : SliceCtrlMsg → Except String Bytes
  | .add addModSlice => do
    let conf ← fillSliceConf addModSlice
    return putEnum SliceCtrlMsgE.add ++ conf
  | .del delSlice => return putEnum SliceCtrlMsgE.del ++ fillDelSliceConf delSlice
  | .ueSliceAssoc ueSlice => return putEnum SliceCtrlMsgE.ueSliceAssoc ++ fillUeSliceConf ueSlice

end Enc

open Enc in
def sliceEncIndMsgPlain (indMsg : SliceIndMsg) : Except String Bytes := do
  let sz ← calIndMsgPayload indMsg
  let it ← fillSliceConf indMsg.sliceConf
  require (it.length < sz) "iterator out of the chunk of memory"
  let it := it ++ fillUeSliceConf indMsg.ueSliceConf
  require (it.length < sz) "iterator out of the chunk of memory"
  let it := it ++ put indMsg.tstamp
  require (it.length = sz) "Mismatch of data layout"
  return it

open Enc in
def sliceEncCtrlMsgPlain (ctrlMsg : SliceCtrlMsg) : Except String Bytes := do
  let sz ← calCtrlMsgPayload ctrlMsg
  let it ← fillSliceCtrlMsg ctrlMsg
  require (it.length = sz) "Mismatch of data layout"
  return it

def sliceEncCtrlOutPlain (ctrl : SliceCtrlOut) : Except String Bytes := do
  let len := sizeof UInt32 + ctrl.diagnostic.items.length
  let it := put ctrl.diagnostic.len ++ ctrl.diagnostic.items.flatMap put
  require (it.length = len) "it == ba.buf + ba.len"
  return it

/-! ### Decoding -/

namespace Dec

def fillStatic : Reader StaticSlice := do
  let posHigh ← fetch UInt32
  let posLow ← fetch UInt32
  return ⟨posLow, posHigh⟩

def fillRate : Reader NvsRate := do
  let mbpsReference ← fetch Float4
  let mbpsRequired ← fetch Float4
  return ⟨mbpsRequired, mbpsReference⟩

def fillCapacity : Reader NvsCapacity := do
  let pctReserved ← fetch Float4
  return ⟨pctReserved⟩

def fillNvs : Reader NvsSlice := do
  match ← fetchEnum NvsSliceConf "Unknown type" with
  | .rate => return .rate (← fillRate)
  | .capacity => return .capacity (← fillCapacity)

def fillOnDemand : Reader Scn19OnDemand := do
  let logDelta ← fetch Float4
  let pctReserved ← fetch Float4
  let tau ← fetch UInt32
  return ⟨pctReserved, logDelta, tau⟩

def fillScn19 : Reader Scn19Slice := do
  match ← fetchEnum Scn19SliceConf "Unknown configuration" with
  | .dynamic => return .dynamic (← fillRate)
  | .fixed => return .fixed (← fillStatic)
  | .onDemand => return .onDemand (← fillOnDemand)

def fillEdf : Reader EdfSlice := do
  let deadline ← fetch UInt32
  let guaranteedPrbs ← fetch UInt32
  let maxReplenish ← fetch UInt32
  let over_ ← fetchCounted (fetch UInt32)
  return ⟨deadline, guaranteedPrbs, maxReplenish, over_⟩

def fillParams : Reader SliceParams := do
  match ← fetchEnum SliceAlgorithm "Unknown parameter type" with
  | .none => throw "Unknown parameter type"
  | .static => return .sta (← fillStatic)
  | .nvs => return .nvs (← fillNvs)
  | .scn19 => return .scn19 (← fillScn19)
  | .edf => return .edf (← fillEdf)

def fillSlice : Reader FrSlice := do
  let id ← fetch UInt32
  let label ← fetchCounted (fetch UInt8)
  let sched ← fetchCounted (fetch UInt8)
  let params ← fillParams
  return ⟨id, label, sched, params⟩

def fillUlDlSliceConf : Reader UlDlSliceConf := do
  let schedName ← fetchCounted (fetch UInt8)
  let slices ← fetchCounted fillSlice
  return ⟨slices, schedName⟩

def fillSliceConf : Reader SliceConf := do
  let dl ← fillUlDlSliceConf
  let ul ← fillUlDlSliceConf
  return ⟨dl, ul⟩

def fillUeSliceAssoc : Reader UeSliceAssoc := do
  let dlId ← fetch UInt32
  let ulId ← fetch UInt32
  let rnti ← fetch UInt16
  return ⟨dlId, ulId, rnti⟩

def fillUeSliceConf : Reader UeSliceConf := do
  let ues ← fetchCounted fillUeSliceAssoc
  return ⟨ues⟩

def fillDelSlice : Reader DelSliceConf := do
  let dl ← fetchCounted (fetch UInt32)
  let ul ← fetchCounted (fetch UInt32)
  return ⟨dl, ul⟩

def fillIndMsg : Reader SliceIndMsg := do
  let sliceConf ← fillSliceConf
  withinChunk "iterator out of memory chunk"
  let ueSliceConf ← fillUeSliceConf
  withinChunk "iterator out of memory chunk"
  let tstamp ← fetch Int64
  return ⟨sliceConf, ueSliceConf, tstamp⟩

def fillCtrlMsg : Reader SliceCtrlMsg := do
  match ← fetchEnum SliceCtrlMsgE "Unknonw type" with
  | .add => return .add (← fillSliceConf)
  | .del => return .del (← fillDelSlice)
  | .ueSliceAssoc => return .ueSliceAssoc (← fillUeSliceConf)

end Dec

/-- The size of `calloc(1, len + 1)`, which is a `uint32_t` -/
def textBlock (len : UInt32) : Nat := (len + 1).toNat

/-- The text is copied into the block that is allocated for it, and not past its end. No block is for an empty one. -/
def InBlock (text : Counted UInt8) : Prop := 0 < text.len → text.items.length ≤ textBlock text.len

instance (text : Counted UInt8) : Decidable (InBlock text) := inferInstanceAs (Decidable (_ → _))

/-- Why a decoder that writes past the end of a block has failed. The readers go on until the message is read. -/
def blockEnd : String := "write past the end of the block"

def inBlocks {α : Type} (texts : α → List (Counted UInt8)) (a : α) : Except String α := do
  require (∀ text ∈ texts a, InBlock text) blockEnd
  return a

def sliceDecIndMsgPlain (indMsg : Bytes) : Except String SliceIndMsg := do
  let ind ← Dec.fillIndMsg.whole "Data layout mismacth" indMsg
  inBlocks SliceIndMsg.texts ind

def sliceDecCtrlMsgPlain (ctrlMsg : Bytes) : Except String SliceCtrlMsg := do
  require (0 < ctrlMsg.length) "len >0"
  let ctrl ← Dec.fillCtrlMsg.whole "Data layout mismatch" ctrlMsg
  inBlocks SliceCtrlMsg.texts ctrl

/-- What comes after the diagnostic is not looked at, and the answer stays the first of the enumeration. -/
def sliceDecCtrlOutPlain (ctrlOut : Bytes) : Except String SliceCtrlOut := do
  let (diagnostic, _) ← fetchCounted (fetch UInt8) ctrlOut
  return ⟨.ok, diagnostic⟩

/-! ### Event triggers and headers -/

def sliceEncEventTriggerPlain := encWord
def sliceEncIndHdrPlain := encWord
def sliceEncCtrlHdrPlain := encWord
def sliceDecEventTriggerPlain := decTrigger
def sliceDecCtrlHdrPlain := decWord "len == sizeof(slice_ctrl_hdr_t)"

end FlexRic.Sm.Slice
