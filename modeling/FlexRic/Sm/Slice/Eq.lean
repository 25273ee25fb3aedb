import FlexRic.Lib.Equality
import FlexRic.Lib.Float4
import FlexRic.Sm.Slice.Types

/-! # Copies and comparisons of the slice service model

The functions `cp` and `eq` of `slice_data_ie.c`. -/

namespace FlexRic.Sm.Slice
open Plain

/-! ### Outcomes of controls -/

def cpSliceCtrlOut (src : SliceCtrlOut) : SliceCtrlOut := ⟨.ok, src.diagnostic⟩

def eqSliceCtrlOut (m0 m1 : SliceCtrlOut) : Except String Bool :=
  both (same (m0.diagnostic.len = m1.diagnostic.len)) <|
    if m0.diagnostic.len > 0 then memcmp m0.diagnostic.items m1.diagnostic.items m0.diagnostic.len.toNat
    else return true

/-! ### Indication messages -/

def eqStaticSlice (m0 m1 : StaticSlice) : Except String Bool :=
  both (same (m0.posHigh = m1.posHigh)) (same (m0.posLow = m1.posLow))

def eqNvsRate (m0 m1 : NvsRate) : Except String Bool :=
  both (same (m0.mbpsReference.ceq m1.mbpsReference)) (same (m0.mbpsRequired.ceq m1.mbpsRequired))

def eqNvsCap (m0 m1 : NvsCapacity) : Except String Bool := same (m0.pctReserved.ceq m1.pctReserved)

def eqNvsSlice : NvsSlice → NvsSlice → Except String Bool
  | .rate m0, .rate m1 => eqNvsRate m0 m1
  | .capacity m0, .capacity m1 => eqNvsCap m0 m1
  | _, _ => return false

def eqScn19OnDemand (m0 m1 : Scn19OnDemand) : Except String Bool :=
  both (same (m0.logDelta.ceq m1.logDelta)) <| both (same (m0.pctReserved.ceq m1.pctReserved)) (same (m0.tau = m1.tau))

def eqScn19Slice : Scn19Slice → Scn19Slice → Except String Bool
  | .dynamic m0, .dynamic m1 => eqNvsRate m0 m1
  | .fixed m0, .fixed m1 => eqStaticSlice m0 m1
  | .onDemand m0, .onDemand m1 => eqScn19OnDemand m0 m1
  | _, _ => return false

/-- The lengths of the arrays are compared after their items. -/
def eqEdfSlice (m0 m1 : EdfSlice) : Except String Bool :=
  both (eqArray (fun a b => same (a = b)) m0.over_.items m1.over_.items) <|
    both (same (m0.deadline = m1.deadline)) <| both (same (m0.guaranteedPrbs = m1.guaranteedPrbs)) <|
      both (same (m0.maxReplenish = m1.maxReplenish)) (same (m0.over_.len = m1.over_.len))

/-- There is no branch for two parameters of no algorithm. -/
def eqSliceParams : SliceParams → SliceParams → Except String Bool
  | .sta m0, .sta m1 => eqStaticSlice m0 m1
  | .nvs m0, .nvs m1 => eqNvsSlice m0 m1
  | .scn19 m0, .scn19 m1 => eqScn19Slice m0 m1
  | .edf m0, .edf m1 => eqEdfSlice m0 m1
  | _, _ => return false

/-- Of the scheduler only the length is compared. -/
def eqSlice (m0 m1 : FrSlice) : Except String Bool :=
  both (same (m0.id = m1.id)) <| both (same (m0.label.len = m1.label.len)) <|
    both (memcmp m0.label.items m1.label.items m0.label.len.toNat) <|
      both (same (m0.sched.len = m1.sched.len)) (eqSliceParams m0.params m1.params)

def eqUlDlSliceConf (m0 m1 : UlDlSliceConf) : Except String Bool :=
  both (same (m0.schedName.len = m1.schedName.len)) <| both (same (m0.slices.len = m1.slices.len)) <|
    both (memcmp m0.schedName.items m1.schedName.items m0.schedName.len.toNat) <|
      eqArray eqSlice m0.slices.items m1.slices.items

def eqSliceConf (m0 m1 : SliceConf) : Except String Bool :=
  both (eqUlDlSliceConf m0.ul m1.ul) (eqUlDlSliceConf m0.dl m1.dl)

def eqUeSliceAssoc (m0 m1 : UeSliceAssoc) : Except String Bool :=
  both (same (m0.dlId = m1.dlId)) <| both (same (m0.rnti = m1.rnti)) (same (m0.ulId = m1.ulId))

def eqUeSliceConf (m0 m1 : UeSliceConf) : Except String Bool :=
  both (same (m0.ues.len = m1.ues.len)) (eqArray eqUeSliceAssoc m0.ues.items m1.ues.items)

def eqSliceIndMsg (m0 m1 : SliceIndMsg) : Except String Bool :=
  both (eqSliceConf m0.sliceConf m1.sliceConf) <| both (eqUeSliceConf m0.ueSliceConf m1.ueSliceConf)
    (same (m0.tstamp = m1.tstamp))

/-! ### Control messages -/

def eqDelSlice (m0 m1 : DelSliceConf) : Except String Bool :=
  both (same (m0.dl.len = m1.dl.len)) <| both (eqArray (fun a b => same (a = b)) m0.dl.items m1.dl.items) <|
    both (same (m0.ul.len = m1.ul.len)) (eqArray (fun a b => same (a = b)) m0.ul.items m1.ul.items)

/-- An array that the pointer of another member of the union points to: only its length can be read. -/
def eqForeign (len : UInt32) (len' : UInt32) (rest : Except String Bool) : Except String Bool :=
  both (same (len = len')) <| if len > 0 then throw "read of an array of another type" else rest

/-- The kind of the second message is not compared: its union is read as the member that the first one has.
The members begin with the length of an array and the pointer to it, and the first two of them go on with
another such pair; what is behind the member of a message is not specified. -/
def eqSliceCtrlMsg : SliceCtrlMsg → SliceCtrlMsg → Except String Bool
  | .add m0, .add m1 => eqSliceConf m0 m1
  | .add _, _ => throw "read of a member of the union that was not written"
  | .del m0, .del m1 => eqDelSlice m0 m1
  | .del m0, .add m1 => eqForeign m0.dl.len m1.dl.slices.len <| eqForeign m0.ul.len m1.dl.schedName.len (return true)
  | .del m0, .ueSliceAssoc m1 =>
    eqForeign m0.dl.len m1.ues.len (throw "read of a member of the union that was not written")
  | .ueSliceAssoc m0, .ueSliceAssoc m1 => eqUeSliceConf m0 m1
  | .ueSliceAssoc m0, .add m1 => eqForeign m0.ues.len m1.dl.slices.len (return true)
  | .ueSliceAssoc m0, .del m1 => eqForeign m0.ues.len m1.dl.len (return true)

end FlexRic.Sm.Slice
