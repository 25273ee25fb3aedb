import FlexRic.Lib.Plain

/-! # The values of the slice service model

`slice_data_ie.h`. An array and its length are one value, and a label is the bytes of its text. -/

namespace FlexRic.Sm.Slice
open Plain

/-- `slice_algorithm_e` -/
inductive SliceAlgorithm
  | none
  | static
  | nvs
  | scn19
  | edf
  deriving DecidableEq, Repr

structure StaticSlice where
  posLow : UInt32
  posHigh : UInt32

/-- `nvs_slice_conf_e` -/
inductive NvsSliceConf
  | rate
  | capacity
  deriving DecidableEq, Repr

structure NvsRate where
  mbpsRequired : Float4
  mbpsReference : Float4

structure NvsCapacity where
  pctReserved : Float4

inductive NvsSlice
  | rate (rate : NvsRate)
  | capacity (capacity : NvsCapacity)

/-- `scn19_slice_conf_e` -/
inductive Scn19SliceConf
  | dynamic
  | fixed
  | onDemand
  deriving DecidableEq, Repr

structure Scn19OnDemand where
  pctReserved : Float4
  logDelta : Float4
  tau : UInt32

inductive Scn19Slice
  | dynamic (dynamic : NvsRate)
  | fixed (fixed : StaticSlice)
  | onDemand (onDemand : Scn19OnDemand)

structure EdfSlice where
  deadline : UInt32
  guaranteedPrbs : UInt32
  maxReplenish : UInt32
  over_ : Counted UInt32

/-- `slice_params_t`; the union has no member for `SLICE_ALG_SM_V0_NONE`. -/
inductive SliceParams
  | none
  | sta (sta : StaticSlice)
  | nvs (nvs : NvsSlice)
  | scn19 (scn19 : Scn19Slice)
  | edf (edf : EdfSlice)

structure FrSlice where
  id : UInt32
  label : Counted UInt8
  sched : Counted UInt8
  params : SliceParams

structure UlDlSliceConf where
  slices : Counted FrSlice
  schedName : Counted UInt8

structure SliceConf where
  dl : UlDlSliceConf
  ul : UlDlSliceConf

structure UeSliceAssoc where
  dlId : UInt32
  ulId : UInt32
  rnti : UInt16

structure UeSliceConf where
  ues : Counted UeSliceAssoc

structure SliceIndMsg where
  sliceConf : SliceConf
  ueSliceConf : UeSliceConf
  tstamp : Int64

/-- `slice_ctrl_msg_e` -/
inductive SliceCtrlMsgE
  | add
  | del
  | ueSliceAssoc
  deriving DecidableEq, Repr

structure DelSliceConf where
  dl : Counted UInt32
  ul : Counted UInt32

inductive SliceCtrlMsg
  | add (addModSlice : SliceConf)
  | del (delSlice : DelSliceConf)
  | ueSliceAssoc (ueSlice : UeSliceConf)

/-- `slice_ctrl_out_e` -/
inductive SliceCtrlOutE
  | ok
  | error
  | ansEnd
  deriving DecidableEq, Repr

structure SliceCtrlOut where
  ans : SliceCtrlOutE
  diagnostic : Counted UInt8

instance : Enumerators SliceAlgorithm where
  values := [.none, .static, .nvs, .scn19, .edf]
  mem_values a := by cases a <;> decide
  length_lt := by decide

instance : Enumerators NvsSliceConf where
  values := [.rate, .capacity]
  mem_values a := by cases a <;> decide
  length_lt := by decide

instance : Enumerators Scn19SliceConf where
  values := [.dynamic, .fixed, .onDemand]
  mem_values a := by cases a <;> decide
  length_lt := by decide

instance : Enumerators SliceCtrlMsgE where
  values := [.add, .del, .ueSliceAssoc]
  mem_values a := by cases a <;> decide
  length_lt := by decide

/-! ### Texts -/

def FrSlice.texts (s : FrSlice) : List (Counted UInt8) := [s.label, s.sched]

def UlDlSliceConf.texts (c : UlDlSliceConf) : List (Counted UInt8) := c.schedName :: c.slices.items.flatMap FrSlice.texts

def SliceConf.texts (c : SliceConf) : List (Counted UInt8) := c.dl.texts ++ c.ul.texts

def SliceIndMsg.texts (m : SliceIndMsg) : List (Counted UInt8) := m.sliceConf.texts

def SliceCtrlMsg.texts : SliceCtrlMsg → List (Counted UInt8)
  | .add addModSlice => addModSlice.texts
  | .del _ => []
  | .ueSliceAssoc _ => []

/-! ### Well formed messages -/

/-- The parameters are of one of the algorithms. -/
def FrSlice.WellFormed (s : FrSlice) : Prop := s.params ≠ .none

def SliceConf.WellFormed (c : SliceConf) : Prop :=
  (∀ s ∈ c.dl.slices.items, s.WellFormed) ∧ ∀ s ∈ c.ul.slices.items, s.WellFormed

def SliceIndMsg.WellFormed (m : SliceIndMsg) : Prop := m.sliceConf.WellFormed

def SliceCtrlMsg.WellFormed : SliceCtrlMsg → Prop
  | .add addModSlice => addModSlice.WellFormed
  | .del _ => True
  | .ueSliceAssoc _ => True

end FlexRic.Sm.Slice
