import FlexRic.Lib.Equality
import FlexRic.Ue.Types

/-! # Comparisons and copies of the identities of a UE

`eq_ue_id_e2sm` and `cp_ue_id_e2sm`, with the functions of `lib/3gpp/ie`. Many optional members are compared only when
both are there. -/

namespace FlexRic.Ue
open E2ap (E2apPlmn)

/-! ### Comparisons -/

def eqE2smPlmn (m0 m1 : E2apPlmn) : Except String Bool :=
  both (same (m0.mcc = m1.mcc)) <| both (same (m0.mnc = m1.mnc)) (same (m0.mncDigitLen = m1.mncDigitLen))

def eqGuami (m0 m1 : Guami) : Except String Bool :=
  both (eqE2smPlmn m0.plmnId m1.plmnId) <| both (same (m0.amfRegionId = m1.amfRegionId)) <|
    both (same (m0.amfSetId = m1.amfSetId)) (same (m0.amfPtr = m1.amfPtr))

def eqE2smGummei (m0 m1 : Gummei) : Except String Bool :=
  both (eqE2smPlmn m0.plmnId m1.plmnId) <| both (same (m0.mmeGroupId = m1.mmeGroupId)) (same (m0.mmeCode = m1.mmeCode))

def eqGlobalEnbId (m0 m1 : GlobalEnbId) : Except String Bool :=
  both (eqE2smPlmn m0.plmnId m1.plmnId) <| both (same (m0.type = m1.type)) (same (m0.enbId = m1.enbId))

def eqGlobalGnbId (m0 m1 : GlobalGnbId) : Except String Bool :=
  both (eqE2smPlmn m0.plmnId m1.plmnId) <| both (same (m0.nbId = m1.nbId)) (same (m0.unused = m1.unused))

def eqGlobalNgEnbId (m0 m1 : GlobalNgEnbId) : Except String Bool :=
  both (eqE2smPlmn m0.plmnId m1.plmnId) <| both (same (m0.type = m1.type)) (same (m0.ngEnbId = m1.ngEnbId))

def eqGlobalNgRanNodeId : GlobalNgRanNodeId → GlobalNgRanNodeId → Except String Bool
  | .gnb m0, .gnb m1 => eqGlobalGnbId m0 m1
  | .ngEnb m0, .ngEnb m1 => eqGlobalNgEnbId m0 m1
  | _, _ => return false

/-- `*m0 != *m1` -/
def eqNumber {α : Type} [DecidableEq α] (m0 m1 : α) : Except String Bool := same (m0 = m1)

/-- The last member is compared to itself. -/
def eqGnbUeIdE2sm (m0 m1 : Gnb) : Except String Bool :=
  both (same (m0.amfUeNgapId = m1.amfUeNgapId)) <| both (eqGuami m0.guami m1.guami) <|
    both (eqList eqNumber m0.gnbCuUeF1apLst m1.gnbCuUeF1apLst) <|
      both (eqList eqNumber m0.gnbCuCpUeE1apLst m1.gnbCuCpUeE1apLst) <|
        both (eqWhenBoth eqNumber m0.ranUeId m1.ranUeId) <|
          both (eqWhenBoth eqNumber m0.ngRanNodeUeXnapId m1.ngRanNodeUeXnapId) <|
            both (eqWhenBoth eqGlobalGnbId m0.globalGnbId m1.globalGnbId) <|
              eqWhenBoth (fun m0 _ => eqGlobalNgRanNodeId m0 m0) m0.globalNgRanNodeId m1.globalNgRanNodeId

/-- The optional member is looked at in any case. -/
def eqGnbDuUeIdE2sm (m0 m1 : GnbDu) : Except String Bool :=
  both (same (m0.gnbCuUeF1ap = m1.gnbCuUeF1ap)) <|
    match m0.ranUeId, m1.ranUeId with
    | some m0, some m1 => eqNumber m0 m1
    | _, _ => throw "read from NULL"

def eqGnbCuUpUeIdE2sm (m0 m1 : GnbCuUp) : Except String Bool :=
  both (same (m0.gnbCuCpUeE1ap = m1.gnbCuCpUeE1ap)) (eqWhenBoth eqNumber m0.ranUeId m1.ranUeId)

def eqNgEnbUeIdE2sm (m0 m1 : NgEnb) : Except String Bool :=
  both (same (m0.amfUeNgapId = m1.amfUeNgapId)) <| both (eqGuami m0.guami m1.guami) <|
    both (eqWhenBoth eqNumber m0.ngEnbCuUeW1apId m1.ngEnbCuUeW1apId) <|
      both (eqWhenBoth eqNumber m0.ngRanNodeUeXnapId m1.ngRanNodeUeXnapId) <|
        both (eqWhenBoth eqGlobalNgEnbId m0.globalNgEnbId m1.globalNgEnbId)
          (eqWhenBoth eqGlobalNgRanNodeId m0.globalNgRanNodeId m1.globalNgRanNodeId)

def eqNgEnbDuUeIdE2sm (m0 m1 : NgEnbDu) : Except String Bool := same (m0.ngEnbCuUeW1apId = m1.ngEnbCuUeW1apId)

def eqEnGnbUeIdE2sm (m0 m1 : EnGnb) : Except String Bool :=
  both (same (m0.enbUeX2apId = m1.enbUeX2apId)) <|
    both (eqWhenBoth eqNumber m0.enbUeX2apIdExtension m1.enbUeX2apIdExtension) <|
      both (eqGlobalEnbId m0.globalEnbId m1.globalEnbId) <|
        both (eqWhenBoth eqNumber m0.gnbCuUeF1apLst m1.gnbCuUeF1apLst) <|
          both (eqList eqNumber m0.gnbCuCpUeE1apLst m1.gnbCuCpUeE1apLst) (eqWhenBoth eqNumber m0.ranUeId m1.ranUeId)

/-- `eq_global_enb_id` asserts that the last member is there in both. -/
def eqEnbUeIdE2sm (m0 m1 : Enb) : Except String Bool :=
  both (same (m0.mmeUeS1apId = m1.mmeUeS1apId)) <| both (eqE2smGummei m0.gummei m1.gummei) <|
    both (eqWhenBoth eqNumber m0.enbUeX2apId m1.enbUeX2apId) <|
      both (eqWhenBoth eqNumber m0.enbUeX2apIdExtension m1.enbUeX2apIdExtension) <|
        match m0.globalEnbId, m1.globalEnbId with
        | some m0, some m1 => eqGlobalEnbId m0 m1
        | none, _ => throw "m0 != NULL"
        | _, none => throw "m1 != NULL"

def eqUeIdE2sm : UeId → UeId → Except String Bool
  | .gnb m0, .gnb m1 => eqGnbUeIdE2sm m0 m1
  | .gnbDu m0, .gnbDu m1 => eqGnbDuUeIdE2sm m0 m1
  | .gnbCuUp m0, .gnbCuUp m1 => eqGnbCuUpUeIdE2sm m0 m1
  | .ngEnb m0, .ngEnb m1 => eqNgEnbUeIdE2sm m0 m1
  | .ngEnbDu m0, .ngEnbDu m1 => eqNgEnbDuUeIdE2sm m0 m1
  | .enGnb m0, .enGnb m1 => eqEnGnbUeIdE2sm m0 m1
  | .enb m0, .enb m1 => eqEnbUeIdE2sm m0 m1
  | _, _ => return false

/-! ### Copies -/

def cpE2smPlmn (src : E2apPlmn) : E2apPlmn := ⟨src.mcc, src.mnc, src.mncDigitLen⟩

def cpGuami (src : Guami) : Guami := ⟨cpE2smPlmn src.plmnId, src.amfRegionId, src.amfSetId, src.amfPtr⟩

def cpE2smGummei (src : Gummei) : Gummei := ⟨cpE2smPlmn src.plmnId, src.mmeGroupId, src.mmeCode⟩

def cpGlobalEnbUeIdE2sm (src : GlobalEnbId) : GlobalEnbId := ⟨cpE2smPlmn src.plmnId, src.type, src.enbId⟩

def cpGlobalGnbId (src : GlobalGnbId) : GlobalGnbId := ⟨cpE2smPlmn src.plmnId, src.nbId, src.unused⟩

def cpGlobalNgEnbId (src : GlobalNgEnbId) : GlobalNgEnbId := ⟨cpE2smPlmn src.plmnId, src.type, src.ngEnbId⟩

def cpGlobalNgRanNodeId : GlobalNgRanNodeId → GlobalNgRanNodeId
  | .gnb id => .gnb (cpGlobalGnbId id)
  | .ngEnb id => .ngEnb (cpGlobalNgEnbId id)

def cpGnbUeIdE2sm (src : Gnb) : Gnb :=
  ⟨src.amfUeNgapId, cpGuami src.guami, src.gnbCuUeF1apLst, src.gnbCuCpUeE1apLst, src.ranUeId, src.ngRanNodeUeXnapId,
    src.globalGnbId.map cpGlobalGnbId, src.globalNgRanNodeId.map cpGlobalNgRanNodeId⟩

def cpGnbDuUeIdE2sm (src : GnbDu) : GnbDu := ⟨src.gnbCuUeF1ap, src.ranUeId⟩

def cpGnbCuUpIdE2sm (src : GnbCuUp) : GnbCuUp := ⟨src.gnbCuCpUeE1ap, src.ranUeId⟩

def cpNgEnbUeIdE2sm (src : NgEnb) : NgEnb :=
  ⟨src.amfUeNgapId, cpGuami src.guami, src.ngEnbCuUeW1apId, src.ngRanNodeUeXnapId,
    src.globalNgEnbId.map cpGlobalNgEnbId, src.globalNgRanNodeId.map cpGlobalNgRanNodeId⟩

def cpNgEnbDuUeIdE2sm (src : NgEnbDu) : NgEnbDu := ⟨src.ngEnbCuUeW1apId⟩

def cpEnGnbUeIdE2sm (src : EnGnb) : EnGnb :=
  ⟨src.enbUeX2apId, src.enbUeX2apIdExtension, cpGlobalEnbUeIdE2sm src.globalEnbId, src.gnbCuUeF1apLst,
    src.gnbCuCpUeE1apLst, src.ranUeId⟩

def cpEnbUeIdE2sm (src : Enb) : Enb :=
  ⟨src.mmeUeS1apId, cpE2smGummei src.gummei, src.enbUeX2apId, src.enbUeX2apIdExtension,
    src.globalEnbId.map cpGlobalEnbUeIdE2sm⟩

def cpUeIdE2sm : UeId → UeId
  | .gnb id => .gnb (cpGnbUeIdE2sm id)
  | .gnbDu id => .gnbDu (cpGnbDuUeIdE2sm id)
  | .gnbCuUp id => .gnbCuUp (cpGnbCuUpIdE2sm id)
  | .ngEnb id => .ngEnb (cpNgEnbUeIdE2sm id)
  | .ngEnbDu id => .ngEnbDu (cpNgEnbDuUeIdE2sm id)
  | .enGnb id => .enGnb (cpEnGnbUeIdE2sm id)
  | .enb id => .enb (cpEnbUeIdE2sm id)

end FlexRic.Ue
