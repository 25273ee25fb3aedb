import FlexRic.Util.Conversions

/-! # The identities of a UE

What `ue_id_e2sm_t` has, and what `UEID_t` has of it. An identity says which kind of node the UE is known to, and has
the numbers that the nodes have given to it. -/

namespace FlexRic.Ue
open E2ap (E2apPlmn BitString)
open Util (IdKind)

/-! ### The values of the code

A list is `NULL` when it has no elements. -/

/-- `guami_t` -/
structure Guami where
  plmnId : E2apPlmn
  amfRegionId : Nat
  amfSetId : Nat
  amfPtr : Nat
  deriving DecidableEq, Repr

/-- `e2sm_gummei_t` -/
structure Gummei where
  plmnId : E2apPlmn
  mmeGroupId : UInt16
  mmeCode : UInt8
  deriving DecidableEq, Repr

/-- `enb_type_id_e`, without the constant that counts the others -/
inductive EnbTypeId
  | macroEnb
  | homeEnb
  | shortMacroEnb
  | longMacroEnb
  deriving DecidableEq, Repr

def EnbTypeId.kind : EnbTypeId → IdKind
  | macroEnb => .macroEnb
  | homeEnb => .homeEnb
  | shortMacroEnb => .shortMacroEnb
  | longMacroEnb => .longMacroEnb

/-- `global_enb_id_t`; all members of its union are one number. -/
structure GlobalEnbId where
  plmnId : E2apPlmn
  type : EnbTypeId
  enbId : Nat
  deriving DecidableEq, Repr

/-- `global_gnb_id_t`, which has one type only; `gnb_id` is a number and how many of its bits are unused. -/
structure GlobalGnbId where
  plmnId : E2apPlmn
  nbId : Nat
  unused : Nat
  deriving DecidableEq, Repr

/-- `ng_enb_type_id_e` -/
inductive NgEnbTypeId
  | macroNgEnb
  | shortMacroNgEnb
  | longMacroNgEnb
  deriving DecidableEq, Repr

def NgEnbTypeId.kind : NgEnbTypeId → IdKind
  | macroNgEnb => .macroNgEnb
  | shortMacroNgEnb => .shortMacroNgEnb
  | longMacroNgEnb => .longMacroNgEnb

/-- `global_ng_enb_id_t` -/
structure GlobalNgEnbId where
  plmnId : E2apPlmn
  type : NgEnbTypeId
  ngEnbId : Nat
  deriving DecidableEq, Repr

/-- `global_ng_ran_node_id_t` -/
inductive GlobalNgRanNodeId
  | gnb (id : GlobalGnbId)
  | ngEnb (id : GlobalNgEnbId)
  deriving DecidableEq, Repr

/-- `gnb_e2sm_t` -/
structure Gnb where
  amfUeNgapId : UInt64
  guami : Guami
  gnbCuUeF1apLst : List UInt32
  gnbCuCpUeE1apLst : List UInt32
  ranUeId : Option UInt64
  ngRanNodeUeXnapId : Option UInt32
  globalGnbId : Option GlobalGnbId
  globalNgRanNodeId : Option GlobalNgRanNodeId
  deriving DecidableEq, Repr

/-- `gnb_du_e2sm_t` -/
structure GnbDu where
  gnbCuUeF1ap : UInt32
  ranUeId : Option UInt64
  deriving DecidableEq, Repr

/-- `gnb_cu_up_e2sm_t` -/
structure GnbCuUp where
  gnbCuCpUeE1ap : UInt32
  ranUeId : Option UInt64
  deriving DecidableEq, Repr

/-- `ng_enb_e2sm_t` -/
structure NgEnb where
  amfUeNgapId : UInt64
  guami : Guami
  ngEnbCuUeW1apId : Option UInt32
  ngRanNodeUeXnapId : Option UInt32
  globalNgEnbId : Option GlobalNgEnbId
  globalNgRanNodeId : Option GlobalNgRanNodeId
  deriving DecidableEq, Repr

/-- `ng_enb_du_e2sm_t` -/
structure NgEnbDu where
  ngEnbCuUeW1apId : UInt32
  deriving DecidableEq, Repr

/-- `en_gnb_e2sm_t` -/
structure EnGnb where
  enbUeX2apId : UInt16
  enbUeX2apIdExtension : Option UInt16
  globalEnbId : GlobalEnbId
  gnbCuUeF1apLst : Option UInt32
  gnbCuCpUeE1apLst : List UInt32
  ranUeId : Option UInt64
  deriving DecidableEq, Repr

/-- `enb_e2sm_t` -/
structure Enb where
  mmeUeS1apId : UInt32
  gummei : Gummei
  enbUeX2apId : Option UInt16
  enbUeX2apIdExtension : Option UInt16
  globalEnbId : Option GlobalEnbId
  deriving DecidableEq, Repr

/-- `ue_id_e2sm_t` -/
inductive UeId
  | gnb (id : Gnb)
  | gnbDu (id : GnbDu)
  | gnbCuUp (id : GnbCuUp)
  | ngEnb (id : NgEnb)
  | ngEnbDu (id : NgEnbDu)
  | enGnb (id : EnGnb)
  | enb (id : Enb)
  deriving DecidableEq, Repr

/-! ### The values of the ASN.1 types

An `INTEGER_t` has its octets, an `OCTET_STRING_t` its bytes. -/

/-- `GUAMI_t` -/
structure GuamiAsn where
  plmnIdentity : List UInt8
  amfRegionId : BitString
  amfSetId : BitString
  amfPointer : BitString
  deriving DecidableEq, Repr

/-- `GUMMEI_t` -/
structure GummeiAsn where
  plmnIdentity : List UInt8
  mmeGroupId : List UInt8
  mmeCode : List UInt8
  deriving DecidableEq, Repr

/-- `GlobalENB_ID_t`: which member of the choice is present, if any, and that member -/
structure GlobalEnbIdAsn where
  plmnIdentity : List UInt8
  enbId : Option (EnbTypeId × BitString)
  deriving DecidableEq, Repr

/-- `GlobalGNB_ID_t`, with the only member of its choice if that is present -/
structure GlobalGnbIdAsn where
  plmnIdentity : List UInt8
  gnbId : Option BitString
  deriving DecidableEq, Repr

/-- `GlobalNgENB_ID_t` -/
structure GlobalNgEnbIdAsn where
  plmnIdentity : List UInt8
  ngEnbId : Option (NgEnbTypeId × BitString)
  deriving DecidableEq, Repr

/-- `GlobalNGRANNodeID_t` -/
inductive GlobalNgRanNodeIdAsn
  | nothing
  | gnb (id : GlobalGnbIdAsn)
  | ngEnb (id : GlobalNgEnbIdAsn)
  deriving DecidableEq, Repr

/-- `UEID_GNB_t` -/
structure GnbAsn where
  amfUeNgapId : List UInt8
  guami : GuamiAsn
  gnbCuUeF1apIdList : Option (List Nat)
  gnbCuCpUeE1apIdList : Option (List Nat)
  ranUeid : Option (List UInt8)
  mNgRanUeXnapId : Option Nat
  globalGnbId : Option GlobalGnbIdAsn
  globalNgRanNodeId : Option GlobalNgRanNodeIdAsn
  deriving DecidableEq, Repr

/-- `UEID_GNB_DU_t` -/
structure GnbDuAsn where
  gnbCuUeF1apId : Nat
  ranUeid : Option (List UInt8)
  deriving DecidableEq, Repr

/-- `UEID_GNB_CU_UP_t` -/
structure GnbCuUpAsn where
  gnbCuCpUeE1apId : Nat
  ranUeid : Option (List UInt8)
  deriving DecidableEq, Repr

/-- `UEID_NG_ENB_t` -/
structure NgEnbAsn where
  amfUeNgapId : List UInt8
  guami : GuamiAsn
  ngEnbCuUeW1apId : Option Nat
  mNgRanUeXnapId : Option Nat
  globalNgEnbId : Option GlobalNgEnbIdAsn
  globalNgRanNodeId : Option GlobalNgRanNodeIdAsn
  deriving DecidableEq, Repr

/-- `UEID_NG_ENB_DU_t` -/
structure NgEnbDuAsn where
  ngEnbCuUeW1apId : Nat
  deriving DecidableEq, Repr

/-- `UEID_EN_GNB_t` -/
structure EnGnbAsn where
  mEnbUeX2apId : Nat
  mEnbUeX2apIdExtension : Option Nat
  globalEnbId : GlobalEnbIdAsn
  gnbCuUeF1apId : Option Nat
  gnbCuCpUeE1apIdList : Option (List Nat)
  ranUeid : Option (List UInt8)
  deriving DecidableEq, Repr

/-- `UEID_ENB_t` -/
structure EnbAsn where
  mmeUeS1apId : Nat
  gummei : GummeiAsn
  mEnbUeX2apId : Option Nat
  mEnbUeX2apIdExtension : Option Nat
  globalEnbId : Option GlobalEnbIdAsn
  deriving DecidableEq, Repr

/-- `UEID_t`: its choice, or that nothing is present -/
inductive UeIdAsn
  | nothing
  | gnb (id : GnbAsn)
  | gnbDu (id : GnbDuAsn)
  | gnbCuUp (id : GnbCuUpAsn)
  | ngEnb (id : NgEnbAsn)
  | ngEnbDu (id : NgEnbDuAsn)
  | enGnb (id : EnGnbAsn)
  | enb (id : EnbAsn)
  deriving DecidableEq, Repr

/-- The identity with its `INTEGER_t`s, of which the AMF identities are the only ones, carried by `f` -/
def UeIdAsn.carriedBy (f : List UInt8 → List UInt8) : UeIdAsn → UeIdAsn
  | gnb id => .gnb { id with amfUeNgapId := f id.amfUeNgapId }
  | ngEnb id => .ngEnb { id with amfUeNgapId := f id.amfUeNgapId }
  | id => id

@[simp] theorem UeIdAsn.carriedBy_id (id : UeIdAsn) : id.carriedBy (fun octets => octets) = id := by
  cases id <;> rfl

end FlexRic.Ue
