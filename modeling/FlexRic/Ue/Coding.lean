import FlexRic.Lib.Carried
import FlexRic.Lib.Octets
import FlexRic.Ue.Types

/-! # The identities of a UE in ASN.1

`enc_ue_id_asn` and `dec_ue_id_asn` with the functions of `lib/3gpp/enc` and `lib/3gpp/dec`. -/

namespace FlexRic.Ue
open E2ap (E2apPlmn encPlmn decPlmn encGnbId decGnbId BitString)
open Plain (leBytes leNat)
open Util

/-! ### To ASN.1 -/

/-- `asn_ulong2INTEGER` -/
def asnUlong2Integer (value : UInt64) : List UInt8 := Octets.minimal (Octets.beBytes 8 value.toNat)

/-- `ran_UEID`: eight bytes of memory -/
def encRanUeId (ranUeId : UInt64) : List UInt8 := leBytes 8 ranUeId.toNat

def encGuami (guami : Guami) : Except String GuamiAsn := do
  let amfRegionId ← cpAmfRegionIdToBitString guami.amfRegionId
  let amfSetId ← cpAmfSetIdToBitString guami.amfSetId
  let amfPointer ← cpAmfPtrToBitString guami.amfPtr
  return ⟨encPlmn guami.plmnId, amfRegionId, amfSetId, amfPointer⟩

/-- The group is sent with its upper byte first. -/
def encGummei (gummei : Gummei) : GummeiAsn :=
  ⟨encPlmn gummei.plmnId, [(gummei.mmeGroupId >>> 8).toUInt8, gummei.mmeGroupId.toUInt8], [gummei.mmeCode]⟩

/-- `enc_global_enb_id_asn` -/
def encGlobalEnbIdAsn (id : GlobalEnbId) : Except String GlobalEnbIdAsn := do
  let enbId ← id.type.kind.toBitString id.enbId
  return ⟨encPlmn id.plmnId, some (id.type, enbId)⟩

/-- `enc_global_gnb_id_asn` -/
def encGlobalGnbIdAsn (id : GlobalGnbId) : Except String GlobalGnbIdAsn := do
  let gnbId ← encGnbId id.nbId id.unused
  return ⟨encPlmn id.plmnId, some gnbId⟩

/-- `enc_global_ng_enb_asn` -/
def encGlobalNgEnbAsn (id : GlobalNgEnbId) : Except String GlobalNgEnbIdAsn := do
  let ngEnbId ← id.type.kind.toBitString id.ngEnbId
  return ⟨encPlmn id.plmnId, some (id.type, ngEnbId)⟩

/-- `enc_global_ng_ran_asn` -/
def encGlobalNgRanAsn : GlobalNgRanNodeId → Except String GlobalNgRanNodeIdAsn
  | .gnb id => return .gnb (← encGlobalGnbIdAsn id)
  | .ngEnb id => return .ngEnb (← encGlobalNgEnbAsn id)

def maxF1APid : Nat := 4
def maxE1APid : Nat := 65535
def maxValEnbUeX2apId : Nat := 4095

/-- The list of a `UEID_GNB_CU_CP_F1AP_ID_Item_t` for each identity -/
def encF1apLst : List UInt32 → Except String (Option (List Nat)) :=
  mapNonempty (oneTo maxF1APid) "gnb_cu_ue_f1ap_lst_len >=1 && gnb_cu_ue_f1ap_lst_len <= maxF1APid"
    fun id => .ok id.toNat

def encE1apLst : List UInt32 → Except String (Option (List Nat)) :=
  mapNonempty (oneTo maxE1APid) "gnb_cu_cp_ue_e1ap_lst_len >= 1 && gnb_cu_cp_ue_e1ap_lst_len <= maxE1APid"
    fun id => .ok id.toNat

/-- `enc_gNB_UE_asn` -/
def encGnbUeAsn (gnb : Gnb) : Except String GnbAsn := do
  require (gnb.amfUeNgapId.toNat < 2 ^ 40) "gnb->amf_ue_ngap_id < 1UL << 40"
  let guami ← encGuami gnb.guami
  let gnbCuUeF1apIdList ← encF1apLst gnb.gnbCuUeF1apLst
  let gnbCuCpUeE1apIdList ← encE1apLst gnb.gnbCuCpUeE1apLst
  let globalGnbId ← mapOptional encGlobalGnbIdAsn gnb.globalGnbId
  let globalNgRanNodeId ← mapOptional encGlobalNgRanAsn gnb.globalNgRanNodeId
  return ⟨asnUlong2Integer gnb.amfUeNgapId, guami, gnbCuUeF1apIdList, gnbCuCpUeE1apIdList,
    gnb.ranUeId.map encRanUeId, gnb.ngRanNodeUeXnapId.map UInt32.toNat, globalGnbId, globalNgRanNodeId⟩

/-- `enc_gNB_DU_UE_asn` -/
def encGnbDuUeAsn (gnbDu : GnbDu) : GnbDuAsn := ⟨gnbDu.gnbCuUeF1ap.toNat, gnbDu.ranUeId.map encRanUeId⟩

/-- `enc_gNB_CU_UP_UE_asn` -/
def encGnbCuUpUeAsn (gnbCuUp : GnbCuUp) : GnbCuUpAsn :=
  ⟨gnbCuUp.gnbCuCpUeE1ap.toNat, gnbCuUp.ranUeId.map encRanUeId⟩

/-- `enc_ng_eNB_UE_asn`: five bytes of memory for the AMF identity -/
def encNgEnbUeAsn (ngEnb : NgEnb) : Except String NgEnbAsn := do
  let guami ← encGuami ngEnb.guami
  let globalNgEnbId ← mapOptional encGlobalNgEnbAsn ngEnb.globalNgEnbId
  let globalNgRanNodeId ← mapOptional encGlobalNgRanAsn ngEnb.globalNgRanNodeId
  return ⟨leBytes 5 ngEnb.amfUeNgapId.toNat, guami, ngEnb.ngEnbCuUeW1apId.map UInt32.toNat,
    ngEnb.ngRanNodeUeXnapId.map UInt32.toNat, globalNgEnbId, globalNgRanNodeId⟩

/-- `enc_ng_eNB_DU_UE_asn` -/
def encNgEnbDuUeAsn (ngEnbDu : NgEnbDu) : NgEnbDuAsn := ⟨ngEnbDu.ngEnbCuUeW1apId.toNat⟩

/-- An identity of the X2 interface -/
def encX2apId (id : UInt16) : Except String Nat := do
  require (id.toNat < maxValEnbUeX2apId + 1) "m_eNB_UE_X2AP_ID < max_val_ENB_UE_X2AP_ID + 1"
  return id.toNat

/-- `enc_en_gNB_UE_asn` -/
def encEnGnbUeAsn (enGnb : EnGnb) : Except String EnGnbAsn := do
  let mEnbUeX2apId ← encX2apId enGnb.enbUeX2apId
  let mEnbUeX2apIdExtension ← mapOptional encX2apId enGnb.enbUeX2apIdExtension
  let globalEnbId ← encGlobalEnbIdAsn enGnb.globalEnbId
  let gnbCuCpUeE1apIdList ← encE1apLst enGnb.gnbCuCpUeE1apLst
  return ⟨mEnbUeX2apId, mEnbUeX2apIdExtension, globalEnbId, enGnb.gnbCuUeF1apLst.map UInt32.toNat,
    gnbCuCpUeE1apIdList, enGnb.ranUeId.map encRanUeId⟩

/-- `enc_eNB_UE_asn` -/
def encEnbUeAsn (enb : Enb) : Except String EnbAsn := do
  let mEnbUeX2apId ← mapOptional encX2apId enb.enbUeX2apId
  let mEnbUeX2apIdExtension ← mapOptional encX2apId enb.enbUeX2apIdExtension
  let globalEnbId ← mapOptional encGlobalEnbIdAsn enb.globalEnbId
  return ⟨enb.mmeUeS1apId.toNat, encGummei enb.gummei, mEnbUeX2apId, mEnbUeX2apIdExtension, globalEnbId⟩

/-- `enc_ue_id_asn` -/
def encUeIdAsn : UeId → Except String UeIdAsn
  | .gnb id => return .gnb (← encGnbUeAsn id)
  | .gnbDu id => return .gnbDu (encGnbDuUeAsn id)
  | .gnbCuUp id => return .gnbCuUp (encGnbCuUpUeAsn id)
  | .ngEnb id => return .ngEnb (← encNgEnbUeAsn id)
  | .ngEnbDu id => return .ngEnbDu (encNgEnbDuUeAsn id)
  | .enGnb id => return .enGnb (← encEnGnbUeAsn id)
  | .enb id => return .enb (← encEnbUeAsn id)

/-! ### From ASN.1 -/

/-- `asn_INTEGER2ulong`. When the octets are too many, it leaves the zero that is there. -/
def asnInteger2Ulong (octets : List UInt8) : UInt64 :=
  if (octets.take (octets.length - 8)).any (· ≠ 0) then 0
  else UInt64.ofNat (Octets.beNat 0 octets)

def decRanUeId (octets : List UInt8) : Except String UInt64 := do
  require (octets.length = 8) "ran_UEID->size == 8"
  return UInt64.ofNat (leNat octets)

def decGuami (guami : GuamiAsn) : Except String Guami := do
  let amfRegionId ← cpAmfRegionIdToU8 guami.amfRegionId
  let amfSetId ← cpAmfSetIdToU16 guami.amfSetId
  let amfPtr ← cpAmfPtrToU8 guami.amfPointer
  return ⟨decPlmn guami.plmnIdentity, amfRegionId, amfSetId, amfPtr⟩

/-- `OCTET_STRING_TO_INT16` and `OCTET_STRING_TO_INT8` -/
def decGummei (gummei : GummeiAsn) : Except String Gummei := do
  require (gummei.mmeGroupId.length = 2 ∨ gummei.mmeGroupId.length = 3) "(aSN)->size == 2 || (aSN)->size == 3"
  require (gummei.mmeCode.length = 1) "(aSN)->size == 1"
  return ⟨decPlmn gummei.plmnIdentity,
    (gummei.mmeGroupId.getD 0 0).toUInt16 <<< 8 ||| (gummei.mmeGroupId.getD 1 0).toUInt16, gummei.mmeCode.getD 0 0⟩

/-- `dec_global_enb_id_asn` -/
def decGlobalEnbIdAsn (id : GlobalEnbIdAsn) : Except String GlobalEnbId :=
  match id.enbId with
  | some (type, enbId) => return ⟨decPlmn id.plmnIdentity, type, ← type.kind.ofBitString enbId⟩
  | none => throw "Unknown eNB Type"

/-- `dec_global_gnb_id_asn` -/
def decGlobalGnbIdAsn (id : GlobalGnbIdAsn) : Except String GlobalGnbId :=
  match id.gnbId with
  | some gnbId => do
    let (nbId, unused) ← decGnbId gnbId
    return ⟨decPlmn id.plmnIdentity, nbId, unused⟩
  | none => throw "Unknown gNB Type"

/-- `dec_global_ng_enb_asn` -/
def decGlobalNgEnbAsn (id : GlobalNgEnbIdAsn) : Except String GlobalNgEnbId :=
  match id.ngEnbId with
  | some (type, ngEnbId) => return ⟨decPlmn id.plmnIdentity, type, ← type.kind.ofBitString ngEnbId⟩
  | none => throw "Unknown NG eNB Type"

/-- `dec_global_ng_ran_asn` -/
def decGlobalNgRanAsn : GlobalNgRanNodeIdAsn → Except String GlobalNgRanNodeId
  | .gnb id => return .gnb (← decGlobalGnbIdAsn id)
  | .ngEnb id => return .ngEnb (← decGlobalNgEnbAsn id)
  | .nothing => throw "Unknown NG RAN Node Type"

def decF1apLst : Option (List Nat) → Except String (List UInt32) :=
  mapListed (oneTo maxF1APid) "list.count >= 1 && list.count <= maxF1APid" fun id => .ok (UInt32.ofNat id)

def decE1apLst : Option (List Nat) → Except String (List UInt32) :=
  mapListed (oneTo maxE1APid) "list.count >= 1 && list.count <= maxE1APid" fun id => .ok (UInt32.ofNat id)

/-- `dec_gNB_UE_asn` -/
def decGnbUeAsn (gnb : GnbAsn) : Except String Gnb := do
  require (gnb.amfUeNgapId.length < 6) "gnb_asn->amf_UE_NGAP_ID.size < 6"
  let amfUeNgapId := asnInteger2Ulong gnb.amfUeNgapId
  require (amfUeNgapId.toNat < 2 ^ 40) "gnb.amf_ue_ngap_id < (1UL << 40)"
  let guami ← decGuami gnb.guami
  let gnbCuUeF1apLst ← decF1apLst gnb.gnbCuUeF1apIdList
  let gnbCuCpUeE1apLst ← decE1apLst gnb.gnbCuCpUeE1apIdList
  let ranUeId ← mapOptional decRanUeId gnb.ranUeid
  let globalGnbId ← mapOptional decGlobalGnbIdAsn gnb.globalGnbId
  let globalNgRanNodeId ← mapOptional decGlobalNgRanAsn gnb.globalNgRanNodeId
  return ⟨amfUeNgapId, guami, gnbCuUeF1apLst, gnbCuCpUeE1apLst, ranUeId, gnb.mNgRanUeXnapId.map UInt32.ofNat,
    globalGnbId, globalNgRanNodeId⟩

/-- `dec_gNB_DU_UE_asn` -/
def decGnbDuUeAsn (gnbDu : GnbDuAsn) : Except String GnbDu := do
  let ranUeId ← mapOptional decRanUeId gnbDu.ranUeid
  return ⟨UInt32.ofNat gnbDu.gnbCuUeF1apId, ranUeId⟩

/-- `dec_gNB_CU_UP_UE_asn` -/
def decGnbCuUpUeAsn (gnbCuUp : GnbCuUpAsn) : Except String GnbCuUp := do
  let ranUeId ← mapOptional decRanUeId gnbCuUp.ranUeid
  return ⟨UInt32.ofNat gnbCuUp.gnbCuCpUeE1apId, ranUeId⟩

/-- `dec_ng_eNB_UE_asn`: five bytes are copied, however many there are. -/
def decNgEnbUeAsn (ngEnb : NgEnbAsn) : Except String NgEnb := do
  require (5 ≤ ngEnb.amfUeNgapId.length) "read past the end of the octets"
  let amfUeNgapId := UInt64.ofNat (leNat (ngEnb.amfUeNgapId.take 5))
  require (amfUeNgapId.toNat < 2 ^ 40) "ng_enb.amf_ue_ngap_id < (1UL << 40)"
  let guami ← decGuami ngEnb.guami
  let globalNgEnbId ← mapOptional decGlobalNgEnbAsn ngEnb.globalNgEnbId
  let globalNgRanNodeId ← mapOptional decGlobalNgRanAsn ngEnb.globalNgRanNodeId
  return ⟨amfUeNgapId, guami, ngEnb.ngEnbCuUeW1apId.map UInt32.ofNat, ngEnb.mNgRanUeXnapId.map UInt32.ofNat,
    globalNgEnbId, globalNgRanNodeId⟩

/-- `dec_ng_eNB_DU_UE_asn` -/
def decNgEnbDuUeAsn (ngEnbDu : NgEnbDuAsn) : NgEnbDu := ⟨UInt32.ofNat ngEnbDu.ngEnbCuUeW1apId⟩

def decX2apId (id : Nat) : Except String UInt16 := do
  require ((UInt16.ofNat id).toNat < maxValEnbUeX2apId + 1) "enb_ue_x2ap_id < max_val_ENB_UE_X2AP_ID + 1"
  return UInt16.ofNat id

/-- `dec_en_gNB_UE_asn` -/
def decEnGnbUeAsn (enGnb : EnGnbAsn) : Except String EnGnb := do
  let enbUeX2apId ← decX2apId enGnb.mEnbUeX2apId
  let enbUeX2apIdExtension ← mapOptional decX2apId enGnb.mEnbUeX2apIdExtension
  let globalEnbId ← decGlobalEnbIdAsn enGnb.globalEnbId
  let gnbCuCpUeE1apLst ← decE1apLst enGnb.gnbCuCpUeE1apIdList
  let ranUeId ← mapOptional decRanUeId enGnb.ranUeid
  return ⟨enbUeX2apId, enbUeX2apIdExtension, globalEnbId, enGnb.gnbCuUeF1apId.map UInt32.ofNat, gnbCuCpUeE1apLst,
    ranUeId⟩

/-- `dec_eNB_UE_asn` -/
def decEnbUeAsn (enb : EnbAsn) : Except String Enb := do
  let gummei ← decGummei enb.gummei
  let enbUeX2apId ← mapOptional decX2apId enb.mEnbUeX2apId
  let enbUeX2apIdExtension ← mapOptional decX2apId enb.mEnbUeX2apIdExtension
  let globalEnbId ← mapOptional decGlobalEnbIdAsn enb.globalEnbId
  return ⟨UInt32.ofNat enb.mmeUeS1apId, gummei, enbUeX2apId, enbUeX2apIdExtension, globalEnbId⟩

/-- `dec_ue_id_asn` -/
def decUeIdAsn : UeIdAsn → Except String UeId
  | .gnb id => return .gnb (← decGnbUeAsn id)
  | .gnbDu id => return .gnbDu (← decGnbDuUeAsn id)
  | .gnbCuUp id => return .gnbCuUp (← decGnbCuUpUeAsn id)
  | .ngEnb id => return .ngEnb (← decNgEnbUeAsn id)
  | .ngEnbDu id => return .ngEnbDu (decNgEnbDuUeAsn id)
  | .enGnb id => return .enGnb (← decEnGnbUeAsn id)
  | .enb id => return .enb (← decEnbUeAsn id)
  | .nothing => throw "Unknown UE ID Type"

end FlexRic.Ue
