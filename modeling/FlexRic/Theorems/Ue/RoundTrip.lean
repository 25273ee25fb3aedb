import FlexRic.Lib.Layout
import FlexRic.Theorems.Util.Conversions
import FlexRic.Ue.Coding

/-! # Which identities of a UE come back

All members of an identity come back, but for two kinds of numbers: the codes of networks, and the identity that the
AMF has given. The other way round, what is decoded of a structure is encoded to the same one when its numbers fit the
types of the code and its strings are as the encoders make them. -/

namespace FlexRic.Ue
open E2ap (E2apPlmn encPlmn decPlmn)
open Plain (leBytes leNat)
open Util

/-! ### Numbers -/

theorem decRanUeId_enc (id : UInt64) : decRanUeId (encRanUeId id) = .ok id := by
  have hlen : (encRanUeId id).length = 8 := Plain.length_leBytes 8 _
  have hnat : leNat (encRanUeId id) = id.toNat := Plain.leNat_leBytes id.toNat_lt
  rw [decRanUeId, require_of hlen, Except.ok_bind, hnat, UInt64.ofNat_toNat]
  rfl

theorem ranUeId_restored (o : Option UInt64) : mapOptional decRanUeId (o.map encRanUeId) = .ok o := by
  cases o with
  | none => rfl
  | some id => rw [Option.map_some, mapOptional, decRanUeId_enc, Except.ok_bind]

theorem map_ofNat_toNat (o : Option UInt32) : (o.map UInt32.toNat).map UInt32.ofNat = o := by
  cases o with
  | none => rfl
  | some id => rw [Option.map_some, Option.map_some, UInt32.ofNat_toNat]

theorem x2apId_restored (id : UInt16) : Restored encX2apId decX2apId id True := by
  refine .of_ok fun b hb => ?_
  simp only [encX2apId, Except.bind_eq_ok, require_eq_ok, exists_const, Except.pure_eq, Except.ok.injEq] at hb
  obtain ⟨hlt, rfl⟩ := hb
  rw [decX2apId, UInt16.ofNat_toNat, require_of hlt]
  rfl

theorem ids_restored (m : Nat) (msg msg' : String) (l : List UInt32) :
    Restored (mapNonempty (oneTo m) msg fun id => .ok id.toNat) (mapListed (oneTo m) msg' fun id => .ok (UInt32.ofNat id))
      l True := by
  refine (Restored.mapNonempty msg msg' id fun _ _ => Restored.of_ok fun b hb => ?_).congr ?_
  · obtain rfl := Except.ok.inj hb
    rw [UInt32.ofNat_toNat]
  · exact iff_true_intro fun _ _ => trivial

theorem f1apLst_restored (l : List UInt32) : Restored encF1apLst decF1apLst l True := ids_restored _ _ _ l

theorem e1apLst_restored (l : List UInt32) : Restored encE1apLst decE1apLst l True := ids_restored _ _ _ l

/-! ### The identity that the AMF has given -/

section Amf
variable {amf : UInt64}

/-- Five octets have room for the sign of an identity with 39 bits. -/
theorem length_asnUlong2Integer (h : amf.toNat < 2 ^ 40) : (asnUlong2Integer amf).length < 6 ↔ amf.toNat < 2 ^ 39 := by
  have h8 : 2 * amf.toNat < 256 ^ (7 + 1) := by omega
  rw [asnUlong2Integer, Octets.length_minimal_beBytes (j := 4) h8]
  omega

theorem asnInteger2Ulong_asnUlong2Integer (h : amf.toNat < 2 ^ 40) : asnInteger2Ulong (asnUlong2Integer amf) = amf := by
  have h8 : 2 * amf.toNat < 256 ^ (7 + 1) := by omega
  have hlen : (asnUlong2Integer amf).length ≤ 8 := Octets.length_minimal_le.trans_eq (Octets.length_beBytes 8 _)
  have hval : Octets.beNat 0 (asnUlong2Integer amf) = amf.toNat := Octets.beNat_minimal h8
  rw [asnInteger2Ulong, Nat.sub_eq_zero_of_le hlen, hval, UInt64.ofNat_toNat]
  rfl

/-- What a ng-eNB has made of the identity comes back, when it is carried by `f`. -/
def AmfArrives (f : List UInt8 → List UInt8) (amf : UInt64) : Prop :=
  5 ≤ (f (leBytes 5 amf.toNat)).length ∧ UInt64.ofNat (leNat ((f (leBytes 5 amf.toNat)).take 5)) = amf

theorem amf_of_leBytes : UInt64.ofNat (leNat ((leBytes 5 amf.toNat).take 5)) = amf ↔ amf.toNat < 2 ^ 40 := by
  have htake : (leBytes 5 amf.toNat).take 5 = leBytes 5 amf.toNat := rfl
  rw [htake]
  constructor
  · intro h
    have hlt : leNat (leBytes 5 amf.toNat) < 256 ^ 5 := Plain.leNat_lt _
    rw [← h, UInt64.toNat_ofNat']
    omega
  · intro h
    rw [Plain.leNat_leBytes (by omega), UInt64.ofNat_toNat]

theorem amfArrives_self : AmfArrives (fun octets => octets) amf ↔ amf.toNat < 2 ^ 40 := by
  rw [AmfArrives, amf_of_leBytes, and_iff_right (Nat.le_of_eq (Plain.length_leBytes 5 _).symm)]

/-- No octet may be taken for a redundant one. -/
theorem amfArrives_minimal :
    AmfArrives Octets.minimal amf ↔ amf.toNat < 2 ^ 40 ∧ ¬Octets.Redundant (leBytes 5 amf.toNat) := by
  have hlen : 5 ≤ (Octets.minimal (leBytes 5 amf.toNat)).length ↔ ¬Octets.Redundant (leBytes 5 amf.toNat) :=
    @Octets.length_minimal_iff (leBytes 5 amf.toNat)
  rw [AmfArrives, hlen, and_comm]
  refine and_congr_left fun h => ?_
  rw [Octets.minimal_of_not_redundant h, amf_of_leBytes]

end Amf

/-! ### Identities of nodes -/

theorem plmn_iff (p : E2apPlmn) : decPlmn (encPlmn p) = p ↔ InHalfBytes p := by
  rw [← plmn_kept_iff]
  exact (and_iff_left rfl).symm

theorem kind_kept {k : IdKind} {val : Nat} {b : E2ap.BitString} (hk : k ≠ .nrCell) (h : k.toBitString val = .ok b) :
    k.ofBitString b = .ok val :=
  ((k.roundTrip_iff val).mpr (fun hnr => absurd hnr hk) b h).2

theorem guami_restored (g : Guami) : Restored encGuami decGuami g (InHalfBytes g.plmnId) := by
  intro b hb
  simp only [encGuami, Except.bind_eq_ok, Except.pure_eq, Except.ok.injEq] at hb
  obtain ⟨region, hregion, set, hset, ptr, hptr, rfl⟩ := hb
  have hregion' : cpAmfRegionIdToU8 region = .ok g.amfRegionId := kind_kept (k := .amfRegion) (by decide) hregion
  have hset' : cpAmfSetIdToU16 set = .ok g.amfSetId := kind_kept (k := .amfSet) (by decide) hset
  have hptr' : cpAmfPtrToU8 ptr = .ok g.amfPtr := kind_kept (k := .amfPtr) (by decide) hptr
  simp only [decGuami, hregion', hset', hptr', Except.ok_bind, Except.pure_eq, Except.ok.injEq, ← plmn_iff]
  cases g
  simp only [Guami.mk.injEq, and_true]

theorem globalEnbId_restored (id : GlobalEnbId) : Restored encGlobalEnbIdAsn decGlobalEnbIdAsn id (InHalfBytes id.plmnId) := by
  intro b hb
  simp only [encGlobalEnbIdAsn, Except.bind_eq_ok, Except.pure_eq, Except.ok.injEq] at hb
  obtain ⟨enbId, hid, rfl⟩ := hb
  have hid' : id.type.kind.ofBitString enbId = .ok id.enbId := kind_kept (by cases id.type <;> decide) hid
  simp only [decGlobalEnbIdAsn, hid', Except.ok_bind, Except.pure_eq, Except.ok.injEq, ← plmn_iff]
  cases id
  simp only [GlobalEnbId.mk.injEq, and_true]

theorem globalGnbId_restored (id : GlobalGnbId) : Restored encGlobalGnbIdAsn decGlobalGnbIdAsn id (InHalfBytes id.plmnId) := by
  intro b hb
  simp only [encGlobalGnbIdAsn, Except.bind_eq_ok, Except.pure_eq, Except.ok.injEq] at hb
  obtain ⟨gnbId, hid, rfl⟩ := hb
  have hid' := (gnbId_kept hid).2
  simp only [decGlobalGnbIdAsn, hid', Except.ok_bind, Except.pure_eq, Except.ok.injEq, ← plmn_iff]
  cases id
  simp only [GlobalGnbId.mk.injEq, and_true]

theorem globalNgEnbId_restored (id : GlobalNgEnbId) :
    Restored encGlobalNgEnbAsn decGlobalNgEnbAsn id (InHalfBytes id.plmnId) := by
  intro b hb
  simp only [encGlobalNgEnbAsn, Except.bind_eq_ok, Except.pure_eq, Except.ok.injEq] at hb
  obtain ⟨ngEnbId, hid, rfl⟩ := hb
  have hid' : id.type.kind.ofBitString ngEnbId = .ok id.ngEnbId := kind_kept (by cases id.type <;> decide) hid
  simp only [decGlobalNgEnbAsn, hid', Except.ok_bind, Except.pure_eq, Except.ok.injEq, ← plmn_iff]
  cases id
  simp only [GlobalNgEnbId.mk.injEq, and_true]

def GlobalNgRanNodeId.plmnId : GlobalNgRanNodeId → E2apPlmn
  | gnb id => id.plmnId
  | ngEnb id => id.plmnId

theorem globalNgRanNodeId_restored (id : GlobalNgRanNodeId) :
    Restored encGlobalNgRanAsn decGlobalNgRanAsn id (InHalfBytes id.plmnId) := by
  cases id with
  | gnb id => exact (globalGnbId_restored id).wrap rfl (fun _ => rfl) fun _ _ => GlobalNgRanNodeId.gnb.inj
  | ngEnb id => exact (globalNgEnbId_restored id).wrap rfl (fun _ => rfl) fun _ _ => GlobalNgRanNodeId.ngEnb.inj

/-- The two bytes of a number of 16 bits -/
theorem bytes_of_group (n : UInt16) : (n >>> 8).toUInt8.toUInt16 <<< 8 ||| n.toUInt8.toUInt16 = n := by
  have hn := n.toNat_lt
  have hjoin := Bits.join_low n.toNat 8
  have hupper : n.toNat >>> 8 % 256 = n.toNat >>> 8 := Bits.top_byte (k := 8) hn
  have hfit : n.toNat >>> 8 <<< 8 % 65536 = n.toNat >>> 8 <<< 8 := by
    rw [Nat.shiftLeft_eq, Nat.shiftRight_eq_div_pow]
    omega
  rw [← UInt16.toNat_inj]
  simp only [UInt16.toNat_or, UInt16.toNat_shiftLeft, UInt8.toNat_toUInt16, UInt16.toNat_toUInt8,
    UInt16.toNat_shiftRight, UInt16.reduceToNat, Nat.reduceMod, Nat.reducePow, hupper, hfit]
  exact hjoin

theorem gummei_restored (g : Gummei) : decGummei (encGummei g) = .ok g ↔ InHalfBytes g.plmnId := by
  rw [← plmn_iff]
  simp only [decGummei, encGummei, List.length_cons, List.length_nil, Nat.zero_add, Nat.reduceAdd, true_or,
    List.getD_cons_zero, List.getD_cons_succ, bytes_of_group, require_true, Except.ok_bind, Except.pure_eq, Except.ok.injEq]
  cases g
  simp only [Gummei.mk.injEq, and_true]

/-! ### Identities of a UE -/

section Kinds

/-- The networks that an identity names -/
def Gnb.plmns (gnb : Gnb) : List E2apPlmn :=
  gnb.guami.plmnId :: (gnb.globalGnbId.toList.map GlobalGnbId.plmnId ++
    gnb.globalNgRanNodeId.toList.map GlobalNgRanNodeId.plmnId)

def NgEnb.plmns (ngEnb : NgEnb) : List E2apPlmn :=
  ngEnb.guami.plmnId :: (ngEnb.globalNgEnbId.toList.map GlobalNgEnbId.plmnId ++
    ngEnb.globalNgRanNodeId.toList.map GlobalNgRanNodeId.plmnId)

def Enb.plmns (enb : Enb) : List E2apPlmn :=
  enb.gummei.plmnId :: enb.globalEnbId.toList.map GlobalEnbId.plmnId

theorem optional_plmn {α β : Type} {enc : α → Except String β} {dec : β → Except String α} {plmnId : α → E2apPlmn}
    (h : ∀ a, Restored enc dec a (InHalfBytes (plmnId a))) (o : Option α) :
    Restored (mapOptional enc) (mapOptional dec) o (∀ p ∈ o.toList.map plmnId, InHalfBytes p) := by
  refine (Restored.mapOptional fun a _ => h a).congr ?_
  simp only [List.forall_mem_map, Option.mem_toList, Option.mem_def]

theorem gnb_restored {f : List UInt8 → List UInt8} (hf : ∀ bs, f (Octets.minimal bs) = Octets.minimal bs) (gnb : Gnb) :
    Restored encGnbUeAsn (fun b => decGnbUeAsn { b with amfUeNgapId := f b.amfUeNgapId }) gnb
      (gnb.amfUeNgapId.toNat < 2 ^ 39 ∧ ∀ p ∈ gnb.plmns, InHalfBytes p) := by
  intro b hb
  simp only [encGnbUeAsn, Except.bind_eq_ok, require_eq_ok, exists_const, Except.pure_eq, Except.ok.injEq] at hb
  obtain ⟨hamf, guami, hguami, f1ap, hf1ap, e1ap, he1ap, gnbId, hgnbId, ranId, hranId, rfl⟩ := hb
  have hoctets : f (asnUlong2Integer gnb.amfUeNgapId) = asnUlong2Integer gnb.amfUeNgapId := hf _
  have hgnb := optional_plmn globalGnbId_restored _ gnbId hgnbId
  have hran := optional_plmn globalNgRanNodeId_restored _ ranId hranId
  have hf1 : decF1apLst f1ap = .ok gnb.gnbCuUeF1apLst := (f1apLst_restored _ f1ap hf1ap).mpr trivial
  have he1 : decE1apLst e1ap = .ok gnb.gnbCuCpUeE1apLst := (e1apLst_restored _ e1ap he1ap).mpr trivial
  rw [← length_asnUlong2Integer hamf, Gnb.plmns, List.forall_mem_cons, List.forall_mem_append,
    ← guami_restored gnb.guami guami hguami, ← hgnb, ← hran]
  simp only [decGnbUeAsn, hoctets, asnInteger2Ulong_asnUlong2Integer hamf, hf1, he1, ranUeId_restored, map_ofNat_toNat,
    Except.bind_eq_ok, require_eq_ok, exists_const, Except.pure_eq, Except.ok.injEq, existsAndEq, true_and, hamf]
  cases gnb
  simp only [Gnb.mk.injEq, true_and, and_true, existsAndEq]

theorem gnbDu_restored (gnbDu : GnbDu) : decGnbDuUeAsn (encGnbDuUeAsn gnbDu) = .ok gnbDu := by
  simp only [decGnbDuUeAsn, encGnbDuUeAsn, ranUeId_restored, UInt32.ofNat_toNat, Except.ok_bind, Except.pure_eq]

theorem gnbCuUp_restored (gnbCuUp : GnbCuUp) : decGnbCuUpUeAsn (encGnbCuUpUeAsn gnbCuUp) = .ok gnbCuUp := by
  simp only [decGnbCuUpUeAsn, encGnbCuUpUeAsn, ranUeId_restored, UInt32.ofNat_toNat, Except.ok_bind, Except.pure_eq]

theorem ngEnb_restored (f : List UInt8 → List UInt8) (ngEnb : NgEnb) :
    Restored encNgEnbUeAsn (fun b => decNgEnbUeAsn { b with amfUeNgapId := f b.amfUeNgapId }) ngEnb
      (AmfArrives f ngEnb.amfUeNgapId ∧ ∀ p ∈ ngEnb.plmns, InHalfBytes p) := by
  intro b hb
  simp only [encNgEnbUeAsn, Except.bind_eq_ok, Except.pure_eq, Except.ok.injEq] at hb
  obtain ⟨guami, hguami, enbId, henbId, ranId, hranId, rfl⟩ := hb
  have henb := optional_plmn globalNgEnbId_restored _ enbId henbId
  have hran := optional_plmn globalNgRanNodeId_restored _ ranId hranId
  -- Five bytes are never more than is asserted.
  have hfive (octets : List UInt8) : (UInt64.ofNat (leNat (octets.take 5))).toNat < 2 ^ 40 := by
    have hlt := Plain.leNat_lt (octets.take 5)
    have hpow : 256 ^ (octets.take 5).length ≤ 256 ^ 5 := Nat.pow_le_pow_right (by decide) (List.length_take_le 5 _)
    rw [UInt64.toNat_ofNat']
    omega
  rw [AmfArrives, NgEnb.plmns, List.forall_mem_cons, List.forall_mem_append,
    ← guami_restored ngEnb.guami guami hguami, ← henb, ← hran]
  simp only [decNgEnbUeAsn, map_ofNat_toNat, hfive, Except.bind_eq_ok, require_eq_ok, exists_const, Except.pure_eq,
    Except.ok.injEq, true_and]
  cases ngEnb
  simp only [NgEnb.mk.injEq, true_and, existsAndEq]
  tauto

theorem enGnb_restored (enGnb : EnGnb) :
    Restored encEnGnbUeAsn decEnGnbUeAsn enGnb (InHalfBytes enGnb.globalEnbId.plmnId) := by
  intro b hb
  simp only [encEnGnbUeAsn, Except.bind_eq_ok, Except.pure_eq, Except.ok.injEq] at hb
  obtain ⟨x2ap, hx2ap, ext, hext, enbId, henbId, e1ap, he1ap, rfl⟩ := hb
  have hx2 := (x2apId_restored _ x2ap hx2ap).mpr trivial
  have hx2e := (Restored.optional x2apId_restored _ ext hext).mpr trivial
  have he1 : decE1apLst e1ap = .ok enGnb.gnbCuCpUeE1apLst := (e1apLst_restored _ e1ap he1ap).mpr trivial
  rw [← globalEnbId_restored enGnb.globalEnbId enbId henbId]
  simp only [decEnGnbUeAsn, hx2, hx2e, he1, ranUeId_restored, map_ofNat_toNat, Except.bind_eq_ok, Except.pure_eq,
    Except.ok.injEq, existsAndEq, true_and]
  cases enGnb
  simp only [EnGnb.mk.injEq, true_and, and_true, existsAndEq]

theorem enb_restored (enb : Enb) : Restored encEnbUeAsn decEnbUeAsn enb (∀ p ∈ enb.plmns, InHalfBytes p) := by
  intro b hb
  simp only [encEnbUeAsn, Except.bind_eq_ok, Except.pure_eq, Except.ok.injEq] at hb
  obtain ⟨x2ap, hx2ap, ext, hext, enbId, henbId, rfl⟩ := hb
  have henb := optional_plmn globalEnbId_restored _ enbId henbId
  have hx2 := (Restored.optional x2apId_restored _ x2ap hx2ap).mpr trivial
  have hx2e := (Restored.optional x2apId_restored _ ext hext).mpr trivial
  rw [Enb.plmns, List.forall_mem_cons, ← gummei_restored, ← henb]
  simp only [decEnbUeAsn, hx2, hx2e, UInt32.ofNat_toNat, Except.bind_eq_ok, Except.pure_eq, Except.ok.injEq,
    existsAndEq, true_and]
  cases enb
  simp only [Enb.mk.injEq, true_and, and_true, existsAndEq]

end Kinds

namespace UeId

/-- A gNB has room for 39 bits of the identity from the AMF, the networks leave half bytes as they are, and of the
octets that a ng-eNB sends `amf` says whether they come back. -/
def KeptWhen (amf : UInt64 → Prop) : UeId → Prop
  | gnb id => id.amfUeNgapId.toNat < 2 ^ 39 ∧ ∀ p ∈ id.plmns, InHalfBytes p
  | ngEnb id => amf id.amfUeNgapId ∧ ∀ p ∈ id.plmns, InHalfBytes p
  | enGnb id => InHalfBytes id.globalEnbId.plmnId
  | enb id => ∀ p ∈ id.plmns, InHalfBytes p
  | gnbDu _ | gnbCuUp _ | ngEnbDu _ => True

/-- It comes back in the fewest octets. -/
abbrev Kept : UeId → Prop :=
  KeptWhen fun amf => amf.toNat < 2 ^ 40 ∧ ¬Octets.Redundant (leBytes 5 amf.toNat)

/-- It comes back in the octets that were sent. -/
abbrev KeptAsSent : UeId → Prop := KeptWhen fun amf => amf.toNat < 2 ^ 40

end UeId

theorem ueId_restored {f : List UInt8 → List UInt8} (hf : ∀ bs, f (Octets.minimal bs) = Octets.minimal bs) (v : UeId) :
    Restored encUeIdAsn (fun a => decUeIdAsn (a.carriedBy f)) v (v.KeptWhen (AmfArrives f)) := by
  cases v with
  | gnb id => exact (gnb_restored hf id).wrap rfl (fun _ => rfl) fun _ _ => UeId.gnb.inj
  | gnbDu id =>
    refine Restored.of_ok fun b hb => ?_
    obtain rfl := Except.ok.inj hb
    simp only [UeIdAsn.carriedBy, decUeIdAsn, gnbDu_restored, Except.ok_bind, Except.pure_eq]
  | gnbCuUp id =>
    refine Restored.of_ok fun b hb => ?_
    obtain rfl := Except.ok.inj hb
    simp only [UeIdAsn.carriedBy, decUeIdAsn, gnbCuUp_restored, Except.ok_bind, Except.pure_eq]
  | ngEnb id => exact (ngEnb_restored f id).wrap rfl (fun _ => rfl) fun _ _ => UeId.ngEnb.inj
  | ngEnbDu id =>
    refine Restored.of_ok fun b hb => ?_
    obtain rfl := Except.ok.inj hb
    simp only [UeIdAsn.carriedBy, decUeIdAsn, encNgEnbDuUeAsn, decNgEnbDuUeAsn, UInt32.ofNat_toNat, Except.pure_eq]
  | enGnb id => exact (enGnb_restored id).wrap rfl (fun _ => rfl) fun _ _ => UeId.enGnb.inj
  | enb id => exact (enb_restored id).wrap rfl (fun _ => rfl) fun _ _ => UeId.enb.inj

theorem UeId.keptWhen_congr {p q : UInt64 → Prop} (h : ∀ amf, p amf ↔ q amf) (v : UeId) : v.KeptWhen p ↔ v.KeptWhen q := by
  cases v with
  | ngEnb id => exact and_congr_left fun _ => h _
  | _ => exact Iff.rfl

theorem ueId_asSent_restored (v : UeId) : Restored encUeIdAsn decUeIdAsn v v.KeptAsSent := by
  have h := (ueId_restored (f := fun octets => octets) (fun _ => rfl) v).congr
    (v.keptWhen_congr fun _ => amfArrives_self)
  simpa only [UeIdAsn.carriedBy_id] using h

/-- **An identity of a UE that was accepted comes back**, integers being carried in the fewest octets, if and only if
a gNB's AMF identity has at most 39 bits, a ng-eNB's has at most 40 and its lowest byte could not be left out, and the
codes of networks fit into half bytes. -/
theorem ueId_comes_back_iff (v : UeId) (a : UeIdAsn) (h : encUeIdAsn v = .ok a) :
    decUeIdAsn (a.carriedBy Octets.minimal) = .ok v ↔ v.Kept :=
  (ueId_restored Octets.minimal_minimal v).congr (v.keptWhen_congr fun _ => amfArrives_minimal) a h

/-- A gNB's UE with an AMF identity and nothing else -/
def gnbOfAmf (amf : UInt64) : UeId := .gnb ⟨amf, ⟨⟨1, 1, 2⟩, 0, 0, 0⟩, [], [], none, none, none, none⟩

/-- What is sent of it -/
def gnbAsnOfAmf (amf : UInt64) : UeIdAsn :=
  .gnb ⟨asnUlong2Integer amf, ⟨[0x00, 0xF1, 0x10], ⟨[0], 0⟩, ⟨[0, 0], 6⟩, ⟨[0], 2⟩⟩, none, none, none, none, none, none⟩

theorem ueId_comes_back_iff_seven :
    encUeIdAsn (gnbOfAmf 7) = .ok (gnbAsnOfAmf 7) ∧
      (decUeIdAsn ((gnbAsnOfAmf 7).carriedBy Octets.minimal) = .ok (gnbOfAmf 7) ↔ (gnbOfAmf 7).Kept) :=
  ⟨rfl, ueId_comes_back_iff (gnbOfAmf 7) (gnbAsnOfAmf 7) rfl⟩

/-- An AMF identity of 40 bits has six octets, more than are asserted. -/
theorem amf_2_39_does_not_come_back :
    ¬∀ (v : UeId) (a : UeIdAsn), encUeIdAsn v = .ok a → decUeIdAsn (a.carriedBy Octets.minimal) = .ok v := by
  intro h
  have hback := h (gnbOfAmf (2 ^ 39)) (gnbAsnOfAmf (2 ^ 39)) (by decide)
  exact absurd hback (by decide)

/-! ### Structures that are made again -/

/-- The numbers have room in 32 bits. -/
abbrev FitU32 (l : List Nat) : Prop := ∀ n ∈ l, n < 4294967296

@[mk_iff] structure GuamiAsn.Remade (g : GuamiAsn) : Prop where
  plmn : PlmnDigits g.plmnIdentity
  region : IdKind.amfRegion.Remade g.amfRegionId
  set : IdKind.amfSet.Remade g.amfSetId
  ptr : IdKind.amfPtr.Remade g.amfPointer

@[mk_iff] structure GummeiAsn.Remade (g : GummeiAsn) : Prop where
  plmn : PlmnDigits g.plmnIdentity
  group : g.mmeGroupId.length = 2

def GlobalEnbIdAsn.Remade (id : GlobalEnbIdAsn) : Prop :=
  PlmnDigits id.plmnIdentity ∧ ∀ e ∈ id.enbId, e.1.kind.Remade e.2

def GlobalGnbIdAsn.Remade (id : GlobalGnbIdAsn) : Prop :=
  PlmnDigits id.plmnIdentity ∧ ∀ b ∈ id.gnbId, PaddedWithZeroes b

def GlobalNgEnbIdAsn.Remade (id : GlobalNgEnbIdAsn) : Prop :=
  PlmnDigits id.plmnIdentity ∧ ∀ e ∈ id.ngEnbId, e.1.kind.Remade e.2

def GlobalNgRanNodeIdAsn.Remade : GlobalNgRanNodeIdAsn → Prop
  | nothing => True
  | gnb id => id.Remade
  | ngEnb id => id.Remade

@[mk_iff] structure GnbAsn.Remade (gnb : GnbAsn) : Prop where
  amf : Octets.Shortest gnb.amfUeNgapId
  guami : gnb.guami.Remade
  f1ap : ∀ l ∈ gnb.gnbCuUeF1apIdList, FitU32 l
  e1ap : ∀ l ∈ gnb.gnbCuCpUeE1apIdList, FitU32 l
  xnap : ∀ n ∈ gnb.mNgRanUeXnapId, n < 4294967296
  globalGnbId : ∀ id ∈ gnb.globalGnbId, id.Remade
  globalNgRanNodeId : ∀ id ∈ gnb.globalNgRanNodeId, id.Remade

@[mk_iff] structure NgEnbAsn.Remade (ngEnb : NgEnbAsn) : Prop where
  amf : ngEnb.amfUeNgapId.length = 5
  guami : ngEnb.guami.Remade
  w1ap : ∀ n ∈ ngEnb.ngEnbCuUeW1apId, n < 4294967296
  xnap : ∀ n ∈ ngEnb.mNgRanUeXnapId, n < 4294967296
  globalNgEnbId : ∀ id ∈ ngEnb.globalNgEnbId, id.Remade
  globalNgRanNodeId : ∀ id ∈ ngEnb.globalNgRanNodeId, id.Remade

@[mk_iff] structure EnGnbAsn.Remade (enGnb : EnGnbAsn) : Prop where
  x2ap : enGnb.mEnbUeX2apId < 65536
  extension : ∀ n ∈ enGnb.mEnbUeX2apIdExtension, n < 65536
  globalEnbId : enGnb.globalEnbId.Remade
  f1ap : ∀ n ∈ enGnb.gnbCuUeF1apId, n < 4294967296
  e1ap : ∀ l ∈ enGnb.gnbCuCpUeE1apIdList, FitU32 l

@[mk_iff] structure EnbAsn.Remade (enb : EnbAsn) : Prop where
  s1ap : enb.mmeUeS1apId < 4294967296
  gummei : enb.gummei.Remade
  x2ap : ∀ n ∈ enb.mEnbUeX2apId, n < 65536
  extension : ∀ n ∈ enb.mEnbUeX2apIdExtension, n < 65536
  globalEnbId : ∀ id ∈ enb.globalEnbId, id.Remade

/-- Whatever is decoded of the identity has the same structure again: its numbers have room where the code puts them,
its strings have the form that the encoders give them, and the codes of its networks are decimal digits. -/
def UeIdAsn.Remade : UeIdAsn → Prop
  | nothing => True
  | gnb id => id.Remade
  | gnbDu id => id.gnbCuUeF1apId < 4294967296
  | gnbCuUp id => id.gnbCuCpUeE1apId < 4294967296
  | ngEnb id => id.Remade
  | ngEnbDu id => id.ngEnbCuUeW1apId < 4294967296
  | enGnb id => id.Remade
  | enb id => id.Remade

theorem ranUeId_remade (octets : List UInt8) :
    Restored decRanUeId (fun id => (.ok (encRanUeId id) : Except String _)) octets True := by
  refine .of_ok fun id h => ?_
  obtain ⟨_, hlen, h⟩ := Except.bind_eq_ok.mp h
  rw [require_eq_ok] at hlen
  obtain rfl := Except.ok.inj h
  have hlt := Plain.leNat_lt octets
  rw [hlen] at hlt
  have hnat : (UInt64.ofNat (leNat octets)).toNat = leNat octets := by
    rw [UInt64.toNat_ofNat']
    exact Nat.mod_eq_of_lt hlt
  rw [encRanUeId, hnat, ← hlen, Plain.leBytes_leNat]

theorem optional_ranUeId {o : Option (List UInt8)} {id : Option UInt64} (h : mapOptional decRanUeId o = .ok id) :
    id.map encRanUeId = o := by
  obtain ⟨rfl, rfl⟩ | ⟨octets, id, rfl, hid, rfl⟩ := mapOptional_eq_ok.mp h
  · rfl
  · rw [Option.map_some, Except.ok.inj ((ranUeId_remade octets id hid).mpr trivial)]

theorem map_toNat_ofNat {o : Option Nat} : (o.map UInt32.ofNat).map UInt32.toNat = o ↔ ∀ n ∈ o, n < 4294967296 := by
  cases o with
  | none => simp
  | some n => simp

theorem x2apId_remade (n : Nat) : Restored decX2apId encX2apId n (n < 65536) := by
  intro id h
  obtain ⟨_, hlt, h⟩ := Except.bind_eq_ok.mp h
  rw [require_eq_ok] at hlt
  obtain rfl := Except.ok.inj h
  rw [encX2apId, require_of hlt, Except.ok_bind, Except.pure_eq, Except.ok.injEq, UInt16.toNat_ofNat']
  omega

theorem ids_remade (m : Nat) (msg msg' : String) (o : Option (List Nat)) :
    Restored (mapListed (oneTo m) msg' fun n => .ok (UInt32.ofNat n)) (mapNonempty (oneTo m) msg fun id => .ok id.toNat) o
      (∀ l ∈ o, FitU32 l) := by
  refine Restored.mapListed msg' msg (fun _ => And.left) (fun _ => id) fun n id h => ?_
  obtain rfl := Except.ok.inj h
  rw [Except.ok.injEq, UInt32.toNat_ofNat_eq_iff]

theorem f1apLst_remade (o : Option (List Nat)) : Restored decF1apLst encF1apLst o (∀ l ∈ o, FitU32 l) :=
  ids_remade _ _ _ o

theorem e1apLst_remade (o : Option (List Nat)) : Restored decE1apLst encE1apLst o (∀ l ∈ o, FitU32 l) :=
  ids_remade _ _ _ o

/-- The number of the octets is below `2 ^ 40`, with or without a sign. -/
theorem amf_remade {octets : List UInt8} (hlen : octets.length < 6) :
    asnUlong2Integer (asnInteger2Ulong octets) = octets ↔ Octets.Shortest octets := by
  have hlt := Octets.beNat_lt octets
  have hpow : 256 ^ octets.length ≤ 256 ^ 7 := Nat.pow_le_pow_right (by decide) (by omega)
  have hnat : (UInt64.ofNat (Octets.beNat 0 octets)).toNat = Octets.beNat 0 octets := by
    rw [UInt64.toNat_ofNat']
    exact Nat.mod_eq_of_lt (by omega)
  rw [← Octets.minimal_beBytes_beNat (show octets.length ≤ 7 by omega), asnInteger2Ulong,
    Nat.sub_eq_zero_of_le (show octets.length ≤ 8 by omega), asnUlong2Integer]
  simp only [List.take_zero, List.any_nil, Bool.false_eq_true, if_false, hnat]

theorem guami_remade (g : GuamiAsn) : Restored decGuami encGuami g g.Remade := by
  intro v h
  simp only [decGuami, Except.bind_eq_ok, Except.pure_eq, Except.ok.injEq] at h
  obtain ⟨region, hregion, set, hset, ptr, hptr, rfl⟩ := h
  have hregion' := IdKind.remade .amfRegion g.amfRegionId region hregion
  have hset' := IdKind.remade .amfSet g.amfSetId set hset
  have hptr' := IdKind.remade .amfPtr g.amfPointer ptr hptr
  rw [GuamiAsn.remade_iff, ← encPlmn_decPlmn_iff, ← hregion', ← hset', ← hptr']
  obtain ⟨plmn, r, s, p⟩ := g
  simp only [encGuami, IdKind.toBitString, Except.bind_eq_ok, Except.pure_eq, Except.ok.injEq, GuamiAsn.mk.injEq]
  constructor
  · rintro ⟨_, hr, _, hs, _, hp, h1, rfl, rfl, rfl⟩
    exact ⟨h1, hr, hs, hp⟩
  · rintro ⟨h1, hr, hs, hp⟩
    exact ⟨_, hr, _, hs, _, hp, h1, rfl, rfl, rfl⟩

theorem globalEnbId_remade (id : GlobalEnbIdAsn) : Restored decGlobalEnbIdAsn encGlobalEnbIdAsn id id.Remade := by
  obtain ⟨plmn, _ | ⟨type, enbId⟩⟩ := id
  · exact fun _ h => by cases h
  · intro v h
    obtain ⟨n, hn, h⟩ := Except.bind_eq_ok.mp h
    obtain rfl := Except.ok.inj h
    have hid := type.kind.remade enbId n hn
    simp only [encGlobalEnbIdAsn, GlobalEnbIdAsn.Remade, ← encPlmn_decPlmn_iff, Except.bind_eq_ok, Except.pure_eq,
      Except.ok.injEq, GlobalEnbIdAsn.mk.injEq, Option.some.injEq, Prod.mk.injEq, Option.mem_def, forall_eq', ← hid,
      true_and]
    constructor
    · rintro ⟨_, henc, h1, rfl⟩
      exact ⟨h1, henc⟩
    · rintro ⟨h1, henc⟩
      exact ⟨_, henc, h1, rfl⟩

theorem globalNgEnbId_remade (id : GlobalNgEnbIdAsn) : Restored decGlobalNgEnbAsn encGlobalNgEnbAsn id id.Remade := by
  obtain ⟨plmn, _ | ⟨type, ngEnbId⟩⟩ := id
  · exact fun _ h => by cases h
  · intro v h
    obtain ⟨n, hn, h⟩ := Except.bind_eq_ok.mp h
    obtain rfl := Except.ok.inj h
    have hid := type.kind.remade ngEnbId n hn
    simp only [encGlobalNgEnbAsn, GlobalNgEnbIdAsn.Remade, ← encPlmn_decPlmn_iff, Except.bind_eq_ok, Except.pure_eq,
      Except.ok.injEq, GlobalNgEnbIdAsn.mk.injEq, Option.some.injEq, Prod.mk.injEq, Option.mem_def, forall_eq', ← hid,
      true_and]
    constructor
    · rintro ⟨_, henc, h1, rfl⟩
      exact ⟨h1, henc⟩
    · rintro ⟨h1, henc⟩
      exact ⟨_, henc, h1, rfl⟩

theorem globalGnbId_remade (id : GlobalGnbIdAsn) : Restored decGlobalGnbIdAsn encGlobalGnbIdAsn id id.Remade := by
  obtain ⟨plmn, _ | gnbId⟩ := id
  · exact fun _ h => by cases h
  · intro v h
    obtain ⟨⟨nbId, unused⟩, hn, h⟩ := Except.bind_eq_ok.mp h
    obtain rfl := Except.ok.inj h
    have hid := gnbId_remade hn
    simp only [encGlobalGnbIdAsn, GlobalGnbIdAsn.Remade, ← encPlmn_decPlmn_iff, Except.bind_eq_ok, Except.pure_eq,
      Except.ok.injEq, GlobalGnbIdAsn.mk.injEq, Option.some.injEq, Option.mem_def, forall_eq', ← hid]
    constructor
    · rintro ⟨_, henc, h1, rfl⟩
      exact ⟨h1, henc⟩
    · rintro ⟨h1, henc⟩
      exact ⟨_, henc, h1, rfl⟩

theorem globalNgRanNodeId_remade (id : GlobalNgRanNodeIdAsn) :
    Restored decGlobalNgRanAsn encGlobalNgRanAsn id id.Remade := by
  cases id with
  | nothing => exact fun _ h => by cases h
  | gnb id => exact (globalGnbId_remade id).wrap rfl (fun _ => rfl) fun _ _ => GlobalNgRanNodeIdAsn.gnb.inj
  | ngEnb id => exact (globalNgEnbId_remade id).wrap rfl (fun _ => rfl) fun _ _ => GlobalNgRanNodeIdAsn.ngEnb.inj

/-- The two bytes of a number that was made of them -/
theorem group_of_bytes (x y : UInt8) :
    ((x.toUInt16 <<< 8 ||| y.toUInt16) >>> 8).toUInt8 = x ∧ (x.toUInt16 <<< 8 ||| y.toUInt16).toUInt8 = y := by
  have hx := x.toNat_lt
  have hy := y.toNat_lt
  have hnat : (x.toUInt16 <<< 8 ||| y.toUInt16).toNat = x.toNat * 256 + y.toNat := by
    have hfit : x.toNat <<< 8 % 65536 = x.toNat <<< 8 := by
      rw [Nat.shiftLeft_eq]
      omega
    simp only [UInt16.toNat_or, UInt16.toNat_shiftLeft, UInt8.toNat_toUInt16, UInt16.reduceToNat, Nat.reduceMod,
      Nat.reducePow, hfit]
    exact Bits.or_shiftLeft hy x.toNat
  rw [← UInt8.toNat_inj, ← UInt8.toNat_inj, UInt16.toNat_toUInt8, UInt16.toNat_toUInt8, UInt16.toNat_shiftRight, hnat,
    Nat.shiftRight_eq_div_pow]
  simp only [UInt16.reduceToNat, Nat.reduceMod, Nat.reducePow]
  omega

/-- Of a group of three bytes only the first two are read. -/
theorem gummei_remade {g : GummeiAsn} {v : Gummei} (h : decGummei g = .ok v) : encGummei v = g ↔ g.Remade := by
  obtain ⟨_, hgroup, h⟩ := Except.bind_eq_ok.mp h
  obtain ⟨_, hcode, h⟩ := Except.bind_eq_ok.mp h
  rw [require_eq_ok] at hgroup hcode
  obtain rfl := Except.ok.inj h
  obtain ⟨plmn, group, code⟩ := g
  obtain ⟨c, rfl⟩ := List.length_eq_one_iff.mp hcode
  rw [GummeiAsn.remade_iff, ← encPlmn_decPlmn_iff]
  simp only [encGummei, GummeiAsn.mk.injEq, List.getD_cons_zero, and_true]
  refine and_congr_right fun _ => ?_
  rcases hgroup with h2 | h3
  · obtain ⟨x, y, rfl⟩ := List.length_eq_two.mp h2
    obtain ⟨hx, hy⟩ := group_of_bytes x y
    simp only [List.getD_cons_zero, List.getD_cons_succ, hx, hy, List.length_cons, List.length_nil]
  · refine iff_of_false (fun h => ?_) fun h => ?_
    · exact absurd ((congrArg List.length h).trans h3) (by simp)
    · exact absurd (h.symm.trans h3) (by decide)

theorem optional_remade {α β : Type} {enc : α → Except String β} {dec : β → Except String α} {P : β → Prop}
    (h : ∀ b, Restored dec enc b (P b)) {o : Option β} {v : Option α} (hv : mapOptional dec o = .ok v) :
    mapOptional enc v = .ok o ↔ ∀ b ∈ o, P b :=
  Restored.mapOptional (fun b _ => h b) v hv

theorem gnb_remade (gnb : GnbAsn) : Restored decGnbUeAsn encGnbUeAsn gnb gnb.Remade := by
  intro v h
  simp only [decGnbUeAsn, Except.bind_eq_ok, require_eq_ok, exists_const, Except.pure_eq, Except.ok.injEq] at h
  obtain ⟨hlen, hamf, guami, hguami, f1ap, hf1ap, e1ap, he1ap, ranUeId, hran, gnbId, hgnbId, nodeId, hnodeId, rfl⟩ := h
  rw [GnbAsn.remade_iff, ← amf_remade hlen, ← guami_remade gnb.guami guami hguami, ← f1apLst_remade _ f1ap hf1ap,
    ← e1apLst_remade _ e1ap he1ap, ← map_toNat_ofNat, ← optional_remade globalGnbId_remade hgnbId,
    ← optional_remade globalNgRanNodeId_remade hnodeId]
  simp only [encGnbUeAsn, optional_ranUeId hran, Except.bind_eq_ok, require_eq_ok, exists_const, Except.pure_eq,
    Except.ok.injEq, hamf, true_and]
  obtain ⟨amf, g, f, e, r, x, gg, nn⟩ := gnb
  simp only [GnbAsn.mk.injEq, true_and]
  constructor
  · rintro ⟨_, hg, _, hf, _, he, _, hgg, _, hnn, ha, rfl, rfl, rfl, hx, rfl, rfl⟩
    exact ⟨ha, hg, hf, he, hx, hgg, hnn⟩
  · rintro ⟨ha, hg, hf, he, hx, hgg, hnn⟩
    exact ⟨_, hg, _, hf, _, he, _, hgg, _, hnn, ha, rfl, rfl, rfl, hx, rfl, rfl⟩

theorem ngEnb_remade (ngEnb : NgEnbAsn) : Restored decNgEnbUeAsn encNgEnbUeAsn ngEnb ngEnb.Remade := by
  intro v h
  simp only [decNgEnbUeAsn, Except.bind_eq_ok, require_eq_ok, exists_const, Except.pure_eq, Except.ok.injEq] at h
  obtain ⟨hlen, hamf, guami, hguami, enbId, henbId, nodeId, hnodeId, rfl⟩ := h
  have hoctets : leBytes 5 (UInt64.ofNat (leNat (ngEnb.amfUeNgapId.take 5))).toNat = ngEnb.amfUeNgapId ↔
      ngEnb.amfUeNgapId.length = 5 := by
    have htake : (ngEnb.amfUeNgapId.take 5).length = 5 := List.length_take_of_le hlen
    have hlt := Plain.leNat_lt (ngEnb.amfUeNgapId.take 5)
    rw [htake] at hlt
    have hnat : (UInt64.ofNat (leNat (ngEnb.amfUeNgapId.take 5))).toNat = leNat (ngEnb.amfUeNgapId.take 5) := by
      rw [UInt64.toNat_ofNat']
      exact Nat.mod_eq_of_lt (by omega)
    have hback := Plain.leBytes_leNat (ngEnb.amfUeNgapId.take 5)
    rw [htake] at hback
    rw [hnat, hback]
    exact ⟨fun h => h ▸ htake, fun h => List.take_of_length_le (Nat.le_of_eq h)⟩
  rw [NgEnbAsn.remade_iff, ← hoctets, ← guami_remade ngEnb.guami guami hguami, ← map_toNat_ofNat, ← map_toNat_ofNat,
    ← optional_remade globalNgEnbId_remade henbId, ← optional_remade globalNgRanNodeId_remade hnodeId]
  simp only [encNgEnbUeAsn, Except.bind_eq_ok, Except.pure_eq, Except.ok.injEq]
  obtain ⟨amf, g, w, x, gg, nn⟩ := ngEnb
  simp only [NgEnbAsn.mk.injEq]
  constructor
  · rintro ⟨_, hg, _, hgg, _, hnn, ha, rfl, hw, hx, rfl, rfl⟩
    exact ⟨ha, hg, hw, hx, hgg, hnn⟩
  · rintro ⟨ha, hg, hw, hx, hgg, hnn⟩
    exact ⟨_, hg, _, hgg, _, hnn, ha, rfl, hw, hx, rfl, rfl⟩

theorem enGnb_remade (enGnb : EnGnbAsn) : Restored decEnGnbUeAsn encEnGnbUeAsn enGnb enGnb.Remade := by
  intro v h
  simp only [decEnGnbUeAsn, Except.bind_eq_ok, Except.pure_eq, Except.ok.injEq] at h
  obtain ⟨x2ap, hx2ap, ext, hext, enbId, henbId, e1ap, he1ap, ranUeId, hran, rfl⟩ := h
  rw [EnGnbAsn.remade_iff, ← x2apId_remade _ x2ap hx2ap, ← optional_remade x2apId_remade hext,
    ← globalEnbId_remade _ enbId henbId, ← map_toNat_ofNat, ← e1apLst_remade _ e1ap he1ap]
  simp only [encEnGnbUeAsn, optional_ranUeId hran, Except.bind_eq_ok, Except.pure_eq, Except.ok.injEq]
  obtain ⟨x, xe, g, f, e, r⟩ := enGnb
  simp only [EnGnbAsn.mk.injEq, and_true]
  constructor
  · rintro ⟨_, hx, _, hxe, _, hg, _, he, rfl, rfl, rfl, hf, rfl⟩
    exact ⟨hx, hxe, hg, hf, he⟩
  · rintro ⟨hx, hxe, hg, hf, he⟩
    exact ⟨_, hx, _, hxe, _, hg, _, he, rfl, rfl, rfl, hf, rfl⟩

theorem enb_remade (enb : EnbAsn) : Restored decEnbUeAsn encEnbUeAsn enb enb.Remade := by
  intro v h
  simp only [decEnbUeAsn, Except.bind_eq_ok, Except.pure_eq, Except.ok.injEq] at h
  obtain ⟨gummei, hgummei, x2ap, hx2ap, ext, hext, enbId, henbId, rfl⟩ := h
  rw [EnbAsn.remade_iff, ← UInt32.toNat_ofNat_eq_iff, ← gummei_remade hgummei, ← optional_remade x2apId_remade hx2ap,
    ← optional_remade x2apId_remade hext, ← optional_remade globalEnbId_remade henbId]
  simp only [encEnbUeAsn, Except.bind_eq_ok, Except.pure_eq, Except.ok.injEq]
  obtain ⟨s, g, x, xe, gg⟩ := enb
  simp only [EnbAsn.mk.injEq]
  constructor
  · rintro ⟨_, hx, _, hxe, _, hgg, hs, hg, rfl, rfl, rfl⟩
    exact ⟨hs, hg, hx, hxe, hgg⟩
  · rintro ⟨hs, hg, hx, hxe, hgg⟩
    exact ⟨_, hx, _, hxe, _, hgg, hs, hg, rfl, rfl, rfl⟩

/-- Of what is decoded of an identity the encoder makes the same structure again exactly when it is `Remade`. -/
theorem ueId_remade (a : UeIdAsn) : Restored decUeIdAsn encUeIdAsn a a.Remade := by
  cases a with
  | nothing => exact fun _ h => by cases h
  | gnb id => exact (gnb_remade id).wrap rfl (fun _ => rfl) fun _ _ => UeIdAsn.gnb.inj
  | gnbDu id =>
    intro v h
    obtain ⟨w, hw, h⟩ := Except.bind_eq_ok.mp h
    obtain rfl := Except.ok.inj h
    obtain ⟨ranUeId, hran, hw⟩ := Except.bind_eq_ok.mp hw
    obtain rfl := Except.ok.inj hw
    obtain ⟨f1ap, r⟩ := id
    simp only [encUeIdAsn, encGnbDuUeAsn, optional_ranUeId hran, Except.pure_eq, Except.ok.injEq, UeIdAsn.gnbDu.injEq,
      GnbDuAsn.mk.injEq, and_true, UeIdAsn.Remade, UInt32.toNat_ofNat_eq_iff]
  | gnbCuUp id =>
    intro v h
    obtain ⟨w, hw, h⟩ := Except.bind_eq_ok.mp h
    obtain rfl := Except.ok.inj h
    obtain ⟨ranUeId, hran, hw⟩ := Except.bind_eq_ok.mp hw
    obtain rfl := Except.ok.inj hw
    obtain ⟨e1ap, r⟩ := id
    simp only [encUeIdAsn, encGnbCuUpUeAsn, optional_ranUeId hran, Except.pure_eq, Except.ok.injEq,
      UeIdAsn.gnbCuUp.injEq, GnbCuUpAsn.mk.injEq, and_true, UeIdAsn.Remade, UInt32.toNat_ofNat_eq_iff]
  | ngEnb id => exact (ngEnb_remade id).wrap rfl (fun _ => rfl) fun _ _ => UeIdAsn.ngEnb.inj
  | ngEnbDu id =>
    intro v h
    obtain rfl := Except.ok.inj h
    obtain ⟨w1ap⟩ := id
    simp only [encUeIdAsn, encNgEnbDuUeAsn, decNgEnbDuUeAsn, Except.pure_eq, Except.ok.injEq, UeIdAsn.ngEnbDu.injEq,
      NgEnbDuAsn.mk.injEq, UeIdAsn.Remade, UInt32.toNat_ofNat_eq_iff]
  | enGnb id => exact (enGnb_remade id).wrap rfl (fun _ => rfl) fun _ _ => UeIdAsn.enGnb.inj
  | enb id => exact (enb_remade id).wrap rfl (fun _ => rfl) fun _ _ => UeIdAsn.enb.inj

end FlexRic.Ue
