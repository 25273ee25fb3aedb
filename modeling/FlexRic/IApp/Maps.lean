import FlexRic.Ds.BiMap
import FlexRic.E2ap.Messages
import FlexRic.Ep.SctpInfo

/-! # The iApp's two maps

`map_ric_id.c` pairs the RIC's identifier of a request with the xApp's, `map_xapps_sockaddr.c` has the
address of every registered xApp. -/

namespace FlexRic.IApp
open Ds E2ap Ep

/-! ### `map_ric_id.c` -/

/-- `e2_node_ric_req_t` -/
structure E2NodeRicReq where
  e2NodeId : GlobalE2NodeId
  ricReqId : Nat
  deriving DecidableEq

/-- `cmp_uint16` of `map_ric_id.c` on the request identifiers -/
def cmpE2NodeRicReq (m0 m1 : E2NodeRicReq) : Int :=
  if m0.ricReqId < m1.ricReqId then -1
  else if m0.ricReqId = m1.ricReqId then 0
  else 1

theorem cmpE2NodeRicReq_eq (a b : E2NodeRicReq) :
    cmpE2NodeRicReq a b = (Comparator.reverse (Comparator.by_ E2NodeRicReq.ricReqId)).cmp a b := by
  rw [cmpE2NodeRicReq, Comparator.reverse_by_cmp]
  grind

def e2NodeRicReqOrder : Comparator E2NodeRicReq := Comparator.ofEq _ cmpE2NodeRicReq cmpE2NodeRicReq_eq

/-- `map_ric_id_t`: left the requests of the RIC, right those of the xApps. -/
abbrev MapRicId := BiMap e2NodeRicReqOrder xappRicIdOrder

/-- `add_map_ric_id` -/
def addMapRicId (map : MapRicId) (node : E2NodeRicReq) (x : XappRicId) : Except String MapRicId :=
  match map.left.findIf fun n => n.ricReqId == node.ricReqId with
  | some _ => .error "ric_req_id already in the map"
  | none => .ok (map.insert node x)

/-- `find_xapp_map_ric_id` -/
def findXappMapRicId (map : MapRicId) (ricReqId : Nat) : Except String XappRicId :=
  if ricReqId = 0 then .error "ric_req_id > 0"
  else
    match map.left.findIf fun n => n.ricReqId == ricReqId with
    | none => .error "Not found RIC Request ID"
    | some (_, x) => .ok x

/-- `find_ric_req_map_ric_id` -/
def findRicReqMapRicId (map : MapRicId) (x : XappRicId) : Except String E2NodeRicReq :=
  match map.right.findIf (· == x) with
  | none => .error "Not found xApp RIC ID "
  | some (_, n) => .ok n

/-! ### `map_xapps_sockaddr.c` -/

/-- `cmp_uint16_wrapper` -/
def cmpUint16 (m0 m1 : Nat) : Int :=
  if m0 < m1 then 1
  else if m0 > m1 then -1
  else 0

theorem cmpUint16_eq (a b : Nat) : cmpUint16 a b = (Comparator.by_ id).cmp a b := by
  rw [cmpUint16, Comparator.by_cmp]
  rfl

def uint16Order : Comparator Nat := Comparator.ofEq _ cmpUint16 cmpUint16_eq

/-- `map_xapps_sockaddr_t` -/
abbrev MapXapps := AssocRbTree uint16Order SctpInfo

/-- `add_map_xapps_sad` -/
def addMapXappsSad (m : MapXapps) (xappId : Nat) (s : SctpInfo) : Except String MapXapps :=
  match m.findIf (· == xappId) with
  | some _ => .error "xApp ID already registered in the tree"
  | none => .ok (m.insert xappId s)

/-- `find_map_xapps_sad` -/
def findMapXappsSad (m : MapXapps) (xappId : Nat) : Except String SctpInfo :=
  match m.findIf (· == xappId) with
  | none => .error "xApp ID not found in the tree"
  | some (_, s) => .ok s

end FlexRic.IApp
