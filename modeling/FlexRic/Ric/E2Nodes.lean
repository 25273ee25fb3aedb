import FlexRic.Ds.BiMap
import FlexRic.IApp.Maps
import FlexRic.MsgHand.RegE2Nodes

/-! # The registries of connected E2 nodes

The RIC keeps the addresses of nodes in `ep.e2_nodes` and the nodes in `conn_e2_nodes`, its iApp keeps them
in `reg_e2_nodes`. A setup request adds a node to all three, the shutdown of its association takes it out
(`near_ric.c`, `msg_handler_ric.c`, `not_handler_ric.c`, `map_e2_node_sockaddr.c`). -/

namespace FlexRic.Ric
open Ds E2ap Ep MsgHand IApp

/-! ### `map_e2_node_sockaddr.c` -/

/-- `map_e2_node_sockaddr_t` -/
abbrev MapE2NodeSad := BiMap globalE2NodeIdOrder sctpInfoOrder

/-- `add_map_e2_node_sad`; what it asserts under `DEBUG` is not compiled. -/
def addMapE2NodeSad (m : MapE2NodeSad) (id : GlobalE2NodeId) (s : SctpInfo) : MapE2NodeSad := m.insert id s

/-- Where the memory of an address has `global_e2_node_id_t::type`: its family and its port. -/
def typeWord (m : SctpInfo) : Nat := m.sinFamily + 65536 * m.sinPort

/-- `global_e2_node_id_t::plmn`: the IPv4 address and the first byte of the padding. -/
def plmnWords (m : SctpInfo) : E2apPlmn := ⟨m.sinAddr % 65536, m.sinAddr / 65536, m.sinZero0⟩

/-- `global_e2_node_id_t::nb_id.unused`: the stream and the number of the message in it. -/
def unusedWord (m : SctpInfo) : Nat := m.sinfoStream + 65536 * m.sinfoSsn

/-- `cmp_global_e2_node_id_wrapper` on the memory of two addresses (LP64, little endian), which is what
`bi_map_extract_right` gives it. `nb_id` lies on the rest of the padding. The family is that of IPv4, so that
the type is none of those with a `cu_du_id`. -/
def cmpNodeIdOfSctpInfo (m0 m1 : SctpInfo) : Int :=
  if typeWord m0 < typeWord m1 then -1
  else if typeWord m0 > typeWord m1 then 1
  else
    let rc := cmpE2apPlmn (plmnWords m0) (plmnWords m1)
    if rc ≠ 0 then rc
    else if m0.sinZero4 < m1.sinZero4 then -1
    else if m0.sinZero4 > m1.sinZero4 then 1
    else if unusedWord m0 < unusedWord m1 then 1
    else if unusedWord m0 > unusedWord m1 then -1
    else 0

/-- `rm_map_sad_e2_node` -/
def rmMapSadE2Node (m : MapE2NodeSad) (s : SctpInfo) : Except String (GlobalE2NodeId × MapE2NodeSad) :=
  m.extractRight cmpNodeIdOfSctpInfo s

/-! ### `generate_setup_response.c` and `e2_node.c` -/

/-- `accept_ran_func`, with the identifiers of the RAN functions that have a plug-in -/
def acceptRanFunc (plugins : List Nat) (req : E2SetupRequest) : Except String (List Nat) :=
  req.ranFuncItem.mapM fun rf =>
    if rf.id ∈ plugins then .ok rf.id else .error "Unknown RAN function ID from the agent received"

/-- `generate_setup_response_v2` -/
def generateSetupResponse (plugins : List Nat) (req : E2SetupRequest) : Except String E2SetupResponse := do
  let accepted ← acceptRanFunc plugins req
  if ¬(0 < req.compConfAdd.length ∧ req.compConfAdd.length < 1025) then
    .error "req->len_cca > 0 && req->len_cca < 1025"
  else
    let compConfigAddAck ← req.compConfAdd.mapM fun c => do
      let e2NodeCompId ← cpNodeCompId c.e2NodeCompId
      return { e2NodeCompInterfaceType := c.e2NodeCompInterfaceType, e2NodeCompId, outcome := .success }
    return {
      transId := req.transId
      plmn := req.id.plmn
      nearRicId := 25
      accepted
      rejected := []
      compConfigAddAck }

/-- `e2_node_t` -/
structure E2Node where
  id : GlobalE2NodeId
  accepted : List Nat
  deriving DecidableEq

/-- `init_e2_node` -/
def initE2Node (id : GlobalE2NodeId) (accepted : List Nat) : E2Node := ⟨id, accepted⟩

/-! ### The handlers -/

/-- The registries. -/
structure Registries where
  e2Nodes : MapE2NodeSad
  connE2Nodes : List E2Node
  iappE2Nodes : RegE2Nodes

/-- What a handler sends, and to whom. -/
inductive Sent
  | toNode (info : SctpInfo) (m : E2SetupResponse)
  | toXapp (info : SctpInfo) (m : E42NodesMsg)
  deriving DecidableEq

namespace Registries

def init : Registries := ⟨.init, [], .init⟩

/-- `e2ap_reg_sock_addr_ric` -/
def regSockAddr (r : Registries) (id : GlobalE2NodeId) (s : SctpInfo) : Registries :=
  { r with e2Nodes := addMapE2NodeSad r.e2Nodes id s }

/-- `add_e2_node_iapp_api` -/
def addE2NodeIapp (r : Registries) (req : E2SetupRequest) : Except String Registries := do
  if req.ranFuncItem = [] then .error "E2 Node with no RAN functions??\n"
  else
    let iappE2Nodes ← addRegE2Node r.iappE2Nodes req.id req.ranFuncItem
    return { r with iappE2Nodes }

/-- `e2ap_rm_sock_addr_ric` -/
def rmSockAddr (r : Registries) (s : SctpInfo) : Except String (GlobalE2NodeId × Registries) := do
  let (id, e2Nodes) ← rmMapSadE2Node r.e2Nodes s
  return (id, { r with e2Nodes })

/-- The removal from `conn_e2_nodes` in `notification_handle_ric` -/
def eraseE2Node (r : Registries) (id : GlobalE2NodeId) : Except String Registries :=
  if ∃ n ∈ r.connE2Nodes, n.id = id then .ok { r with connE2Nodes := r.connE2Nodes.eraseP (·.id = id) }
  else .error "E2 Node not found!"

/-- `rm_e2_node_iapp`, up to the notification -/
def rmE2NodeIapp (r : Registries) (id : GlobalE2NodeId) : Except String Registries := do
  let iappE2Nodes ← rmRegE2Node r.iappE2Nodes id
  return { r with iappE2Nodes }

/-- `generate_update_e2_node`: one message to each of the first `num_xapp` identifiers -/
def generateUpdateE2Node (r : Registries) (xapps : MapXapps) (numXapp : Nat) : Except String (List Sent) :=
  let newE2Arr := generateE2NodeArr r.iappE2Nodes
  (List.range' 7 numXapp).mapM fun i => do
    let info ← findMapXappsSad xapps (i % 65536)
    return .toXapp info (.updateE2Node (i % 65536) (carried newE2Arr))

/-- `e2ap_handle_ric_e2_setup_response_iapp` -/
def notifyXapps (r : Registries) (xapps : MapXapps) : Except String (List Sent) :=
  let numXapp := xapps.size
  if numXapp = 0 then .ok [] else generateUpdateE2Node r xapps numXapp

/-- `sctp_msg_arrived_event` with a setup request, which `e2ap_handle_setup_request_ric` handles -/
def setupRequest (plugins : List Nat) (xapps : MapXapps) (r : Registries) (req : E2SetupRequest) (info : SctpInfo) :
    Except String (Registries × List Sent) := do
  let r := r.regSockAddr req.id info
  let r ← r.addE2NodeIapp req
  let ans ← generateSetupResponse plugins req
  let r := { r with connE2Nodes := r.connE2Nodes ++ [initE2Node req.id ans.accepted] }
  let updates ← r.notifyXapps xapps
  return (r, updates ++ [.toNode info ans])

/-- `notification_handle_ric` with the shutdown of an association -/
def shutdown (xapps : MapXapps) (r : Registries) (info : SctpInfo) : Except String (Registries × List Sent) := do
  let (id, r) ← r.rmSockAddr info
  let r ← r.eraseE2Node id
  let r ← r.rmE2NodeIapp id
  let updates ← r.notifyXapps xapps
  return (r, updates)

end Registries

/-- What the RIC receives about the connection of a node. -/
inductive NodeEvent
  | setupRequest (req : E2SetupRequest) (info : SctpInfo)
  | shutdown (info : SctpInfo)
  deriving DecidableEq

namespace Registries

def handle (plugins : List Nat) (xapps : MapXapps) (r : Registries) :
    NodeEvent → Except String (Registries × List Sent)
  | .setupRequest req info => r.setupRequest plugins xapps req info
  | .shutdown info => r.shutdown xapps info

/-- One event after the other. -/
def handleAll (plugins : List Nat) (xapps : MapXapps) (r : Registries) : List NodeEvent → Except String Registries
  | [] => .ok r
  | ev :: evs => do
    let (r, _) ← r.handle plugins xapps ev
    r.handleAll plugins xapps evs

end Registries

end FlexRic.Ric
