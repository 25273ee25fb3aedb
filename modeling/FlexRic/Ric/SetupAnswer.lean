import FlexRic.Lib.Except
import FlexRic.Ric.E2Nodes

/-! # The answer to an E2 setup request

The RIC loads the service models it has plug-ins for (`plugin_ric.c`), searches them for the RAN functions of a node
(`generate_setup_response.c`), and records the node before it answers (`msg_handler_ric.c`). -/

namespace FlexRic.Ric
open Ds E2ap MsgHand IApp

/-! ### `plugin_ric.c` -/

/-- `sm_ric_t`; the answer depends on nothing else of a service model. -/
structure SmRic where
  ranFuncId : Nat
  deriving DecidableEq, Repr

/-- `plugin_ric_t::sm_ds` -/
abbrev PluginRic := AssocRbTree ranFuncIdOrder SmRic

/-- `load_plugin_ric`, from where the shared object has made the service model -/
def loadPluginRic (p : PluginRic) (sm : SmRic) : Except String PluginRic := do
  require (0 < sm.ranFuncId) "Reserved RAN function ID"
  return p.insert sm.ranFuncId sm

/-- `init_plugin_ric`, with the service models in the order of the directory -/
def initPluginRic (sms : List SmRic) : Except String PluginRic := sms.foldlM loadPluginRic .init

/-! ### `generate_setup_response.c` -/

/-- The RAN function of one turn of the loop in `accept_ran_func` -/
def acceptRanFuncId (smDs : PluginRic) (id : Nat) : Except String Nat :=
  match smDs.findIf fun key => eqRanFuncId id key with
  | some (key, _) => do
    require (id = key) "id == *(uint16_t*)assoc_key(&ric->plugin.sm_ds, it)"
    return id
  | none => .error "Unknown RAN function ID from the agent received"

/-- `accept_ran_func`, with the search that `acceptRanFunc` has in short -/
def acceptRanFuncIn (smDs : PluginRic) (req : E2SetupRequest) : Except String (List Nat) :=
  req.ranFuncItem.mapM fun rf => acceptRanFuncId smDs rf.id

/-- The versions of E2AP that the RIC can be built for and that have configurations of components in a setup request -/
inductive E2apVersion
  | v2
  | v3
  deriving DecidableEq, Repr

/-- `cp_e2ap_node_comp_id` in version 3 -/
def cpNodeCompIdV3 : NodeCompId → Except String NodeCompId
  | .ng name => .ok (.ng name)
  | .f1 id => if id < 2 ^ 36 then .ok (.f1 id) else .error "src->f1_gnb_du_id < (1UL << 36)"
  | .xn | .e1 _ | .w1 | .s1 | .x2 => .error "Only these two types supported"

/-- `cp_e2ap_node_comp_id`, as the build has it -/
def cpNodeCompIdIn : E2apVersion → NodeCompId → Except String NodeCompId
  | .v2 => cpNodeCompId
  | .v3 => cpNodeCompIdV3

/-- The acknowledge of one turn of the loop in `generate_setup_response_v2` -/
def addAck (v : E2apVersion) (c : NodeComponentConfigAdd) : Except String NodeCompConfigAddAck := do
  let e2NodeCompId ← cpNodeCompIdIn v c.e2NodeCompId
  return { e2NodeCompInterfaceType := c.e2NodeCompInterfaceType, e2NodeCompId, outcome := .success }

/-- `generate_setup_response_v2`, which is `generate_setup_response_v3` too -/
def generateSetupResponseIn (v : E2apVersion) (smDs : PluginRic) (req : E2SetupRequest) :
    Except String E2SetupResponse := do
  let accepted ← acceptRanFuncIn smDs req
  require (0 < req.compConfAdd.length ∧ req.compConfAdd.length < 1025) "req->len_cca > 0 && req->len_cca < 1025"
  let compConfigAddAck ← req.compConfAdd.mapM (addAck v)
  return {
    transId := req.transId
    plmn := req.id.plmn
    nearRicId := 25
    accepted
    rejected := []
    compConfigAddAck }

/-! ### `msg_handler_ric.c` -/

/-- `E2AP_NODE_IS_MONOLITHIC` -/
def NodeIsMonolithic (type : NgranNode) : Prop := type = .eNB ∨ type = .ngENB ∨ type = .gNB

instance : DecidablePred NodeIsMonolithic := fun _ => inferInstanceAs (Decidable (_ ∨ _))

/-- The line about the request that is printed has the `cu_du_id` of a node that is not monolithic. -/
def printSetupRequest (id : GlobalE2NodeId) : Except String Unit :=
  require (NodeIsMonolithic id.type ∨ id.cuDuId.isSome) "*req->id.cu_du_id"

namespace Registries

/-- `e2ap_handle_setup_request_ric`: what it answers the node with, and what the iApp tells its xApps -/
def handleSetupRequest (v : E2apVersion) (smDs : PluginRic) (xapps : MapXapps) (r : Registries) (req : E2SetupRequest) :
    Except String (Registries × E2SetupResponse × List Sent) := do
  printSetupRequest req.id
  let r ← r.addE2NodeIapp req
  let ans ← generateSetupResponseIn v smDs req
  let r := { r with connE2Nodes := r.connE2Nodes ++ [initE2Node req.id ans.accepted] }
  let updates ← r.notifyXapps xapps
  return (r, ans, updates)

end Registries

end FlexRic.Ric
