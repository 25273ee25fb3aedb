import FlexRic.E2ap.Types

/-! # E2 setup and E42 setup

What a node says about itself, what the RIC answers, and what the iApp tells xApps about nodes. -/

namespace FlexRic.E2ap

/-- `ran_function_t` -/
structure RanFunction where
  definition : List UInt8
  id : Nat
  rev : Nat
  oid : List UInt8
  deriving DecidableEq, Repr

/-- `e2ap_node_comp_interface_type_e` -/
inductive NodeCompInterfaceType
  | ng
  | xn
  | e1
  | f1
  | w1
  | s1
  | x2
  deriving DecidableEq, Repr

/-- `e2ap_node_comp_id_t`; nothing reads the identifiers of the types that are not supported. -/
inductive NodeCompId
  | ng (amfName : List UInt8)
  | xn
  | e1 (gnbCuUpId : Nat)
  | f1 (gnbDuId : Nat)
  | w1
  | s1
  | x2
  deriving DecidableEq, Repr

/-- `cp_e2ap_node_comp_id` -/
def cpNodeCompId : NodeCompId → Except String NodeCompId
  | .ng name => .ok (.ng name)
  | .e1 id => if id < 2 ^ 36 then .ok (.e1 id) else .error "src->e1_gnb_cu_up_id < (1UL << 36)"
  | .f1 id => if id < 2 ^ 36 then .ok (.f1 id) else .error "src->f1_gnb_du_id < (1UL << 36)"
  | .xn | .w1 | .s1 | .x2 => .error "ensure_type_supported(src->type)"

/-- `e2ap_node_component_config_add_t`, without the configuration itself. -/
structure NodeComponentConfigAdd where
  e2NodeCompInterfaceType : NodeCompInterfaceType
  e2NodeCompId : NodeCompId
  deriving DecidableEq, Repr

/-- `e2_setup_request_t` -/
structure E2SetupRequest where
  transId : Nat
  id : GlobalE2NodeId
  ranFuncItem : List RanFunction
  compConfAdd : List NodeComponentConfigAdd
  deriving DecidableEq

/-- `outcome_e2ap_node_comp_conf_ack_e` -/
inductive NodeCompConfOutcome
  | success
  | failure
  deriving DecidableEq, Repr

/-- `e2ap_node_comp_config_add_ack_t` -/
structure NodeCompConfigAddAck where
  e2NodeCompInterfaceType : NodeCompInterfaceType
  e2NodeCompId : NodeCompId
  outcome : NodeCompConfOutcome
  deriving DecidableEq, Repr

/-- `e2_setup_response_t` -/
structure E2SetupResponse where
  transId : Nat
  plmn : E2apPlmn
  nearRicId : Nat
  accepted : List Nat
  rejected : List (Nat × Cause)
  compConfigAddAck : List NodeCompConfigAddAck
  deriving DecidableEq, Repr

/-- `e2_node_connected_t`: a node and its RAN functions. -/
abbrev E2NodeConnected := GlobalE2NodeId × List RanFunction

/-- `e42_setup_response_t` and `e42_update_e2_node_t` -/
inductive E42NodesMsg
  | setupResponse (xappId : Nat) (nodes : List E2NodeConnected)
  | updateE2Node (xappId : Nat) (nodes : List E2NodeConnected)
  deriving DecidableEq

def E42NodesMsg.nodes : E42NodesMsg → List E2NodeConnected
  | setupResponse _ nodes => nodes
  | updateE2Node _ nodes => nodes

/-- The nodes of an array that a message carries: its count of them, `len_e2_nodes_conn`, has 8 bits. -/
def carried (arr : List E2NodeConnected) : List E2NodeConnected := arr.take (arr.length % 256)

/-- The setup request of a node with one RAN function, for concrete runs. -/
def setupOf (id : GlobalE2NodeId) : E2SetupRequest := ⟨0, id, [⟨[], 2, 1, []⟩], [⟨.f1, .f1 1⟩]⟩

end FlexRic.E2ap
