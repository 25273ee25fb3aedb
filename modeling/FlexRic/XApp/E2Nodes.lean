import FlexRic.MsgHand.RegE2Nodes

/-! # What an xApp does with the nodes it is told about

The handlers of the E42 setup response and of the update in `msg_handler_xapp.c`. The timer of the setup
request is left out. -/

namespace FlexRic.XApp
open E2ap MsgHand

/-- `e42_xapp_t`: what the two handlers change, but for the identifier of the xApp. -/
structure XappNodes where
  e2Nodes : RegE2Nodes
  connected : Bool

/-- `e2ap_handle_e42_setup_response_xapp` -/
def handleE42SetupResponse (x : XappNodes) (nodes : List E2NodeConnected) : Except String XappNodes :=
  if x.connected then .error "xapp->connected == false"
  else do
    let e2Nodes ← nodes.foldlM (fun r n => addRegE2Node r n.1 n.2) x.e2Nodes
    return { e2Nodes, connected := true }

/-- `e2ap_handle_e42_update_e2_node_xapp` -/
def handleE42UpdateE2Node (x : XappNodes) (nodes : List E2NodeConnected) : Except String XappNodes := do
  let curNodes := generateE2NodeArr x.e2Nodes
  let e2Nodes ← curNodes.foldlM (fun r n => rmRegE2Node r n.1) x.e2Nodes
  let e2Nodes ← nodes.foldlM (fun r n => if findRegE2Node r n.1 then .ok r else addRegE2Node r n.1 n.2) e2Nodes
  return { x with e2Nodes }

/-- `e2ap_msg_handle_xapp` for these messages. -/
def handleNodes (x : XappNodes) : E42NodesMsg → Except String XappNodes
  | .setupResponse _ nodes => handleE42SetupResponse x nodes
  | .updateE2Node _ nodes => handleE42UpdateE2Node x nodes

end FlexRic.XApp
