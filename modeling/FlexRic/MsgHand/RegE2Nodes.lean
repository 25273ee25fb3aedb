import FlexRic.Ds.Assoc
import FlexRic.E2ap.Setup

/-! # The registry of E2 nodes

`reg_e2_nodes.c`: the iApp keeps one of them, and so does every xApp. -/

namespace FlexRic.MsgHand
open Ds E2ap

/-- `reg_e2_nodes_t` -/
abbrev RegE2Nodes := AssocRbTree globalE2NodeIdOrder (List RanFunction)

/-- `add_reg_e2_node` -/
def addRegE2Node (i : RegE2Nodes) (id : GlobalE2NodeId) (ranFunc : List RanFunction) : Except String RegE2Nodes :=
  if ranFunc = [] then .error "len > 0"
  else
    match i.findIf (· == id) with
    | some _ => .error "Trying to add an already existing E2 Node"
    | none => .ok (i.insert id ranFunc)

/-- `rm_reg_e2_node` -/
def rmRegE2Node (n : RegE2Nodes) (id : GlobalE2NodeId) : Except String RegE2Nodes :=
  match n.findIf (· == id) with
  | none => .error "Not registed e2 Node passed"
  | some _ => return (← n.extract id).2

/-- `find_reg_e2_node` -/
def findRegE2Node (n : RegE2Nodes) (id : GlobalE2NodeId) : Bool := (n.findIf (· == id)).isSome

/-- `cp_reg_e2_node`. That the copy has as many entries as the registry, which the source asserts, is
`generateE2NodeArr_perm`. -/
def cpRegE2Node (n : RegE2Nodes) : RegE2Nodes := n.toList.foldl (fun ans e => ans.insert e.1 e.2) .init

/-- `generate_e2_node_arr` -/
def generateE2NodeArr (n : RegE2Nodes) : List E2NodeConnected := (cpRegE2Node n).toList

end FlexRic.MsgHand
