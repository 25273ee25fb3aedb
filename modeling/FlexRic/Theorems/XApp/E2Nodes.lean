import FlexRic.Theorems.MsgHand.RegE2Nodes
import FlexRic.XApp.E2Nodes

/-! # What an xApp holds after a message about nodes

The setup response adds its nodes to those the xApp holds, an update replaces them. -/

namespace FlexRic.XApp
open Ds E2ap MsgHand

/-- The nodes that an xApp with the nodes `held` holds after a message. -/
def received (held : List E2NodeConnected) : E42NodesMsg → List E2NodeConnected
  | .setupResponse _ nodes => nodes ++ held
  | .updateE2Node _ nodes => nodes

/-- The message answers the setup request. -/
def isResponse : E42NodesMsg → Bool
  | .setupResponse .. => true
  | .updateE2Node .. => false

/-- The nodes of an update differ. -/
def Distinct : E42NodesMsg → Prop
  | .setupResponse .. => True
  | .updateE2Node _ nodes => (nodes.map Prod.fst).Nodup

section Handlers
variable {x x' : XappNodes} {m : E42NodesMsg} {nodes : List E2NodeConnected}

theorem handleE42SetupResponse_inv (h : handleE42SetupResponse x nodes = .ok x') :
    x.connected = false ∧ x'.connected = true ∧ x'.e2Nodes.toList.Perm (nodes ++ x.e2Nodes.toList) := by
  unfold handleE42SetupResponse at h
  split at h
  · cases h
  · next hc =>
    obtain ⟨e2Nodes, hf, h⟩ := Except.bind_eq_ok.mp h
    obtain rfl := Except.ok.inj h
    exact ⟨Bool.eq_false_iff.mpr hc, rfl, foldlM_add hf⟩

theorem handleE42UpdateE2Node_inv (hd : (nodes.map Prod.fst).Nodup) (h : handleE42UpdateE2Node x nodes = .ok x') :
    x'.connected = x.connected ∧ x'.e2Nodes.toList.Perm nodes := by
  obtain ⟨r, hrm, h⟩ := Except.bind_eq_ok.mp h
  obtain ⟨r', hadd, h⟩ := Except.bind_eq_ok.mp h
  obtain rfl := Except.ok.inj h
  have hnil : r.toList = [] := foldlM_rm hrm ((generateE2NodeArr_perm x.e2Nodes).map _)
  rw [foldlM_addNew_eq hd fun n _ hm => by simp [ids, hnil] at hm] at hadd
  have hp := foldlM_add hadd
  rw [hnil, List.append_nil] at hp
  exact ⟨rfl, hp⟩

/-- Every node of an update has to have a RAN function. -/
theorem handleE42UpdateE2Node_isOk_iff (hd : (nodes.map Prod.fst).Nodup) :
    (∃ x', handleE42UpdateE2Node x nodes = .ok x') ↔ ∀ n ∈ nodes, n.2 ≠ [] := by
  obtain ⟨r, hrm⟩ := foldlM_rm_isOk ((generateE2NodeArr_perm x.e2Nodes).map _)
  have hnil : r.toList = [] := foldlM_rm hrm ((generateE2NodeArr_perm x.e2Nodes).map _)
  have hnew : ∀ n ∈ nodes, n.1 ∉ ids r := fun n _ hm => by simp [ids, hnil] at hm
  constructor
  · rintro ⟨x', h⟩
    obtain ⟨r₁, hrm₁, h⟩ := Except.bind_eq_ok.mp h
    obtain rfl := Except.ok.inj (hrm.symm.trans hrm₁)
    obtain ⟨r', hadd, -⟩ := Except.bind_eq_ok.mp h
    rw [foldlM_addNew_eq hd hnew] at hadd
    exact ne_nil_of_foldlM_add hadd
  · intro hf
    obtain ⟨r', hadd⟩ := foldlM_add_isOk hd hf hnew
    rw [← foldlM_addNew_eq hd hnew] at hadd
    exact ⟨_, Except.bind_eq_ok.mpr ⟨r, hrm, Except.bind_eq_ok.mpr ⟨r', hadd, rfl⟩⟩⟩

/-- After an update the registry has the nodes of the message, each with its RAN functions, and no others. -/
theorem update_replaces_nodes (x : XappNodes) (nodes : List E2NodeConnected) (hd : (nodes.map Prod.fst).Nodup) (hf : ∀ n ∈ nodes, n.2 ≠ []) :
    ∃ x', handleE42UpdateE2Node x nodes = .ok x' ∧ x'.e2Nodes.toList.Perm nodes ∧
      (∀ n ∈ nodes, x'.e2Nodes.findIf (· == n.1) = some n) ∧
      ∀ id, id ∉ nodes.map Prod.fst → x'.e2Nodes.findIf (· == id) = none := by
  obtain ⟨x', h⟩ := (handleE42UpdateE2Node_isOk_iff (x := x) hd).mpr hf
  obtain ⟨-, hp⟩ := handleE42UpdateE2Node_inv hd h
  have hids : (ids x'.e2Nodes).Perm (nodes.map Prod.fst) := hp.map _
  refine ⟨x', h, hp, fun n hn => ?_, fun id hid => ?_⟩
  · exact findIf_of_mem (hids.nodup_iff.mpr hd) (hp.mem_iff.mpr hn)
  · exact findIf_none_iff.mpr fun hin => hid (hids.mem_iff.mp hin)

/-- One node gives way to another one. -/
theorem update_replaces_nodes_gnb : ∃ x',
    handleE42UpdateE2Node ⟨AssocRbTree.init.insert ⟨.eNB, ⟨505, 1, 2⟩, 1, 0, none, rfl⟩ [⟨[], 2, 1, []⟩], true⟩
      [(gnb, [⟨[], 3, 1, []⟩])] = .ok x' ∧ x'.e2Nodes.toList = [(gnb, [⟨[], 3, 1, []⟩])] := by
  obtain ⟨x', h, hp, -, -⟩ := update_replaces_nodes
    ⟨AssocRbTree.init.insert ⟨.eNB, ⟨505, 1, 2⟩, 1, 0, none, rfl⟩ [⟨[], 2, 1, []⟩], true⟩
    [(gnb, [⟨[], 3, 1, []⟩])] (by simp) (by simp)
  exact ⟨x', h, List.perm_singleton.mp hp⟩

/-- A node without RAN functions cannot be registered. -/
theorem update_without_ranFunctions :
    ¬∃ x', handleE42UpdateE2Node ⟨.init, true⟩ [(gnb, [])] = .ok x' := by
  rintro ⟨x', h⟩
  cases h

/-- A message is handled as `received` says, and connects the xApp when it answers the setup request. -/
theorem handleNodes_inv (hd : Distinct m) (h : handleNodes x m = .ok x') :
    x'.e2Nodes.toList.Perm (received x.e2Nodes.toList m) ∧
    (if isResponse m then x.connected = false ∧ x'.connected = true else x'.connected = x.connected) := by
  cases m with
  | setupResponse xappId nodes =>
    obtain ⟨hc, hc', hp⟩ := handleE42SetupResponse_inv h
    exact ⟨hp, hc, hc'⟩
  | updateE2Node xappId nodes =>
    obtain ⟨hc, hp⟩ := handleE42UpdateE2Node_inv hd h
    exact ⟨hp, hc⟩

end Handlers

theorem received_perm {held held' : List E2NodeConnected} (h : held.Perm held') (m : E42NodesMsg) :
    (received held m).Perm (received held' m) := by
  cases m with
  | setupResponse xappId nodes => exact h.append_left nodes
  | updateE2Node xappId nodes => exact .refl _

theorem foldl_received_perm {held held' : List E2NodeConnected} (h : held.Perm held') (ms : List E42NodesMsg) :
    (ms.foldl received held).Perm (ms.foldl received held') := by
  induction ms generalizing held held' with
  | nil => exact h
  | cons m ms ih => exact ih (received_perm h m)

theorem foldl_received_empty {held : List E2NodeConnected} {ms : List E42NodesMsg}
    (h : ∀ m ∈ ms, isResponse m = true ∧ m.nodes = []) : ms.foldl received held = held := by
  induction ms with
  | nil => rfl
  | cons m ms ih =>
    obtain ⟨⟨hr, hn⟩, h⟩ := List.forall_mem_cons.mp h
    have hm : received held m = held := by
      cases m with
      | setupResponse xappId nodes =>
        obtain rfl : nodes = [] := hn
        rfl
      | updateE2Node xappId nodes => cases hr
    rw [List.foldl_cons, hm]
    exact ih h

end FlexRic.XApp
