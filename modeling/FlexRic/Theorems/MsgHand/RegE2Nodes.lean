import Mathlib.Data.List.Nodup
import FlexRic.Lib.Except
import FlexRic.MsgHand.RegE2Nodes

/-! # What the registry of E2 nodes holds -/

namespace FlexRic.MsgHand
open Ds E2ap

/-- The identities that are registered. -/
def ids (r : RegE2Nodes) : List GlobalE2NodeId := r.toList.map Prod.fst

section Registry
variable {r r' : RegE2Nodes} {id : GlobalE2NodeId} {rf : List RanFunction}

theorem findIf_none_iff : r.findIf (· == id) = none ↔ id ∉ ids r := by
  rw [AssocRbTree.findIf_eq_none, ids, List.mem_map]
  constructor
  · rintro h ⟨e, he, rfl⟩
    simpa using h e he
  · intro h e he
    exact beq_eq_false_iff_ne.mpr fun heq => h ⟨e, he, heq⟩

theorem findIf_of_mem {n : E2NodeConnected} (hn : (ids r).Nodup) (h : n ∈ r.toList) :
    r.findIf (· == n.1) = some n := by
  cases hf : r.findIf (· == n.1) with
  | none => exact absurd (List.mem_map_of_mem h) (findIf_none_iff.mp hf)
  | some e =>
    obtain ⟨he, heq⟩ := AssocRbTree.mem_of_findIf hf
    rw [List.inj_on_of_nodup_map hn he h (beq_iff_eq.mp heq)]

theorem findRegE2Node_iff : findRegE2Node r id = true ↔ id ∈ ids r := by
  rw [findRegE2Node, Option.isSome_iff_ne_none, ne_eq, findIf_none_iff, not_not]

theorem toList_insert (id : GlobalE2NodeId) (rf : List RanFunction) :
    (r.insert id rf).toList.Perm ((id, rf) :: r.toList) := AssocRbTree.toList_insert ..

theorem addRegE2Node_eq_ok :
    addRegE2Node r id rf = .ok r' ↔ rf ≠ [] ∧ id ∉ ids r ∧ r' = r.insert id rf := by
  unfold addRegE2Node
  split
  · next h => simp [h]
  · next h =>
    cases hf : r.findIf (· == id) with
    | none => simp [h, findIf_none_iff.mp hf, eq_comm]
    | some e =>
      have hm : id ∈ ids r := findRegE2Node_iff.mp (by rw [findRegE2Node, hf]; rfl)
      simp [h, hm]

/-- A removal takes one entry of the node out, whatever the others are. -/
theorem rmRegE2Node_inv (h : rmRegE2Node r id = .ok r') : ∃ rf, r.toList.Perm ((id, rf) :: r'.toList) := by
  unfold rmRegE2Node at h
  split at h
  · cases h
  · rcases r.extract_cases id with ⟨-, he⟩ | ⟨k, rf, t, hs, he, hp⟩
    · rw [he] at h
      cases h
    · obtain rfl := same_globalE2NodeId.mp hs
      obtain rfl : t = r' := by simpa [he] using h
      exact ⟨rf, hp⟩

theorem rmRegE2Node_of_mem (h : id ∈ ids r) : ∃ r', rmRegE2Node r id = .ok r' := by
  unfold rmRegE2Node
  split
  · next hf => exact absurd h (findIf_none_iff.mp hf)
  · rcases r.extract_cases id with ⟨hn, -⟩ | ⟨k, rf, t, -, he, -⟩
    · obtain ⟨e, he, rfl⟩ := List.mem_map.mp h
      exact absurd (Comparator.Same.refl (C := globalE2NodeIdOrder) e.1) (hn e he)
    · exact ⟨t, by rw [he]; rfl⟩

theorem ids_insert (id : GlobalE2NodeId) (rf : List RanFunction) : (ids (r.insert id rf)).Perm (id :: ids r) :=
  (toList_insert id rf).map _

theorem ids_rmRegE2Node (h : rmRegE2Node r id = .ok r') : (ids r).Perm (id :: ids r') := by
  obtain ⟨rf, hp⟩ := rmRegE2Node_inv h
  exact hp.map _

theorem generateE2NodeArr_perm (r : RegE2Nodes) : (generateE2NodeArr r).Perm r.toList := by
  have key : ∀ (es : List E2NodeConnected) (a : RegE2Nodes),
      (es.foldl (fun ans e => ans.insert e.1 e.2) a).toList.Perm (es ++ a.toList) := by
    intro es
    induction es with
    | nil => exact fun a => .refl _
    | cons e es ih =>
      intro a
      refine (ih _).trans ?_
      exact ((toList_insert e.1 e.2).append_left es).trans List.perm_middle
  rw [← List.append_nil r.toList]
  exact key r.toList .init

end Registry

/-! ### Adding and removing one node after the other -/

section Folds
variable {r r' : RegE2Nodes} {ns : List E2NodeConnected}

theorem foldlM_add (h : ns.foldlM (fun r n => addRegE2Node r n.1 n.2) r = .ok r') :
    r'.toList.Perm (ns ++ r.toList) := by
  induction ns generalizing r with
  | nil =>
    obtain rfl : r = r' := by simpa using h
    exact .refl _
  | cons n ns ih =>
    rw [List.foldlM_cons] at h
    obtain ⟨r₁, ha, h⟩ := Except.bind_eq_ok.mp h
    obtain ⟨-, -, rfl⟩ := addRegE2Node_eq_ok.mp ha
    exact (ih h).trans (((toList_insert n.1 n.2).append_left ns).trans List.perm_middle)

theorem ne_nil_of_foldlM_add (h : ns.foldlM (fun r n => addRegE2Node r n.1 n.2) r = .ok r') :
    ∀ n ∈ ns, n.2 ≠ [] := by
  induction ns generalizing r with
  | nil => exact fun n hn => absurd hn List.not_mem_nil
  | cons n ns ih =>
    rw [List.foldlM_cons] at h
    obtain ⟨r₁, ha, h⟩ := Except.bind_eq_ok.mp h
    exact List.forall_mem_cons.mpr ⟨(addRegE2Node_eq_ok.mp ha).1, ih h⟩

/-- Nodes with RAN functions that differ from each other and from those that are there can be added. -/
theorem foldlM_add_isOk (hn : (ns.map Prod.fst).Nodup) (hf : ∀ n ∈ ns, n.2 ≠ []) (hd : ∀ n ∈ ns, n.1 ∉ ids r) :
    ∃ r', ns.foldlM (fun r n => addRegE2Node r n.1 n.2) r = .ok r' := by
  induction ns generalizing r with
  | nil => exact ⟨r, rfl⟩
  | cons n ns ih =>
    rw [List.map_cons, List.nodup_cons] at hn
    have ha : addRegE2Node r n.1 n.2 = .ok (r.insert n.1 n.2) :=
      addRegE2Node_eq_ok.mpr ⟨hf n (List.mem_cons_self ..), hd n (List.mem_cons_self ..), rfl⟩
    have hd' : ∀ m ∈ ns, m.1 ∉ ids (r.insert n.1 n.2) := by
      intro m hm hin
      rcases List.mem_cons.mp ((ids_insert n.1 n.2).mem_iff.mp hin) with heq | hin
      · exact hn.1 (heq ▸ List.mem_map_of_mem hm)
      · exact hd m (List.mem_cons_of_mem _ hm) hin
    obtain ⟨r', hr⟩ := ih hn.2 (fun m hm => hf m (List.mem_cons_of_mem _ hm)) hd'
    exact ⟨r', by rw [List.foldlM_cons, ha]; exact hr⟩

theorem foldlM_rm (h : ns.foldlM (fun r n => rmRegE2Node r n.1) r = .ok r') (hp : (ns.map Prod.fst).Perm (ids r)) :
    r'.toList = [] := by
  induction ns generalizing r with
  | nil =>
    obtain rfl : r = r' := by simpa using h
    exact List.map_eq_nil_iff.mp (List.nil_perm.mp hp)
  | cons n ns ih =>
    rw [List.foldlM_cons] at h
    obtain ⟨r₁, ha, h⟩ := Except.bind_eq_ok.mp h
    exact ih h (List.Perm.cons_inv (hp.trans (ids_rmRegE2Node ha)))

theorem foldlM_rm_isOk (hp : (ns.map Prod.fst).Perm (ids r)) :
    ∃ r', ns.foldlM (fun r n => rmRegE2Node r n.1) r = .ok r' := by
  induction ns generalizing r with
  | nil => exact ⟨r, rfl⟩
  | cons n ns ih =>
    obtain ⟨r₁, ha⟩ := rmRegE2Node_of_mem (hp.mem_iff.mp (List.mem_cons_self ..))
    obtain ⟨r', hr⟩ := ih (List.Perm.cons_inv (hp.trans (ids_rmRegE2Node ha)))
    exact ⟨r', by rw [List.foldlM_cons, ha]; exact hr⟩

/-- Where none of the nodes is there, the search before each of them is for nothing. -/
theorem foldlM_addNew_eq (hn : (ns.map Prod.fst).Nodup) (hd : ∀ n ∈ ns, n.1 ∉ ids r) :
    ns.foldlM (fun r n => if findRegE2Node r n.1 then .ok r else addRegE2Node r n.1 n.2) r =
      ns.foldlM (fun r n => addRegE2Node r n.1 n.2) r := by
  induction ns generalizing r with
  | nil => rfl
  | cons n ns ih =>
    rw [List.map_cons, List.nodup_cons] at hn
    have hnew : ¬findRegE2Node r n.1 = true := fun hf => hd n (List.mem_cons_self ..) (findRegE2Node_iff.mp hf)
    rw [List.foldlM_cons, List.foldlM_cons, if_neg hnew]
    cases ha : addRegE2Node r n.1 n.2 with
    | error msg => rfl
    | ok r₁ =>
      obtain ⟨-, -, rfl⟩ := addRegE2Node_eq_ok.mp ha
      refine ih hn.2 fun m hm hin => ?_
      rcases List.mem_cons.mp ((ids_insert n.1 n.2).mem_iff.mp hin) with heq | hin
      · exact hn.1 (heq ▸ List.mem_map_of_mem hm)
      · exact hd m (List.mem_cons_of_mem _ hm) hin

end Folds

end FlexRic.MsgHand
