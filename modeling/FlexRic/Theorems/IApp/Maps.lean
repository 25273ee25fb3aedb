import FlexRic.IApp.Maps

/-! # What the iApp's maps find -/

namespace FlexRic.IApp
open Ds E2ap Ep

/-! ### `map_ric_id.c` -/

section MapRicId
variable {map map' : MapRicId} {es : List (E2NodeRicReq × XappRicId)} {n : E2NodeRicReq} {x : XappRicId} {r : Nat}

theorem addMapRicId_of_fresh (h : map.Holds es) (hn : ∀ e ∈ es, e.1.ricReqId ≠ n.ricReqId) :
    addMapRicId map n x = .ok (map.insert n x) := by
  have hf : (map.left.findIf fun k => k.ricReqId == n.ricReqId) = none :=
    h.findIf_none.mpr fun e he => by simpa using hn e he
  rw [addMapRicId, hf]

theorem addMapRicId_inv (h : addMapRicId map n x = .ok map') : map' = map.insert n x := by
  unfold addMapRicId at h
  split at h
  · cases h
  · exact (Except.ok.inj h).symm

theorem findRicReqMapRicId_error {msg : String} (h : findRicReqMapRicId map x = .error msg) :
    msg = "Not found xApp RIC ID " := by
  unfold findRicReqMapRicId at h
  split at h
  · exact (Except.error.inj h).symm
  · cases h

/-- A look-up fails on the identifier zero and on one that no entry has, and finds an entry otherwise. -/
theorem findXappMapRicId_cases (h : map.Holds es) (r : Nat) :
    (r = 0 ∧ findXappMapRicId map r = .error "ric_req_id > 0") ∨
    ((∀ e ∈ es, e.1.ricReqId ≠ r) ∧ findXappMapRicId map r = .error "Not found RIC Request ID") ∨
    ∃ e ∈ es, e.1.ricReqId = r ∧ findXappMapRicId map r = .ok e.2 := by
  by_cases hr : r = 0
  · exact .inl ⟨hr, by rw [findXappMapRicId, if_pos hr]⟩
  · refine .inr ?_
    rw [findXappMapRicId, if_neg hr]
    cases hf : map.left.findIf fun k => k.ricReqId == r with
    | none => exact .inl ⟨fun e he => by simpa using h.findIf_none.mp hf e he, rfl⟩
    | some e =>
      obtain ⟨he, hp⟩ := h.findIf_mem hf
      exact .inr ⟨e, he, by simpa using hp, rfl⟩

theorem findRicReqMapRicId_mem (h : map.Holds es) (hf : findRicReqMapRicId map x = .ok n) : (n, x) ∈ es := by
  unfold findRicReqMapRicId at hf
  split at hf
  · cases hf
  · next k n' he =>
    obtain rfl := Except.ok.inj hf
    obtain ⟨hm, hp⟩ := AssocRbTree.mem_of_findIf he
    obtain rfl : k = x := by simpa using hp
    exact h.mem_right.mp hm

end MapRicId

/-! ### `map_xapps_sockaddr.c` -/

section MapXapps
variable {m m' : MapXapps} {xappId : Nat} {info : SctpInfo}

/-- The xApp has an address in the map. -/
def Registered (m : MapXapps) (xappId : Nat) : Prop := ∃ info, (xappId, info) ∈ m.toList

theorem addMapXappsSad_eq_ok :
    addMapXappsSad m xappId info = .ok m' ↔ ¬Registered m xappId ∧ m' = m.insert xappId info := by
  unfold addMapXappsSad
  split
  · next e he =>
    obtain ⟨hm, hp⟩ := AssocRbTree.mem_of_findIf he
    obtain rfl : e.1 = xappId := by simpa using hp
    exact ⟨nofun, fun h => absurd ⟨e.2, hm⟩ h.1⟩
  · next he =>
    have hn : ¬Registered m xappId := fun ⟨i, hi⟩ => by simpa using AssocRbTree.findIf_eq_none.mp he _ hi
    exact ⟨fun h => ⟨hn, (Except.ok.inj h).symm⟩, fun h => by rw [h.2]⟩

theorem addMapXappsSad_error {msg : String} (h : addMapXappsSad m xappId info = .error msg) :
    msg = "xApp ID already registered in the tree" := by
  unfold addMapXappsSad at h
  split at h
  · exact (Except.error.inj h).symm
  · cases h

theorem registered_insert {xappId' : Nat} :
    Registered (m.insert xappId info) xappId' ↔ xappId' = xappId ∨ Registered m xappId' := by
  simp only [Registered, (m.toList_insert xappId info).mem_iff, List.mem_cons, Prod.mk.injEq]
  constructor
  · rintro ⟨i, ⟨h, -⟩ | h⟩
    · exact .inl h
    · exact .inr ⟨i, h⟩
  · rintro (h | ⟨i, h⟩)
    · exact ⟨info, .inl ⟨h, rfl⟩⟩
    · exact ⟨i, .inr h⟩

/-- A look-up finds an address exactly when the xApp is registered. -/
theorem findMapXappsSad_cases (m : MapXapps) (xappId : Nat) :
    (¬Registered m xappId ∧ findMapXappsSad m xappId = .error "xApp ID not found in the tree") ∨
    ∃ info, (xappId, info) ∈ m.toList ∧ findMapXappsSad m xappId = .ok info := by
  unfold findMapXappsSad
  cases hf : m.findIf (· == xappId) with
  | none => exact .inl ⟨fun ⟨i, hi⟩ => by simpa using AssocRbTree.findIf_eq_none.mp hf _ hi, rfl⟩
  | some e =>
    obtain ⟨hm, hp⟩ := AssocRbTree.mem_of_findIf hf
    obtain rfl : e.1 = xappId := by simpa using hp
    exact .inr ⟨e.2, hm, rfl⟩

theorem findMapXappsSad_error {msg : String} (h : findMapXappsSad m xappId = .error msg) :
    msg = "xApp ID not found in the tree" := by
  unfold findMapXappsSad at h
  split at h
  · exact (Except.error.inj h).symm
  · cases h

end MapXapps

end FlexRic.IApp
