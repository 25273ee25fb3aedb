import FlexRic.Ds.AssocRbTreeBalance

/-! # The associative container

`assoc_rb_tree_t`: a tree with its properties and its count, so that an operation on it fails only where
the source asserts something about the caller. -/

namespace FlexRic.Ds

universe u v

variable {κ : Type u} {ν : Type v} {C : Comparator κ}

/-- `assoc_rb_tree_t`, in key order and balanced. -/
structure AssocRbTree (C : Comparator κ) (ν : Type v) where
  root : Tree κ ν
  size : Nat
  sorted : Tree.Sorted C root
  balanced : ∃ n, Tree.Balanced root .black n
  size_eq : size = root.toList.length

namespace AssocRbTree

/-- `assoc_rb_tree_init` -/
def init : AssocRbTree C ν := ⟨.dummy, 0, List.Pairwise.nil, ⟨0, .dummy⟩, rfl⟩

/-- The entries that the iterators of the container pass, in their order. -/
def toList (t : AssocRbTree C ν) : List (κ × ν) := t.root.toList

theorem insert_isSome (t : AssocRbTree C ν) (key : κ) (value : ν) :
    (Tree.insert C.cmp key value t.root).isSome := by
  obtain ⟨n, hn⟩ := t.balanced
  obtain ⟨t', -, h, -⟩ := Tree.insert_balanced C.cmp key value hn
  simp [h]

theorem length_insert (t : AssocRbTree C ν) {key : κ} {value : ν} {t' : Tree κ ν}
    (h : Tree.insert C.cmp key value t.root = some t') : t'.toList.length = t.size + 1 := by
  obtain ⟨A, B, hl, hl', -⟩ := Tree.toList_insert t.sorted h
  rw [t.size_eq, hl, hl']
  simp only [List.length_append, List.length_cons]
  omega

/-- `assoc_insert` -/
def insert (t : AssocRbTree C ν) (key : κ) (value : ν) : AssocRbTree C ν where
  root := (Tree.insert C.cmp key value t.root).get (t.insert_isSome key value)
  size := t.size + 1
  sorted := t.sorted.insert (Option.some_get _).symm
  balanced := by
    obtain ⟨n, hn⟩ := t.balanced
    obtain ⟨t', m, h, hm⟩ := Tree.insert_balanced C.cmp key value hn
    exact ⟨m, by simpa [h] using hm⟩
  size_eq := (t.length_insert (Option.some_get _).symm).symm

theorem length_extract (t : AssocRbTree C ν) {key : κ} {value : ν} {t' : Tree κ ν}
    (h : Tree.extract C.cmp key t.root = .ok (value, t')) : t.size = t'.toList.length + 1 := by
  obtain ⟨A, k, B, hl, hl', -⟩ := Tree.toList_extract t.sorted h
  rw [t.size_eq, hl, hl']
  simp only [List.length_append, List.length_cons]
  omega

theorem extract_balanced (t : AssocRbTree C ν) {key : κ} {value : ν} {t' : Tree κ ν}
    (h : Tree.extract C.cmp key t.root = .ok (value, t')) : ∃ n, Tree.Balanced t' .black n := by
  obtain ⟨n, hn⟩ := t.balanced
  rcases Tree.extract_balanced C.cmp key hn with ⟨-, he⟩ | ⟨v, t'', m, he, hm⟩
  · simp [he] at h
  · obtain ⟨rfl, rfl⟩ : v = value ∧ t'' = t' := by simpa [he] using h
    exact ⟨m, hm⟩

/-- `assoc_extract`: the value of the entry, and the container without it. -/
def extract (t : AssocRbTree C ν) (key : κ) : Except String (ν × AssocRbTree C ν) :=
  match h : Tree.extract C.cmp key t.root with
  | .error msg => .error msg
  | .ok (value, t') =>
    .ok (value, ⟨t', t.size - 1, t.sorted.extract h, t.extract_balanced h, by have := t.length_extract h; omega⟩)

/-- `find_if` over `assoc_front` … `assoc_end`: the first entry whose key fits. -/
def findIf (t : AssocRbTree C ν) (p : κ → Bool) : Option (κ × ν) := t.toList.find? fun e => p e.1

/-- The entry of `assoc_front`, which is `assoc_end` in an empty container. -/
def front (t : AssocRbTree C ν) : Option (κ × ν) := t.toList.head?

/-- The value of the node at which `find_rb_tree` stops. -/
def find (t : AssocRbTree C ν) (key : κ) : Option ν :=
  match (Tree.findNode C.cmp key t.root []).1 with
  | .dummy => none
  | .node _ _ _ value _ => some value

/-! ### What the operations do to the entries -/

@[simp] theorem toList_init : (init : AssocRbTree C ν).toList = [] := rfl

theorem size_eq_length (t : AssocRbTree C ν) : t.size = t.toList.length := t.size_eq

theorem toList_insert (t : AssocRbTree C ν) (key : κ) (value : ν) :
    (t.insert key value).toList.Perm ((key, value) :: t.toList) := by
  obtain ⟨A, B, hl, hl', -⟩ := Tree.toList_insert t.sorted (Option.some_get (t.insert_isSome key value)).symm
  unfold toList
  rw [hl, show (t.insert key value).root.toList = A ++ (key, value) :: B from hl']
  exact List.perm_middle

/-- An extraction finds an entry whose key compares equal and takes it out, or there is none. -/
theorem extract_cases (t : AssocRbTree C ν) (key : κ) :
    ((∀ e ∈ t.toList, ¬C.Same key e.1) ∧
      t.extract key = .error "Trying to extract a key not found in the tree") ∨
    ∃ k value t', C.Same key k ∧ t.extract key = .ok (value, t') ∧ t.toList.Perm ((k, value) :: t'.toList) := by
  obtain ⟨n, hn⟩ := t.balanced
  rcases Tree.extract_balanced C.cmp key hn with ⟨hd, he⟩ | ⟨v, t', m, he, -⟩
  · refine .inl ⟨?_, ?_⟩
    · rcases Tree.findNode_cases t.sorted key [] with ⟨-, hn⟩ | ⟨c, l, k, v, r, hf, -⟩
      · exact hn
      · rw [hd] at hf
        cases hf
    · unfold extract
      split
      · next msg h => rw [he] at h; cases h; rfl
      · next h => rw [he] at h; cases h
  · obtain ⟨A, k, B, hl, hl', hs⟩ := Tree.toList_extract t.sorted he
    have hex : ∃ u : AssocRbTree C ν, t.extract key = .ok (v, u) ∧ u.root = t' := by
      unfold extract
      split
      · next msg h => rw [he] at h; cases h
      · next value t'' h =>
        obtain ⟨rfl, rfl⟩ : v = value ∧ t' = t'' := by simpa [he] using h
        exact ⟨_, rfl, rfl⟩
    obtain ⟨u, hu, rfl⟩ := hex
    refine .inr ⟨k, v, u, hs, hu, ?_⟩
    unfold toList
    rw [hl, hl']
    exact List.perm_middle

theorem find_of_extract {t t' : AssocRbTree C ν} {key : κ} {value : ν} (h : t.extract key = .ok (value, t')) :
    t.find key = some value := by
  have he : ∃ u, Tree.extract C.cmp key t.root = .ok (value, u) := by
    unfold extract at h
    split at h
    · cases h
    · next v u he =>
      obtain ⟨rfl, -⟩ := Prod.mk.inj (Except.ok.inj h)
      exact ⟨u, he⟩
  obtain ⟨u, he⟩ := he
  unfold find
  unfold Tree.extract at he
  generalize Tree.findNode C.cmp key t.root [] = found at *
  obtain ⟨x, path⟩ := found
  cases x with
  | dummy => cases he
  | node c l k v r =>
    dsimp only at he
    split at he
    · cases he
    · cases he
      rfl

section FindIf
variable {t : AssocRbTree C ν} {p : κ → Bool}

theorem findIf_eq_none : t.findIf p = none ↔ ∀ e ∈ t.toList, p e.1 = false := by
  unfold findIf
  rw [List.find?_eq_none]
  simp only [Bool.not_eq_true]

theorem mem_of_findIf {e : κ × ν} (h : t.findIf p = some e) : e ∈ t.toList ∧ p e.1 = true :=
  ⟨List.mem_of_find?_eq_some h, List.find?_some (p := fun e : κ × ν => p e.1) h⟩

end FindIf

theorem front_cmp {t : AssocRbTree C ν} {e : κ × ν} (h : t.front = some e) :
    e ∈ t.toList ∧ ∀ e' ∈ t.toList, 0 ≤ C.cmp e.1 e'.1 := by
  obtain ⟨es, hes⟩ : ∃ es, t.toList = e :: es := List.head?_eq_some_iff.mp h
  have hp := t.sorted
  rw [Tree.Sorted, show t.root.toList = t.toList from rfl, hes, List.pairwise_cons] at hp
  rw [hes]
  refine ⟨List.mem_cons_self .., fun e' he' => ?_⟩
  rcases List.mem_cons.mp he' with rfl | he'
  · rw [C.cmp_self]
  · exact hp.1 e' he'

theorem extract_congr (t : AssocRbTree C ν) {a b : κ} (h : C.Same a b) : t.extract a = t.extract b := by
  have hf : ∀ (s : Tree κ ν) (path : List (Frame κ ν)), Tree.findNode C.cmp a s path = Tree.findNode C.cmp b s path := by
    intro s
    induction s with
    | dummy => intro path; rfl
    | node c l k v r ihl ihr =>
      intro path
      simp only [Tree.findNode, h.cmp_left k, ihl, ihr]
  have he : Tree.extract C.cmp a t.root = Tree.extract C.cmp b t.root := by
    simp only [Tree.extract, hf]
  unfold extract
  split <;> split <;> simp_all

end AssocRbTree

end FlexRic.Ds
