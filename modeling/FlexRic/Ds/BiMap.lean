import Mathlib.Data.List.Pairwise
import FlexRic.Ds.Assoc
import FlexRic.Lib.Except

/-! # The two-sided map of `bimap.c`

One tree for each side, and each tree keeps the other side's key as its value. -/

namespace FlexRic.Ds

universe u v

variable {α : Type u} {β : Type v} {C₁ : Comparator α} {C₂ : Comparator β}

/-- `bi_map_t` -/
structure BiMap (C₁ : Comparator α) (C₂ : Comparator β) where
  left : AssocRbTree C₁ β
  right : AssocRbTree C₂ α

namespace BiMap

/-- `bi_map_init` -/
def init : BiMap C₁ C₂ := ⟨.init, .init⟩

/-- `bi_map_insert`. The source also asserts that a key compares equal to its own copy, which a comparator
grants. -/
def insert (m : BiMap C₁ C₂) (key1 : α) (key2 : β) : BiMap C₁ C₂ :=
  ⟨m.left.insert key1 key2, m.right.insert key2 key1⟩

/-- `bi_map_extract_left` -/
def extractLeft (m : BiMap C₁ C₂) (key1 : α) : Except String (β × BiMap C₁ C₂) := do
  let (key2, left) ← m.left.extract key1
  let (key3, right) ← m.right.extract key2
  if C₁.cmp key1 key3 ≠ 0 then .error "cmp == 0"
  else if left.size ≠ right.size then .error "sz_1 == sz_2"
  else .ok (key2, ⟨left, right⟩)

/-- `bi_map_extract_right`. The source compares `key2` and `key3`, two right keys, with the comparator of
the left tree: `leftComp` is what that function makes of the memory of two right keys. -/
def extractRight (leftComp : β → β → Int) (m : BiMap C₁ C₂) (key2 : β) : Except String (α × BiMap C₁ C₂) := do
  let (key1, right) ← m.right.extract key2
  let (key3, left) ← m.left.extract key1
  if leftComp key2 key3 ≠ 0 then .error "cmp == 0"
  else if left.size ≠ right.size then .error "sz_1 == sz_2"
  else .ok (key1, ⟨left, right⟩)

/-- `bi_map_size` -/
def size (m : BiMap C₁ C₂) : Nat := m.left.size

/-- The operations of the map, one request each. An extraction by right key comes with what the comparison of
the left tree makes of two right keys at that time. -/
inductive Op (α : Type u) (β : Type v)
  | insert (key1 : α) (key2 : β)
  | extractLeft (key1 : α)
  | extractRight (key2 : β) (leftComp : β → β → Int)

/-- The key that an operation returns. -/
inductive Key (α : Type u) (β : Type v)
  | none
  | left (key1 : α)
  | right (key2 : β)
  deriving DecidableEq, Repr

def apply (m : BiMap C₁ C₂) : Op α β → Except String (BiMap C₁ C₂ × Key α β)
  | .insert key1 key2 => .ok (m.insert key1 key2, .none)
  | .extractLeft key1 => do
    let (key2, m) ← m.extractLeft key1
    return (m, .right key2)
  | .extractRight key2 leftComp => do
    let (key1, m) ← m.extractRight leftComp key2
    return (m, .left key1)

/-! ### The pairs of a map -/

/-- The map holds exactly the pairs of `es`, on both sides. -/
structure Holds (m : BiMap C₁ C₂) (es : List (α × β)) : Prop where
  left : m.left.toList.Perm es
  right : m.right.toList.Perm (es.map Prod.swap)

variable {m m' : BiMap C₁ C₂} {es es' : List (α × β)}

theorem holds_init : (init : BiMap C₁ C₂).Holds [] := ⟨List.Perm.refl _, List.Perm.refl _⟩

theorem Holds.perm (h : m.Holds es) (hp : es.Perm es') : m.Holds es' :=
  ⟨h.left.trans hp, h.right.trans (hp.map _)⟩

theorem Holds.insert (h : m.Holds es) (key1 : α) (key2 : β) : (m.insert key1 key2).Holds ((key1, key2) :: es) :=
  ⟨(m.left.toList_insert key1 key2).trans (h.left.cons _),
    (m.right.toList_insert key2 key1).trans (h.right.cons _)⟩

theorem Holds.size_left (h : m.Holds es) : m.left.size = es.length := by
  rw [m.left.size_eq_length, h.left.length_eq]

theorem Holds.size_right (h : m.Holds es) : m.right.size = es.length := by
  rw [m.right.size_eq_length, h.right.length_eq, List.length_map]

theorem Holds.size_eq (h : m.Holds es) : m.size = es.length := h.size_left

theorem Holds.mem_left (h : m.Holds es) {a : α} {b : β} : (a, b) ∈ m.left.toList ↔ (a, b) ∈ es := h.left.mem_iff

theorem Holds.mem_right (h : m.Holds es) {a : α} {b : β} : (b, a) ∈ m.right.toList ↔ (a, b) ∈ es := by
  rw [h.right.mem_iff, List.mem_map]
  constructor
  · rintro ⟨⟨a', b'⟩, he, heq⟩
    obtain ⟨rfl, rfl⟩ : b' = b ∧ a' = a := by simpa using heq
    exact he
  · exact fun he => ⟨(a, b), he, rfl⟩

theorem Holds.unique (h : m.Holds es) (h' : m.Holds es') : es.Perm es' := h.left.symm.trans h'.left

instance : Std.Symm fun a b : α × β => ¬C₁.Same a.1 b.1 := ⟨fun _ _ hab hba => hab hba.symm⟩

instance : Std.Symm fun a b : α × β => ¬C₂.Same a.2 b.2 := ⟨fun _ _ hab hba => hab hba.symm⟩

/-- The left keys of the pairs are told apart by the comparator of the left tree. -/
def LeftKeys (C₁ : Comparator α) (es : List (α × β)) : Prop := es.Pairwise fun a b => ¬C₁.Same a.1 b.1

/-- The right keys of the pairs are told apart by the comparator of the right tree. -/
def RightKeys (C₂ : Comparator β) (es : List (α × β)) : Prop := es.Pairwise fun a b => ¬C₂.Same a.2 b.2

theorem LeftKeys.perm (h : LeftKeys C₁ es) (hp : es.Perm es') : LeftKeys C₁ es' :=
  hp.pairwise h fun hab hba => hab hba.symm

theorem RightKeys.perm (h : RightKeys C₂ es) (hp : es.Perm es') : RightKeys C₂ es' :=
  hp.pairwise h fun hab hba => hab hba.symm

theorem LeftKeys.eq_of_same (h : LeftKeys C₁ es) {e e' : α × β} (he : e ∈ es) (he' : e' ∈ es)
    (hs : C₁.Same e.1 e'.1) : e = e' := by
  by_contra hne
  exact List.Pairwise.forall h he he' hne hs

theorem RightKeys.eq_of_same (h : RightKeys C₂ es) {e e' : α × β} (he : e ∈ es) (he' : e' ∈ es)
    (hs : C₂.Same e.2 e'.2) : e = e' := by
  by_contra hne
  exact List.Pairwise.forall h he he' hne hs

/-- What an extraction by right key does when the left keys differ: there is no such key, or one pair with
a key that compares equal leaves both sides, unless the assertion on the two right keys fails. -/
theorem Holds.extractRight_cases (h : m.Holds es) (hk : LeftKeys C₁ es) (leftComp : β → β → Int) (key2 : β) :
    ((∀ e ∈ es, ¬C₂.Same key2 e.2) ∧
      m.extractRight leftComp key2 = .error "Trying to extract a key not found in the tree") ∨
    ∃ a b rest, es.Perm ((a, b) :: rest) ∧ C₂.Same key2 b ∧
      if leftComp key2 b = 0 then ∃ m', m.extractRight leftComp key2 = .ok (a, m') ∧ m'.Holds rest
      else m.extractRight leftComp key2 = .error "cmp == 0" := by
  rcases m.right.extract_cases key2 with ⟨hn, he⟩ | ⟨b, a, r, hs, he, hp⟩
  · refine .inl ⟨fun e hes => hn (e.2, e.1) (h.mem_right.mpr hes), ?_⟩
    simp [extractRight, he, Bind.bind, Except.bind]
  · have hab : (a, b) ∈ es := h.mem_right.mp (hp.mem_iff.mpr (List.mem_cons_self ..))
    refine .inr ⟨a, b, ?_⟩
    rcases m.left.extract_cases a with ⟨hn, -⟩ | ⟨a', b', l, hs', he', hp'⟩
    · exact absurd (Comparator.Same.refl (C := C₁) a) (hn (a, b) (h.mem_left.mpr hab))
    · have hab' : (a', b') ∈ es := h.mem_left.mp (hp'.mem_iff.mpr (List.mem_cons_self ..))
      obtain ⟨rfl, rfl⟩ : a = a' ∧ b = b' := by simpa using hk.eq_of_same hab hab' hs'
      have hperm : es.Perm ((a, b) :: l.toList) := h.left.symm.trans hp'
      have hrl : r.toList.Perm (l.toList.map Prod.swap) :=
        List.Perm.cons_inv (hp.symm.trans (h.right.trans (hperm.map _)))
      refine ⟨l.toList, hperm, hs, ?_⟩
      have hsz : l.size = r.size := by
        rw [l.size_eq_length, r.size_eq_length, hrl.length_eq, List.length_map]
      split
      · next hc => exact ⟨⟨l, r⟩, by simp [extractRight, he, he', hc, hsz, Bind.bind, Except.bind], ⟨.refl _, hrl⟩⟩
      · next hc => simp [extractRight, he, he', hc, Bind.bind, Except.bind]

/-- An extraction by a right key that one pair alone has. -/
theorem Holds.extractRight {a : α} {b : β} {rest : List (α × β)} (h : m.Holds es) (hk : LeftKeys C₁ es)
    (hp : es.Perm ((a, b) :: rest)) {leftComp : β → β → Int} {key2 : β} (hs : C₂.Same key2 b)
    (hu : ∀ e ∈ rest, ¬C₂.Same key2 e.2) (hc : leftComp key2 b = 0) :
    ∃ m', m.extractRight leftComp key2 = .ok (a, m') ∧ m'.Holds rest := by
  rcases h.extractRight_cases hk leftComp key2 with ⟨hn, -⟩ | ⟨a', b', rest', hp', hs', hif⟩
  · exact absurd hs (hn (a, b) (hp.mem_iff.mpr (List.mem_cons_self ..)))
  · have hmem : (a', b') ∈ (a, b) :: rest := (hp.symm.trans hp').mem_iff.mpr (List.mem_cons_self ..)
    rcases List.mem_cons.mp hmem with heq | hmem
    · obtain ⟨rfl, rfl⟩ : a' = a ∧ b' = b := by simpa using heq
      rw [if_pos hc] at hif
      obtain ⟨m', hm, hh⟩ := hif
      exact ⟨m', hm, hh.perm (List.Perm.cons_inv (hp'.symm.trans hp))⟩
    · exact absurd hs' (hu _ hmem)

/-- What an extraction by right key does when the right keys differ, while left keys may repeat: the pair with
that key leaves the right side, and the pair that the search for its left key meets leaves the left side. -/
theorem Holds.extractRight_crossed (h : m.Holds es) (hk : RightKeys C₂ es) {a : α} {b : β} (hab : (a, b) ∈ es)
    {key2 : β} (hs : C₂.Same key2 b) (leftComp : β → β → Int) :
    ∃ a' b' l r, C₁.Same a a' ∧ (a', b') ∈ es ∧ m.left.find a = some b' ∧
      es.Perm ((a', b') :: l.toList) ∧ (es.map Prod.swap).Perm ((b, a) :: r.toList) ∧
      m.extractRight leftComp key2 = if leftComp key2 b' = 0 then .ok (a, ⟨l, r⟩) else .error "cmp == 0" := by
  rcases m.right.extract_cases key2 with ⟨hn, -⟩ | ⟨b₁, a₁, r, hs₁, he, hp⟩
  · exact absurd hs (hn (b, a) (h.mem_right.mpr hab))
  · have hab₁ : (a₁, b₁) ∈ es := h.mem_right.mp (hp.mem_iff.mpr (List.mem_cons_self ..))
    obtain ⟨rfl, rfl⟩ : a = a₁ ∧ b = b₁ := by simpa using hk.eq_of_same hab hab₁ (hs.symm.trans hs₁)
    rcases m.left.extract_cases a with ⟨hn, -⟩ | ⟨a', b', l, hs', he', hp'⟩
    · exact absurd (Comparator.Same.refl (C := C₁) a) (hn (a, b) (h.mem_left.mpr hab))
    · have hl : es.Perm ((a', b') :: l.toList) := h.left.symm.trans hp'
      have hr : (es.map Prod.swap).Perm ((b, a) :: r.toList) := h.right.symm.trans hp
      refine ⟨a', b', l, r, hs', hl.mem_iff.mpr (List.mem_cons_self ..), AssocRbTree.find_of_extract he', hl, hr, ?_⟩
      have hsz : l.size = r.size := by
        have h₁ := hl.length_eq
        have h₂ := hr.length_eq
        rw [l.size_eq_length, r.size_eq_length]
        simp only [List.length_map, List.length_cons] at h₁ h₂
        omega
      split
      · next hc => simp [BiMap.extractRight, he, he', hc, hsz, Bind.bind, Except.bind]
      · next hc => simp [BiMap.extractRight, he, he', hc, Bind.bind, Except.bind]

/-- An extraction that goes through takes a pair with the key out of the right side. -/
theorem extractRight_inv {leftComp : β → β → Int} {key2 : β} {a : α}
    (h : m.extractRight leftComp key2 = .ok (a, m')) :
    ∃ b, C₂.Same key2 b ∧ m.right.toList.Perm ((b, a) :: m'.right.toList) := by
  rcases m.right.extract_cases key2 with ⟨-, he⟩ | ⟨b, a', r, hs, he, hp⟩
  · simp [BiMap.extractRight, he, Bind.bind, Except.bind] at h
  · simp only [BiMap.extractRight, he, Bind.bind, Except.bind] at h
    split at h
    · cases h
    · split at h
      · cases h
      · split at h
        · cases h
        · obtain ⟨rfl, rfl⟩ := Prod.mk.inj (Except.ok.inj h)
          exact ⟨b, hs, hp⟩

/-- And it takes a pair out of the left side. -/
theorem extractRight_left {leftComp : β → β → Int} {key2 : β} {a : α}
    (h : m.extractRight leftComp key2 = .ok (a, m')) : ∃ e, m.left.toList.Perm (e :: m'.left.toList) := by
  obtain ⟨⟨a', r⟩, -, h⟩ := Except.bind_eq_ok.mp h
  obtain ⟨⟨b', l⟩, hl, h⟩ := Except.bind_eq_ok.mp h
  rcases m.left.extract_cases a' with ⟨-, he⟩ | ⟨a₁, b₁, l₁, -, he, hp⟩
  · cases he.symm.trans hl
  · obtain ⟨-, rfl⟩ := Prod.mk.inj (Except.ok.inj (he.symm.trans hl))
    dsimp only at h
    split at h
    · cases h
    · split at h
      · cases h
      · obtain ⟨-, rfl⟩ := Prod.mk.inj (Except.ok.inj h)
        exact ⟨(a₁, b₁), hp⟩

/-- An extraction by a left key, when the keys of each side differ. -/
theorem Holds.extractLeft {a : α} {b : β} (h : m.Holds es) (hl : LeftKeys C₁ es) (hr : RightKeys C₂ es)
    (hab : (a, b) ∈ es) {key1 : α} (hs : C₁.Same key1 a) :
    ∃ m' rest, m.extractLeft key1 = .ok (b, m') ∧ es.Perm ((a, b) :: rest) ∧ m'.Holds rest := by
  rcases m.left.extract_cases key1 with ⟨hn, -⟩ | ⟨a₁, b₁, l, hs₁, he, hp⟩
  · exact absurd hs (hn (a, b) (h.mem_left.mpr hab))
  · have hab₁ : (a₁, b₁) ∈ es := h.mem_left.mp (hp.mem_iff.mpr (List.mem_cons_self ..))
    obtain ⟨rfl, rfl⟩ : a = a₁ ∧ b = b₁ := by simpa using hl.eq_of_same hab hab₁ (hs.symm.trans hs₁)
    have hperm : es.Perm ((a, b) :: l.toList) := h.left.symm.trans hp
    rcases m.right.extract_cases b with ⟨hn, -⟩ | ⟨b', a', r, hs', he', hp'⟩
    · exact absurd (Comparator.Same.refl (C := C₂) b) (hn (b, a) (h.mem_right.mpr hab))
    · have hab' : (a', b') ∈ es := h.mem_right.mp (hp'.mem_iff.mpr (List.mem_cons_self ..))
      obtain ⟨rfl, rfl⟩ : a = a' ∧ b = b' := by simpa using hr.eq_of_same hab hab' hs'
      have hrl : r.toList.Perm (l.toList.map Prod.swap) :=
        List.Perm.cons_inv (hp'.symm.trans (h.right.trans (hperm.map _)))
      have hsz : l.size = r.size := by
        rw [l.size_eq_length, r.size_eq_length, hrl.length_eq, List.length_map]
      have hc : C₁.cmp key1 a = 0 := hs
      exact ⟨⟨l, r⟩, l.toList, by simp [BiMap.extractLeft, he, he', hc, hsz, Bind.bind, Except.bind], hperm,
        ⟨.refl _, hrl⟩⟩

/-- Right keys that compare equal, and that the assertion does not tell apart, extract the same pair. -/
theorem extractRight_congr (m : BiMap C₁ C₂) {leftComp : β → β → Int} {x y : β} (h : C₂.Same x y)
    (hc : ∀ z, leftComp x z = leftComp y z) : m.extractRight leftComp x = m.extractRight leftComp y := by
  simp only [BiMap.extractRight, m.right.extract_congr h, hc]

/-! ### Looking for a left key -/

section FindIf
variable {p : α → Bool}

theorem Holds.findIf_none (h : m.Holds es) : m.left.findIf p = none ↔ ∀ e ∈ es, p e.1 = false := by
  rw [AssocRbTree.findIf_eq_none]
  exact forall_congr' fun e => imp_congr_left h.left.mem_iff

theorem Holds.findIf_mem (h : m.Holds es) {e : α × β} (hf : m.left.findIf p = some e) : e ∈ es ∧ p e.1 = true :=
  ⟨h.left.mem_iff.mp (AssocRbTree.mem_of_findIf hf).1, (AssocRbTree.mem_of_findIf hf).2⟩

/-- The one pair whose left key fits is the pair found. -/
theorem Holds.findIf_eq (h : m.Holds es) {e : α × β} (he : e ∈ es) (hp : p e.1 = true)
    (hu : ∀ e' ∈ es, p e'.1 = true → e' = e) : m.left.findIf p = some e := by
  cases hf : m.left.findIf p with
  | none => simp [(h.findIf_none.mp hf) e he] at hp
  | some e' =>
    obtain ⟨hm, hp'⟩ := h.findIf_mem hf
    rw [hu e' hm hp']

/-- The one pair whose right key fits is the pair that the right side finds. -/
theorem Holds.findIf_right (h : m.Holds es) {q : β → Bool} {a : α} {b : β} (he : (a, b) ∈ es) (hq : q b = true)
    (hu : ∀ e ∈ es, q e.2 = true → e = (a, b)) : m.right.findIf q = some (b, a) := by
  cases hf : m.right.findIf q with
  | none => simp [AssocRbTree.findIf_eq_none.mp hf (b, a) (h.mem_right.mpr he)] at hq
  | some e =>
    obtain ⟨hm, hq'⟩ := AssocRbTree.mem_of_findIf hf
    obtain ⟨rfl, rfl⟩ : e.2 = a ∧ e.1 = b := by simpa using hu (e.2, e.1) (h.mem_right.mp hm) hq'
    rfl

end FindIf

end BiMap

end FlexRic.Ds
