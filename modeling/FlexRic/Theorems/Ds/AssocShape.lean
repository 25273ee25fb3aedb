import FlexRic.Ds.AssocRbHeap
import FlexRic.Ds.AssocRbTreeOrder

/-! # The tree that the pointers make

`Focus s x path` says that the pointers of `s` make a tree with the subtree `x` under the frames of `path`: every
node has its children where its pointers say and its parent where its `parent` says, and no node occurs twice.
The values of the tree carry the addresses, so a tree of that kind is what the pointers of one state make. -/

namespace FlexRic.Ds

variable {κ ν : Type}

/-- A tree whose nodes are at addresses. -/
abbrev Shape (κ ν : Type) := Tree κ (Ptr × ν)

abbrev Path (κ ν : Type) := List (Frame κ (Ptr × ν))

namespace AssocNode

/-- The node with the child `x` on the side and the child `w` on the other side. -/
def of (side : Side) (c : AssocColor) (k : κ) (v : Ptr × ν) (p x w : Ptr) : AssocNode κ ν :=
  match side with
  | .left => ⟨some k, some v.2, p, x, w, c⟩
  | .right => ⟨some k, some v.2, p, w, x, c⟩

section Of
variable (side : Side) (c c' : AssocColor) (k : κ) (v : Ptr × ν) (p p' x x' w w' : Ptr)

@[simp] theorem of_parent : (of side c k v p x w).parent = p := by
  cases side <;> rfl

@[simp] theorem of_color : (of side c k v p x w).color = c := by
  cases side <;> rfl

@[simp] theorem of_value : (of side c k v p x w).value = some v.2 := by
  cases side <;> rfl

@[simp] theorem of_child : (of side c k v p x w).child side = x := by
  cases side <;> rfl

@[simp] theorem of_child_other : (of side c k v p x w).child side.other = w := by
  cases side <;> rfl

@[simp] theorem of_setChild : (of side c k v p x w).setChild side x' = of side c k v p x' w := by
  cases side <;> rfl

@[simp] theorem of_setChild_other : (of side c k v p x w).setChild side.other w' = of side c k v p x w' := by
  cases side <;> rfl

@[simp] theorem of_setParent : { of side c k v p x w with parent := p' } = of side c k v p' x w := by
  cases side <;> rfl

@[simp] theorem of_setColor : { of side c k v p x w with color := c' } = of side c' k v p x w := by
  cases side <;> rfl

end Of

/-- `tree->dummy` with what its parent happens to be -/
def ofDummy (p : Ptr) : AssocNode κ ν := ⟨none, none, p, 0, 0, .black⟩

end AssocNode

namespace Tree

/-- The pointer to the tree. -/
def ptr (d : Ptr) : Shape κ ν → Ptr
  | dummy => d
  | node _ _ _ v _ => v.1

def addrs : Shape κ ν → List Ptr
  | dummy => []
  | node _ l _ v r => v.1 :: (l.addrs ++ r.addrs)

section Join
variable (side : Side) (c : AssocColor) (x w : Shape κ ν) (k : κ) (v : Ptr × ν) (d : Ptr)

@[simp] theorem ptr_dummy : ptr d (dummy : Shape κ ν) = d := rfl
@[simp] theorem ptr_node : ptr d (node c x k v w) = v.1 := rfl

theorem ptr_join : ptr d (join side c x k v w) = v.1 := by
  cases side <;> rfl

theorem addrs_join : (join side c x k v w).addrs.Perm (v.1 :: (x.addrs ++ w.addrs)) := by
  cases side with
  | left => exact .refl _
  | right => exact List.perm_append_comm.cons _

theorem join_other : join side.other c w k v x = join side c x k v w := by
  cases side <;> rfl

end Join

/-- The address of the parent, `d` above the root. -/
def parentPtr (d : Ptr) : Path κ ν → Ptr
  | [] => d
  | f :: _ => f.value.1

@[simp] theorem parentPtr_cons (d : Ptr) (f : Frame κ (Ptr × ν)) (path : Path κ ν) :
    parentPtr d (f :: path) = f.value.1 := rfl

theorem parentPtr_of_head {d : Ptr} {f : Frame κ (Ptr × ν)} {path : Path κ ν} (h : f ∈ path.head?) :
    parentPtr d path = f.value.1 := by
  obtain ⟨rest, rfl⟩ := List.head?_eq_some_iff.mp h
  rfl

def pathAddrs : Path κ ν → List Ptr
  | [] => []
  | f :: path => f.value.1 :: (f.sibling.addrs ++ pathAddrs path)

theorem pathAddrs_append (p q : Path κ ν) : pathAddrs (p ++ q) = pathAddrs p ++ pathAddrs q := by
  induction p with
  | nil => rfl
  | cons f p ih => simp only [List.cons_append, pathAddrs, ih, List.append_assoc]

/-- The nodes of the tree, under the parent `p`. -/
def Below (m : Memory (AssocNode κ ν)) (d p : Ptr) : Shape κ ν → Prop
  | dummy => True
  | node c l k v r => m v.1 = some (.of .left c k v p (l.ptr d) (r.ptr d)) ∧ Below m d v.1 l ∧ Below m d v.1 r

/-- The nodes of the frames and of their siblings, above the child `x`. -/
def Above (m : Memory (AssocNode κ ν)) (d root x : Ptr) : Path κ ν → Prop
  | [] => root = x
  | f :: path => m f.value.1 = some (.of f.side f.color f.key f.value (parentPtr d path) x (f.sibling.ptr d)) ∧
      Below m d f.value.1 f.sibling ∧ Above m d root f.value.1 path

section Frame
variable {m m' : Memory (AssocNode κ ν)} {d p root x : Ptr} {t : Shape κ ν} {path : Path κ ν}

theorem below_join {side : Side} {c : AssocColor} {l r : Shape κ ν} {k : κ} {v : Ptr × ν} :
    Below m d p (join side c l k v r) ↔
      m v.1 = some (.of side c k v p (l.ptr d) (r.ptr d)) ∧ Below m d v.1 l ∧ Below m d v.1 r := by
  cases side with
  | left => exact Iff.rfl
  | right => exact and_congr_right' And.comm

theorem Below.congr (h : Below m d p t) (hm : ∀ a ∈ t.addrs, m' a = m a) : Below m' d p t := by
  induction t generalizing p with
  | dummy => trivial
  | node c l k v r ihl ihr =>
    obtain ⟨hv, hl, hr⟩ := h
    simp only [addrs, List.mem_cons, List.mem_append] at hm
    exact ⟨(hm _ (.inl rfl)).trans hv, ihl hl fun a ha => hm a (.inr (.inl ha)),
      ihr hr fun a ha => hm a (.inr (.inr ha))⟩

theorem Above.congr (h : Above m d root x path) (hm : ∀ a ∈ pathAddrs path, m' a = m a) :
    Above m' d root x path := by
  induction path generalizing x with
  | nil => exact h
  | cons f path ih =>
    obtain ⟨hf, hs, ha⟩ := h
    simp only [pathAddrs, List.mem_cons, List.mem_append] at hm
    exact ⟨(hm _ (.inl rfl)).trans hf, hs.congr fun a ha => hm a (.inr (.inl ha)),
      ih ha fun a ha => hm a (.inr (.inr ha))⟩

/-- Another child under the last frame. -/
theorem Above.write_child {f : Frame κ (Ptr × ν)} {w : Ptr} (h : Above m d root x (f :: path))
    (hn : (pathAddrs (f :: path)).Nodup) :
    Above (m.write f.value.1 (.of f.side f.color f.key f.value (parentPtr d path) w (f.sibling.ptr d))) d root w
      (f :: path) := by
  obtain ⟨-, hs, ha⟩ := h
  obtain ⟨hf, -⟩ := List.nodup_cons.mp hn
  simp only [List.mem_append, not_or] at hf
  exact ⟨m.write_self _, hs.congr fun a ha => m.write_ne _ fun e => hf.1 (e ▸ ha),
    ha.congr fun a ha => m.write_ne _ fun e => hf.2 (e ▸ ha)⟩

theorem Below.allocated (h : Below m d p t) {a : Ptr} (ha : a ∈ t.addrs) : ∃ n, m a = some n := by
  induction t generalizing p with
  | dummy => cases ha
  | node c l k v r ihl ihr =>
    obtain ⟨hv, hl, hr⟩ := h
    rcases List.mem_cons.mp ha with rfl | ha
    · exact ⟨_, hv⟩
    · rcases List.mem_append.mp ha with ha | ha
      · exact ihl hl ha
      · exact ihr hr ha

theorem Above.allocated (h : Above m d root x path) {a : Ptr} (ha : a ∈ pathAddrs path) : ∃ n, m a = some n := by
  induction path generalizing x with
  | nil => cases ha
  | cons f path ih =>
    obtain ⟨hf, hs, habove⟩ := h
    rcases List.mem_cons.mp ha with rfl | ha
    · exact ⟨_, hf⟩
    · rcases List.mem_append.mp ha with ha | ha
      · exact hs.allocated ha
      · exact ih habove ha

theorem Above.root_mem {f : Frame κ (Ptr × ν)} (h : Above m d root x (f :: path)) : root ∈ pathAddrs (f :: path) := by
  induction path generalizing x f with
  | nil => exact h.2.2 ▸ List.mem_cons_self ..
  | cons g path ih => exact List.mem_cons_of_mem _ (List.mem_append_right _ (ih h.2.2))

theorem ptr_mem (t : Shape κ ν) (d : Ptr) : t.ptr d ∈ d :: t.addrs := by
  cases t with
  | dummy => exact List.mem_cons_self ..
  | node => exact List.mem_cons_of_mem _ (List.mem_cons_self ..)

end Frame

end Tree

namespace AssocRbHeap
open FlexRic.Ds.Tree

/-- The pointers make the tree with `x` under the frames of `path`. -/
structure Focus (s : AssocRbHeap κ ν) (x : Shape κ ν) (path : Path κ ν) : Prop where
  below : Below s.node s.dummy (parentPtr s.dummy path) x
  above : Above s.node s.dummy s.root (x.ptr s.dummy) path
  nodup : (s.dummy :: (x.addrs ++ pathAddrs path)).Nodup
  dummy : ∃ p, s.node s.dummy = some (.ofDummy p)

section Focus
variable {s t : AssocRbHeap κ ν} {x w : Shape κ ν} {path : Path κ ν} {side : Side} {c : AssocColor} {k : κ}
  {v : Ptr × ν}

theorem addrs_join_path : ((join side c x k v w).addrs ++ pathAddrs path).Perm
    (x.addrs ++ pathAddrs (⟨side, c, k, v, w⟩ :: path)) := by
  refine ((addrs_join side c x w k v).append_right _).trans ?_
  simp only [pathAddrs, List.cons_append, List.append_assoc]
  exact List.perm_middle.symm

theorem addrs_plug {inner : Path κ ν} :
    ((plug x inner).addrs ++ pathAddrs path).Perm (x.addrs ++ pathAddrs (inner ++ path)) := by
  induction inner generalizing x with
  | nil => exact .refl _
  | cons f inner ih => exact ih.trans addrs_join_path

theorem focus_join : s.Focus (join side c x k v w) path ↔ s.Focus x (⟨side, c, k, v, w⟩ :: path) := by
  have hp : (s.dummy :: ((join side c x k v w).addrs ++ pathAddrs path)).Perm
      (s.dummy :: (x.addrs ++ pathAddrs (⟨side, c, k, v, w⟩ :: path))) := addrs_join_path.cons _
  constructor
  · intro h
    obtain ⟨hv, hx, hw⟩ := below_join.mp h.below
    have ha := h.above
    rw [ptr_join] at ha
    exact ⟨hx, ⟨hv, hw, ha⟩, hp.nodup_iff.mp h.nodup, h.dummy⟩
  · intro h
    obtain ⟨hv, hw, ha⟩ := h.above
    exact ⟨below_join.mpr ⟨hv, h.below, hw⟩, by rwa [ptr_join], hp.nodup_iff.mpr h.nodup, h.dummy⟩

theorem focus_left : s.Focus (.node c x k v w) path ↔ s.Focus x (⟨.left, c, k, v, w⟩ :: path) :=
  (focus_join : s.Focus (join .left c x k v w) path ↔ _)

theorem focus_right : s.Focus (.node c x k v w) path ↔ s.Focus w (⟨.right, c, k, v, x⟩ :: path) :=
  (focus_join : s.Focus (join .right c w k v x) path ↔ _)

theorem focus_plug : s.Focus (plug x path) [] ↔ s.Focus x path := by
  induction path generalizing x with
  | nil => exact Iff.rfl
  | cons f path ih => exact ih.trans focus_join

theorem focus_append {inner : Path κ ν} : s.Focus (plug x inner) path ↔ s.Focus x (inner ++ path) := by
  induction inner generalizing x with
  | nil => exact Iff.rfl
  | cons f inner ih => exact ih.trans focus_join

theorem focus_across : s.Focus x (⟨side, c, k, v, w⟩ :: path) ↔ s.Focus w (⟨side.other, c, k, v, x⟩ :: path) := by
  rw [← focus_join, ← focus_join, join_other]

theorem focus_join_other :
    s.Focus (join side c x k v w) path ↔ s.Focus w (⟨side.other, c, k, v, x⟩ :: path) :=
  focus_join.trans focus_across

theorem Focus.read_join (h : s.Focus (join side c x k v w) path) :
    s.node v.1 = some (.of side c k v (parentPtr s.dummy path) (x.ptr s.dummy) (w.ptr s.dummy)) :=
  (below_join.mp h.below).1

end Focus

/-! ### One step -/

section Steps
variable {s : AssocRbHeap κ ν} {n : Ptr} {a : AssocNode κ ν}

theorem read_ok (h : s.node n = some a) : read n s = .ok (a, s) := by
  simp only [read, h]

theorem parent_ok (h : s.node n = some a) : parent n s = .ok (a.parent, s) :=
  Prog.bind_ok _ (read_ok h)

theorem child_ok (side : Side) (h : s.node n = some a) : child side n s = .ok (a.child side, s) :=
  Prog.bind_ok _ (read_ok h)

theorem color_ok (h : s.node n = some a) : color n s = .ok (a.color, s) :=
  Prog.bind_ok _ (read_ok h)

theorem modify_ok (f : AssocNode κ ν → AssocNode κ ν) (h : s.node n = some a) :
    modify n f s = .ok (⟨⟩, { s with node := s.node.write n (f a) }) := by
  simp only [modify, h]

section Of
variable {side : Side} {c : AssocColor} {k : κ} {v : Ptr × ν} {p x w : Ptr} (h : s.node n = some (.of side c k v p x w))
include h

theorem parent_of : parent n s = .ok (p, s) := (parent_ok h).trans (by rw [AssocNode.of_parent])

theorem child_of : child side n s = .ok (x, s) := (child_ok side h).trans (by rw [AssocNode.of_child])

theorem child_other_of : child side.other n s = .ok (w, s) :=
  (child_ok side.other h).trans (by rw [AssocNode.of_child_other])

theorem color_of : color n s = .ok (c, s) := (color_ok h).trans (by rw [AssocNode.of_color])

theorem key_of : key n s = .ok (k, s) := by
  unfold key
  rw [h]
  cases side <;> rfl

theorem setParent_of (p' : Ptr) :
    setParent n p' s = .ok (⟨⟩, { s with node := s.node.write n (.of side c k v p' x w) }) :=
  (modify_ok _ h).trans (by rw [AssocNode.of_setParent])

theorem setChild_of (x' : Ptr) :
    setChild side n x' s = .ok (⟨⟩, { s with node := s.node.write n (.of side c k v p x' w) }) :=
  (modify_ok _ h).trans (by rw [AssocNode.of_setChild])

theorem setChild_other_of (w' : Ptr) :
    setChild side.other n w' s = .ok (⟨⟩, { s with node := s.node.write n (.of side c k v p x w') }) :=
  (modify_ok _ h).trans (by rw [AssocNode.of_setChild_other])

theorem setColor_of (c' : AssocColor) :
    setColor n c' s = .ok (⟨⟩, { s with node := s.node.write n (.of side c' k v p x w) }) :=
  (modify_ok _ h).trans (by rw [AssocNode.of_setColor])

end Of

theorem left_of {c : AssocColor} {k : κ} {v : Ptr × ν} {p x w : Ptr} (h : s.node n = some (.of .left c k v p x w)) :
    child .left n s = .ok (x, s) := child_of h

theorem right_of {c : AssocColor} {k : κ} {v : Ptr × ν} {p x w : Ptr} (h : s.node n = some (.of .left c k v p x w)) :
    child .right n s = .ok (w, s) := child_other_of h

end Steps

section Specs
variable {s : AssocRbHeap κ ν} {m : Memory (AssocNode κ ν)} {d p : Ptr} {x : Shape κ ν} {path : Path κ ν}

theorem below_setParent {c : AssocColor} {l r : Shape κ ν} {k : κ} {v : Ptr × ν} (q : Ptr)
    (h : Below m d p (.node c l k v r)) (hn : (Tree.node c l k v r).addrs.Nodup) :
    Below (m.write v.1 (.of .left c k v q (l.ptr d) (r.ptr d))) d q (.node c l k v r) := by
  obtain ⟨-, hl, hr⟩ := h
  obtain ⟨hv, -⟩ := List.nodup_cons.mp hn
  simp only [List.mem_append, not_or] at hv
  exact ⟨m.write_self _, hl.congr fun a ha => m.write_ne _ fun e => hv.1 (e ▸ ha),
    hr.congr fun a ha => m.write_ne _ fun e => hv.2 (e ▸ ha)⟩

theorem adopt_ok (q : Ptr) (h : Below s.node s.dummy p x) (hn : (s.dummy :: x.addrs).Nodup) :
    ∃ m, adopt (x.ptr s.dummy) q s = .ok (⟨⟩, { s with node := m }) ∧ Below m s.dummy q x ∧
      ∀ a ∉ x.addrs, m a = s.node a := by
  cases x with
  | dummy => exact ⟨s.node, by simp [adopt, dummyPtr, Bind.bind, StateT.bind, Except.bind], trivial, fun _ _ => rfl⟩
  | node c l k v r =>
    obtain ⟨hd, hn⟩ := List.nodup_cons.mp hn
    have hv : v.1 ≠ s.dummy := fun e => hd (e ▸ List.mem_cons_self ..)
    refine ⟨_, ?_, below_setParent q h hn, fun a ha => s.node.write_ne _ fun e => ha (e ▸ List.mem_cons_self ..)⟩
    simpa [adopt, dummyPtr, Bind.bind, StateT.bind, Except.bind, hv] using setParent_of h.1 q

/-- What pointed to `u` points to `w`. -/
theorem relink_ok {u w : Ptr} (h : Above s.node s.dummy s.root u path)
    (hn : (u :: s.dummy :: pathAddrs path).Nodup) :
    ∃ t, relink (parentPtr s.dummy path) u w s = .ok (⟨⟩, t) ∧ Above t.node t.dummy t.root w path ∧
      t.dummy = s.dummy ∧ t.size = s.size ∧ ∀ a ∉ pathAddrs path, t.node a = s.node a := by
  cases path with
  | nil => exact ⟨{ s with root := w }, by simp [relink, parentPtr, dummyPtr, setRoot, Bind.bind, StateT.bind, Except.bind],
      rfl, rfl, rfl, fun _ _ => rfl⟩
  | cons f path =>
    have hf := h.1
    obtain ⟨hu, hn⟩ := List.nodup_cons.mp hn
    obtain ⟨hd, hn⟩ := List.nodup_cons.mp hn
    simp only [pathAddrs, List.mem_cons, List.mem_append, not_or] at hu hd
    have hfd : f.value.1 ≠ s.dummy := fun e => hd.1 e.symm
    -- The pointer to `u` is the one on the side of the frame.
    have hrun : relink f.value.1 u w s = setChild f.side f.value.1 w s := by
      unfold relink
      rw [Prog.bind_ok (m := dummyPtr) _ rfl, if_neg hfd, Prog.bind_ok _ (child_ok .left hf)]
      obtain ⟨side, c, k, v, t⟩ := f
      cases side with
      | left => exact congrFun (if_pos rfl) s
      | right =>
        have hne : u ≠ t.ptr s.dummy := by
          rcases List.mem_cons.mp (ptr_mem t s.dummy) with he | he
          · rw [he]
            exact hu.1
          · exact fun e => hu.2.2.1 (e ▸ he)
        exact congrFun (if_neg hne) s
    exact ⟨_, hrun.trans (setChild_of hf w), h.write_child hn, rfl, rfl,
      fun a ha => s.node.write_ne _ fun e => ha (e ▸ List.mem_cons_self ..)⟩

/-- What the steps of the operations leave as it is. -/
structure Keeps (s t : AssocRbHeap κ ν) : Prop where
  dummy : t.dummy = s.dummy
  size : t.size = s.size
  dummyNode : t.node s.dummy = s.node s.dummy

theorem Keeps.trans {s t u : AssocRbHeap κ ν} (h₁ : Keeps s t) (h₂ : Keeps t u) : Keeps s u where
  dummy := h₂.dummy.trans h₁.dummy
  size := h₂.size.trans h₁.size
  dummyNode := by rw [← h₁.dummyNode, ← h₁.dummy, h₂.dummyNode]

/-- A rotation does to the pointers what it does to the tree. -/
theorem Focus.rotate {side : Side} {cx cy : AssocColor} {a b c : Shape κ ν} {kx ky : κ} {x y : Ptr × ν}
    (h : s.Focus (join side cx a kx x (join side cy b ky y c)) path) :
    ∃ t, rotate side x.1 s = .ok (⟨⟩, t) ∧ t.Focus (join side cy (join side cx a kx x b) ky y c) path ∧ Keeps s t := by
  obtain ⟨hX, ha, hyb⟩ := below_join.mp h.below
  obtain ⟨hY, hb, hc⟩ := below_join.mp hyb
  rw [ptr_join] at hX
  have hp : (s.dummy :: ((join side cx a kx x (join side cy b ky y c)).addrs ++ pathAddrs path)).Perm
      (s.dummy :: x.1 :: y.1 :: (b.addrs ++ (a.addrs ++ (c.addrs ++ pathAddrs path)))) := by
    refine List.perm_iff_count.mpr fun z => ?_
    have hi := (addrs_join side cy b c ky y).count_eq z
    have ho := (addrs_join side cx a (join side cy b ky y c) kx x).count_eq z
    simp only [List.count_cons, List.count_append] at hi ho ⊢
    omega
  have hp' : (s.dummy :: ((join side cy (join side cx a kx x b) ky y c).addrs ++ pathAddrs path)).Perm
      (s.dummy :: x.1 :: y.1 :: (b.addrs ++ (a.addrs ++ (c.addrs ++ pathAddrs path)))) := by
    refine List.perm_iff_count.mpr fun z => ?_
    have hi := (addrs_join side cx a b kx x).count_eq z
    have ho := (addrs_join side cy (join side cx a kx x b) c ky y).count_eq z
    simp only [List.count_cons, List.count_append] at hi ho ⊢
    omega
  have hn := hp.nodup_iff.mp h.nodup
  obtain ⟨hd, hn⟩ := List.nodup_cons.mp hn
  obtain ⟨hx, hn⟩ := List.nodup_cons.mp hn
  obtain ⟨hy, hn⟩ := List.nodup_cons.mp hn
  obtain ⟨hbn, hrest, hdisj⟩ := List.nodup_append.mp hn
  simp only [List.mem_cons, List.mem_append, not_or] at hd hx hy
  obtain ⟨-, hcp, hap⟩ := List.nodup_append.mp hrest
  have hda : ∀ z ∈ a.addrs, z ∉ pathAddrs path := fun z hz hzp => hap z hz z (by simp [hzp]) rfl
  have hdc : ∀ z ∈ c.addrs, z ∉ pathAddrs path := fun z hz hzp => (List.nodup_append.mp hcp).2.2 z hz z hzp rfl
  -- `x` gets the inner child of `y`,
  have hbx : Below (s.node.write x.1 (.of side cx kx x (parentPtr s.dummy path) (a.ptr s.dummy) (b.ptr s.dummy)))
      s.dummy y.1 b := hb.congr fun z hz => s.node.write_ne _ fun e => hx.2.1 (e ▸ hz)
  obtain ⟨m₂, had, hb₂, hm₂⟩ := adopt_ok (s := { s with node := s.node.write x.1 _ }) x.1 hbx
    (List.nodup_cons.mpr ⟨hd.2.2.1, hbn⟩)
  have hx₂ := (hm₂ x.1 hx.2.1).trans (s.node.write_self _)
  have hy₂ := ((hm₂ y.1 hy.1).trans (s.node.write_ne _ (Ne.symm hx.1))).trans hY
  -- `y` goes to the place of `x`,
  have hframe : ∀ z ∉ b.addrs, z ≠ x.1 → z ≠ y.1 → ∀ n, m₂.write y.1 n z = s.node z := fun z hz hzx hzy n =>
    (m₂.write_ne n hzy).trans ((hm₂ z hz).trans (s.node.write_ne _ hzx))
  have hpath : ∀ z ∈ pathAddrs path, z ∉ b.addrs ∧ z ≠ x.1 ∧ z ≠ y.1 := fun z hz =>
    ⟨fun hzb => hdisj z hzb z (by simp [hz]) rfl, fun e => hx.2.2.2.2 (e ▸ hz), fun e => hy.2.2.2 (e ▸ hz)⟩
  have hax := h.above
  rw [ptr_join] at hax
  obtain ⟨⟨m₄, _, root₄, _⟩, hre, ha₄, rfl, rfl, hm₄⟩ := relink_ok
    (s := { s with node := m₂.write y.1 (.of side cy ky y (parentPtr s.dummy path) (b.ptr s.dummy) (c.ptr s.dummy)) })
    (w := y.1)
    (hax.congr fun z hz => hframe z (hpath z hz).1 (hpath z hz).2.1 (hpath z hz).2.2 _)
    (List.nodup_cons.mpr ⟨by simp [Ne.symm hd.1, hx.2.2.2.2], List.nodup_cons.mpr ⟨hd.2.2.2.2.2,
      (List.nodup_append.mp hcp).2.1⟩⟩)
  dsimp only at ha₄ hm₄
  have hx₄ := (hm₄ x.1 hx.2.2.2.2).trans ((m₂.write_ne _ hx.1).trans hx₂)
  have hy₄ := (hm₄ y.1 hy.2.2.2).trans (m₂.write_self _)
  -- and `x` becomes its child.
  have hlast : ∀ z, z ≠ x.1 → z ≠ y.1 → ∀ n n', ((m₄.write y.1 n).write x.1 n') z = m₄ z := fun z hzx hzy n n' =>
    (Memory.write_ne _ n' hzx).trans (m₄.write_ne n hzy)
  have hkept : ∀ z, z ∉ b.addrs → z ∉ pathAddrs path → z ≠ x.1 → z ≠ y.1 → ∀ n n',
      ((m₄.write y.1 n).write x.1 n') z = s.node z := fun z hzb hzp hzx hzy n n' =>
    ((hlast z hzx hzy n n').trans (hm₄ z hzp)).trans (hframe z hzb hzx hzy _)
  refine ⟨{ s with
    node := (m₄.write y.1 (.of side cy ky y (parentPtr s.dummy path) x.1 (c.ptr s.dummy))).write x.1
      (.of side cx kx x y.1 (a.ptr s.dummy) (b.ptr s.dummy))
    root := root₄ }, ?_, ⟨?_, ?_, hp'.nodup_iff.mpr (hp.nodup_iff.mp h.nodup), ?_⟩, rfl, rfl, ?_⟩
  · unfold AssocRbHeap.rotate
    rw [Prog.bind_ok _ (child_other_of hX), Prog.bind_ok (m := dummyPtr) _ rfl,
      Prog.bind_ok _ (Prog.assert_ok (Ne.symm hd.2.1) s), Prog.bind_ok _ (child_other_of hX),
      Prog.bind_ok _ (child_of hY), Prog.bind_ok _ (setChild_other_of hX _),
      Prog.bind_ok _ (child_of ((s.node.write_ne _ (Ne.symm hx.1)).trans hY)), Prog.bind_ok _ had,
      Prog.bind_ok _ (parent_of hx₂), Prog.bind_ok _ (setParent_of hy₂ _),
      Prog.bind_ok _ (parent_of ((m₂.write_ne _ hx.1).trans hx₂)), Prog.bind_ok _ hre,
      Prog.bind_ok _ (setChild_of hy₄ _)]
    exact setParent_of ((m₄.write_ne _ hx.1).trans hx₄) _
  · refine below_join.mpr ⟨?_, below_join.mpr ⟨Memory.write_self _ _, ha.congr fun z hz => ?_, hb₂.congr fun z hz => ?_⟩,
      hc.congr fun z hz => ?_⟩
    · rw [ptr_join]
      exact (Memory.write_ne _ _ (Ne.symm hx.1)).trans (Memory.write_self _ _)
    · exact hkept z (fun hzb => hdisj z hzb z (by simp [hz]) rfl) (hda z hz) (fun e => hx.2.2.1 (e ▸ hz)) (fun e => hy.2.1 (e ▸ hz)) _ _
    · have hzx : z ≠ x.1 := fun e => hx.2.1 (e ▸ hz)
      have hzy : z ≠ y.1 := fun e => hy.1 (e ▸ hz)
      exact ((hlast z hzx hzy _ _).trans (hm₄ z fun hzp => hdisj z hz z (by simp [hzp]) rfl)).trans (m₂.write_ne _ hzy)
    · exact hkept z (fun hzb => hdisj z hzb z (by simp [hz]) rfl) (hdc z hz) (fun e => hx.2.2.2.1 (e ▸ hz))
        (fun e => hy.2.2.1 (e ▸ hz)) _ _
  · rw [ptr_join]
    exact ha₄.congr fun z hz => hlast z (hpath z hz).2.1 (hpath z hz).2.2 _ _
  · obtain ⟨p, hp⟩ := h.dummy
    exact ⟨p, (hkept _ hd.2.2.1 hd.2.2.2.2.2 hd.1 hd.2.1 _ _).trans hp⟩
  · exact hkept _ hd.2.2.1 hd.2.2.2.2.2 hd.1 hd.2.1 _ _

/-- Painting a node. The dummy is painted black only. -/
theorem Focus.paint (h : s.Focus x path) (c : AssocColor) (hx : x = .dummy → c = .black) :
    ∃ t, setColor (x.ptr s.dummy) c s = .ok (⟨⟩, t) ∧ t.Focus (x.paint c) path ∧ Keeps s t := by
  cases x with
  | dummy =>
    obtain ⟨p, hp⟩ := h.dummy
    obtain rfl := hx rfl
    have hw : s.node.write s.dummy (.ofDummy p) = s.node := by
      funext z
      by_cases hz : z = s.dummy
      · rw [hz, Memory.write_self, hp]
      · exact s.node.write_ne _ hz
    refine ⟨s, (modify_ok _ hp).trans ?_, h, rfl, rfl, rfl⟩
    exact congrArg (fun m => Except.ok (PUnit.unit, { s with node := m })) hw
  | node c₀ l k v r =>
    obtain ⟨hv, hl, hr⟩ := h.below
    have hn := h.nodup
    simp only [addrs, List.cons_append, List.nodup_cons, List.mem_cons, List.mem_append, not_or] at hn
    obtain ⟨hd, hvn, -⟩ := hn
    refine ⟨_, setColor_of hv c, ⟨⟨s.node.write_self _, ?_, ?_⟩, ?_, h.nodup, ?_⟩, rfl, rfl, ?_⟩
    · exact hl.congr fun z hz => s.node.write_ne _ fun e => hvn.1.1 (e ▸ hz)
    · exact hr.congr fun z hz => s.node.write_ne _ fun e => hvn.1.2 (e ▸ hz)
    · exact h.above.congr fun z hz => s.node.write_ne _ fun e => hvn.2 (e ▸ hz)
    · obtain ⟨p, hp⟩ := h.dummy
      exact ⟨p, (s.node.write_ne _ hd.1).trans hp⟩
    · exact s.node.write_ne _ hd.1

theorem Focus.color (h : s.Focus x path) : AssocRbHeap.color (x.ptr s.dummy) s = .ok (x.color, s) := by
  cases x with
  | dummy =>
    obtain ⟨p, hp⟩ := h.dummy
    exact color_ok hp
  | node c l k v r => exact color_of h.below.1

theorem Focus.parent (h : s.Focus x path) (hx : x ≠ .dummy) :
    AssocRbHeap.parent (x.ptr s.dummy) s = .ok (parentPtr s.dummy path, s) := by
  cases x with
  | dummy => exact absurd rfl hx
  | node c l k v r => exact parent_of h.below.1

theorem Focus.root (h : s.Focus x []) : s.root = x.ptr s.dummy := h.above

theorem Focus.read_frame {f : Frame κ (Ptr × ν)} (h : s.Focus x (f :: path)) : s.node f.value.1 =
    some (.of f.side f.color f.key f.value (parentPtr s.dummy path) (x.ptr s.dummy) (f.sibling.ptr s.dummy)) :=
  h.above.1

theorem Focus.fresh (h : s.Focus x path) {a : Ptr} (ha : s.node a = none) :
    a ∉ s.dummy :: (x.addrs ++ pathAddrs path) := by
  intro hmem
  have halloc : ∃ n, s.node a = some n := by
    rcases List.mem_cons.mp hmem with rfl | hmem
    · exact ⟨_, h.dummy.choose_spec⟩
    · rcases List.mem_append.mp hmem with hmem | hmem
      · exact h.below.allocated hmem
      · exact h.above.allocated hmem
  obtain ⟨n, hn⟩ := halloc
  rw [ha] at hn
  cases hn

theorem Focus.congr (h : s.Focus x path) (hm : ∀ a ∈ s.dummy :: (x.addrs ++ pathAddrs path), m a = s.node a) :
    Focus { s with node := m } x path := by
  simp only [List.mem_cons, List.mem_append] at hm
  obtain ⟨p, hp⟩ := h.dummy
  exact ⟨h.below.congr fun a ha => hm a (.inr (.inl ha)), h.above.congr fun a ha => hm a (.inr (.inr ha)), h.nodup,
    p, (hm _ (.inl rfl)).trans hp⟩

theorem Focus.ptr_ne_dummy (h : s.Focus x path) (hx : x ≠ .dummy) : x.ptr s.dummy ≠ s.dummy := by
  cases x with
  | dummy => exact absurd rfl hx
  | node c l k v r => exact fun e => (List.nodup_cons.mp h.nodup).1 (e ▸ List.mem_cons_self ..)

theorem Focus.ptr_ne_sibling {f : Frame κ (Ptr × ν)} (h : s.Focus x (f :: path)) (hx : x ≠ .dummy) :
    x.ptr s.dummy ≠ f.sibling.ptr s.dummy := by
  cases x with
  | dummy => exact absurd rfl hx
  | node c l k v r =>
    have hn := h.nodup
    simp only [addrs, pathAddrs, List.cons_append, List.nodup_cons, List.mem_cons, List.mem_append, not_or] at hn
    obtain ⟨hd, hv, -⟩ := hn
    intro he
    rcases List.mem_cons.mp (ptr_mem f.sibling s.dummy) with hs | hs
    · exact hd.1 (hs.symm.trans he.symm)
    · rw [← he] at hs
      exact hv.2.2.1 hs

theorem Focus.ptr_ne_root {f : Frame κ (Ptr × ν)} (h : s.Focus x (f :: path)) : x.ptr s.dummy ≠ s.root := by
  have hr := h.above.root_mem
  have hn := h.nodup
  rw [← List.cons_append] at hn
  exact (List.nodup_append.mp hn).2.2 _ (ptr_mem x s.dummy) _ hr

/-- The last step of a fix-up paints the root black. -/
theorem Focus.paint_root (h : s.Focus x path) :
    ∃ t, setColor s.root .black s = .ok (⟨⟩, t) ∧ t.Focus ((Tree.plug x path).paint .black) [] ∧ Keeps s t := by
  have hr := focus_plug.mpr h
  rw [hr.root]
  exact hr.paint .black fun _ => rfl

/-- The comparison of a node with its parent's left child tells its side. -/
theorem Focus.child_left {f : Frame κ (Ptr × ν)} (h : s.Focus x (f :: path))
    (hx : x.ptr s.dummy ≠ f.sibling.ptr s.dummy) :
    ∃ q, child .left f.value.1 s = .ok (q, s) ∧ (x.ptr s.dummy = q ↔ f.side = .left) := by
  have hr := h.read_frame
  obtain ⟨side, c, k, v, w⟩ := f
  refine ⟨_, child_ok .left hr, ?_⟩
  cases side with
  | left => exact iff_of_true rfl rfl
  | right => exact iff_of_false hx (by simp)

end Specs

/-- A node has its children on the two sides, whichever comes first. -/
theorem exists_join {x : Shape κ ν} (hx : x ≠ .dummy) (side : Side) :
    ∃ c l k v r, x = Tree.join side c l k v r := by
  cases x with
  | dummy => exact absurd rfl hx
  | node c l k v r =>
    cases side with
    | left => exact ⟨c, l, k, v, r, rfl⟩
    | right => exact ⟨c, r, k, v, l, rfl⟩

theorem rotate_join (side : Side) (cx cy : AssocColor) (a b c : Shape κ ν) (kx ky : κ) (x y : Ptr × ν) :
    Tree.rotate side (Tree.join side cx a kx x (Tree.join side cy b ky y c)) =
      some (Tree.join side cy (Tree.join side cx a kx x b) ky y c) := by
  cases side <;> rfl

theorem paint_join (side : Side) (c c' : AssocColor) (x w : Shape κ ν) (k : κ) (v : Ptr × ν) :
    (Tree.join side c x k v w).paint c' = Tree.join side c' x k v w := by
  cases side <;> rfl

theorem color_join (side : Side) (c : AssocColor) (x w : Shape κ ν) (k : κ) (v : Ptr × ν) :
    (Tree.join side c x k v w).color = c := by
  cases side <;> rfl

theorem plug_ne_dummy {x : Shape κ ν} (hx : x ≠ .dummy) (path : Path κ ν) : Tree.plug x path ≠ .dummy := by
  induction path generalizing x with
  | nil => exact hx
  | cons f path ih =>
    refine ih ?_
    obtain ⟨side, c, k, v, w⟩ := f
    cases side <;> simp

theorem join_ne_dummy (side : Side) (c : AssocColor) (x w : Shape κ ν) (k : κ) (v : Ptr × ν) :
    Tree.join side c x k v w ≠ .dummy := by
  cases side <;> simp

end AssocRbHeap

end FlexRic.Ds
