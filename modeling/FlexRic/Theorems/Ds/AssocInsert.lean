import FlexRic.Theorems.Ds.AssocShape

/-! # Insertion on the nodes in memory

The operation of the source does to the pointers what `Tree.insert` does to the tree. -/

namespace FlexRic.Ds.AssocRbHeap
open FlexRic.Ds.Tree (join parentPtr pathAddrs ptr_join)

variable {κ ν : Type} {s : AssocRbHeap κ ν} {z : Shape κ ν} {path : Path κ ν}

/-- Case 2 of the loop: `z` and its parent after it. -/
theorem Focus.straighten {f : Frame κ (Ptr × ν)} (h : s.Focus z (f :: path)) (hz : z ≠ .dummy) (side : Side) :
    ∃ t cq zz kq q b, straighten side (z.ptr s.dummy) f.value.1 s = .ok ((zz.ptr s.dummy, q.1), t) ∧
      Tree.outerChild side f z = some (join side cq zz kq q b) ∧ t.Focus (join side cq zz kq q b) path ∧
      zz ≠ .dummy ∧ Keeps s t := by
  obtain ⟨fside, c, k, v, w⟩ := f
  have hr := h.read_frame
  by_cases hs : fside = side
  · subst hs
    refine ⟨s, c, z, k, v, w, ?_, ?_, focus_join.mpr h, hz, rfl, rfl, rfl⟩
    · unfold AssocRbHeap.straighten
      rw [Prog.bind_ok _ (child_other_of hr), if_neg (h.ptr_ne_sibling hz)]
      rfl
    · exact if_pos rfl
  · obtain rfl : fside = side.other := by
      revert hs
      cases fside <;> cases side <;> simp
    obtain ⟨cz, a, kz, vz, b, rfl⟩ := exists_join hz side
    have hj := focus_join.mpr h
    rw [Tree.join_other] at hj
    obtain ⟨t, ht, hf, hk⟩ := hj.rotate
    have hp := (focus_join.mp hf).parent (join_ne_dummy _ _ _ _ _ _)
    rw [ptr_join] at hr hp
    refine ⟨t, cz, join side c w k v a, kz, vz, b, ?_, ?_, hf, join_ne_dummy _ _ _ _ _ _, hk⟩
    · unfold AssocRbHeap.straighten
      rw [ptr_join, ptr_join, Prog.bind_ok _ (child_of hr), if_pos rfl, Prog.bind_ok _ ht, Prog.bind_ok _ hp]
      rfl
    · have hne : side.other ≠ side := by
        cases side <;> simp
      have hplug : Frame.plug ⟨side.other, c, k, v, w⟩ (join side cz a kz vz b) =
          join side c w k v (join side cz a kz vz b) := Tree.join_other ..
      rw [Tree.outerChild, if_neg hne, hplug, rotate_join]

/-- Case 1 of the loop: the colours move up. -/
theorem Focus.insertFixupBody_red {f g : Frame κ (Ptr × ν)} (h : s.Focus z (f :: g :: path))
    (hu : g.sibling.color = .red) :
    ∃ t, insertFixupBody g.side (z.ptr s.dummy) f.value.1 g.value.1 s = .ok (g.value.1, t) ∧
      t.Focus (join g.side .red (join f.side .black z f.key f.value f.sibling) g.key g.value
        (g.sibling.paint .black)) path ∧ Keeps s t := by
  obtain ⟨fside, fc, fk, fv, fw⟩ := f
  obtain ⟨side, c, k, v, w⟩ := g
  have hf := focus_join.mpr h
  have hg := hf.read_frame
  obtain ⟨t₁, hp₁, hf₁, hk₁⟩ := hf.paint .black (fun e => absurd e (join_ne_dummy _ _ _ _ _ _))
  rw [ptr_join] at hp₁
  rw [paint_join] at hf₁
  obtain ⟨t₂, hp₂, hf₂, hk₂⟩ := (focus_across.mp hf₁).paint .black (fun _ => rfl)
  have hf₂ := focus_join.mpr (focus_across.mpr hf₂)
  obtain ⟨t₃, hp₃, hf₃, hk₃⟩ := hf₂.paint .red (fun e => absurd e (join_ne_dummy _ _ _ _ _ _))
  rw [ptr_join] at hp₃
  rw [paint_join] at hf₃
  rw [hk₁.dummy] at hp₂
  refine ⟨t₃, ?_, hf₃, (hk₁.trans hk₂).trans hk₃⟩
  unfold AssocRbHeap.insertFixupBody
  rw [Prog.bind_ok _ (child_other_of hg), Prog.bind_ok _ (focus_across.mp hf).color, if_pos hu, Prog.bind_ok _ hp₁,
    Prog.bind_ok _ hp₂, Prog.bind_ok _ hp₃]
  rfl

/-- Cases 2 and 3 of the loop: it ends, since the parent of the next node is black. -/
theorem Focus.insertFixupBody_black {f g : Frame κ (Ptr × ν)} (h : s.Focus z (f :: g :: path)) (hz : z ≠ .dummy)
    (hu : g.sibling.color = .black) :
    ∃ t p top zz q, insertFixupBody g.side (z.ptr s.dummy) f.value.1 g.value.1 s = .ok (zz, t) ∧
      Tree.outerChild g.side f z = some p ∧
      Tree.rotate g.side.other (join g.side .red (p.paint .black) g.key g.value g.sibling) = some top ∧
      t.Focus top path ∧ AssocRbHeap.parent zz t = .ok (q, t) ∧ AssocRbHeap.color q t = .ok (.black, t) ∧
      Keeps s t := by
  obtain ⟨side, c, k, v, w⟩ := g
  have hg := (focus_join.mpr h).read_frame
  obtain ⟨t₁, cq, zz, kq, q, b, hst, hp, hf₁, hzz, hk₁⟩ := h.straighten hz side
  obtain ⟨t₂, hp₂, hf₂, hk₂⟩ := hf₁.paint .black (fun e => absurd e (join_ne_dummy _ _ _ _ _ _))
  rw [ptr_join] at hp₂
  rw [paint_join] at hf₂
  obtain ⟨t₃, hp₃, hf₃, hk₃⟩ := (focus_join.mpr hf₂).paint .red (fun e => absurd e (join_ne_dummy _ _ _ _ _ _))
  rw [ptr_join] at hp₃
  rw [paint_join, ← Tree.join_other, ← Tree.join_other side] at hf₃
  obtain ⟨t₄, hr₄, hf₄, hk₄⟩ := hf₃.rotate
  have hchild := focus_across.mp (focus_join.mp hf₄)
  have hpar := hchild.parent hzz
  have hcol := color_of hchild.read_frame
  have hd := ((hk₁.trans hk₂).trans (hk₃.trans hk₄))
  rw [hd.dummy] at hpar
  refine ⟨t₄, _, _, zz.ptr s.dummy, q.1, ?_, hp, ?_, hf₄, hpar, hcol, hd⟩
  · unfold AssocRbHeap.insertFixupBody
    rw [Prog.bind_ok _ (child_other_of hg), Prog.bind_ok _ (focus_across.mp (focus_join.mpr h)).color,
      if_neg (by rw [hu]; decide), Prog.bind_ok _ hst]
    dsimp only
    rw [Prog.bind_ok _ hp₂, Prog.bind_ok _ hp₃, Prog.bind_ok _ hr₄]
    rfl
  · rw [paint_join, ← Tree.join_other, ← Tree.join_other side]
    exact rotate_join ..

theorem insertFixup_end {z p : Ptr} (n : Nat) (hp : parent z s = .ok (p, s)) (hc : color p s = .ok (.black, s)) :
    insertFixup (n + 1) z s = setColor s.root .black s := by
  rw [insertFixup, Prog.bind_ok _ hp, Prog.bind_ok _ hc, if_neg (by decide), Prog.bind_ok (m := rootPtr) _ rfl]

theorem Focus.insertFixup_next {f g : Frame κ (Ptr × ν)} (h : s.Focus z (f :: g :: path)) (hz : z ≠ .dummy)
    (hf : f.color = .red) (n : Nat) : insertFixup (n + 1) (z.ptr s.dummy) s =
      (insertFixupBody g.side (z.ptr s.dummy) f.value.1 g.value.1 >>= insertFixup n) s := by
  have hup := focus_join.mpr h
  obtain ⟨q, hq, hside⟩ := hup.child_left (hup.ptr_ne_sibling (join_ne_dummy _ _ _ _ _ _))
  rw [ptr_join] at hside
  have hpp := parent_of h.read_frame
  rw [AssocRbHeap.insertFixup, Prog.bind_ok _ (h.parent hz), Tree.parentPtr_cons, Prog.bind_ok _ (color_of h.read_frame),
    if_pos hf, Prog.bind_ok _ hpp, Tree.parentPtr_cons, Prog.bind_ok _ hq]
  cases hgs : g.side with
  | left => rw [if_pos (hside.mpr hgs)]
  | right => rw [if_neg fun e => by rw [hside.mp e] at hgs; cases hgs]

theorem Focus.insertFixup {t' : Shape κ ν} (h : s.Focus z path) (hz : z ≠ .dummy)
    (ht : Tree.insertFixup z path = some t') {n : Nat} (hn : path.length + 1 < n) :
    ∃ t, insertFixup n (z.ptr s.dummy) s = .ok (⟨⟩, t) ∧ t.Focus t' [] ∧ Keeps s t := by
  obtain ⟨m, rfl⟩ : ∃ m, n = m + 1 := ⟨n - 1, by omega⟩
  fun_induction Tree.insertFixup z path generalizing s m with
  | case1 z =>
    obtain rfl := Option.some.inj ht
    obtain ⟨p, hp⟩ := h.dummy
    rw [insertFixup_end m (h.parent hz) (color_ok hp)]
    exact h.paint_root
  | case2 z parent hb =>
    obtain rfl := Option.some.inj ht
    rw [insertFixup_end m (h.parent hz) (by rw [← hb]; exact color_of h.read_frame)]
    exact h.paint_root
  | case3 => cases ht
  | case4 z parent grand path hb =>
    obtain rfl := Option.some.inj ht
    rw [insertFixup_end m (h.parent hz) (by rw [← hb]; exact color_of h.read_frame)]
    exact h.paint_root
  | case5 z parent grand path hr hu ih =>
    obtain ⟨t, hb, hf, hk⟩ := h.insertFixupBody_red hu
    simp only [List.length_cons] at hn
    obtain ⟨m', rfl⟩ : ∃ m', m = m' + 1 := ⟨m - 1, by omega⟩
    obtain ⟨u, hu, hfu, hku⟩ := ih hf (join_ne_dummy _ _ _ _ _ _) ht m' (by omega)
    refine ⟨u, ?_, hfu, hk.trans hku⟩
    rw [h.insertFixup_next hz hr, Prog.bind_ok _ hb, ← hu, ptr_join]
  | case6 z parent grand path hr hu =>
    obtain ⟨t, p, top, zz, q, hb, hp, htop, hf, hpar, hcol, hk⟩ := h.insertFixupBody_black hz hu
    simp only [List.length_cons] at hn
    obtain ⟨m', rfl⟩ : ∃ m', m = m' + 1 := ⟨m - 1, by omega⟩
    obtain ⟨u, hu, hfu, hku⟩ := hf.paint_root
    simp only [hp, htop, Option.bind_eq_bind, Option.bind_some, Option.pure_def, Option.some.injEq] at ht
    subst ht
    refine ⟨u, ?_, hfu, hk.trans hku⟩
    rw [h.insertFixup_next hz hr, Prog.bind_ok _ hb, insertFixup_end m' hpar hcol, hu]

/-! ### The leaf -/

section Leaf
variable {cmp : κ → κ → Int} {a : Ptr} {k : κ}

theorem Focus.descend {x : Shape κ ν} (h : s.Focus x path) : s.Focus .dummy (Tree.descend cmp k x path) := by
  induction x generalizing path with
  | dummy => exact h
  | node c l kx v r ihl ihr =>
    rw [Tree.descend]
    split
    · exact ihl (focus_left.mp h)
    · exact ihr (focus_right.mp h)

theorem Focus.findLeaf {x : Shape κ ν} (h : s.Focus x path) (ha : key a s = .ok (k, s)) {n : Nat} (hn : x.size < n) :
    findLeaf cmp a n (x.ptr s.dummy) (parentPtr s.dummy path) s =
      .ok (parentPtr s.dummy (Tree.descend cmp k x path), s) := by
  obtain ⟨m, rfl⟩ : ∃ m, n = m + 1 := ⟨n - 1, by omega⟩
  induction x generalizing path m with
  | dummy =>
    rw [AssocRbHeap.findLeaf, Tree.ptr_dummy, Prog.bind_ok (m := dummyPtr) _ rfl, if_neg (by simp)]
    rfl
  | node c l kx v r ihl ihr =>
    simp only [Tree.size] at hn
    obtain ⟨m, rfl⟩ : ∃ m', m = m' + 1 := ⟨m - 1, by omega⟩
    have hv := h.below.1
    have hd : v.1 ≠ s.dummy := h.ptr_ne_dummy (by simp)
    rw [AssocRbHeap.findLeaf, Tree.ptr_node, Prog.bind_ok (m := dummyPtr) _ rfl, if_pos hd,
      Prog.bind_ok _ ha, Prog.bind_ok _ (key_of hv), Tree.descend]
    split
    · rw [Prog.bind_ok _ (left_of hv)]
      exact ihl (focus_left.mp h) m (by omega)
    · rw [Prog.bind_ok _ (right_of hv)]
      exact ihr (focus_right.mp h) m (by omega)

/-- The frame above the leaf is on the side where the comparison goes. -/
theorem descend_side {x : Shape κ ν} (hp : ∀ f ∈ path.head?, (cmp k f.key = 1 ↔ f.side = .left)) :
    ∀ f ∈ (Tree.descend cmp k x path).head?, (cmp k f.key = 1 ↔ f.side = .left) := by
  induction x generalizing path with
  | dummy => exact hp
  | node c l kx v r ihl ihr =>
    rw [Tree.descend]
    split
    · next hc => exact ihl (by simp [hc])
    · next hc => exact ihr (by simp [hc])

theorem length_descend (x : Shape κ ν) (path : Path κ ν) :
    (Tree.descend cmp k x path).length ≤ x.size + path.length := by
  induction x generalizing path with
  | dummy => simp [Tree.descend]
  | node c l kx v r ihl ihr =>
    rw [Tree.descend, Tree.size]
    split
    · have := ihl (⟨.left, c, kx, v, r⟩ :: path)
      simp only [List.length_cons] at this
      omega
    · have := ihr (⟨.right, c, kx, v, l⟩ :: path)
      simp only [List.length_cons] at this
      omega

/-- A node that is not in the tree yet becomes the child at the leaf. -/
theorem Focus.link {c : AssocColor} {v : ν} {p : Ptr} (h : s.Focus .dummy path)
    (ha : s.node a = some (.of .left c k (a, v) p s.dummy s.dummy)) (hfresh : a ∉ s.dummy :: pathAddrs path)
    (hside : ∀ f ∈ path.head?, (cmp k f.key = 1 ↔ f.side = .left)) :
    ∃ t, link cmp a (parentPtr s.dummy path) s = .ok (⟨⟩, t) ∧ t.Focus (.node c .dummy k (a, v) .dummy) path ∧
      Keeps s t := by
  simp only [List.mem_cons, not_or] at hfresh
  have hn : (s.dummy :: (Tree.addrs (.node c .dummy k (a, v) .dummy : Shape κ ν) ++ pathAddrs path)).Nodup := by
    have hd := h.nodup
    simp only [Tree.addrs, List.nil_append, List.nodup_cons] at hd
    simp only [Tree.addrs, List.nil_append, List.cons_append, List.nodup_cons, List.mem_cons, not_or]
    exact ⟨⟨Ne.symm hfresh.1, hd.1⟩, hfresh.2, hd.2⟩
  have hset := setParent_of ha (parentPtr s.dummy path)
  have hne : ∀ z ∈ pathAddrs path, z ≠ a := fun z hz e => hfresh.2 (e ▸ hz)
  have habove : Tree.Above (s.node.write a (.of .left c k (a, v) (parentPtr s.dummy path) s.dummy s.dummy)) s.dummy
      s.root s.dummy path := h.above.congr fun z hz => s.node.write_ne _ (hne z hz)
  obtain ⟨p', hdummy⟩ := h.dummy
  have hkept := s.node.write_ne (.of .left c k (a, v) (parentPtr s.dummy path) s.dummy s.dummy) (Ne.symm hfresh.1)
  unfold AssocRbHeap.link
  rw [Prog.bind_ok _ hset, Prog.bind_ok (m := dummyPtr) _ rfl]
  cases path with
  | nil =>
    refine ⟨{ s with node := _, root := a }, congrFun (if_pos rfl) _, ⟨⟨s.node.write_self _, trivial, trivial⟩, rfl, hn,
      p', hkept.trans hdummy⟩, rfl, rfl, hkept⟩
  | cons f path =>
    have hfd : f.value.1 ≠ s.dummy := fun e => (List.nodup_cons.mp h.nodup).1 (e ▸ List.mem_cons_self ..)
    have hfa := hne f.value.1 (List.mem_cons_self ..)
    have hkept' := fun n => ((s.node.write a (.of .left c k (a, v) (parentPtr s.dummy (f :: path)) s.dummy
      s.dummy)).write_ne n (Ne.symm hfd)).trans hkept
    refine ⟨_, Eq.trans ?_ (setChild_of (s := { s with node := _ }) habove.1 a), ⟨⟨?_, trivial, trivial⟩,
      habove.write_child (List.nodup_cons.mp h.nodup).2, hn, p', (hkept' _).trans hdummy⟩, rfl, rfl, hkept' _⟩
    · rw [Tree.parentPtr_cons, if_neg hfd, Prog.bind_ok _ (key_of (s := { s with node := _ }) (s.node.write_self _)),
        Prog.bind_ok _ (key_of (s := { s with node := _ }) habove.1)]
      cases hfs : f.side with
      | left =>
        rw [if_pos ((hside f rfl).mpr hfs)]
        rfl
      | right =>
        rw [if_neg fun e => by rw [(hside f rfl).mp e] at hfs; cases hfs]
        rfl
    · exact (Memory.write_ne _ _ (Ne.symm hfa)).trans (s.node.write_self _)

/-- `assoc_rb_tree_insert` does to the pointers what `Tree.insert` does to the tree. -/
theorem Focus.insert {x x' : Shape κ ν} {v : ν} (h : s.Focus x []) (hsize : s.size = x.size) (ha : s.node a = none)
    (hx : Tree.insert cmp k (a, v) x = some x') :
    ∃ t, insert cmp a k v s = .ok (⟨⟩, t) ∧ t.Focus x' [] ∧ t.dummy = s.dummy ∧ t.size = s.size + 1 := by
  have hfresh := h.fresh ha
  have hcongr : ∀ z ∈ s.dummy :: (x.addrs ++ pathAddrs []),
      s.node.write a (.of .left .red k (a, v) s.dummy s.dummy s.dummy) z = s.node z := fun z hz =>
    s.node.write_ne _ fun e => hfresh (e ▸ hz)
  have hf₁ := h.congr hcongr
  have hnode : ({ s with node := s.node.write a (.of .left .red k (a, v) s.dummy s.dummy s.dummy) } :
      AssocRbHeap κ ν).node a = some (.of .left .red k (a, v) s.dummy s.dummy s.dummy) := s.node.write_self _
  have hroot : s.root = x.ptr s.dummy := h.root
  have hd : a ≠ s.dummy := fun e => hfresh (e ▸ List.mem_cons_self ..)
  have hleaf : AssocRbHeap.findLeaf cmp a (s.size + 1) (x.ptr s.dummy) s.dummy _ =
      .ok (parentPtr s.dummy (Tree.descend cmp k x []), _) := hf₁.findLeaf (key_of hnode) (Nat.lt_succ_of_le hsize.ge)
  obtain ⟨t₂, hl₂, hf₂, hk₂⟩ := hf₁.descend.link hnode (h.descend.fresh ha) (descend_side (by simp))
  have hlen : (Tree.descend cmp k x []).length ≤ x.size := length_descend x []
  obtain ⟨t₃, hi₃, hf₃, hk₃⟩ := hf₂.insertFixup (by simp) hx (n := s.size + 2) (by omega)
  refine ⟨{ t₃ with size := t₃.size + 1 }, ?_, ⟨hf₃.below, hf₃.above, hf₃.nodup, hf₃.dummy⟩, hk₃.dummy.trans hk₂.dummy, ?_⟩
  · have hcreate : createNodeRbTree a k v s = .ok (⟨⟩,
        { s with node := s.node.write a (.of .left .red k (a, v) s.dummy s.dummy s.dummy) }) := rfl
    rw [← hroot] at hleaf
    rw [Tree.ptr_node] at hi₃
    unfold AssocRbHeap.insert
    rw [Prog.bind_ok _ hcreate, Prog.bind_ok _ (Prog.assert_ok hd _), Prog.bind_ok _ (parent_of hnode),
      Prog.bind_ok _ (Prog.assert_ok rfl _), Prog.bind_ok _ (left_of hnode), Prog.bind_ok _ (Prog.assert_ok rfl _),
      Prog.bind_ok _ (right_of hnode), Prog.bind_ok _ (Prog.assert_ok rfl _), Prog.bind_ok _ (color_of hnode),
      Prog.bind_ok _ (Prog.assert_ok rfl _), Prog.bind_ok _ hleaf, Prog.bind_ok _ hl₂, Prog.bind_ok _ hi₃]
    rfl
  · exact congrArg (· + 1) (hk₃.size.trans hk₂.size)

end Leaf

end FlexRic.Ds.AssocRbHeap
