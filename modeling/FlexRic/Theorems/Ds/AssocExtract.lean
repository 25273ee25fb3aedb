import FlexRic.Ds.AssocRbTreeBalance
import FlexRic.Theorems.Ds.AssocDeleteFixup

/-! # Extraction on the nodes in memory

The operation of the source does to the pointers what `Tree.extract` does to the tree. -/

namespace FlexRic.Ds.AssocRbHeap
open FlexRic.Ds.Tree (Below Above join parentPtr pathAddrs ptr_join)

variable {κ ν : Type} {s t : AssocRbHeap κ ν} {x : Shape κ ν} {path : Path κ ν}

/-- `p` becomes the parent of the tree; this is how the dummy gets one. -/
theorem setParent_ok {q : Ptr} (p : Ptr) (hx : Below s.node s.dummy q x) (hn : (s.dummy :: x.addrs).Nodup)
    (hd : ∃ p, s.node s.dummy = some (.ofDummy p)) :
    ∃ m, setParent (x.ptr s.dummy) p s = .ok (⟨⟩, { s with node := m }) ∧ Below m s.dummy p x ∧
      (∀ a, a ≠ x.ptr s.dummy → m a = s.node a) ∧ (∃ n, m (x.ptr s.dummy) = some n ∧ n.parent = p) ∧
      ∃ p, m s.dummy = some (.ofDummy p) := by
  obtain ⟨p₀, hp₀⟩ := hd
  cases x with
  | dummy =>
    exact ⟨_, modify_ok _ hp₀, trivial, fun a ha => s.node.write_ne _ ha, ⟨_, s.node.write_self _, rfl⟩,
      p, s.node.write_self _⟩
  | node c l k v r =>
    obtain ⟨hd, hn⟩ := List.nodup_cons.mp hn
    have hv : s.dummy ≠ v.1 := fun e => hd (e ▸ List.mem_cons_self ..)
    exact ⟨_, setParent_of hx.1 p, below_setParent p hx hn, fun a ha => s.node.write_ne _ ha,
      ⟨_, s.node.write_self _, rfl⟩, p₀, (s.node.write_ne _ hv).trans hp₀⟩

/-- `transplant`: the tree `x` takes the place of the node `u`. -/
theorem transplant_ok {u q : Ptr} {n : AssocNode κ ν} (ha : Above s.node s.dummy s.root u path)
    (hx : Below s.node s.dummy q x) (hn : (u :: s.dummy :: (x.addrs ++ pathAddrs path)).Nodup)
    (hu : s.node u = some n) (hp : n.parent = parentPtr s.dummy path)
    (hd : ∃ p, s.node s.dummy = some (.ofDummy p)) :
    ∃ t, transplant u (x.ptr s.dummy) s = .ok (⟨⟩, t) ∧ t.Focus x path ∧ t.ParentOf x (parentPtr s.dummy path) ∧
      t.dummy = s.dummy ∧ t.size = s.size ∧ (∀ a ∉ s.dummy :: (x.addrs ++ pathAddrs path), t.node a = s.node a) ∧
      (x ≠ .dummy → t.node s.dummy = s.node s.dummy) := by
  obtain ⟨hun, hn⟩ := List.nodup_cons.mp hn
  obtain ⟨hdn, hxp⟩ := List.nodup_cons.mp hn
  obtain ⟨hxn, hpn, hdisj⟩ := List.nodup_append.mp hxp
  simp only [List.mem_cons, List.mem_append, not_or] at hun hdn
  obtain ⟨⟨m, _, root, _⟩, hre, ha₁, rfl, rfl, hm⟩ := relink_ok (w := x.ptr s.dummy) ha (by
    simp [hun, hdn, hpn])
  dsimp only at ha₁ hm
  have hx₁ : Below m s.dummy q x := hx.congr fun a ha => hm a fun hap => hdisj a ha a hap rfl
  have hd₁ : m s.dummy = s.node s.dummy := hm _ hdn.2
  obtain ⟨m', hset, hx₂, hm', hpar, hd₂⟩ := setParent_ok (s := { s with node := m, root }) (parentPtr s.dummy path) hx₁
    (List.nodup_cons.mpr ⟨hdn.1, hxn⟩) (hd.imp fun _ hp => hd₁.trans hp)
  have hptr : ∀ a ∉ s.dummy :: x.addrs, a ≠ x.ptr s.dummy := fun a ha e => ha (e ▸ Tree.ptr_mem x s.dummy)
  refine ⟨{ s with node := m', root }, ?_, ⟨hx₂, ha₁.congr fun a ha => hm' a (hptr a ?_), hn, hd₂⟩, hpar, rfl, rfl,
    fun a ha => ?_, fun hne => ?_⟩
  · unfold transplant
    rw [Prog.bind_ok (m := dummyPtr) _ rfl, Prog.bind_ok _ (Prog.assert_ok hun.1 _), Prog.bind_ok _ (parent_ok hu), hp,
      Prog.bind_ok _ hre, Prog.bind_ok _ (parent_ok ((hm u hun.2.2).trans hu)), hp]
    exact hset
  · rw [List.mem_cons, not_or]
    exact ⟨fun e => hdn.2 (e ▸ ha), fun hax => hdisj a hax a ha rfl⟩
  · simp only [List.mem_cons, List.mem_append, not_or] at ha
    exact (hm' a (hptr a (by simp [ha]))).trans (hm a ha.2.2)
  · cases x with
    | dummy => exact absurd rfl hne
    | node c l k v r =>
      have hv : s.dummy ≠ v.1 := fun e => hdn.1 (e ▸ List.mem_cons_self ..)
      exact (hm' _ hv).trans hd₁

/-! ### A node with two children -/

section Successor
variable {c cy : AssocColor} {k ky : κ} {z y : Ptr × ν} {l : Shape κ ν} {inner : Path κ ν}

/-- The state in which the successor `y`, out of its place, has what was the right subtree of `z` below it, and the
node `z` is still where it was. -/
structure Detached (s : AssocRbHeap κ ν) (c : AssocColor) (k : κ) (z : Ptr × ν) (l : Shape κ ν) (y : Shape κ ν)
    (path : Path κ ν) : Prop where
  successor : ∃ q, Below s.node s.dummy q y
  above : Above s.node s.dummy s.root z.1 path
  node : ∃ r, s.node z.1 = some (.of .left c k z (parentPtr s.dummy path) (l.ptr s.dummy) r)
  left : Below s.node s.dummy z.1 l
  dummy : ∃ p, s.node s.dummy = some (.ofDummy p)

/-- The right subtree of `z`, which the successor has left, goes below the successor. -/
theorem Focus.adoptRight {r : Shape κ ν} {q w : Ptr} (h : s.Focus r (⟨.right, c, k, z, l⟩ :: path)) (hr : r ≠ .dummy)
    (hy : s.node y.1 = some (.of .left cy ky y q s.dummy w))
    (hyn : y.1 ∉ s.dummy :: (r.addrs ++ pathAddrs (⟨.right, c, k, z, l⟩ :: path))) :
    ∃ m, (do
        setChild .right y.1 (← child .right z.1)
        setParent (← child .right y.1) y.1 : Prog (AssocRbHeap κ ν) PUnit) s = .ok (⟨⟩, { s with node := m }) ∧
      Detached { s with node := m } c k z l (.node cy .dummy ky y r) path ∧ m s.dummy = s.node s.dummy := by
  obtain ⟨hz, hl, ha⟩ := h.above
  have hptr : r.ptr s.dummy ∈ r.addrs := (List.mem_cons.mp (Tree.ptr_mem r s.dummy)).resolve_left (h.ptr_ne_dummy hr)
  obtain ⟨hd, hn⟩ := List.nodup_cons.mp h.nodup
  obtain ⟨hrn, -, hdisj⟩ := List.nodup_append.mp hn
  simp only [pathAddrs, List.mem_cons, List.mem_append, not_or] at hyn hd
  obtain ⟨hyd, hyr, hyz, hyl, hyp⟩ := hyn
  have hset : setChild .right y.1 (r.ptr s.dummy) s = .ok (⟨⟩, { s with
      node := s.node.write y.1 (.of .left cy ky y q s.dummy (r.ptr s.dummy)) }) := setChild_other_of hy (r.ptr s.dummy)
  have hyptr : y.1 ≠ r.ptr s.dummy := fun e => hyr (e ▸ hptr)
  have hr₁ : Below (s.node.write y.1 (.of .left cy ky y q s.dummy (r.ptr s.dummy))) s.dummy z.1 r :=
    h.below.congr fun a har => s.node.write_ne _ fun e => hyr (e ▸ har)
  obtain ⟨m, hsetp, hr₂, hm, -, hd₂⟩ := setParent_ok (s := { s with node := s.node.write y.1 _ }) y.1 hr₁
    (List.nodup_cons.mpr ⟨hd.1, hrn⟩) (h.dummy.imp fun _ hp => (s.node.write_ne _ (Ne.symm hyd)).trans hp)
  have hkept : ∀ a, a ≠ y.1 → a ∉ r.addrs → m a = s.node a := fun a hay har =>
    (hm a fun e => har (e ▸ hptr)).trans (s.node.write_ne _ hay)
  have hzkept := hkept z.1 (Ne.symm hyz) fun hzr => hdisj _ hzr _ (List.mem_cons_self ..) rfl
  have hdkept := hkept s.dummy (Ne.symm hyd) hd.1
  refine ⟨m, ?_, ⟨⟨q, ?_, trivial, hr₂⟩, ?_, ⟨r.ptr s.dummy, hzkept.trans hz⟩, ?_, hd₂⟩, hdkept⟩
  · rw [Prog.bind_ok _ (child_of hz), Prog.bind_ok _ hset,
      Prog.bind_ok _ (right_of (s := { s with node := s.node.write y.1 _ }) (s.node.write_self _))]
    exact hsetp
  · exact (hm _ hyptr).trans (s.node.write_self _)
  · exact ha.congr fun a hap => hkept a (fun e => hyp (e ▸ hap)) fun har =>
      hdisj _ har _ (List.mem_cons_of_mem _ (List.mem_append_right _ hap)) rfl
  · exact hl.congr fun a hal => hkept a (fun e => hyl (e ▸ hal)) fun har =>
      hdisj _ har _ (List.mem_cons_of_mem _ (List.mem_append_left _ hal)) rfl

theorem Focus.detachSuccessor (h : s.Focus (.node cy .dummy ky y x) (inner ++ ⟨.right, c, k, z, l⟩ :: path)) :
    ∃ t, detachSuccessor z.1 y.1 (x.ptr s.dummy) s = .ok (⟨⟩, t) ∧
      t.Detached c k z l (.node cy .dummy ky y (Tree.plug x inner)) path ∧
      (x = .dummy → t.ParentOf x (parentPtr s.dummy (inner ++ ⟨.right, c, ky, y, l⟩ :: path))) ∧
      t.dummy = s.dummy ∧ t.size = s.size := by
  obtain ⟨hy, -, hx⟩ := h.below
  have hn := h.nodup
  cases inner with
  | nil =>
    obtain ⟨hz, hl, ha⟩ := h.above
    simp only [Tree.addrs, List.nil_append, pathAddrs, List.nodup_cons, List.cons_append, List.mem_cons,
      List.mem_append, not_or, List.nodup_append] at hn
    obtain ⟨⟨hdy, hdx, hdz, hdl, hdp⟩, ⟨hyx, hyz, hyl, hyp⟩, hxn, ⟨⟨hzl, hzp⟩, hln, hpn, hlp⟩, hdisj⟩ := hn
    obtain ⟨m, hset, hx', hm, hpar, hd⟩ := setParent_ok y.1 hx (List.nodup_cons.mpr ⟨hdx, hxn⟩) h.dummy
    have hptr : ∀ a, a ≠ s.dummy → a ∉ x.addrs → m a = s.node a := fun a had hax => hm a fun e => by
      rcases List.mem_cons.mp (Tree.ptr_mem x s.dummy) with hp | hp
      · exact had (e.trans hp)
      · exact hax (e ▸ hp)
    refine ⟨{ s with node := m }, ?_, ⟨⟨z.1, (hptr _ (Ne.symm hdy) hyx).trans hy, trivial, hx'⟩, ?_, ⟨y.1, ?_⟩, ?_, hd⟩,
      fun _ => hpar, rfl, rfl⟩
    · unfold AssocRbHeap.detachSuccessor
      rw [Prog.bind_ok _ (parent_of hy)]
      exact (congrFun (if_pos rfl) s).trans hset
    · exact ha.congr fun a hap => hptr a (fun e => hdp (e ▸ hap)) fun hax => (hdisj a hax a (.inr (.inr hap))) rfl
    · exact (hptr z.1 (Ne.symm hdz) fun hzx => hdisj _ hzx _ (.inl rfl) rfl).trans hz
    · exact hl.congr fun a hal => hptr a (fun e => hdl (e ▸ hal)) fun hax => (hdisj a hax a (.inr (.inl hal))) rfl
  | cons f inner =>
    simp only [Tree.addrs, List.nil_append, List.cons_append] at hn
    have hswap := (List.Perm.swap _ _ _).nodup_iff.mp hn
    obtain ⟨t₁, htr, hf₁, hpar₁, hd₁, hs₁, hframe₁, -⟩ := transplant_ok h.above hx hswap hy (AssocNode.of_parent ..) h.dummy
    have hyn := (List.nodup_cons.mp hswap).1
    have hfz : f.value.1 ≠ z.1 := by
      have hfn := (List.nodup_append.mp (List.nodup_cons.mp hf₁.nodup).2).2.1
      intro e
      refine (List.nodup_cons.mp hfn).1 (List.mem_append_right _ ?_)
      have hmem : z.1 ∈ pathAddrs inner ++ pathAddrs (⟨.right, c, k, z, l⟩ :: path) :=
        List.mem_append_right _ (List.mem_cons_self ..)
      rw [← Tree.pathAddrs_append] at hmem
      exact e ▸ hmem
    have hR := focus_append.mpr hf₁
    have hyR : y.1 ∉ s.dummy :: ((Tree.plug x (f :: inner)).addrs ++ pathAddrs (⟨.right, c, k, z, l⟩ :: path)) := by
      rw [(addrs_plug.cons _).mem_iff]
      exact hyn
    have hy₁ := (hframe₁ _ hyn).trans hy
    obtain ⟨n₁, _, root₁, _⟩ := t₁
    obtain rfl := hd₁
    obtain rfl := hs₁
    obtain ⟨m, hrun, hdet, hdm⟩ := hR.adoptRight (plug_ne_dummy (join_ne_dummy _ _ _ _ _ _) inner) hy₁ hyR
    refine ⟨_, ?_, hdet, fun e => ?_, rfl, rfl⟩
    · rw [Tree.ptr_node] at htr
      unfold AssocRbHeap.detachSuccessor
      rw [Prog.bind_ok _ (parent_of hy)]
      refine (congrFun (if_neg hfz) s).trans ?_
      rw [Prog.bind_ok _ (right_of hy), Prog.bind_ok _ htr]
      exact hrun
    · subst e
      obtain ⟨n, hn, hp⟩ := hpar₁
      exact ⟨n, hdm.trans hn, hp⟩

/-- The left subtree and the colour of `z` go to the successor, which has taken the place of `z`. -/
theorem Focus.takeOver {r : Shape κ ν} {p w : Ptr} (h : s.Focus (.node cy .dummy ky y r) path) (hl : l ≠ .dummy)
    (hz : s.node z.1 = some (.of .left c k z p (l.ptr s.dummy) w)) (hb : Below s.node s.dummy z.1 l)
    (hn : (s.dummy :: z.1 :: ((Tree.node c l ky y r).addrs ++ pathAddrs path)).Nodup) :
    ∃ t, takeOver z.1 y.1 s = .ok (⟨⟩, t) ∧ t.Focus (.node c l ky y r) path ∧ Keeps s t ∧
      t.node z.1 = s.node z.1 := by
  obtain ⟨hy, -, hr⟩ := h.below
  obtain ⟨hd, hn'⟩ := List.nodup_cons.mp hn
  obtain ⟨hzn, hn'⟩ := List.nodup_cons.mp hn'
  simp only [Tree.addrs, List.cons_append] at hn' hzn hd
  obtain ⟨hyn, hn'⟩ := List.nodup_cons.mp hn'
  obtain ⟨hlr, -, hlrp⟩ := List.nodup_append.mp hn'
  obtain ⟨hln, -, hlrd⟩ := List.nodup_append.mp hlr
  simp only [List.mem_cons, List.mem_append, not_or] at hd hzn hyn
  have hptr : l.ptr s.dummy ∈ l.addrs := (List.mem_cons.mp (Tree.ptr_mem l s.dummy)).resolve_left fun e => by
    cases l with
    | dummy => exact hl rfl
    | node => exact hd.2.2.1.1 (e ▸ List.mem_cons_self ..)
  have hset := setChild_of hy (l.ptr s.dummy)
  have hb₁ : Below (s.node.write y.1 (.of .left cy ky y (parentPtr s.dummy path) (l.ptr s.dummy) (r.ptr s.dummy)))
      s.dummy z.1 l := hb.congr fun a hal => s.node.write_ne _ fun e => hyn.1.1 (e ▸ hal)
  obtain ⟨m, hsetp, hl₂, hm, -, hd₂⟩ := setParent_ok (s := { s with node := s.node.write y.1 _ }) y.1 hb₁
    (List.nodup_cons.mpr ⟨hd.2.2.1.1, hln⟩) (h.dummy.imp fun _ hp => (s.node.write_ne _ hd.2.1).trans hp)
  have hkept : ∀ a, a ≠ y.1 → a ∉ l.addrs → m a = s.node a := fun a hay hal =>
    (hm a fun e => hal (e ▸ hptr)).trans (s.node.write_ne _ hay)
  have hyptr : y.1 ≠ l.ptr s.dummy := fun e => hyn.1.1 (e ▸ hptr)
  have hy₂ := (hm _ hyptr).trans (s.node.write_self _)
  have hz₂ := hkept z.1 hzn.1 hzn.2.1.1
  have hf : Focus { s with node := m } (.node cy l ky y r) path := by
    refine ⟨⟨hy₂, hl₂, ?_⟩, ?_, ?_, hd₂⟩
    · exact hr.congr fun a har => hkept a (fun e => hyn.1.2 (e ▸ har)) fun hal => hlrd _ hal _ har rfl
    · exact h.above.congr fun a hap => hkept a (fun e => hyn.2 (e ▸ hap)) fun hal =>
        hlrp _ (List.mem_append_left _ hal) _ hap rfl
    · exact ((List.Perm.swap _ _ _).nodup_iff.mp hn).of_cons
  obtain ⟨t, ht, hft, hkt⟩ := hf.paint c (fun e => by cases e)
  obtain rfl := (Prod.mk.inj (Except.ok.inj ((setColor_of (s := { s with node := m }) hy₂ c).symm.trans ht))).2
  refine ⟨_, ?_, hft, ⟨rfl, rfl, ?_⟩, (m.write_ne _ hzn.1).trans hz₂⟩
  · unfold AssocRbHeap.takeOver
    rw [Prog.bind_ok _ (left_of hz), Prog.bind_ok _ hset,
      Prog.bind_ok _ (left_of (s := { s with node := s.node.write y.1 _ }) (s.node.write_self _)), Prog.bind_ok _ hsetp,
      Prog.bind_ok _ (color_of (s := { s with node := m }) (hz₂.trans hz))]
    exact ht
  · exact (m.write_ne _ hd.2.1).trans (hkept _ hd.2.1 hd.2.2.1.1)

/-- The node `z` with two children goes, its successor takes its place, and `x` that of the successor. -/
theorem Focus.replaceBySuccessor {r : Shape κ ν} {n : Nat} (h : s.Focus (.node c l k z r) path) (hl : l ≠ .dummy)
    (hr : r ≠ .dummy) (hn : r.size < n) :
    ∃ t cy ky y x inner, Tree.minimum r [] = (.node cy .dummy ky y x, inner) ∧
      replaceBySuccessor n z.1 s = .ok ((cy, x.ptr s.dummy), t) ∧
      t.Focus x (inner ++ ⟨.right, c, ky, y, l⟩ :: path) ∧
      (x = .dummy → t.ParentOf x (parentPtr s.dummy (inner ++ ⟨.right, c, ky, y, l⟩ :: path))) ∧
      t.dummy = s.dummy ∧ t.size = s.size ∧ z.1 ∉ s.dummy :: (x.addrs ++ pathAddrs (inner ++ ⟨.right, c, ky, y, l⟩ :: path)) ∧
      ∃ w, t.node z.1 = some (.of .left c k z (parentPtr s.dummy path) (l.ptr s.dummy) w) := by
  have hright := focus_right.mp h
  obtain ⟨cy, ky, y, x, inner, hmin, -, -⟩ := Tree.minimum_cases hr ([] : Path κ ν)
  have hmin' := Tree.minimum_append r [] (⟨.right, c, k, z, l⟩ :: path)
  rw [List.nil_append, hmin] at hmin'
  have hleft := hright.leftmost hr hn
  have hy := hright.minimum
  rw [hmin'] at hleft hy
  dsimp only at hleft hy
  have hp := @addrs_plug _ _ x (⟨.right, c, k, z, l⟩ :: path) inner
  have hfull : (s.dummy :: z.1 :: ((Tree.node c l ky y (Tree.plug x inner)).addrs ++ pathAddrs path)).Nodup := by
    refine (List.Perm.nodup_iff (List.perm_iff_count.mpr fun a => ?_)).mp hy.nodup
    have hc := hp.count_eq a
    simp only [Tree.addrs, pathAddrs, List.count_cons, List.count_append, List.nil_append] at hc ⊢
    omega
  obtain ⟨⟨m₁, _, root₁, _⟩, hdet, ⟨⟨q, hsucc⟩, habove, ⟨w, hz⟩, hlb, hd⟩, hpar, rfl, rfl⟩ := hy.detachSuccessor
  obtain ⟨hdn, hzn⟩ := List.nodup_cons.mp hfull
  obtain ⟨hzn, hyl⟩ := List.nodup_cons.mp hzn
  have hsub : (z.1 :: s.dummy :: ((Tree.node cy .dummy ky y (Tree.plug x inner)).addrs ++ pathAddrs path)).Nodup := by
    refine ((List.Perm.swap _ _ _).nodup_iff.mp hfull).sublist (.cons_cons _ (.cons_cons _ ?_))
    exact ((List.sublist_append_right _ _).cons_cons _).append_right _
  obtain ⟨⟨m₂, _, root₂, _⟩, htr, hf₂, -, rfl, rfl, hframe₂, hdk₂⟩ := transplant_ok habove hsucc hsub hz
    (AssocNode.of_parent ..) hd
  have hz₂ := (hframe₂ z.1 (List.nodup_cons.mp hsub).1).trans hz
  have hlb₂ : Below m₂ s.dummy z.1 l := hlb.congr fun a hal => hframe₂ a fun hmem => by
    simp only [Tree.addrs, List.cons_append] at hyl hdn
    obtain ⟨hyn, hyl⟩ := List.nodup_cons.mp hyl
    obtain ⟨hlr, -, hlrp⟩ := List.nodup_append.mp hyl
    simp only [Tree.addrs, List.nil_append, List.cons_append, List.mem_cons, List.mem_append] at hmem
    rcases hmem with rfl | rfl | hmem | hmem
    · exact hdn (by simp [hal])
    · exact hyn (by simp [hal])
    · exact (List.nodup_append.mp hlr).2.2 a hal a hmem rfl
    · exact hlrp a (List.mem_append_left _ hal) a hmem rfl
  obtain ⟨t₃, htake, hf₃, hk₃, hz₃⟩ := hf₂.takeOver hl hz₂ hlb₂ hfull
  refine ⟨t₃, cy, ky, y, x, inner, hmin, ?_, focus_append.mp (focus_right.mp hf₃), fun e => ?_, hk₃.dummy, hk₃.size,
    ?_, w, hz₃.trans hz₂⟩
  · have hm : AssocRbHeap.minimum n (r.ptr s.dummy) s = .ok (y.1, s) := by
      unfold AssocRbHeap.minimum
      rw [Prog.bind_ok (m := dummyPtr) _ rfl, if_neg (hright.ptr_ne_dummy hr)]
      exact hleft
    rw [Tree.ptr_node] at htr
    unfold AssocRbHeap.replaceBySuccessor
    rw [Prog.bind_ok _ (right_of h.below.1), Prog.bind_ok _ hm, Prog.bind_ok _ (color_of hy.below.1),
      Prog.bind_ok _ (right_of hy.below.1), Prog.bind_ok _ hdet, Prog.bind_ok _ htr, Prog.bind_ok _ htake]
    rfl
  · subst e
    obtain ⟨n', hn', hp'⟩ := hpar rfl
    refine ⟨n', ?_, hp'⟩
    rw [Tree.ptr_dummy, hk₃.dummy]
    exact (hk₃.dummyNode.trans (hdk₂ (by simp))).trans hn'
  · have hp' := @addrs_plug _ _ x (⟨.right, c, ky, y, l⟩ :: path) inner
    rw [List.mem_cons, ← hp'.mem_iff]
    intro hmem
    rcases hmem with e | hmem
    · exact hdn (e ▸ List.mem_cons_self ..)
    · refine hzn ?_
      simp only [pathAddrs, Tree.addrs, List.cons_append, List.mem_cons, List.mem_append] at hmem ⊢
      rcases hmem with hmem | e | hmem | hmem
      · exact .inr (.inl (.inr hmem))
      · exact .inl e
      · exact .inr (.inl (.inl hmem))
      · exact .inr (.inr hmem)

end Successor

/-! ### The whole operation -/

/-- What `unlink` leaves: the tree without the node `z`, where the fix-up is still to come. -/
structure Unlinked (s : AssocRbHeap κ ν) (z : Ptr × ν) (x : Shape κ ν) (path : Path κ ν) : Prop where
  focus : s.Focus x path
  parentOf : ∀ f ∈ path.head?, s.ParentOf x f.value.1
  gone : z.1 ∉ s.dummy :: (x.addrs ++ pathAddrs path)
  node : ∃ n, s.node z.1 = some n ∧ n.value = some z.2

section Extract
variable {c : AssocColor} {k : κ} {z : Ptr × ν} {l r : Shape κ ν}

/-- A node with the dummy for one child goes, and its other child takes its place. -/
theorem Focus.transplant_child {w : Shape κ ν} {side : Side} (h : s.Focus (join side c .dummy k z w) path) :
    ∃ t, transplant z.1 (w.ptr s.dummy) s = .ok (⟨⟩, t) ∧ t.Unlinked z w path ∧ t.dummy = s.dummy ∧ t.size = s.size := by
  obtain ⟨hz, -, hw⟩ := Tree.below_join.mp h.below
  have ha := h.above
  rw [ptr_join] at ha
  have hn : (z.1 :: s.dummy :: (w.addrs ++ pathAddrs path)).Nodup := by
    refine (List.Perm.nodup_iff (List.perm_iff_count.mpr fun a => ?_)).mp h.nodup
    have hc := (Tree.addrs_join side c .dummy w k z).count_eq a
    simp only [Tree.addrs, List.count_cons, List.count_append, List.nil_append] at hc ⊢
    omega
  obtain ⟨⟨m, _, root, _⟩, ht, hf, hpar, rfl, rfl, hframe, -⟩ := transplant_ok ha hw hn hz (AssocNode.of_parent ..) h.dummy
  have hgone := (List.nodup_cons.mp hn).1
  refine ⟨_, ht, ⟨hf, fun f hfm => ?_, hgone, _, (hframe _ hgone).trans hz, AssocNode.of_value ..⟩, rfl, rfl⟩
  rw [← Tree.parentPtr_of_head (d := s.dummy) hfm]
  exact hpar

theorem Focus.unlink {n : Nat} (h : s.Focus (.node c l k z r) path) (hn : r.size < n) :
    ∃ t original x path', unlink n z.1 s = .ok ((original, x.ptr s.dummy), t) ∧ t.Unlinked z x path' ∧
      Tree.removeNode c l r path = (if original = .black then Tree.deleteFixup x path' else some (Tree.plug x path')) ∧
      (path' = path ∨ ∃ ky y inner, (Tree.minimum r []).2 = inner ∧ path' = inner ++ ⟨.right, c, ky, y, l⟩ :: path) ∧
      t.dummy = s.dummy ∧ t.size = s.size := by
  have hz := h.below.1
  unfold AssocRbHeap.unlink
  rw [Prog.bind_ok (m := dummyPtr) _ rfl, Prog.bind_ok _ (color_of hz), Prog.bind_ok _ (left_of hz)]
  cases l with
  | dummy =>
    have hj : s.Focus (join .left c .dummy k z r) path := h
    obtain ⟨t, ht, hu, hd, hs⟩ := hj.transplant_child
    refine ⟨t, c, r, path, ?_, hu, rfl, .inl rfl, hd, hs⟩
    rw [Tree.ptr_dummy, if_pos rfl, Prog.bind_ok _ (right_of hz), Prog.bind_ok _ (right_of hz), Prog.bind_ok _ ht]
    rfl
  | node cl ll kl vl rl =>
    have hne := (focus_left.mp h).ptr_ne_dummy (by simp)
    rw [if_neg hne, Prog.bind_ok _ (right_of hz)]
    cases r with
    | dummy =>
      have hj : s.Focus (join .right c .dummy k z (.node cl ll kl vl rl)) path := h
      obtain ⟨t, ht, hu, hd, hs⟩ := hj.transplant_child
      refine ⟨t, c, _, path, ?_, hu, rfl, .inl rfl, hd, hs⟩
      rw [Tree.ptr_dummy, if_pos rfl, Prog.bind_ok _ (left_of hz), Prog.bind_ok _ (left_of hz), Prog.bind_ok _ ht]
      rfl
    | node cr lr kr vr rr =>
      have hne := (focus_right.mp h).ptr_ne_dummy (by simp)
      obtain ⟨t, cy, ky, y, x, inner, hmin, hrun, hf, hpar, hd, hs, hgone, w, hzt⟩ :=
        h.replaceBySuccessor (by simp) (by simp) hn
      refine ⟨t, cy, x, _, ?_, ⟨hf, ?_, hd ▸ hgone, _, hzt, AssocNode.of_value ..⟩, ?_,
        .inr ⟨ky, y, inner, by rw [hmin], rfl⟩, hd, hs⟩
      · rw [if_neg hne]
        exact hrun
      · intro f hfm
        rw [← Tree.parentPtr_of_head (d := s.dummy) hfm]
        by_cases hx : x = .dummy
        · exact hpar hx
        · exact hd ▸ hf.parentOf hx
      · simp only [Tree.removeNode, hmin]

theorem plug_findNode (cmp : κ → κ → Int) (k : κ) (x : Shape κ ν) (path : Path κ ν) :
    Tree.plug (Tree.findNode cmp k x path).1 (Tree.findNode cmp k x path).2 = Tree.plug x path := by
  induction x generalizing path with
  | dummy => rfl
  | node c l kx v r ihl ihr =>
    rw [Tree.findNode]
    split
    · exact ihl _
    · split
      · exact ihr _
      · rfl

theorem plug_minimum (x : Shape κ ν) (path : Path κ ν) :
    Tree.plug (Tree.minimum x path).1 (Tree.minimum x path).2 = Tree.plug x path := by
  fun_induction Tree.minimum x path with
  | case1 => rfl
  | case2 => rfl
  | case3 c c' l' k' v' r' k v r path ih => exact ih

/-- In a balanced tree the subtrees are, and so the siblings on a path. -/
theorem siblings_of_balanced {x : Shape κ ν} {path : Path κ ν} {c : AssocColor} {n : Nat}
    (h : Tree.Balanced (Tree.plug x path) c n) : (∃ c n, Tree.Balanced x c n) ∧ Siblings path := by
  induction path generalizing x with
  | nil => exact ⟨⟨_, _, h⟩, fun f hf => by cases hf⟩
  | cons f path ih =>
    obtain ⟨⟨c', n', hj⟩, hs⟩ := ih h
    have hboth : (∃ c n, Tree.Balanced x c n) ∧ ∃ c n, Tree.Balanced f.sibling c n := by
      obtain ⟨side, fc, k, v, w⟩ := f
      cases side with
      | left =>
        cases hj with
        | red hl hr => exact ⟨⟨_, _, hl⟩, _, _, hr⟩
        | black hl hr => exact ⟨⟨_, _, hl⟩, _, _, hr⟩
      | right =>
        cases hj with
        | red hl hr => exact ⟨⟨_, _, hr⟩, _, _, hl⟩
        | black hl hr => exact ⟨⟨_, _, hr⟩, _, _, hl⟩
    refine ⟨hboth.1, fun g hg l k v r he => ?_⟩
    rcases List.mem_cons.mp hg with rfl | hg
    · obtain ⟨c, n, hw⟩ := hboth.2
      rw [he] at hw
      cases hw with
      | red hl hr => exact ⟨hl.color_eq, hr.color_eq⟩
    · exact hs g hg l k v r he

theorem length_path (path : Path κ ν) : path.length ≤ (Tree.before path ++ Tree.after path).length := by
  induction path with
  | nil => exact Nat.zero_le _
  | cons f path ih =>
    obtain ⟨side, c, k, v, w⟩ := f
    rw [List.length_append] at ih
    cases side <;> simp only [Tree.before, Tree.after, Frame.before, Frame.after, List.length_append, List.length_cons,
      List.length_nil] <;> omega

theorem size_eq_length (x : Shape κ ν) : x.size = x.toList.length := by
  induction x with
  | dummy => rfl
  | node c l k v r ihl ihr =>
    simp only [Tree.size, Tree.toList, List.length_append, List.length_cons, ihl, ihr]
    omega

/-- Where the successor was, the path passes the left subtree of the node that goes, as it did before. -/
theorem siblings_successor {path' : Path κ ν} {c₀ : AssocColor} {n : Nat}
    (h : Tree.Balanced (Tree.plug (.node c l k z r) path) c₀ n) (hp : path' = path ∨ ∃ ky y inner,
      (Tree.minimum r []).2 = inner ∧ path' = inner ++ ⟨.right, c, ky, y, l⟩ :: path) : Siblings path' := by
  rcases hp with rfl | ⟨ky, y, inner, hi, rfl⟩
  · exact (siblings_of_balanced h).2
  · have hmin := Tree.minimum_append r [] (⟨.right, c, k, z, l⟩ :: path)
    rw [List.nil_append, hi] at hmin
    have hplug := plug_minimum r (⟨.right, c, k, z, l⟩ :: path)
    rw [hmin] at hplug
    have hs := (siblings_of_balanced (hplug.symm ▸ h :
      Tree.Balanced (Tree.plug (Tree.minimum r []).1 (inner ++ ⟨.right, c, k, z, l⟩ :: path)) c₀ n)).2
    intro f hf
    rcases List.mem_append.mp hf with hf | hf
    · exact hs f (List.mem_append_left _ hf)
    · rcases List.mem_cons.mp hf with rfl | hf
      · exact hs ⟨.right, c, k, z, l⟩ (List.mem_append_right _ (List.mem_cons_self ..))
      · exact hs f (List.mem_append_right _ (List.mem_cons_of_mem _ hf))

/-- `assoc_rb_tree_extract` does to the pointers what `Tree.extract` does to the tree. -/
theorem Focus.extract {C : Comparator κ} {x x' : Shape κ ν} {v : Ptr × ν} {n : Nat} (h : s.Focus x [])
    (hb : Tree.Balanced x .black n) (ho : Tree.Sorted C x) (hsize : s.size = x.size)
    (hx : Tree.extract C.cmp k x = .ok (v, x')) :
    ∃ t, extract C.cmp k s = .ok (v.2, t) ∧ t.Focus x' [] ∧ t.dummy = s.dummy ∧ t.size + 1 = s.size := by
  have hfind := h.findRbTree (C := C) (k := k) (Nat.lt_succ_of_le hsize.ge)
  have hf := h.findNode (k := k) C.cmp
  have hplug := plug_findNode C.cmp k x []
  obtain ⟨A, k', B, hA, hA', -⟩ := Tree.toList_extract ho hx
  have hlist := Tree.toList_findNode C.cmp k x []
  unfold Tree.extract at hx
  generalize Tree.findNode C.cmp k x [] = found at *
  obtain ⟨w, path⟩ := found
  cases w with
  | dummy => cases hx
  | node c l kz z r =>
    dsimp only at hx hf hfind hplug hlist
    cases hrem : Tree.removeNode c l r path with
    | none =>
      rw [hrem] at hx
      cases hx
    | some x'' =>
      rw [hrem] at hx
      obtain ⟨rfl, rfl⟩ : z = v ∧ x'' = x' := by simpa using hx
      have hlen := congrArg List.length hlist
      have hlenA := congrArg List.length hA
      have hlenA' := congrArg List.length hA'
      simp only [Tree.toList, Tree.before, Tree.after, List.length_append, List.length_cons, List.length_nil] at hlen hlenA hlenA'
      have hx_size := hsize.trans (size_eq_length x)
      have hr_size := size_eq_length r
      obtain ⟨t, original, y, path', hun, hU, hrm, hp', hd, hs⟩ := hf.unlink (n := s.size + 1) (by omega)
      obtain ⟨m, hzn, hzv⟩ := hU.node
      have hfree : Focus { t with node := t.node.free z.1 } y path' := hU.focus.congr fun a ha =>
        t.node.free_ne fun e => hU.gone (e ▸ ha)
      have hwhole : Tree.Balanced (Tree.plug (.node c l kz z r) path) .black n := by
        rw [hplug]
        exact hb
      have hfix : ∃ u, fixupFor original (s.size + 1) (y.ptr s.dummy) { t with node := t.node.free z.1 } = .ok (⟨⟩, u) ∧
          u.Focus x'' [] ∧ u.dummy = t.dummy ∧ u.size = t.size := by
        rw [hrm] at hrem
        unfold fixupFor
        split at hrem
        · next ho =>
          have hl := congrArg List.length (Tree.toList_deleteFixup hrem)
          have hpl := length_path path'
          simp only [List.length_append] at hl hpl
          have hpar : ∀ f ∈ path'.head?, ParentOf { t with node := t.node.free z.1 } y f.value.1 := fun f hfm => by
            obtain ⟨p, hpn, hpp⟩ := hU.parentOf f hfm
            have hne : y.ptr t.dummy ≠ z.1 := fun e => hU.gone (e ▸ (List.mem_append_left _ (Tree.ptr_mem y t.dummy)))
            exact ⟨p, (t.node.free_ne hne).trans hpn, hpp⟩
          obtain ⟨u, hu, hfu, hku⟩ := hfree.deleteFixup hpar (siblings_successor hwhole hp') hrem
            (n := s.size + 1) (by omega)
          exact ⟨u, by rw [if_pos ho, ← hd]; exact hu, hfu, hku.dummy, hku.size⟩
        · next ho =>
          obtain rfl := Option.some.inj hrem
          exact ⟨_, by rw [if_neg ho]; rfl, focus_plug.mpr hfree, rfl, rfl⟩
      obtain ⟨u, hu, hfu, hdu, hsu⟩ := hfix
      refine ⟨{ u with size := u.size - 1 }, ?_, ⟨hfu.below, hfu.above, hfu.nodup, hfu.dummy⟩, hdu.trans hd, ?_⟩
      · have hz := hf.ptr_ne_dummy (by simp)
        have hval : value z.1 t = .ok (z.2, t) := by
          unfold value
          rw [hzn]
          obtain ⟨key, val, p, a, b, col⟩ := m
          obtain rfl : val = some z.2 := hzv
          rfl
        have hfr : freeNodeRbTree z.1 t = .ok (⟨⟩, { t with node := t.node.free z.1 }) := Prog.bind_ok _ (read_ok hzn)
        have hdec : decrSize u = .ok (⟨⟩, { u with size := u.size - 1 }) := if_neg (by omega)
        rw [Tree.ptr_node] at hfind hz
        unfold AssocRbHeap.extract
        rw [h.root, Prog.bind_ok _ hfind, Prog.bind_ok _ (Prog.assert_ok hz _), Prog.bind_ok _ hun]
        dsimp only
        rw [Prog.bind_ok _ hval, Prog.bind_ok _ hfr, Prog.bind_ok _ hu, Prog.bind_ok _ hdec]
        rfl
      · dsimp only
        omega

end Extract

end FlexRic.Ds.AssocRbHeap
