import FlexRic.Theorems.Ds.AssocShape

/-! # The fix-up of an extraction on the nodes in memory

The loop of the source does to the pointers what `Tree.deleteFixup` does to the tree. It may start at the dummy,
which then has the node above it for a parent (`ParentOf`). -/

namespace FlexRic.Ds.AssocRbHeap
open FlexRic.Ds.Tree (join parentPtr pathAddrs ptr_join)

variable {κ ν : Type} {s t : AssocRbHeap κ ν} {x : Shape κ ν} {path : Path κ ν}

/-- What `parent` says of the node that `x` points to, the dummy included. -/
def ParentOf (s : AssocRbHeap κ ν) (x : Shape κ ν) (p : Ptr) : Prop :=
  ∃ n, s.node (x.ptr s.dummy) = some n ∧ n.parent = p

theorem eq_red_of_ne {c : AssocColor} (h : c ≠ .black) : c = .red := by
  cases c with
  | black => exact absurd rfl h
  | red => rfl

theorem ParentOf.parent {p : Ptr} (h : s.ParentOf x p) : parent (x.ptr s.dummy) s = .ok (p, s) := by
  obtain ⟨n, hn, rfl⟩ := h
  exact parent_ok hn

theorem Focus.parentOf (h : s.Focus x path) (hx : x ≠ .dummy) : s.ParentOf x (parentPtr s.dummy path) := by
  cases x with
  | dummy => exact absurd rfl hx
  | node c l k v r => exact ⟨_, h.below.1, AssocNode.of_parent ..⟩

/-- The steps keep the parent of a node that stays below it. -/
theorem ParentOf.keep {f : Frame κ (Ptr × ν)} (h : s.ParentOf x f.value.1) (hk : Keeps s t)
    (ht : t.Focus x (f :: path)) : t.ParentOf x f.value.1 := by
  cases x with
  | dummy =>
    obtain ⟨n, hn, hp⟩ := h
    refine ⟨n, ?_, hp⟩
    rw [Tree.ptr_dummy, hk.dummy, hk.dummyNode]
    exact hn
  | node => exact ht.parentOf (by simp)

/-! ### The fix-up -/

section Fixup
variable {side : Side} {c : AssocColor} {k wk : κ} {v wv : Ptr × ν} {w inner outer : Shape κ ν}

/-- Case 1 of the loop -/
theorem Focus.lowerParent_red (h : s.Focus x (⟨side, c, k, v, join side .red inner wk wv outer⟩ :: path))
    (hp : s.ParentOf x v.1) :
    ∃ t, lowerParent side (x.ptr s.dummy) wv.1 s = .ok (inner.ptr s.dummy, t) ∧
      t.Focus x (⟨side, .red, k, v, inner⟩ :: ⟨side, .black, wk, wv, outer⟩ :: path) ∧ Keeps s t := by
  obtain ⟨t₁, hp₁, hf₁, hk₁⟩ := (focus_across.mp h).paint .black (fun e => absurd e (join_ne_dummy _ _ _ _ _ _))
  rw [ptr_join] at hp₁
  rw [paint_join] at hf₁
  have hx₁ := focus_across.mpr hf₁
  have hpar₁ := (hp.keep hk₁ hx₁).parent
  obtain ⟨t₂, hp₂, hf₂, hk₂⟩ := (focus_join.mpr hx₁).paint .red (fun e => absurd e (join_ne_dummy _ _ _ _ _ _))
  rw [ptr_join] at hp₂
  rw [paint_join] at hf₂
  have hpar₂ := (hp.keep (hk₁.trans hk₂) (focus_join.mp hf₂)).parent
  obtain ⟨t₃, hp₃, hf₃, hk₃⟩ := hf₂.rotate
  have hx₃ := focus_join.mp (focus_join.mp hf₃)
  have hk := (hk₁.trans hk₂).trans hk₃
  have hpar₃ := (hp.keep hk hx₃).parent
  have hchild := child_other_of hx₃.read_frame
  rw [hk₁.dummy] at hpar₁
  rw [(hk₁.trans hk₂).dummy] at hpar₂
  rw [hk.dummy] at hpar₃ hchild
  refine ⟨t₃, ?_, hx₃, hk⟩
  have hcol := color_of (Focus.read_join (focus_across.mp h))
  unfold lowerParent
  rw [Prog.bind_ok _ hcol, if_pos rfl, Prog.bind_ok _ hp₁, Prog.bind_ok _ hpar₁, Prog.bind_ok _ hp₂,
    Prog.bind_ok _ hpar₂, Prog.bind_ok _ hp₃, Prog.bind_ok _ hpar₃]
  exact hchild

/-- Case 3 of the loop: the outer child of the sibling is red after it. -/
theorem Focus.turnSibling (h : s.Focus x (⟨side, c, k, v, join side .black inner wk wv outer⟩ :: path))
    (hp : s.ParentOf x v.1) (hred : outer.color = .black → inner.color = .red) :
    ∃ t i ik iv o, turnSibling side (x.ptr s.dummy) wv.1 s = .ok (iv.1, t) ∧
      (if outer.color = .black then Tree.rotate side.other (join side .red (inner.paint .black) wk wv outer)
        else some (join side .black inner wk wv outer)) = some (join side .black i ik iv o) ∧ o.color = .red ∧
      t.Focus x (⟨side, c, k, v, join side .black i ik iv o⟩ :: path) ∧ Keeps s t := by
  have hw := focus_across.mp h
  have hread := hw.read_join
  have houter := (focus_join_other.mp hw).color
  unfold AssocRbHeap.turnSibling
  rw [Prog.bind_ok _ (child_other_of hread), Prog.bind_ok _ houter]
  by_cases ho : outer.color = .black
  · have hinner := hred ho
    obtain ⟨ci, i₁, ik, iv, i₂, rfl⟩ := exists_join (x := inner) (fun e => by rw [e] at hinner; cases hinner) side.other
    have hin := focus_join.mp hw
    obtain ⟨t₁, hp₁, hf₁, hk₁⟩ := hin.paint .black (fun _ => rfl)
    rw [paint_join] at hf₁
    obtain ⟨t₂, hp₂, hf₂, hk₂⟩ := (focus_join.mpr hf₁).paint .red (fun e => absurd e (join_ne_dummy _ _ _ _ _ _))
    rw [ptr_join] at hp₂
    rw [paint_join, ← Tree.join_other] at hf₂
    obtain ⟨t₃, hp₃, hf₃, hk₃⟩ := hf₂.rotate
    rw [Tree.join_other] at hf₃
    have hx₃ := focus_across.mpr hf₃
    have hk := (hk₁.trans hk₂).trans hk₃
    have hpar := (hp.keep hk hx₃).parent
    have hchild := child_other_of hx₃.read_frame
    rw [ptr_join] at hchild
    rw [hk.dummy] at hpar
    refine ⟨t₃, i₂, ik, iv, join side.other .red outer wk wv i₁, ?_, ?_, ?_, hx₃, hk⟩
    · rw [if_pos ho, Prog.bind_ok _ (color_of hread), Prog.bind_ok _ (Prog.assert_ok rfl _),
        Prog.bind_ok _ (child_of hread), Prog.bind_ok _ hin.color, Prog.bind_ok _ (Prog.assert_ok hinner _),
        Prog.bind_ok _ (child_of hread), Prog.bind_ok _ hp₁, Prog.bind_ok _ hp₂, Prog.bind_ok _ hp₃,
        Prog.bind_ok _ hpar]
      exact hchild
    · rw [if_pos ho, paint_join, ← Tree.join_other, rotate_join, Tree.join_other]
    · cases side <;> rfl
  · refine ⟨s, inner, wk, wv, outer, ?_, ?_, ?_, h, rfl, rfl, rfl⟩
    · rw [if_neg ho]
      rfl
    · rw [if_neg ho]
    · exact eq_red_of_ne ho

/-- Case 4 of the loop: it ends. -/
theorem Focus.raiseSibling (h : s.Focus x (⟨side, c, k, v, join side .black inner wk wv outer⟩ :: path))
    (hp : s.ParentOf x v.1) (hred : outer.color = .red) :
    ∃ t, raiseSibling side (x.ptr s.dummy) wv.1 s = .ok (t.root, t) ∧
      t.Focus (join side c (join side .black x k v inner) wk wv (outer.paint .black)) path ∧ Keeps s t := by
  have hw := focus_across.mp h
  have hread := hw.read_join
  have houter := (focus_join_other.mp hw).color
  rw [hred] at houter
  have hc := color_of h.read_frame
  obtain ⟨t₁, hp₁, hf₁, hk₁⟩ := hw.paint c (fun e => absurd e (join_ne_dummy _ _ _ _ _ _))
  rw [ptr_join] at hp₁
  rw [paint_join] at hf₁
  have hx₁ := focus_across.mpr hf₁
  have hpar₁ := (hp.keep hk₁ hx₁).parent
  obtain ⟨t₂, hp₂, hf₂, hk₂⟩ := (focus_join.mpr hx₁).paint .black (fun e => absurd e (join_ne_dummy _ _ _ _ _ _))
  rw [ptr_join] at hp₂
  rw [paint_join] at hf₂
  have hw₂ := focus_join_other.mp hf₂
  have hread₂ := hw₂.read_join
  obtain ⟨t₃, hp₃, hf₃, hk₃⟩ := (focus_join_other.mp hw₂).paint .black (fun _ => rfl)
  have hx₃ := focus_across.mpr (focus_join_other.mpr hf₃)
  have hpar₃ := (hp.keep ((hk₁.trans hk₂).trans hk₃) hx₃).parent
  obtain ⟨t₄, hp₄, hf₄, hk₄⟩ := (focus_join.mpr hx₃).rotate
  rw [hk₁.dummy] at hpar₁
  rw [((hk₁.trans hk₂).trans hk₃).dummy] at hpar₃
  refine ⟨t₄, ?_, hf₄, ((hk₁.trans hk₂).trans hk₃).trans hk₄⟩
  unfold AssocRbHeap.raiseSibling
  rw [Prog.bind_ok _ (color_of hread), Prog.bind_ok _ (Prog.assert_ok rfl _), Prog.bind_ok _ (child_other_of hread),
    Prog.bind_ok _ houter, Prog.bind_ok _ (Prog.assert_ok rfl _), Prog.bind_ok _ hp.parent, Prog.bind_ok _ hc,
    Prog.bind_ok _ hp₁, Prog.bind_ok _ hpar₁, Prog.bind_ok _ hp₂, Prog.bind_ok _ (child_other_of hread₂),
    Prog.bind_ok _ hp₃, Prog.bind_ok _ hpar₃, Prog.bind_ok _ hp₄]
  rfl

/-- The colours of both children, whichever is which. -/
theorem Focus.children_color (h : s.Focus (join side c inner k v outer) path) :
    ∃ a ca b cb, child .left v.1 s = .ok (a, s) ∧ AssocRbHeap.color a s = .ok (ca, s) ∧
      child .right v.1 s = .ok (b, s) ∧ AssocRbHeap.color b s = .ok (cb, s) ∧ ((ca = .black ∧ cb = .black) ↔ (inner.color = .black ∧ outer.color = .black)) := by
  have hi := (focus_join.mp h).color
  have ho := (focus_join_other.mp h).color
  have hr := h.read_join
  cases side with
  | left => exact ⟨_, _, _, _, left_of hr, hi, right_of hr, ho, Iff.rfl⟩
  | right => exact ⟨_, _, _, _, child_ok .left hr, ho, child_ok .right hr, hi, And.comm⟩

theorem fixBlackSibling_inl {cw : AssocColor} (hb : inner.color = .black ∧ outer.color = .black) :
    Tree.fixBlackSibling x ⟨side, c, k, v, join side cw inner wk wv outer⟩ =
      some (.inl (join side c x k v (join side .red inner wk wv outer))) := by
  cases side <;> simp [Tree.fixBlackSibling, hb]

theorem fixBlackSibling_inr {cw ci : AssocColor} {i o : Shape κ ν} {ik : κ} {iv : Ptr × ν}
    (hb : ¬(inner.color = .black ∧ outer.color = .black))
    (ht : (if outer.color = .black then Tree.rotate side.other (join side .red (inner.paint .black) wk wv outer)
      else some (join side .black inner wk wv outer)) = some (join side ci i ik iv o)) :
    Tree.fixBlackSibling x ⟨side, c, k, v, join side cw inner wk wv outer⟩ =
      some (.inr (join side c (join side .black x k v i) ik iv (o.paint .black))) := by
  cases side with
  | left =>
    simp only [Tree.fixBlackSibling, Tree.outerNephew, join, if_neg hb]
    simp only [join, Side.other, Tree.rotate] at ht
    rw [ht]
    rfl
  | right =>
    simp only [Tree.fixBlackSibling, Tree.outerNephew, join, if_neg fun e => hb (And.symm e)]
    simp only [join, Side.other, Tree.rotate] at ht
    rw [ht]
    rfl

/-- Cases 2 to 4 of the loop, once the sibling is black: it goes on at the parent, or ends. -/
theorem Focus.fixBlackSibling {p : Frame κ (Ptr × ν)} {r : Shape κ ν ⊕ Shape κ ν} (h : s.Focus x (p :: path))
    (hp : s.ParentOf x p.value.1) (hb : p.sibling.color = .black) (hr : Tree.fixBlackSibling x p = some r) :
    ∃ t y, fixBlackSibling p.side (x.ptr s.dummy) (p.sibling.ptr s.dummy) s = .ok (y, t) ∧ Keeps s t ∧
      t.Focus (r.elim id id) path ∧ r.elim (fun z => z ≠ .dummy ∧ z.ptr s.dummy = y ∧ z.color = p.color)
        (fun _ => y = t.root) := by
  obtain ⟨side, c, k, v, w⟩ := p
  have hw : w ≠ .dummy := by
    rintro rfl
    cases hr
  obtain ⟨cw, inner, wk, wv, outer, rfl⟩ := exists_join hw side
  obtain rfl : cw = .black := by rwa [color_join] at hb
  have hfw := focus_across.mp h
  obtain ⟨a, ca, b, cb, ha, hca, hb, hcb, hiff⟩ := hfw.children_color
  have hcolor := color_of hfw.read_join
  replace hp : s.ParentOf x v.1 := hp
  dsimp only
  rw [ptr_join]
  unfold AssocRbHeap.fixBlackSibling
  by_cases hbb : inner.color = .black ∧ outer.color = .black
  · obtain rfl := Option.some.inj ((fixBlackSibling_inl hbb).symm.trans hr)
    obtain ⟨t, hpt, hft, hkt⟩ := hfw.paint .red (fun e => absurd e (join_ne_dummy _ _ _ _ _ _))
    rw [ptr_join] at hpt
    rw [paint_join] at hft
    have hx := focus_across.mpr hft
    have hpar := (hp.keep hkt hx).parent
    rw [hkt.dummy] at hpar
    refine ⟨t, v.1, ?_, hkt, focus_join.mpr hx, join_ne_dummy _ _ _ _ _ _, ptr_join ..,
      color_join ..⟩
    rw [Prog.bind_ok _ hcolor, Prog.bind_ok _ (Prog.assert_ok rfl _), Prog.bind_ok _ ha, Prog.bind_ok _ hca,
      Prog.bind_ok _ hb, Prog.bind_ok _ hcb, if_pos (hiff.mpr hbb), Prog.bind_ok _ hpt]
    exact hpar
  · have hred : outer.color = .black → inner.color = .red := fun ho => eq_red_of_ne fun hi => hbb ⟨hi, ho⟩
    obtain ⟨t, i, ik, iv, o, hturn, hfun, ho, hft, hkt⟩ := h.turnSibling hp hred
    obtain rfl := Option.some.inj ((fixBlackSibling_inr hbb hfun).symm.trans hr)
    obtain ⟨u, hraise, hfu, hku⟩ := hft.raiseSibling (hp.keep hkt hft) ho
    rw [hkt.dummy] at hraise
    refine ⟨u, u.root, ?_, hkt.trans hku, hfu, rfl⟩
    rw [Prog.bind_ok _ hcolor, Prog.bind_ok _ (Prog.assert_ok rfl _), Prog.bind_ok _ ha, Prog.bind_ok _ hca,
      Prog.bind_ok _ hb, Prog.bind_ok _ hcb, if_neg fun e => hbb (hiff.mp e), Prog.bind_ok _ hturn]
    exact hraise

/-- The body, when the sibling is black -/
theorem Focus.deleteFixupBody_black {p : Frame κ (Ptr × ν)} (h : s.Focus x (p :: path))
    (hp : s.ParentOf x p.value.1) (hb : p.sibling.color = .black) : deleteFixupBody p.side (x.ptr s.dummy) s =
      AssocRbHeap.fixBlackSibling p.side (x.ptr s.dummy) (p.sibling.ptr s.dummy) s := by
  have hlow : lowerParent p.side (x.ptr s.dummy) (p.sibling.ptr s.dummy) s = .ok (p.sibling.ptr s.dummy, s) := by
    rw [lowerParent, Prog.bind_ok _ (focus_across.mp h).color, if_neg (by rw [hb]; decide)]
    rfl
  rw [deleteFixupBody, Prog.bind_ok _ hp.parent, Prog.bind_ok _ (child_other_of h.read_frame), Prog.bind_ok _ hlow]

/-- The body, when the sibling is red -/
theorem Focus.deleteFixupBody_red (h : s.Focus x (⟨side, c, k, v, join side .red inner wk wv outer⟩ :: path))
    (hp : s.ParentOf x v.1) : ∃ t, deleteFixupBody side (x.ptr s.dummy) s =
        AssocRbHeap.fixBlackSibling side (x.ptr t.dummy) (inner.ptr t.dummy) t ∧
      t.Focus x (⟨side, .red, k, v, inner⟩ :: ⟨side, .black, wk, wv, outer⟩ :: path) ∧ Keeps s t := by
  obtain ⟨t, ht, hf, hk⟩ := h.lowerParent_red hp
  have hchild := child_other_of h.read_frame
  rw [ptr_join] at hchild
  refine ⟨t, ?_, hf, hk⟩
  rw [deleteFixupBody, Prog.bind_ok _ hp.parent, Prog.bind_ok _ hchild, Prog.bind_ok _ ht, hk.dummy]

end Fixup

theorem Focus.deleteFixup_root (h : s.Focus x path) (n : Nat) :
    deleteFixup (n + 1) s.root s = setColor s.root .black s := by
  have hc := (focus_plug.mpr h).color
  rw [← (focus_plug.mpr h).root] at hc
  rw [deleteFixup, Prog.bind_ok (m := rootPtr) _ rfl, Prog.bind_ok _ hc, if_neg fun e => e.1 rfl]

theorem Focus.deleteFixup_red (h : s.Focus x path) (hx : x.color = .red) (n : Nat) :
    deleteFixup (n + 1) (x.ptr s.dummy) s = setColor (x.ptr s.dummy) .black s := by
  rw [deleteFixup, Prog.bind_ok (m := rootPtr) _ rfl, Prog.bind_ok _ h.color, if_neg fun e => by rw [hx] at e; cases e.2]

theorem Focus.deleteFixup_next {p : Frame κ (Ptr × ν)} (h : s.Focus x (p :: path)) (hp : s.ParentOf x p.value.1)
    (hx : x.color = .black) (hw : p.sibling ≠ .dummy) (n : Nat) : deleteFixup (n + 1) (x.ptr s.dummy) s =
      (deleteFixupBody p.side (x.ptr s.dummy) >>= deleteFixup n) s := by
  obtain ⟨q, hq, hside⟩ := h.child_left (Ne.symm ((focus_across.mp h).ptr_ne_sibling hw))
  rw [deleteFixup, Prog.bind_ok (m := rootPtr) _ rfl, Prog.bind_ok _ h.color, if_pos ⟨h.ptr_ne_root, hx⟩,
    Prog.bind_ok _ hp.parent, Prog.bind_ok _ hq]
  cases hs : p.side with
  | left => rw [if_pos (hside.mpr hs)]
  | right => rw [if_neg fun e => by rw [hside.mp e] at hs; cases hs]

/-- Below a red sibling the loop ends after one more turn at the latest. -/
theorem Focus.deleteFixup_redSibling {side : Side} {c : AssocColor} {k wk : κ} {v wv : Ptr × ν}
    {inner outer : Shape κ ν} {r : Shape κ ν ⊕ Shape κ ν}
    (h : s.Focus x (⟨side, c, k, v, join side .red inner wk wv outer⟩ :: path)) (hp : s.ParentOf x v.1)
    (hx : x.color = .black) (hb : inner.color = .black)
    (hr : Tree.fixBlackSibling x ⟨side, .red, k, v, inner⟩ = some r) (n : Nat) :
    ∃ t, deleteFixup (n + 2) (x.ptr s.dummy) s = .ok (⟨⟩, t) ∧ Keeps s t ∧
      t.Focus (r.elim (fun z => Tree.plug (z.paint .black) (⟨side, .black, wk, wv, outer⟩ :: path))
        (fun z => (Tree.plug z (⟨side, .black, wk, wv, outer⟩ :: path)).paint .black)) [] := by
  obtain ⟨t₁, hbody, hf₁, hk₁⟩ := h.deleteFixupBody_red hp
  obtain ⟨t₂, y, hfix, hk₂, hf₂, hy⟩ := hf₁.fixBlackSibling (hp.keep hk₁ hf₁) hb hr
  have hnext := h.deleteFixup_next hp hx (join_ne_dummy _ _ _ _ _ _) (n + 1)
  rw [Prog.bind_ok _ (hbody.trans hfix)] at hnext
  cases r with
  | inl z =>
    obtain ⟨-, rfl, hred⟩ := hy
    obtain ⟨t₃, hpaint, hf₃, hk₃⟩ := hf₂.paint .black fun _ => rfl
    refine ⟨t₃, ?_, (hk₁.trans hk₂).trans hk₃, focus_plug.mpr hf₃⟩
    rw [hnext, ← hk₂.dummy]
    exact (Focus.deleteFixup_red hf₂ hred n).trans hpaint
  | inr z =>
    obtain rfl : y = t₂.root := hy
    obtain ⟨t₃, hpaint, hf₃, hk₃⟩ := hf₂.paint_root
    exact ⟨t₃, hnext.trans ((Focus.deleteFixup_root hf₂ n).trans hpaint), (hk₁.trans hk₂).trans hk₃, hf₃⟩

/-- No sibling on the path is red and has a red child. -/
def Siblings (path : Path κ ν) : Prop :=
  ∀ f ∈ path, ∀ l k v r, f.sibling = .node .red l k v r → l.color = .black ∧ r.color = .black

theorem Focus.deleteFixup {x' : Shape κ ν} (h : s.Focus x path) (hp : ∀ f ∈ path.head?, s.ParentOf x f.value.1)
    (hs : Siblings path) (hx : Tree.deleteFixup x path = some x') {n : Nat} (hn : path.length + 1 < n) :
    ∃ t, deleteFixup n (x.ptr s.dummy) s = .ok (⟨⟩, t) ∧ t.Focus x' [] ∧ Keeps s t := by
  obtain ⟨m, rfl⟩ : ∃ m, n = m + 1 := ⟨n - 1, by omega⟩
  induction path generalizing x s m with
  | nil =>
    obtain rfl := Option.some.inj hx
    rw [← h.root, h.deleteFixup_root]
    exact h.paint_root
  | cons p path ih =>
    simp only [List.length_cons] at hn
    obtain ⟨m, rfl⟩ : ∃ m', m = m' + 1 := ⟨m - 1, by omega⟩
    replace hp := hp p rfl
    rw [Tree.deleteFixup] at hx
    by_cases hc : x.color = .red
    · rw [if_pos hc] at hx
      obtain rfl := Option.some.inj hx
      obtain ⟨t, hpt, hft, hkt⟩ := h.paint .black fun _ => rfl
      exact ⟨t, (h.deleteFixup_red hc _).trans hpt, focus_plug.mpr hft, hkt⟩
    · have hxb : x.color = .black := by
        by_contra hne
        exact hc (eq_red_of_ne hne)
      rw [if_neg hc] at hx
      obtain ⟨side, c, k, v, w⟩ := p
      cases w with
      | dummy => cases hx
      | node cw wl wk wv wr =>
        have hnext := h.deleteFixup_next hp hxb (by simp)
        cases cw with
        | black =>
          simp only [Option.bind_eq_bind, Option.bind_eq_some_iff] at hx
          obtain ⟨r, hr, hx⟩ := hx
          obtain ⟨t, y, ht, hk, hf, hy⟩ := h.fixBlackSibling hp rfl hr
          rw [← h.deleteFixupBody_black hp rfl] at ht
          cases r with
          | inl z =>
            obtain ⟨hz, rfl, -⟩ := hy
            have hpar : ∀ f ∈ path.head?, t.ParentOf z f.value.1 := by
              intro f hfm
              rw [← Tree.parentPtr_of_head (d := t.dummy) hfm]
              exact Focus.parentOf hf hz
            obtain ⟨u, hu, hfu, hku⟩ := ih hf hpar (fun f hfm => hs f (List.mem_cons_of_mem _ hfm)) hx m (by omega)
            refine ⟨u, ?_, hfu, hk.trans hku⟩
            rw [hnext, Prog.bind_ok _ ht, ← hk.dummy]
            exact hu
          | inr z =>
            obtain rfl : y = t.root := hy
            obtain rfl := Option.some.inj hx
            obtain ⟨u, hu, hfu, hku⟩ := Focus.paint_root hf
            refine ⟨u, ?_, hfu, hk.trans hku⟩
            rw [hnext, Prog.bind_ok _ ht, Focus.deleteFixup_root hf, hu]
        | red =>
          obtain ⟨hl, hr⟩ := hs _ (List.mem_cons_self ..) _ _ _ _ rfl
          simp only [Option.bind_eq_bind, Option.bind_eq_some_iff] at hx
          obtain ⟨r, hfix, hx⟩ := hx
          cases side with
          | left =>
            have hj : s.Focus x (⟨.left, c, k, v, join .left .red wl wk wv wr⟩ :: path) := h
            obtain ⟨u, hu, hku, hfu⟩ := hj.deleteFixup_redSibling hp hxb hl hfix m
            refine ⟨u, hu, ?_, hku⟩
            cases r with
            | inl z => exact Option.some.inj hx ▸ hfu
            | inr z => exact Option.some.inj hx ▸ hfu
          | right =>
            have hj : s.Focus x (⟨.right, c, k, v, join .right .red wr wk wv wl⟩ :: path) := h
            obtain ⟨u, hu, hku, hfu⟩ := hj.deleteFixup_redSibling hp hxb hr hfix m
            refine ⟨u, hu, ?_, hku⟩
            cases r with
            | inl z => exact Option.some.inj hx ▸ hfu
            | inr z => exact Option.some.inj hx ▸ hfu

/-! ### The search -/

section Search
variable {C : Comparator κ} {k : κ}

theorem Focus.findNode (h : s.Focus x path) (cmp : κ → κ → Int) :
    s.Focus (Tree.findNode cmp k x path).1 (Tree.findNode cmp k x path).2 := by
  induction x generalizing path with
  | dummy => exact h
  | node c l kx v r ihl ihr =>
    rw [Tree.findNode]
    split
    · exact ihl (focus_left.mp h)
    · split
      · exact ihr (focus_right.mp h)
      · exact h

/-- The loop of the search goes where `Tree.findNode` goes. -/
theorem Focus.findRbTree (h : s.Focus x path) {n : Nat} (hn : x.size < n) :
    findRbTree C.cmp k n (x.ptr s.dummy) s = .ok ((Tree.findNode C.cmp k x path).1.ptr s.dummy, s) := by
  obtain ⟨m, rfl⟩ : ∃ m, n = m + 1 := ⟨n - 1, by omega⟩
  induction x generalizing path m with
  | dummy =>
    rw [AssocRbHeap.findRbTree, Tree.ptr_dummy, Prog.bind_ok (m := dummyPtr) _ rfl, if_neg (by simp)]
    rfl
  | node c l kx v r ihl ihr =>
    simp only [Tree.size] at hn
    obtain ⟨m, rfl⟩ : ∃ m', m = m' + 1 := ⟨m - 1, by omega⟩
    have hv := h.below.1
    have hd : v.1 ≠ s.dummy := h.ptr_ne_dummy (by simp)
    rw [AssocRbHeap.findRbTree, Tree.ptr_node, Prog.bind_ok (m := dummyPtr) _ rfl, if_pos hd, Prog.bind_ok _ (key_of hv),
      Tree.findNode]
    by_cases h1 : C.cmp k kx = 1
    · rw [if_pos h1, if_pos h1, Prog.bind_ok _ (left_of hv)]
      exact ihl (focus_left.mp h) m (by omega)
    · by_cases h2 : C.cmp k kx = -1
      · rw [if_neg h1, if_pos h2, if_neg h1, if_pos h2, Prog.bind_ok _ (right_of hv)]
        exact ihr (focus_right.mp h) m (by omega)
      · have h0 : C.cmp k kx = 0 := by
          rcases C.range k kx with h | h | h
          · exact absurd h h1
          · exact h
          · exact absurd h h2
        rw [if_neg h1, if_neg h2, if_neg h1, if_neg h2, Prog.bind_ok _ (Prog.assert_ok h0 _)]
        rfl

theorem Focus.minimum (h : s.Focus x path) : s.Focus (Tree.minimum x path).1 (Tree.minimum x path).2 := by
  fun_induction Tree.minimum x path with
  | case1 => exact h
  | case2 => exact h
  | case3 c c' l' k' v' r' k v r path ih => exact ih (focus_left.mp h)

theorem Focus.leftmost (h : s.Focus x path) (hx : x ≠ .dummy) {n : Nat} (hn : x.size < n) :
    leftmost n (x.ptr s.dummy) s = .ok ((Tree.minimum x path).1.ptr s.dummy, s) := by
  obtain ⟨m, rfl⟩ : ∃ m, n = m + 1 := ⟨n - 1, by omega⟩
  fun_induction Tree.minimum x path generalizing m with
  | case1 => exact absurd rfl hx
  | case2 c k v r path =>
    rw [AssocRbHeap.leftmost, Tree.ptr_node, Prog.bind_ok _ (left_of h.below.1), Prog.bind_ok (m := dummyPtr) _ rfl,
      if_neg (by simp)]
    rfl
  | case3 c c' l' k' v' r' k v r path ih =>
    have hd := (focus_left.mp h).ptr_ne_dummy (by simp)
    simp only [Tree.size] at hn
    obtain ⟨m, rfl⟩ : ∃ m', m = m' + 1 := ⟨m - 1, by omega⟩
    rw [AssocRbHeap.leftmost, Tree.ptr_node, Prog.bind_ok _ (left_of h.below.1), Prog.bind_ok (m := dummyPtr) _ rfl,
      if_pos hd, Prog.bind_ok _ (left_of h.below.1)]
    exact ih (focus_left.mp h) (by simp) m (by simp only [Tree.size]; omega)

end Search

end FlexRic.Ds.AssocRbHeap
