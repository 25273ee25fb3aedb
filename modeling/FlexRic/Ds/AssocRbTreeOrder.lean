import FlexRic.Ds.AssocRbTree

/-! # The in-order list of the tree

Rotations and recolourings keep the in-order list, so an insertion adds one entry to it and an extraction
takes one entry out of it. With a comparator the list stays in key order, and the search finds a key
whenever the tree has one that compares equal. -/

namespace FlexRic.Ds

universe u v

variable {κ : Type u} {ν : Type v}

/-- What comes before a child in key order, of what its parent keeps. -/
@[simp] def Frame.before (f : Frame κ ν) : List (κ × ν) :=
  match f.side with
  | .left => []
  | .right => f.sibling.toList ++ [(f.key, f.value)]

/-- What comes after a child in key order, of what its parent keeps. -/
@[simp] def Frame.after (f : Frame κ ν) : List (κ × ν) :=
  match f.side with
  | .left => (f.key, f.value) :: f.sibling.toList
  | .right => []

namespace Tree

@[simp] def before : List (Frame κ ν) → List (κ × ν)
  | [] => []
  | f :: path => before path ++ f.before

@[simp] def after : List (Frame κ ν) → List (κ × ν)
  | [] => []
  | f :: path => f.after ++ after path

theorem before_append (p q : List (Frame κ ν)) : before (p ++ q) = before q ++ before p := by
  induction p with
  | nil => simp
  | cons f p ih => simp [ih]

theorem after_append (p q : List (Frame κ ν)) : after (p ++ q) = after p ++ after q := by
  induction p with
  | nil => simp
  | cons f p ih => simp [ih]

@[simp] theorem toList_paint (c : AssocColor) (t : Tree κ ν) : (t.paint c).toList = t.toList := by
  cases t <;> rfl

theorem toList_framePlug (f : Frame κ ν) (x : Tree κ ν) : (f.plug x).toList = f.before ++ x.toList ++ f.after := by
  obtain ⟨side, c, k, v, w⟩ := f
  cases side <;> simp

theorem toList_plug (x : Tree κ ν) (path : List (Frame κ ν)) :
    (plug x path).toList = before path ++ x.toList ++ after path := by
  induction path generalizing x with
  | nil => simp
  | cons f path ih =>
    rw [plug, ih, toList_framePlug]
    simp only [before, after, List.append_assoc]

theorem toList_rotate (side : Side) {t t' : Tree κ ν} (h : rotate side t = some t') : t'.toList = t.toList := by
  cases side with
  | left =>
    match t, h with
    | node _ _ _ _ (node ..), h =>
      obtain rfl := Option.some.inj h
      simp
  | right =>
    match t, h with
    | node _ (node ..) _ _ _, h =>
      obtain rfl := Option.some.inj h
      simp

theorem toList_outerChild {side : Side} {parent : Frame κ ν} {z t : Tree κ ν}
    (h : outerChild side parent z = some t) : t.toList = parent.before ++ z.toList ++ parent.after := by
  unfold outerChild at h
  split at h
  · obtain rfl := Option.some.inj h
    exact toList_framePlug parent z
  · rw [toList_rotate _ h, toList_framePlug]

theorem toList_outerNephew {side : Side} {wl wr w : Tree κ ν} {wk : κ} {wv : ν}
    (h : outerNephew side wl wk wv wr = some w) : w.toList = wl.toList ++ (wk, wv) :: wr.toList := by
  cases side with
  | left =>
    simp only [outerNephew] at h
    split at h
    · rw [toList_rotate .right h]; simp
    · obtain rfl := Option.some.inj h
      rfl
  | right =>
    simp only [outerNephew] at h
    split at h
    · rw [toList_rotate .left h]; simp
    · obtain rfl := Option.some.inj h
      rfl

/-! ### Insertion -/

theorem toList_insertFixup {z t : Tree κ ν} {path : List (Frame κ ν)} (h : insertFixup z path = some t) :
    t.toList = before path ++ z.toList ++ after path := by
  fun_induction insertFixup z path with
  | case1 z =>
    obtain rfl := Option.some.inj h
    simp
  | case2 z parent hb =>
    obtain rfl := Option.some.inj h
    rw [toList_paint, toList_framePlug]
    simp
  | case3 => cases h
  | case4 z parent grand path hb =>
    obtain rfl := Option.some.inj h
    rw [toList_paint, toList_plug]
  | case5 z parent grand path hr hu ih =>
    rw [ih h]
    obtain ⟨side, c, k, v, w⟩ := grand
    obtain ⟨side', c', k', v', w'⟩ := parent
    cases side <;> cases side' <;> simp
  | case6 z parent grand path hr hu =>
    simp only [Option.bind_eq_bind, Option.bind_eq_some_iff, Option.pure_def, Option.some.injEq] at h
    obtain ⟨p, hp, top, htop, rfl⟩ := h
    have hpl := toList_outerChild hp
    rw [toList_paint, toList_plug, toList_rotate _ htop]
    obtain ⟨side, c, k, v, w⟩ := grand
    cases side <;> simp [hpl]

/-! ### Extraction -/

theorem toList_fixBlackSibling {x : Tree κ ν} {p : Frame κ ν} {d : Tree κ ν ⊕ Tree κ ν}
    (h : fixBlackSibling x p = some d) :
    (d.elim toList toList) = p.before ++ x.toList ++ p.after := by
  obtain ⟨side, c, k, v, w⟩ := p
  cases w with
  | dummy => cases h
  | node cw wl wk wv wr =>
    simp only [fixBlackSibling] at h
    split at h
    · obtain rfl := Option.some.inj h
      cases side <;> simp
    · simp only [Option.bind_eq_bind, Option.bind_eq_some_iff, Option.pure_def] at h
      obtain ⟨w, hw, h⟩ := h
      have hwl := toList_outerNephew hw
      cases w with
      | dummy => cases h
      | node cy a ky vy b =>
        simp only [Option.bind_eq_some_iff, Option.some.injEq] at h
        obtain ⟨top, htop, rfl⟩ := h
        rw [Sum.elim_inr, toList_rotate _ htop]
        cases side with
        | left => simpa using hwl
        | right => simpa using congrArg (· ++ (k, v) :: x.toList) hwl

theorem toList_deleteFixup {x t : Tree κ ν} {path : List (Frame κ ν)} (h : deleteFixup x path = some t) :
    t.toList = before path ++ x.toList ++ after path := by
  induction path generalizing x with
  | nil =>
    obtain rfl := Option.some.inj h
    simp
  | cons p path ih =>
    rw [deleteFixup] at h
    split at h
    · obtain rfl := Option.some.inj h
      rw [toList_plug, toList_paint]
    · split at h
      · cases h
      · simp only [Option.bind_eq_bind, Option.bind_eq_some_iff, Option.pure_def] at h
        obtain ⟨d, hd, h⟩ := h
        have hdl := toList_fixBlackSibling hd
        cases d with
        | inl s =>
          rw [ih h, show s.toList = _ from hdl]
          simp
        | inr s =>
          obtain rfl := Option.some.inj h
          rw [toList_paint, toList_plug, show s.toList = _ from hdl]
          simp
      · next wl wk wv wr hw =>
        simp only [Option.bind_eq_bind, Option.bind_eq_some_iff, Option.pure_def] at h
        obtain ⟨d, hd, h⟩ := h
        have hdl := toList_fixBlackSibling hd
        obtain ⟨side, c, k, v, w⟩ := p
        obtain rfl : w = node .red wl wk wv wr := hw
        cases d with
        | inl s =>
          obtain rfl := Option.some.inj h
          rw [toList_plug, toList_paint, show s.toList = _ from hdl]
          cases side <;> simp
        | inr s =>
          obtain rfl := Option.some.inj h
          rw [toList_paint, toList_plug, show s.toList = _ from hdl]
          cases side <;> simp

theorem toList_findNode (cmp : κ → κ → Int) (key : κ) (t : Tree κ ν) (path : List (Frame κ ν)) :
    before (findNode cmp key t path).2 ++ (findNode cmp key t path).1.toList ++ after (findNode cmp key t path).2
      = before path ++ t.toList ++ after path := by
  induction t generalizing path with
  | dummy => simp [findNode]
  | node c l k v r ihl ihr =>
    rw [findNode]
    split
    · rw [ihl]; simp
    · split
      · rw [ihr]; simp
      · rfl

theorem minimum_cases {t : Tree κ ν} (ht : t ≠ dummy) (path : List (Frame κ ν)) :
    ∃ c k v r inner, minimum t path = (node c dummy k v r, inner) ∧
      before inner = before path ∧ (k, v) :: r.toList ++ after inner = t.toList ++ after path := by
  fun_induction minimum t path with
  | case1 => exact absurd rfl ht
  | case2 c k v r path => exact ⟨c, k, v, r, path, rfl, rfl, by simp⟩
  | case3 c c' l' k' v' r' k v r path ih =>
    obtain ⟨c₀, k₀, v₀, r₀, inner, hm, hb, ha⟩ := ih (by simp)
    refine ⟨c₀, k₀, v₀, r₀, inner, hm, by simpa using hb, ?_⟩
    rw [ha]
    simp

theorem toList_removeNode {c : AssocColor} {l r t : Tree κ ν} {path : List (Frame κ ν)}
    (h : removeNode c l r path = some t) : t.toList = before path ++ (l.toList ++ r.toList) ++ after path := by
  have fix : ∀ {b : AssocColor} {x : Tree κ ν} {q : List (Frame κ ν)},
      (if b = .black then deleteFixup x q else some (plug x q)) = some t →
      t.toList = before q ++ x.toList ++ after q := by
    intro b x q hq
    split at hq
    · exact toList_deleteFixup hq
    · obtain rfl := Option.some.inj hq
      exact toList_plug x q
  unfold removeNode at h
  split at h
  · rw [fix h]; simp
  · rw [fix h]; simp
  · next c' l' k' v' r' _ =>
    obtain ⟨cy, ky, vy, x, inner, hm, hb, ha⟩ :=
      minimum_cases (t := node c' l' k' v' r') (by simp) ([] : List (Frame κ ν))
    rw [hm] at h
    rw [fix h, before_append, after_append, hb]
    simp only [after, List.append_nil] at ha
    simp only [before, after, Frame.before, Frame.after, List.append_assoc, List.nil_append, ← ha,
      List.cons_append, List.append_nil]

/-! ### Key order -/

section Order
variable (C : Comparator κ)

/-- The binary-search-tree order: no entry comes before one that it compares after. -/
def Sorted (t : Tree κ ν) : Prop := t.toList.Pairwise fun a b => 0 ≤ C.cmp a.1 b.1

variable {C}

theorem Sorted.node_inv {c : AssocColor} {l r : Tree κ ν} {k : κ} {v : ν} (h : Sorted C (node c l k v r)) :
    Sorted C l ∧ Sorted C r ∧ (∀ a ∈ l.toList, 0 ≤ C.cmp a.1 k) ∧ ∀ b ∈ r.toList, 0 ≤ C.cmp k b.1 := by
  obtain ⟨hl, hr, hlr⟩ := List.pairwise_append.mp h
  obtain ⟨hk, hr⟩ := List.pairwise_cons.mp hr
  exact ⟨hl, hr, fun a ha => hlr a ha (k, v) (List.mem_cons_self ..), hk⟩

/-- The walk for a new key ends between the entries that are not after it and those that are not before
it. -/
theorem descend_split {t : Tree κ ν} (ht : Sorted C t) (key : κ) (path : List (Frame κ ν)) :
    ∃ A B, before (descend C.cmp key t path) = before path ++ A ∧
      after (descend C.cmp key t path) = B ++ after path ∧ t.toList = A ++ B ∧
      (∀ a ∈ A, 0 ≤ C.cmp a.1 key) ∧ ∀ b ∈ B, 0 ≤ C.cmp key b.1 := by
  induction t generalizing path with
  | dummy => exact ⟨[], [], by simp [descend], by simp [descend], rfl, by simp, by simp⟩
  | node c l k v r ihl ihr =>
    obtain ⟨hl, hr, hlk, hkr⟩ := ht.node_inv
    rw [descend]
    by_cases hc : C.cmp key k = 1
    · obtain ⟨A, B, hb, ha, hAB, hA, hB⟩ := ihl hl (⟨.left, c, k, v, r⟩ :: path)
      have hle : 0 ≤ C.cmp key k := by omega
      refine ⟨A, B ++ (k, v) :: r.toList, by simpa [hc] using hb, by simpa [hc] using ha, by simp [hAB], hA, ?_⟩
      intro b hb
      rcases List.mem_append.mp hb with hb | hb
      · exact hB b hb
      · rcases List.mem_cons.mp hb with rfl | hb
        · exact hle
        · exact C.trans hle (hkr b hb)
    · obtain ⟨A, B, hb, ha, hAB, hA, hB⟩ := ihr hr (⟨.right, c, k, v, l⟩ :: path)
      have hle : 0 ≤ C.cmp k key := by
        have := C.symm k key
        rcases C.range key k with h | h | h <;> omega
      refine ⟨l.toList ++ (k, v) :: A, B, by simpa [hc] using hb, by simpa [hc] using ha, by simp [hAB], ?_, hB⟩
      intro a ha
      rcases List.mem_append.mp ha with ha | ha
      · exact C.trans (hlk a ha) hle
      · rcases List.mem_cons.mp ha with rfl | ha
        · exact hle
        · exact hA a ha

theorem toList_insert {t t' : Tree κ ν} {key : κ} {value : ν} (ht : Sorted C t)
    (h : insert C.cmp key value t = some t') :
    ∃ A B, t.toList = A ++ B ∧ t'.toList = A ++ (key, value) :: B ∧
      (∀ a ∈ A, 0 ≤ C.cmp a.1 key) ∧ ∀ b ∈ B, 0 ≤ C.cmp key b.1 := by
  obtain ⟨A, B, hb, ha, hAB, hA, hB⟩ := descend_split ht key []
  exact ⟨A, B, hAB, by rw [toList_insertFixup h, hb, ha]; simp, hA, hB⟩

theorem Sorted.insert {t t' : Tree κ ν} {key : κ} {value : ν} (ht : Sorted C t)
    (h : insert C.cmp key value t = some t') : Sorted C t' := by
  obtain ⟨A, B, hAB, hl, hA, hB⟩ := toList_insert ht h
  unfold Sorted at ht ⊢
  rw [hAB] at ht
  obtain ⟨hpA, hpB, hpAB⟩ := List.pairwise_append.mp ht
  rw [hl]
  refine List.pairwise_append.mpr ⟨hpA, List.pairwise_cons.mpr ⟨hB, hpB⟩, fun a ha b hb => ?_⟩
  rcases List.mem_cons.mp hb with rfl | hb
  · exact hA a ha
  · exact hpAB a ha b hb

/-- The search ends at a key that compares equal, or the tree has none. -/
theorem findNode_cases {t : Tree κ ν} (ht : Sorted C t) (key : κ) (path : List (Frame κ ν)) :
    ((findNode C.cmp key t path).1 = dummy ∧ ∀ e ∈ t.toList, ¬C.Same key e.1) ∨
    ∃ c l k v r, (findNode C.cmp key t path).1 = node c l k v r ∧ C.Same key k := by
  induction t generalizing path with
  | dummy => exact .inl ⟨rfl, by simp⟩
  | node c l k v r ihl ihr =>
    obtain ⟨hl, hr, hlk, hkr⟩ := ht.node_inv
    rw [findNode]
    by_cases h1 : C.cmp key k = 1
    · rw [if_pos h1]
      refine (ihl hl _).imp_left fun ⟨hd, hn⟩ => ⟨hd, fun e he hs => ?_⟩
      rcases List.mem_append.mp he with he | he
      · exact hn e he hs
      · -- The keys from this node on are after the key that is sought.
        have hke : 0 ≤ C.cmp k e.1 := by
          rcases List.mem_cons.mp he with rfl | he
          · simp
          · exact hkr e he
        have := hs.cmp_left k
        have := C.symm k e.1
        omega
    · by_cases h2 : C.cmp key k = -1
      · rw [if_neg h1, if_pos h2]
        refine (ihr hr _).imp_left fun ⟨hd, hn⟩ => ⟨hd, fun e he hs => ?_⟩
        rcases List.mem_append.mp he with he | he
        · have hek := hlk e he
          have := hs.cmp_left k
          omega
        · rcases List.mem_cons.mp he with rfl | he
          · have : C.cmp key k = 0 := hs
            omega
          · exact hn e he hs
      · rw [if_neg h1, if_neg h2]
        refine .inr ⟨c, l, k, v, r, rfl, ?_⟩
        rcases C.range key k with h | h | h
        · exact absurd h h1
        · exact h
        · exact absurd h h2

/-- An extraction takes out one entry whose key compares equal to the one asked for. -/
theorem toList_extract {t t' : Tree κ ν} {key : κ} {value : ν} (ht : Sorted C t)
    (h : extract C.cmp key t = .ok (value, t')) :
    ∃ A k B, t.toList = A ++ (k, value) :: B ∧ t'.toList = A ++ B ∧ C.Same key k := by
  have hl := toList_findNode C.cmp key t []
  rcases findNode_cases ht key [] with ⟨hd, -⟩ | ⟨c, l, k, v, r, hn, hs⟩
  · simp only [extract] at h
    generalize findNode C.cmp key t [] = found at *
    obtain ⟨x, path⟩ := found
    obtain rfl : x = dummy := hd
    cases h
  · simp only [extract] at h
    generalize findNode C.cmp key t [] = found at *
    obtain ⟨x, path⟩ := found
    obtain rfl : x = node c l k v r := hn
    cases hr : removeNode c l r path with
    | none => simp [hr] at h
    | some t'' =>
      simp only [hr] at h
      cases h
      exact ⟨before path ++ l.toList, k, r.toList ++ after path, by simpa using hl.symm,
        by simp [toList_removeNode hr], hs⟩

theorem Sorted.extract {t t' : Tree κ ν} {key : κ} {value : ν} (ht : Sorted C t)
    (h : extract C.cmp key t = .ok (value, t')) : Sorted C t' := by
  obtain ⟨A, k, B, hl, hl', -⟩ := toList_extract ht h
  unfold Sorted at ht ⊢
  rw [hl] at ht
  rw [hl']
  exact ht.sublist (List.Sublist.append_left (List.sublist_cons_self ..) A)

end Order

end Tree

end FlexRic.Ds
