import FlexRic.Theorems.Ds.AssocLedger

/-! # Iteration over the red-black tree

An iterator is at the first of the entries that are still to be seen. The step to the next one goes down the right
subtree or up to the first frame on the left, and every step leaves one entry less. -/

namespace FlexRic.Ds

variable {κ ν : Type}

namespace AssocRbHeap
open FlexRic.Ds.Tree

section Iterators
variable {s : AssocRbHeap κ ν} {x x₀ : Shape κ ν} {path : Path κ ν} {it : Ptr} {es : List (κ × Ptr × ν)} {n bound : Nat}

/-- The iterator is at the first of the entries, which are the last ones of the tree; it is the end when there are
none. -/
inductive At (d : Ptr) (x₀ : Shape κ ν) : Ptr → List (κ × Ptr × ν) → Prop
  | end_ : At d x₀ d []
  | node {c : AssocColor} {l r : Shape κ ν} {k : κ} {v : Ptr × ν} {path : Path κ ν}
      (h : plug (.node c l k v r) path = x₀) : At d x₀ v.1 ((k, v) :: (r.toList ++ after path))

theorem value_of {side : Side} {c : AssocColor} {k : κ} {v : Ptr × ν} {m p y w : Ptr}
    (h : s.node m = some (.of side c k v p y w)) : value m s = .ok (v.2, s) := by
  unfold value
  rw [h]
  cases side <;> rfl

/-- What is seen at an iterator. -/
def seen (e : κ × Ptr × ν) : Ptr × κ × ν := (e.2.1, e.1, e.2.2)

theorem at_minimum (d : Ptr) (hx : x ≠ .dummy) (h : plug x path = x₀) :
    At d x₀ ((Tree.minimum x path).1.ptr d) (x.toList ++ after path) := by
  obtain ⟨c, k, v, r, inner, hm, -, hafter⟩ := Tree.minimum_cases hx path
  have hplug := plug_minimum x path
  rw [hm, h] at hplug
  rw [hm, ← hafter]
  exact .node hplug

/-- `minimum` goes to the first entry of the subtree. -/
theorem minimum_at (h : s.Focus x path) (hx : x ≠ .dummy) (hn : x.size < n) (hplug : plug x path = x₀) :
    ∃ p, minimum n (x.ptr s.dummy) s = .ok (p, s) ∧ At s.dummy x₀ p (x.toList ++ after path) := by
  refine ⟨_, ?_, at_minimum s.dummy hx hplug⟩
  unfold minimum
  rw [Prog.bind_ok (m := dummyPtr) _ rfl, if_neg (h.ptr_ne_dummy hx)]
  exact h.leftmost hx hn

/-- The way up ends at the parent whose left child it comes from: what follows a subtree comes from there. -/
theorem climb_at (h : s.Focus x path) (hx : x ≠ .dummy) (hn : path.length < n) (hplug : plug x path = x₀) :
    ∃ p, climb n (x.ptr s.dummy) (parentPtr s.dummy path) s = .ok (p, s) ∧ At s.dummy x₀ p (after path) := by
  induction path generalizing x n with
  | nil =>
    obtain ⟨n, rfl⟩ := Nat.exists_eq_add_of_lt hn
    exact ⟨s.dummy, by simp [climb, parentPtr, dummyPtr, Bind.bind, StateT.bind, Except.bind], .end_⟩
  | cons f path ih =>
    obtain ⟨n, rfl⟩ := Nat.exists_eq_add_of_lt hn
    obtain ⟨side, c, k, v, w⟩ := f
    have hup := focus_join.mpr h
    have hne := join_ne_dummy side c x w k v
    have hd := hup.ptr_ne_dummy hne
    rw [ptr_join] at hd
    rw [parentPtr_cons, climb, Prog.bind_ok (m := dummyPtr) _ rfl, if_neg hd]
    cases side with
    | left =>
      rw [Prog.bind_ok _ (left_of h.above.1), if_neg (not_not.mpr rfl)]
      exact ⟨v.1, rfl, .node hplug⟩
    | right =>
      have hw : child .left v.1 s = .ok (w.ptr s.dummy, s) := child_other_of h.above.1
      rw [Prog.bind_ok _ hw, if_pos (h.ptr_ne_sibling hx).symm, Prog.bind_ok _ (parent_of h.above.1)]
      exact ih hup hne (by simp only [List.length_cons]; omega) hplug

/-- The size of a tree is that of a subtree and more for every frame above it. -/
theorem size_plug_le (x : Shape κ ν) (path : Path κ ν) : x.size + path.length ≤ (plug x path).size := by
  induction path generalizing x with
  | nil => exact Nat.le_refl _
  | cons f path ih =>
    obtain ⟨side, c, k, v, w⟩ := f
    have hle := ih (join side c x k v w)
    rw [plug, List.length_cons]
    cases side <;> simp only [Frame.plug, join, Tree.size] at hle ⊢ <;> omega

/-- An iterator at an entry moves on to the next one, or to the end. -/
theorem next_at {e : κ × Ptr × ν} (h : s.Focus x₀ []) (hb : x₀.size < bound) (hit : At s.dummy x₀ it (e :: es)) :
    it ≠ s.dummy ∧ key it s = .ok (e.1, s) ∧ value it s = .ok (e.2.2, s) ∧ e.2.1 = it ∧
      ∃ p, next bound it s = .ok (p, s) ∧ At s.dummy x₀ p es := by
  cases hit with
  | @node c l r k v path hplug =>
    have hf : s.Focus (.node c l k v r) path := focus_plug.mp (hplug ▸ h)
    have hv := hf.below.1
    have hd : v.1 ≠ s.dummy := hf.ptr_ne_dummy (by simp)
    have hsize := size_plug_le (.node c l k v r) path
    rw [hplug, Tree.size] at hsize
    refine ⟨hd, key_of hv, value_of hv, rfl, ?_⟩
    rw [next, Prog.bind_ok (m := dummyPtr) _ rfl, Prog.bind_ok _ (Prog.assert_ok hd _), Prog.bind_ok _ (right_of hv),
      Prog.bind_ok (m := dummyPtr) _ rfl]
    cases r with
    | dummy =>
      rw [if_neg (not_not.mpr (ptr_dummy _)), Prog.bind_ok _ (parent_of hv)]
      exact climb_at hf (by simp) (by omega) hplug
    | node cr lr kr vr rr =>
      have hr := focus_right.mp hf
      rw [if_pos (hr.ptr_ne_dummy (by simp)), Prog.bind_ok _ (right_of hv)]
      have hat := minimum_at hr (by simp) (n := bound) (by omega) hplug
      exact hat

theorem front_at (h : s.Focus x₀ []) (hb : x₀.size < bound) :
    ∃ p, front bound s = .ok (p, s) ∧ At s.dummy x₀ p x₀.toList := by
  have hroot : s.root = x₀.ptr s.dummy := h.root
  rw [front, Prog.bind_ok (m := rootPtr) _ rfl, hroot]
  by_cases hx : x₀ = .dummy
  · subst hx
    exact ⟨s.dummy, by simp [minimum, dummyPtr, Bind.bind, StateT.bind, Except.bind], .end_⟩
  · have hat := minimum_at h hx hb rfl
    rwa [after, List.append_nil] at hat

/-! ### Loops -/

theorem traverse_at (h : s.Focus x₀ []) (hb : x₀.size < bound) (hn : es.length < n) (hit : At s.dummy x₀ it es) :
    traverse bound n it s = .ok (es.map seen, s) := by
  induction es generalizing it n with
  | nil =>
    obtain ⟨n, rfl⟩ := Nat.exists_eq_add_of_lt hn
    cases hit
    simp [traverse, end_, dummyPtr, Bind.bind, StateT.bind, Except.bind]
  | cons e es ih =>
    obtain ⟨n, rfl⟩ := Nat.exists_eq_add_of_lt hn
    obtain ⟨hd, hk, hv, rfl, p, hp, hat⟩ := next_at h hb hit
    rw [traverse, end_, Prog.bind_ok (m := dummyPtr) _ rfl, if_pos hd, Prog.bind_ok _ hk, Prog.bind_ok _ hv,
      Prog.bind_ok _ hp, Prog.bind_ok _ (ih (by simp only [List.length_cons]; omega) hat)]
    rfl

theorem findIfFrom_at (f : κ → Bool) (h : s.Focus x₀ []) (hb : x₀.size < bound) (hn : es.length < n)
    (hit : At s.dummy x₀ it es) :
    findIfFrom f bound n it s = .ok (((es.find? (f ·.1)).map (·.2.1)).getD s.dummy, s) := by
  induction es generalizing it n with
  | nil =>
    obtain ⟨n, rfl⟩ := Nat.exists_eq_add_of_lt hn
    cases hit
    simp [findIfFrom, end_, dummyPtr, Bind.bind, StateT.bind, Except.bind]
  | cons e es ih =>
    obtain ⟨n, rfl⟩ := Nat.exists_eq_add_of_lt hn
    obtain ⟨hd, hk, -, rfl, p, hp, hat⟩ := next_at h hb hit
    rw [findIfFrom, end_, Prog.bind_ok (m := dummyPtr) _ rfl, if_pos hd, Prog.bind_ok _ hk]
    cases hf : f e.1 with
    | true =>
      simp only [if_pos, List.find?_cons, hf]
      rfl
    | false =>
      rw [if_neg Bool.false_ne_true, Prog.bind_ok _ hp]
      simp only [List.find?_cons, hf]
      exact ih (by simp only [List.length_cons]; omega) hat

theorem depthFirstSearchFree_below {p : Ptr} (h : Below s.node s.dummy p x) (hnd : (s.dummy :: x.addrs).Nodup)
    (hn : x.size < n) :
    ∃ freed m, depthFirstSearchFree n (x.ptr s.dummy) s = .ok (freed, { s with node := m }) ∧
      freed.Perm (x.toList.map fun e => (e.1, e.2.2)) ∧ ∀ a ∉ x.addrs, m a = s.node a := by
  induction x generalizing s n p with
  | dummy =>
    obtain ⟨n, rfl⟩ := Nat.exists_eq_add_of_lt hn
    exact ⟨[], s.node, by simp [depthFirstSearchFree, dummyPtr, Bind.bind, StateT.bind, Except.bind], .refl _, fun _ _ => rfl⟩
  | node c l k v r ihl ihr =>
    obtain ⟨n, rfl⟩ := Nat.exists_eq_add_of_lt hn
    obtain ⟨hv, hl, hr⟩ := h
    obtain ⟨hd, hvn⟩ := List.nodup_cons.mp hnd
    obtain ⟨hvlr, hlr⟩ := List.nodup_cons.mp hvn
    obtain ⟨hln, hrn, hdisj⟩ := List.nodup_append.mp hlr
    simp only [addrs, List.mem_cons, List.mem_append, not_or] at hd hvlr
    obtain ⟨freedL, m₁, hrun₁, hperm₁, hkeep₁⟩ :=
      @ihl s (Tree.size (.node c l k v r) + n) v.1 hl (List.nodup_cons.mpr ⟨hd.2.1, hln⟩) (by simp only [Tree.size]; omega)
    have hr₁ : Below m₁ s.dummy v.1 r := hr.congr fun a ha => hkeep₁ a fun hal => hdisj a hal a ha rfl
    obtain ⟨freedR, m₂, hrun₂, hperm₂, hkeep₂⟩ :=
      @ihr { s with node := m₁ } (Tree.size (.node c l k v r) + n) v.1 hr₁ (List.nodup_cons.mpr ⟨hd.2.2, hrn⟩)
        (by simp only [Tree.size]; omega)
    have hv₁ := (hkeep₁ v.1 hvlr.1).trans hv
    have hv₂ := (hkeep₂ v.1 hvlr.2).trans hv₁
    have hfree : freeNodeRbTree v.1 { s with node := m₂ } = .ok (⟨⟩, { s with node := Memory.free m₂ v.1 }) :=
      Prog.bind_ok _ (read_ok hv₂)
    refine ⟨freedL ++ freedR ++ [(k, v.2)], Memory.free m₂ v.1, ?_, ?_, fun a ha => ?_⟩
    · rw [depthFirstSearchFree, ptr_node, Prog.bind_ok (m := dummyPtr) _ rfl, if_pos (Ne.symm hd.1),
        Prog.bind_ok _ (left_of hv), Prog.bind_ok _ hrun₁, Prog.bind_ok _ (right_of hv₁), Prog.bind_ok _ hrun₂,
        Prog.bind_ok _ (key_of hv₂), Prog.bind_ok _ (value_of hv₂), Prog.bind_ok _ hfree]
      rfl
    · rw [Tree.toList, List.map_append, List.map_cons]
      refine ((hperm₁.append hperm₂).append_right _).trans ?_
      rw [List.append_assoc]
      exact (List.perm_append_singleton _ _).append_left _
    · simp only [addrs, List.mem_cons, List.mem_append, not_or] at ha
      exact (Memory.free_ne _ ha.1).trans ((hkeep₂ a ha.2.2).trans (hkeep₁ a ha.2.1))

end Iterators

end AssocRbHeap

/-! ### Iteration in every state of a run -/

namespace AssocLedger
open AssocRbHeap

/-- The nodes of insertions are where nothing is allocated. -/
def Fresh (s : AssocLedger κ ν) : Op κ ν → Prop
  | .insert node _ _ => node ≠ 0 ∧ s.tree.node node = none
  | .extract _ => True

instance (s : AssocLedger κ ν) : ∀ op, Decidable (s.Fresh op)
  | .insert node _ _ => inferInstanceAs (Decidable (node ≠ 0 ∧ s.tree.node node = none))
  | .extract _ => inferInstanceAs (Decidable True)

variable {C : Comparator κ} {s : AssocLedger κ ν} {x : Shape κ ν}

/-- What a loop over the iterators sees, with enough turns: every remaining entry once, in the order of the
comparator. A search stops at the first of them that is sought, and freeing the tree gives all of them to the function
that frees. -/
structure Visits (C : Comparator κ) (s : AssocLedger κ ν) (visited : List (Ptr × κ × ν)) : Prop where
  iterate : ∀ bound, s.tree.size < bound → AssocRbHeap.iterate bound s.tree = .ok (visited, s.tree)
  nodup : (visited.map Prod.fst).Nodup
  sorted : visited.Pairwise fun a b => 0 ≤ C.cmp a.2.1 b.2.1
  entries : s.Remaining C (visited.map Prod.snd)
  findIf : ∀ f bound, s.tree.size < bound →
    AssocRbHeap.findIf f bound s.tree = .ok (((visited.find? (f ·.2.1)).map (·.1)).getD s.tree.dummy, s.tree)
  freed : ∀ bound, s.tree.size < bound → ∃ freed t,
    depthFirstSearchFree bound s.tree.root s.tree = .ok (freed, t) ∧ freed.Perm (visited.map Prod.snd)

theorem addrs_perm (x : Shape κ ν) : ((x.toList.map seen).map Prod.fst).Perm x.addrs := by
  induction x with
  | dummy => exact .refl _
  | node c l k v r ihl ihr =>
    rw [Tree.toList, Tree.addrs, List.map_append, List.map_append, List.map_cons, List.map_cons]
    exact List.perm_middle.trans ((ihl.append ihr).cons _)

theorem Tracks.visits (h : s.Tracks C x) : s.Visits C (x.toList.map seen) where
  iterate bound hb := by
    rw [h.size] at hb
    obtain ⟨p, hp, hat⟩ := front_at h.focus hb
    rw [AssocRbHeap.iterate, Prog.bind_ok _ hp]
    exact traverse_at h.focus hb (size_eq_length x ▸ hb) hat
  nodup := by
    have hn := (List.nodup_cons.mp h.focus.nodup).2
    rw [Tree.pathAddrs, List.append_nil] at hn
    exact (addrs_perm x).nodup_iff.mpr hn
  sorted := List.pairwise_map.mpr h.sorted
  entries := by
    rw [List.map_map]
    exact h.entries
  findIf f bound hb := by
    rw [h.size] at hb
    obtain ⟨p, hp, hat⟩ := front_at h.focus hb
    rw [AssocRbHeap.findIf, Prog.bind_ok _ hp, findIfFrom_at f h.focus hb (size_eq_length x ▸ hb) hat, List.find?_map,
      Option.map_map]
    rfl
  freed bound hb := by
    rw [h.size] at hb
    obtain ⟨freed, m, hrun, hperm, -⟩ := depthFirstSearchFree_below h.focus.below (by simpa [Tree.pathAddrs] using h.focus.nodup) hb
    rw [← h.focus.root] at hrun
    exact ⟨freed, _, hrun, by rw [List.map_map]; exact hperm⟩

theorem Tracks.step {op : Op κ ν} {t : AssocLedger κ ν} {out : Option ν} (h : s.Tracks C x) (hf : s.Fresh op)
    (ht : apply C s op = .ok (t, out)) : ∃ x', t.Tracks C x' := by
  cases op with
  | insert node key value =>
    obtain ⟨t', x', ht', hx⟩ := h.insert key value hf.2
    obtain ⟨rfl, -⟩ := Prod.mk.inj (Except.ok.inj (ht.symm.trans ht'))
    exact ⟨x', hx⟩
  | extract key =>
    rcases h.extract key with ⟨t', v, x', ht', hx⟩ | ⟨-, herr⟩
    · obtain ⟨rfl, -⟩ := Prod.mk.inj (Except.ok.inj (ht.symm.trans ht'))
      exact ⟨x', hx⟩
    · cases ht.symm.trans herr

theorem Tracks.execAll {ops : List (Op κ ν)} {t : AssocLedger κ ν} (h : s.Tracks C x)
    (hf : Throughout (apply C) Fresh s ops) (ht : FlexRic.execAll (apply C) s ops = .ok t) : ∃ x', t.Tracks C x' := by
  induction ops generalizing s x with
  | nil =>
    obtain rfl := Except.ok.inj ht
    exact ⟨x, h⟩
  | cons op ops ih =>
    rw [FlexRic.execAll] at ht
    cases hop : apply C s op with
    | error msg =>
      rw [hop] at ht
      cases ht
    | ok r =>
      obtain ⟨u, out⟩ := r
      rw [hop] at ht
      obtain ⟨x', hx⟩ := h.step hf.1 hop
      exact ih hx (hf.2 u out hop) ht

/-- In every state that inserts and extracts lead to, a loop over the iterators ends and sees every entry exactly once,
in order. -/
theorem visits_of_run {dummy : Ptr} {ops : List (Op κ ν)} (hf : Throughout (apply C) Fresh (init dummy) ops)
    (hs : execAll (apply C) (init dummy) ops = .ok s) : ∃ visited, s.Visits C visited := by
  obtain ⟨x, hx⟩ := (tracks_init dummy).execAll hf hs
  exact ⟨_, hx.visits⟩

theorem visits_sampleOps : ∃ s : AssocLedger Nat Nat,
    execAll (apply (Comparator.by_ id)) (init 1) sampleOps = .ok s ∧ ∃ visited, s.Visits (Comparator.by_ id) visited := by
  have hf : Throughout (apply (Comparator.by_ id)) Fresh (init 1) sampleOps := by decide +kernel
  have hok : (execAll (apply (Comparator.by_ id)) (init 1) sampleOps).isOk = true := by decide +kernel
  obtain ⟨s, hs⟩ := Except.isOk_iff.mp hok
  exact ⟨s, hs, visits_of_run hf hs⟩

end AssocLedger

end FlexRic.Ds
