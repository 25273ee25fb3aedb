import Mathlib.Data.List.Forall2
import FlexRic.Lib.Sequence
import FlexRic.Theorems.Ds.AssocExtract
import FlexRic.Theorems.Ds.AssocInsert

/-! # Runs of the red-black tree

A ledger of what was inserted and what was extracted goes along with the nodes in memory. Every operation of a run
goes through and leaves a red-black tree whose entries are those inserted and not extracted. -/

namespace FlexRic.Ds

variable {κ ν : Type}

/-- The tree, the entries that were inserted, and the entries that were extracted: the keys asked for with the values
that were returned. -/
structure AssocLedger (κ ν : Type) where
  tree : AssocRbHeap κ ν
  inserted : List (κ × ν)
  extracted : List (κ × ν)

namespace AssocLedger

inductive Op (κ ν : Type)
  /-- `assoc_rb_tree_insert`; `malloc` gives the address `node`. -/
  | insert (node : Ptr) (key : κ) (value : ν)
  /-- `assoc_rb_tree_extract` -/
  | extract (key : κ)

/-- `assoc_rb_tree_init`; `malloc` gives the address `dummy`. -/
def init (dummy : Ptr) : AssocLedger κ ν := ⟨.init dummy, [], []⟩

def apply (C : Comparator κ) (s : AssocLedger κ ν) : Op κ ν → Except String (AssocLedger κ ν × Option ν)
  | .insert node key value => do
    let (_, tree) ← AssocRbHeap.insert C.cmp node key value s.tree
    return ({ s with tree, inserted := (key, value) :: s.inserted }, none)
  | .extract key => do
    let (value, tree) ← AssocRbHeap.extract C.cmp key s.tree
    return ({ s with tree, extracted := (key, value) :: s.extracted }, some value)

/-- What is asked for: a new node is where nothing is allocated, and a key that is extracted was inserted more often
than it was extracted. -/
def Proper [DecidableEq κ] (s : AssocLedger κ ν) : Op κ ν → Prop
  | .insert node _ _ => node ≠ 0 ∧ s.tree.node node = none
  | .extract key => (s.extracted.map Prod.fst).count key < (s.inserted.map Prod.fst).count key

instance [DecidableEq κ] (s : AssocLedger κ ν) : ∀ op, Decidable (s.Proper op)
  | .insert node _ _ => inferInstanceAs (Decidable (node ≠ 0 ∧ s.tree.node node = none))
  | .extract key =>
    inferInstanceAs (Decidable ((s.extracted.map Prod.fst).count key < (s.inserted.map Prod.fst).count key))

/-- The pointers make the tree `x`, each node with its parent. It is in key order, its root is black, no red node has
a red child and every path has the same number of black nodes. It has as many nodes as `size` says, and they hold the
entries that were inserted and not extracted. -/
structure IsRedBlack (C : Comparator κ) (s : AssocLedger κ ν) (x : Shape κ ν) : Prop where
  focus : s.tree.Focus x []
  sorted : x.Sorted C
  balanced : ∃ n, x.Balanced .black n
  size : s.tree.size = x.size
  entries : s.inserted.Perm (s.extracted ++ x.toList.map fun e => (e.1, e.2.2))

/-- The operation goes through, and the tree is a red-black tree after it. -/
def GoesThrough (C : Comparator κ) (s : AssocLedger κ ν) (op : Op κ ν) : Prop :=
  ∃ t out, apply C s op = .ok (t, out) ∧ ∃ x, t.IsRedBlack C x

/-- The list has the entries that were inserted and not extracted. For each extraction the entry that went has a key that
compares like the one asked for, and the value that was returned. -/
def Remaining (C : Comparator κ) (s : AssocLedger κ ν) (l : List (κ × ν)) : Prop :=
  ∃ gone, List.Forall₂ (fun e g => C.Same e.1 g.1 ∧ e.2 = g.2) s.extracted gone ∧ s.inserted.Perm (gone ++ l)

/-- What `IsRedBlack` says, for keys that the comparator may not tell apart. -/
structure Tracks (C : Comparator κ) (s : AssocLedger κ ν) (x : Shape κ ν) : Prop where
  focus : s.tree.Focus x []
  sorted : x.Sorted C
  balanced : ∃ n, x.Balanced .black n
  size : s.tree.size = x.size
  entries : s.Remaining C (x.toList.map fun e => (e.1, e.2.2))

variable {C : Comparator κ} {s : AssocLedger κ ν} {x : Shape κ ν}

theorem tracks_init (d : Ptr) : (init d : AssocLedger κ ν).Tracks C .dummy where
  focus := ⟨trivial, rfl, by simp [init, AssocRbHeap.init, Tree.addrs, Tree.pathAddrs], 0, Memory.write_self (fun _ => none) _⟩
  sorted := List.Pairwise.nil
  balanced := ⟨0, .dummy⟩
  size := rfl
  entries := ⟨[], .nil, .refl _⟩

theorem Tracks.insert (h : s.Tracks C x) {node : Ptr} (key : κ) (value : ν) (hn : s.tree.node node = none) :
    ∃ t x', apply C s (.insert node key value) = .ok (t, none) ∧ t.Tracks C x' := by
  obtain ⟨n, hb⟩ := h.balanced
  obtain ⟨x', m, hx, hb'⟩ := Tree.insert_balanced C.cmp key (node, value) hb
  obtain ⟨t, ht, hf, -, hs⟩ := h.focus.insert h.size hn hx
  obtain ⟨A, B, hA, hA', -⟩ := Tree.toList_insert h.sorted hx
  refine ⟨_, x', by simp only [apply, ht]; rfl, hf, h.sorted.insert hx, ⟨m, hb'⟩, ?_, ?_⟩
  · rw [hs, h.size, AssocRbHeap.size_eq_length, AssocRbHeap.size_eq_length, hA, hA']
    simp only [List.length_append, List.length_cons]
    omega
  · obtain ⟨gone, hg, hp⟩ := h.entries
    refine ⟨gone, hg, ?_⟩
    rw [hA] at hp
    rw [hA']
    simp only [List.map_append, List.map_cons, ← List.append_assoc] at hp ⊢
    exact (hp.cons _).trans List.perm_middle.symm

/-- A key that compares like one in the tree is extracted, and another one is not found. -/
theorem Tracks.extract (h : s.Tracks C x) (key : κ) :
    (∃ t v x', apply C s (.extract key) = .ok (t, some v) ∧ t.Tracks C x') ∨
      (∀ e ∈ x.toList, ¬C.Same key e.1) ∧
        apply C s (.extract key) = .error "Trying to extract a key not found in the tree" := by
  obtain ⟨n, hb⟩ := h.balanced
  rcases Tree.extract_balanced C.cmp key hb with ⟨hd, -⟩ | ⟨v, x', m, hx, hb'⟩
  · refine .inr ⟨?_, ?_⟩
    · rcases Tree.findNode_cases h.sorted key [] with ⟨-, hn⟩ | ⟨c, l, k, v, r, hf, -⟩
      · exact hn
      · rw [hf] at hd
        cases hd
    · have hfind := h.focus.findRbTree (C := C) (k := key) (Nat.lt_succ_of_le h.size.ge)
      rw [hd, ← h.focus.root, Tree.ptr_dummy] at hfind
      have herr : AssocRbHeap.extract C.cmp key s.tree = .error "Trying to extract a key not found in the tree" := by
        unfold AssocRbHeap.extract
        rw [Prog.bind_ok _ hfind]
        simp [Prog.assert, Bind.bind, StateT.bind, Except.bind]
      rw [apply, herr]
      rfl
  · obtain ⟨t, ht, hf, -, hs⟩ := h.focus.extract hb h.sorted h.size hx
    obtain ⟨A, k, B, hA, hA', hsame⟩ := Tree.toList_extract h.sorted hx
    refine .inl ⟨_, v.2, x', by simp only [apply, ht]; rfl, hf, h.sorted.extract hx, ⟨m, hb'⟩, ?_, ?_⟩
    · have hsize := h.size
      rw [AssocRbHeap.size_eq_length, hA] at hsize
      rw [AssocRbHeap.size_eq_length, hA']
      simp only [List.length_append, List.length_cons] at hsize ⊢
      omega
    · obtain ⟨gone, hg, hp⟩ := h.entries
      refine ⟨(k, v.2) :: gone, .cons ⟨hsame, rfl⟩ hg, ?_⟩
      rw [hA] at hp
      rw [hA']
      simp only [List.map_append, List.map_cons, ← List.append_assoc] at hp ⊢
      exact hp.trans List.perm_middle

/-- When the comparator tells all keys apart, the keys that were asked for are those that went. -/
theorem Tracks.isRedBlack (hC : C.Strict) (h : s.Tracks C x) : s.IsRedBlack C x where
  focus := h.focus
  sorted := h.sorted
  balanced := h.balanced
  size := h.size
  entries := by
    obtain ⟨gone, hg, hp⟩ := h.entries
    have heq : s.extracted = gone := by
      rw [← List.forall₂_eq_eq_eq]
      exact hg.imp fun e g he => Prod.ext (hC _ _ he.1) he.2
    rw [heq]
    exact hp

theorem IsRedBlack.tracks (h : s.IsRedBlack C x) : s.Tracks C x where
  focus := h.focus
  sorted := h.sorted
  balanced := h.balanced
  size := h.size
  entries := ⟨s.extracted, List.forall₂_same.mpr fun e _ => ⟨Comparator.Same.refl C e.1, rfl⟩, h.entries⟩

theorem IsRedBlack.mem [DecidableEq κ] (h : s.IsRedBlack C x) {key : κ} (hk : s.Proper (.extract key)) :
    ∃ e ∈ x.toList, e.1 = key := by
  have hp := (h.entries.map Prod.fst).count_eq key
  rw [List.map_append, List.count_append, List.map_map] at hp
  have hpos : 0 < (x.toList.map (Prod.fst ∘ fun e => (e.1, e.2.2))).count key := by
    have : (s.extracted.map Prod.fst).count key < (s.inserted.map Prod.fst).count key := hk
    omega
  obtain ⟨e, he, rfl⟩ := List.mem_map.mp (List.count_pos_iff.mp hpos)
  exact ⟨e, he, rfl⟩

theorem IsRedBlack.goesThrough [DecidableEq κ] (hC : C.Strict) (h : s.IsRedBlack C x) {op : Op κ ν} (hp : s.Proper op) :
    GoesThrough C s op := by
  cases op with
  | insert node key value =>
    obtain ⟨t, x', ht, hx⟩ := h.tracks.insert key value hp.2
    exact ⟨t, none, ht, x', hx.isRedBlack hC⟩
  | extract key =>
    obtain ⟨e, he, rfl⟩ := h.mem hp
    rcases h.tracks.extract e.1 with ⟨t, v, x', ht, hx⟩ | ⟨hno, -⟩
    · exact ⟨t, some v, ht, x', hx.isRedBlack hC⟩
    · exact absurd (Comparator.Same.refl C e.1) (hno e he)

/-- Every operation of a run goes through, and leaves a red-black tree whose entries are those inserted and not
extracted. -/
theorem goesThrough_of_run [DecidableEq κ] (hC : C.Strict) {dummy : Ptr} {ops : List (Op κ ν)}
    (hp : Throughout (apply C) Proper (init dummy) ops) : Throughout (apply C) (GoesThrough C) (init dummy) ops := by
  have step : ∀ (s : AssocLedger κ ν) op ops,
      (∃ x, s.IsRedBlack C x) ∧ Throughout (apply C) Proper s (op :: ops) → GoesThrough C s op := by
    rintro s op ops ⟨⟨x, h⟩, hp⟩
    exact h.goesThrough hC hp.1
  refine throughout_of (I := fun s ops => (∃ x, s.IsRedBlack C x) ∧ Throughout (apply C) Proper s ops) step ?_
    ⟨⟨_, (tracks_init dummy).isRedBlack hC⟩, hp⟩
  rintro s op ops t out ⟨hs, hp⟩ ht
  obtain ⟨t', out', ht', hx⟩ := step s op ops ⟨hs, hp⟩
  obtain ⟨rfl, rfl⟩ := Prod.mk.inj (Except.ok.inj (ht.symm.trans ht'))
  exact ⟨hx, hp.2 _ _ ht⟩

/-- Three entries, two of them with one key, and two extractions. -/
def sampleOps : List (Op Nat Nat) :=
  [.insert 2 10 0, .insert 3 20 1, .insert 4 10 2, .extract 20, .extract 10]

theorem goesThrough_sampleOps :
    Throughout (apply (Comparator.by_ id)) (GoesThrough (Comparator.by_ id)) (init 1) sampleOps :=
  goesThrough_of_run (fun _ _ h => Comparator.same_by.mp h) (by decide +kernel)

end AssocLedger

end FlexRic.Ds
