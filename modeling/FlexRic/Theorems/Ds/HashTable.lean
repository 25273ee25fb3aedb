import FlexRic.Ds.AssocHtOpen

/-! # What a hash table keeps

Between the slot where the hash of a key points to and the slot of its entry all slots are dirty, so that a search for
the key gets there; and a clean slot ends every other search. -/

namespace FlexRic.Ds.AssocHtOpen
open Probing

variable {K : HtKeys} {β : Type} {arr : List (HEntry K β)} {cap i : Nat} {t : AssocHtOpen K β} {key : K.Key}
  {e e' : HEntry K β} {kv : K.Key × β}

/-- The key and the value of a slot that has an entry. -/
def live (e : HEntry K β) : Option (K.Key × β) := if e.hasValue = true then e.kv else none

/-- The entries of the array. -/
def pairs (arr : List (HEntry K β)) : List (K.Key × β) := arr.filterMap live

/-- The keys are not equal. -/
def Apart (p q : K.Key × β) : Prop := K.keyEq p.1 q.1 = false

def DirtyAt (arr : List (HEntry K β)) (i : Nat) : Prop := ∃ e, arr[i]? = some e ∧ e.isDirty = true

/-- A slot with an entry is dirty, and has its key with the hash of it. -/
def Good (e : HEntry K β) : Prop :=
  e.hasValue = true → e.isDirty = true ∧ ∃ kv, e.kv = some kv ∧ e.hash = K.hashFunc kv.1

structure Table (arr : List (HEntry K β)) (cap : Nat) : Prop where
  length : arr.length = cap
  good : ∀ e ∈ arr, Good e
  distinct : (pairs arr).Pairwise Apart
  chain : ∀ i e kv, arr[i]? = some e → live e = some kv → Before (DirtyAt arr) cap (K.hashFunc kv.1 % cap) i

/-! ### Keys -/

theorem keyEq_comm (a b : K.Key) : K.keyEq a b = K.keyEq b a := by
  rw [Bool.eq_iff_iff]
  exact ⟨K.symm a b, K.symm b a⟩

theorem keyEq_congr {a b : K.Key} (h : K.keyEq a b = true) (c : K.Key) : K.keyEq a c = K.keyEq b c := by
  rw [Bool.eq_iff_iff]
  exact ⟨K.trans b a c (K.symm a b h), K.trans a b c h⟩

/-- Equal keys hash alike. -/
theorem hashFunc_eq {a b : K.Key} (h : K.keyEq a b = true) : K.hashFunc a = K.hashFunc b := by
  rw [HtKeys.hashFunc, HtKeys.hashFunc, K.alike a b h]

theorem Apart.symm {p q : K.Key × β} (h : Apart p q) : Apart q p := (keyEq_comm q.1 p.1).trans h

/-! ### Slots -/

theorem Good.of_live (h : Good e) (hl : live e = some kv) :
    e.hasValue = true ∧ e.isDirty = true ∧ e.kv = some kv ∧ e.hash = K.hashFunc kv.1 := by
  unfold live at hl
  split at hl
  · next hv =>
    obtain ⟨hd, kv', hkv, hh⟩ := h hv
    obtain rfl := Option.some.inj (hl.symm.trans hkv)
    exact ⟨hv, hd, hl, hh⟩
  · cases hl

theorem Good.live_eq_none (h : Good e) (hd : e.isDirty = false) : live e = none := by
  unfold live
  split
  · next hv =>
    rw [(h hv).1] at hd
    cases hd
  · rfl

theorem good_zeroed : Good (zeroed : HEntry K β) := by
  intro hv
  cases hv

theorem mem_pairs : kv ∈ pairs arr ↔ ∃ (i : Nat) (e : HEntry K β), arr[i]? = some e ∧ live e = some kv := by
  rw [pairs, List.mem_filterMap]
  constructor
  · rintro ⟨e, he, hl⟩
    obtain ⟨i, hi⟩ := List.mem_iff_getElem?.mp he
    exact ⟨i, e, hi, hl⟩
  · rintro ⟨i, e, hi, hl⟩
    exact ⟨e, List.mem_of_getElem? hi, hl⟩

/-- A table has no more entries than dirty slots. -/
theorem length_pairs_le (h : ∀ e ∈ arr, Good e) : (pairs arr).length ≤ arr.countP (·.isDirty) := by
  rw [pairs, List.length_filterMap_eq_countP]
  refine List.countP_mono_left fun e he hs => ?_
  obtain ⟨kv, hl⟩ := Option.isSome_iff_exists.mp hs
  exact ((h e he).of_live hl).2.1

theorem exists_clean (h : arr.countP (·.isDirty) < arr.length) : ∃ i, i < arr.length ∧ ¬DirtyAt arr i := by
  obtain ⟨e, he, hd⟩ : ∃ e ∈ arr, ¬e.isDirty = true := by
    by_contra hn
    exact h.ne (List.countP_eq_length.mpr fun e he => not_not.mp fun hd => hn ⟨e, he, hd⟩)
  obtain ⟨i, hi, rfl⟩ := List.mem_iff_getElem.mp he
  refine ⟨i, hi, ?_⟩
  rintro ⟨e, he, hd'⟩
  obtain rfl := Option.some.inj ((List.getElem?_eq_getElem hi).symm.trans he)
  exact hd hd'

theorem countP_set (h : arr[i]? = some e) (hd : e'.isDirty = true) :
    (arr.set i e').countP (·.isDirty) = arr.countP (·.isDirty) + if e.isDirty = true then 0 else 1 := by
  rw [(perm_set h e').countP_eq, (perm_eraseIdx h).countP_eq, List.countP_cons, List.countP_cons, if_pos hd]
  split <;> omega

theorem DirtyAt.set (hd : e'.isDirty = true) {j : Nat} (h : DirtyAt arr j) (i : Nat) : DirtyAt (arr.set i e') j := by
  obtain ⟨e, he, hde⟩ := h
  by_cases hij : i = j
  · subst hij
    exact ⟨e', List.getElem?_set_self (List.getElem?_eq_some_iff.mp he).1, hd⟩
  · exact ⟨e, by rwa [List.getElem?_set_ne hij], hde⟩

/-! ### Searches -/

/-- The entry of the key is at `i`. -/
structure Hit (arr : List (HEntry K β)) (key : K.Key) (i : Nat) (e : HEntry K β) (kv : K.Key × β) : Prop where
  at_ : arr[i]? = some e
  entry : live e = some kv
  eq : K.keyEq key kv.1 = true

/-- There is no entry of the key, and the first clean slot for it is at `i`. -/
structure Miss (arr : List (HEntry K β)) (cap : Nat) (key : K.Key) (i : Nat) (e : HEntry K β) : Prop where
  at_ : arr[i]? = some e
  clean : e.isDirty = false
  before : Before (DirtyAt arr) cap (K.hashFunc key % cap) i
  absent : ∀ p ∈ pairs arr, K.keyEq key p.1 = false

theorem holdsKey_eq (h : Good e) : holdsKey e key = .ok ((live e).any fun kv => K.keyEq key kv.1) := by
  unfold holdsKey live
  split
  · next hv =>
    obtain ⟨-, kv, hkv, -⟩ := h hv
    simp [kvOf, hkv]
  · rfl

/-- A slot where a search for the key ends. -/
def Stops (arr : List (HEntry K β)) (key : K.Key) (i : Nat) : Prop :=
  ¬DirtyAt arr i ∨ ∃ e kv, Hit arr key i e kv

theorem Table.not_stops (h : Table arr cap) (hs : ¬Stops arr key i) :
    ∃ e, arr[i]? = some e ∧ e.isDirty = true ∧ holdsKey e key = .ok false := by
  obtain ⟨hd, hh⟩ := not_or.mp hs
  obtain ⟨e, he, hde⟩ := not_not.mp hd
  refine ⟨e, he, hde, ?_⟩
  rw [holdsKey_eq (h.good e (List.mem_of_getElem? he))]
  cases hl : live e with
  | none => rfl
  | some kv =>
    have hk : ¬K.keyEq key kv.1 = true := fun hk => hh ⟨e, kv, he, hl, hk⟩
    rw [Option.any_some, Bool.eq_false_iff.mpr hk]

/-- Where the first stop of a search is a clean slot, no entry of the key is behind it. -/
theorem Table.none_of_clean (h : Table arr cap) {d : Nat} (hd : d < cap)
    (hclean : ¬DirtyAt arr (slot cap (K.hashFunc key % cap) d))
    (hfirst : ∀ j, j < d → ¬Stops arr key (slot cap (K.hashFunc key % cap) j)) :
    ∀ p ∈ pairs arr, K.keyEq key p.1 = false := by
  intro p hp
  by_contra hk
  rw [Bool.not_eq_false] at hk
  obtain ⟨i, e, he, hl⟩ := mem_pairs.mp hp
  obtain ⟨d', hd', rfl, hb⟩ := h.chain i e p he hl
  rw [← hashFunc_eq hk] at he hb
  have hdirty := ((h.good e (List.mem_of_getElem? he)).of_live hl).2.1
  rcases Nat.lt_trichotomy d' d with hlt | rfl | hgt
  · exact hfirst d' hlt (.inr ⟨e, p, he, hl, hk⟩)
  · exact hclean ⟨e, he, hdirty⟩
  · exact hclean (hb d hgt)

theorem Table.search (h : Table t.arr t.cap) (hfree : t.arr.countP (·.isDirty) < t.cap) (key : K.Key) :
    (∃ i e kv, Hit t.arr key i e kv ∧ findIdx t.arr t.cap key (K.hashFunc key) = .ok i ∧
      t.findEntry key = .ok (some i)) ∨
    ∃ i e, Miss t.arr t.cap key i e ∧ findIdx t.arr t.cap key (K.hashFunc key) = .ok i ∧ t.findEntry key = .ok none := by
  have hcap : 0 < t.cap := Nat.zero_lt_of_lt hfree
  have hstart : K.hashFunc key % t.cap < t.cap := Nat.mod_lt _ hcap
  obtain ⟨d, hd, hstop, hfirst⟩ : ∃ d, d < t.cap ∧ Stops t.arr key (slot t.cap (K.hashFunc key % t.cap) d) ∧
      ∀ j, j < d → ¬Stops t.arr key (slot t.cap (K.hashFunc key % t.cap) j) := by
    obtain ⟨i, hi, hc⟩ := exists_clean (h.length.symm ▸ hfree)
    exact exists_first hstart ⟨i, h.length ▸ hi, .inl hc⟩
  have hidx : startIdx (K.hashFunc key) t.cap = .ok (K.hashFunc key % t.cap) := if_neg hcap.ne'
  obtain ⟨e, he⟩ : ∃ e, t.arr[slot t.cap (K.hashFunc key % t.cap) d]? = some e :=
    ⟨_, List.getElem?_eq_getElem (h.length.symm ▸ slot_lt hstart)⟩
  have hgood := h.good e (List.mem_of_getElem? he)
  rw [findIdx, findEntry, hidx, Except.ok_bind, Except.ok_bind]
  by_cases hdirty : e.isDirty = true
  · obtain ⟨e', kv, hhit⟩ := hstop.resolve_left (not_not_intro ⟨e, he, hdirty⟩)
    obtain rfl := Option.some.inj (he.symm.trans hhit.at_)
    have hholds : holdsKey e key = .ok true := by rw [holdsKey_eq hgood, hhit.entry, Option.any_some, hhit.eq]
    refine .inl ⟨_, e, kv, hhit, probe_eq _ hstart hd ?_ ?_, probe_eq _ hstart hd ?_ ?_⟩
    · simp [entryAt, he, hdirty, hholds]
    · intro j hj
      obtain ⟨e', he', hd', hh'⟩ := h.not_stops (hfirst j hj)
      simp [entryAt, he', hd', hh']
    · simp [entryAt, he, hdirty, hholds]
    · intro j hj
      obtain ⟨e', he', hd', hh'⟩ := h.not_stops (hfirst j hj)
      simp [entryAt, he', hd', hh']
  · have hclean : ¬DirtyAt t.arr (slot t.cap (K.hashFunc key % t.cap) d) := by
      rintro ⟨e', he', hd'⟩
      obtain rfl := Option.some.inj (he.symm.trans he')
      exact hdirty hd'
    have hvalue : e.hasValue = false := Bool.eq_false_iff.mpr fun hv => hdirty (hgood hv).1
    have hbefore : Before (DirtyAt t.arr) t.cap (K.hashFunc key % t.cap) (slot t.cap (K.hashFunc key % t.cap) d) :=
      ⟨d, hd, rfl, fun j hj => not_not.mp fun hn => hfirst j hj (.inl hn)⟩
    refine .inr ⟨_, e, ⟨he, Bool.eq_false_iff.mpr hdirty, hbefore, h.none_of_clean hd hclean hfirst⟩,
      probe_eq _ hstart hd ?_ ?_, probe_eq _ hstart hd ?_ ?_⟩
    · simp [entryAt, he, hdirty]
    · intro j hj
      obtain ⟨e', he', hd', hh'⟩ := h.not_stops (hfirst j hj)
      simp [entryAt, he', hd', hh']
    · simp [entryAt, he, hdirty, hvalue, require]
    · intro j hj
      obtain ⟨e', he', hd', hh'⟩ := h.not_stops (hfirst j hj)
      simp [entryAt, he', hd', hh']

/-! ### What becomes of a slot -/

theorem pairs_set (h : arr[i]? = some e) (e' : HEntry K β) :
    (pairs (arr.set i e')).Perm ((live e').toList ++ pairs (arr.eraseIdx i)) := filterMap_set_eraseIdx h e' live

theorem pairs_eraseIdx (h : arr[i]? = some e) : (pairs arr).Perm ((live e).toList ++ pairs (arr.eraseIdx i)) :=
  filterMap_eraseIdx h live

theorem Table.set (h : Table arr cap) (hd : e'.isDirty = true) (hg : Good e')
    (hc : ∀ kv, live e' = some kv → Before (DirtyAt arr) cap (K.hashFunc kv.1 % cap) i)
    (hp : (pairs (arr.set i e')).Pairwise Apart) : Table (arr.set i e') cap where
  length := by rw [List.length_set, h.length]
  good e he := by
    rcases List.mem_or_eq_of_mem_set he with he | rfl
    · exact h.good e he
    · exact hg
  distinct := hp
  chain j e kv he hl := by
    refine Before.mono (P := DirtyAt arr) ?_ fun j hj => DirtyAt.set hd hj i
    by_cases hij : i = j
    · subst hij
      have hi : i < arr.length := by
        rw [← List.length_set]
        exact (List.getElem?_eq_some_iff.mp he).1
      rw [List.getElem?_set_self hi] at he
      obtain rfl := Option.some.inj he
      exact hc kv hl
    · rw [List.getElem?_set_ne hij] at he
      exact h.chain j e kv he hl

/-- An entry is put into the clean slot for its key. -/
theorem Table.put (h : Table arr cap) (kv : K.Key × β) (e' : HEntry K β) (hm : Miss arr cap kv.1 i e)
    (hd : e'.isDirty = true) (hg : Good e') (hl : live e' = some kv) :
    Table (arr.set i e') cap ∧ (pairs (arr.set i e')).Perm (kv :: pairs arr) ∧
      (arr.set i e').countP (·.isDirty) = arr.countP (·.isDirty) + 1 := by
  have hnone : live e = none := (h.good e (List.mem_of_getElem? hm.at_)).live_eq_none hm.clean
  have hrest := pairs_eraseIdx hm.at_
  have hset := pairs_set hm.at_ e'
  rw [hnone, Option.toList_none, List.nil_append] at hrest
  rw [hl, Option.toList_some, List.singleton_append] at hset
  have hperm : (pairs (arr.set i e')).Perm (kv :: pairs arr) := hset.trans (hrest.symm.cons kv)
  refine ⟨h.set hd hg (fun kv' hl' => ?_) ?_, hperm, ?_⟩
  · obtain rfl := Option.some.inj (hl.symm.trans hl')
    exact hm.before
  · exact (List.pairwise_cons.mpr ⟨hm.absent, h.distinct⟩).perm hperm.symm Apart.symm
  · rw [countP_set hm.at_ hd, hm.clean, if_neg Bool.false_ne_true]

/-- The slot of an entry gets the same key with another value, or is left without an entry. -/
theorem Table.update (h : Table arr cap) (e' : HEntry K β) (hh : Hit arr key i e kv) (hd : e'.isDirty = true)
    (hg : Good e') (hl : ∀ kv', live e' = some kv' → kv'.1 = kv.1) :
    Table (arr.set i e') cap ∧ (arr.set i e').countP (·.isDirty) = arr.countP (·.isDirty) ∧
      ∃ rest, (pairs arr).Perm (kv :: rest) ∧ (pairs (arr.set i e')).Perm ((live e').toList ++ rest) := by
  have hrest := pairs_eraseIdx hh.at_
  have hset := pairs_set hh.at_ e'
  rw [hh.entry, Option.toList_some, List.singleton_append] at hrest
  have hpw := h.distinct.perm hrest Apart.symm
  obtain ⟨hapart, hothers⟩ := List.pairwise_cons.mp hpw
  refine ⟨h.set hd hg (fun kv' hl' => ?_) ?_, ?_, _, hrest, hset⟩
  · rw [hl kv' hl']
    exact h.chain i e kv hh.at_ hh.entry
  · refine List.Pairwise.perm ?_ hset.symm Apart.symm
    cases hlive : live e' with
    | none => simpa using hothers
    | some kv' =>
      rw [Option.toList_some, List.singleton_append, List.pairwise_cons]
      refine ⟨fun p hp => ?_, hothers⟩
      rw [Apart, hl kv' hlive]
      exact hapart p hp
  · rw [countP_set hh.at_ hd, if_pos ((h.good e (List.mem_of_getElem? hh.at_)).of_live hh.entry).2.1, Nat.add_zero]

/-! ### The table is hashed anew -/

/-- The new table, when the entries of these slots of the old one are in it. -/
structure Rehashed (sz cap : Nat) (done : List (HEntry K β)) (t : AssocHtOpen K β) : Prop where
  sz : t.sz = sz
  cap : t.cap = cap
  table : Table t.arr t.cap
  perm : (pairs t.arr).Perm (pairs done)
  numDirty : t.numDirty = (pairs done).length
  dirty : t.arr.countP (·.isDirty) = t.numDirty

theorem pairs_append (a b : List (HEntry K β)) : pairs (a ++ b) = pairs a ++ pairs b := List.filterMap_append

theorem rehashed_nil (sz cap : Nat) : Rehashed sz cap [] (⟨List.replicate cap zeroed, sz, cap, 0⟩ : AssocHtOpen K β) := by
  have hnone : pairs (List.replicate cap (zeroed : HEntry K β)) = [] := by
    rw [pairs, List.filterMap_eq_nil_iff]
    intro e he
    rw [List.eq_of_mem_replicate he]
    rfl
  refine ⟨rfl, rfl, ⟨List.length_replicate, ?_, ?_, ?_⟩, ?_, rfl, ?_⟩
  · intro e he
    rw [List.eq_of_mem_replicate he]
    exact good_zeroed
  · rw [hnone]
    exact .nil
  · intro i e kv he hl
    rw [List.eq_of_mem_replicate (List.mem_of_getElem? he)] at hl
    cases hl
  · rw [hnone]
    exact .refl _
  · refine List.countP_eq_zero.mpr fun e he => ?_
    rw [List.eq_of_mem_replicate he]
    exact Bool.false_ne_true

theorem Rehashed.entry {sz : Nat} {done : List (HEntry K β)} (h : Rehashed sz cap done t) (hg : Good e)
    (hp : (pairs (done ++ [e])).Pairwise Apart) (hlen : (pairs (done ++ [e])).length ≤ cap)
    (hcap : cap < 4294967296) : ∃ t', rehashEntry t e = .ok t' ∧ Rehashed sz cap (done ++ [e]) t' := by
  rw [pairs_append] at hp hlen
  by_cases hv : e.hasValue = true
  · obtain ⟨hd, kv, hkv, hhash⟩ := hg hv
    have hl : live e = some kv := (if_pos hv).trans hkv
    have hone : pairs [e] = [kv] := by simp [pairs, hl]
    rw [hone] at hp hlen
    have hfree : t.arr.countP (·.isDirty) < t.cap := by
      rw [h.dirty, h.numDirty, h.cap]
      rw [List.length_append, List.length_singleton] at hlen
      omega
    have hapart : ∀ p ∈ pairs t.arr, Apart p kv := fun p hp' =>
      (List.pairwise_append.mp hp).2.2 p (h.perm.mem_iff.mp hp') kv (List.mem_singleton_self kv)
    rcases h.table.search hfree kv.1 with ⟨i, e₁, kv₁, hhit, -, -⟩ | ⟨i, e₁, hmiss, hfind, -⟩
    · have hc := hapart kv₁ (mem_pairs.mpr ⟨i, e₁, hhit.at_, hhit.entry⟩)
      rw [Apart, keyEq_comm, hhit.eq] at hc
      cases hc
    · obtain ⟨htable, hperm, hcount⟩ := h.table.put _ _ hmiss hd hg hl
      have hbound : uint32 (t.numDirty + 1) = t.numDirty + 1 := by
        rw [List.length_append, List.length_singleton] at hlen
        have hn := h.numDirty
        exact uint32_of_lt (by omega)
      refine ⟨{ t with arr := t.arr.set i e, numDirty := t.numDirty + 1 }, ?_, h.sz, h.cap, htable, ?_, ?_, ?_⟩
      · rw [rehashEntry, if_pos hv, require_of hd]
        simp [kvOf, hkv, hhash, hfind, hbound]
      · rw [pairs_append, hone]
        exact (hperm.trans (h.perm.cons kv)).trans (List.perm_append_singleton kv _).symm
      · rw [pairs_append, hone, List.length_append, List.length_singleton, ← h.numDirty]
      · rw [hcount, h.dirty]
  · have hone : pairs [e] = [] := by simp [pairs, live, hv]
    have hdone : pairs (done ++ [e]) = pairs done := by rw [pairs_append, hone, List.append_nil]
    exact ⟨t, if_neg hv, h.sz, h.cap, h.table, hdone ▸ h.perm, hdone ▸ h.numDirty, h.dirty⟩

theorem Rehashed.rest {sz : Nat} (rest : List (HEntry K β)) {done : List (HEntry K β)} (h : Rehashed sz cap done t)
    (hg : ∀ e ∈ rest, Good e) (hp : (pairs (done ++ rest)).Pairwise Apart)
    (hlen : (pairs (done ++ rest)).length ≤ cap) (hcap : cap < 4294967296) :
    ∃ t', rest.foldlM rehashEntry t = .ok t' ∧ Rehashed sz cap (done ++ rest) t' := by
  induction rest generalizing done t with
  | nil => exact ⟨t, rfl, by rwa [List.append_nil]⟩
  | cons e rest ih =>
    have hsplit : done ++ e :: rest = (done ++ [e]) ++ rest := List.append_cons done e rest
    rw [hsplit] at hp hlen ⊢
    have hp' := hp
    have hlen' := hlen
    rw [pairs_append] at hp' hlen'
    rw [List.length_append] at hlen'
    obtain ⟨t₁, ht₁, h₁⟩ := h.entry (hg e List.mem_cons_self) (List.pairwise_append.mp hp').1 (by omega) hcap
    obtain ⟨t₂, ht₂, h₂⟩ := ih h₁ (fun e he => hg e (List.mem_cons_of_mem _ he)) hp hlen
    exact ⟨t₂, by rw [List.foldlM_cons, ht₁, Except.ok_bind, ht₂], h₂⟩

/-- An array with room for them gets all entries, and they are what is dirty in it. -/
theorem Table.rehash (h : Table t.arr t.cap) (hlen : (pairs t.arr).length ≤ cap) (hcap : cap < 4294967296) :
    ∃ t', rehashTable t cap = .ok t' ∧ Rehashed t.sz cap t.arr t' := by
  have hr := (rehashed_nil t.sz cap).rest t.arr h.good (by simpa using h.distinct) (by simpa using hlen) hcap
  simpa [rehashTable] using hr

end FlexRic.Ds.AssocHtOpen
