import FlexRic.Theorems.Ds.HashTable

/-! # A hash table is a finite map

As long as no operation finds an array of `2 ^ 31` slots more than half dirty: twice as many slots are none in a
`uint32_t`. -/

namespace FlexRic.Ds.AssocHtOpen

variable {K : HtKeys} {β : Type} {t t₁ : AssocHtOpen K β} {s : Traced K β} {key : K.Key} {v : β} {op : Op K β}
  {ops : List (Op K β)} {l rest : List (K.Key × β)} {kv : K.Key × β}

structure Inv (t : AssocHtOpen K β) : Prop where
  cap : ∃ k, 4 ≤ k ∧ k ≤ 31 ∧ t.cap = 2 ^ k
  table : Table t.arr t.cap
  sz : t.sz = (pairs t.arr).length
  dirty : t.arr.countP (·.isDirty) = t.numDirty
  load : t.numDirty * 2 ≤ t.cap + 2
  few : t.sz < 1073741824

/-- The array is not one of `2 ^ 31` slots of which more than half are dirty. -/
def Roomy (t : AssocHtOpen K β) : Prop := ¬(t.cap = 2147483648 ∧ t.numDirty > 1073741824)

instance (t : AssocHtOpen K β) : Decidable t.Roomy := inferInstanceAs (Decidable ¬(_ ∧ _))

theorem inv_init : (init : AssocHtOpen K β).Inv where
  cap := ⟨4, Nat.le_refl 4, by omega, rfl⟩
  table := (rehashed_nil 0 minSizeHt).table
  sz := rfl
  dirty := rfl
  load := Nat.zero_le _
  few := Nat.zero_lt_succ _

section Resize

theorem Inv.sz_le (h : t.Inv) : t.sz ≤ t.numDirty := by
  rw [h.sz, ← h.dirty]
  exact length_pairs_le h.table.good

theorem Inv.cap_bounds (h : t.Inv) : 16 ≤ t.cap ∧ t.cap ≤ 2147483648 := by
  obtain ⟨k, hk₁, hk₂, hc⟩ := h.cap
  have hlo : 2 ^ 4 ≤ 2 ^ k := Nat.pow_le_pow_right (Nat.zero_lt_succ 1) hk₁
  have hhi : 2 ^ k ≤ 2 ^ 31 := Nat.pow_le_pow_right (Nat.zero_lt_succ 1) hk₂
  rw [hc]
  exact ⟨hlo, hhi⟩

/-- The entries are in an array of another size, and nothing else is dirty. -/
theorem Inv.rehash (h : t.Inv) (cap : Nat) (hcap : ∃ k, 4 ≤ k ∧ k ≤ 31 ∧ cap = 2 ^ k) (hlen : t.sz * 2 ≤ cap) :
    ∃ t₁, rehashTable t cap = .ok t₁ ∧ t₁.Inv ∧ t₁.numDirty * 2 ≤ t₁.cap ∧ (pairs t₁.arr).Perm (pairs t.arr) ∧
      t₁.sz = t.sz ∧ t₁.numDirty = t.sz := by
  have hlt : cap < 4294967296 := by
    obtain ⟨k, -, hk, rfl⟩ := hcap
    exact Nat.pow_lt_pow_right Nat.one_lt_two (Nat.lt_succ_of_le hk)
  have hlen' : (pairs t.arr).length ≤ cap := by
    rw [← h.sz]
    omega
  obtain ⟨t₁, ht, hr⟩ := h.table.rehash hlen' hlt
  have hnum : t₁.numDirty = t.sz := hr.numDirty.trans h.sz.symm
  have hhalf : t₁.numDirty * 2 ≤ t₁.cap := by rw [hnum, hr.cap]; exact hlen
  refine ⟨t₁, ht, ⟨hr.cap ▸ hcap, hr.table, ?_, hr.dirty, by omega, hr.sz ▸ h.few⟩, hhalf, hr.perm, hr.sz, hnum⟩
  rw [hr.sz, h.sz, hr.perm.length_eq]

/-- What the resize step comes to: at most half of the slots are dirty, and the entries are the same. -/
structure Resized (t t₁ : AssocHtOpen K β) : Prop where
  run : t.expandOrShrinkIfNeccesary = .ok t₁
  inv : t₁.Inv
  half : t₁.numDirty * 2 ≤ t₁.cap
  perm : (pairs t₁.arr).Perm (pairs t.arr)
  sz : t₁.sz = t.sz
  numDirty : t₁ = t ∨ t₁.numDirty = t.sz

theorem Inv.checks (h : t.Inv) (hhalf : t.numDirty * 2 ≤ t.cap) :
    (do
      require (uint32 (t.sz * 2) ≤ t.cap) "htab->sz * 2 <= htab->cap"
      require (uint32 (t.numDirty * 2) ≤ t.cap) "htab->num_dirty * 2 <= htab->cap"
      return t : Except String (AssocHtOpen K β)) = .ok t := by
  have hsz := h.sz_le
  have hcap := h.cap_bounds.2
  rw [uint32_of_lt (n := t.sz * 2) (by omega), uint32_of_lt (n := t.numDirty * 2) (by omega),
    require_of (by omega), require_of hhalf]
  rfl

theorem Inv.resize_self (h : t.Inv) (hhalf : t.numDirty * 2 ≤ t.cap) (hfull : ¬(t.sz * 4 < t.cap ∧ t.cap > minSizeHt)) :
    Resized t t := by
  have hload := h.load
  have hcap := h.cap_bounds
  have hsz := h.sz_le
  have hfew := h.few
  refine ⟨?_, h, hhalf, .refl _, rfl, .inl rfl⟩
  rw [expandOrShrinkIfNeccesary, uint32_of_lt (n := t.numDirty * 2) (by omega), uint32_of_lt (n := t.sz * 4) (by omega),
    if_neg (by omega), if_neg hfull]
  exact h.checks hhalf

theorem Inv.resize (h : t.Inv) (hroom : t.Roomy) : ∃ t₁, Resized t t₁ := by
  obtain ⟨k, hk₁, hk₂, hc⟩ := h.cap
  have hbounds := h.cap_bounds
  have hload := h.load
  have hsz := h.sz_le
  have hfew := h.few
  have hdirty₂ : uint32 (t.numDirty * 2) = t.numDirty * 2 := uint32_of_lt (by omega)
  have hsz₄ : uint32 (t.sz * 4) = t.sz * 4 := uint32_of_lt (by omega)
  by_cases hexp : t.numDirty * 2 > t.cap
  · have hk : k ≤ 30 := by
      by_contra hk
      obtain rfl : k = 31 := by omega
      exact hroom ⟨hc, by omega⟩
    have hlt : 2 ^ k ≤ 2 ^ 30 := Nat.pow_le_pow_right (Nat.zero_lt_succ 1) hk
    have hcap₂ : uint32 (t.cap * 2) = t.cap * 2 := uint32_of_lt (by omega)
    obtain ⟨t₁, ht, hinv, hhalf, hperm, hs, hnum⟩ :=
      h.rehash (t.cap * 2) ⟨k + 1, by omega, by omega, by rw [hc, Nat.pow_succ]⟩ (by omega)
    refine ⟨t₁, ?_, hinv, hhalf, hperm, hs, .inr hnum⟩
    rw [expandOrShrinkIfNeccesary, hdirty₂, if_pos hexp, hcap₂, ht]
    exact hinv.checks hhalf
  · by_cases hshr : t.sz * 4 < t.cap ∧ t.cap > minSizeHt
    · have hk : 5 ≤ k := by
        have hgt : 2 ^ 4 < 2 ^ k := hc ▸ hshr.2
        exact (Nat.pow_lt_pow_iff_right Nat.one_lt_two).mp hgt
      have hhalved : t.cap / 2 = 2 ^ (k - 1) := by
        rw [hc, Nat.div_eq_iff_eq_mul_left Nat.two_pos (dvd_pow_self 2 (by omega)), ← Nat.pow_succ]
        congr 1
        omega
      obtain ⟨t₁, ht, hinv, hhalf, hperm, hs, hnum⟩ :=
        h.rehash (t.cap / 2) ⟨k - 1, by omega, by omega, hhalved⟩ (by omega)
      refine ⟨t₁, ?_, hinv, hhalf, hperm, hs, .inr hnum⟩
      rw [expandOrShrinkIfNeccesary, hdirty₂, hsz₄, if_neg hexp, if_pos hshr, ht]
      exact hinv.checks hhalf
    · exact ⟨t, h.resize_self (by omega) hshr⟩

/-- An entry cannot be put into an array without slots. -/
theorem foldlM_rehashEntry_error (l : List (HEntry K β)) (hg : ∀ e ∈ l, Good e) (hne : pairs l ≠ []) (hcap : t.cap = 0) :
    l.foldlM rehashEntry t = .error "division by zero" := by
  induction l with
  | nil => exact absurd rfl hne
  | cons e l ih =>
    rw [List.foldlM_cons]
    by_cases hv : e.hasValue = true
    · obtain ⟨hd, kv, hkv, -⟩ := hg e List.mem_cons_self hv
      simp [rehashEntry, hv, hd, hkv, kvOf, require, findIdx, startIdx, hcap]
    · have hrest : pairs (e :: l) = pairs l := by simp [pairs, live, hv]
      rw [rehashEntry, if_neg hv, Except.pure_eq, Except.ok_bind]
      exact ih (fun e he => hg e (List.mem_cons_of_mem _ he)) (hrest ▸ hne)

/-- More than half of `2 ^ 31` slots are dirty: the array that comes next has no slots. -/
theorem Inv.resize_fails (h : t.Inv) (hroom : ¬t.Roomy) (hsz : 0 < t.sz) :
    t.expandOrShrinkIfNeccesary = .error "division by zero" := by
  obtain ⟨hcap, hdirty⟩ := not_not.mp hroom
  have hload := h.load
  have hdirty₂ : uint32 (t.numDirty * 2) = t.numDirty * 2 := uint32_of_lt (by omega)
  have hcap₂ : uint32 (t.cap * 2) = 0 := by rw [hcap]; rfl
  have hne : pairs t.arr ≠ [] := List.ne_nil_of_length_pos (h.sz ▸ hsz)
  rw [expandOrShrinkIfNeccesary, hdirty₂, if_pos (by omega), hcap₂, rehashTable,
    foldlM_rehashEntry_error t.arr h.table.good hne rfl]
  rfl

end Resize

/-! ### Operations -/

section Operations

theorem Inv.free (h : t.Inv) (hhalf : t.numDirty * 2 ≤ t.cap) : t.arr.countP (·.isDirty) < t.cap := by
  have hcap := h.cap_bounds.1
  rw [h.dirty]
  omega

/-- The entry of the key has another value. -/
def Replaced (t t' : AssocHtOpen K β) (key : K.Key) (v : β) : Prop :=
  ∃ kv rest, K.keyEq key kv.1 = true ∧ (pairs t.arr).Perm (kv :: rest) ∧ (pairs t'.arr).Perm ((kv.1, v) :: rest)

/-- There is an entry more. -/
def Added (t t' : AssocHtOpen K β) (key : K.Key) (v : β) : Prop :=
  (∀ p ∈ pairs t.arr, K.keyEq key p.1 = false) ∧ (pairs t'.arr).Perm ((key, v) :: pairs t.arr)

/-- The entry of the key is not there any more. -/
def Removed (t t' : AssocHtOpen K β) (key : K.Key) : Prop :=
  ∃ kv rest, K.keyEq key kv.1 = true ∧ (pairs t.arr).Perm (kv :: rest) ∧ (pairs t'.arr).Perm rest

/-- There is no entry of the key. -/
def Absent (t : AssocHtOpen K β) (key : K.Key) : Prop := ∀ p ∈ pairs t.arr, K.keyEq key p.1 = false

/-- What an insertion comes to, after the resize step. -/
theorem Resized.insert (h : Resized t t₁) (key : K.Key) (hfew : t.Absent key → t.sz + 1 < 1073741824) (v : β) :
    ∃ t', t.insert key v = .ok t' ∧ t'.Inv ∧ t'.cap = t₁.cap ∧
      (Replaced t t' key v ∧ t'.sz = t.sz ∨
        Added t t' key v ∧ t'.sz = t.sz + 1 ∧ t'.numDirty = t₁.numDirty + 1) := by
  have hinv := h.inv
  have hhalf := h.half
  have hdirty₂ : uint32 (t₁.numDirty * 2) ≤ t₁.cap := by
    rwa [uint32_of_lt (n := t₁.numDirty * 2) (by have hcap := hinv.cap_bounds; omega)]
  have hcap := hinv.cap_bounds
  rw [AssocHtOpen.insert, h.run, Except.ok_bind, require_of hdirty₂, Except.ok_bind]
  rcases hinv.table.search (hinv.free hhalf) key with ⟨i, e, kv, hhit, hfind, -⟩ | ⟨i, e, hmiss, hfind, -⟩
  · have hlt : i < t₁.cap := by
      rw [← hinv.table.length]
      exact (List.getElem?_eq_some_iff.mp hhit.at_).1
    obtain ⟨hv, hd, hkv, -⟩ := (hinv.table.good e (List.mem_of_getElem? hhit.at_)).of_live hhit.entry
    have hhash : K.hashFunc key = K.hashFunc kv.1 := hashFunc_eq hhit.eq
    obtain ⟨htable, hcount, rest, hperm, hset⟩ :=
      hinv.table.update ⟨some (kv.1, v), K.hashFunc key, true, true⟩ hhit rfl
        (fun _ => ⟨rfl, _, rfl, hhash⟩) (fun kv' hl => (Option.some.inj hl) ▸ rfl)
    refine ⟨{ t₁ with arr := t₁.arr.set i ⟨some (kv.1, v), K.hashFunc key, true, true⟩ }, ?_, ?_, rfl, .inl ⟨?_, h.sz⟩⟩
    · simp [hfind, hlt, require, entryAt, hhit.at_, hv, hd, kvOf, hkv, hhit.eq]
    · refine ⟨hinv.cap, htable, ?_, hcount.trans hinv.dirty, hinv.load, hinv.few⟩
      exact hinv.sz.trans (hperm.length_eq.trans hset.length_eq.symm)
    · exact ⟨kv, rest, hhit.eq, h.perm.symm.trans hperm, hset⟩
  · have hlt : i < t₁.cap := by
      rw [← hinv.table.length]
      exact (List.getElem?_eq_some_iff.mp hmiss.at_).1
    have hv : e.hasValue = false := by
      have hgood := hinv.table.good e (List.mem_of_getElem? hmiss.at_)
      refine Bool.eq_false_iff.mpr fun hv => ?_
      have hd := (hgood hv).1
      rw [hmiss.clean] at hd
      cases hd
    have habsent : t.Absent key := fun p hp => hmiss.absent p (h.perm.mem_iff.mpr hp)
    have hbound := hfew habsent
    have hsz := h.sz
    have hsz₁ : uint32 (t₁.sz + 1) = t₁.sz + 1 := uint32_of_lt (by omega)
    have hnum₁ : uint32 (t₁.numDirty + 1) = t₁.numDirty + 1 := uint32_of_lt (by omega)
    obtain ⟨htable, hperm, hcount⟩ :=
      hinv.table.put (key, v) ⟨some (key, v), K.hashFunc key, true, true⟩ hmiss rfl
        (fun _ => ⟨rfl, _, rfl, rfl⟩) rfl
    refine ⟨⟨t₁.arr.set i ⟨some (key, v), K.hashFunc key, true, true⟩, t₁.sz + 1, t₁.cap, t₁.numDirty + 1⟩, ?_, ?_, rfl,
      .inr ⟨⟨habsent, hperm.trans (h.perm.cons _)⟩, by rw [h.sz], rfl⟩⟩
    · simp [hfind, hlt, require, entryAt, hmiss.at_, hv, hmiss.clean, hsz₁, hnum₁]
    · refine ⟨hinv.cap, htable, ?_, by rw [hcount, hinv.dirty], by dsimp only; omega, by dsimp only; omega⟩
      rw [hperm.length_eq, List.length_cons, hinv.sz]

/-- What a removal comes to, after the resize step. -/
theorem Resized.remove (h : Resized t t₁) (key : K.Key) :
    ∃ t', t.removeValueHtab key = .ok t' ∧ t'.Inv ∧ t'.cap = t₁.cap ∧ t'.numDirty = t₁.numDirty ∧
      (Removed t t' key ∧ t'.sz + 1 = t.sz ∨ t.Absent key ∧ (pairs t'.arr).Perm (pairs t.arr) ∧ t'.sz = t.sz) := by
  have hinv := h.inv
  have hhalf := h.half
  have hcap := hinv.cap_bounds
  have hdirty₂ : uint32 (t₁.numDirty * 2) ≤ t₁.cap := by rwa [uint32_of_lt (n := t₁.numDirty * 2) (by omega)]
  rw [AssocHtOpen.removeValueHtab, h.run, Except.ok_bind, require_of hdirty₂, Except.ok_bind]
  rcases hinv.table.search (hinv.free hhalf) key with ⟨i, e, kv, hhit, -, hfind⟩ | ⟨i, e, hmiss, -, hfind⟩
  · obtain ⟨hv, hd, hkv, -⟩ := (hinv.table.good e (List.mem_of_getElem? hhit.at_)).of_live hhit.entry
    have hlive : live ({ e with kv := none, hasValue := false } : HEntry K β) = none := rfl
    obtain ⟨htable, hcount, rest, hperm, hset⟩ :=
      hinv.table.update { e with kv := none, hasValue := false } hhit hd
        (fun hv' => by cases hv') (fun kv' hl => by rw [hlive] at hl; cases hl)
    have hlen := hperm.length_eq
    rw [List.length_cons, ← hinv.sz] at hlen
    have hsz₁ : uint32 (t₁.sz + 4294967295) = t₁.sz - 1 := by
      have hfew := hinv.few
      unfold uint32
      omega
    refine ⟨⟨t₁.arr.set i { e with kv := none, hasValue := false }, t₁.sz - 1, t₁.cap, t₁.numDirty⟩, ?_, ?_, rfl, rfl,
      .inl ⟨⟨kv, rest, hhit.eq, h.perm.symm.trans hperm, hset⟩, ?_⟩⟩
    · simp [hfind, require, entryAt, hhit.at_, hv, hd, hsz₁]
    · refine ⟨hinv.cap, htable, ?_, hcount.trans hinv.dirty, hinv.load, ?_⟩
      · rw [hset.length_eq, hlive]
        dsimp only
        rw [Option.toList_none, List.nil_append]
        omega
      · have hfew := hinv.few
        dsimp only
        omega
    · have hsz := h.sz
      dsimp only
      omega
  · refine ⟨t₁, by simp [hfind], hinv, rfl, rfl, .inr ⟨fun p hp => hmiss.absent p (h.perm.mem_iff.mpr hp), h.perm, h.sz⟩⟩

end Operations

/-! ### The finite map -/

section Maps

/-- An entry of the key, with the value, is in the list. -/
def Maps (l : List (K.Key × β)) (key : K.Key) (v : β) : Prop := ∃ p ∈ l, K.keyEq key p.1 = true ∧ p.2 = v

theorem Maps.perm {l' : List (K.Key × β)} (h : l.Perm l') : Maps l key v ↔ Maps l' key v := by
  constructor
  · rintro ⟨p, hp, hpv⟩
    exact ⟨p, h.mem_iff.mp hp, hpv⟩
  · rintro ⟨p, hp, hpv⟩
    exact ⟨p, h.mem_iff.mpr hp, hpv⟩

theorem not_maps {k : K.Key} (h : ∀ p ∈ l, K.keyEq k p.1 = false) (hk : K.keyEq key k = true) : ¬Maps l key v := by
  rintro ⟨p, hp, hpk, -⟩
  rw [keyEq_congr hk, h p hp] at hpk
  cases hpk

theorem maps_cons {k : K.Key} {w : β} (h : ∀ p ∈ l, K.keyEq k p.1 = false) :
    Maps ((k, w) :: l) key v ↔ if K.keyEq key k = true then w = v else Maps l key v := by
  split
  · next hk =>
    constructor
    · rintro ⟨p, hp, hpk, rfl⟩
      rcases List.mem_cons.mp hp with rfl | hp
      · rfl
      · exact absurd ⟨p, hp, hpk, rfl⟩ (not_maps h hk)
    · rintro rfl
      exact ⟨_, List.mem_cons_self, hk, rfl⟩
  · next hk =>
    constructor
    · rintro ⟨p, hp, hpk, hv⟩
      rcases List.mem_cons.mp hp with rfl | hp
      · exact absurd hpk hk
      · exact ⟨p, hp, hpk, hv⟩
    · rintro ⟨p, hp, hpk⟩
      exact ⟨p, List.mem_cons_of_mem _ hp, hpk⟩

/-- What a look-up returns is the value that the entries map the key to. -/
theorem Inv.value (h : t.Inv) (key : K.Key) :
    ∃ r, t.value key = .ok r ∧ ∀ v, r = some v ↔ Maps (pairs t.arr) key v := by
  have hfree : t.arr.countP (·.isDirty) < t.cap := by
    have hload := h.load
    have hcap := h.cap_bounds.1
    rw [h.dirty]
    omega
  rcases h.table.search hfree key with ⟨i, e, kv, hhit, -, hfind⟩ | ⟨i, e, hmiss, -, hfind⟩
  · obtain ⟨-, -, hkv, -⟩ := (h.table.good e (List.mem_of_getElem? hhit.at_)).of_live hhit.entry
    refine ⟨some kv.2, by simp [AssocHtOpen.value, hfind, entryAt, hhit.at_, kvOf, hkv], fun v => ?_⟩
    have hperm := pairs_eraseIdx hhit.at_
    rw [hhit.entry, Option.toList_some, List.singleton_append] at hperm
    have hapart := (List.pairwise_cons.mp (h.table.distinct.perm hperm Apart.symm)).1
    rw [Maps.perm hperm, maps_cons hapart, if_pos hhit.eq, Option.some.injEq]
  · refine ⟨none, by simp [AssocHtOpen.value, hfind], fun v => ?_⟩
    have hn : ¬Maps (pairs t.arr) key v := not_maps hmiss.absent (K.refl key)
    simp [hn]

end Maps

/-! ### Steps and runs -/

/-- Fewer than `2 ^ 30` keys have a value after the operation. -/
def Few (s : Traced K β) (op : Op K β) : Prop := (keysOf (op :: s.history)).length < 1073741824

/-- The keys stay few, and the operation does not find more than half of `2 ^ 31` slots dirty. -/
def Fits (s : Traced K β) (op : Op K β) : Prop := Few s op ∧ s.table.Roomy

instance (s : Traced K β) (op : Op K β) : Decidable (Fits s op) :=
  inferInstanceAs (Decidable ((keysOf (op :: s.history)).length < 1073741824 ∧ s.table.Roomy))

/-- The entries of the table are those that the history makes. -/
structure Kept (s : Traced K β) : Prop where
  inv : s.table.Inv
  keys : ((pairs s.table.arr).map Prod.fst).Perm (keysOf s.history)
  maps : ∀ key v, lastInsert s.history key = some v ↔ Maps (pairs s.table.arr) key v

theorem Kept.size_eq (h : Kept s) : s.table.size = (keysOf s.history).length := by
  rw [size, h.inv.sz, ← h.keys.length_eq, List.length_map]

theorem Kept.absent_iff (h : Kept s) : s.table.Absent key ↔ lastInsert s.history key = none := by
  constructor
  · intro ha
    refine Option.eq_none_iff_forall_not_mem.mpr fun v hv => ?_
    exact not_maps ha (K.refl key) ((h.maps key v).mp hv)
  · intro hn p hp
    by_contra hk
    rw [Bool.not_eq_false] at hk
    have hm := (h.maps key p.2).mpr ⟨p, hp, hk, rfl⟩
    rw [hn] at hm
    cases hm

theorem Kept.insert (h : Kept s) {t' : AssocHtOpen K β} (hinv : t'.Inv)
    (hr : Replaced s.table t' key v ∨ Added s.table t' key v) : Kept ⟨t', .insert key v :: s.history⟩ := by
  rcases hr with ⟨kv, rest, hk, hperm, hperm'⟩ | ⟨ha, hperm'⟩
  · have hapart := (List.pairwise_cons.mp (h.inv.table.distinct.perm hperm Apart.symm)).1
    have hsome : (lastInsert s.history key).isSome = true := by
      rw [Option.isSome_iff_exists]
      exact ⟨kv.2, (h.maps key kv.2).mpr ⟨kv, hperm.mem_iff.mpr List.mem_cons_self, hk, rfl⟩⟩
    refine ⟨hinv, ?_, fun key' v' => ?_⟩
    · rw [keysOf, if_pos hsome]
      exact (hperm'.map Prod.fst).trans ((hperm.map Prod.fst).symm.trans h.keys)
    · rw [lastInsert, Maps.perm hperm', maps_cons hapart, keyEq_comm key' key, keyEq_congr hk, keyEq_comm kv.1 key']
      split
      · exact Option.some.injEq v v' ▸ Iff.rfl
      · next hne => rw [h.maps, Maps.perm hperm, ← Prod.eta kv, maps_cons hapart, if_neg hne]
  · have hnone : ¬(lastInsert s.history key).isSome = true := by
      rw [h.absent_iff.mp ha]
      exact Bool.false_ne_true
    refine ⟨hinv, ?_, fun key' v' => ?_⟩
    · rw [keysOf, if_neg hnone]
      exact (hperm'.map Prod.fst).trans (h.keys.cons key)
    · rw [lastInsert, Maps.perm hperm', maps_cons ha]
      split
      · exact Option.some.injEq v v' ▸ Iff.rfl
      · exact h.maps key' v'

theorem Kept.remove (h : Kept s) {t' : AssocHtOpen K β} (hinv : t'.Inv)
    (hr : Removed s.table t' key ∨ s.table.Absent key ∧ (pairs t'.arr).Perm (pairs s.table.arr)) :
    Kept (⟨t', .remove key :: s.history⟩ : Traced K β) := by
  rcases hr with ⟨kv, rest, hk, hperm, hperm'⟩ | ⟨ha, hperm'⟩
  · have hapart := (List.pairwise_cons.mp (h.inv.table.distinct.perm hperm Apart.symm)).1
    have hother : ∀ p ∈ rest, K.keyEq key p.1 = false := fun p hp => (keyEq_congr hk p.1).trans (hapart p hp)
    refine ⟨hinv, ?_, fun key' v' => ?_⟩
    · have hkeys := ((hperm.map Prod.fst).symm.trans h.keys).filter fun k' => !K.keyEq key k'
      have hrest : (rest.map Prod.fst).filter (fun k' => !K.keyEq key k') = rest.map Prod.fst := by
        refine List.filter_eq_self.mpr fun k' hk' => ?_
        obtain ⟨p, hp, rfl⟩ := List.mem_map.mp hk'
        rw [hother p hp]
        rfl
      rw [List.map_cons, List.filter_cons_of_neg (by simp [hk]), hrest] at hkeys
      exact (hperm'.map Prod.fst).trans hkeys
    · rw [lastInsert, Maps.perm hperm']
      split
      · next heq =>
        have hn : ¬Maps rest key' v' := not_maps hother heq
        simp [hn]
      · next hne =>
        rw [h.maps, Maps.perm hperm, ← Prod.eta kv, maps_cons hapart, if_neg]
        rwa [keyEq_comm, ← keyEq_congr hk, keyEq_comm]
  · refine ⟨hinv, ?_, fun key' v' => ?_⟩
    · have hall : (keysOf s.history).filter (fun k' => !K.keyEq key k') = keysOf s.history := by
        refine List.filter_eq_self.mpr fun k' hk' => ?_
        obtain ⟨p, hp, rfl⟩ := List.mem_map.mp (h.keys.mem_iff.mpr hk')
        rw [ha p hp]
        rfl
      rw [keysOf, hall]
      exact (hperm'.map Prod.fst).trans h.keys
    · rw [lastInsert, Maps.perm hperm']
      split
      · next heq =>
        have hn : ¬Maps (pairs s.table.arr) key' v' := not_maps ha heq
        simp [hn]
      · exact h.maps key' v'

theorem Kept.few (h : Kept s) (hf : Few s (.insert key v)) (ha : s.table.Absent key) : s.table.sz + 1 < 1073741824 := by
  have hsize := h.size_eq
  rw [Few, keysOf, h.absent_iff.mp ha] at hf
  rw [size] at hsize
  simpa [hsize] using hf

theorem Kept.step (h : Kept s) (hf : Fits s op) : ∃ s', s.step op = .next s' ∧ Kept s' := by
  obtain ⟨t₁, hres⟩ := h.inv.resize hf.2
  cases op with
  | insert key v =>
    obtain ⟨t', ht, hinv, -, hcases⟩ := hres.insert key (h.few hf.1) v
    refine ⟨⟨t', .insert key v :: s.history⟩, ?_, h.insert hinv (hcases.imp And.left And.left)⟩
    simp [Traced.step, apply, ht, Outcome.ofExcept]
  | remove key =>
    obtain ⟨t', ht, hinv, -, -, hcases⟩ := hres.remove key
    refine ⟨⟨t', .remove key :: s.history⟩, ?_, h.remove hinv (hcases.imp And.left fun hc => ⟨hc.1, hc.2.1⟩)⟩
    simp [Traced.step, apply, ht, Outcome.ofExcept]

theorem kept_of_run (h : (assocHtOpen K β).Run Fits ops s) : Kept s := by
  refine h.invariant ⟨inv_init, .refl _, fun key v => ?_⟩ fun s op s' hk hf hs => ?_
  · constructor
    · intro hc
      cases hc
    · rintro ⟨p, hp, -⟩
      cases hp
  · obtain ⟨s₁, hs₁, hk₁⟩ := hk.step hf
    obtain rfl := Outcome.next.inj (hs₁.symm.trans hs)
    exact hk₁

/-- The table is the finite map that the operations make. -/
structure MapLaw (s : Traced K β) : Prop where
  value : ∀ key, s.table.value key = .ok (lastInsert s.history key)
  size : s.table.size = (keysOf s.history).length
  apart : (keysOf s.history).Pairwise fun a b => K.keyEq a b = false
  mem_keys : ∀ key, (∃ k ∈ keysOf s.history, K.keyEq key k = true) ↔ (lastInsert s.history key).isSome = true
  search : ∀ key, ∃ i e, findIdx s.table.arr s.table.cap key (K.hashFunc key) = .ok i ∧ s.table.arr[i]? = some e ∧
    (e.isDirty = false ∨ ∃ kv, live e = some kv ∧ K.keyEq key kv.1 = true)
  resize : s.table.Roomy → ∃ t₁, s.table.expandOrShrinkIfNeccesary = .ok t₁ ∧ t₁.numDirty * 2 ≤ t₁.cap ∧
    t₁.arr.countP (·.isDirty) = t₁.numDirty ∧ (pairs t₁.arr).Perm (pairs s.table.arr)
  step : ∀ op, Fits s op → ∃ s', s.step op = .next s'

theorem Kept.mapLaw (h : Kept s) : MapLaw s where
  value key := by
    obtain ⟨r, hr, hv⟩ := h.inv.value key
    rw [hr]
    congr 1
    exact Option.ext fun v => (hv v).trans (h.maps key v).symm
  size := h.size_eq
  apart := by
    have hp : ((pairs s.table.arr).map Prod.fst).Pairwise fun a b => K.keyEq a b = false :=
      List.pairwise_map.mpr h.inv.table.distinct
    exact hp.perm h.keys fun {a b} hab => (keyEq_comm b a).trans hab
  mem_keys key := by
    rw [Option.isSome_iff_exists]
    constructor
    · rintro ⟨k, hk, heq⟩
      obtain ⟨p, hp, rfl⟩ := List.mem_map.mp (h.keys.mem_iff.mpr hk)
      exact ⟨p.2, (h.maps key p.2).mpr ⟨p, hp, heq, rfl⟩⟩
    · rintro ⟨v, hv⟩
      obtain ⟨p, hp, heq, -⟩ := (h.maps key v).mp hv
      exact ⟨p.1, h.keys.mem_iff.mp (List.mem_map_of_mem hp), heq⟩
  search key := by
    have hload := h.inv.load
    have hcap := h.inv.cap_bounds.1
    rcases h.inv.table.search (by rw [h.inv.dirty]; omega) key with ⟨i, e, kv, hhit, hfind, -⟩ | ⟨i, e, hmiss, hfind, -⟩
    · exact ⟨i, e, hfind, hhit.at_, .inr ⟨kv, hhit.entry, hhit.eq⟩⟩
    · exact ⟨i, e, hfind, hmiss.at_, .inl hmiss.clean⟩
  resize hroom := by
    obtain ⟨t₁, hres⟩ := h.inv.resize hroom
    exact ⟨t₁, hres.run, hres.half, hres.inv.dirty, hres.perm⟩
  step op hf := by
    obtain ⟨s', hs, -⟩ := h.step hf
    exact ⟨s', hs⟩

theorem mapLaw_of_run (h : (assocHtOpen K β).Run Fits ops s) : MapLaw s := (kept_of_run h).mapLaw

/-- Ten keys, eight of them removed, one inserted again: the array is expanded and shrunk on the way. -/
def expandedAndShrunk : List (Op intKeys Nat) :=
  (List.range 10).map (fun i => .insert (intKey i) i) ++ (List.range 8).map (fun i => .remove (intKey i)) ++
    [.insert (intKey 3) 33]

theorem mapLaw_of_run_shrunk : ∃ s, (assocHtOpen intKeys Nat).Run Fits expandedAndShrunk s ∧ s.table.size = 3 ∧
    s.table.cap = 16 ∧ MapLaw s := by
  have h : (((assocHtOpen intKeys Nat).exec Fits (assocHtOpen intKeys Nat).init expandedAndShrunk).passes fun s =>
      s.table.size == 3 && s.table.cap == 16) = true := by decide +kernel
  obtain ⟨s, hr, hs⟩ := System.exists_run_of_exec h
  obtain ⟨hsize, hcap⟩ := Bool.and_eq_true_iff.mp hs
  exact ⟨s, hr, beq_iff_eq.mp hsize, beq_iff_eq.mp hcap, mapLaw_of_run hr⟩

/-! ### An array that cannot be twice as large -/

theorem intKey_inj {a b : Nat} (ha : a < 4294967296) (hb : b < 4294967296)
    (h : intKeys.keyEq (intKey a) (intKey b) = true) : a = b := by
  have hl : (intKey a).1 = (intKey b).1 := beq_iff_eq.mp h
  simp only [intKey, List.cons.injEq, ← UInt8.toNat_inj, UInt8.toNat_ofNat'] at hl
  omega

/-- The keys from `lo` on and before `hi` have a value, and so many slots are dirty. -/
structure Crowded (s : Traced intKeys Unit) (lo hi dirty : Nat) : Prop where
  kept : Kept s
  spans : ∀ m, m < 4294967296 → ((lastInsert s.history (intKey m)).isSome = true ↔ lo ≤ m ∧ m < hi)
  sz : s.table.sz + lo = hi
  numDirty : s.table.numDirty = dirty

section Crowded
variable {s : Traced intKeys Unit} {t₁ : AssocHtOpen intKeys Unit} {lo hi dirty : Nat} {ops : List (Op intKeys Unit)}

theorem Crowded.not_isSome (h : Crowded s lo hi dirty) (hhi : hi < 4294967296) :
    lastInsert s.history (intKey hi) = none := by
  rw [← Option.not_isSome_iff_eq_none, h.spans hi hhi]
  omega

theorem Crowded.insert (h : Crowded s lo hi dirty) (hhi : hi < 4294967296) (hfew : hi + 1 < lo + 1073741824)
    (hroom : s.table.Roomy) (hres : Resized s.table t₁) (hd : t₁.numDirty = dirty) :
    ∃ s', Fits s (.insert (intKey hi) ()) ∧ s.step (.insert (intKey hi) ()) = .next s' ∧
      Crowded s' lo (hi + 1) (dirty + 1) ∧ s'.table.cap = t₁.cap := by
  have hsz := h.sz
  have hnone := h.not_isSome hhi
  have habsent := h.kept.absent_iff.mpr hnone
  have hfits : Few s (.insert (intKey hi) ()) := by
    have hsize := h.kept.size_eq
    rw [size] at hsize
    simp only [Few, keysOf, hnone, Option.isSome_none, Bool.false_eq_true, if_false, List.length_cons]
    omega
  obtain ⟨t', ht, hinv, hcap, ⟨⟨kv, rest, hk, hperm, -⟩, -⟩ | ⟨hadded, hs, hn⟩⟩ :=
    hres.insert (intKey hi) (fun _ => by omega) ()
  · have hc := habsent kv (hperm.mem_iff.mpr List.mem_cons_self)
    rw [hk] at hc
    cases hc
  · refine ⟨⟨t', .insert (intKey hi) () :: s.history⟩, ⟨hfits, hroom⟩, ?_,
      ⟨h.kept.insert hinv (.inr hadded), fun m hm => ?_, by dsimp only; omega, hn.trans (by rw [hd])⟩, hcap⟩
    · simp [Traced.step, apply, ht, Outcome.ofExcept]
    · rw [lastInsert]
      split
      · next heq =>
        obtain rfl := intKey_inj hm hhi heq
        simp
        omega
      · next hne =>
        rw [h.spans m hm]
        have hmhi : m ≠ hi := fun heq => hne (heq ▸ intKeys.refl _)
        omega

theorem Crowded.remove (h : Crowded s lo hi dirty) (hhi : hi < 4294967296) (hlo : lo < hi)
    (hroom : s.table.Roomy) (hres : Resized s.table t₁) (hd : t₁.numDirty = dirty) :
    ∃ s', Fits s (.remove (intKey lo)) ∧ s.step (.remove (intKey lo)) = .next s' ∧
      Crowded s' (lo + 1) hi dirty ∧ s'.table.cap = t₁.cap := by
  have hsz := h.sz
  have hfits : Few s (.remove (intKey lo)) := by
    have hsize := h.kept.size_eq
    have hfew := h.kept.inv.few
    rw [size] at hsize
    rw [Few, keysOf]
    refine Nat.lt_of_le_of_lt (List.length_filter_le _ _) ?_
    omega
  obtain ⟨t', ht, hinv, hcap, hn, ⟨hremoved, hs⟩ | ⟨habsent, -⟩⟩ := hres.remove (intKey lo)
  · refine ⟨⟨t', .remove (intKey lo) :: s.history⟩, ⟨hfits, hroom⟩, ?_,
      ⟨h.kept.remove hinv (.inl hremoved), fun m hm => ?_, by dsimp only; omega, hn.trans hd⟩, hcap⟩
    · simp [Traced.step, apply, ht, Outcome.ofExcept]
    · rw [lastInsert]
      split
      · next heq =>
        obtain rfl := intKey_inj hm (by omega) heq
        simp
      · next hne =>
        rw [h.spans m hm]
        have hmlo : m ≠ lo := fun heq => hne (heq ▸ intKeys.refl _)
        omega
  · have hsome := (h.spans lo (by omega)).mpr ⟨Nat.le_refl lo, hlo⟩
    rw [h.kept.absent_iff.mp habsent] at hsome
    cases hsome

/-- Keys that are all new leave every dirty slot with an entry. -/
theorem run_inserts (n : Nat) (hn : n < 1073741824) : ∃ s, (assocHtOpen intKeys Unit).Run Fits
    ((List.range n).map fun i => .insert (intKey i) ()) s ∧ Crowded s 0 n n := by
  induction n with
  | zero =>
    have hr : (assocHtOpen intKeys Unit).Run Fits [] _ := .nil
    refine ⟨_, hr, kept_of_run hr, fun m _ => ?_, rfl, rfl⟩
    constructor
    · intro hc
      cases hc
    · omega
  | succ n ih =>
    obtain ⟨s, hr, hc⟩ := ih (by omega)
    have hsz := hc.sz
    have hnum := hc.numDirty
    have hroom : s.table.Roomy := by
      unfold Roomy
      omega
    obtain ⟨t₁, hres⟩ := hc.kept.inv.resize hroom
    have hd : t₁.numDirty = n := by
      rcases hres.numDirty with rfl | hd
      · exact hnum
      · omega
    obtain ⟨s', hf, hs, hc', -⟩ := hc.insert (by omega) (by omega) hroom hres hd
    refine ⟨s', ?_, hc'⟩
    rw [List.range_succ, List.map_append]
    exact hr.snoc hf hs

/-- One key is removed and a new one inserted, in an array of `2 ^ 31` slots. -/
theorem Crowded.exchange (h : Crowded s lo hi dirty) (hr : (assocHtOpen intKeys Unit).Run Fits ops s)
    (hcap : s.table.cap = 2147483648) (hdirty : dirty ≤ 1073741824) (hfull : hi = lo + 1073741823)
    (hhi : hi < 4294967296) : ∃ s', (assocHtOpen intKeys Unit).Run Fits
      (ops ++ [.remove (intKey lo)] ++ [.insert (intKey hi) ()]) s' ∧ Crowded s' (lo + 1) (hi + 1) (dirty + 1) ∧
      s'.table.cap = 2147483648 := by
  have hroom : ∀ {t : AssocHtOpen intKeys Unit}, t.numDirty = dirty → t.Roomy := by
    intro t ht
    unfold Roomy
    omega
  have hsz := h.sz
  have hres := h.kept.inv.resize_self (by rw [h.numDirty, hcap]; omega) (by omega)
  obtain ⟨s₁, hf₁, hs₁, hc₁, hcap₁⟩ := h.remove hhi (by omega) (hroom h.numDirty) hres h.numDirty
  rw [hcap] at hcap₁
  have hsz₁ := hc₁.sz
  have hres₁ := hc₁.kept.inv.resize_self (by rw [hc₁.numDirty, hcap₁]; omega) (by omega)
  obtain ⟨s₂, hf₂, hs₂, hc₂, hcap₂⟩ := hc₁.insert hhi (by omega) (hroom hc₁.numDirty) hres₁ hc₁.numDirty
  exact ⟨s₂, (hr.snoc hf₁ hs₁).snoc hf₂ hs₂, hc₂, hcap₂.trans hcap₁⟩

end Crowded

/-- `2 ^ 30 - 1` keys are inserted, and two of them exchanged for new ones. -/
def crowding : List (Op intKeys Unit) :=
  (List.range 1073741823).map (fun i => .insert (intKey i) ()) ++ [.remove (intKey 0)] ++
    [.insert (intKey 1073741823) ()] ++ [.remove (intKey 1)] ++ [.insert (intKey 1073741824) ()]

/-- There were never `2 ^ 30` keys, and the next operation divides by zero. -/
theorem table_without_slots : ∃ s, (assocHtOpen intKeys Unit).Run Few crowding s ∧ Few s (.remove (intKey 2)) ∧
    s.step (.remove (intKey 2)) = .abort "division by zero" := by
  obtain ⟨s₀, hr₀, hc₀⟩ := run_inserts 1073741823 (by omega)
  have hcap₀ : s₀.table.cap = 2147483648 := by
    have hload := hc₀.kept.inv.load
    rw [hc₀.numDirty] at hload
    obtain ⟨k, -, hk, hcap⟩ := hc₀.kept.inv.cap
    have hk' : 30 < k := by
      have hlt : 2 ^ 30 < 2 ^ k := by omega
      exact (Nat.pow_lt_pow_iff_right Nat.one_lt_two).mp hlt
    obtain rfl : k = 31 := by omega
    exact hcap
  obtain ⟨s₁, hr₁, hc₁, hcap₁⟩ := hc₀.exchange hr₀ hcap₀ (by omega) rfl (by omega)
  obtain ⟨s₂, hr₂, hc₂, hcap₂⟩ := hc₁.exchange hr₁ hcap₁ (by omega) rfl (by omega)
  have hsz := hc₂.sz
  have hroom : ¬s₂.table.Roomy := not_not_intro ⟨hcap₂, by rw [hc₂.numDirty]; omega⟩
  have hfew : Few s₂ (.remove (intKey 2)) := by
    have hsize := hc₂.kept.size_eq
    rw [size] at hsize
    rw [Few, keysOf]
    refine Nat.lt_of_le_of_lt (List.length_filter_le _ _) ?_
    omega
  refine ⟨s₂, hr₂.mono fun s op hf => hf.1, hfew, ?_⟩
  have hfail := hc₂.kept.inv.resize_fails hroom (by omega)
  simp [Traced.step, apply, removeValueHtab, hfail, Outcome.ofExcept]

end FlexRic.Ds.AssocHtOpen
