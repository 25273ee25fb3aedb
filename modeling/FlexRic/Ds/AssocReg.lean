import Mathlib.Algebra.Group.Nat.Defs
import Mathlib.Data.List.Nodup
import Mathlib.Data.List.Perm.Subperm
import Mathlib.Data.List.Infix
import FlexRic.Lib.CInt
import FlexRic.Lib.Except

/-! # The registry (`assoc_reg.c`)

Values under increasing keys, in an array of buckets: the value of a bucket is erased in place, and the array is
compacted, shrunk and expanded now and then. The registry is the list of the pairs of key and value that were pushed
and not erased. -/

namespace FlexRic.Ds

/-- `registry_bucket_t`; without a value, `has_value` is false. -/
structure Bucket (ν : Type) where
  key : Nat
  val : Option ν

/-- `assoc_reg_t`. `arr` has the buckets in use, `occ_bucket` of them; zeroes follow up to `cap`. -/
structure AssocReg (ν : Type) where
  arr : List (Bucket ν)
  sz : Nat
  cap : Nat
  keyId : Nat

namespace AssocReg
variable {ν : Type}

/-- `MIN_SIZE` -/
def minSize : Nat := 16

/-- `assoc_reg_init` -/
def init : AssocReg ν := ⟨[], 0, minSize, 1⟩

/-- What `partition` and `copy_if` leave of the buckets. -/
def partition (arr : List (Bucket ν)) : List (Bucket ν) := arr.filter (·.val.isSome)

/-- The loop of `partition` over `n` buckets from the one at `i` on: it moves the buckets with a value down, the next one
to `j`. -/
def partitionLoop : Nat → Nat → Nat → List (Bucket ν) → List (Bucket ν) × Nat
  | 0, _, j, arr => (arr, j)
  | n + 1, i, j, arr =>
    match arr[i]? with
    | none => (arr, j)
    | some b => if b.val.isSome then partitionLoop n (i + 1) (j + 1) (arr.set j b) else partitionLoop n (i + 1) j arr

/-- The loop of `copy_if` over `n` buckets from the one at `i` on, with the buckets that it has written. -/
def copyIfLoop (arr : List (Bucket ν)) : Nat → Nat → List (Bucket ν) → List (Bucket ν)
  | 0, _, out => out
  | n + 1, i, out =>
    match arr[i]? with
    | none => out
    | some b => copyIfLoop arr n (i + 1) (if b.val.isSome then out ++ [b] else out)

def shrinkIfNecessary (r : AssocReg ν) : AssocReg ν :=
  if r.cap = minSize ∨ r.sz * 4 > r.cap then r else { r with arr := partition r.arr, cap := r.cap / 2 }

def compactIfNecessary (r : AssocReg ν) : AssocReg ν :=
  if r.sz * 2 > r.arr.length then r else { r with arr := partition r.arr }

def expandIfNecessary (r : AssocReg ν) : AssocReg ν :=
  if r.arr.length < r.cap - 1 then r else { r with arr := partition r.arr, cap := r.cap * 2 }

/-- `assoc_reg_push_back`: the key, which has 32 bits, and the registry. -/
def pushBack (r : AssocReg ν) (v : ν) : Except String (Nat × AssocReg ν) := do
  let r := r.expandIfNecessary
  let key := r.keyId % 4294967296
  require (r.keyId ≠ 18446744073709551615) "Overflow reached!"
  return (key, { r with arr := r.arr ++ [⟨key, some v⟩], sz := r.sz + 1, keyId := r.keyId + 1 })

/-! ### Iterators

An iterator is the index of a bucket; `occ_bucket` is the end. -/

/-- The first index from `it` on that has a value, or the end. -/
def seek (r : AssocReg ν) (it : Nat) : Nat := it + (r.arr.drop it).findIdx (·.val.isSome)

def front (r : AssocReg ν) : Nat := r.seek 0

def end_ (r : AssocReg ν) : Nat := r.arr.length

def next (r : AssocReg ν) (it : Nat) : Except String Nat := do
  require ((r.arr[it]?.bind (·.val)).isSome) "b->has_value == true"
  return r.seek (it + 1)

/-- `assoc_reg_value` -/
def value (r : AssocReg ν) (it : Nat) : Except String ν :=
  match r.arr[it]? with
  | none => throw "Iterator out of range"
  | some b =>
    match b.val with
    | none => throw "b->has_value == true"
    | some v => return v

/-- What is written through the pointer that `assoc_reg_value` returns. -/
def update (r : AssocReg ν) (it : Nat) (v : ν) : AssocReg ν :=
  { r with arr := r.arr.modify it fun b => { b with val := some v } }

/-- The bucket loses its value. -/
def clear (r : AssocReg ν) (it : Nat) : AssocReg ν :=
  { r with arr := r.arr.modify it fun b => { b with val := none }, sz := r.sz - 1 }

/-- The loop of `assoc_reg_erase`, which takes `n` turns at most. -/
def eraseLoop (endIt : Nat) : Nat → Nat → AssocReg ν → Except String (AssocReg ν)
  | 0, _, _ => throw "Iterator out of range"
  | n + 1, it, r =>
    if it = endIt then return r
    else do
      let it' ← r.next it
      eraseLoop endIt n it' (r.clear it)

/-- `assoc_reg_erase` -/
def erase (r : AssocReg ν) (startIt endIt : Nat) : Except String (AssocReg ν) :=
  if startIt = endIt then return r
  else do
    require (startIt < r.arr.length) "Iterator out of range"
    let r ← eraseLoop endIt (r.arr.length + 1) startIt r
    return r.compactIfNecessary.shrinkIfNecessary

/-- The loop of `remove_if_range_reg` over `n` buckets from the one at `i` on, with the keys of its `seq_arr_t`. -/
def removeLoop (f : ν → Bool) : Nat → Nat → List Nat → AssocReg ν → List Nat × AssocReg ν
  | 0, _, keys, r => (keys, r)
  | n + 1, i, keys, r =>
    match r.arr[i]? with
    | none => (keys, r)
    | some b =>
      if b.val.any f then removeLoop f n (i + 1) (keys ++ [b.key]) (r.clear i) else removeLoop f n (i + 1) keys r

/-- `remove_if_range_reg`: the keys that were removed, and the registry. -/
def removeIfRangeReg (r : AssocReg ν) (f : ν → Bool) : List Nat × AssocReg ν :=
  let (keys, r) := removeLoop f r.arr.length 0 [] r
  (keys, r.compactIfNecessary.shrinkIfNecessary)

/-- The loop of `test_invariants_registry_hold`, with its counter and the last key. -/
def testLoop : List (Bucket ν) → Nat → Int → Except String Nat
  | [], counter, _ => return counter
  | b :: bs, counter, lastKey => do
    require (b.key > lastKey) "b->key > last_key"
    testLoop bs (if b.val.isSome then (counter + 1) % 4294967296 else counter) b.key

/-- `test_invariants_registry_hold` -/
def testInvariantsRegistryHold (r : AssocReg ν) : Except String Unit := do
  require (r.cap ≥ r.arr.length) "reg->cap >= reg->occ_bucket"
  require (r.cap ≥ r.sz) "reg->cap >= reg->sz"
  let counter ← testLoop r.arr 0 (-1)
  require (counter = r.sz) "counter == reg->sz"

/-- The loop of `lower_bound_reg`, which halves `len` and takes as many turns at most. -/
def lowerBoundLoop (below : Nat → Bool) : Nat → Nat → Nat → Nat
  | 0, lower, _ => lower
  | n + 1, lower, len =>
    if len = 0 then lower
    else if below (lower + len / 2) then lowerBoundLoop below n (lower + len / 2 + 1) (len - len / 2 - 1)
    else lowerBoundLoop below n lower (len / 2)

/-- The key of the bucket at the index is less than `key`. -/
def below (r : AssocReg ν) (key i : Nat) : Bool := r.arr[i]?.any (·.key < key)

/-- `lower_bound_reg`. `len` is an `int`, and the loop takes no turn when it is negative. -/
def lowerBound (r : AssocReg ν) (startIt endIt key : Nat) : Except String Nat :=
  if startIt = endIt then return endIt
  else do
    require (endIt - startIt < r.cap) "iterator out of the range"
    let len := (int32 (endIt - startIt : Nat)).toNat
    return lowerBoundLoop (r.below key) len startIt len

/-- `find_reg`: the index of the bucket, or the end. -/
def find (r : AssocReg ν) (startIt endIt key : Nat) : Except String Nat := do
  require (key > 0) "Reserved value"
  if startIt = endIt then return endIt
  else do
    let it ← r.lowerBound startIt endIt key
    require (it ≤ endIt) "it <= end_it"
    if it = endIt then return endIt
    else match r.arr[it]? with
      | none => return endIt
      | some b => if b.val.isNone ∨ b.key ≠ key then return endIt else return it

/-! ### The list that a registry is -/

/-- The live pairs. -/
def live (arr : List (Bucket ν)) : List (Nat × ν) := arr.filterMap fun b => b.val.map (b.key, ·)

/-- The registry has the pairs of the list, in increasing order of their keys. -/
structure Holds (r : AssocReg ν) (l : List (Nat × ν)) : Prop where
  live : live r.arr = l
  sorted : (r.arr.map Bucket.key).Pairwise (· < ·)
  pos : ∀ b ∈ r.arr, 0 < b.key
  lt : ∀ b ∈ r.arr, b.key < r.keyId
  keyId : 0 < r.keyId
  sz : r.sz = l.length
  room : r.arr.length < r.cap
  cap : ∃ k, r.cap = minSize * 2 ^ k

/-- At most half of the buckets are without a value, as the maintenance leaves them. -/
def Dense (r : AssocReg ν) : Prop := r.arr.length ≤ 2 * r.sz

@[simp] theorem live_partition (arr : List (Bucket ν)) : live (partition arr) = live arr := by
  rw [live, live, partition, List.filterMap_filter]
  refine List.filterMap_congr fun b _ => ?_
  cases b.val <;> rfl

theorem length_partition (arr : List (Bucket ν)) : (partition arr).length = (live arr).length := by
  induction arr with
  | nil => rfl
  | cons b arr ih =>
    cases hv : b.val with
    | none => simpa [partition, live, hv] using ih
    | some v => simpa [partition, live, hv] using ih

theorem length_live_le (arr : List (Bucket ν)) : (live arr).length ≤ arr.length := List.length_filterMap_le _ _

theorem holds_init : (init : AssocReg ν).Holds [] where
  live := rfl
  sorted := List.Pairwise.nil
  pos b hb := by cases hb
  lt b hb := by cases hb
  keyId := Nat.one_pos
  sz := rfl
  room := Nat.succ_pos _
  cap := ⟨0, rfl⟩

section Holds
variable {r : AssocReg ν} {l : List (Nat × ν)}

/-- The buckets with a value, in an array of another size. -/
theorem Holds.partition (h : r.Holds l) {cap : Nat} (hroom : l.length < cap) (hcap : ∃ k, cap = minSize * 2 ^ k) :
    AssocReg.Holds { r with arr := AssocReg.partition r.arr, cap } l where
  live := (live_partition _).trans h.live
  sorted := h.sorted.sublist (List.filter_sublist.map _)
  pos b hb := h.pos b (List.mem_filter.mp hb).1
  lt b hb := h.lt b (List.mem_filter.mp hb).1
  keyId := h.keyId
  sz := h.sz
  room := by
    show (AssocReg.partition r.arr).length < cap
    rw [length_partition, h.live]
    exact hroom
  cap := hcap

theorem Holds.length_lt (h : r.Holds l) : l.length < r.cap := by
  have hle := length_live_le r.arr
  rw [h.live] at hle
  exact Nat.lt_of_le_of_lt hle h.room

theorem Holds.partition_length (h : r.Holds l) : (AssocReg.partition r.arr).length = r.sz := by
  rw [AssocReg.length_partition, h.live, h.sz]

theorem Holds.dense_compact (h : r.Holds l) : r.compactIfNecessary.Dense := by
  rw [AssocReg.compactIfNecessary]
  split
  · rw [Dense]
    omega
  · show (AssocReg.partition r.arr).length ≤ 2 * r.sz
    rw [h.partition_length]
    omega

theorem Holds.dense_shrink (h : r.Holds l) (hd : r.Dense) : r.shrinkIfNecessary.Dense := by
  rw [AssocReg.shrinkIfNecessary]
  split
  · exact hd
  · show (AssocReg.partition r.arr).length ≤ 2 * r.sz
    rw [h.partition_length]
    omega

theorem Holds.dense_expand (h : r.Holds l) (hd : r.Dense) : r.expandIfNecessary.Dense := by
  rw [AssocReg.expandIfNecessary]
  split
  · exact hd
  · show (AssocReg.partition r.arr).length ≤ 2 * r.sz
    rw [h.partition_length]
    omega

theorem Holds.compactIfNecessary (h : r.Holds l) : r.compactIfNecessary.Holds l := by
  rw [AssocReg.compactIfNecessary]
  split
  · exact h
  · exact h.partition h.length_lt h.cap

theorem Holds.shrinkIfNecessary (h : r.Holds l) : r.shrinkIfNecessary.Holds l := by
  rw [AssocReg.shrinkIfNecessary]
  split
  · exact h
  · next hs =>
    obtain ⟨hmin, hsz⟩ := not_or.mp hs
    obtain ⟨k, hk⟩ := h.cap
    rw [h.sz] at hsz
    have hpos : 0 < 2 ^ k := Nat.two_pow_pos k
    cases k with
    | zero => exact absurd (by simpa using hk) hmin
    | succ k =>
      have hhalf : r.cap / 2 = minSize * 2 ^ k := by
        rw [hk, Nat.pow_succ, ← Nat.mul_assoc, Nat.mul_div_cancel _ (by decide)]
      refine h.partition ?_ ⟨k, hhalf⟩
      have h16 : 1 ≤ 2 ^ k := Nat.one_le_two_pow
      rw [minSize] at hhalf
      omega

theorem Holds.expandIfNecessary (h : r.Holds l) :
    r.expandIfNecessary.Holds l ∧ r.expandIfNecessary.arr.length + 1 < r.expandIfNecessary.cap ∧
      r.expandIfNecessary.keyId = r.keyId := by
  have hlen := h.length_lt
  obtain ⟨k, hk⟩ := h.cap
  rw [AssocReg.expandIfNecessary]
  split
  · next hr => exact ⟨h, by omega, rfl⟩
  · refine ⟨h.partition (by omega) ⟨k + 1, by rw [hk, Nat.pow_succ, Nat.mul_assoc]⟩, ?_, rfl⟩
    show (AssocReg.partition r.arr).length + 1 < r.cap * 2
    rw [length_partition, h.live]
    have h16 : 1 ≤ 2 ^ k := Nat.one_le_two_pow
    rw [minSize] at hk
    omega

theorem Holds.pushBack (h : r.Holds l) (hk : r.keyId < 4294967296) (v : ν) :
    ∃ r', r.pushBack v = .ok (r.keyId, r') ∧ r'.Holds (l ++ [(r.keyId, v)]) ∧ r'.keyId = r.keyId + 1 := by
  obtain ⟨he, hroom, hid⟩ := h.expandIfNecessary
  have hkey : r.expandIfNecessary.keyId % 4294967296 = r.keyId := by
    rw [hid, Nat.mod_eq_of_lt hk]
  have hmax : r.expandIfNecessary.keyId ≠ 18446744073709551615 := by
    rw [hid]
    omega
  refine ⟨_, by rw [AssocReg.pushBack]; simp only [require_of hmax, hkey]; rfl, ?_, by rw [hid]⟩
  refine ⟨?_, ?_, ?_, ?_, Nat.succ_pos _, ?_, ?_, he.cap⟩
  · show AssocReg.live (_ ++ [_]) = _
    rw [AssocReg.live, List.filterMap_append]
    exact congrArg (· ++ [_]) he.live
  · show (List.map Bucket.key (_ ++ [_])).Pairwise _
    rw [List.map_append, List.pairwise_append]
    refine ⟨he.sorted, List.pairwise_singleton _ _, fun a ha b hb => ?_⟩
    obtain ⟨c, hc, rfl⟩ := List.mem_map.mp ha
    obtain rfl := List.mem_singleton.mp hb
    exact hid ▸ he.lt c hc
  · intro b hb
    rcases List.mem_append.mp hb with hb | hb
    · exact he.pos b hb
    · obtain rfl := List.mem_singleton.mp hb
      exact h.keyId
  · intro b hb
    rcases List.mem_append.mp hb with hb | hb
    · exact Nat.lt_succ_of_lt (he.lt b hb)
    · obtain rfl := List.mem_singleton.mp hb
      exact hid.symm ▸ Nat.lt_succ_self _
  · show r.expandIfNecessary.sz + 1 = _
    rw [he.sz, List.length_append]
    rfl
  · show (r.expandIfNecessary.arr ++ [_]).length < _
    rw [List.length_append]
    exact hroom

theorem Holds.dense_pushBack (h : r.Holds l) (hd : r.Dense) {v : ν} {key : Nat} {r' : AssocReg ν}
    (hp : r.pushBack v = .ok (key, r')) : r'.Dense := by
  obtain ⟨_, -, hp⟩ := Except.bind_eq_ok.mp hp
  obtain ⟨-, rfl⟩ := Prod.mk.inj (Except.ok.inj hp)
  have hde := h.dense_expand hd
  rw [Dense] at hde
  show (r.expandIfNecessary.arr ++ [_]).length ≤ 2 * (r.expandIfNecessary.sz + 1)
  rw [List.length_append, List.length_singleton]
  omega

end Holds

/-! ### Finding a key -/

/-- The search ends where the indices that are below begin to be above. -/
theorem lowerBoundLoop_spec (below : Nat → Bool) {n : Nat} (lo : Nat) {len : Nat} (hn : len ≤ n)
    (hmono : ∀ i j, lo ≤ i → i ≤ j → j < lo + len → below j = true → below i = true) :
    lo ≤ lowerBoundLoop below n lo len ∧ lowerBoundLoop below n lo len ≤ lo + len ∧
      (∀ i, lo ≤ i → i < lowerBoundLoop below n lo len → below i = true) ∧
      ∀ i, lowerBoundLoop below n lo len ≤ i → i < lo + len → below i = false := by
  induction n generalizing lo len with
  | zero =>
    rw [lowerBoundLoop]
    exact ⟨Nat.le_refl _, Nat.le_add_right _ _, fun i h₁ h₂ => absurd h₂ (by omega), fun i h₁ h₂ => absurd h₂ (by omega)⟩
  | succ n ih =>
    rw [lowerBoundLoop]
    by_cases h0 : len = 0
    · rw [if_pos h0]
      exact ⟨Nat.le_refl _, Nat.le_add_right _ _, fun i h₁ h₂ => absurd h₂ (by omega),
        fun i h₁ h₂ => absurd h₂ (by omega)⟩
    rw [if_neg h0]
    cases hb : below (lo + len / 2) with
    | true =>
      rw [if_pos rfl]
      obtain ⟨h₁, h₂, h₃, h₄⟩ := @ih (lo + len / 2 + 1) (len - len / 2 - 1) (by omega)
        fun i j hi hij hj => hmono i j (by omega) hij (by omega)
      refine ⟨by omega, by omega, fun i hi hlt => ?_, fun i hi hlt => h₄ i hi (by omega)⟩
      rcases Nat.lt_or_ge (lo + len / 2) i with h | h
      · exact h₃ i h hlt
      · exact hmono i _ hi h (by omega) hb
    | false =>
      rw [if_neg Bool.false_ne_true]
      obtain ⟨h₁, h₂, h₃, h₄⟩ := @ih lo (len / 2) (by omega)
        fun i j hi hij hj => hmono i j hi hij (by omega)
      refine ⟨h₁, by omega, h₃, fun i hi hlt => ?_⟩
      rcases Nat.lt_or_ge i (lo + len / 2) with h | h
      · exact h₄ i hi h
      · cases hbi : below i with
        | false => rfl
        | true =>
          rw [hmono _ i (by omega) h hlt hbi] at hb
          cases hb

/-- The `int` of the search has the number of the buckets from the first one with a value on. -/
def Searchable (r : AssocReg ν) : Prop := r.end_ - r.front < 2147483648

instance (r : AssocReg ν) : Decidable r.Searchable := inferInstanceAs (Decidable (_ < _))

theorem Searchable.int32_eq {r : AssocReg ν} (h : r.Searchable) :
    (int32 (r.end_ - r.front : Nat)).toNat = r.end_ - r.front := by
  rw [int32_of_lt h, Int.toNat_natCast]

theorem mem_live {arr : List (Bucket ν)} {key : Nat} {v : ν} : (key, v) ∈ live arr ↔ ⟨key, some v⟩ ∈ arr := by
  simp only [live, List.mem_filterMap, Option.map_eq_some_iff, Prod.mk.injEq]
  constructor
  · rintro ⟨⟨k, _⟩, hb, _, rfl, rfl, rfl⟩
    exact hb
  · intro hb
    exact ⟨_, hb, v, rfl, rfl, rfl⟩

theorem seek_le {r : AssocReg ν} {it : Nat} (h : it ≤ r.arr.length) : r.seek it ≤ r.arr.length := by
  have hle : (r.arr.drop it).findIdx (·.val.isSome) ≤ (r.arr.drop it).length := List.findIdx_le_length
  rw [List.length_drop] at hle
  rw [seek]
  omega

theorem front_le {r : AssocReg ν} {i key : Nat} {v : ν} (h : r.arr[i]? = some ⟨key, some v⟩) : r.front ≤ i := by
  rw [front, seek, List.drop_zero, Nat.zero_add]
  by_contra hlt
  obtain ⟨hi, hb⟩ := List.getElem?_eq_some_iff.mp h
  have hno := List.not_of_lt_findIdx (Nat.lt_of_not_le hlt)
  rw [hb] at hno
  exact absurd hno (by simp)

section Find
variable {r : AssocReg ν} {l : List (Nat × ν)} {key : Nat}

theorem Holds.key_lt (h : r.Holds l) {i j : Nat} {b c : Bucket ν} (hi : r.arr[i]? = some b) (hj : r.arr[j]? = some c)
    (hij : i < j) : b.key < c.key := by
  obtain ⟨hi', rfl⟩ := List.getElem?_eq_some_iff.mp hi
  obtain ⟨hj', rfl⟩ := List.getElem?_eq_some_iff.mp hj
  have hs := List.pairwise_iff_getElem.mp h.sorted i j (by simpa using hi') (by simpa using hj') hij
  simpa using hs

theorem Holds.below_mono (h : r.Holds l) {i j : Nat} (hij : i ≤ j) (hj : r.below key j = true) :
    r.below key i = true := by
  rcases Nat.lt_or_eq_of_le hij with hlt | rfl
  · obtain ⟨c, hc, hck⟩ := (Option.any_eq_true _ _).mp hj
    obtain ⟨hj', -⟩ := List.getElem?_eq_some_iff.mp hc
    have hb := List.getElem?_eq_getElem (Nat.lt_trans hlt hj')
    have hbc := h.key_lt hb hc hlt
    rw [below, hb, Option.any_some, decide_eq_true_eq]
    exact Nat.lt_trans hbc (of_decide_eq_true hck)
  · exact hj

theorem lowerBound_eq {startIt endIt : Nat} (hne : startIt ≠ endIt) (hroom : endIt - startIt < r.cap) :
    r.lowerBound startIt endIt key = .ok (lowerBoundLoop (r.below key) (int32 (endIt - startIt : Nat)).toNat startIt
      (int32 (endIt - startIt : Nat)).toNat) := by
  rw [lowerBound, if_neg hne, require_of hroom]
  rfl

/-- There are fewer buckets than keys were given. -/
theorem Holds.length_lt_keyId (h : r.Holds l) : r.arr.length < r.keyId := by
  have hsub : r.arr.map Bucket.key ⊆ List.range' 1 (r.keyId - 1) := by
    intro key hmem
    obtain ⟨b, hb, rfl⟩ := List.mem_map.mp hmem
    have hpos := h.pos b hb
    have hlt := h.lt b hb
    rw [List.mem_range'_1]
    omega
  have hnodup : (r.arr.map Bucket.key).Nodup := h.sorted.imp fun hlt => hlt.ne
  have hle := (List.subperm_of_subset hnodup hsub).length_le
  rw [List.length_map, List.length_range'] at hle
  have := h.keyId
  omega

theorem Holds.searchable (h : r.Holds l) (hk : r.keyId ≤ 2147483648) : r.Searchable := by
  have := h.length_lt_keyId
  rw [Searchable, end_]
  omega

theorem front_le_end : r.front ≤ r.end_ := seek_le (Nat.zero_le _)

theorem Holds.end_sub_lt_cap (h : r.Holds l) (it : Nat) : r.end_ - it < r.cap := by
  have hr := h.room
  rw [end_]
  omega

/-- A bucket with the key is the one at which the search ends. -/
theorem Holds.lowerBound_front (h : r.Holds l) (hs : r.Searchable) (hfe : r.front ≠ r.end_) (key : Nat) :
    ∃ it ≤ r.end_, r.lowerBound r.front r.end_ key = .ok it ∧
      ∀ b i, r.arr[i]? = some b → b.key = key → r.front ≤ i → i = it := by
  obtain ⟨h₁, h₂, h₃, h₄⟩ := lowerBoundLoop_spec (r.below key) r.front (Nat.le_refl (r.end_ - r.front))
    fun i j _ hij _ => h.below_mono hij
  generalize hit : lowerBoundLoop (r.below key) (r.end_ - r.front) r.front (r.end_ - r.front) = it at h₁ h₂ h₃ h₄
  rw [Nat.add_sub_cancel' front_le_end] at h₂ h₄
  refine ⟨it, h₂, ?_, fun b i hi hk hfi => ?_⟩
  · rw [lowerBound_eq hfe (h.end_sub_lt_cap _), hs.int32_eq, hit]
  · rcases Nat.lt_trichotomy i it with hlt | heq | hgt
    · have hb := h₃ i hfi hlt
      simp [below, hi, hk] at hb
    · exact heq
    · have hie : i < r.end_ := (List.getElem?_eq_some_iff.mp hi).1
      have hb := h₄ it (Nat.le_refl _) (Nat.lt_trans hgt hie)
      have hlt : it < r.arr.length := Nat.lt_trans hgt hie
      rw [below, List.getElem?_eq_getElem hlt] at hb
      have hbelow : r.arr[it].key < key := hk ▸ h.key_lt (List.getElem?_eq_getElem hlt) hi hgt
      exact absurd hbelow (of_decide_eq_false hb)

/-- The search finds the bucket of a live pair, and nothing else. -/
theorem Holds.find (h : r.Holds l) (hs : r.Searchable) (hkey : 0 < key) :
    (∃ v it, (key, v) ∈ l ∧ r.find r.front r.end_ key = .ok it ∧ r.arr[it]? = some ⟨key, some v⟩) ∨
      (∀ v, (key, v) ∉ l) ∧ r.find r.front r.end_ key = .ok r.end_ := by
  have hmem : ∀ v, (key, v) ∈ l → ∃ i, r.front ≤ i ∧ i < r.end_ ∧ r.arr[i]? = some ⟨key, some v⟩ := by
    intro v hv
    rw [← h.live, mem_live] at hv
    obtain ⟨i, hi⟩ := List.mem_iff_getElem?.mp hv
    exact ⟨i, front_le hi, (List.getElem?_eq_some_iff.mp hi).1, hi⟩
  by_cases hfe : r.front = r.end_
  · refine .inr ⟨fun v hv => ?_, ?_⟩
    · obtain ⟨i, h₁, h₂, -⟩ := hmem v hv
      omega
    · rw [AssocReg.find, require_of hkey, Except.ok_bind, if_pos hfe]
      rfl
  obtain ⟨it, h₂, hlow, hat⟩ := h.lowerBound_front hs hfe key
  have hfind : r.find r.front r.end_ key =
      if it = r.end_ then .ok r.end_
      else match r.arr[it]? with
        | none => .ok r.end_
        | some b => if b.val.isNone ∨ b.key ≠ key then .ok r.end_ else .ok it := by
    rw [AssocReg.find, require_of hkey, Except.ok_bind, if_neg hfe, hlow, Except.ok_bind, require_of h₂, Except.ok_bind]
    rfl
  by_cases hend : it = r.end_
  · refine .inr ⟨fun v hv => ?_, by rw [hfind, if_pos hend]⟩
    obtain ⟨i, hfi, hie, hi⟩ := hmem v hv
    exact absurd (hat _ i hi rfl hfi) (by omega)
  rw [if_neg hend] at hfind
  have hlt : it < r.arr.length := Nat.lt_of_le_of_ne h₂ hend
  rw [List.getElem?_eq_getElem hlt] at hfind
  by_cases hb : r.arr[it].val.isNone ∨ r.arr[it].key ≠ key
  · refine .inr ⟨fun v hv => ?_, hfind.trans (if_pos hb)⟩
    obtain ⟨i, hfi, hie, hi⟩ := hmem v hv
    obtain rfl := hat _ i hi rfl hfi
    rw [List.getElem?_eq_getElem hlt, Option.some.injEq] at hi
    rw [hi] at hb
    simp at hb
  · obtain ⟨hval, hk⟩ := not_or.mp hb
    obtain ⟨v, hv⟩ := Option.ne_none_iff_exists'.mp (mt Option.isNone_iff_eq_none.mpr hval)
    have hbucket : r.arr[it]? = some ⟨key, some v⟩ := by
      rw [List.getElem?_eq_getElem hlt, ← hv, ← not_not.mp hk]
    refine .inl ⟨v, it, ?_, hfind.trans (if_neg hb), hbucket⟩
    rw [← h.live, mem_live]
    exact List.mem_of_getElem? hbucket

end Find

end AssocReg

end FlexRic.Ds
