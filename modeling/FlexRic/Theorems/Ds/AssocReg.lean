import Mathlib.Data.List.Range
import FlexRic.Ds.AssocRegErase
import FlexRic.Lib.Sequence

/-! # Runs of the registry

A ledger of what was pushed and what was erased goes along with the array. After every operation of a run the array is
in order and has the pairs that were pushed and not erased, wherever the maintenance left them. It finds them as long as
the buckets to search are fewer than `2 ^ 31`. -/

namespace FlexRic.Ds

namespace AssocReg
variable {ν : Type} {r : AssocReg ν} {l : List (Nat × ν)}

/-- The buckets that the loop of `partition` has moved down are those with a value, in order. -/
theorem take_partitionLoop {n i j : Nat} {arr : List (Bucket ν)} (hj : j ≤ i) (hn : i + n = arr.length) :
    (partitionLoop n i j arr).1.take (partitionLoop n i j arr).2 = arr.take j ++ partition (arr.drop i) := by
  induction n generalizing i j arr with
  | zero =>
    have hnil : arr.drop i = [] := List.drop_eq_nil_of_le (by omega)
    rw [hnil]
    exact (List.append_nil _).symm
  | succ n ih =>
    have hlt : i < arr.length := by omega
    rw [partitionLoop, List.drop_eq_getElem_cons hlt, List.getElem?_eq_getElem hlt]
    generalize arr[i] = b
    cases hb : b.val.isSome with
    | false =>
      have hskip : partition (b :: arr.drop (i + 1)) = partition (arr.drop (i + 1)) :=
        List.filter_cons_of_neg (by simp [hb])
      rw [hskip]
      simp only [hb]
      exact ih (by omega) (by omega)
    | true =>
      have hcons : partition (b :: arr.drop (i + 1)) = b :: partition (arr.drop (i + 1)) := List.filter_cons_of_pos hb
      have htake : (arr.set j b).take (j + 1) = arr.take j ++ [b] := by
        have hlen : (arr.take j).length = j := List.length_take_of_le (by omega)
        rw [List.take_set, List.take_succ_eq_append_getElem (by omega), List.set_append_right _ _ hlen.le, hlen,
          Nat.sub_self]
        rfl
      have hdrop : (arr.set j b).drop (i + 1) = arr.drop (i + 1) := List.drop_set_of_lt (by omega)
      rw [hcons]
      simp only [hb, if_true]
      rw [@ih (i + 1) (j + 1) (arr.set j b) (by omega) (by rw [List.length_set]; omega), htake, hdrop, List.append_assoc]
      rfl

/-- The buckets that the loop of `copy_if` writes are those with a value, in order. -/
theorem copyIfLoop_eq {arr : List (Bucket ν)} {n i : Nat} (hn : i + n = arr.length) (out : List (Bucket ν)) :
    copyIfLoop arr n i out = out ++ partition (arr.drop i) := by
  induction n generalizing i out with
  | zero =>
    have hnil : arr.drop i = [] := List.drop_eq_nil_of_le (by omega)
    rw [hnil]
    exact (List.append_nil _).symm
  | succ n ih =>
    have hlt : i < arr.length := by omega
    rw [copyIfLoop, List.drop_eq_getElem_cons hlt, List.getElem?_eq_getElem hlt]
    generalize arr[i] = b
    refine (ih (by omega) _).trans ?_
    cases hb : b.val.isSome with
    | false => simp [partition, hb]
    | true => simp [partition, hb]

theorem live_shrinkIfNecessary (r : AssocReg ν) : live r.shrinkIfNecessary.arr = live r.arr := by
  rw [shrinkIfNecessary]
  split
  · rfl
  · exact live_partition _

theorem live_compactIfNecessary (r : AssocReg ν) : live r.compactIfNecessary.arr = live r.arr := by
  rw [compactIfNecessary]
  split
  · rfl
  · exact live_partition _

theorem live_expandIfNecessary (r : AssocReg ν) : live r.expandIfNecessary.arr = live r.arr := by
  rw [expandIfNecessary]
  split
  · rfl
  · exact live_partition _

/-- The maintenance of a registry loses, doubles and reorders nothing: the loops of `partition` and `copy_if` leave the
buckets with a value, and what the registry has before it shrinks, is compacted or expands it has after. -/
structure Maintained (r : AssocReg ν) : Prop where
  partition : (partitionLoop r.arr.length 0 0 r.arr).1.take (partitionLoop r.arr.length 0 0 r.arr).2 =
    r.arr.filter (·.val.isSome)
  copyIf : copyIfLoop r.arr r.arr.length 0 [] = r.arr.filter (·.val.isSome)
  shrink : live r.shrinkIfNecessary.arr = live r.arr
  compact : live r.compactIfNecessary.arr = live r.arr
  expand : live r.expandIfNecessary.arr = live r.arr

theorem maintained (r : AssocReg ν) : r.Maintained where
  partition := take_partitionLoop (Nat.le_refl 0) (Nat.zero_add _)
  copyIf := copyIfLoop_eq (Nat.zero_add _) []
  shrink := live_shrinkIfNecessary r
  compact := live_compactIfNecessary r
  expand := live_expandIfNecessary r

/-- The loop counts the values of buckets in order of their keys. -/
theorem testLoop_of_sorted {arr : List (Bucket ν)} {counter : Nat} {lastKey : Int}
    (hs : (arr.map Bucket.key).Pairwise (· < ·)) (hl : ∀ b ∈ arr, lastKey < b.key)
    (hc : counter + (live arr).length < 4294967296) :
    testLoop arr counter lastKey = .ok (counter + (live arr).length) := by
  induction arr generalizing counter lastKey with
  | nil => rfl
  | cons b arr ih =>
    obtain ⟨key, val⟩ := b
    rw [List.map_cons, List.pairwise_cons] at hs
    obtain ⟨hlt, hs⟩ := hs
    have hb : ∀ c ∈ arr, (key : Int) < c.key := by
      intro c hmem
      exact Int.ofNat_lt.mpr (hlt c.key (List.mem_map_of_mem hmem))
    have hkey : (key : Int) > lastKey := hl _ List.mem_cons_self
    rw [testLoop, require_of hkey, Except.ok_bind]
    cases val with
    | none => exact ih hs hb hc
    | some v =>
      have hlen : (live (⟨key, some v⟩ :: arr)).length = (live arr).length + 1 := rfl
      rw [hlen] at hc ⊢
      have hmod : (counter + 1) % 4294967296 = counter + 1 := Nat.mod_eq_of_lt (by omega)
      rw [if_pos (show (some v).isSome = true from rfl), hmod, ih hs hb (by omega)]
      congr 1
      omega

theorem Holds.testInvariants (h : r.Holds l) (hl : l.length < 4294967296) :
    r.testInvariantsRegistryHold = .ok () := by
  have hcap : r.cap ≥ r.arr.length := h.room.le
  have hsz : r.cap ≥ r.sz := by
    rw [h.sz]
    exact h.length_lt.le
  have hlive : (AssocReg.live r.arr).length = r.sz := by
    rw [h.live, h.sz]
  have hloop := @testLoop_of_sorted _ r.arr 0 (-1) h.sorted (fun b _ => by omega)
    (by rwa [Nat.zero_add, h.live])
  rw [Nat.zero_add, hlive] at hloop
  rw [testInvariantsRegistryHold, require_of hcap, Except.ok_bind, require_of hsz, Except.ok_bind, hloop,
    Except.ok_bind, require_of rfl]

/-- The pairs are in the buckets that are searched. -/
theorem length_live_le_sub (r : AssocReg ν) : (live r.arr).length ≤ r.end_ - r.front := by
  have hdrop : live (r.arr.drop 0) = live (r.arr.drop r.front) := live_drop_of_not_liveAt (Nat.zero_le _)
    fun i b hi hlt hb => (not_liveAt_iff hb).mp (not_liveAt_of_lt_seek hi hlt)
  rw [List.drop_zero] at hdrop
  rw [hdrop, end_, ← List.length_drop]
  exact length_live_le _

/-- When the length of the search does not fit its `int`, it takes no turn: only the key of the first bucket with a
value is found. -/
theorem Holds.find_of_not_searchable (h : r.Holds l) (hlen : r.arr.length < 4294967296) (hs : ¬r.Searchable) :
    ∃ e ∈ l, ∀ key, 0 < key → key ≠ e.1 → r.find r.front r.end_ key = .ok r.end_ := by
  have hge : 2147483648 ≤ r.end_ - r.front := Nat.le_of_not_lt hs
  have hlt : r.end_ - r.front < 4294967296 := by
    rw [end_]
    omega
  have hne : r.front ≠ r.end_ := by omega
  have hzero : (int32 (r.end_ - r.front : Nat)).toNat = 0 := by
    rw [int32, Int.bmod_def]
    omega
  obtain ⟨key₀, v, hat⟩ := liveAt_seek (show r.seek 0 < r.end_ from Nat.lt_of_le_of_ne front_le_end hne)
  refine ⟨(key₀, v), ?_, fun key hkey hneq => ?_⟩
  · rw [← h.live, mem_live]
    exact List.mem_of_getElem? hat
  · have hlow : r.lowerBound r.front r.end_ key = .ok r.front := by
      rw [lowerBound_eq hne (h.end_sub_lt_cap _), hzero, lowerBoundLoop]
    rw [AssocReg.find, require_of hkey, Except.ok_bind, if_neg hne, hlow, Except.ok_bind, require_of front_le_end,
      Except.ok_bind, if_neg hne, show r.arr[r.front]? = _ from hat]
    exact if_pos (.inr hneq.symm)

end AssocReg

/-- The registry, the pairs that were pushed, each with the key that was returned, and the keys that were erased. -/
structure RegLedger (ν : Type) where
  reg : AssocReg ν
  pushed : List (Nat × ν)
  erased : List Nat

namespace RegLedger
variable {ν : Type}

inductive Op (ν : Type)
  /-- `assoc_reg_push_back` -/
  | pushBack (v : ν)
  /-- `assoc_reg_erase` -/
  | erase (startIt endIt : Nat)
  /-- `remove_if_range_reg` -/
  | removeIf (f : ν → Bool)

def init : RegLedger ν := ⟨.init, [], []⟩

/-- The pairs that were pushed and not erased. -/
def kept (s : RegLedger ν) : List (Nat × ν) := s.pushed.filter (·.1 ∉ s.erased)

/-- The keys that an operation is to erase: those that the range has, or those of the pairs whose value fits. -/
def asked (s : RegLedger ν) : Op ν → List Nat
  | .pushBack _ => []
  | .erase startIt endIt => s.reg.keysIn startIt endIt
  | .removeIf f => (s.kept.filter (f ·.2)).map Prod.fst

/-- The operation, with the keys that it returns. -/
def apply (s : RegLedger ν) : Op ν → Except String (RegLedger ν × List Nat)
  | .pushBack v => do
    let (key, reg) ← s.reg.pushBack v
    return ({ s with reg, pushed := s.pushed ++ [(key, v)] }, [key])
  | .erase startIt endIt => do
    let reg ← s.reg.erase startIt endIt
    return ({ s with reg, erased := s.erased ++ s.asked (.erase startIt endIt) }, [])
  | .removeIf f =>
    let (keys, reg) := s.reg.removeIfRangeReg f
    .ok ({ s with reg, erased := s.erased ++ s.asked (.removeIf f) }, keys)

/-- Ranges are of live iterators. -/
def Proper (s : RegLedger ν) : Op ν → Prop
  | .erase startIt endIt => s.reg.LiveRange startIt endIt
  | _ => True

instance (s : RegLedger ν) : ∀ op, Decidable (s.Proper op)
  | .erase startIt endIt => inferInstanceAs (Decidable (s.reg.LiveRange startIt endIt))
  | .pushBack _ => .isTrue trivial
  | .removeIf _ => .isTrue trivial

/-- How many of the operations push. -/
def pushes : List (Op ν) → Nat
  | [] => 0
  | .pushBack _ :: ops => pushes ops + 1
  | _ :: ops => pushes ops

/-- What is found under a key: the value at the bucket, or nothing at the end. -/
def lookUp (s : RegLedger ν) (key : Nat) : Except String (Option ν) := do
  let it ← s.reg.find s.reg.front s.reg.end_ key
  if it = s.reg.end_ then return none
  else
    let v ← s.reg.value it
    return some v

/-- The registry has what was pushed and not erased, in order, and finds nothing else. -/
structure InOrder (s : RegLedger ν) : Prop where
  invariants : s.reg.testInvariantsRegistryHold = .ok ()
  sorted : (s.reg.arr.map Bucket.key).Pairwise (· < ·)
  size : s.reg.sz = (AssocReg.live s.reg.arr).length ∧ s.reg.sz ≤ s.reg.cap
  entries : AssocReg.live s.reg.arr = s.kept
  distinct : (s.pushed.map Prod.fst).Nodup
  notFound : ∀ key, 0 < key → (∀ v, (key, v) ∉ s.kept) →
    s.reg.find s.reg.front s.reg.end_ key = .ok s.reg.end_

/-- What is required of the registry after every operation. -/
structure RegLaw (s : RegLedger ν) : Prop extends InOrder s where
  found : ∀ key v, (key, v) ∈ s.kept → s.lookUp key = .ok (some v)

/-- The keys that the operation returns: a new one for a push, and those that were to be removed. -/
def Answered (s : RegLedger ν) (out : List Nat) : Op ν → Prop
  | .pushBack _ => ∃ key, out = [key] ∧ key ∉ s.pushed.map Prod.fst
  | .erase _ _ => out = []
  | .removeIf f => out = s.asked (.removeIf f)

/-- The operation goes through as it should, and the registry is in order after it. -/
def KeepsOrder (s : RegLedger ν) (op : Op ν) : Prop :=
  ∃ t out, s.apply op = .ok (t, out) ∧ s.Answered out op ∧ t.InOrder

/-- The operation goes through as it should, and the registry is in order after it and finds what it has. -/
def GoesThrough (s : RegLedger ν) (op : Op ν) : Prop :=
  ∃ t out, s.apply op = .ok (t, out) ∧ s.Answered out op ∧ t.RegLaw

/-- The operation leaves fewer than `2 ^ 31` buckets to search. -/
def StaysSearchable (s : RegLedger ν) (op : Op ν) : Prop :=
  ∀ t out, s.apply op = .ok (t, out) → t.reg.Searchable

/-- What the operations keep right: the keys count the pushes, from one on. -/
structure Tracks (s : RegLedger ν) : Prop where
  holds : s.reg.Holds s.kept
  keyId : s.reg.keyId = s.pushed.length + 1
  keys : s.pushed.map Prod.fst = List.range' 1 s.pushed.length
  erased : ∀ key ∈ s.erased, key < s.reg.keyId
  dense : s.reg.Dense

variable {s : RegLedger ν} {op : Op ν} {ops : List (Op ν)}

theorem tracks_init : (init : RegLedger ν).Tracks where
  holds := AssocReg.holds_init
  keyId := rfl
  keys := rfl
  erased := nofun
  dense := Nat.zero_le _

theorem Tracks.key_lt (h : s.Tracks) {key : Nat} (hk : key ∈ s.pushed.map Prod.fst) : key < s.reg.keyId := by
  rw [h.keys, List.mem_range'_1] at hk
  rw [h.keyId]
  omega

/-- A pair that the registry has was pushed. -/
theorem mem_kept {e : Nat × ν} : e ∈ s.kept ↔ e ∈ s.pushed ∧ e.1 ∉ s.erased := by
  rw [kept, List.mem_filter, decide_eq_true_eq]

theorem Tracks.asked_lt (h : s.Tracks) {key : Nat} (hk : key ∈ s.asked op) : key < s.reg.keyId := by
  cases op with
  | pushBack v => cases hk
  | erase startIt endIt =>
    obtain ⟨⟨_, v⟩, he, rfl⟩ := List.mem_map.mp hk
    exact h.holds.lt _ (List.mem_of_mem_take (List.mem_of_mem_drop (AssocReg.mem_live.mp he)))
  | removeIf f =>
    obtain ⟨e, he, rfl⟩ := List.mem_map.mp hk
    exact h.key_lt (List.mem_map_of_mem (mem_kept.mp (List.mem_of_mem_filter he)).1)

theorem Tracks.erase (h : s.Tracks) {reg : AssocReg ν} (hh : reg.Holds (s.kept.filter (·.1 ∉ s.asked op)))
    (hk : reg.keyId = s.reg.keyId) (hd : reg.Dense) : Tracks { s with reg, erased := s.erased ++ s.asked op } where
  holds := by
    rw [kept, List.filter_filter] at hh
    convert hh using 1
    refine List.filter_congr fun e _ => ?_
    rw [← Bool.decide_and, decide_eq_decide, List.mem_append, not_or, and_comm]
  keyId := hk.trans h.keyId
  keys := h.keys
  erased := by
    intro key hmem
    rw [hk]
    rcases List.mem_append.mp hmem with hmem | hmem
    · exact h.erased key hmem
    · exact h.asked_lt hmem
  dense := hd

theorem Tracks.pushBack (h : s.Tracks) (v : ν) (hn : s.pushed.length + 1 < 4294967296) :
    ∃ t, s.apply (.pushBack v) = .ok (t, [s.reg.keyId]) ∧ t.Tracks ∧ t.pushed.length = s.pushed.length + 1 := by
  obtain ⟨reg, hreg, hh, hk⟩ := h.holds.pushBack (h.keyId ▸ hn) v
  have hlen : (s.pushed ++ [(s.reg.keyId, v)]).length = s.pushed.length + 1 := List.length_append
  refine ⟨_, by rw [apply, hreg]; rfl, ⟨?_, ?_, ?_, ?_, h.holds.dense_pushBack h.dense hreg⟩, hlen⟩
  · have hnew : s.reg.keyId ∉ s.erased := fun hmem => Nat.lt_irrefl _ (h.erased _ hmem)
    rw [kept, List.filter_append, List.filter_singleton, decide_eq_true hnew]
    exact hh
  · exact (hk.trans (congrArg (· + 1) h.keyId)).trans (congrArg (· + 1) hlen.symm)
  · rw [hlen, List.map_append, h.keys, List.range'_concat, h.keyId, Nat.add_comm, Nat.one_mul]
    rfl
  · intro key hmem
    exact hk ▸ Nat.lt_succ_of_lt (h.erased key hmem)

theorem Tracks.new_key (h : s.Tracks) : s.reg.keyId ∉ s.pushed.map Prod.fst :=
  fun hmem => Nat.lt_irrefl _ (h.key_lt hmem)

/-- Every operation goes through, and keeps the registry in order. -/
theorem Tracks.step (h : s.Tracks) (hp : s.Proper op) (hn : s.pushed.length + pushes (op :: ops) < 4294967296) :
    ∃ t out, s.apply op = .ok (t, out) ∧ s.Answered out op ∧ t.Tracks ∧
      t.pushed.length + pushes ops = s.pushed.length + pushes (op :: ops) := by
  cases op with
  | pushBack v =>
    rw [pushes] at hn ⊢
    obtain ⟨t, ht, htr, hlen⟩ := h.pushBack v (by omega)
    exact ⟨t, _, ht, ⟨_, rfl, h.new_key⟩, htr, by omega⟩
  | erase startIt endIt =>
    obtain ⟨reg, hreg, hh, hk, hd⟩ := h.holds.eraseRange hp
    exact ⟨_, _, by rw [apply, hreg]; rfl, rfl, Tracks.erase h hh hk (hd h.dense), rfl⟩
  | removeIf f =>
    obtain ⟨reg, hreg, hh, hk, hd⟩ := h.holds.removeIfRangeReg f
    exact ⟨_, _, by rw [apply, hreg]; rfl, rfl, Tracks.erase h hh hk hd, rfl⟩

theorem Tracks.length_lt (h : s.Tracks) (hn : s.pushed.length < 4294967296) : s.reg.arr.length < 4294967296 := by
  have hlt := h.holds.length_lt_keyId
  rw [h.keyId] at hlt
  omega

theorem Tracks.found (h : s.Tracks) (hs : s.reg.Searchable) {key : Nat} {v : ν} (hv : (key, v) ∈ s.kept) :
    s.lookUp key = .ok (some v) := by
  have hpos : 0 < key := by
    have hmem := hv
    rw [← h.holds.live, AssocReg.mem_live] at hmem
    exact h.holds.pos _ hmem
  rcases h.holds.find hs hpos with ⟨w, it, hw, hfind, hit⟩ | ⟨hno, -⟩
  · obtain rfl : w = v := congrArg Prod.snd (h.holds.eq_of_key hw hv rfl)
    obtain ⟨hlt, -⟩ := List.getElem?_eq_some_iff.mp hit
    have hval : s.reg.value it = .ok w := by
      rw [AssocReg.value, hit]
      rfl
    rw [lookUp, hfind, Except.ok_bind, if_neg (show it ≠ s.reg.end_ from hlt.ne), hval]
    rfl
  · exact absurd hv (hno v)

theorem Tracks.notFound (h : s.Tracks) (hn : s.pushed.length < 4294967296) {key : Nat} (hpos : 0 < key)
    (hno : ∀ v, (key, v) ∉ s.kept) : s.reg.find s.reg.front s.reg.end_ key = .ok s.reg.end_ := by
  by_cases hs : s.reg.Searchable
  · rcases h.holds.find hs hpos with ⟨v, -, hv, -⟩ | ⟨-, hfind⟩
    · exact absurd hv (hno v)
    · exact hfind
  · obtain ⟨e, he, hfind⟩ := h.holds.find_of_not_searchable (h.length_lt hn) hs
    refine hfind key hpos ?_
    rintro rfl
    exact hno e.2 he

/-- Of two keys one at least is not that of the first bucket, so a registry that finds its keys is searchable. -/
theorem Tracks.searchable (h : s.Tracks) (hn : s.pushed.length < 4294967296)
    (hfound : ∀ key v, (key, v) ∈ s.kept → s.lookUp key = .ok (some v)) : s.reg.Searchable := by
  by_contra hs
  obtain ⟨e, -, hfind⟩ := h.holds.find_of_not_searchable (h.length_lt hn) hs
  have htwo : 2 ≤ s.kept.length := by
    have hge : 2147483648 ≤ s.reg.arr.length - s.reg.front := Nat.le_of_not_lt hs
    have hd := h.dense
    rw [AssocReg.Dense] at hd
    rw [← h.holds.sz]
    omega
  -- A pair with another key than the first one
  have hother : ∃ a ∈ s.kept, a.1 ≠ e.1 := by
    have hsorted := h.holds.sorted_keys
    rcases hk : s.kept with _ | ⟨a, _ | ⟨b, l⟩⟩
    · simp [hk] at htwo
    · simp [hk] at htwo
    · rw [hk] at hsorted
      have hab : a.1 < b.1 := List.rel_of_pairwise_cons hsorted List.mem_cons_self
      by_cases ha : a.1 = e.1
      · exact ⟨b, by simp, by omega⟩
      · exact ⟨a, by simp, ha⟩
  obtain ⟨⟨key, v⟩, ha, hne⟩ := hother
  have hpos : 0 < key := by
    have hmem := ha
    rw [← h.holds.live, AssocReg.mem_live] at hmem
    exact h.holds.pos _ hmem
  have hnone : s.lookUp key = .ok none := by
    rw [lookUp, hfind key hpos hne, Except.ok_bind, if_pos rfl]
    rfl
  cases hnone.symm.trans (hfound key v ha)

theorem Tracks.inOrder (h : s.Tracks) (hn : s.pushed.length < 4294967296) : s.InOrder where
  invariants := h.holds.testInvariants (Nat.lt_of_le_of_lt (List.length_filter_le _ _) hn)
  sorted := h.holds.sorted
  size := by
    rw [h.holds.live, h.holds.sz]
    exact ⟨rfl, h.holds.length_lt.le⟩
  entries := h.holds.live
  distinct := by
    rw [h.keys]
    exact List.nodup_range'
  notFound _ hpos hno := h.notFound hn hpos hno

theorem Tracks.law_iff (h : s.Tracks) (hn : s.pushed.length < 4294967296) : s.RegLaw ↔ s.reg.Searchable :=
  ⟨fun hl => h.searchable hn hl.found, fun hs => ⟨h.inOrder hn, fun _ _ hv => h.found hs hv⟩⟩

/-- The ledger is right, and what is to come is proper and pushes not too much. -/
structure Sound (s : RegLedger ν) (ops : List (Op ν)) : Prop where
  tracks : s.Tracks
  pushes : s.pushed.length + pushes ops < 4294967296
  proper : Throughout apply Proper s ops

theorem Sound.apply (h : Sound s (op :: ops)) :
    ∃ t out, s.apply op = .ok (t, out) ∧ s.Answered out op ∧ Sound t ops ∧
      t.pushed.length + RegLedger.pushes ops = s.pushed.length + RegLedger.pushes (op :: ops) := by
  obtain ⟨t, out, ht, hans, htr, hn⟩ := h.tracks.step h.proper.1 h.pushes
  exact ⟨t, out, ht, hans, ⟨htr, hn.trans_lt h.pushes, h.proper.2 t out ht⟩, hn⟩

theorem Sound.step (h : Sound s (op :: ops)) {t : RegLedger ν} {out : List Nat} (ht : s.apply op = .ok (t, out)) :
    Sound t ops ∧ t.pushed.length + RegLedger.pushes ops = s.pushed.length + RegLedger.pushes (op :: ops) := by
  obtain ⟨t', out', ht', -, hs⟩ := h.apply
  obtain ⟨rfl, rfl⟩ := Prod.mk.inj (Except.ok.inj (ht.symm.trans ht'))
  exact hs

theorem Sound.keepsOrder (h : Sound s (op :: ops)) : s.KeepsOrder op := by
  obtain ⟨t, out, ht, hans, hs, -⟩ := h.apply
  exact ⟨t, out, ht, hans, hs.tracks.inOrder (Nat.lt_of_le_of_lt (Nat.le_add_right _ _) hs.pushes)⟩

theorem Sound.goesThrough_iff (h : Sound s (op :: ops)) : s.GoesThrough op ↔ s.StaysSearchable op := by
  obtain ⟨t, out, ht, hans, hs, -⟩ := h.apply
  have hiff := hs.tracks.law_iff (Nat.lt_of_le_of_lt (Nat.le_add_right _ _) hs.pushes)
  have huniq : ∀ t' out', s.apply op = .ok (t', out') → t' = t := fun t' out' ht' =>
    (Prod.mk.inj (Except.ok.inj (ht'.symm.trans ht))).1
  constructor
  · rintro ⟨t', out', ht', -, hl⟩ t'' out'' ht''
    obtain rfl := huniq t' out' ht'
    obtain rfl := huniq t'' out'' ht''
    exact hiff.mp hl
  · intro hst
    exact ⟨t, out, ht, hans, hiff.mpr (hst t out ht)⟩

/-- The look-ups of a run go through exactly when they are of searchable registries, and all the rest goes through. -/
theorem registry_of_sound (h₀ : Sound (init : RegLedger ν) ops) :
    Throughout apply KeepsOrder (init : RegLedger ν) ops ∧
      (Throughout apply GoesThrough (init : RegLedger ν) ops ↔
        Throughout apply StaysSearchable (init : RegLedger ν) ops) ∧ ∀ r : AssocReg ν, r.Maintained := by
  refine ⟨?_, ?_, AssocReg.maintained⟩
  · exact throughout_of (I := Sound) (fun _ _ _ h => h.keepsOrder) (fun _ _ _ _ _ h ht => (h.step ht).1) h₀
  · exact throughout_iff (I := Sound) (fun _ _ _ h => h.goesThrough_iff) (fun _ _ _ _ _ h _ ht => (h.step ht).1) h₀

/-- In a run of fewer than `2 ^ 32` pushes every operation goes through, and the registry is in order after it: it has
the pairs that were pushed and not erased, and finds no others. It finds all of them exactly as long as the buckets to
search are fewer than `2 ^ 31`. The maintenance never changes what a registry has. -/
theorem registry_goesThrough_iff (hp : Throughout apply Proper (init : RegLedger ν) ops)
    (hn : pushes ops < 4294967296) :
    Throughout apply KeepsOrder (init : RegLedger ν) ops ∧
      (Throughout apply GoesThrough (init : RegLedger ν) ops ↔
        Throughout apply StaysSearchable (init : RegLedger ν) ops) ∧ ∀ r : AssocReg ν, r.Maintained :=
  registry_of_sound ⟨tracks_init, (Nat.zero_add _).trans_lt hn, hp⟩

/-- Fewer than `2 ^ 31` pushes leave fewer buckets than that. -/
theorem staysSearchable_of_pushes (h : Sound s ops) (hn : s.pushed.length + pushes ops < 2147483648) :
    Throughout apply StaysSearchable s ops := by
  refine throughout_of (I := fun s ops => Sound s ops ∧ s.pushed.length + pushes ops < 2147483648) ?_ ?_ ⟨h, hn⟩
  · rintro s op ops ⟨h, hn⟩ t out ht
    obtain ⟨hs, hlen⟩ := h.step ht
    refine hs.tracks.holds.searchable ?_
    rw [hs.tracks.keyId]
    omega
  · rintro s op ops t out ⟨h, hn⟩ ht
    obtain ⟨hs, hlen⟩ := h.step ht
    exact ⟨hs, by omega⟩

/-- Values are pushed, a range in the middle is erased, the even ones are removed, and another one is pushed. -/
def regOps : List (Op Nat) :=
  [.pushBack 10, .pushBack 11, .pushBack 12, .pushBack 13, .erase 1 3, .removeIf (· % 2 = 0), .pushBack 14]

theorem registry_goesThrough_regOps : Throughout apply KeepsOrder init regOps ∧ Throughout apply GoesThrough init regOps ∧
    ∀ r : AssocReg Nat, r.Maintained := by
  have hp : Throughout apply Proper init regOps := by decide +kernel
  obtain ⟨hkeeps, hiff, hmaint⟩ := registry_goesThrough_iff hp (by decide)
  exact ⟨hkeeps, hiff.mpr (staysSearchable_of_pushes ⟨tracks_init, by decide, hp⟩ (by decide)), hmaint⟩

/-! ### A search whose length does not fit -/

theorem pushes_replicate (n : Nat) (v : ν) : pushes (List.replicate n (.pushBack v)) = n := by
  induction n with
  | zero => rfl
  | succ n ih => exact congrArg (· + 1) ih

theorem proper_replicate (n : Nat) (v : ν) (s : RegLedger ν) :
    Throughout apply Proper s (List.replicate n (.pushBack v)) := by
  induction n generalizing s with
  | zero => trivial
  | succ n ih => exact ⟨trivial, fun t _ _ => ih t⟩

/-- After pushes alone the registry has as many pairs, and they are searchable when the pushes left them so. -/
theorem Sound.pushed {n : Nat} {v : ν} (h : Sound s (List.replicate n (.pushBack v))) (he : s.erased = [])
    (hr : s.reg.Searchable) (hs : Throughout RegLedger.apply StaysSearchable s (List.replicate n (.pushBack v))) :
    ∃ t : RegLedger ν, t.Tracks ∧ t.erased = [] ∧ t.pushed.length = s.pushed.length + n ∧ t.reg.Searchable := by
  induction n generalizing s with
  | zero => exact ⟨s, h.tracks, he, rfl, hr⟩
  | succ n ih =>
    obtain ⟨t, out, ht, -, hst, hlen⟩ := h.apply
    have het : t.erased = [] := by
      obtain ⟨_, -, ho⟩ := Except.bind_eq_ok.mp ht
      obtain ⟨rfl, -⟩ := Prod.mk.inj (Except.ok.inj ho)
      exact he
    obtain ⟨u, hu, heu, hlu, hru⟩ := ih hst het (hs.1 t out ht) (hs.2 t out ht)
    rw [pushes_replicate, RegLedger.pushes, pushes_replicate] at hlen
    exact ⟨u, hu, heu, by omega, hru⟩

/-- After `2 ^ 31` pushes or more, of their keys only the first is found. -/
theorem not_goesThrough_replicate {n : Nat} (v : ν) (h₁ : 2147483648 ≤ n) (h₂ : n < 4294967296) :
    ¬Throughout apply GoesThrough (init : RegLedger ν) (List.replicate n (.pushBack v)) := by
  intro hg
  have hpush : pushes (List.replicate n (.pushBack v)) < 4294967296 := by rwa [pushes_replicate]
  have h₀ : Sound (init : RegLedger ν) (List.replicate n (.pushBack v)) :=
    ⟨tracks_init, (Nat.zero_add _).trans_lt hpush, proper_replicate n v init⟩
  obtain ⟨-, hiff, -⟩ := registry_of_sound h₀
  obtain ⟨t, ht, he, hlen, hr⟩ := h₀.pushed rfl (Nat.two_pow_pos 31) (hiff.mp hg)
  have hle := AssocReg.length_live_le_sub t.reg
  have hkept : t.kept = t.pushed := List.filter_eq_self.mpr fun e _ => by simp [he]
  have hzero : (init : RegLedger ν).pushed.length = 0 := rfl
  rw [ht.holds.live, hkept, hlen] at hle
  rw [AssocReg.Searchable] at hr
  omega

theorem not_goesThrough_pushes :
    Throughout apply Proper (init : RegLedger Unit) (List.replicate 2147483648 (.pushBack ())) ∧
      pushes (List.replicate 2147483648 (.pushBack ())) < 4294967296 ∧
        ¬Throughout apply GoesThrough (init : RegLedger Unit) (List.replicate 2147483648 (.pushBack ())) :=
  ⟨proper_replicate _ _ _, (pushes_replicate _ _).trans_lt (by decide), not_goesThrough_replicate _ (by decide) (by decide)⟩

end RegLedger

end FlexRic.Ds
