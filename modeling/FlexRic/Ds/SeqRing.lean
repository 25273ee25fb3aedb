import Mathlib.Data.List.GetD
import Mathlib.Data.Nat.ModEq
import FlexRic.Lib.Except

/-! # The ring of tasks of `task_manager.c`

`seq_ring_t`: an array that doubles when it is full. The head and the tail are counters of 32 bits that run on, and
their low bits are positions in the array. As long as it holds fewer than `2 ^ 32` elements, the ring is the list of
what was pushed and not erased. -/

namespace FlexRic.Ds

universe u

/-- `seq_ring_t`; a slot that is zero is `none`. -/
structure SeqRing (α : Type u) where
  array : Nat → Option α
  cap : Nat
  head : Nat
  tail : Nat

namespace SeqRing
variable {α : Type u}

/-- `DEFAULT_ELM` -/
def defaultElm : Nat := 32768

/-- What a `uint32_t` makes of the number. -/
def wrap (n : Nat) : Nat := n % 4294967296

/-- `mask` -/
def mask (cap val : Nat) : Nat := val &&& wrap (cap + 4294967295)

/-- `seq_ring_init` -/
def init : SeqRing α := ⟨fun _ => none, defaultElm, 0, 0⟩

/-- `seq_ring_size` -/
def size (r : SeqRing α) : Nat := wrap (r.head + 4294967296 - r.tail)

/-- `full` -/
def full (r : SeqRing α) : Prop := r.size = r.cap - 1

instance (r : SeqRing α) : Decidable r.full := inferInstanceAs (Decidable (r.size = r.cap - 1))

/-- The slots that `enlarge_buffer` copies, from the tail on. -/
def copied (r : SeqRing α) : Nat → Option α :=
  let headPos := mask r.cap r.head
  let tailPos := mask r.cap r.tail
  if headPos > tailPos then fun j => if j < headPos - tailPos then r.array (tailPos + j) else none
  else fun j =>
    if j < r.cap - tailPos then r.array (tailPos + j)
    else if j < r.cap - tailPos + headPos then r.array (j - (r.cap - tailPos))
    else none

/-- `enlarge_buffer` -/
def enlargeBuffer (r : SeqRing α) : SeqRing α where
  array := r.copied
  cap := r.cap * 2
  head := wrap (r.cap * 2 / 2 - 1)
  tail := 0

/-- `seq_ring_push_back` -/
def pushBack (r : SeqRing α) (x : α) : SeqRing α :=
  let r := if r.full then r.enlargeBuffer else r
  let pos := mask r.cap r.head
  { r with array := fun j => if j = pos then some x else r.array j, head := wrap (r.head + 1) }

/-- `seq_ring_at` -/
def at_ (r : SeqRing α) (pos : Nat) : Option α := r.array (mask r.cap (wrap (r.tail + pos)))

/-- The ring after its slots from the tail up to the end are zeroed. -/
def erased (r : SeqRing α) (startPos endPos : Nat) : SeqRing α :=
  if endPos > startPos then
    { r with
      array := fun j => if startPos ≤ j ∧ j < endPos then none else r.array j
      tail := wrap (r.tail + (endPos - startPos)) }
  else
    { r with
      array := fun j => if startPos ≤ j ∧ j < r.cap ∨ j < endPos then none else r.array j
      tail := wrap (r.tail + (r.cap - startPos + endPos)) }

/-- `seq_ring_erase` from the front to the element at `len` -/
def erase (r : SeqRing α) (len : Nat) : Except String (SeqRing α) :=
  let startPos := mask r.cap r.tail
  let endPos := mask r.cap (wrap (r.tail + len))
  let r' := r.erased startPos endPos
  if startPos = endPos then .ok r
  else if ¬endPos ≤ r.cap then .error "end_pos <= r->cap"
  else if mask r'.cap r'.tail ≠ endPos then .error "mask(r->cap, r->tail) == end_pos"
  else .ok r'

/-- The elements of the ring, from the tail to the head. -/
def toList (r : SeqRing α) : List (Option α) := (List.range r.size).map r.at_

/-! ### The list that a ring is -/

/-- The ring has the elements of the list. -/
structure Holds (r : SeqRing α) (l : List α) : Prop where
  cap : ∃ k, 1 ≤ k ∧ k ≤ 32 ∧ r.cap = 2 ^ k
  tail : r.tail < 4294967296
  head : r.head = wrap (r.tail + l.length)
  length : l.length < r.cap
  slot : ∀ i, i < l.length → r.array ((r.tail + i) % r.cap) = l[i]?

section Positions
variable {k c t i : Nat}

theorem two_pow_dvd (hk : k ≤ 32) : 2 ^ k ∣ 4294967296 := pow_dvd_pow 2 hk

theorem mask_eq (hk : k ≤ 32) (v : Nat) : mask (2 ^ k) v = v % 2 ^ k := by
  have hpos : 0 < 2 ^ k := Nat.two_pow_pos k
  have hle : 2 ^ k ≤ 4294967296 := Nat.le_of_dvd (by decide) (two_pow_dvd hk)
  have hw : wrap (2 ^ k + 4294967295) = 2 ^ k - 1 := by
    unfold wrap
    omega
  rw [mask, hw, Nat.and_two_pow_sub_one_eq_mod]

theorem wrap_mod (hk : k ≤ 32) (n : Nat) : wrap n % 2 ^ k = n % 2 ^ k := Nat.mod_mod_of_dvd n (two_pow_dvd hk)

/-- The position of the element at `i`, from that of the first one. -/
theorem pos_eq (hi : i < c) : (t + i) % c = if t % c + i < c then t % c + i else t % c + i - c := by
  have ht : t % c < c := Nat.mod_lt _ (by omega)
  rw [Nat.add_mod, Nat.mod_eq_of_lt hi]
  split
  · exact Nat.mod_eq_of_lt ‹_›
  · rw [Nat.mod_eq_sub_mod (by omega), Nat.mod_eq_of_lt (by omega)]

end Positions

theorem holds_init : (init : SeqRing α).Holds [] where
  cap := ⟨15, Nat.le_of_ble_eq_true rfl, Nat.le_of_ble_eq_true rfl, rfl⟩
  tail := Nat.zero_lt_succ _
  head := rfl
  length := Nat.zero_lt_succ _
  slot i hi := by cases hi

section Holds
variable {r : SeqRing α} {l : List α}

theorem Holds.cap_le (h : r.Holds l) : r.cap ≤ 4294967296 := by
  obtain ⟨k, -, hk, hc⟩ := h.cap
  exact hc ▸ Nat.le_of_dvd (by decide) (two_pow_dvd hk)

theorem Holds.size_eq (h : r.Holds l) : r.size = l.length := by
  have ht := h.tail
  have hl := h.length
  have hc := h.cap_le
  rw [size, h.head]
  unfold wrap
  omega

theorem Holds.mask_wrap (h : r.Holds l) (n : Nat) : mask r.cap (wrap n) = n % r.cap := by
  obtain ⟨k, -, hk, hc⟩ := h.cap
  rw [hc, mask_eq hk (wrap n), wrap_mod hk]

theorem Holds.mask_tail (h : r.Holds l) : mask r.cap r.tail = r.tail % r.cap := by
  have hw := h.mask_wrap r.tail
  rwa [wrap, Nat.mod_eq_of_lt h.tail] at hw

theorem Holds.at_eq (h : r.Holds l) {i : Nat} (hi : i < l.length) : r.at_ i = l[i]? := by
  rw [at_, h.mask_wrap, h.slot i hi]

theorem Holds.toList_eq (h : r.Holds l) : r.toList = l.map some := by
  refine List.ext_getElem? fun i => ?_
  rw [toList, h.size_eq, List.getElem?_map, List.getElem?_map]
  by_cases hi : i < l.length
  · rw [List.getElem?_range hi, Option.map_some, h.at_eq hi, List.getElem?_eq_getElem hi]
    rfl
  · rw [List.getElem?_eq_none (by simpa using hi), List.getElem?_eq_none (by simpa using hi)]
    rfl

/-- Where an element is, as a position of the array. -/
theorem Holds.slot_eq (h : r.Holds l) {i : Nat} (hi : i < l.length) :
    r.array (if r.tail % r.cap + i < r.cap then r.tail % r.cap + i else r.tail % r.cap + i - r.cap) = l[i]? := by
  rw [← pos_eq (hi.trans h.length)]
  exact h.slot i hi

/-! ### Pushing and erasing -/

theorem Holds.mask_head (h : r.Holds l) : mask r.cap r.head = (r.tail + l.length) % r.cap := by
  rw [h.head, h.mask_wrap]

theorem Holds.full_iff (h : r.Holds l) : r.full ↔ l.length + 1 = r.cap := by
  have hl := h.length
  rw [full, h.size_eq]
  omega

theorem Holds.push (h : r.Holds l) (hl : l.length + 1 < r.cap) (x : α) :
    SeqRing.Holds { r with
      array := fun j => if j = mask r.cap r.head then some x else r.array j
      head := wrap (r.head + 1) } (l ++ [x]) where
  cap := h.cap
  tail := h.tail
  head := by
    dsimp only
    rw [h.head, List.length_append, List.length_singleton]
    unfold wrap
    omega
  length := by simpa using hl
  slot i hi := by
    dsimp only
    rw [h.mask_head, pos_eq h.length, pos_eq (by simp at hi; omega)]
    have ht : r.tail % r.cap < r.cap := Nat.mod_lt _ (by omega)
    rcases Nat.lt_or_ge i l.length with hi' | hi'
    · rw [if_neg (by split <;> split <;> omega), h.slot_eq hi', List.getElem?_append_left hi']
    · obtain rfl : i = l.length := by simp at hi; omega
      rw [if_pos rfl, List.getElem?_concat_length]

/-- The larger array begins with the elements, in their order. -/
theorem Holds.copied_eq (h : r.Holds l) (hf : l.length + 1 = r.cap) {j : Nat} (hj : j < l.length) :
    r.copied j = l[j]? := by
  have ht : r.tail % r.cap < r.cap := Nat.mod_lt _ (by omega)
  rw [← h.slot_eq hj]
  by_cases h0 : r.tail % r.cap = 0
  · have hhead : (r.tail + l.length) % r.cap = r.cap - 1 := by
      rw [pos_eq h.length, if_pos (by omega)]
      omega
    simp only [copied, h.mask_head, h.mask_tail, hhead, h0]
    rw [if_pos (by omega), if_pos (by omega), if_pos (by omega)]
  · have hhead : (r.tail + l.length) % r.cap = r.tail % r.cap - 1 := by
      rw [pos_eq h.length, if_neg (by omega)]
      omega
    simp only [copied, h.mask_head, h.mask_tail, hhead]
    rw [if_neg (by omega)]
    by_cases hjt : r.tail % r.cap + j < r.cap
    · rw [if_pos (by omega), if_pos hjt]
    · rw [if_neg (by omega), if_pos (by omega), if_neg hjt]
      congr 1
      omega

theorem Holds.enlargeBuffer (h : r.Holds l) (hf : l.length + 1 = r.cap) (hc : r.cap < 4294967296) :
    r.enlargeBuffer.Holds l where
  cap := by
    obtain ⟨k, hk₁, -, hk⟩ := h.cap
    have hlt : 2 ^ k < 2 ^ 32 := hk ▸ hc
    have hk₂ : k < 32 := (Nat.pow_lt_pow_iff_right (by decide)).mp hlt
    exact ⟨k + 1, by omega, hk₂, by rw [SeqRing.enlargeBuffer, hk, Nat.pow_succ]⟩
  tail := Nat.zero_lt_succ _
  head := by
    simp only [SeqRing.enlargeBuffer]
    congr 1
    omega
  length := by
    simp only [SeqRing.enlargeBuffer]
    omega
  slot i hi := by
    simp only [SeqRing.enlargeBuffer]
    rw [Nat.mod_eq_of_lt (by omega), Nat.zero_add, h.copied_eq hf hi]

theorem Holds.pushBack (h : r.Holds l) (hl : l.length + 1 < 4294967296) (x : α) : (r.pushBack x).Holds (l ++ [x]) := by
  have hlen := h.length
  rw [SeqRing.pushBack]
  by_cases hf : r.full
  · have hf' := h.full_iff.mp hf
    rw [if_pos hf]
    refine (h.enlargeBuffer hf' (by omega)).push ?_ x
    simp only [SeqRing.enlargeBuffer]
    omega
  · have hf' := mt h.full_iff.mpr hf
    rw [if_neg hf]
    exact h.push (by omega) x

/-- The counters are too small for the next size: the ring looks empty when `2 ^ 32` elements are in it. -/
theorem Holds.size_pushBack (h : r.Holds l) (hl : l.length + 1 = 4294967296) (x : α) : (r.pushBack x).size = 0 := by
  have hlen := h.length
  have hcap := h.cap_le
  have hc : r.cap = 4294967296 := by omega
  rw [SeqRing.pushBack, if_pos (h.full_iff.mpr (by omega))]
  simp only [size, SeqRing.enlargeBuffer, hc]
  rfl

theorem Holds.erase (h : r.Holds l) {n : Nat} (hn : 0 < n) (hl : n ≤ l.length) :
    ∃ r', r.erase n = .ok r' ∧ r'.Holds (l.drop n) := by
  have hlen := h.length
  have ht : r.tail % r.cap < r.cap := Nat.mod_lt _ (by omega)
  have hpos := pos_eq (t := r.tail) (show n < r.cap by omega)
  have hmask : mask r.cap (wrap (r.tail + n)) = (r.tail + n) % r.cap := h.mask_wrap _
  -- Whether the elements go round the end of the array or not, the tail moves by their number.
  have key : ∀ zero : Nat → Prop, ∀ [DecidablePred zero],
      (∀ i, n ≤ i → i < l.length → ¬zero ((r.tail + i) % r.cap)) →
      SeqRing.Holds ⟨fun j => if zero j then none else r.array j, r.cap, r.head, wrap (r.tail + n)⟩ (l.drop n) := by
    intro zero _ hz
    refine ⟨h.cap, Nat.mod_lt _ (by decide), ?_, ?_, fun i hi => ?_⟩
    · dsimp only
      rw [h.head, List.length_drop]
      unfold wrap
      omega
    · dsimp only
      rw [List.length_drop]
      omega
    · rw [List.length_drop] at hi
      have hslot : (wrap (r.tail + n) + i) % r.cap = (r.tail + (n + i)) % r.cap := by
        obtain ⟨k, -, hk, hc⟩ := h.cap
        rw [hc, Nat.add_mod, wrap_mod hk, ← Nat.add_mod, Nat.add_assoc]
      dsimp only
      rw [hslot, if_neg (hz (n + i) (by omega) (by omega)), h.slot (n + i) (by omega), List.getElem?_drop]
  have hne : r.tail % r.cap ≠ (r.tail + n) % r.cap := by
    rw [hpos]
    split <;> omega
  have hle : (r.tail + n) % r.cap ≤ r.cap := Nat.le_of_lt (Nat.mod_lt _ (by omega))
  have run : ∀ r' : SeqRing α, r.erased (r.tail % r.cap) ((r.tail + n) % r.cap) = r' →
      mask r'.cap r'.tail = (r.tail + n) % r.cap → r.erase n = .ok r' := by
    rintro r' rfl hm
    simp only [SeqRing.erase, h.mask_tail, hmask]
    rw [if_neg hne, if_neg (not_not_intro hle), if_neg (not_not_intro hm)]
  by_cases hc : r.tail % r.cap + n < r.cap
  · rw [if_pos hc] at hpos
    have hdist : (r.tail + n) % r.cap - r.tail % r.cap = n := by omega
    refine ⟨_, run _ ?_ hmask, key (fun j => r.tail % r.cap ≤ j ∧ j < (r.tail + n) % r.cap) fun i hi₁ hi₂ => ?_⟩
    · rw [erased, if_pos (by omega), hdist]
    · rw [pos_eq (by omega)]
      split <;> omega
  · rw [if_neg hc] at hpos
    have hdist : r.cap - r.tail % r.cap + (r.tail + n) % r.cap = n := by omega
    refine ⟨_, run _ ?_ hmask,
      key (fun j => r.tail % r.cap ≤ j ∧ j < r.cap ∨ j < (r.tail + n) % r.cap) fun i hi₁ hi₂ => ?_⟩
    · rw [erased, if_neg (by omega), hdist]
    · rw [pos_eq (by omega)]
      split <;> omega

end Holds

end SeqRing

end FlexRic.Ds
