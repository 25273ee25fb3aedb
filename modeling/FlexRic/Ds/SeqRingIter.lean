import Mathlib.Logic.Function.Iterate
import FlexRic.Ds.SeqRing
import FlexRic.Lib.CInt
import FlexRic.Lib.System

/-! # The iterators of a ring

The ring of `seq_ring.c` and its copy in `task_manager.c`, which differ in `DEFAULT_ELM` alone. An iterator is the number
of elements between the beginning of the array and where it points to. -/

namespace FlexRic.Ds

universe u

namespace SeqRing
variable {α : Type u}

/-- The file that a ring comes from. -/
inductive Source
  | seqRing
  | taskManager
  deriving DecidableEq

/-- `DEFAULT_ELM` -/
def Source.defaultElm : Source → Nat
  | .seqRing => 32
  | .taskManager => SeqRing.defaultElm

/-- `seq_ring_init` -/
def initOf (c : Source) : SeqRing α := ⟨fun _ => none, c.defaultElm, 0, 0⟩

/-- `seq_ring_front` -/
def front (r : SeqRing α) : Nat := mask r.cap r.tail

/-- `seq_ring_next`; `pos` is a `uint32_t`. -/
def next (r : SeqRing α) (it : Nat) : Nat :=
  let pos := wrap it
  if wrap (pos + 1) = r.cap then 0 else it + 1

/-- `seq_ring_end` -/
def end_ (r : SeqRing α) : Nat := mask r.cap r.head

/-- `seq_ring_dist` -/
def dist (r : SeqRing α) (first last : Nat) : Int :=
  let lastPos := wrap last
  let firstPos := wrap first
  if lastPos > firstPos then int32 (lastPos - firstPos) else int32 (r.cap - firstPos + lastPos)

/-- What a walk `while(it != seq_ring_end(r))` reads; nothing when it takes more steps than these, or leaves the
array. -/
def walk (r : SeqRing α) : Nat → Nat → Option (List (Option α))
  | 0, it => if it = r.end_ then some [] else none
  | steps + 1, it =>
    if it = r.end_ then some []
    else if ¬it < r.cap then none
    else (walk r steps (r.next it)).map (r.array it :: ·)

/-! ### Where the iterators are -/

section Positions
variable {r : SeqRing α} {l : List α}

theorem wrap_lt (n : Nat) : wrap n < 4294967296 := Nat.mod_lt n (by decide)

theorem size_lt (r : SeqRing α) : r.size < 4294967296 := wrap_lt _

/-- How many values a position that is masked can have. -/
def span (r : SeqRing α) : Nat := min r.cap 4294967296

/-- What there is to know about a ring that any run leads to. -/
structure Sound (r : SeqRing α) : Prop where
  cap : ∃ k, 1 ≤ k ∧ r.cap = 2 ^ k
  tail : r.tail < 4294967296
  size : r.size < r.cap

theorem Holds.sound (h : r.Holds l) : r.Sound where
  cap := by
    obtain ⟨k, hk, -, hc⟩ := h.cap
    exact ⟨k, hk, hc⟩
  tail := h.tail
  size := h.size_eq ▸ h.length

theorem Sound.span_cases (h : r.Sound) :
    r.cap < 4294967296 ∧ r.span = r.cap ∨ (∃ q, r.cap = 4294967296 * (q + 1)) ∧ r.span = 4294967296 := by
  obtain ⟨k, -, hc⟩ := h.cap
  rcases Nat.lt_or_ge r.cap 4294967296 with hlt | hge
  · exact .inl ⟨hlt, Nat.min_eq_left hlt.le⟩
  · have hk : 32 ≤ k := by
      have hp : 2 ^ 32 ≤ 2 ^ k := hc ▸ hge
      exact (Nat.pow_le_pow_iff_right (by decide)).mp hp
    refine .inr ⟨⟨2 ^ (k - 32) - 1, ?_⟩, Nat.min_eq_right hge⟩
    rw [Nat.sub_add_cancel (Nat.two_pow_pos _), hc, show 4294967296 = 2 ^ 32 from rfl, ← Nat.pow_add,
      Nat.add_sub_cancel' hk]

theorem Sound.mask_eq (h : r.Sound) (v : Nat) : mask r.cap v = v % r.span := by
  obtain ⟨k, -, hc⟩ := h.cap
  rcases h.span_cases with ⟨hlt, hs⟩ | ⟨⟨q, hq⟩, hs⟩
  · have hk : k ≤ 32 := by
      have hp : 2 ^ k ≤ 2 ^ 32 := hc ▸ hlt.le
      exact (Nat.pow_le_pow_iff_right (by decide)).mp hp
    rw [hs, hc, SeqRing.mask_eq hk]
  · have hw : wrap (r.cap + 4294967295) = 2 ^ 32 - 1 := by
      unfold wrap
      omega
    rw [hs, mask, hw, Nat.and_two_pow_sub_one_eq_mod]

theorem Sound.wrap_next (h : r.Sound) {it : Nat} (hit : wrap it < r.span) :
    wrap (r.next it) = (wrap it + 1) % r.span := by
  simp only [next]
  rcases h.span_cases with ⟨hlt, hs⟩ | ⟨⟨q, hq⟩, hs⟩
  · rw [hs] at hit ⊢
    have hw : wrap (wrap it + 1) = wrap it + 1 := Nat.mod_eq_of_lt (by omega)
    rw [hw]
    split
    · next hend => rw [hend, Nat.mod_self]; rfl
    · next hend =>
      rw [Nat.mod_eq_of_lt (by omega)]
      unfold wrap at hit hw ⊢
      omega
  · have hne : wrap (wrap it + 1) ≠ r.cap := by
      have hlt := wrap_lt (wrap it + 1)
      omega
    rw [if_neg hne, hs]
    unfold wrap
    omega

/-- The position of an iterator that is so many steps from the front. -/
theorem Sound.wrap_iterate (h : r.Sound) (a : Nat) : wrap (r.next^[a] r.front) = (r.tail + a) % r.span := by
  have hpos : 0 < r.span := by
    have hs := h.size
    unfold span
    omega
  have hle : r.span ≤ 4294967296 := Nat.min_le_right _ _
  induction a with
  | zero =>
    have hlt : r.tail % r.span < r.span := Nat.mod_lt _ hpos
    rw [Function.iterate_zero_apply, front, h.mask_eq, Nat.add_zero, wrap, Nat.mod_eq_of_lt (by omega)]
  | succ a ih =>
    rw [Function.iterate_succ_apply', h.wrap_next (ih ▸ Nat.mod_lt _ hpos), ih, Nat.mod_add_mod]
    rfl

theorem Holds.front_eq (h : r.Holds l) : r.front = r.tail % r.cap := h.mask_tail

theorem Holds.end_eq (h : r.Holds l) : r.end_ = (r.tail + l.length) % r.cap := h.mask_head

theorem Holds.pos_ne_end (h : r.Holds l) {i : Nat} (hi : i < l.length) : (r.tail + i) % r.cap ≠ r.end_ := by
  have hl := h.length
  rw [h.end_eq, pos_eq (hi.trans hl), pos_eq hl]
  split <;> split <;> omega

/-- In an array of `2 ^ 32` slots the last one is not seen as such. -/
theorem Holds.next_eq (h : r.Holds l) {it : Nat} (hit : it < r.cap) (hin : r.cap = 4294967296 → it + 1 < r.cap) :
    r.next it = (it + 1) % r.cap := by
  have hc := h.cap_le
  have hw : wrap it = it := Nat.mod_eq_of_lt (by omega)
  simp only [next, hw]
  by_cases hend : it + 1 = r.cap
  · have hcap : r.cap < 4294967296 := lt_of_le_of_ne hc fun heq => absurd hend (hin heq).ne
    rw [hend, wrap, Nat.mod_eq_of_lt hcap, if_pos rfl, Nat.mod_self]
  · have hwrap : wrap (it + 1) = it + 1 := Nat.mod_eq_of_lt (by omega)
    rw [hwrap, if_neg hend, Nat.mod_eq_of_lt (by omega)]

/-- The iterator that is `i` steps from the front -/
theorem Holds.iterate_eq (h : r.Holds l) {i : Nat} (hin : r.cap = 4294967296 → r.tail + i < 4294967296) :
    r.next^[i] r.front = (r.tail + i) % r.cap := by
  have hl := h.length
  induction i with
  | zero => exact h.front_eq
  | succ i ih =>
    have hlt : (r.tail + i) % r.cap < r.cap := Nat.mod_lt _ (by omega)
    rw [Function.iterate_succ_apply', ih fun hcap => Nat.lt_of_succ_lt (hin hcap), h.next_eq hlt, Nat.mod_add_mod]
    · rfl
    · intro hcap
      have hlast := hin hcap
      rw [Nat.mod_eq_of_lt (by omega)]
      omega

end Positions

/-! ### The pushes and erasures that a ring sees -/

/-- A ring, and what was pushed to it and not erased. -/
structure Traced (α : Type u) where
  ring : SeqRing α
  live : List α

inductive Op (α : Type u)
  /-- `seq_ring_push_back` -/
  | push (x : α)
  /-- `seq_ring_erase` of so many elements from the front on -/
  | erase (n : Nat)
  deriving DecidableEq

def Traced.step (s : Traced α) : Op α → Outcome (Traced α)
  | .push x => return ⟨s.ring.pushBack x, s.live ++ [x]⟩
  | .erase n => do
    Outcome.await (n ≤ s.live.length)
    let r ← .ofExcept (s.ring.erase n)
    return ⟨r, s.live.drop n⟩

end SeqRing

/-- A ring from its initialisation on. -/
def seqRing (α : Type u) (c : SeqRing.Source) : System (SeqRing.Traced α) (SeqRing.Op α) :=
  ⟨⟨.initOf c, []⟩, SeqRing.Traced.step⟩

end FlexRic.Ds
