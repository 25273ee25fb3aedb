import FlexRic.Ds.SeqRingIter

/-! # A ring is the list of what was pushed and not erased

As long as its counters do not pass the end of an array of `2 ^ 32` slots: `pos + 1` is `0` there for
`seq_ring_next`, and the size is `0` again when as many elements are in the ring. -/

namespace FlexRic.Ds.SeqRing

universe u

variable {α : Type u} {r : SeqRing α} {l : List α} {s : Traced α} {c : Source} {as : List (Op α)}

/-- What the functions of the ring say is what is so of the list. -/
structure Fifo (r : SeqRing α) (l : List α) : Prop where
  size : r.size = l.length
  front : l ≠ [] → r.array r.front = l.head?
  at_ : ∀ i, i < l.length → r.at_ i = l[i]?
  walk : ∃ steps, r.walk steps r.front = some (l.map some)
  erase : ∀ n, n ≤ l.length → ∃ r', r.erase n = .ok r'

/-- The push does not take the head round the end of an array of `2 ^ 32` slots. -/
def Room (s : Traced α) : Op α → Prop
  | .push _ => ¬(s.ring.cap = 4294967296 ∧ s.ring.head = 4294967295)
  | .erase _ => True

instance (s : Traced α) : ∀ op, Decidable (Room s op)
  | .push _ => inferInstanceAs (Decidable ¬(_ ∧ _))
  | .erase _ => .isTrue trivial

/-- The ring has the elements, and an array of `2 ^ 32` slots has them in one piece. -/
structure Kept (r : SeqRing α) (l : List α) : Prop where
  holds : r.Holds l
  inside : r.cap = 4294967296 → r.tail + l.length < 4294967296

theorem holds_initOf (c : Source) : (initOf c : SeqRing α).Holds [] where
  cap := by
    cases c
    · exact ⟨5, by decide, by decide, rfl⟩
    · exact holds_init.cap
  tail := Nat.zero_lt_succ _
  head := rfl
  length := by
    cases c
    · exact Nat.zero_lt_succ _
    · exact holds_init.length
  slot i hi := by cases hi

/-! ### Walks -/

theorem Kept.next_pos (h : Kept r l) {i : Nat} (hi : i < l.length) :
    r.next ((r.tail + i) % r.cap) = (r.tail + (i + 1)) % r.cap := by
  have hl := h.holds.length
  have hlt : (r.tail + i) % r.cap < r.cap := Nat.mod_lt _ (by omega)
  rw [h.holds.next_eq hlt, Nat.mod_add_mod]
  · rfl
  · -- In the largest array the elements are in one piece, so the last slot is not one of theirs.
    intro hcap
    have hin := h.inside hcap
    rw [Nat.mod_eq_of_lt (by omega)]
    omega

/-- From the element at `i` on, the walk reads what is left of the list. -/
theorem Kept.walk_from (h : Kept r l) (n i : Nat) (hi : i + n = l.length) :
    r.walk n ((r.tail + i) % r.cap) = some ((l.drop i).map some) := by
  induction n generalizing i with
  | zero =>
    obtain rfl : i = l.length := by omega
    rw [walk, h.holds.end_eq, if_pos rfl, List.drop_length, List.map_nil]
  | succ n ih =>
    have hlt : i < l.length := by omega
    have hin : (r.tail + i) % r.cap < r.cap := Nat.mod_lt _ (Nat.zero_lt_of_lt h.holds.length)
    rw [walk, if_neg (h.holds.pos_ne_end hlt), if_neg (not_not_intro hin), h.next_pos hlt, ih (i + 1) (by omega),
      h.holds.slot i hlt, List.drop_eq_getElem_cons hlt, List.map_cons, List.getElem?_eq_getElem hlt]
    rfl

theorem Holds.erase_zero (h : r.Holds l) : r.erase 0 = .ok r := by
  have hw : wrap (r.tail + 0) = r.tail := Nat.mod_eq_of_lt h.tail
  rw [SeqRing.erase, hw]
  exact if_pos rfl

theorem erase_frame {n : Nat} {r' : SeqRing α} (h : r.erase n = .ok r') : r'.cap = r.cap ∧ r'.head = r.head := by
  simp only [SeqRing.erase] at h
  split at h
  · obtain rfl := Except.ok.inj h
    exact ⟨rfl, rfl⟩
  split at h
  · cases h
  split at h
  · cases h
  obtain rfl := Except.ok.inj h
  unfold erased
  split <;> exact ⟨rfl, rfl⟩

theorem Kept.fifo (h : Kept r l) : r.Fifo l where
  size := h.holds.size_eq
  front hne := by
    have h₀ := h.holds.slot 0 (List.length_pos_iff.mpr hne)
    rw [Nat.add_zero] at h₀
    rw [h.holds.front_eq, h₀, List.head?_eq_getElem?]
  at_ i hi := h.holds.at_eq hi
  walk := ⟨l.length, by simpa [h.holds.front_eq] using h.walk_from l.length 0 (Nat.zero_add _)⟩
  erase n hn := by
    rcases Nat.eq_zero_or_pos n with rfl | hpos
    · exact ⟨r, h.holds.erase_zero⟩
    · obtain ⟨r', hr, -⟩ := h.holds.erase hpos hn
      exact ⟨r', hr⟩

/-! ### Steps and runs -/

theorem Kept.pushBack (h : Kept r l) (hroom : ¬(r.cap = 4294967296 ∧ r.head = 4294967295)) (x : α) :
    Kept (r.pushBack x) (l ++ [x]) := by
  have hl := h.holds.length
  have hc := h.holds.cap_le
  have hin : r.cap = 4294967296 → r.tail + l.length + 1 < 4294967296 := by
    intro hcap
    have hlt := h.inside hcap
    have hhead : r.head = r.tail + l.length := h.holds.head.trans (Nat.mod_eq_of_lt hlt)
    have hne : r.head ≠ 4294967295 := fun he => hroom ⟨hcap, he⟩
    omega
  refine ⟨h.holds.pushBack (by omega) x, ?_⟩
  rw [SeqRing.pushBack, List.length_append, List.length_singleton]
  by_cases hf : r.full
  · have hf' := h.holds.full_iff.mp hf
    rw [if_pos hf]
    simp only [SeqRing.enlargeBuffer]
    omega
  · rw [if_neg hf]
    exact hin

theorem Kept.erase (h : Kept r l) {n : Nat} (hn : n ≤ l.length) {r' : SeqRing α} (hr : r.erase n = .ok r') :
    Kept r' (l.drop n) := by
  rcases Nat.eq_zero_or_pos n with rfl | hpos
  · rw [h.holds.erase_zero] at hr
    obtain rfl := Except.ok.inj hr
    exact h
  · obtain ⟨r₁, hr₁, hh⟩ := h.holds.erase hpos hn
    obtain rfl := Except.ok.inj (hr₁.symm.trans hr)
    obtain ⟨hcap, hhead⟩ := erase_frame hr
    refine ⟨hh, fun hc => ?_⟩
    have hlt := h.inside (hcap ▸ hc)
    have ht := hh.tail
    have hw := hh.head.symm.trans (hhead.trans h.holds.head)
    rw [List.length_drop] at hw ⊢
    unfold wrap at hw
    omega

theorem kept_of_run (h : (seqRing α c).Run Room as s) : Kept s.ring s.live := by
  refine h.invariant (I := fun s => Kept s.ring s.live) ?_ ?_
  · refine ⟨holds_initOf c, fun hcap => ?_⟩
    cases c <;> cases hcap
  · intro s op t hk hroom hs
    cases op with
    | push x =>
      obtain rfl := Outcome.next.inj hs
      exact hk.pushBack hroom x
    | erase n =>
      obtain ⟨u, hn, hs⟩ := Outcome.bind_eq_next.mp hs
      obtain ⟨r, hr, hs⟩ := Outcome.bind_eq_next.mp hs
      obtain rfl := Outcome.next.inj hs
      exact hk.erase (Outcome.await_eq_next.mp hn) (Outcome.ofExcept_eq_next.mp hr)

/-- The ring is a queue in every state of a run whose pushes all have room. -/
theorem fifo_of_run (h : (seqRing α c).Run Room as s) : s.ring.Fifo s.live := (kept_of_run h).fifo

/-- Twenty elements, of which five stay, and thirty more: the ring is enlarged while its elements go round the end. -/
def enlargedRound : List (Op Nat) := (List.range 20).map .push ++ [.erase 15] ++ (List.range 30).map .push

theorem fifo_of_run_enlarged : ∃ s, (seqRing Nat .seqRing).Run Room enlargedRound s ∧ s.ring.cap = 64 ∧
    s.live.length = 35 ∧ s.ring.Fifo s.live := by
  have h : (((seqRing Nat .seqRing).exec Room (seqRing Nat .seqRing).init enlargedRound).passes fun s =>
      s.ring.cap == 64 && s.live.length == 35) = true := by decide +kernel
  obtain ⟨s, hr, hs⟩ := System.exists_run_of_exec h
  obtain ⟨hcap, hlen⟩ := Bool.and_eq_true_iff.mp hs
  exact ⟨s, hr, beq_iff_eq.mp hcap, beq_iff_eq.mp hlen, fifo_of_run hr⟩

/-! ### As many elements as the counters have values -/

theorem run_pushes (c : Source) (x : α) (n : Nat) : ∃ s, (seqRing α c).Run System.Any (List.replicate n (.push x)) s ∧
    s.live.length = n ∧ (n < 4294967296 → s.ring.Holds s.live) := by
  induction n with
  | zero => exact ⟨_, .nil, rfl, fun _ => holds_initOf c⟩
  | succ n ih =>
    obtain ⟨s, hr, hlen, hh⟩ := ih
    refine ⟨⟨s.ring.pushBack x, s.live ++ [x]⟩, ?_, by simp [hlen], fun hn => (hh (by omega)).pushBack (by omega) x⟩
    rw [List.replicate_succ']
    exact hr.snoc trivial rfl

/-- With `2 ^ 32` elements the ring is empty, for all that its functions say. -/
theorem ring_looks_empty : ∃ s, (seqRing Unit .seqRing).Run System.Any (List.replicate 4294967296 (.push ())) s ∧
    s.live.length = 4294967296 ∧ s.ring.size = 0 ∧ ¬s.ring.Fifo s.live := by
  obtain ⟨s, hr, hlen, hh⟩ := run_pushes .seqRing () 4294967295
  have hsize : (s.ring.pushBack ()).size = 0 := (hh (by decide)).size_pushBack (by rw [hlen]) ()
  have hlive : (s.live ++ [()]).length = 4294967296 := by simp [hlen]
  refine ⟨⟨s.ring.pushBack (), s.live ++ [()]⟩, ?_, hlive, hsize, fun hf => ?_⟩
  · rw [show 4294967296 = 4294967295 + 1 from rfl, List.replicate_succ']
    exact hr.snoc trivial rfl
  · have hcontra := hf.size
    rw [hsize, hlive] at hcontra
    cases hcontra

/-! ### Distances -/

/-- The array has more slots than the counters have values. -/
structure Huge (r : SeqRing α) : Prop where
  cap : ∃ k, 33 ≤ k ∧ r.cap = 2 ^ k
  tail : r.tail < 4294967296
  head : r.head < 4294967296

theorem Huge.cap_ge (h : r.Huge) : 8589934592 ≤ r.cap := by
  obtain ⟨k, hk, hc⟩ := h.cap
  have hp : 2 ^ 33 ≤ 2 ^ k := Nat.pow_le_pow_right (Nat.zero_lt_succ 1) hk
  exact hc ▸ hp

theorem Huge.pushBack (h : r.Huge) (x : α) : (r.pushBack x).Huge := by
  have hf : ¬r.full := by
    have hs := r.size_lt
    have hc := h.cap_ge
    unfold full
    omega
  rw [SeqRing.pushBack, if_neg hf]
  exact ⟨h.cap, h.tail, wrap_lt _⟩

theorem huge_pushBack (h : r.Holds l) (hl : l.length + 1 = 4294967296) (x : α) : (r.pushBack x).Huge := by
  have hlen := h.length
  have hcap := h.cap_le
  have hc : r.cap = 4294967296 := by omega
  rw [SeqRing.pushBack, if_pos (h.full_iff.mpr (by omega))]
  simp only [SeqRing.enlargeBuffer, hc]
  exact ⟨⟨33, Nat.le_refl _, rfl⟩, Nat.zero_lt_succ _, wrap_lt _⟩

theorem Huge.erase (h : r.Huge) {n : Nat} {r' : SeqRing α} (hr : r.erase n = .ok r') : r'.Huge := by
  obtain ⟨hcap, hhead⟩ := erase_frame hr
  refine ⟨hcap ▸ h.cap, ?_, hhead ▸ h.head⟩
  simp only [SeqRing.erase] at hr
  split at hr
  · obtain rfl := Except.ok.inj hr
    exact h.tail
  split at hr
  · cases hr
  split at hr
  · cases hr
  obtain rfl := Except.ok.inj hr
  unfold erased
  split <;> exact wrap_lt _

theorem Huge.sound (h : r.Huge) : r.Sound where
  cap := by
    obtain ⟨k, hk, hc⟩ := h.cap
    exact ⟨k, by omega, hc⟩
  tail := h.tail
  size := by
    have hs := r.size_lt
    have hc := h.cap_ge
    omega

theorem sound_of_run (h : (seqRing α c).Run System.Any as s) : s.ring.Sound := by
  have key : s.ring.Holds s.live ∨ s.ring.Huge := by
    refine h.invariant (I := fun s => s.ring.Holds s.live ∨ s.ring.Huge) (.inl (holds_initOf c)) ?_
    intro s op t hi _ hs
    cases op with
    | push x =>
      obtain rfl := Outcome.next.inj hs
      rcases hi with hh | hh
      · rcases Nat.lt_or_ge (s.live.length + 1) 4294967296 with hlt | hge
        · exact .inl (hh.pushBack hlt x)
        · have hl := hh.length
          have hc := hh.cap_le
          exact .inr (huge_pushBack hh (by omega) x)
      · exact .inr (hh.pushBack x)
    | erase n =>
      obtain ⟨u, hn, hs⟩ := Outcome.bind_eq_next.mp hs
      obtain ⟨r, hr, hs⟩ := Outcome.bind_eq_next.mp hs
      obtain rfl := Outcome.next.inj hs
      have hr' := Outcome.ofExcept_eq_next.mp hr
      rcases hi with hh | hh
      · rcases Nat.eq_zero_or_pos n with rfl | hpos
        · rw [hh.erase_zero] at hr'
          obtain rfl := Except.ok.inj hr'
          exact .inl hh
        · obtain ⟨r₁, hr₁, hh₁⟩ := hh.erase hpos (Outcome.await_eq_next.mp hn)
          obtain rfl := Except.ok.inj (hr₁.symm.trans hr')
          exact .inl hh₁
      · exact .inr (hh.erase hr')
  rcases key with hh | hh
  · exact hh.sound
  · exact hh.sound

/-- Where the iterators are the same, `seq_ring_dist` returns the number of slots. -/
theorem Sound.dist_eq (h : r.Sound) {a d : Nat} (had : a + d ≤ r.size) :
    r.dist (r.next^[a] r.front) (r.next^[d] (r.next^[a] r.front)) = if d = 0 then int32 r.cap else int32 d := by
  have hsize := h.size
  have hlt := r.size_lt
  have hd : d < r.span := by
    unfold span
    omega
  have hlast : wrap (r.next^[d] (r.next^[a] r.front)) = (r.tail + a + d) % r.span := by
    rw [← Function.iterate_add_apply, h.wrap_iterate, Nat.add_comm d a, Nat.add_assoc]
  have hfirst : (r.tail + a) % r.span < r.span := Nat.mod_lt _ (by omega)
  have hle : r.span ≤ r.cap := Nat.min_le_left _ _
  rw [dist, h.wrap_iterate, hlast, pos_eq hd]
  split
  · next hin =>
    split
    · next hgt =>
      rw [if_neg (by omega)]
      congr 1
      omega
    · next hgt =>
      rw [if_pos (by omega)]
      congr 1
      omega
  · next hin =>
    rw [if_neg (by omega), if_neg (by omega)]
    rcases h.span_cases with ⟨-, hs⟩ | ⟨⟨q, hq⟩, hs⟩
    · congr 1
      omega
    · have hsum : (r.cap : Int) - ((r.tail + a) % r.span : Nat) + ((r.tail + a) % r.span + d - r.span : Nat) =
          d + 4294967296 * q := by omega
      rw [hsum, int32_add_mul]

/-- The distance is the number of steps exactly for two different iterators, or in an array of `2 ^ 32` slots, and
when the number fits into an `int32_t`. -/
theorem dist_eq_steps_iff (h : (seqRing α c).Run System.Any as s) {a d : Nat} (had : a + d ≤ s.ring.size) :
    s.ring.dist (s.ring.next^[a] s.ring.front) (s.ring.next^[d] (s.ring.next^[a] s.ring.front)) = d ↔
      (d = 0 → 4294967296 ≤ s.ring.cap) ∧ d < 2147483648 := by
  have hs := sound_of_run h
  have hlt := s.ring.size_lt
  rw [hs.dist_eq had]
  split
  · next hd =>
    subst hd
    have hz := int32_eq_zero_iff (n := s.ring.cap)
    rcases hs.span_cases with ⟨hc, -⟩ | ⟨⟨q, hq⟩, -⟩
    · have hpos := hs.size
      omega
    · omega
  · next hd =>
    rw [int32_eq_self_iff]
    omega

theorem dist_eq_steps_iff_two : ∃ s, (seqRing Nat .seqRing).Run System.Any [.push 1, .push 2] s ∧
    s.ring.dist (s.ring.next^[0] s.ring.front) (s.ring.next^[2] (s.ring.next^[0] s.ring.front)) = (2 : Nat) := by
  have hr : (seqRing Nat .seqRing).Run System.Any ([] ++ [.push 1] ++ [.push 2]) _ :=
    .snoc (.snoc .nil trivial rfl) trivial rfl
  exact ⟨_, hr, (dist_eq_steps_iff hr (a := 0) (d := 2) (by decide)).mpr ⟨by decide, by decide⟩⟩

/-- In a ring without elements the front is `32` from the front. -/
theorem front_far_from_itself : ∃ s, (seqRing Nat .seqRing).Run System.Any [] s ∧
    s.ring.dist s.ring.front s.ring.front = 32 := ⟨_, .nil, by decide⟩

end FlexRic.Ds.SeqRing
