import FlexRic.Ds.SeqRingIter

/-! # The queues of the xApp's threads (`tsn_queue.c`)

A ring (`seq_ring.c`, the code of `task_manager.c` with another first size), a lock, and a condition variable on which
one consumer waits. An operation is what is done under the lock. -/

namespace FlexRic.Ds

universe u

namespace SeqRing
variable {α : Type u} {r : SeqRing α} {l : List α}

/-- `seq_ring_erase` from the front to an iterator -/
def eraseTo (r : SeqRing α) (itEnd : Nat) : Except String (SeqRing α) :=
  let startPos := mask r.cap r.tail
  let endPos := wrap itEnd
  let r' := r.erased startPos endPos
  if startPos = itEnd then .ok r
  else if ¬endPos ≤ r.cap then .error "end_pos <= r->cap"
  else if endPos = startPos then .error "end_pos != start_pos"
  else if mask r'.cap r'.tail ≠ endPos then .error "mask(r->cap, r->tail) == end_pos"
  else .ok r'

theorem Holds.eraseTo (h : r.Holds l) {n itEnd : Nat} (hn : 0 < n) (hl : n ≤ l.length)
    (hit : wrap itEnd = (r.tail + n) % r.cap) : ∃ r', r.eraseTo itEnd = .ok r' ∧ r'.Holds (l.drop n) := by
  have hlen := h.length
  have hle := h.cap_le
  have hlt : r.tail % r.cap < r.cap := Nat.mod_lt _ (by omega)
  have hne : (r.tail + n) % r.cap ≠ r.tail % r.cap := by
    rw [pos_eq (by omega)]
    split <;> omega
  have hpos : r.tail % r.cap ≠ itEnd := by
    rintro rfl
    exact hne (hit.symm.trans (Nat.mod_eq_of_lt (by omega)))
  obtain ⟨r', hr, hl'⟩ := h.erase hn hl
  refine ⟨r', ?_, hl'⟩
  rw [← hr]
  simp only [SeqRing.eraseTo, SeqRing.erase, h.mask_tail, h.mask_wrap, hit]
  rw [if_neg hpos, if_neg hne, if_neg hne.symm]

theorem Holds.front_ne_end (h : r.Holds l) (hl : l ≠ []) : r.front ≠ r.end_ := by
  have hne := h.pos_ne_end (List.length_pos_iff.mpr hl)
  rwa [Nat.add_zero, ← h.front_eq] at hne

theorem Holds.wrap_iterate (h : r.Holds l) (n : Nat) : wrap (r.next^[n] r.front) = (r.tail + n) % r.cap := by
  rw [h.sound.wrap_iterate, span, Nat.min_eq_left h.cap_le]

/-- So many elements from the front on do not go round the end of an array of `2 ^ 32` slots. -/
def InOnePiece (r : SeqRing α) (n : Nat) : Prop := r.cap = 4294967296 → r.tail + n ≤ 4294967296

instance (r : SeqRing α) (n : Nat) : Decidable (r.InOnePiece n) := inferInstanceAs (Decidable (_ → _))

end SeqRing

/-- `tsnq_t`, as long as it is not being closed. `asleep` says that its consumer is in `pthread_cond_wait`. -/
structure TsnQueue (α : Type u) where
  r : SeqRing α
  asleep : Bool

namespace TsnQueue
variable {α β : Type}

/-- `init_tsnq`; `DEFAULT_ELM` of `seq_ring.c` is 32. -/
def init : TsnQueue α := ⟨⟨fun _ => none, 32, 0, 0⟩, false⟩

/-- `push_tsnq` -/
def push (q : TsnQueue α) (x : α) : TsnQueue α := ⟨q.r.pushBack x, false⟩

/-- `wait_and_pop_tsnq` up to its next wait, or to its end. The value is what `f` makes of the front. -/
def waitAndPop (q : TsnQueue α) (f : Option α → Except String β) : Except String (Option β × TsnQueue α) :=
  if q.r.size = 0 then return (none, { q with asleep := true })
  else do
    let it := q.r.front
    let elm ← f (q.r.array it)
    require (it ≠ q.r.end_) "it != seq_end(&q->r)"
    let r ← q.r.eraseTo (q.r.next it)
    return (some elm, ⟨r, false⟩)

/-- The loop of `pop_tsnq_10` and `pop_tsnq_100`; `f` copies an element, to the memory of the consumer. -/
def popLoop (r : SeqRing α) (f : β → Option α → Except String β) : Nat → Nat → β → Except String (β × Nat)
  | 0, next, m => return (m, next)
  | n + 1, next, m => do
    require (next < r.cap) "read past the end of the array"
    let m ← f m (r.array next)
    popLoop r f n (r.next next) m

/-- `pop_tsnq_10` and `pop_tsnq_100` -/
def popN (n : Nat) (q : TsnQueue α) (f : β → Option α → Except String β) (m : β) :
    Except String (β × TsnQueue α) := do
  require (q.r.size ≥ n) "seq_size(&q->r) >= n"
  let it := q.r.front
  require (it ≠ q.r.end_) "it != seq_end(&q->r)"
  let (m, next) ← popLoop q.r f n it m
  let r ← q.r.eraseTo next
  return (m, { q with r })

def popTsnq10 (q : TsnQueue α) (f : β → Option α → Except String β) (m : β) := popN 10 q f m

def popTsnq100 (q : TsnQueue α) (f : β → Option α → Except String β) (m : β) := popN 100 q f m

/-! ### The list that a queue is -/

/-- The queue has the elements of the list, and its consumer sleeps only when there is none. -/
structure Holds (q : TsnQueue α) (l : List α) : Prop where
  ring : q.r.Holds l
  awake : l ≠ [] → q.asleep = false

theorem holds_init : (init : TsnQueue α).Holds [] where
  ring := ⟨⟨5, Nat.le_of_ble_eq_true rfl, Nat.le_of_ble_eq_true rfl, rfl⟩, Nat.zero_lt_succ _, rfl, Nat.zero_lt_succ _,
    fun i hi => by cases hi⟩
  awake hl := absurd rfl hl

section Holds
variable {q : TsnQueue α} {l : List α}

theorem Holds.push (h : q.Holds l) (hl : q.r.size ≠ 4294967295) (x : α) : (q.push x).Holds (l ++ [x]) where
  ring := by
    have hlen := h.ring.length
    have hcap := h.ring.cap_le
    rw [h.ring.size_eq] at hl
    exact h.ring.pushBack (by omega) x
  awake _ := rfl

theorem Holds.waitAndPop {x : α} (h : q.Holds (x :: l)) {f : Option α → Except String β} {y : β}
    (hf : f (some x) = .ok y) : ∃ q', q.waitAndPop f = .ok (some y, q') ∧ q'.Holds l := by
  have hslot : q.r.array (q.r.tail % q.r.cap) = some x := h.ring.slot 0 (Nat.zero_lt_succ _)
  have hsize : q.r.size ≠ 0 := by
    rw [h.ring.size_eq]
    exact Nat.succ_ne_zero _
  obtain ⟨r', hr, hl⟩ := h.ring.eraseTo Nat.one_pos (Nat.succ_le_succ (Nat.zero_le _)) (h.ring.wrap_iterate 1)
  have hr' : q.r.eraseTo (q.r.next q.r.front) = .ok r' := hr
  have hne := h.ring.front_ne_end (List.cons_ne_nil _ _)
  refine ⟨⟨r', false⟩, ?_, hl, fun _ => rfl⟩
  rw [TsnQueue.waitAndPop, if_neg hsize]
  dsimp only
  rw [h.ring.front_eq] at hne hr' ⊢
  rw [hslot, hf, Except.ok_bind, require_of hne, Except.ok_bind, hr']
  rfl

theorem Holds.waitAndPop_nil (h : q.Holds []) (f : Option α → Except String β) :
    q.waitAndPop f = .ok (none, { q with asleep := true }) := by
  have hsize : q.r.size = 0 := h.ring.size_eq
  rw [TsnQueue.waitAndPop, if_pos hsize]
  rfl

theorem popLoop_eq (h : q.r.Holds l) (f : β → Option α → Except String β) {n i : Nat} (hn : i + n ≤ l.length)
    (hin : q.r.InOnePiece (i + n)) (m : β) : popLoop q.r f n (q.r.next^[i] q.r.front) m = do
      let m ← ((l.drop i).take n).foldlM (fun m x => f m (some x)) m
      return (m, q.r.next^[i + n] q.r.front) := by
  induction n generalizing i m with
  | zero => rfl
  | succ n ih =>
    have hi : i < l.length := by omega
    have hlen := h.length
    have hit : q.r.next^[i] q.r.front = (q.r.tail + i) % q.r.cap := by
      refine h.iterate_eq fun hcap => ?_
      have hle := hin hcap
      omega
    have hlt : q.r.next^[i] q.r.front < q.r.cap := hit ▸ Nat.mod_lt _ (by omega)
    have hslot : q.r.array (q.r.next^[i] q.r.front) = some l[i] := by
      rw [hit, h.slot i hi, List.getElem?_eq_getElem hi]
    rw [popLoop, require_of hlt, Except.ok_bind, hslot, ← Function.iterate_succ_apply' q.r.next,
      List.drop_eq_getElem_cons hi, List.take_succ_cons, List.foldlM_cons]
    have hnext : i + (n + 1) = i + 1 + n := by omega
    cases hx : f m (some l[i]) with
    | error msg => rfl
    | ok m' => rw [Except.ok_bind, Except.ok_bind, ih (by omega) (hnext ▸ hin), hnext]

theorem Holds.popN (h : q.Holds l) {n : Nat} (hn : 0 < n) (hl : n ≤ l.length) (hin : q.r.InOnePiece n)
    {f : β → Option α → Except String β} {m m' : β} (hf : (l.take n).foldlM (fun m x => f m (some x)) m = .ok m') :
    ∃ q', popN n q f m = .ok (m', q') ∧ q'.Holds (l.drop n) := by
  obtain ⟨r', hr, hl'⟩ := h.ring.eraseTo hn hl (h.ring.wrap_iterate n)
  have hsize : q.r.size ≥ n := by
    rw [h.ring.size_eq]
    exact hl
  have hne : l ≠ [] := by
    rintro rfl
    exact absurd hl (Nat.not_le_of_lt hn)
  refine ⟨{ q with r := r' }, ?_, hl', fun _ => h.awake hne⟩
  have hend := h.ring.front_ne_end hne
  have hloop := popLoop_eq (i := 0) h.ring f (by omega) ((Nat.zero_add n).symm ▸ hin) m
  rw [List.drop_zero, hf, Except.ok_bind, Nat.zero_add] at hloop
  rw [TsnQueue.popN, require_of hsize, Except.ok_bind]
  dsimp only
  rw [require_of hend, Except.ok_bind]
  show (popLoop q.r f n (q.r.next^[0] q.r.front) m >>= _) = _
  rw [hloop]
  show (q.r.eraseTo _ >>= _) = _
  rw [hr]
  rfl

end Holds

/-! ### The memory of a consumer -/

/-- A static array and its index, `val_10` or `val_100`. -/
structure Batch (α : Type) where
  elms : List (Option α)
  val : Nat

namespace Batch

/-- The array before the first use. -/
def init (n : Nat) : Batch α := ⟨List.replicate n none, 0⟩

/-- `create_val_10` and `create_val_100`, by the number of slots: the element is copied to the slot at the index, which
has to be one of them. -/
def create (n : Nat) (b : Batch α) (it : Option α) : Except String (Batch α) := do
  require (b.val < b.elms.length) "index out of bounds"
  require (b.val + 1 < n + 1) "val < n + 1"
  return ⟨b.elms.set b.val it, b.val + 1⟩

theorem foldlM_create {n : Nat} {l : List α} {b : Batch α} (hlen : b.elms.length = n) (hb : b.val + l.length ≤ n) :
    ∃ elms, l.foldlM (fun b x => create n b (some x)) b = .ok ⟨elms, b.val + l.length⟩ ∧ elms.length = n ∧
      elms.take b.val = b.elms.take b.val ∧ (elms.drop b.val).take l.length = l.map some := by
  induction l generalizing b with
  | nil => exact ⟨b.elms, rfl, hlen, rfl, rfl⟩
  | cons x l ih =>
    rw [List.length_cons] at hb
    have hc : create n b (some x) = .ok ⟨b.elms.set b.val (some x), b.val + 1⟩ := by
      rw [create, require_of (by omega), Except.ok_bind, require_of (by omega)]
      rfl
    obtain ⟨elms, hf, hn, ht, hd⟩ := ih (b := ⟨b.elms.set b.val (some x), b.val + 1⟩)
      (by rw [List.length_set, hlen]) (by dsimp only; omega)
    dsimp only at hf ht hd
    have hval : b.val < elms.length := by omega
    have hx : elms[b.val]? = some (some x) := by
      have hg : (elms.take (b.val + 1))[b.val]? = elms[b.val]? := List.getElem?_take_of_lt (Nat.lt_succ_self _)
      rw [← hg, ht, List.getElem?_take_of_lt (Nat.lt_succ_self _), List.getElem?_set_self (by omega)]
    refine ⟨elms, ?_, hn, ?_, ?_⟩
    · rw [List.foldlM_cons, hc, Except.ok_bind, hf, List.length_cons]
      congr 2
      omega
    · have hte : (elms.take (b.val + 1)).take b.val = ((b.elms.set b.val (some x)).take (b.val + 1)).take b.val := by
        rw [ht]
      rw [List.take_take, List.take_take, Nat.min_eq_left (Nat.le_succ _), List.take_set_of_le (Nat.le_refl _)] at hte
      exact hte
    · rw [List.drop_eq_getElem_cons hval, List.length_cons, List.take_succ_cons, hd, List.map_cons]
      rw [List.getElem?_eq_getElem hval] at hx
      rw [Option.some.inj hx]

/-- An array whose index is set to zero gets the elements, from the first slot on. -/
theorem fill {n : Nat} {l : List α} {b : Batch α} (hlen : b.elms.length = n) (hl : l.length = n) :
    l.foldlM (fun b x => create n b (some x)) { b with val := 0 } = .ok ⟨l.map some, n⟩ := by
  obtain ⟨elms, hf, hn, -, hd⟩ := foldlM_create (l := l) (b := { b with val := 0 }) hlen (by dsimp only; omega)
  rw [List.drop_zero, List.take_of_length_le (by omega)] at hd
  rw [hf, hd, hl]
  dsimp only
  rw [Nat.zero_add]

end Batch

end TsnQueue

end FlexRic.Ds
