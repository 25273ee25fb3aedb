import FlexRic.Theorems.XApp.Calls
import FlexRic.XApp.Delivery

/-! # Every indication reaches its callback and the database once, in order

Each worker has what was pushed to its queue: what it has handled, what is in its hand, and what is in the queue. The
event loop pushes to both queues what it has found, in the order of the arrivals. -/

namespace FlexRic.XApp
open Ds E2ap

variable {κ ρ : Type}

/-! ### The dispatcher -/

namespace MsgDispatcher
variable {d d' : MsgDispatcher κ ρ} {ms : List (MsgDispatch κ ρ)}

/-- The message that is popped and not given to its callback yet. -/
def hand (d : MsgDispatcher κ ρ) : List (MsgDispatch κ ρ) :=
  match d.pc with
  | .popping => []
  | .calling msg => msg.toList

/-- What the dispatcher got and did not give to a callback. -/
def pending (d : MsgDispatcher κ ρ) : List (MsgDispatch κ ρ) := d.hand ++ d.q.r.toList.filterMap id

/-- The dispatcher has got these messages, each with a callback. -/
structure Has (d : MsgDispatcher κ ρ) (ms : List (MsgDispatch κ ρ)) : Prop where
  queue : ∃ l, d.q.Holds l ∧ d.called ++ d.hand ++ l = ms
  hand : ∀ msg, d.pc = .calling msg → ∃ m, msg = some m
  callback : ∀ m ∈ ms, m.smCb ≠ none

theorem has_init : (init : MsgDispatcher κ ρ).Has [] where
  queue := ⟨[], TsnQueue.holds_init, rfl⟩
  hand _ h := by cases h
  callback m hm := by cases hm

theorem Has.called_pending (h : d.Has ms) : d.called ++ d.pending = ms := by
  obtain ⟨l, hl, rfl⟩ := h.queue
  rw [pending, hl.ring.toList_eq, List.filterMap_map, ← List.append_assoc]
  congr 1
  exact List.filterMap_some

theorem Has.push (h : d.Has ms) (hq : d.q.r.size ≠ 4294967295) {m : MsgDispatch κ ρ} (hm : m.smCb ≠ none) :
    Has { d with q := d.q.push m } (ms ++ [m]) where
  queue := by
    obtain ⟨l, hl, rfl⟩ := h.queue
    exact ⟨l ++ [m], hl.push hq m, (List.append_assoc ..).symm⟩
  hand := h.hand
  callback m' hm' := by
    rcases List.mem_append.mp hm' with hm' | hm'
    · exact h.callback m' hm'
    · obtain rfl := List.mem_singleton.mp hm'
      exact hm

theorem Has.wake (h : d.Has ms) : Has { d with q := { d.q with asleep := false } } ms where
  queue := by
    obtain ⟨l, hl, hms⟩ := h.queue
    exact ⟨l, ⟨hl.ring, fun _ => rfl⟩, hms⟩
  hand := h.hand
  callback := h.callback

/-- The worker sleeps when there is nothing left to do; else it takes a step that fails no assertion. -/
theorem Has.work (h : d.Has ms) :
    (d.work = .blocked ∧ d.pending = []) ∨ ∃ d', d.work = .next d' ∧ d'.Has ms := by
  have hp := h.called_pending
  obtain ⟨l, hl, hms⟩ := h.queue
  cases hpc : d.pc with
  | popping =>
    have hhand : d.hand = [] := by rw [MsgDispatcher.hand, hpc]
    rw [hhand, List.append_nil] at hms
    have hwork : d.work = (Outcome.await (d.q.asleep = false) >>= fun _ =>
        Outcome.ofExcept (d.q.waitAndPop .ok) >>= fun x =>
          pure { d with q := x.2, pc := x.1.elim .popping .calling }) := by
      rw [MsgDispatcher.work, hpc]
    cases l with
    | nil =>
      cases has : d.q.asleep with
      | true =>
        refine .inl ⟨?_, ?_⟩
        · rw [hwork, has]
          rfl
        · rw [pending, hhand, hl.ring.toList_eq]
          rfl
      | false =>
        refine .inr ⟨{ d with q := { d.q with asleep := true }, pc := .popping }, ?_, ?_, ?_, h.callback⟩
        · rw [hwork, Outcome.await_of has, Outcome.next_bind, hl.waitAndPop_nil]
          rfl
        · exact ⟨[], ⟨hl.ring, fun hne => absurd rfl hne⟩, hms ▸ by simp [MsgDispatcher.hand]⟩
        · intro msg hmsg
          cases hmsg
    | cons m l =>
      obtain ⟨q', hq, hl'⟩ := hl.waitAndPop (f := (.ok : _ → Except String (Option (MsgDispatch κ ρ)))) rfl
      refine .inr ⟨{ d with q := q', pc := .calling (some m) }, ?_, ?_, ?_, h.callback⟩
      · rw [hwork, Outcome.await_of (hl.awake (List.cons_ne_nil _ _)), Outcome.next_bind, hq]
        rfl
      · refine ⟨l, hl', ?_⟩
        rw [← hms]
        exact List.append_assoc ..
      · intro msg hmsg
        exact ⟨m, by cases hmsg; rfl⟩
  | calling msg =>
    obtain ⟨m, rfl⟩ := h.hand msg hpc
    have hhand : d.hand = [m] := by rw [MsgDispatcher.hand, hpc]; rfl
    rw [hhand] at hms
    have hcb : m.smCb ≠ none := h.callback m (by rw [← hms]; simp)
    refine .inr ⟨{ d with pc := .popping, called := d.called ++ [m] }, ?_, ⟨l, hl, ?_⟩, ?_, h.callback⟩
    · obtain ⟨cb, hcb⟩ := Option.ne_none_iff_exists'.mp hcb
      rw [MsgDispatcher.work, hpc]
      simp only [Option.bind_some, hcb, Option.map_some]
      rfl
    · rw [← hms]
      simp [MsgDispatcher.hand]
    · intro msg hmsg
      cases hmsg

end MsgDispatcher

/-! ### The database -/

namespace DbXapp
variable {d d' : DbXapp ρ} {xs : List (E2NodeAgIf ρ)}

/-- What is popped and not written yet. -/
def hand (d : DbXapp ρ) : List (E2NodeAgIf ρ) :=
  match d.pc with
  | .writing data i _ => (data.drop i).filterMap id
  | _ => []

/-- What the database got and did not write. -/
def pending (d : DbXapp ρ) : List (E2NodeAgIf ρ) := d.hand ++ d.q.r.toList.filterMap id

/-- Where the worker is: no more is in its hand than what was popped, and the queue has not become smaller since its
size was read. -/
def Position (d : DbXapp ρ) (l : List (E2NodeAgIf ρ)) : Prop :=
  match d.pc with
  | .sizing => True
  | .popping sz => sz ≤ l.length
  | .writing data i sz => i ≤ sz ∧ ∃ ys : List (E2NodeAgIf ρ), data = ys.map some ∧ ys.length = sz

/-- The size that the worker has read, when a pop comes next -/
def size (d : DbXapp ρ) : Option Nat :=
  match d.pc with
  | .popping sz => some sz
  | _ => none

/-- The batch that the worker pops next, if it pops one, does not go round the end of an array of `2 ^ 32` slots. -/
def InOnePiece (d : DbXapp ρ) : Prop :=
  ∀ sz ∈ d.size, (sz > 100 → d.q.r.InOnePiece 100) ∧ (sz > 10 → d.q.r.InOnePiece 10)

/-- The database has got these elements. -/
structure Has (d : DbXapp ρ) (xs : List (E2NodeAgIf ρ)) : Prop where
  queue : ∃ l, d.q.Holds l ∧ d.written ++ d.hand ++ l = xs ∧ d.Position l
  slots10 : d.batch10.elms.length = 10
  slots100 : d.batch100.elms.length = 100

theorem has_init : (init : DbXapp ρ).Has [] where
  queue := ⟨[], TsnQueue.holds_init, rfl, trivial⟩
  slots10 := rfl
  slots100 := rfl

theorem Has.written_pending (h : d.Has xs) : d.written ++ d.pending = xs := by
  obtain ⟨l, hl, rfl, -⟩ := h.queue
  rw [pending, hl.ring.toList_eq, List.filterMap_map, ← List.append_assoc]
  congr 1
  exact List.filterMap_some

theorem Has.push (h : d.Has xs) (hq : d.q.r.size ≠ 4294967295) (x : E2NodeAgIf ρ) :
    Has { d with q := d.q.push x } (xs ++ [x]) where
  queue := by
    obtain ⟨l, hl, rfl, hpos⟩ := h.queue
    refine ⟨l ++ [x], hl.push hq x, (List.append_assoc ..).symm, ?_⟩
    unfold Position at hpos ⊢
    dsimp only
    cases hpc : d.pc with
    | sizing => trivial
    | popping sz =>
      simp only [hpc] at hpos ⊢
      rw [List.length_append]
      exact Nat.le_add_right_of_le hpos
    | writing data i sz =>
      simp only [hpc] at hpos ⊢
      exact hpos
  slots10 := h.slots10
  slots100 := h.slots100

theorem Has.wake (h : d.Has xs) : Has { d with q := { d.q with asleep := false } } xs where
  queue := by
    obtain ⟨l, hl, hxs, hpos⟩ := h.queue
    exact ⟨l, ⟨hl.ring, fun _ => rfl⟩, hxs, hpos⟩
  slots10 := h.slots10
  slots100 := h.slots100

/-- A batch of so many elements goes to a static array, from its first slot on. -/
theorem popN_create {l : List (E2NodeAgIf ρ)} {n : Nat} {b : TsnQueue.Batch (E2NodeAgIf ρ)} (hl : d.q.Holds l)
    (hn : 0 < n) (hle : n ≤ l.length) (hin : d.q.r.InOnePiece n) (hb : b.elms.length = n) :
    ∃ q', d.q.popN n (TsnQueue.Batch.create n) { b with val := 0 } = .ok (⟨(l.take n).map some, n⟩, q') ∧
      q'.Holds (l.drop n) :=
  hl.popN hn hle hin (TsnQueue.Batch.fill hb (List.length_take_of_le hle))

theorem filterMap_map_some (l : List (E2NodeAgIf ρ)) : (l.map some).filterMap id = l := by
  rw [List.filterMap_map]
  exact List.filterMap_some

/-- The elements of a batch are in the worker's hand, the first ones of the queue. -/
theorem queue_popped {l : List (E2NodeAgIf ρ)} {n : Nat} (hle : n ≤ l.length) (hq : d'.q.Holds (l.drop n))
    (hpc : d'.pc = .writing ((l.take n).map some) 0 n) :
    ∃ l', d'.q.Holds l' ∧ d'.written ++ d'.hand ++ l' = d'.written ++ l ∧ d'.Position l' := by
  refine ⟨_, hq, ?_, ?_⟩
  · have hhand : d'.hand = l.take n := by
      rw [DbXapp.hand, hpc]
      exact filterMap_map_some _
    rw [hhand, List.append_assoc, List.take_append_drop]
  · unfold Position
    rw [hpc]
    exact ⟨Nat.zero_le _, _, rfl, List.length_take_of_le hle⟩

/-- The same for this worker. Its pops find as many elements as it read before, since nobody else pops. -/
theorem Has.work (h : d.Has xs) (hin : d.InOnePiece) :
    (d.work = .blocked ∧ d.pending = []) ∨ ∃ d', d.work = .next d' ∧ d'.Has xs := by
  obtain ⟨l, hl, hxs, hpos⟩ := h.queue
  unfold Position at hpos
  cases hpc : d.pc with
  | sizing =>
    have hhand : d.hand = [] := by rw [DbXapp.hand, hpc]
    rw [hhand] at hxs
    refine .inr ⟨{ d with pc := .popping d.q.r.size }, ?_, ⟨l, hl, hxs, ?_⟩, h.slots10, h.slots100⟩
    · rw [DbXapp.work, hpc]
      rfl
    · exact Nat.le_of_eq hl.ring.size_eq
  | popping sz =>
    simp only [hpc] at hpos
    obtain ⟨hin100, hin10⟩ := hin sz (by rw [DbXapp.size, hpc]; rfl)
    have hhand : d.hand = [] := by rw [DbXapp.hand, hpc]
    rw [hhand, List.append_nil] at hxs
    by_cases h100 : sz > 100
    · obtain ⟨q', hq, hl'⟩ :=
        popN_create hl (b := d.batch100) (by decide) (show 100 ≤ l.length by omega) (hin100 h100) h.slots100
      have hlen : (l.take 100).length = 100 := List.length_take_of_le (by omega)
      refine .inr ⟨{ d with
        q := q', batch100 := ⟨(l.take 100).map some, 100⟩, pc := .writing ((l.take 100).map some) 0 100 },
        ?_, hxs ▸ queue_popped (by omega) hl' rfl, h.slots10, ?_⟩
      · rw [DbXapp.work, hpc]
        dsimp only
        rw [if_pos h100, TsnQueue.popTsnq100, hq]
        rfl
      · rw [List.length_map, hlen]
    by_cases h10 : sz > 10
    · obtain ⟨q', hq, hl'⟩ :=
        popN_create hl (b := d.batch10) (by decide) (show 10 ≤ l.length by omega) (hin10 h10) h.slots10
      have hlen : (l.take 10).length = 10 := List.length_take_of_le (by omega)
      refine .inr ⟨{ d with
        q := q', batch10 := ⟨(l.take 10).map some, 10⟩, pc := .writing ((l.take 10).map some) 0 10 },
        ?_, hxs ▸ queue_popped (by omega) hl' rfl, ?_, h.slots100⟩
      · rw [DbXapp.work, hpc]
        dsimp only
        rw [if_neg h100, if_pos h10, TsnQueue.popTsnq10, hq]
        rfl
      · rw [List.length_map, hlen]
    have hwork : d.work = (Outcome.await (d.q.asleep = false) >>= fun _ =>
        Outcome.ofExcept (d.q.waitAndPop .ok) >>= fun x =>
          pure { d with q := x.2, pc := x.1.elim d.pc fun x => .writing [x] 0 1 }) := by
      rw [DbXapp.work, hpc]
      dsimp only
      rw [if_neg h100, if_neg h10]
    cases l with
    | nil =>
      cases has : d.q.asleep with
      | true =>
        refine .inl ⟨?_, ?_⟩
        · rw [hwork, has]
          rfl
        · rw [pending, hhand, hl.ring.toList_eq]
          rfl
      | false =>
        refine .inr ⟨{ d with q := { d.q with asleep := true } }, ?_, ?_, h.slots10, h.slots100⟩
        · rw [hwork, Outcome.await_of has, Outcome.next_bind, hl.waitAndPop_nil]
          rfl
        · refine ⟨[], ⟨hl.ring, fun hne => absurd rfl hne⟩, ?_, ?_⟩
          · rw [← hxs, DbXapp.hand, hpc, List.append_nil]
          · unfold Position
            simp only [hpc]
            exact hpos
    | cons x l =>
      obtain ⟨q', hq, hl'⟩ := hl.waitAndPop (f := (.ok : _ → Except String (Option (E2NodeAgIf ρ)))) rfl
      refine .inr ⟨{ d with q := q', pc := .writing [some x] 0 1 }, ?_, ⟨l, hl', ?_, ?_⟩, h.slots10, h.slots100⟩
      · rw [hwork, Outcome.await_of (hl.awake (List.cons_ne_nil _ _)), Outcome.next_bind, hq]
        rfl
      · rw [← hxs]
        exact List.append_assoc ..
      · exact ⟨Nat.zero_le _, [x], rfl, rfl⟩
  | writing data i sz =>
    simp only [hpc] at hpos
    obtain ⟨hi, ys, rfl, rfl⟩ := hpos
    have hhand : d.hand = ys.drop i := by
      rw [DbXapp.hand, hpc]
      dsimp only
      rw [← List.map_drop, filterMap_map_some]
    rw [hhand] at hxs
    by_cases hlt : i < ys.length
    · refine .inr ⟨{ d with pc := .writing (ys.map some) (i + 1) ys.length, written := d.written ++ [ys[i]] }, ?_,
        ⟨l, hl, ?_, hlt, ys, rfl, rfl⟩, h.slots10, h.slots100⟩
      · rw [DbXapp.work, hpc]
        dsimp only
        rw [if_pos hlt, List.getElem?_map, List.getElem?_eq_getElem hlt]
        rfl
      · rw [← hxs, DbXapp.hand, List.drop_eq_getElem_cons hlt]
        dsimp only
        rw [← List.map_drop, filterMap_map_some, List.append_assoc, List.append_assoc, List.append_assoc]
        rfl
    · refine .inr ⟨{ d with pc := .sizing }, ?_, ⟨l, hl, ?_, trivial⟩, h.slots10, h.slots100⟩
      · rw [DbXapp.work, hpc]
        dsimp only
        rw [if_neg hlt]
        rfl
      · rw [← hxs, List.drop_eq_nil_of_le (Nat.le_of_not_lt hlt)]
        rfl

end DbXapp

/-! ### The xApp -/

namespace Delivery
variable {sm : SmAgIfRd ρ} {enable : Bool} {s t : Delivery κ ρ} {a : DeliveryAct κ ρ}

/-- What the callbacks shall be given: the indications that had a procedure, in the order of their arrival. -/
def deliveries (s : Delivery κ ρ) : List (MsgDispatch κ ρ) :=
  s.arrived.filterMap fun e => e.2.map fun v => ⟨e.1.rd, v.e2Node, v.smCb⟩

/-- What shall be written. -/
def writes (s : Delivery κ ρ) : List (E2NodeAgIf ρ) :=
  s.arrived.filterMap fun e => e.2.map fun v => ⟨v.e2Node, e.1.rd⟩

/-- What the event loop has found and not pushed to the dispatcher. -/
def unsent (s : Delivery κ ρ) : List (MsgDispatch κ ρ) :=
  match s.loop with
  | .idle => []
  | .found rd v | .sending rd v => [⟨rd, v.e2Node, v.smCb⟩]

/-- What it has found and not pushed to the database. -/
def unwritten (s : Delivery κ ρ) : List (E2NodeAgIf ρ) :=
  match s.loop with
  | .found rd v => [⟨v.e2Node, rd⟩]
  | _ => []

/-- The ring of the queue that the event loop pushes to next has fewer than `2 ^ 32 - 1` elements. -/
def Room (enable : Bool) (s : Delivery κ ρ) : IndicationPc κ ρ → Prop
  | .idle => True
  | .found .. => enable = true → s.db.q.r.size ≠ 4294967295
  | .sending .. => s.msgDisp.q.r.size ≠ 4294967295

instance (s : Delivery κ ρ) : ∀ pc, Decidable (s.Room enable pc)
  | .idle => .isTrue trivial
  | .found .. => inferInstanceAs (Decidable (_ → _))
  | .sending .. => inferInstanceAs (Decidable (_ ≠ _))

/-- The indication is of a type that is handled, its identifier is not zero, and the procedure of its identifier, if
there is one, is a subscription whose data can be copied; the ring that gets an element has room for it; and a batch is
in one piece. -/
def Admissible (sm : SmAgIfRd ρ) (enable : Bool) (s : Delivery κ ρ) : DeliveryAct κ ρ → Prop
  | .receive ind => sm.type ind.rd ≠ .tcStatsV0 ∧ ind.ricReqId ≠ 0 ∧
      ∀ v ∈ s.calls.actProc.procedure ind.ricReqId, v.smCb ≠ none ∧ (enable = true → sm.cp ind.rd = .ok ())
  | .loop => s.Room enable s.loop
  | .database => s.db.InOnePiece
  | .calls _ | .dispatcher | .wakeDispatcher | .wakeDatabase => True

instance (s : Delivery κ ρ) : ∀ a, Decidable (Admissible sm enable s a)
  | .receive ind => inferInstanceAs (Decidable (sm.type ind.rd ≠ .tcStatsV0 ∧ ind.ricReqId ≠ 0 ∧
      ∀ v ∈ s.calls.actProc.procedure ind.ricReqId, v.smCb ≠ none ∧ (enable = true → sm.cp ind.rd = .ok ())))
  | .loop => inferInstanceAs (Decidable (s.Room enable s.loop))
  | .database => inferInstanceAs (Decidable (∀ sz ∈ s.db.size, _ ∧ _))
  | .calls _ | .dispatcher | .wakeDispatcher | .wakeDatabase => .isTrue trivial

/-- The law of the delivery. What was called and written is what shall be, in its order and up to what is pending; what
is pending is not stuck; and nothing that a thread does with an indication fails an assertion. -/
structure Law (sm : SmAgIfRd ρ) (enable : Bool) (s : Delivery κ ρ) : Prop where
  called : s.msgDisp.called ++ (s.msgDisp.pending ++ s.unsent) = s.deliveries
  written : enable = true → s.db.written ++ (s.db.pending ++ s.unwritten) = s.writes
  noDatabase : enable = false → s.db.written = []
  dispatcher : s.msgDisp.pending ≠ [] → ∃ t, s.step sm enable .dispatcher = .next t
  database : enable = true → s.db.pending ≠ [] → Admissible sm enable s .database →
    ∃ t, s.step sm enable .database = .next t
  loop : s.unsent ≠ [] → Admissible sm enable s .loop → ∃ t, s.step sm enable .loop = .next t
  asserts : ∀ a msg, Admissible sm enable s a → (∀ c, a ≠ .calls c) → s.step sm enable a ≠ .abort msg

structure Inv (sm : SmAgIfRd ρ) (enable : Bool) (s : Delivery κ ρ) : Prop where
  calls : s.calls.Inv
  msgDisp : ∃ ms, s.msgDisp.Has ms ∧ ms ++ s.unsent = s.deliveries
  db : enable = true → ∃ xs, s.db.Has xs ∧ xs ++ s.unwritten = s.writes
  noDb : enable = false → s.db.written = []
  callback : ∀ m ∈ s.unsent, m.smCb ≠ none
  copied : enable = true → ∀ x ∈ s.unwritten, sm.cp x.rd = .ok ()

theorem inv_init : (init : Delivery κ ρ).Inv sm enable where
  calls := Calls.inv_init
  msgDisp := ⟨[], MsgDispatcher.has_init, rfl⟩
  db _ := ⟨[], DbXapp.has_init, rfl⟩
  noDb _ := rfl
  callback m hm := by cases hm
  copied _ x hx := by cases hx

/-! ### The look-up -/

theorem procedure_eq_some {p : ActProcReg κ} {ps : List (Nat × ActProcEntry κ)} (h : p.Procs ps) {k : Nat}
    {v : ActProcEntry κ} : p.procedure k = some v ↔ (k, v) ∈ ps := by
  rw [ActProcReg.procedure, h.active, Option.map_eq_some_iff]
  constructor
  · rintro ⟨⟨k', w⟩, hf, rfl⟩
    obtain rfl : k' = k := by simpa using List.find?_some hf
    exact List.mem_of_find?_eq_some hf
  · intro hv
    cases hf : ps.find? (·.1 = k) with
    | none => simpa using List.find?_eq_none.mp hf _ hv
    | some e =>
      obtain ⟨k', w⟩ := e
      obtain rfl : k' = k := by simpa using List.find?_some hf
      exact ⟨_, rfl, h.unique (List.mem_of_find?_eq_some hf) hv⟩

/-- An indication with an identifier is looked up: the answer is the procedure of the identifier. -/
theorem findActProc_eq (h : s.calls.Inv) {k : Nat} (hk : k ≠ 0) :
    ∃ p, s.calls.actProc.findActProc k = .ok (s.calls.actProc.procedure k, p) ∧
      Calls.Inv { s.calls with actProc := p } := by
  obtain ⟨ps, hp, -⟩ := h.procs
  have hok : ∃ ans p, s.calls.actProc.findActProc k = .ok (ans, p) := by
    by_cases hv : ∃ v, (k, v) ∈ ps
    · obtain ⟨v, hv⟩ := hv
      obtain ⟨p, hf, -⟩ := hp.findActProc hv
      exact ⟨_, p, hf⟩
    · exact ⟨_, _, hp.findActProc_none (Nat.pos_of_ne_zero hk) fun v hv' => hv ⟨v, hv'⟩⟩
  obtain ⟨ans, p, hf⟩ := hok
  have hans : ans = s.calls.actProc.procedure k := by
    refine Option.ext fun v => ?_
    rw [(hp.findActProc_inv hf).2.2 v]
    exact (procedure_eq_some hp).symm
  subst hans
  have hs : s.calls.step (.indication k) = .next { s.calls with actProc := p } := by
    rw [Calls.step, hf]
    rfl
  exact ⟨p, hf, h.step hs⟩

theorem handledTypes_contains {x : SmAgIfRdInd} : handledTypes.contains x = true ↔ x ≠ .tcStatsV0 := by
  cases x <;> decide

/-! ### The steps -/

theorem receive_eq (h : s.calls.Inv) {ind : Indication ρ} (ha : Admissible sm enable s (.receive ind)) :
    ∃ p, Calls.Inv { s.calls with actProc := p } ∧
      s.receive sm ind = .next { s with
        calls := { s.calls with actProc := p }
        loop := (s.calls.actProc.procedure ind.ricReqId).elim .idle (.found ind.rd)
        arrived := s.arrived ++ [(ind, s.calls.actProc.procedure ind.ricReqId)] } := by
  obtain ⟨htype, hid, -⟩ := ha
  obtain ⟨p, hf, hp⟩ := findActProc_eq h hid
  refine ⟨p, hp, ?_⟩
  rw [receive, Outcome.check_of (handledTypes_contains.mpr htype), Outcome.next_bind, hf]
  rfl

theorem Inv.receive (hi : s.Inv sm enable) (hl : s.loop = .idle) {ind : Indication ρ}
    (ha : Admissible sm enable s (.receive ind)) (hs : s.receive sm ind = .next t) : t.Inv sm enable := by
  obtain ⟨p, hp, he⟩ := receive_eq hi.calls ha
  obtain rfl := Outcome.next.inj (he.symm.trans hs)
  obtain ⟨-, -, hproc⟩ := ha
  obtain ⟨ms, hms, hdel⟩ := hi.msgDisp
  rw [unsent, hl, List.append_nil] at hdel
  subst hdel
  cases hv : s.calls.actProc.procedure ind.ricReqId with
  | none =>
    refine ⟨hp, ⟨_, hms, ?_⟩, fun hen => ?_, hi.noDb, List.forall_mem_nil _, fun _ => List.forall_mem_nil _⟩
    · simp [deliveries, unsent]
    · obtain ⟨xs, hxs, hwr⟩ := hi.db hen
      rw [unwritten, hl, List.append_nil] at hwr
      subst hwr
      exact ⟨_, hxs, by simp [writes, unwritten]⟩
  | some v =>
    obtain ⟨hcb, hcp⟩ := hproc v hv
    refine ⟨hp, ⟨_, hms, ?_⟩, fun hen => ?_, hi.noDb, fun m hm => ?_, fun hen x hx => ?_⟩
    · simp [deliveries, unsent]
    · obtain ⟨xs, hxs, hwr⟩ := hi.db hen
      rw [unwritten, hl, List.append_nil] at hwr
      subst hwr
      exact ⟨_, hxs, by simp [writes, unwritten]⟩
    · obtain rfl := List.mem_singleton.mp hm
      exact hcb
    · obtain rfl := List.mem_singleton.mp hx
      exact hcp hen

/-- The event loop pushes what it has found: first to the database, then to the dispatcher. -/
theorem Inv.goOn (hi : s.Inv sm enable) (hl : s.unsent ≠ []) (ha : Admissible sm enable s .loop) :
    ∃ t, s.goOn sm enable = .next t ∧ t.Inv sm enable := by
  obtain ⟨ms, hms, hdel⟩ := hi.msgDisp
  cases hpc : s.loop with
  | idle => exact absurd (by rw [unsent, hpc]) hl
  | found rd v =>
    rw [Admissible, hpc, Room] at ha
    have hcb : (⟨rd, v.e2Node, v.smCb⟩ : MsgDispatch κ ρ).smCb ≠ none := hi.callback _ (by
      rw [unsent, hpc]
      exact List.mem_cons_self)
    have hdel' : ms ++ [⟨rd, v.e2Node, v.smCb⟩] = s.deliveries := by
      rwa [unsent, hpc] at hdel
    have hcb' : ∀ m ∈ [(⟨rd, v.e2Node, v.smCb⟩ : MsgDispatch κ ρ)], m.smCb ≠ none := by
      intro m hm
      obtain rfl := List.mem_singleton.mp hm
      exact hcb
    rw [Delivery.goOn, hpc]
    cases enable with
    | true =>
      have hcp : sm.cp rd = .ok () := hi.copied rfl ⟨v.e2Node, rd⟩ (by
        rw [unwritten, hpc]
        exact List.mem_cons_self)
      obtain ⟨xs, hxs, hwr⟩ := hi.db rfl
      rw [unwritten, hpc] at hwr
      refine ⟨{ s with loop := .sending rd v, db := { s.db with q := s.db.q.push ⟨v.e2Node, rd⟩ } }, ?_,
        hi.calls, ⟨ms, hms, hdel'⟩, fun _ => ⟨_, hxs.push (ha rfl) _, ?_⟩, nofun, hcb', fun _ => List.forall_mem_nil _⟩
      · dsimp only
        rw [if_pos rfl, hcp]
        rfl
      · rw [hwr]
        exact List.append_nil _
    | false =>
      exact ⟨{ s with loop := .sending rd v }, rfl, hi.calls, ⟨ms, hms, hdel'⟩, nofun, hi.noDb, hcb', nofun⟩
  | sending rd v =>
    rw [Admissible, hpc, Room] at ha
    rw [unsent, hpc] at hdel
    have hcb : (⟨rd, v.e2Node, v.smCb⟩ : MsgDispatch κ ρ).smCb ≠ none := hi.callback _ (by
      rw [unsent, hpc]
      exact List.mem_cons_self)
    refine ⟨{ s with
        loop := .idle
        msgDisp := { s.msgDisp with q := s.msgDisp.q.push ⟨rd, v.e2Node, v.smCb⟩ } }, ?_, hi.calls,
      ⟨_, hms.push ha hcb, ?_⟩, fun hen => ?_, hi.noDb, List.forall_mem_nil _, fun _ => List.forall_mem_nil _⟩
    · rw [Delivery.goOn, hpc]
      rfl
    · rw [hdel]
      exact List.append_nil _
    · obtain ⟨xs, hxs, hwr⟩ := hi.db hen
      rw [unwritten, hpc] at hwr
      exact ⟨xs, hxs, hwr⟩

theorem Inv.dispatcher (hi : s.Inv sm enable) :
    (s.step sm enable .dispatcher = .blocked ∧ s.msgDisp.pending = []) ∨
      ∃ t, s.step sm enable .dispatcher = .next t ∧ t.Inv sm enable := by
  obtain ⟨ms, hms, hdel⟩ := hi.msgDisp
  rcases hms.work with ⟨hb, hp⟩ | ⟨d, hd, hms'⟩
  · refine .inl ⟨?_, hp⟩
    rw [step, hb]
    rfl
  · refine .inr ⟨{ s with msgDisp := d }, ?_, hi.calls, ⟨ms, hms', hdel⟩, hi.db, hi.noDb, hi.callback, hi.copied⟩
    rw [step, hd]
    rfl

theorem Inv.database (hi : s.Inv sm true) (ha : Admissible sm true s .database) :
    (s.step sm true .database = .blocked ∧ s.db.pending = []) ∨
      ∃ t, s.step sm true .database = .next t ∧ t.Inv sm true := by
  obtain ⟨xs, hxs, hwr⟩ := hi.db rfl
  rcases hxs.work ha with ⟨hb, hp⟩ | ⟨d, hd, hxs'⟩
  · refine .inl ⟨?_, hp⟩
    rw [step, if_pos rfl, hb]
    rfl
  · refine .inr ⟨{ s with db := d }, ?_, hi.calls, hi.msgDisp, fun _ => ⟨xs, hxs', hwr⟩, nofun, hi.callback, hi.copied⟩
    rw [step, if_pos rfl, hd]
    rfl

theorem Inv.step (hi : s.Inv sm enable) (ha : Admissible sm enable s a) (hs : s.step sm enable a = .next t) :
    t.Inv sm enable := by
  cases a with
  | calls c =>
    unfold Delivery.step at hs
    dsimp only at hs
    split at hs
    · cases hs
    · cases hs
    · cases hs
    · obtain ⟨calls, hc, hs⟩ := Outcome.bind_eq_next.mp hs
      obtain rfl := Outcome.next.inj hs
      exact ⟨hi.calls.step hc, hi.msgDisp, hi.db, hi.noDb, hi.callback, hi.copied⟩
  | receive ind =>
    rw [Delivery.step] at hs
    split at hs
    · next hl => exact hi.receive hl ha hs
    · cases hs
  | loop =>
    by_cases hl : s.unsent = []
    · rw [Delivery.step, Delivery.goOn] at hs
      cases hpc : s.loop with
      | idle =>
        rw [hpc] at hs
        cases hs
      | found rd v | sending rd v =>
        rw [unsent, hpc] at hl
        cases hl
    · obtain ⟨t', ht, hi'⟩ := hi.goOn hl ha
      obtain rfl := Outcome.next.inj (ht.symm.trans hs)
      exact hi'
  | dispatcher =>
    rcases hi.dispatcher with ⟨hb, -⟩ | ⟨t', ht, hi'⟩
    · cases hb.symm.trans hs
    · obtain rfl := Outcome.next.inj (ht.symm.trans hs)
      exact hi'
  | database =>
    cases enable with
    | true =>
      rcases hi.database ha with ⟨hb, -⟩ | ⟨t', ht, hi'⟩
      · cases hb.symm.trans hs
      · obtain rfl := Outcome.next.inj (ht.symm.trans hs)
        exact hi'
    | false => cases hs
  | wakeDispatcher =>
    obtain rfl := Outcome.next.inj hs
    obtain ⟨ms, hms, hdel⟩ := hi.msgDisp
    exact ⟨hi.calls, ⟨ms, hms.wake, hdel⟩, hi.db, hi.noDb, hi.callback, hi.copied⟩
  | wakeDatabase =>
    obtain rfl := Outcome.next.inj hs
    refine ⟨hi.calls, hi.msgDisp, fun hen => ?_, hi.noDb, hi.callback, hi.copied⟩
    obtain ⟨xs, hxs, hwr⟩ := hi.db hen
    exact ⟨xs, hxs.wake, hwr⟩

theorem inv_of_run {as : List (DeliveryAct κ ρ)} (h : (delivery κ sm enable).Run (Admissible sm enable) as s) :
    s.Inv sm enable :=
  h.invariant inv_init fun _ _ _ hi ha hs => hi.step ha hs

/-! ### The law -/

theorem Inv.law (hi : s.Inv sm enable) : s.Law sm enable := by
  refine ⟨?_, fun hen => ?_, hi.noDb, fun hp => ?_, fun hen hp ha => ?_, fun hl ha => ?_, fun a msg ha hc hab => ?_⟩
  · obtain ⟨ms, hms, hdel⟩ := hi.msgDisp
    rw [← List.append_assoc, hms.called_pending, hdel]
  · obtain ⟨xs, hxs, hwr⟩ := hi.db hen
    rw [← List.append_assoc, hxs.written_pending, hwr]
  · rcases hi.dispatcher with ⟨-, hnil⟩ | ⟨t, ht, -⟩
    · exact absurd hnil hp
    · exact ⟨t, ht⟩
  · subst hen
    rcases hi.database ha with ⟨-, hnil⟩ | ⟨t, ht, -⟩
    · exact absurd hnil hp
    · exact ⟨t, ht⟩
  · obtain ⟨t, ht, -⟩ := hi.goOn hl ha
    exact ⟨t, ht⟩
  · cases a with
    | calls c => exact hc c rfl
    | receive ind =>
      rw [Delivery.step] at hab
      split at hab
      · obtain ⟨p, -, he⟩ := receive_eq hi.calls ha
        cases he.symm.trans hab
      · cases hab
    | loop =>
      by_cases hl : s.unsent = []
      · rw [Delivery.step, Delivery.goOn] at hab
        cases hpc : s.loop with
        | idle =>
          rw [hpc] at hab
          cases hab
        | found rd v | sending rd v =>
          rw [unsent, hpc] at hl
          cases hl
      · obtain ⟨t, ht, -⟩ := hi.goOn hl ha
        cases ht.symm.trans hab
    | dispatcher =>
      rcases hi.dispatcher with ⟨hb, -⟩ | ⟨t, ht, -⟩
      · cases hb.symm.trans hab
      · cases ht.symm.trans hab
    | database =>
      cases enable with
      | true =>
        rcases hi.database ha with ⟨hb, -⟩ | ⟨t, ht, -⟩
        · cases hb.symm.trans hab
        · cases ht.symm.trans hab
      | false => cases hab
    | wakeDispatcher | wakeDatabase => cases hab

/-- In every run of the threads whose steps are admissible, and between any two of its
steps: the callbacks were given, and the database was written, what arrived for an active procedure, once and in its
order. -/
theorem deliveryLaw_of_run {as : List (DeliveryAct κ ρ)}
    (h : (delivery κ sm enable).Run (Admissible sm enable) as s) : s.Law sm enable :=
  (inv_of_run h).law

/-- A subscription to the MAC service model, with its callback. -/
def subscribe : List (DeliveryAct Unit SmAgIfRdInd) :=
  [.calls (.call (.report gnb 142 (some ()))), .calls (.answer false), .calls .return_]

/-- Data that is its own type. -/
def anyType : SmAgIfRd SmAgIfRdInd := ⟨id, fun _ => .ok ()⟩

/-- The database reads the size before there is an indication, and pops after it has come. -/
def oneIndication : List (DeliveryAct Unit SmAgIfRdInd) :=
  subscribe ++ [.database, .receive ⟨1, .macStatsV0⟩, .loop, .database, .loop, .dispatcher, .dispatcher, .database]

theorem deliveryLaw_of_run_mac : ∃ s, (delivery Unit anyType true).Run (Admissible anyType true) oneIndication s ∧
    s.msgDisp.called.length = 1 ∧ s.db.written.length = 1 ∧ s.Law anyType true := by
  have h : (((delivery Unit anyType true).exec (Admissible anyType true) (delivery Unit anyType true).init
      oneIndication).passes fun s => decide (s.msgDisp.called.length = 1 ∧ s.db.written.length = 1)) = true := by
    decide +kernel
  obtain ⟨s, hr, hs⟩ := System.exists_run_of_exec h
  obtain ⟨hc, hw⟩ := of_decide_eq_true hs
  exact ⟨s, hr, hc, hw, deliveryLaw_of_run hr⟩

/-- An indication of the TC service model aborts the xApp, though its procedure is active. -/
theorem tc_indication_aborts : ∃ s, (delivery Unit anyType true).Run System.Any subscribe s ∧
    (s.calls.actProc.procedure 1).isSome = true ∧
    s.step anyType true (.receive ⟨1, .tcStatsV0⟩) = .abort "msg_disp.rd.ind.type" := by
  have h : (((delivery Unit anyType true).exec System.Any (delivery Unit anyType true).init subscribe).passes fun s =>
      (s.calls.actProc.procedure 1).isSome &&
        decide ((s.step anyType true (.receive ⟨1, .tcStatsV0⟩)).abort? = some "msg_disp.rd.ind.type")) = true := by
    decide +kernel
  obtain ⟨s, hr, hs⟩ := System.exists_run_of_exec h
  obtain ⟨hp, ha⟩ := Bool.and_eq_true_iff.mp hs
  exact ⟨s, hr, hp, Outcome.abort?_eq_some.mp (of_decide_eq_true ha)⟩

end Delivery

end FlexRic.XApp
