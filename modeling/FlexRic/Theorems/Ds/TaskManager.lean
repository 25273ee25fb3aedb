import Mathlib.Data.List.Nodup
import Mathlib.Data.List.Pairwise
import FlexRic.Ds.TaskManager

/-! # No task is lost and none is taken twice

As long as the counters of the rings are large enough, the rings and the workers together have the tasks that were
submitted, each once, and each queue gives its tasks in the order it got them. -/

namespace FlexRic.Ds.TaskManager

section Split
variable {α : Type} {l : List α} {f : α → Nat} {n : Nat}

theorem perm_flatMap_filter (h : ∀ x ∈ l, f x < n) : ((List.range n).flatMap fun q => l.filter (f · = q)).Perm l := by
  have key : ∀ m, ((List.range m).flatMap fun q => l.filter (f · = q)).Perm (l.filter (f · < m)) := by
    intro m
    induction m with
    | zero => simp
    | succ m ih =>
      rw [List.range_succ, List.flatMap_append, List.flatMap_singleton]
      refine (ih.append_right _).trans ?_
      have hlt : l.filter (f · < m) = (l.filter (f · < m + 1)).filter (f · < m) := by
        rw [List.filter_filter]
        refine List.filter_congr fun x _ => ?_
        rw [← Bool.decide_and, decide_eq_decide]
        omega
      have heq : l.filter (f · = m) = (l.filter (f · < m + 1)).filter fun x => !decide (f x < m) := by
        rw [List.filter_filter]
        refine List.filter_congr fun x _ => ?_
        rw [← decide_not, ← Bool.decide_and, decide_eq_decide]
        omega
      rw [hlt, heq]
      exact List.filter_append_perm _ _
  refine (key n).trans (.of_eq (List.filter_eq_self.mpr fun x hx => ?_))
  simpa using h x hx

end Split

section Histories
variable (s : TaskManager) (q : Nat)

/-- The tasks that were submitted, in the order in which they were pushed. -/
def submitted : List Job := s.pushes.map Prod.snd

/-- What the workers took. -/
def takenTasks : List (Option Job) := s.pops.flatMap Pop.tasks

/-- What is in the rings. -/
def queued : List (Option Job) := (List.range s.lenThr).flatMap fun q => (s.queue q).r.toList

/-- The tasks that entered the queue, in their order. -/
def entered : List Job := (s.pushes.filter (·.1 = q)).map Prod.snd

/-- What left the queue, in its order. -/
def left : List (Option Job) := (s.pops.filter (·.queue = q)).flatMap Pop.tasks

end Histories

/-- The submitted tasks are those of the rings and those that were taken; a worker takes what no other worker takes,
and never from an empty ring; every queue gives its tasks in the order it got them. -/
structure TaskLaw (s : TaskManager) : Prop where
  underWay : s.called.Perm (s.calls.map Call.job ++ s.submitted)
  exact : (s.queued ++ s.takenTasks).Perm (s.submitted.map some)
  nodup : s.takenTasks.Nodup
  one : ∀ p ∈ s.pops, ∀ p' ∈ s.pops, ∀ x ∈ p.tasks, x ∈ p'.tasks → p.worker = p'.worker
  inOrder : ∀ q, s.left q ++ (s.queue q).r.toList = (s.entered q).map some
  nonempty : ∀ p ∈ s.pops, 0 < p.size ∧ p.tasks ≠ []

/-- No task is pushed to a ring that has `2 ^ 32 - 1` tasks. -/
def Room (s : TaskManager) : Act → Prop
  | .tryPush k busy => busy = true ∨ ∀ c ∈ s.calls[k]?, (s.queue (s.nextQueue c)).r.size ≠ 4294967295
  | .push k => ∀ c ∈ s.calls[k]?, (s.queue (s.firstQueue c)).r.size ≠ 4294967295
  | _ => True

instance (s : TaskManager) : ∀ a, Decidable (s.Room a)
  | .tryPush k busy =>
    inferInstanceAs (Decidable (busy = true ∨ ∀ c ∈ s.calls[k]?, (s.queue (s.nextQueue c)).r.size ≠ 4294967295))
  | .push k => inferInstanceAs (Decidable (∀ c ∈ s.calls[k]?, (s.queue (s.firstQueue c)).r.size ≠ 4294967295))
  | .submit _ | .tryPop .. | .pop _ | .run _ | .done _ => .isTrue trivial

/-! ### What a run keeps -/

/-- The numbers of the jobs are their places among the calls, and every ring has what entered its queue and did not
leave it. -/
structure Balanced (s : TaskManager) : Prop where
  workers : 0 < s.lenThr
  exited : ∀ w, s.lenThr ≤ w → s.worker w = .exited
  numbers : s.called.map Job.number = List.range s.called.length
  underWay : s.called.Perm (s.calls.map Call.job ++ s.submitted)
  pushed : ∀ p ∈ s.pushes, p.1 < s.lenThr
  popped : ∀ p ∈ s.pops, p.queue < s.lenThr
  contents : ∀ q, ∃ l, (s.queue q).r.Holds l ∧ (s.entered q).map some = s.left q ++ l.map some
  nonempty : ∀ p ∈ s.pops, 0 < p.size ∧ p.tasks ≠ []

section Pops
variable {q q' : NotQ} {l : List Job}

theorem len_le (h : q.r.Holds l) : q.len ≤ l.length := by
  rw [NotQ.len, h.size_eq]
  split <;> omega

theorem len_pos (hl : q.r.size ≠ 0) : 0 < q.len := by
  rw [NotQ.len]
  split <;> omega

theorem tasks_eq (h : q.r.Holds l) : q.tasks = (l.take q.len).map some := by
  refine List.ext_getElem? fun i => ?_
  have hlen := len_le h
  rw [NotQ.tasks, List.getElem?_map, List.getElem?_map]
  by_cases hi : i < q.len
  · rw [List.getElem?_range hi, List.getElem?_take_of_lt hi, Option.map_some, h.at_eq (by omega),
      List.getElem?_eq_getElem (by omega)]
    rfl
  · rw [List.getElem?_eq_none (by simpa using hi), List.getElem?_eq_none (by simp; omega)]
    rfl

theorem tasks_ne_nil (hl : q.r.size ≠ 0) : q.tasks ≠ [] := by
  have hpos := len_pos hl
  intro hn
  have hlen : q.tasks.length = 0 := by rw [hn]; rfl
  simp only [NotQ.tasks, List.length_map, List.length_range] at hlen
  omega

theorem erase_holds (h : q.r.Holds l) (hl : q.r.size ≠ 0) {r : SeqRing Job} (hr : q.r.erase q.len = .ok r) :
    r.Holds (l.drop q.len) := by
  obtain ⟨r', hr', hholds⟩ := h.erase (len_pos hl) (len_le h)
  obtain rfl := Except.ok.inj (hr.symm.trans hr')
  exact hholds

theorem tryPop_some (h : q.r.Holds l) (hq : q.tryPop = .ok (some q')) : q.r.size ≠ 0 ∧ q'.r.Holds (l.drop q.len) := by
  unfold NotQ.tryPop at hq
  split at hq
  · cases hq
  · next hl =>
    obtain ⟨r, hr, hq⟩ := Except.bind_eq_ok.mp hq
    split at hq
    · cases hq
    · obtain rfl := Option.some.inj (Except.ok.inj hq)
      exact ⟨hl, erase_holds h hl hr⟩

theorem pop_some (h : q.r.Holds l) (hw : ¬(q.r.size = 0 ∧ q.done = false)) (hq : q.pop = .ok (some q')) :
    q.r.size ≠ 0 ∧ q'.r.Holds (l.drop q.len) := by
  unfold NotQ.pop at hq
  split at hq
  · cases hq
  · next hd =>
    have hl : q.r.size ≠ 0 := by
      intro hl
      exact hw ⟨hl, by simpa using hd⟩
    split at hq
    · cases hq
    · obtain ⟨r, hr, hq⟩ := Except.bind_eq_ok.mp hq
      obtain rfl := Option.some.inj (Except.ok.inj hq)
      exact ⟨hl, erase_holds h hl hr⟩

end Pops

section Steps
variable {s t : TaskManager} {k q w i : Nat} {c : Call} {nq : NotQ} {a : Act}

theorem balanced_init (n : NumThreads) : (init n).Balanced where
  workers := n.property.1
  exited w hw := if_neg (Nat.not_lt.mpr hw)
  numbers := rfl
  underWay := .refl _
  pushed p hp := by cases hp
  popped p hp := by cases hp
  contents q := ⟨[], SeqRing.holds_init, rfl⟩
  nonempty p hp := by cases hp

theorem entered_pushed (q' : Nat) : (s.pushed k c q nq).entered q' =
    s.entered q' ++ if q = q' then [c.job] else [] := by
  simp only [entered, pushed, List.filter_append, List.map_append]
  by_cases h : q = q' <;> simp [h]

theorem left_taken (q' : Nat) : (s.taken w q nq).left q' =
    s.left q' ++ if q = q' then (s.queue q).tasks else [] := by
  simp only [left, taken, List.filter_append, List.flatMap_append]
  by_cases h : q = q' <;> simp [h]

theorem Balanced.push (h : s.Balanced) (hc : s.calls[k]? = some c) (hq : q < s.lenThr)
    (hr : (s.queue q).r.size ≠ 4294967295) (hnq : nq.r = (s.queue q).r.pushBack c.job) :
    (s.pushed k c q nq).Balanced where
  workers := h.workers
  exited := h.exited
  numbers := h.numbers
  underWay := by
    refine h.underWay.trans ?_
    have hp : (s.calls.map Call.job).Perm (c.job :: (s.calls.eraseIdx k).map Call.job) := (perm_eraseIdx hc).map _
    refine (hp.append_right _).trans ?_
    simp only [submitted, TaskManager.pushed, List.map_append, List.map_singleton]
    rw [← List.append_assoc]
    exact (List.perm_append_singleton _ _).symm
  pushed p hp := by
    rcases List.mem_append.mp hp with hp | hp
    · exact h.pushed p hp
    · obtain rfl := List.mem_singleton.mp hp
      exact hq
  popped := h.popped
  contents q' := by
    obtain ⟨l, hl, hin⟩ := h.contents q'
    rw [entered_pushed]
    by_cases hqq : q' = q
    · subst hqq
      refine ⟨l ++ [c.job], ?_, ?_⟩
      · simp only [TaskManager.pushed, Function.update_self, hnq]
        have hlen := hl.length
        have hcap := hl.cap_le
        rw [hl.size_eq] at hr
        exact hl.pushBack (by omega) c.job
      · rw [if_pos rfl, List.map_append, List.map_append, hin, List.append_assoc]
        rfl
    · refine ⟨l, ?_, ?_⟩
      · simp only [TaskManager.pushed, Function.update_of_ne hqq]
        exact hl
      · rw [if_neg fun heq => hqq heq.symm, List.append_nil, hin]
        rfl
  nonempty := h.nonempty

theorem Balanced.take (h : s.Balanced) (hw : s.worker w ≠ .exited) (hq : q < s.lenThr)
    (hnq : ∀ l, (s.queue q).r.Holds l → (s.queue q).r.size ≠ 0 ∧ nq.r.Holds (l.drop (s.queue q).len)) :
    (s.taken w q nq).Balanced where
  workers := h.workers
  exited w' hw' := by
    have hne : w' ≠ w := by
      rintro rfl
      exact hw (h.exited w' hw')
    simp only [taken, Function.update_of_ne hne]
    exact h.exited w' hw'
  numbers := h.numbers
  underWay := h.underWay
  pushed := h.pushed
  popped p hp := by
    rcases List.mem_append.mp hp with hp | hp
    · exact h.popped p hp
    · obtain rfl := List.mem_singleton.mp hp
      exact hq
  contents q' := by
    obtain ⟨l, hl, hin⟩ := h.contents q'
    rw [left_taken]
    by_cases hqq : q' = q
    · subst hqq
      refine ⟨l.drop (s.queue q').len, ?_, ?_⟩
      · simp only [taken, Function.update_self]
        exact (hnq l hl).2
      · rw [if_pos rfl, tasks_eq hl, List.append_assoc, ← List.map_append, List.take_append_drop]
        exact hin
    · refine ⟨l, ?_, ?_⟩
      · simp only [taken, Function.update_of_ne hqq]
        exact hl
      · rw [if_neg fun heq => hqq heq.symm, List.append_nil]
        exact hin
  nonempty p hp := by
    rcases List.mem_append.mp hp with hp | hp
    · exact h.nonempty p hp
    · obtain rfl := List.mem_singleton.mp hp
      obtain ⟨l, hl, -⟩ := h.contents q
      have hsize := (hnq l hl).1
      exact ⟨Nat.pos_of_ne_zero hsize, tasks_ne_nil hsize⟩

/-- A worker that has not exited goes on, and everything else stays. -/
theorem Balanced.goOn (h : s.Balanced) (hw : s.worker w ≠ .exited) (x : Worker) :
    TaskManager.Balanced { s with worker := Function.update s.worker w x } where
  workers := h.workers
  exited w' hw' := by
    have hne : w' ≠ w := by
      rintro rfl
      exact hw (h.exited w' hw')
    dsimp only
    rw [Function.update_of_ne hne]
    exact h.exited w' hw'
  numbers := h.numbers
  underWay := h.underWay
  pushed := h.pushed
  popped := h.popped
  contents := h.contents
  nonempty := h.nonempty

theorem Balanced.submit {x : Task} (h : s.Balanced) (hs : s.step (.submit x) = .next t) : t.Balanced := by
  obtain ⟨-, -, hs⟩ := Outcome.bind_eq_next.mp hs
  obtain rfl := Outcome.next.inj hs
  refine ⟨h.workers, h.exited, ?_, ?_, h.pushed, h.popped, h.contents, h.nonempty⟩
  · simp only [withCall, List.map_append, List.length_append, List.map_singleton, List.length_singleton,
      List.range_succ, h.numbers]
  · simp only [withCall, List.map_append, List.map_singleton]
    refine (h.underWay.append_right _).trans ?_
    rw [List.append_assoc, List.append_assoc]
    exact List.perm_append_comm.append_left _

theorem Balanced.tryPush {busy : Bool} (h : s.Balanced) (hg : s.Room (.tryPush k busy))
    (hs : s.step (.tryPush k busy) = .next t) : t.Balanced := by
  obtain ⟨c, hc, hs⟩ := Outcome.bind_eq_next.mp hs
  obtain ⟨-, -, hs⟩ := Outcome.bind_eq_next.mp hs
  have hc := Outcome.ofOption_eq_next.mp hc
  cases busy with
  | true =>
    obtain rfl := Outcome.next.inj hs
    refine ⟨h.workers, h.exited, h.numbers, ?_, h.pushed, h.popped, h.contents, h.nonempty⟩
    refine h.underWay.trans (List.Perm.append_right _ ?_)
    exact ((perm_eraseIdx hc).map Call.job).trans ((perm_set hc { c with i := c.i + 1 }).map Call.job).symm
  | false =>
    obtain ⟨nq, hq, hs⟩ := Outcome.bind_eq_next.mp hs
    obtain rfl := Outcome.next.inj hs
    have hroom : (s.queue (s.nextQueue c)).r.size ≠ 4294967295 := (hg.resolve_left Bool.false_ne_true) c hc
    have hnq := Outcome.ofExcept_eq_next.mp hq
    unfold NotQ.tryPush at hnq
    split at hnq
    · cases hnq
    · split at hnq
      · cases hnq
      · obtain rfl := Except.ok.inj hnq
        exact h.push hc (Nat.mod_lt _ h.workers) hroom rfl

theorem Balanced.pushFirst (h : s.Balanced) (hg : s.Room (.push k)) (hs : s.step (.push k) = .next t) :
    t.Balanced := by
  obtain ⟨c, hc, hs⟩ := Outcome.bind_eq_next.mp hs
  obtain ⟨-, -, hs⟩ := Outcome.bind_eq_next.mp hs
  obtain ⟨nq, hq, hs⟩ := Outcome.bind_eq_next.mp hs
  obtain rfl := Outcome.next.inj hs
  have hc := Outcome.ofOption_eq_next.mp hc
  have hnq := Outcome.ofExcept_eq_next.mp hq
  unfold NotQ.push at hnq
  split at hnq
  · cases hnq
  · obtain rfl := Except.ok.inj hnq
    exact h.push hc (Nat.mod_lt _ h.workers) (hg c hc) rfl

theorem Balanced.tryPop {busy : Bool} (h : s.Balanced) (hs : s.step (.tryPop w busy) = .next t) : t.Balanced := by
  simp only [TaskManager.step] at hs
  split at hs
  · next i hi =>
    have hw : s.worker w ≠ .exited := by simp [hi]
    split at hs
    · obtain rfl := Outcome.next.inj hs
      exact h.goOn hw _
    · obtain ⟨x, hx, hs⟩ := Outcome.bind_eq_next.mp hs
      have hx := Outcome.ofExcept_eq_next.mp hx
      cases x with
      | none =>
        obtain rfl := Outcome.next.inj hs
        exact h.goOn hw _
      | some nq =>
        obtain rfl := Outcome.next.inj hs
        exact h.take hw (Nat.mod_lt _ h.workers) fun l hl => tryPop_some hl hx
  · cases hs

theorem Balanced.pop (h : s.Balanced) (hs : s.step (.pop w) = .next t) : t.Balanced := by
  simp only [TaskManager.step] at hs
  split at hs
  · next hi =>
    have hw : s.worker w ≠ .exited := by simp [hi]
    obtain ⟨_, hwait, hs⟩ := Outcome.bind_eq_next.mp hs
    obtain ⟨x, hx, hs⟩ := Outcome.bind_eq_next.mp hs
    have hx := Outcome.ofExcept_eq_next.mp hx
    cases x with
    | none =>
      obtain rfl := Outcome.next.inj hs
      exact h.goOn hw _
    | some nq =>
      obtain rfl := Outcome.next.inj hs
      have hlt : w < s.lenThr := by
        by_contra hc
        exact hw (h.exited w (Nat.not_lt.mp hc))
      exact h.take hw hlt fun l hl => pop_some hl (Outcome.await_eq_next.mp hwait) hx
  · cases hs

theorem Balanced.run (h : s.Balanced) (hs : s.step (.run w) = .next t) : t.Balanced := by
  simp only [TaskManager.step] at hs
  split at hs
  · next hi =>
    obtain rfl := Outcome.next.inj hs
    exact h.goOn (by simp [hi]) _
  · next hi =>
    obtain rfl := Outcome.next.inj hs
    exact h.goOn (by simp [hi]) _
  · cases hs

theorem Balanced.done (h : s.Balanced) (hs : s.step (.done q) = .next t) : t.Balanced := by
  obtain ⟨-, -, hs⟩ := Outcome.bind_eq_next.mp hs
  obtain rfl := Outcome.next.inj hs
  refine ⟨h.workers, h.exited, h.numbers, h.underWay, h.pushed, h.popped, fun q' => ?_, h.nonempty⟩
  obtain ⟨l, hl, hin⟩ := h.contents q'
  refine ⟨l, ?_, hin⟩
  by_cases hqq : q' = q
  · subst hqq
    dsimp only
    rw [Function.update_self]
    exact hl
  · dsimp only
    rw [Function.update_of_ne hqq]
    exact hl

theorem Balanced.step (h : s.Balanced) (hg : s.Room a) (hs : s.step a = .next t) : t.Balanced := by
  cases a with
  | submit x => exact h.submit hs
  | tryPush k busy => exact h.tryPush hg hs
  | push k => exact h.pushFirst hg hs
  | tryPop w busy => exact h.tryPop hs
  | pop w => exact h.pop hs
  | run w => exact h.run hs
  | done q => exact h.done hs

/-! ### What the balance says of the tasks -/

theorem Balanced.inOrder (h : s.Balanced) (q : Nat) :
    s.left q ++ (s.queue q).r.toList = (s.entered q).map some := by
  obtain ⟨l, hl, hin⟩ := h.contents q
  rw [hl.toList_eq, hin]

theorem Balanced.exact (h : s.Balanced) : (s.queued ++ s.takenTasks).Perm (s.submitted.map some) := by
  have hpushes : ((List.range s.lenThr).flatMap fun q => (s.entered q).map some).Perm (s.submitted.map some) := by
    have hp := (perm_flatMap_filter h.pushed).map fun p => some p.2
    rw [List.map_flatMap] at hp
    simpa only [entered, submitted, List.map_map, Function.comp_def] using hp
  have hpops : ((List.range s.lenThr).flatMap s.left).Perm s.takenTasks := by
    have hp := (perm_flatMap_filter h.popped).flatMap_right Pop.tasks
    rwa [List.flatMap_assoc] at hp
  calc (s.queued ++ s.takenTasks).Perm (s.takenTasks ++ s.queued) := List.perm_append_comm
    _ |>.Perm ((List.range s.lenThr).flatMap s.left ++ s.queued) := hpops.symm.append_right _
    _ |>.Perm ((List.range s.lenThr).flatMap fun q => s.left q ++ (s.queue q).r.toList) :=
      List.flatMap_append_perm _ _ _
    _ |>.Perm (s.submitted.map some) := by simpa only [h.inOrder] using hpushes

theorem Balanced.submitted_nodup (h : s.Balanced) : s.submitted.Nodup := by
  have hcalled : s.called.Nodup := by
    refine List.Nodup.of_map Job.number ?_
    rw [h.numbers]
    exact List.nodup_range
  exact (List.nodup_append.mp (h.underWay.nodup_iff.mp hcalled)).2.1

theorem Balanced.nodup (h : s.Balanced) : s.takenTasks.Nodup := by
  have hn : (s.submitted.map some).Nodup := h.submitted_nodup.map (Option.some_injective _)
  exact (List.nodup_append.mp (h.exact.nodup_iff.mpr hn)).2.1

theorem Balanced.one (h : s.Balanced) : ∀ p ∈ s.pops, ∀ p' ∈ s.pops, ∀ x ∈ p.tasks, x ∈ p'.tasks →
    p.worker = p'.worker := by
  intro p hp p' hp' x hx hx'
  have hd := (List.nodup_flatMap.mp h.nodup).2
  have hsymm : Std.Symm (Function.onFun List.Disjoint Pop.tasks) := ⟨fun _ _ hdisj _ hy hy' => hdisj hy' hy⟩
  by_contra hne
  exact hd.forall hp hp' (fun heq => hne (heq ▸ rfl)) hx hx'

theorem Balanced.law (h : s.Balanced) : s.TaskLaw :=
  ⟨h.underWay, h.exact, h.nodup, h.one, h.inOrder, h.nonempty⟩

/-- No run whose pushes go to rings of fewer than `2 ^ 32 - 1` tasks loses, repeats or reorders a task. -/
theorem taskLaw_of_run {n : NumThreads} {as : List Act} (hr : (taskManager n).Run Room as s) : s.TaskLaw :=
  (hr.invariant (balanced_init n) fun _ _ _ h hg hs => h.step hg hs).law

end Steps

/-- Two tasks are submitted while the lock of the second queue is taken; the second worker finds both of them in the
queue of the first. -/
def stealing : List Act :=
  [.submit ⟨1, 1⟩, .submit ⟨2, 1⟩, .tryPush 0 false, .tryPush 0 true, .tryPush 0 false, .tryPop 1 false,
    .tryPop 1 false, .run 1, .done 0, .done 1]

def twoThreads : NumThreads := ⟨2, by decide⟩

theorem stealing_law : ∃ s, (taskManager twoThreads).Run Room stealing s ∧
    s.takenTasks = [some ⟨0, 1, 1⟩, some ⟨1, 2, 1⟩] ∧ s.TaskLaw := by
  have h : (((taskManager twoThreads).exec Room (taskManager twoThreads).init stealing).passes fun s =>
      s.takenTasks == [some ⟨0, 1, 1⟩, some ⟨1, 2, 1⟩]) = true := by decide +kernel
  obtain ⟨s, hr, hs⟩ := System.exists_run_of_exec h
  exact ⟨s, hr, by simpa using hs, taskLaw_of_run hr⟩

/-! ### A ring that is too full -/

def oneThread : NumThreads := ⟨1, by decide⟩

/-- The one worker has not begun, and so many tasks are in its ring. -/
structure Filled (s : TaskManager) (n : Nat) : Prop where
  lenThr : s.lenThr = 1
  calls : s.calls = []
  pops : s.pops = []
  submitted : s.submitted.length = n
  ring : ∃ l, (s.queue 0).r.Holds l ∧ l.length = n

/-- The task that is submitted over and over, at its next submission. -/
def oneMore (s : TaskManager) : Call := ⟨⟨s.called.length, 1, 1⟩, s.index, 0⟩

/-- The state after one more task was submitted. -/
def withOneMore (s : TaskManager) : TaskManager :=
  { s with
    index := (s.index + 1) % 18446744073709551616
    queue := Function.update s.queue 0 { s.queue 0 with r := (s.queue 0).r.pushBack s.oneMore.job }
    called := s.called ++ [s.oneMore.job]
    pushes := s.pushes ++ [(0, s.oneMore.job)] }

section Filled
variable {s : TaskManager} {n : Nat} {as : List Act}

theorem step_tryPush {k : Nat} {c : Call} {nq : NotQ} (hc : s.calls[k]? = some c) (hi : c.i < s.lenThr)
    (hq : (s.queue (s.nextQueue c)).tryPush c.job = .ok nq) :
    s.step (.tryPush k false) = .next (s.pushed k c (s.nextQueue c) nq) := by
  simp [step, hc, Outcome.ofOption, Outcome.await_of hi, hq, Outcome.ofExcept]

theorem Filled.pushed (h : s.Filled n) : (s.withCall ⟨1, 1⟩).step (.tryPush 0 false) = .next s.withOneMore := by
  have hc : (s.withCall ⟨1, 1⟩).calls = [s.oneMore] := by
    rw [withCall, h.calls]
    rfl
  have hi : s.oneMore.i < (s.withCall ⟨1, 1⟩).lenThr := by
    rw [withCall, h.lenThr]
    exact Nat.zero_lt_one
  have hq : (s.withCall ⟨1, 1⟩).nextQueue s.oneMore = 0 := by
    rw [nextQueue, withCall, h.lenThr, Nat.mod_one]
  rw [step_tryPush (c := s.oneMore) (by rw [hc]; rfl) hi rfl, hq, TaskManager.pushed, hc]
  simp only [withOneMore, h.calls]
  rfl

theorem Filled.run (h : s.Filled n) (hr : (taskManager oneThread).Run System.Any as s) :
    (taskManager oneThread).Run System.Any (as ++ [.submit ⟨1, 1⟩] ++ [.tryPush 0 false]) s.withOneMore :=
  .snoc (.snoc hr trivial rfl) trivial h.pushed

theorem Filled.withOneMore (h : s.Filled n) (hn : n + 1 < 4294967296) : s.withOneMore.Filled (n + 1) where
  lenThr := h.lenThr
  calls := h.calls
  pops := h.pops
  submitted := by
    have hlen := h.submitted
    simp only [TaskManager.submitted, List.length_map] at hlen
    simp [TaskManager.submitted, TaskManager.withOneMore, hlen]
  ring := by
    obtain ⟨l, hl, rfl⟩ := h.ring
    refine ⟨_, hl.pushBack hn _, ?_⟩
    simp

theorem exists_filled (n : Nat) (hn : n < 4294967296) :
    ∃ as s, (taskManager oneThread).Run System.Any as s ∧ s.Filled n := by
  induction n with
  | zero => exact ⟨[], _, .nil, rfl, rfl, rfl, rfl, [], SeqRing.holds_init, rfl⟩
  | succ n ih =>
    obtain ⟨as, s, hr, hf⟩ := ih (by omega)
    exact ⟨_, _, hf.run hr, hf.withOneMore hn⟩

end Filled

/-- `2 ^ 32` tasks are submitted before the one worker begins: they are all lost. -/
theorem all_tasks_lost : ∃ as s, (taskManager oneThread).Run System.Any as s ∧ s.submitted.length = 4294967296 ∧
    s.queued = [] ∧ s.takenTasks = [] ∧ ¬s.TaskLaw := by
  obtain ⟨as, s, hr, hf⟩ := exists_filled 4294967295 (by decide)
  obtain ⟨l, hl, hlen⟩ := hf.ring
  have hsub : s.withOneMore.submitted.length = 4294967296 := by
    have hlen := hf.submitted
    simp only [TaskManager.submitted, List.length_map] at hlen
    simp [TaskManager.submitted, TaskManager.withOneMore, hlen]
  have hsize : (s.withOneMore.queue 0).r.size = 0 := hl.size_pushBack (by omega) _
  have hqueued : s.withOneMore.queued = [] := by
    have hlen : s.withOneMore.lenThr = 1 := hf.lenThr
    rw [queued, hlen, List.range_one, List.flatMap_singleton, SeqRing.toList, hsize]
    rfl
  have htaken : s.withOneMore.takenTasks = [] := by
    simp [takenTasks, TaskManager.withOneMore, hf.pops]
  refine ⟨_, _, hf.run hr, hsub, hqueued, htaken, fun hlaw => ?_⟩
  have hp := hlaw.exact.length_eq
  rw [hqueued, htaken, List.length_map, hsub] at hp
  cases hp

end FlexRic.Ds.TaskManager
