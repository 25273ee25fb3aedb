import Mathlib.Logic.Function.Basic
import FlexRic.Ds.SeqRing
import FlexRic.Lib.System

/-! # The task manager of `task_manager.c`

A ring of tasks for each worker thread, under a lock of its own. Who submits a task pushes it to some ring, a worker
takes the tasks of any ring, and of its own ring it waits for them. A step is what a thread does under one lock. -/

namespace FlexRic.Ds

/-- `task_t`: two pointers, `NULL` being zero. -/
structure Task where
  args : Nat
  func : Nat
  deriving DecidableEq

/-- A task with the number of the call that submits it; the code does not number them. -/
structure Job where
  number : Nat
  task : Task
  deriving DecidableEq

/-- `not_q_t` -/
structure NotQ where
  r : SeqRing Job
  done : Bool

namespace NotQ

/-- `init_not_q` -/
def init : NotQ := ⟨.init, false⟩

/-- `try_push_not_q`, when nobody has the lock -/
def tryPush (q : NotQ) (j : Job) : Except String NotQ :=
  if ¬j.task.func ≠ 0 then .error "t.func != NULL"
  else if ¬j.task.args ≠ 0 then .error "t.args != NULL"
  else .ok { q with r := q.r.pushBack j }

/-- `push_not_q` -/
def push (q : NotQ) (j : Job) : Except String NotQ :=
  if ¬j.task.func ≠ 0 then .error "t.func != NULL"
  else .ok { q with r := q.r.pushBack j }

/-- How many tasks a worker takes at once. -/
def len (q : NotQ) : Nat := if q.r.size < 4096 then q.r.size else 4096

/-- `ret.t` -/
def tasks (q : NotQ) : List (Option Job) := (List.range q.len).map q.r.at_

/-- `try_pop_not_q`, when nobody has the lock: the queue without the tasks that are taken -/
def tryPop (q : NotQ) : Except String (Option NotQ) :=
  if q.r.size = 0 then .ok none
  else do
    let r ← q.r.erase q.len
    if q.r.size ≠ q.len + r.size then throw "sz == ret.len + seq_ring_size(&q->r)"
    return some { q with r }

/-- `it != seq_ring_end(&q->r)` for each task that is copied -/
def BeforeEnd (q : NotQ) : Prop :=
  ∀ i < q.len, SeqRing.mask q.r.cap (SeqRing.wrap (q.r.tail + i)) ≠ SeqRing.mask q.r.cap q.r.head

instance (q : NotQ) : Decidable q.BeforeEnd := inferInstanceAs (Decidable (∀ i < q.len, _))

/-- `pop_not_q` after its wait: nothing when the queue is done -/
def pop (q : NotQ) : Except String (Option NotQ) :=
  if q.done = true then .ok none
  else if ¬q.BeforeEnd then .error "it != seq_ring_end(&q->r)"
  else do
    let r ← q.r.erase q.len
    return some { q with r }

end NotQ

namespace TaskManager

/-- Where a thread is in `worker_thread`: at the queue `i` of the round of tries, in `pop_not_q`, at the tasks that it
took, or at the end. -/
inductive Worker
  | tries (i : Nat)
  | waits
  | runs (ts : List (Option Job))
  | exited

/-- A call of `async_task_manager` that has not pushed its task yet. -/
structure Call where
  job : Job
  index : Nat
  i : Nat

/-- What a worker took from a queue, and the size of the ring before. -/
structure Pop where
  worker : Nat
  queue : Nat
  size : Nat
  tasks : List (Option Job)

inductive Act
  /-- A thread calls `async_task_manager` with the task. -/
  | submit (t : Task)
  /-- The call tries the next queue; another thread may have its lock. -/
  | tryPush (k : Nat) (busy : Bool)
  /-- The call pushes to its first queue, after it tried all of them. -/
  | push (k : Nat)
  /-- The worker tries the next queue. -/
  | tryPop (w : Nat) (busy : Bool)
  /-- The worker wakes up in `pop_not_q`. -/
  | pop (w : Nat)
  /-- The worker runs the next of its tasks, or is through with them. -/
  | run (w : Nat)
  /-- `done_not_q` -/
  | done (q : Nat)
  deriving DecidableEq

/-- `assert(num_threads > 0 && num_threads < 33)` in `init_task_manager` -/
abbrev NumThreads := { n : Nat // 0 < n ∧ n < 33 }

end TaskManager

/-- `task_manager_t` with its threads, the calls that are under way, and what happened so far: the jobs by the order
of the calls, what was pushed to which queue, and what was taken. -/
structure TaskManager where
  lenThr : Nat
  index : Nat
  queue : Nat → NotQ
  worker : Nat → TaskManager.Worker
  calls : List TaskManager.Call
  called : List Job
  pushes : List (Nat × Job)
  pops : List TaskManager.Pop

namespace TaskManager

/-- `init_task_manager` -/
def init (n : NumThreads) : TaskManager where
  lenThr := n
  index := 0
  queue _ := .init
  worker w := if w < n then .tries w else .exited
  calls := []
  called := []
  pushes := []
  pops := []

/-- The state after a thread called `async_task_manager` and got its index. -/
def withCall (s : TaskManager) (t : Task) : TaskManager :=
  { s with
    index := (s.index + 1) % 18446744073709551616
    calls := s.calls ++ [⟨⟨s.called.length, t⟩, s.index, 0⟩]
    called := s.called ++ [⟨s.called.length, t⟩] }

/-- The queue that a call tries next: `(i+index) % man->len_thr` -/
def nextQueue (s : TaskManager) (c : Call) : Nat := (c.i + c.index) % 18446744073709551616 % s.lenThr

/-- `index%man->len_thr` -/
def firstQueue (s : TaskManager) (c : Call) : Nat := c.index % s.lenThr

/-- The state after the call put its task into the queue. -/
def pushed (s : TaskManager) (k : Nat) (c : Call) (q : Nat) (nq : NotQ) : TaskManager :=
  { s with
    queue := Function.update s.queue q nq
    calls := s.calls.eraseIdx k
    pushes := s.pushes ++ [(q, c.job)] }

/-- `num_it` -/
def numIt (s : TaskManager) (w : Nat) : Nat := 3 * (s.lenThr + w)

/-- The state after the worker got nothing from the queue that it tried. -/
def skipped (s : TaskManager) (w i : Nat) : TaskManager :=
  { s with worker := Function.update s.worker w (if i + 1 < s.numIt w then .tries (i + 1) else .waits) }

/-- The state after the worker took the tasks of the queue. -/
def taken (s : TaskManager) (w q : Nat) (nq : NotQ) : TaskManager :=
  { s with
    queue := Function.update s.queue q nq
    worker := Function.update s.worker w (.runs (s.queue q).tasks)
    pops := s.pops ++ [⟨w, q, (s.queue q).r.size, (s.queue q).tasks⟩] }

def step (s : TaskManager) : Act → Outcome TaskManager
  | .submit t => do
    Outcome.check (t.func ≠ 0) "t.func != NULL"
    return s.withCall t
  | .tryPush k busy => do
    let c ← .ofOption s.calls[k]?
    Outcome.await (c.i < s.lenThr)
    if busy then return { s with calls := s.calls.set k { c with i := c.i + 1 } }
    else do
      let q ← .ofExcept ((s.queue (s.nextQueue c)).tryPush c.job)
      return s.pushed k c (s.nextQueue c) q
  | .push k => do
    let c ← .ofOption s.calls[k]?
    Outcome.await (¬c.i < s.lenThr)
    let q ← .ofExcept ((s.queue (s.firstQueue c)).push c.job)
    return s.pushed k c (s.firstQueue c) q
  | .tryPop w busy =>
    match s.worker w with
    | .tries i =>
      if busy then return s.skipped w i
      else do
        match ← .ofExcept (s.queue (i % s.lenThr)).tryPop with
        | none => return s.skipped w i
        | some q => return s.taken w (i % s.lenThr) q
    | _ => .blocked
  | .pop w =>
    match s.worker w with
    | .waits => do
      Outcome.await ¬((s.queue w).r.size = 0 ∧ (s.queue w).done = false)
      match ← .ofExcept (s.queue w).pop with
      | none => return { s with worker := Function.update s.worker w .exited }
      | some q => return s.taken w w q
    | _ => .blocked
  | .run w =>
    match s.worker w with
    | .runs [] => return { s with worker := Function.update s.worker w (.tries w) }
    | .runs (_ :: ts) => return { s with worker := Function.update s.worker w (.runs ts) }
    | _ => .blocked
  | .done q => do
    Outcome.await (q < s.lenThr)
    return { s with queue := Function.update s.queue q { s.queue q with done := true } }

end TaskManager

/-- The task manager with this many worker threads. -/
def taskManager (n : TaskManager.NumThreads) : System TaskManager TaskManager.Act := ⟨.init n, TaskManager.step⟩

end FlexRic.Ds
