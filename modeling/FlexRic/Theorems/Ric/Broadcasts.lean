import Mathlib.Data.List.Perm.Subperm
import FlexRic.Theorems.Ric.XappNumbers

/-! # The xApps that an update is sent to

The iApp registers each xApp under the next identifier, with the address its setup request came from. An update is sent
to as many identifiers as there were xApps when they were counted, from 7 on, so it is sent once to each of them. The
runs here are watched: what a notification counts and what it sends is written down. -/

namespace FlexRic.Ric
open Ds E2ap Ep MsgHand IApp XApp

namespace Connections

/-! ### The identifiers and the addresses -/

/-- The addresses of the E42 setup requests, in order. -/
def setups (as : List Act) : List SctpInfo := as.filterMap Act.setup?

/-- The addresses under consecutive identifiers, the first one under 7. -/
def numbered (infos : List SctpInfo) : List (Nat × SctpInfo) := (infos.zipIdx 7).map Prod.swap

theorem numbered_concat (infos : List SctpInfo) (info : SctpInfo) :
    numbered (infos ++ [info]) = numbered infos ++ [(7 + infos.length, info)] := by
  rw [numbered, List.zipIdx_append, List.map_append]
  rfl

theorem numbered_keys (infos : List SctpInfo) : (numbered infos).map Prod.fst = List.range' 7 infos.length := by
  rw [numbered, List.map_map, List.range'_eq_map_range]
  refine List.ext_getElem? fun i => ?_
  simp only [List.getElem?_map, List.getElem?_zipIdx]
  by_cases hi : i < infos.length
  · simp [hi]
  · simp [hi]

theorem length_numbered (infos : List SctpInfo) : (numbered infos).length = infos.length := by
  rw [numbered, List.length_map, List.length_zipIdx]

/-- The xApps that have asked so far are registered, but for the one whose setup request is being handled. -/
structure Bound (as : List Act) (s : Connections) : Prop where
  counter : s.xappId = 7 + (setups as).length
  idle : (∀ xappId info nodes, s.iappLoop ≠ .registering xappId info nodes) →
    s.xapps.toList.Perm (numbered (setups as))
  registering : ∀ xappId info nodes, s.iappLoop = .registering xappId info nodes →
    ∃ infos, setups as = infos ++ [info] ∧ xappId = 7 + infos.length ∧ s.xapps.toList.Perm (numbered infos)

section Bound
variable {plugins : List Nat} {s t : Connections} {a : Act} {as : List Act}

theorem bound_init : Bound [] init := ⟨rfl, fun _ => .refl _, nofun⟩

theorem setups_concat : setups (as ++ [a]) = setups as ++ a.setup?.toList := by
  rw [setups, List.filterMap_append]
  cases a <;> rfl

theorem Bound.step (h : Bound as s) (hn : (setups (as ++ [a])).length < 65529) (hs : step plugins s a = .next t) :
    Bound (as ++ [a]) t := by
  rcases iapp_cases hs with ⟨n, info, rfl⟩ | rfl | rfl | ⟨ha, hx, hc, hl⟩
  · obtain ⟨hl, rfl⟩ := e42Setup_inv hs
    have hset : setups (as ++ [.e42Setup n info]) = setups as ++ [info] := setups_concat
    have hreg := h.idle (by rw [hl]; exact nofun)
    have hc := h.counter
    rw [hset, List.length_append, List.length_singleton] at hn
    refine ⟨?_, fun hno => absurd rfl (hno _ _ _), ?_⟩
    · rw [hset, List.length_append, List.length_singleton]
      show (s.xappId + 1) % 2 ^ 32 = _
      omega
    · rintro _ _ _ ⟨⟩
      refine ⟨setups as, hset, ?_, hreg⟩
      omega
  · obtain ⟨xappId, info, nodes, xapps, hl, hx, rfl⟩ := registerXapp_inv hs
    have hset : setups (as ++ [.registerXapp]) = setups as := setups_concat.trans (List.append_nil _)
    obtain ⟨infos, hinfos, rfl, hp⟩ := h.registering _ _ _ hl
    obtain ⟨-, rfl⟩ := addMapXappsSad_eq_ok.mp hx
    refine ⟨?_, fun _ => ?_, nofun⟩
    · rw [hset]
      exact h.counter
    · rw [hset, hinfos, numbered_concat]
      exact (s.xapps.toList_insert _ info).trans ((hp.cons _).trans (List.perm_append_singleton ..).symm)
  · obtain ⟨xappId, info, nodes, hl, rfl⟩ := respondXapp_inv hs
    have hset : setups (as ++ [.respondXapp]) = setups as := setups_concat.trans (List.append_nil _)
    refine ⟨?_, fun _ => ?_, nofun⟩
    · rw [hset]
      exact h.counter
    · rw [hset]
      exact h.idle (by rw [hl]; exact nofun)
  · have hset : setups (as ++ [a]) = setups as := by rw [setups_concat, ha, Option.toList_none, List.append_nil]
    refine ⟨?_, ?_, ?_⟩
    · rw [hc, hset]
      exact h.counter
    · rw [hl, hx, hset]
      exact h.idle
    · rw [hl, hx, hset]
      exact h.registering

theorem Bound.keys (h : Bound as s) : (s.xapps.toList.map Prod.fst).Perm (List.range' 7 s.xapps.size) ∧
    s.xapps.size ≤ (setups as).length := by
  obtain ⟨infos, hle, hp⟩ : ∃ infos, infos.length ≤ (setups as).length ∧ s.xapps.toList.Perm (numbered infos) := by
    by_cases hl : ∃ xappId info nodes, s.iappLoop = .registering xappId info nodes
    · obtain ⟨xappId, info, nodes, hl⟩ := hl
      obtain ⟨infos, hinfos, -, hp⟩ := h.registering _ _ _ hl
      exact ⟨infos, by rw [hinfos, List.length_append]; omega, hp⟩
    · exact ⟨setups as, Nat.le_refl _, h.idle fun xappId info nodes hl' => hl ⟨xappId, info, nodes, hl'⟩⟩
  have hsize : s.xapps.size = infos.length := by
    rw [AssocRbTree.size_eq_length, hp.length_eq, length_numbered]
  rw [hsize]
  exact ⟨numbered_keys infos ▸ hp.map Prod.fst, hle⟩

theorem Bound.registers (h : Bound as s) (msg : String) : Connections.step plugins s .registerXapp ≠ .abort msg := by
  intro hs
  simp only [Connections.step] at hs
  split at hs
  · next xappId info nodes hl =>
    obtain ⟨infos, -, rfl, hp⟩ := h.registering _ _ _ hl
    rcases Outcome.bind_eq_abort.mp hs with hs | ⟨_, _, hs⟩
    · have hreg : ∃ e ∈ s.xapps.toList, e.1 = 7 + infos.length := by
        by_contra hno
        have hnot : ¬Registered s.xapps (7 + infos.length) := by
          rintro ⟨info', hmem⟩
          exact hno ⟨_, hmem, rfl⟩
        rw [addMapXappsSad_eq_ok.mpr ⟨hnot, rfl⟩] at hs
        cases hs
      obtain ⟨e, he, hk⟩ := hreg
      have hmem := List.mem_map_of_mem (f := Prod.fst) (hp.mem_iff.mp he)
      rw [numbered_keys, List.mem_range'_1, hk] at hmem
      omega
    · cases hs
  · cases hs

end Bound

/-! ### Watching the notifications -/

/-- What a notification of the xApps has seen and done: the registered xApps when they were counted, and the identifiers
and addresses that the update was sent to. -/
structure Broadcast where
  registered : List (Nat × SctpInfo)
  sent : List (Nat × SctpInfo)

/-- The broadcast of the worker that has the lock, that of the loop, and those that are over. -/
structure Log where
  worker : Broadcast
  loop : Broadcast
  completed : List Broadcast

def Log.of (l : Log) : Notifier → Broadcast
  | .worker _ => l.worker
  | .loop => l.loop

def Log.set (l : Log) (b : Broadcast) : Notifier → Log
  | .worker _ => { l with worker := b }
  | .loop => { l with loop := b }

/-- The broadcast after a step: the xApps are counted, or a message is sent. -/
def Broadcast.after (b : Broadcast) (xapps : MapXapps) : Notice → Option (SctpInfo × E42NodesMsg) → Broadcast
  | .counting, _ => ⟨xapps.toList, []⟩
  | _, some (info, .updateE2Node xappId _) => { b with sent := b.sent ++ [(xappId, info)] }
  | _, _ => b

/-- What is written down when the step is taken. -/
def observe (s : Connections) (l : Log) : Act → Log
  | .notify who =>
    match s.notice? who with
    | none => l
    | some n =>
      match n.step s.reg s.xapps with
      | .error _ => l
      | .ok (some _, sent) => l.set ((l.of who).after s.xapps n sent) who
      | .ok (none, sent) => { l with completed := l.completed ++ [(l.of who).after s.xapps n sent] }
  | _ => l

/-- The connections, and what is written down about their notifications. -/
def watched (plugins : List Nat) : System (Connections × Log) Act where
  init := (init, ⟨⟨[], []⟩, ⟨[], []⟩, []⟩)
  step := fun (s, l) a => do
    let t ← step plugins s a
    return (t, observe s l a)

theorem exists_watched {plugins : List Nat} {as : List Act} {s : Connections} {G : Connections → Act → Prop}
    (h : (connections plugins).Run G as s) : ∃ l, (watched plugins).Run System.Any as (s, l) := by
  induction h with
  | nil => exact ⟨_, .nil⟩
  | @snoc as s t a _ _ hs ih =>
    obtain ⟨l, hl⟩ := ih
    have hstep : (watched plugins).step (s, l) a = .next (t, observe s l a) := Outcome.bind_eq_next.mpr ⟨t, hs, rfl⟩
    exact ⟨_, hl.snoc trivial hstep⟩

/-! ### What a broadcast has before it -/

/-- The xApps that were counted have consecutive identifiers, and are registered still. -/
structure Broadcast.Counted (b : Broadcast) (xapps : MapXapps) : Prop where
  keys : (b.registered.map Prod.fst).Perm (List.range' 7 b.registered.length)
  few : b.registered.length < 65529
  mem : ∀ e ∈ b.registered, e ∈ xapps.toList

/-- The broadcast has sent to the first identifiers, and the next ones are those that the loop has before it. -/
def Broadcast.InHand (b : Broadcast) (xapps : MapXapps) : Notice → Prop
  | .counting => True
  | .copying numXapp => b.Counted xapps ∧ b.sent = [] ∧ numXapp = b.registered.length
  | .sending _ xappIds => b.Counted xapps ∧ (∀ e ∈ b.sent, e ∈ b.registered) ∧
      b.sent.map Prod.fst ++ xappIds = List.range' 7 b.registered.length

section InHand
variable {b : Broadcast} {xapps xapps' : MapXapps} {r : Registries} {n : Notice}

theorem Broadcast.Counted.mono (h : b.Counted xapps) (hx : ∀ e ∈ xapps.toList, e ∈ xapps'.toList) :
    b.Counted xapps' := ⟨h.keys, h.few, fun e he => hx e (h.mem e he)⟩

theorem Broadcast.InHand.mono (h : b.InHand xapps n) (hx : ∀ e ∈ xapps.toList, e ∈ xapps'.toList) :
    b.InHand xapps' n := by
  cases n with
  | counting => trivial
  | copying numXapp => exact ⟨h.1.mono hx, h.2⟩
  | sending arr xappIds => exact ⟨h.1.mono hx, h.2⟩

theorem Broadcast.Counted.find (h : b.Counted xapps) (hn : (xapps.toList.map Prod.fst).Nodup) {i : Nat}
    (hi : i ∈ List.range' 7 b.registered.length) :
    ∃ info, findMapXappsSad xapps (i % 65536) = .ok info ∧ i % 65536 = i ∧ (i, info) ∈ b.registered := by
  obtain ⟨⟨k, info⟩, he, rfl⟩ := List.mem_map.mp (h.keys.mem_iff.mpr hi)
  have hlt := List.mem_range'_1.mp hi
  have hmod : k % 65536 = k := Nat.mod_eq_of_lt (by have := h.few; omega)
  rw [hmod]
  refine ⟨info, ?_, rfl, he⟩
  rcases findMapXappsSad_cases xapps k with ⟨hno, -⟩ | ⟨info', hm, hf⟩
  · exact absurd ⟨info, h.mem _ he⟩ hno
  · obtain ⟨-, rfl⟩ := Prod.mk.inj (List.inj_on_of_nodup_map hn hm (h.mem _ he) rfl)
    exact hf

theorem Broadcast.InHand.step_ok (h : b.InHand xapps n) (hn : (xapps.toList.map Prod.fst).Nodup) :
    ∃ n' sent, n.step r xapps = .ok (n', sent) := by
  cases n with
  | counting => exact ⟨_, _, rfl⟩
  | copying numXapp => exact ⟨_, _, rfl⟩
  | sending arr xappIds =>
    cases xappIds with
    | nil => exact ⟨_, _, rfl⟩
    | cons i xappIds =>
      obtain ⟨hc, -, hids⟩ := h
      have hi : i ∈ List.range' 7 b.registered.length := hids ▸ List.mem_append_right _ List.mem_cons_self
      obtain ⟨info, hf, -, -⟩ := hc.find hn hi
      exact ⟨_, _, by rw [Notice.step, hf]; rfl⟩

/-- A broadcast that has sent to all the identifiers has sent once to each of the xApps that were counted. -/
theorem Broadcast.sent_perm (hs : ∀ e ∈ b.sent, e ∈ b.registered)
    (hids : b.sent.map Prod.fst = List.range' 7 b.registered.length) : b.sent.Perm b.registered := by
  have hnd : b.sent.Nodup := List.Nodup.of_map Prod.fst (hids ▸ List.nodup_range')
  have hlen : b.registered.length ≤ b.sent.length := by
    have := congrArg List.length hids
    rw [List.length_map, List.length_range'] at this
    exact this.ge
  exact (List.subperm_of_subset hnd hs).perm_of_length_le hlen

/-- One step of a broadcast: it goes on, or it is over and was sent to each of the xApps that were counted. -/
theorem Broadcast.InHand.step {n' : Option Notice} {sent : Option (SctpInfo × E42NodesMsg)} (h : b.InHand xapps n)
    (hk : (xapps.toList.map Prod.fst).Perm (List.range' 7 xapps.size)) (hfew : xapps.size < 65529)
    (hs : n.step r xapps = .ok (n', sent)) :
    (∃ m, n' = some m ∧ (b.after xapps n sent).InHand xapps m) ∨
      n' = none ∧ (b.after xapps n sent).sent.Perm (b.after xapps n sent).registered := by
  have hn : (xapps.toList.map Prod.fst).Nodup := hk.nodup_iff.mpr List.nodup_range'
  have hsize := AssocRbTree.size_eq_length xapps
  cases n with
  | counting =>
    obtain ⟨rfl, rfl⟩ := Prod.mk.inj (Except.ok.inj hs)
    by_cases h0 : xapps.size = 0
    · refine .inr ⟨if_pos h0, ?_⟩
      have hnil : xapps.toList = [] := List.length_eq_zero_iff.mp (hsize ▸ h0)
      rw [Broadcast.after, hnil]
    · refine .inl ⟨_, if_neg h0, ⟨?_, hsize ▸ hfew, fun e he => he⟩, rfl, hsize⟩
      exact hsize ▸ hk
  | copying numXapp =>
    obtain ⟨rfl, rfl⟩ := Prod.mk.inj (Except.ok.inj hs)
    obtain ⟨hc, hsent, rfl⟩ := h
    refine .inl ⟨_, rfl, hc, fun e he => ?_, ?_⟩
    · have hmem : e ∈ b.sent := he
      rw [hsent] at hmem
      cases hmem
    · show b.sent.map Prod.fst ++ _ = _
      rw [hsent]
      rfl
  | sending arr xappIds =>
    obtain ⟨hc, hreg, hids⟩ := h
    cases xappIds with
    | nil =>
      obtain ⟨rfl, rfl⟩ := Prod.mk.inj (Except.ok.inj hs)
      rw [List.append_nil] at hids
      exact .inr ⟨rfl, Broadcast.sent_perm hreg hids⟩
    | cons i xappIds =>
      obtain ⟨info, hf, hmod, hmem⟩ := hc.find hn (hids ▸ List.mem_append_right _ List.mem_cons_self)
      rw [Notice.step, hf, hmod] at hs
      obtain ⟨rfl, rfl⟩ := Prod.mk.inj (Except.ok.inj hs)
      refine .inl ⟨_, rfl, ⟨hc.keys, hc.few, hc.mem⟩, fun e he => ?_, ?_⟩
      · rcases List.mem_append.mp he with he | he
        · exact hreg e he
        · exact List.mem_singleton.mp he ▸ hmem
      · show (b.sent ++ [(i, info)]).map Prod.fst ++ xappIds = _
        rw [List.map_append, List.append_assoc]
        exact hids

end InHand

/-! ### Every broadcast of a run -/

/-- The notification that the worker does. -/
def Worker.notice? : Worker → Option Notice
  | .notifying _ _ n => some n
  | _ => none

/-- The notifications that workers do. -/
def notices (s : Connections) : List Notice := s.workers.filterMap Worker.notice?

/-- No two workers have the lock, every notification has a broadcast in hand, and those that are over were sent once to
each of the xApps that were counted. -/
structure InLog (s : Connections) (l : Log) : Prop where
  one : s.notices.length ≤ 1
  worker : ∀ n ∈ s.notices, l.worker.InHand s.xapps n
  loop : ∀ n, s.loop = .notifying n → l.loop.InHand s.xapps n
  completed : ∀ b ∈ l.completed, b.sent.Perm b.registered

section InLog
variable {plugins : List Nat} {s t : Connections} {l : Log} {a : Act} {as : List Act}

theorem inLog_init : InLog init ⟨⟨[], []⟩, ⟨[], []⟩, []⟩ := ⟨Nat.zero_le _, nofun, nofun, nofun⟩

theorem notices_eq_nil (h : s.connLocked = false) : s.notices = [] := by
  refine List.filterMap_eq_nil_iff.mpr fun w hw => ?_
  have hno := List.any_eq_false.mp h w hw
  cases w with
  | notifying ans info n => exact absurd rfl hno
  | _ => rfl

/-- Nothing changes for the notifications but that the loop has one that has yet to count the xApps, or that there are
more xApps. -/
theorem InLog.still (h : InLog s l) (hw : t.notices.Perm s.notices)
    (hl : ∀ n, t.loop = .notifying n → s.loop = .notifying n ∨ n = .counting)
    (hx : ∀ e ∈ s.xapps.toList, e ∈ t.xapps.toList) : InLog t l where
  one := hw.length_eq ▸ h.one
  worker n hn := (h.worker n (hw.mem_iff.mp hn)).mono hx
  loop := by
    intro n hn
    rcases hl n hn with hn | rfl
    · exact (h.loop n hn).mono hx
    · trivial
  completed := h.completed

/-- The notification of a worker is the only one of a worker. -/
theorem InLog.others_nil (h : InLog s l) {j : Nat} {w : Worker} {n : Notice} (hj : s.workers[j]? = some w)
    (hw : w.notice? = some n) : (s.workers.eraseIdx j).filterMap Worker.notice? = [] := by
  have hp := filterMap_eraseIdx hj Worker.notice?
  have hone := h.one
  rw [notices, hp.length_eq, hw, Option.toList_some, List.length_append, List.length_singleton] at hone
  exact List.length_eq_zero_iff.mp (by omega)

/-- The notification of a thread goes on or is over, and so does its broadcast. -/
theorem InLog.notify {who : Notifier} {n : Notice} {n' : Option Notice} {sent : Option (SctpInfo × E42NodesMsg)}
    (h : InLog s l) (hk : (s.xapps.toList.map Prod.fst).Perm (List.range' 7 s.xapps.size)) (hfew : s.xapps.size < 65529)
    (hn : s.notice? who = some n) (hs : n.step s.reg s.xapps = .ok (n', sent)) :
    InLog (s.setNotice n' who) (observe s l (.notify who)) := by
  have hobs : observe s l (.notify who) = match n' with
      | some _ => l.set ((l.of who).after s.xapps n sent) who
      | none => { l with completed := l.completed ++ [(l.of who).after s.xapps n sent] } := by
    simp only [observe, hn, hs]
    cases n' <;> rfl
  have hover : ∀ b : Broadcast, b.sent.Perm b.registered → ∀ b' ∈ l.completed ++ [b], b'.sent.Perm b'.registered := by
    intro b hb b' hb'
    rcases List.mem_append.mp hb' with hb' | hb'
    · exact h.completed b' hb'
    · exact List.mem_singleton.mp hb' ▸ hb
  rw [hobs]
  rcases @setNotice_cases s who n' n hn with ⟨j, ans, info, rfl, hj, he⟩ | ⟨rfl, hl, he⟩
  · have hnil := h.others_nil hj rfl
    have hset : (s.setNotice n' (.worker j)).notices.Perm n'.toList := by
      rw [he]
      refine (filterMap_set_eraseIdx hj _ Worker.notice?).trans ?_
      rw [hnil, List.append_nil]
      cases n' <;> exact .refl _
    have hmem : n ∈ s.notices := List.mem_filterMap.mpr ⟨_, List.mem_of_getElem? hj, rfl⟩
    have hx : (s.setNotice n' (.worker j)).xapps = s.xapps := by rw [he]
    have hloop : (s.setNotice n' (.worker j)).loop = s.loop := by rw [he]
    rcases (h.worker n hmem).step hk hfew hs with ⟨m, rfl, hm⟩ | ⟨rfl, hb⟩
    · refine ⟨hset.length_eq.le, fun m' hm' => ?_, fun m' hm' => ?_, h.completed⟩
      · obtain rfl := List.mem_singleton.mp (hset.mem_iff.mp hm')
        rw [hx]
        exact hm
      · rw [hx]
        exact h.loop m' (hloop ▸ hm')
    · refine ⟨hset.length_eq.le.trans (Nat.zero_le _), fun m' hm' => ?_, fun m' hm' => ?_, hover _ hb⟩
      · cases hset.mem_iff.mp hm'
      · rw [hx]
        exact h.loop m' (hloop ▸ hm')
  · rw [he]
    rcases (h.loop n hl).step hk hfew hs with ⟨m, rfl, hm⟩ | ⟨rfl, hb⟩
    · refine ⟨h.one, h.worker, fun m' hm' => ?_, h.completed⟩
      obtain rfl := RicLoop.notifying.inj hm'
      exact hm
    · exact ⟨h.one, h.worker, nofun, hover _ hb⟩

theorem InLog.step (h : InLog s l) (hk : (s.xapps.toList.map Prod.fst).Perm (List.range' 7 s.xapps.size))
    (hfew : s.xapps.size < 65529) (hs : step plugins s a = .next t) : InLog t (observe s l a) := by
  cases a with
  | notify who =>
    obtain ⟨n, n', sent, hn, hstep, rfl⟩ := notify_inv hs
    have hset := h.notify hk hfew hn hstep
    cases sent with
    | none => exact hset
    | some m => exact hset.still (.refl _) (fun _ => .inl) fun _ => id
  | connect j =>
    obtain ⟨id, ans, info, hj, hlock, rfl⟩ := connect_inv hs
    have hp := filterMap_eraseIdx hj Worker.notice?
    rw [show s.workers.filterMap Worker.notice? = [] from notices_eq_nil hlock] at hp
    have hnil : (s.workers.eraseIdx j).filterMap Worker.notice? = [] := hp.nil_eq.symm
    have hset := filterMap_set_eraseIdx hj (.notifying ans info .counting) Worker.notice?
    rw [hnil] at hset
    refine ⟨hset.length_eq.le, fun m hm => ?_, h.loop, h.completed⟩
    obtain rfl := List.mem_singleton.mp (hset.mem_iff.mp hm)
    trivial
  | addE2Node j =>
    obtain ⟨_, _, _, _, hj, -, -, rfl⟩ := addE2Node_inv hs
    exact h.still (filterMap_set hj rfl) (fun _ => .inl) fun _ => id
  | respond j =>
    obtain ⟨_, _, hj, rfl⟩ := respond_inv hs
    exact h.still (filterMap_eraseIdx hj Worker.notice?).symm (fun _ => .inl) fun _ => id
  | registerXapp =>
    obtain ⟨_, info, _, _, _, hx, rfl⟩ := registerXapp_inv hs
    obtain ⟨-, rfl⟩ := addMapXappsSad_eq_ok.mp hx
    exact h.still (.refl _) (fun _ => .inl) fun e he =>
      (s.xapps.toList_insert _ info).mem_iff.mpr (List.mem_cons_of_mem _ he)
  | remove =>
    obtain ⟨_, _, -, -, rfl⟩ := remove_inv hs
    refine h.still (.refl _) (fun n hn => .inr ?_) fun _ => id
    exact (RicLoop.notifying.inj hn).symm
  | shutdownArrives info => obtain ⟨-, _, _, -, rfl⟩ := shutdownArrives_inv hs; exact h.still (.refl _) nofun fun _ => id
  | erase => obtain ⟨_, _, -, -, -, rfl⟩ := erase_inv hs; exact h.still (.refl _) nofun fun _ => id
  | setupArrives req info => obtain ⟨-, rfl⟩ := setupArrives_inv hs; exact h.still (.refl _) (fun _ => .inl) fun _ => id
  | regSockAddr i => obtain ⟨_, _, -, rfl⟩ := regSockAddr_inv hs; exact h.still (.refl _) (fun _ => .inl) fun _ => id
  | e42Setup n info => obtain ⟨-, rfl⟩ := e42Setup_inv hs; exact h.still (.refl _) (fun _ => .inl) fun _ => id
  | respondXapp => obtain ⟨_, _, _, -, rfl⟩ := respondXapp_inv hs; exact h.still (.refl _) (fun _ => .inl) fun _ => id
  | xappReads p => obtain ⟨_, _, _, -, -, rfl⟩ := xappReads_inv hs; exact h.still (.refl _) (fun _ => .inl) fun _ => id

theorem InLog.inHand (h : InLog s l) {who : Notifier} {n : Notice} (hw : s.notice? who = some n) :
    (l.of who).InHand s.xapps n := by
  rcases @setNotice_cases s who none n hw with ⟨j, ans, info, rfl, hj, -⟩ | ⟨rfl, hl, -⟩
  · exact h.worker n (List.mem_filterMap.mpr ⟨_, List.mem_of_getElem? hj, rfl⟩)
  · exact h.loop n hl

theorem InLog.goesOn (h : InLog s l) (hn : (s.xapps.toList.map Prod.fst).Nodup) {who : Notifier} {n : Notice}
    (hw : s.notice? who = some n) : ∃ t, Connections.step plugins s (.notify who) = .next t := by
  obtain ⟨n', sent, hs⟩ : ∃ n' sent, n.step s.reg s.xapps = .ok (n', sent) := (h.inHand hw).step_ok hn
  simp only [Connections.step, hw, hs]
  exact ⟨_, rfl⟩

end InLog

/-! ### The steps that a notification has before it -/

/-- The nodes that the update has. -/
def Notice.array (r : Registries) : Notice → List E2NodeConnected
  | .sending newE2Arr _ => newE2Arr
  | _ => generateE2NodeArr r.iappE2Nodes

/-- The identifiers that the update is yet to be sent to. -/
def Notice.ids (xapps : MapXapps) : Notice → List Nat
  | .counting => List.range' 7 xapps.size
  | .copying numXapp => List.range' 7 numXapp
  | .sending _ xappIds => xappIds

/-- The number of steps that are left. -/
def Notice.left (xapps : MapXapps) : Notice → Nat
  | .counting => if xapps.size = 0 then 1 else xapps.size + 3
  | .copying numXapp => numXapp + 2
  | .sending _ xappIds => xappIds.length + 1

/-- What is written down of the broadcast that the notification is of. -/
def Broadcast.begun (b : Broadcast) (xapps : MapXapps) : Notice → Broadcast
  | .counting => ⟨xapps.toList, []⟩
  | _ => b

/-- The thread takes `k` steps of its notification, and each of the xApps told gets the update, at its address and with
its identifier. -/
structure Tells (plugins : List Nat) (who : Notifier) (arr : List E2NodeConnected) (k : Nat)
    (told : List (Nat × SctpInfo)) (s t : Connections × Log) : Prop where
  steps : (watched plugins).exec System.Any s (List.replicate k (.notify who)) = .next t
  inbox : ∀ p, (t.1.xapp p).inbox =
    (s.1.xapp p).inbox ++ (told.filter (·.2.peer = p)).map fun e => .updateE2Node e.1 (carried arr)

/-- The notification is completed in the steps that it has left. Those told are the registered xApps with the identifiers
that were left, and the broadcast that is written down was sent once to each of those that were counted. -/
structure Completes (plugins : List Nat) (who : Notifier) (n : Notice) (told : List (Nat × SctpInfo)) (s : Connections)
    (l : Log) (t : Connections) (l' : Log) : Prop where
  ids : told.map Prod.fst = n.ids s.xapps
  mem : ∀ e ∈ told, e ∈ s.xapps.toList
  tells : Tells plugins who (n.array s.reg) (n.left s.xapps) told (s, l) (t, l')
  ended : t.notice? who = none
  completed : l'.completed =
    l.completed ++ [⟨((l.of who).begun s.xapps n).registered, ((l.of who).begun s.xapps n).sent ++ told⟩]
  once : (((l.of who).begun s.xapps n).sent ++ told).Perm ((l.of who).begun s.xapps n).registered

section Tells
variable {plugins : List Nat} {s t : Connections} {l l' : Log} {who : Notifier} {n : Notice} {n' : Option Notice}
  {k : Nat} {arr : List E2NodeConnected} {told : List (Nat × SctpInfo)} {u v : Connections × Log}

theorem Log.of_set {b : Broadcast} : (l.set b who).of who = b := by cases who <;> rfl

theorem Log.completed_set {b : Broadcast} : (l.set b who).completed = l.completed := by cases who <;> rfl

theorem notice?_setNotice (hn : s.notice? who = some n) : (s.setNotice n' who).notice? who = n' := by
  rcases @setNotice_cases s who n' n hn with ⟨j, ans, info, rfl, hj, he⟩ | ⟨rfl, -, he⟩
  · have hlt : j < s.workers.length := (List.getElem?_eq_some_iff.mp hj).1
    rw [he]
    cases n' <;> simp [notice?, hlt]
  · rw [he]
    cases n' <;> rfl

/-- What a step of the notification does to the connections. -/
def noticed (s : Connections) (who : Notifier) (n' : Option Notice) (sent : Option (SctpInfo × E42NodesMsg)) :
    Connections := sent.elim (s.setNotice n' who) fun m => (s.setNotice n' who).send m.1 m.2

theorem notify_next {sent : Option (SctpInfo × E42NodesMsg)} (hn : s.notice? who = some n)
    (hs : n.step s.reg s.xapps = .ok (n', sent)) :
    Connections.step plugins s (.notify who) = .next (s.noticed who n' sent) := by
  simp only [Connections.step, hn, hs]
  rfl

theorem watched_next {a : Act} (h : Connections.step plugins s a = .next t) :
    (watched plugins).step (s, l) a = .next (t, observe s l a) := Outcome.bind_eq_next.mpr ⟨t, h, rfl⟩

theorem Tells.cons (first : List (Nat × SctpInfo)) (hs : (watched plugins).step u (.notify who) = .next v)
    (hin : ∀ p, (v.1.xapp p).inbox =
      (u.1.xapp p).inbox ++ (first.filter (·.2.peer = p)).map fun e => .updateE2Node e.1 (carried arr))
    {w : Connections × Log} (h : Tells plugins who arr k told v w) :
    Tells plugins who arr (k + 1) (first ++ told) u w where
  steps := (System.exec_cons trivial hs).trans h.steps
  inbox p := by rw [h.inbox p, hin p, List.append_assoc, List.filter_append, List.map_append]

theorem xapp_setNotice (hn : s.notice? who = some n) : (s.setNotice n' who).xapp = s.xapp ∧
    (s.setNotice n' who).xapps = s.xapps ∧ (s.setNotice n' who).reg = s.reg := by
  rcases @setNotice_cases s who n' n hn with ⟨_, _, _, -, -, he⟩ | ⟨-, -, he⟩ <;> rw [he] <;> exact ⟨rfl, rfl, rfl⟩

/-- The last step of a notification that sends nothing. -/
theorem Tells.last (hn : s.notice? who = some n) (hs : n.step s.reg s.xapps = .ok (none, none)) :
    Tells plugins who arr 1 [] (s, l) (s.setNotice none who, observe s l (.notify who)) where
  steps := System.exec_cons trivial (watched_next (notify_next hn hs))
  inbox p := by
    show ((s.setNotice none who).xapp p).inbox = _
    rw [(xapp_setNotice hn).1, List.filter_nil, List.map_nil, List.append_nil]

/-- A step that sends nothing comes first. -/
theorem Tells.silent {m : Notice} (hn : s.notice? who = some n) (hs : n.step s.reg s.xapps = .ok (some m, none))
    (h : Tells plugins who arr k told (s.setNotice (some m) who, observe s l (.notify who)) u) :
    Tells plugins who arr (k + 1) told (s, l) u := by
  refine Tells.cons [] (watched_next (notify_next hn hs)) (fun p => ?_) h
  show ((s.setNotice (some m) who).xapp p).inbox = _
  rw [(xapp_setNotice hn).1, List.filter_nil, List.map_nil, List.append_nil]

/-- A step that sends the update to an xApp comes first. -/
theorem Tells.sends {m : Notice} {info : SctpInfo} {i : Nat} (hn : s.notice? who = some n)
    (hs : n.step s.reg s.xapps = .ok (some m, some (info, .updateE2Node i (carried arr))))
    (h : Tells plugins who arr k told (s.noticed who (some m) (some (info, .updateE2Node i (carried arr))),
      observe s l (.notify who)) u) : Tells plugins who arr (k + 1) ((i, info) :: told) (s, l) u := by
  refine Tells.cons [(i, info)] (watched_next (notify_next hn hs)) (fun p => ?_) h
  show (if p = info.peer then _ else (s.setNotice (some m) who).xapp p : Peer).inbox = _
  rw [(xapp_setNotice hn).1]
  by_cases hp : p = info.peer
  · simp [hp]
  · simp [hp, Ne.symm hp]

theorem observe_goesOn {m : Notice} {sent : Option (SctpInfo × E42NodesMsg)} (hn : s.notice? who = some n)
    (hs : n.step s.reg s.xapps = .ok (some m, sent)) :
    observe s l (.notify who) = l.set ((l.of who).after s.xapps n sent) who := by
  simp only [observe, hn, hs]

theorem observe_over (hn : s.notice? who = some n) (hs : n.step s.reg s.xapps = .ok (none, none)) :
    observe s l (.notify who) = { l with completed := l.completed ++ [(l.of who).after s.xapps n none] } := by
  simp only [observe, hn, hs]

/-- A notification that goes on in silence is completed when it is from there on. -/
theorem Completes.silent {m : Notice} (hn : s.notice? who = some n) (hs : n.step s.reg s.xapps = .ok (some m, none))
    (hids : m.ids s.xapps = n.ids s.xapps) (harr : m.array s.reg = n.array s.reg)
    (hleft : n.left s.xapps = m.left s.xapps + 1)
    (hb : ((l.of who).after s.xapps n none).begun s.xapps m = (l.of who).begun s.xapps n)
    (h : Completes plugins who m told (s.setNotice (some m) who) (observe s l (.notify who)) t l') :
    Completes plugins who n told s l t l' := by
  obtain ⟨-, hx, hr⟩ := @xapp_setNotice s who n (some m) hn
  have hobs := @observe_goesOn s l who n m none hn hs
  obtain ⟨h₁, h₂, h₃, h₄, h₅, h₆⟩ := h
  rw [hx, hids] at h₁
  rw [hx] at h₂
  rw [hx, hr, harr] at h₃
  rw [hx, hobs, Log.of_set, Log.completed_set, hb] at h₅
  rw [hx, hobs, Log.of_set, hb] at h₆
  exact ⟨h₁, h₂, hleft ▸ Tells.silent hn hs h₃, h₄, h₅, h₆⟩

/-- What a step of a notification needs of the xApps. -/
structure Ready (s : Connections) (l : Log) : Prop where
  log : InLog s l
  keys : (s.xapps.toList.map Prod.fst).Perm (List.range' 7 s.xapps.size)
  few : s.xapps.size < 65529

theorem Ready.notify (h : Ready s l) {sent : Option (SctpInfo × E42NodesMsg)} (hn : s.notice? who = some n)
    (hs : n.step s.reg s.xapps = .ok (n', sent)) : Ready (s.noticed who n' sent) (observe s l (.notify who)) := by
  have hx : (s.noticed who n' sent).xapps = s.xapps := by
    cases sent <;> exact (xapp_setNotice hn).2.1
  have hlog := h.log.step h.keys h.few (@notify_next [] s who n n' sent hn hs)
  exact ⟨hlog, hx ▸ h.keys, hx ▸ h.few⟩

/-- The identifier whose turn it is, is registered, and its xApp gets the update. -/
theorem Ready.step_sending {i : Nat} {ids : List Nat} (h : Ready s l)
    (hn : s.notice? who = some (.sending arr (i :: ids))) : ∃ info, (i, info) ∈ s.xapps.toList ∧
      Notice.step s.reg s.xapps (.sending arr (i :: ids)) =
        .ok (some (.sending arr ids), some (info, .updateE2Node i (carried arr))) := by
  obtain ⟨hc, -, hids⟩ := h.log.inHand hn
  have hmem : i ∈ List.range' 7 (l.of who).registered.length := hids ▸ List.mem_append_right _ List.mem_cons_self
  obtain ⟨info, hf, hmod, hreg⟩ := hc.find (h.keys.nodup_iff.mpr List.nodup_range') hmem
  refine ⟨info, hc.mem _ hreg, ?_⟩
  rw [Notice.step, hf, hmod]
  rfl

theorem Ready.completes_sending {ids : List Nat} (h : Ready s l) (hn : s.notice? who = some (.sending arr ids)) :
    ∃ told t l', Completes plugins who (.sending arr ids) told s l t l' := by
  induction ids generalizing s l with
  | nil =>
    obtain ⟨-, hreg, hids⟩ := h.log.inHand hn
    rw [List.append_nil] at hids
    have hperm := Broadcast.sent_perm hreg hids
    refine ⟨[], _, _, rfl, nofun, Tells.last hn rfl, notice?_setNotice hn, ?_, ?_⟩
    · rw [observe_over hn rfl, List.append_nil]
      rfl
    · rw [List.append_nil]
      exact hperm
  | cons i ids ih =>
    obtain ⟨info, hreg, hs⟩ := h.step_sending hn
    obtain ⟨told, t, l', h₁, h₂, h₃, h₄, h₅, h₆⟩ := ih (h.notify hn hs) (notice?_setNotice hn)
    have hx : (s.noticed who (some (.sending arr ids)) (some (info, .updateE2Node i (carried arr)))).xapps = s.xapps :=
      (xapp_setNotice hn).2.1
    rw [hx] at h₂
    rw [observe_goesOn hn hs, Log.of_set, Log.completed_set] at h₅
    rw [observe_goesOn hn hs, Log.of_set] at h₆
    refine ⟨(i, info) :: told, t, l', congrArg (i :: ·) h₁, ?_, Tells.sends hn hs h₃, h₄, ?_, ?_⟩
    · rintro e he
      rcases List.mem_cons.mp he with rfl | he
      · exact hreg
      · exact h₂ e he
    · rw [h₅]
      show l.completed ++ [Broadcast.mk _ ((l.of who).sent ++ [(i, info)] ++ told)] = _
      rw [List.append_assoc]
      rfl
    · rw [List.append_cons]
      exact h₆

/-- A thread that notifies the xApps completes that in the steps that it has left. -/
theorem Ready.completes (h : Ready s l) (hn : s.notice? who = some n) :
    ∃ told t l', Completes plugins who n told s l t l' := by
  have copying : ∀ {s : Connections} {l : Log} {numXapp}, Ready s l → s.notice? who = some (.copying numXapp) →
      ∃ told t l', Completes plugins who (.copying numXapp) told s l t l' := by
    intro s l numXapp h hn
    obtain ⟨told, t, l', hc⟩ := (h.notify hn rfl).completes_sending (notice?_setNotice hn)
    refine ⟨told, t, l', hc.silent hn rfl rfl rfl ?_ rfl⟩
    rw [Notice.left, Notice.left, List.length_range']
  cases n with
  | counting =>
    by_cases h0 : s.xapps.size = 0
    · have hs : Notice.step s.reg s.xapps .counting = .ok (none, none) := by rw [Notice.step, if_pos h0]
      have hnil : s.xapps.toList = [] := List.length_eq_zero_iff.mp (AssocRbTree.size_eq_length s.xapps ▸ h0)
      refine ⟨[], s.setNotice none who, observe s l (.notify who), ?_, nofun, ?_, notice?_setNotice hn, ?_, ?_⟩
      · rw [Notice.ids, h0]
        rfl
      · rw [Notice.left, if_pos h0]
        exact Tells.last hn hs
      · rw [observe_over hn hs]
        rfl
      · rw [Broadcast.begun, hnil]
        exact .refl _
    · have hs : Notice.step s.reg s.xapps .counting = .ok (some (.copying s.xapps.size), none) := by
        rw [Notice.step, if_neg h0]
      obtain ⟨told, t, l', hc⟩ := copying (h.notify hn hs) (notice?_setNotice hn)
      exact ⟨told, t, l', hc.silent hn hs rfl rfl (if_neg h0) rfl⟩
  | copying numXapp => exact copying h hn
  | sending arr ids => exact h.completes_sending hn

end Tells

/-! ### The law of the xApps -/

/-- The registered xApps are those that have asked, under consecutive identifiers, but for one whose setup request is
being handled. No registration fails. A step of a notification never looks up an identifier in vain, and sends the
update to the next one; in the steps it has left, a thread completes its notification, and those told are, of the
registered xApps, all those whose turn was still to come. The broadcasts that are over were sent once to each of the
xApps that were registered when they were counted. -/
structure XappsLaw (plugins : List Nat) (as : List Act) (s : Connections) (l : Log) : Prop where
  bound : (∀ xappId info nodes, s.iappLoop ≠ .registering xappId info nodes) →
    s.xapps.toList.Perm (numbered (setups as))
  registering : ∀ xappId info nodes, s.iappLoop = .registering xappId info nodes →
    ∃ infos, setups as = infos ++ [info] ∧ xappId = 7 + infos.length ∧ s.xapps.toList.Perm (numbered infos)
  registers : ∀ msg, step plugins s .registerXapp ≠ .abort msg
  goesOn : ∀ who n, s.notice? who = some n → ∃ t, step plugins s (.notify who) = .next t
  sends : ∀ who arr i ids, s.notice? who = some (.sending arr (i :: ids)) → ∃ info, (i, info) ∈ s.xapps.toList ∧
    step plugins s (.notify who) =
      .next ((s.setNotice (some (.sending arr ids)) who).send info (.updateE2Node i (carried arr)))
  completes : ∀ who n, s.notice? who = some n → ∃ told t l', Completes plugins who n told s l t l'
  once : ∀ b ∈ l.completed, b.sent.Perm b.registered

/-- Two xApps are registered, and a node connects. -/
def twoXappsTold : List Act :=
  [.e42Setup 1 (localHost 6000), .registerXapp, .respondXapp, .e42Setup 1 (localHost 6001), .registerXapp, .respondXapp] ++
    [.setupArrives (setupOf gnb) (localHost 5000), .regSockAddr 0, .addE2Node 0, .connect 0] ++
    [.notify (.worker 0), .notify (.worker 0), .notify (.worker 0), .notify (.worker 0), .notify (.worker 0)]

end Connections

end FlexRic.Ric
