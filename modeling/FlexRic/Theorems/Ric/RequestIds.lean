import FlexRic.Theorems.IApp.Maps
import FlexRic.Theorems.Ric.PendingEvents

/-! # The identifiers of the RIC's requests

The identifiers come from a counter that is cut to 16 bits, and no entry of `map_ric_id` is ever removed.
Whatever is on its way carries the identifier of a request that was given it, and until the identifiers
run out the map has one entry for each. -/

namespace FlexRic.Ric
open Ds E2ap Ep IApp

/-! ### Requests with an identifier -/

theorem stamp_of_lt {id : RicGenId} {r : Nat} (h : id.ricReqId < 65536) : stamp id r = { id with ricReqId := r } := by
  simp [stamp, Nat.div_eq_of_lt h]

/-- The entry of `map_ric_id` for the request. -/
def Issue.entry (i : Issue) : MapEntry := (⟨i.req.e2NodeId, i.id⟩, ⟨i.req.ricId, i.req.xappId⟩)

/-- The identifiers that the messages about the request carry between the RIC and the node. -/
def Issue.ricId (i : Issue) : RicGenId := { i.req.ricId with ricReqId := i.id }

/-- The requests, the last one first, have the numbers from 1021 on, cut to 16 bits. -/
def Numbered : List Issue → Prop
  | [] => True
  | i :: is => i.id = (1021 + is.length) % 65536 ∧ Numbered is

section Numbered
variable {is : List Issue} {i : Issue}

theorem Numbered.number (h : Numbered is) (hi : i ∈ is) : ∃ k < is.length, i.id = (1021 + k) % 65536 := by
  induction is with
  | nil => cases hi
  | cons j is ih =>
    rcases List.mem_cons.mp hi with rfl | hi
    · exact ⟨is.length, by simp, h.1⟩
    · obtain ⟨k, hk, hid⟩ := ih h.2 hi
      exact ⟨k, by simp only [List.length_cons]; omega, hid⟩

theorem Numbered.lt (h : Numbered is) (hi : i ∈ is) : i.id < 65536 := by
  obtain ⟨k, -, hid⟩ := h.number hi
  omega

/-- No request before the 64516th has the identifier zero. -/
theorem Numbered.pos (h : Numbered is) (hn : is.length ≤ 64515) (hi : i ∈ is) : 0 < i.id := by
  obtain ⟨k, hk, hid⟩ := h.number hi
  omega

theorem Numbered.fresh (h : Numbered is) (hn : is.length < 64515) (hi : i ∈ is) :
    i.id ≠ (1021 + is.length) % 65536 := by
  obtain ⟨k, hk, hid⟩ := h.number hi
  omega

theorem Numbered.nodup (h : Numbered is) (hn : is.length ≤ 64515) : (is.map Issue.id).Nodup := by
  induction is with
  | nil => exact List.nodup_nil
  | cons j is ih =>
    simp only [List.length_cons] at hn
    refine List.nodup_cons.mpr ⟨fun hm => ?_, ih h.2 (by omega)⟩
    obtain ⟨i, hi, hid⟩ := List.mem_map.mp hm
    exact h.2.fresh (by omega) hi (hid.trans h.1)

end Numbered

namespace Routing

/-! ### The invariant -/

/-- Some request, subscription or message on its way has the identifiers. -/
inductive Carries (s : Routing) : RicGenId → Prop
  | loop {q : NodeRequest} : s.loop.request? = some q → Carries s q.ricId
  | toNode {q : NodeRequest} : q ∈ s.toNode → Carries s q.ricId
  | subscribed {id : RicGenId} : id ∈ s.subscribed → Carries s id
  | toRic {m : NodeMsg} : m ∈ s.toRic → Carries s m.ricId
  | worker {w : Worker} : w ∈ s.workers → Carries s w.msg.ricId

/-- `map_ric_id` has the entries of all requests with an identifier, but for the one that is being passed on. -/
def Recorded (s : Routing) : Prop :=
  match s.loop.entry? with
  | none => s.iapp.mapRicId.Holds (s.issued.map Issue.entry)
  | some entry => ∃ i is, s.issued = i :: is ∧ entry = i.entry ∧ s.iapp.mapRicId.Holds (is.map Issue.entry)

/-- What every reachable state keeps of the identifiers. -/
structure Ids (s : Routing) : Prop where
  counter : s.freshId = (1021 + s.issued.length) % 65536
  numbered : Numbered s.issued
  recorded : s.Recorded
  carried : ∀ id, s.Carries id → ∃ i ∈ s.issued, id = i.ricId
  /-- What a worker has looked up belongs to the request that its message is about. -/
  found : ∀ m x, .forwarding m x ∈ s.workers → ∃ i ∈ s.issued, m.ricId = i.ricId ∧ x = i.entry.2
  /-- So does what was forwarded. -/
  sent : ∀ e ∈ s.forwarded, ∃ i ∈ s.issued, e.source.ricId = i.ricId ∧ e.sent = answerToXapp i.entry.2 e.source ∧
    (i.req.xappId, e.info) ∈ s.iapp.xapps.toList

/-- While no thread holds the lock for writing, the map has the entries of all requests. -/
theorem Ids.holds_of_unlocked {s : Routing} (h : s.Ids) (hl : s.loop.writeLocked = false) :
    s.iapp.mapRicId.Holds (s.issued.map Issue.entry) := by
  have hr := h.recorded
  have he : s.loop.entry? = none := by
    cases hloop : s.loop <;> simp_all [IappPc.writeLocked, IappPc.entry?]
  simpa only [Recorded, he] using hr

theorem ids_init : init.Ids where
  counter := rfl
  numbered := trivial
  recorded := BiMap.holds_init
  carried id h := by
    cases h with
    | loop h | toNode h | subscribed h | toRic h | worker h => cases h
  found m x h := by cases h
  sent e h := by cases h

section Preserve
variable {cfg : Config} {s t : Routing} {a : Act}

/-- What holds of the identifiers of each place where a message can be. -/
theorem Carries.imp {id : RicGenId} (h : t.Carries id) {P : RicGenId → Prop}
    (hl : ∀ q, t.loop.request? = some q → P q.ricId) (hn : ∀ q ∈ t.toNode, P q.ricId)
    (hb : ∀ id ∈ t.subscribed, P id) (hr : ∀ m ∈ t.toRic, P m.ricId) (hw : ∀ w ∈ t.workers, P w.msg.ricId) :
    P id := by
  cases h with
  | loop h => exact hl _ h
  | toNode h => exact hn _ h
  | subscribed h => exact hb _ h
  | toRic h => exact hr _ h
  | worker h => exact hw _ h

theorem Ids.move (h : s.Ids) (hreq : t.ric.reqId = s.ric.reqId) (his : t.issued = s.issued)
    (hm : t.iapp.mapRicId = s.iapp.mapRicId) (he : t.loop.entry? = s.loop.entry?)
    (hc : ∀ id, t.Carries id → s.Carries id)
    (hf : ∀ m x, .forwarding m x ∈ t.workers → .forwarding m x ∈ s.workers)
    (hx : ∀ e ∈ s.iapp.xapps.toList, e ∈ t.iapp.xapps.toList) (hs : t.forwarded = s.forwarded) : t.Ids where
  counter := by rw [freshId, hreq, his]; exact h.counter
  numbered := his ▸ h.numbered
  recorded := by
    have hr := h.recorded
    unfold Recorded at hr ⊢
    rw [he, hm, his]
    exact hr
  carried id hid := his ▸ h.carried id (hc id hid)
  found m x hm := his ▸ h.found m x (hf m x hm)
  sent e hm := by
    obtain ⟨i, hi, hid, hsent, hinfo⟩ := h.sent e (hs ▸ hm)
    exact ⟨i, his ▸ hi, hid, hsent, hx _ hinfo⟩

theorem Ids.moveLoop (h : s.Ids) {loop : IappPc} {ric : NearRic} {iapp : E42Iapp} {o : List (Nat × PendingEventRic)}
    (hreq : ric.reqId = s.ric.reqId) (hm : iapp.mapRicId = s.iapp.mapRicId) (he : loop.entry? = s.loop.entry?)
    (hc : ∀ q, loop.request? = some q → s.loop.request? = some q)
    (hx : ∀ e ∈ s.iapp.xapps.toList, e ∈ iapp.xapps.toList) :
    Ids { s with loop, ric, iapp, outstanding := o } :=
  h.move hreq rfl hm he
    (fun _ hid => hid.imp (fun q hq => .loop (hc q hq)) (fun _ hq => .toNode hq) (fun _ hi => .subscribed hi) (fun _ hm => .toRic hm)
      fun _ hw => .worker hw)
    (fun _ _ => id) hx rfl

/-- A step that changes what the workers do with messages. -/
theorem Ids.moveWorkers (h : s.Ids) {workers : List Worker} {toRic : List NodeMsg} {ric : NearRic}
    {o : List (Nat × PendingEventRic)} (hreq : ric.reqId = s.ric.reqId) (hr : ∀ m ∈ toRic, m ∈ s.toRic)
    (hw : ∀ w ∈ workers, w ∈ s.workers ∨ s.Carries w.msg.ricId ∧ ∀ m x, w ≠ .forwarding m x) :
    Ids { s with workers, toRic, ric, outstanding := o } :=
  h.move hreq rfl rfl rfl
    (fun _ hid => hid.imp (fun _ hq => .loop hq) (fun _ hq => .toNode hq) (fun _ hi => .subscribed hi) (fun m hm => .toRic (hr m hm))
      fun w hwm => (hw w hwm).elim .worker And.left)
    (fun m x hm => (hw _ hm).resolve_right fun ⟨_, hn⟩ => hn m x rfl) (fun _ => id) rfl

theorem Ids.takeId (h : s.Ids) (hs : Routing.step cfg s .takeId = .next t) : t.Ids := by
  obtain ⟨req, info, hl, rfl⟩ := takeId_inv hs
  have hr := h.recorded
  simp only [Recorded, hl, IappPc.entry?] at hr
  have hold : ∀ {p : Issue → Prop}, (∃ i ∈ s.issued, p i) → ∃ i ∈ ⟨s.freshId, req, info⟩ :: s.issued, p i :=
    fun ⟨i, hi, hp⟩ => ⟨i, List.mem_cons_of_mem _ hi, hp⟩
  refine ⟨?_, ⟨h.counter, h.numbered⟩, ⟨_, _, rfl, rfl, hr⟩, fun id hid => ?_, fun m x hm => hold (h.found m x hm),
    fun e he => hold (h.sent e he)⟩
  · have hc := h.counter
    simp only [freshId, List.length_cons] at hc ⊢
    omega
  · refine hid.imp (fun q hq => ?_) (fun _ hq => hold (h.carried _ (.toNode hq)))
      (fun _ hi => hold (h.carried _ (.subscribed hi))) (fun _ hm => hold (h.carried _ (.toRic hm)))
      fun _ hw => hold (h.carried _ (.worker hw))
    obtain rfl := Option.some.inj hq
    exact ⟨_, List.mem_cons_self .., stamp_of_lt req.ricReqId_lt⟩

theorem Ids.e42Delete (h : s.Ids) {req : E42DeleteRequest} (hs : Routing.step cfg s (.e42Delete req) = .next t) :
    t.Ids := by
  obtain ⟨hl, n, hn, rfl⟩ := e42Delete_inv hs
  have hr := h.recorded
  simp only [Recorded, hl, IappPc.entry?] at hr
  obtain ⟨i, hi, heq⟩ := List.mem_map.mp (findRicReqMapRicId_mem hr hn)
  obtain ⟨rfl, hx⟩ := Prod.mk.inj heq
  obtain ⟨hid, -⟩ := XappRicId.mk.inj hx
  refine ⟨h.counter, h.numbered, hr, fun id hid' => ?_, h.found, h.sent⟩
  refine hid'.imp (fun q hq => ?_) (fun _ hq => h.carried _ (.toNode hq)) (fun _ hi => h.carried _ (.subscribed hi))
    (fun _ hm => h.carried _ (.toRic hm)) fun _ hw => h.carried _ (.worker hw)
  obtain rfl := Option.some.inj hq
  exact ⟨i, hi, by rw [Issue.ricId, hid]⟩

/-- A worker that looks a message up finds the request that the message is about. -/
theorem Ids.lookup (h : s.Ids) {j : Nat} (hs : Routing.step cfg s (.lookup j) = .next t) : t.Ids := by
  obtain ⟨m, x, hj, hl, hx, hran, hinst, rfl⟩ := lookup_inv hs
  have hm : s.Carries m.ricId := .worker (w := .looking m) (List.mem_of_getElem? hj)
  refine ⟨h.counter, h.numbered, h.recorded, fun id hid => h.carried id ?_, fun m' x' hw => ?_, h.sent⟩
  · refine hid.imp (fun _ hq => .loop hq) (fun _ hq => .toNode hq) (fun _ hi => .subscribed hi) (fun _ hm => .toRic hm) fun w hw => ?_
    rcases List.mem_or_eq_of_mem_set hw with hw | rfl
    · exact .worker hw
    · exact hm
  · rcases List.mem_or_eq_of_mem_set hw with hw | heq
    · exact h.found m' x' hw
    · obtain ⟨rfl, rfl⟩ := Worker.forwarding.inj heq
      rcases findXappMapRicId_cases (h.holds_of_unlocked hl) (m'.ricId.ricReqId % 65536) with
        ⟨-, he⟩ | ⟨-, he⟩ | ⟨e, he, hid, hok⟩
      · simp [he] at hx
      · simp [he] at hx
      · obtain rfl : e.2 = x' := by simpa [hok] using hx
        obtain ⟨i, hi, rfl⟩ := List.mem_map.mp he
        obtain ⟨i', hi', hid'⟩ := h.carried _ hm
        have hlt := h.numbered.lt hi'
        have hreq : m'.ricId.ricReqId = i'.id := by rw [hid']; rfl
        rw [hreq, Nat.mod_eq_of_lt hlt] at hid
        refine ⟨i, hi, ?_, rfl⟩
        exact RicGenId.ext (hreq.trans hid.symm) hinst hran

theorem Ids.step (h : s.Ids) (hs : step cfg s a = .next t) : t.Ids := by
  cases a with
  | e42Setup n info =>
    obtain ⟨hl, rfl⟩ := e42Setup_inv hs
    exact h.moveLoop rfl rfl (by rw [hl]; rfl) nofun fun _ => id
  | register =>
    obtain ⟨x, info, xapps, hl, hx, rfl⟩ := register_inv hs
    obtain ⟨-, rfl⟩ := addMapXappsSad_eq_ok.mp hx
    exact h.moveLoop rfl rfl (by rw [hl]; rfl) nofun fun e he =>
      (AssocRbTree.toList_insert _ _ _).mem_iff.mpr (List.mem_cons_of_mem _ he)
  | e42Request req info =>
    obtain ⟨hl, -, rfl⟩ := e42Request_inv hs
    exact h.moveLoop rfl rfl (by rw [hl]; rfl) nofun fun _ => id
  | e42Delete req => exact h.e42Delete hs
  | takeId => exact h.takeId hs
  | createTimer fd =>
    obtain ⟨q, entry, hl, -, -, rfl⟩ := createTimer_inv hs
    exact h.moveLoop rfl rfl (by rw [hl]; rfl) (fun q' hq => by rw [hl]; exact hq) fun _ => id
  | arm =>
    obtain ⟨q, fd, entry, hl, rfl⟩ := arm_inv hs
    exact h.moveLoop rfl rfl (by rw [hl]; rfl) (fun q' hq => by rw [hl]; exact hq) fun _ => id
  | send =>
    obtain ⟨q, entry, hl, rfl⟩ := send_inv hs
    refine h.move rfl rfl rfl (by rw [hl]; cases entry <;> rfl) (fun id hid => ?_) (fun _ _ => id) (fun _ => id) rfl
    refine hid.imp (fun q hq => ?_) (fun q' hq => ?_) (fun _ hi => .subscribed hi) (fun _ hm => .toRic hm) fun _ hw => .worker hw
    · cases entry <;> cases hq
    · rcases List.mem_append.mp hq with hq | hq
      · exact .toNode hq
      · obtain rfl := List.mem_singleton.mp hq
        exact .loop (by rw [hl]; rfl)
  | record =>
    obtain ⟨entry, map, hl, hm, rfl⟩ := record_inv hs
    have hr := h.recorded
    simp only [Recorded, hl, IappPc.entry?] at hr
    obtain ⟨i, is, his, rfl, hh⟩ := hr
    obtain rfl := addMapRicId_inv hm
    refine ⟨h.counter, h.numbered, ?_, fun id hid => h.carried id ?_, h.found, h.sent⟩
    · simp only [Recorded, IappPc.entry?, his]
      exact hh.insert _ _
    · exact hid.imp nofun (fun _ hq => .toNode hq) (fun _ hi => .subscribed hi) (fun _ hm => .toRic hm) fun _ hw => .worker hw
  | nodeAnswer i m =>
    obtain ⟨q, subscribed, hq, -, hid, hsub, rfl⟩ := nodeAnswer_inv hs
    have hqm : s.Carries q.ricId := .toNode (List.mem_of_getElem? hq)
    refine h.move rfl rfl rfl rfl (fun id hid' => ?_) (fun _ _ => id) (fun _ => id) rfl
    refine hid'.imp (fun _ hq => .loop hq) (fun _ hq => .toNode (List.mem_of_mem_eraseIdx hq)) (fun id hi => ?_)
      (fun m' hm => ?_) fun _ hw => .worker hw
    · rcases hsub _ hi with hi | rfl
      · exact .subscribed hi
      · exact hqm
    · rcases List.mem_append.mp hm with hm | hm
      · exact .toRic hm
      · obtain rfl := List.mem_singleton.mp hm
        exact hid ▸ hqm
  | nodeIndicate m =>
    obtain ⟨hm, rfl⟩ := nodeIndicate_inv hs
    refine h.move rfl rfl rfl rfl (fun id hid => ?_) (fun _ _ => id) (fun _ => id) rfl
    refine hid.imp (fun _ hq => .loop hq) (fun _ hq => .toNode hq) (fun _ hi => .subscribed hi) (fun m' hm' => ?_) fun _ hw => .worker hw
    rcases List.mem_append.mp hm' with hm' | hm'
    · exact .toRic hm'
    · obtain rfl := List.mem_singleton.mp hm'
      exact .subscribed hm
  | take i =>
    obtain ⟨m, hm, ht⟩ := take_inv hs
    have hnew : ∀ {w v : Worker}, v.msg = m → (∀ m x, v ≠ .forwarding m x) → w ∈ v :: s.workers →
        w ∈ s.workers ∨ s.Carries w.msg.ricId ∧ ∀ m x, w ≠ .forwarding m x := by
      intro w v hv hn hw
      rcases List.mem_cons.mp hw with rfl | hw
      · exact .inr ⟨hv ▸ .toRic (List.mem_of_getElem? hm), hn⟩
      · exact .inl hw
    rcases ht with ⟨ev, fd, p, -, -, rfl⟩ | ⟨-, -, -, rfl⟩
    · exact h.moveWorkers rfl (fun _ => List.mem_of_mem_eraseIdx) fun w => hnew rfl nofun
    · exact h.moveWorkers rfl (fun _ => List.mem_of_mem_eraseIdx) fun w => hnew rfl nofun
  | rmFd j =>
    obtain ⟨fd, m, hj, rfl⟩ := rmFd_inv hs
    refine h.moveWorkers rfl (fun _ => id) fun w hw => ?_
    rcases List.mem_or_eq_of_mem_set hw with hw | rfl
    · exact .inl hw
    · exact .inr ⟨.worker (w := .stopping fd m) (List.mem_of_getElem? hj), nofun⟩
  | lookup j => exact h.lookup hs
  | forward j =>
    obtain ⟨m, x, info, hj, hx, rfl⟩ := forward_inv hs
    obtain ⟨i, hi, hid, rfl⟩ := h.found m x (List.mem_of_getElem? hj)
    refine ⟨h.counter, h.numbered, h.recorded, fun id hid => h.carried id ?_,
      fun m x hw => h.found m x (List.mem_of_mem_eraseIdx hw), fun e he => ?_⟩
    · exact hid.imp (fun _ hq => .loop hq) (fun _ hq => .toNode hq) (fun _ hi => .subscribed hi) (fun _ hm => .toRic hm)
        fun _ hw => .worker (List.mem_of_mem_eraseIdx hw)
    · rcases List.mem_cons.mp he with rfl | he
      · rcases findMapXappsSad_cases s.iapp.xapps i.req.xappId with ⟨-, hn⟩ | ⟨info', hmem, hok⟩
        · simp [Issue.entry, hn] at hx
        · obtain rfl : info' = info := by simpa [Issue.entry, hok] using hx
          exact ⟨i, hi, hid, rfl, hmem⟩
      · exact h.sent e he
  | epoll fds =>
    obtain ⟨-, -, rfl⟩ := epoll_inv hs
    exact h.move rfl rfl rfl rfl
      (fun _ hid => hid.imp (fun _ hq => .loop hq) (fun _ hq => .toNode hq) (fun _ hi => .subscribed hi) (fun _ hm => .toRic hm) fun _ hw => .worker hw)
      (fun _ _ => id) (fun _ => id) rfl
  | pendEvent =>
    obtain ⟨fd, rest, ev, -, -, rfl⟩ := pendEvent_inv hs
    exact h.move rfl rfl rfl rfl
      (fun _ hid => hid.imp (fun _ hq => .loop hq) (fun _ hq => .toNode hq) (fun _ hi => .subscribed hi) (fun _ hm => .toRic hm) fun _ hw => .worker hw)
      (fun _ _ => id) (fun _ => id) rfl

theorem ids_of_run {as : List Act} (h : (routing cfg).Run System.Any as s) : s.Ids :=
  h.invariant (I := Ids) ids_init fun _ _ _ hi _ hs => hi.step hs

end Preserve

/-! ### Steps that are taken -/

/-- The identifier that the next request is given is not zero, and no entry of `map_ric_id` has it. -/
def FreshOk (s : Routing) : Prop :=
  0 < s.freshId ∧ ∀ e ∈ s.iapp.mapRicId.left.toList, e.1.ricReqId ≠ s.freshId

section Progress
variable {cfg : Config} {s : Routing} {es : List (Nat × PendingEventRic)} {i j fd : Nat} {m : NodeMsg} {x : XappRicId}

/-- The entry that the loop has yet to add has an identifier that no entry has. -/
theorem Ids.record_fresh (h : s.Ids) (hn : s.issued.length ≤ 64515) {entry : MapEntry} (hl : s.loop = .recording entry) :
    ∃ map, addMapRicId s.iapp.mapRicId entry.1 entry.2 = .ok map := by
  have hr := h.recorded
  simp only [Recorded, hl, IappPc.entry?] at hr
  obtain ⟨i, is, his, rfl, hh⟩ := hr
  refine ⟨_, addMapRicId_of_fresh hh fun e he => ?_⟩
  obtain ⟨j, hj, rfl⟩ := List.mem_map.mp he
  have hnd := h.numbered.nodup hn
  rw [his] at hnd
  exact fun heq => (List.nodup_cons.mp hnd).1 (List.mem_map.mpr ⟨j, hj, heq⟩)

/-- The next identifier is fresh until 64515 were taken. -/
theorem Ids.freshOk (h : s.Ids) (hn : s.issued.length < 64515) : s.FreshOk := by
  refine ⟨by rw [h.counter]; omega, fun e he => ?_⟩
  have hmem : ∃ i ∈ s.issued, e = i.entry := by
    have hr := h.recorded
    unfold Recorded at hr
    split at hr
    · obtain ⟨i, hi, rfl⟩ := List.mem_map.mp (hr.left.mem_iff.mp he)
      exact ⟨i, hi, rfl⟩
    · obtain ⟨j, is, his, -, hh⟩ := hr
      obtain ⟨i, hi, rfl⟩ := List.mem_map.mp (hh.left.mem_iff.mp he)
      exact ⟨i, his ▸ List.mem_cons_of_mem _ hi, rfl⟩
  obtain ⟨i, hi, rfl⟩ := hmem
  rw [h.counter]
  exact h.numbered.fresh hn hi

/-- A look-up of identifiers that are on their way finds a request that has them. -/
theorem Ids.lookup_found (h : s.Ids) (hn : s.issued.length ≤ 64515) (hl : s.loop.writeLocked = false) {id : RicGenId}
    (hc : s.Carries id) : ∃ i ∈ s.issued, i.id = id.ricReqId ∧
      findXappMapRicId s.iapp.mapRicId (id.ricReqId % 65536) = .ok i.entry.2 := by
  obtain ⟨i, hi, rfl⟩ := h.carried id hc
  have hid : i.ricId.ricReqId % 65536 = i.id := Nat.mod_eq_of_lt (h.numbered.lt hi)
  rw [hid]
  rcases findXappMapRicId_cases (h.holds_of_unlocked hl) i.id with ⟨h0, -⟩ | ⟨hn', -⟩ | ⟨e, he, hid', hok⟩
  · exact absurd h0 (h.numbered.pos hn hi).ne'
  · exact absurd rfl (hn' _ (List.mem_map_of_mem hi))
  · obtain ⟨j, hj, rfl⟩ := List.mem_map.mp he
    exact ⟨j, hj, hid', hok⟩

theorem Table.take_next (cfg : Config) (i : Nat) (m : NodeMsg) (h : s.Table es)
    (hm : s.toRic[i]? = some m) {ev : PendingEventRic} (hev : answerEvent? m = some ev) :
    ∃ fd pending, Routing.step cfg s (.take i) = .next { s with
      toRic := s.toRic.eraseIdx i, ric.pending := pending, workers := .stopping fd m :: s.workers
      outstanding := s.outstanding.eraseP fun e => e.2 = ev } := by
  obtain ⟨fd, rest, p, -, hp, -⟩ := stopPendingEvent_holds h.holds h.fst_nodup (h.event_mem (List.mem_of_getElem? hm) hev)
  refine ⟨fd, p, ?_⟩
  obtain ⟨kind, hk, rfl⟩ := Option.map_eq_some_iff.mp hev
  simp only [Routing.step, hm, hk, hp, Outcome.ofOption, Outcome.ofExcept, Outcome.next_bind, Outcome.pure_eq]

theorem Table.rmFd_next (h : s.Table es) (hj : s.workers[j]? = some (.stopping fd m)) (hi : implemented m = true) :
    Routing.step cfg s (.rmFd j) = .next { s with
      ric.asio := s.ric.asio.erase fd, workers := s.workers.set j (.looking m) } := by
  have hfd : fd ∈ s.ric.asio := h.timers.mem_iff.mpr <| List.mem_append_right _ <| List.mem_append_right _ <|
    List.mem_filterMap.mpr ⟨_, List.mem_of_getElem? hj, rfl⟩
  simp only [Routing.step, hj, Outcome.check_of (h.pos fd hfd), Outcome.check_of hfd, Outcome.check_of hi, Outcome.next_bind,
    Outcome.pure_eq]

/-- A look-up that does not wait finds the request that the message is about. -/
theorem Ids.lookup_next (cfg : Config) (j : Nat) (m : NodeMsg) (h : s.Ids)
    (hn : s.issued.length ≤ 64515) (hj : s.workers[j]? = some (.looking m)) (hl : s.loop.writeLocked = false) :
    ∃ i ∈ s.issued, m.ricId = i.ricId ∧
      Routing.step cfg s (.lookup j) = .next { s with workers := s.workers.set j (.forwarding m i.entry.2) } := by
  have hc : s.Carries m.ricId := .worker (w := .looking m) (List.mem_of_getElem? hj)
  obtain ⟨i, hi, hid, hok⟩ := h.lookup_found hn hl hc
  obtain ⟨i', hi', heq⟩ := h.carried _ hc
  have hid' : i.id = i'.id := by rw [hid, heq]; rfl
  obtain rfl : i = i' := List.inj_on_of_nodup_map (h.numbered.nodup hn) hi hi' hid'
  refine ⟨i, hi, heq, ?_⟩
  have hran : m.ricId.ranFuncId = i.entry.2.ricId.ranFuncId := by rw [heq]; rfl
  have hinst : m.ricId.ricInstId = i.entry.2.ricId.ricInstId := by rw [heq]; rfl
  simp only [Routing.step, hj, Outcome.await_of hl, hok, Outcome.ofExcept, Outcome.check_of hran, Outcome.check_of hinst,
    Outcome.next_bind, Outcome.pure_eq]

theorem forward_next (cfg : Config) (hj : s.workers[j]? = some (.forwarding m x)) (hx : Registered s.iapp.xapps x.xappId) :
    ∃ info, (x.xappId, info) ∈ s.iapp.xapps.toList ∧ Routing.step cfg s (.forward j) = .next { s with
      workers := s.workers.eraseIdx j, forwarded := ⟨m, info, answerToXapp x m⟩ :: s.forwarded } := by
  rcases findMapXappsSad_cases s.iapp.xapps x.xappId with ⟨hn, -⟩ | ⟨info, hmem, hok⟩
  · exact absurd hx hn
  · exact ⟨info, hmem, by simp only [Routing.step, hj, hok, Outcome.ofExcept, Outcome.next_bind, Outcome.pure_eq]⟩

/-- The state after an accepted request was passed on under the timer. -/
def passedOn (s : Routing) (req : E42Request) (info : SctpInfo) (fd : Nat) : Routing :=
  let q : NodeRequest := ⟨req.kind, req.e2NodeId, stamp req.ricId s.freshId, req.body⟩
  { s with
    ric := ⟨(s.ric.reqId + 1) % 2 ^ 32, s.ric.pending.insert fd (requestEvent q), fd :: s.ric.asio⟩
    iapp.mapRicId := s.iapp.mapRicId.insert ⟨req.e2NodeId, s.freshId⟩ ⟨req.ricId, req.xappId⟩
    toNode := s.toNode ++ [q]
    issued := ⟨s.freshId, req, info⟩ :: s.issued
    outstanding := (fd, requestEvent q) :: s.outstanding }

/-- A request that is accepted is passed on and recorded. -/
theorem Ids.passOn_next (h : s.Ids) (hn : s.issued.length < 64515) (hl : s.loop = .idle) {req : E42Request}
    (info : SctpInfo) (fd : Nat) (ha : s.Accepts cfg req) (hfd : 0 < fd ∧ fd ∉ s.ric.asio) :
    (routing cfg).exec System.Any s (passOn req info fd) = .next (s.passedOn req info fd) := by
  have hh := h.holds_of_unlocked (by rw [hl]; rfl)
  have hmap := addMapRicId_of_fresh (n := ⟨req.e2NodeId, s.freshId⟩) (x := ⟨req.ricId, req.xappId⟩) hh
    fun e he => (h.freshOk hn).2 e (hh.left.mem_iff.mpr he)
  obtain ⟨h16, hle, hnode⟩ := ha
  unfold freshId at hmap
  simp [passOn, System.exec, System.Any, routing, Routing.step, hl, validXappId, validGlobalE2Node, h16, hle, hnode,
    hfd.1, hfd.2, hmap, Outcome.await, Outcome.check, Outcome.ofExcept, passedOn,
    freshId]

end Progress

/-! ### How long the identifiers last -/

/-- The assertions on identifiers in `add_map_ric_id` and `find_xapp_map_ric_id`. -/
def idTexts : List String := ["ric_req_id already in the map", "ric_req_id > 0", "Not found RIC Request ID"]

/-- Every identifier taken along the run is fresh, and no assertion on identifiers fails in a step from a
state along the run. -/
structure IdLaw (cfg : Config) (as : List Act) : Prop where
  fresh : ∀ bs s, bs ++ [.takeId] <+: as → (routing cfg).Run System.Any bs s → s.FreshOk
  asserted : ∀ bs s a, bs <+: as → (routing cfg).Run System.Any bs s → (step cfg s a).Avoids idTexts

section Last
variable {cfg : Config} {s t : Routing} {a : Act} {as : List Act} {is : List Issue}

/-- A request is given an identifier in the steps that take one, and in no others. -/
theorem length_issued (h : (routing cfg).Run System.Any as s) : s.issued.length = as.count .takeId := by
  refine h.invariant_trace (I := fun as s => s.issued.length = as.count .takeId) rfl ?_
  intro as s a t _ ih _ (hs : Routing.step cfg s a = .next t)
  rw [List.count_append, ← ih]
  by_cases ha : a = .takeId
  · subst ha
    obtain ⟨_, _, -, rfl⟩ := takeId_inv hs
    simp
  · rw [issued_of_step hs ha, List.count_singleton, if_neg (by simpa using ha), Nat.add_zero]

/-- No step from a state with fewer requests than identifiers fails an assertion on them. -/
theorem Ids.avoids (h : s.Ids) {es : List (Nat × PendingEventRic)} (ht : s.Table es) (hn : s.issued.length ≤ 64515) :
    (Routing.step cfg s a).Avoids idTexts := by
  cases a with
  | e42Setup n info =>
    exact .bind Outcome.avoids_await fun _ _ => .bind (Outcome.avoids_check (.inr (by decide))) fun _ _ =>
      Outcome.avoids_next
  | register =>
    simp only [Routing.step]
    split
    · exact .bind (Outcome.avoids_ofExcept fun msg he => addMapXappsSad_error he ▸ by decide) fun _ _ =>
        Outcome.avoids_next
    · exact Outcome.avoids_blocked
  | e42Request req info =>
    have hv : (validTexts req.kind).1 ∉ idTexts ∧ (validTexts req.kind).2 ∉ idTexts := by
      cases req.kind <;> decide
    exact .bind Outcome.avoids_await fun _ _ => .bind (.bind (Outcome.avoids_check (.inr (by decide))) fun _ _ =>
      Outcome.avoids_next) fun _ _ => .bind (Outcome.avoids_check (.inr hv.1)) fun _ _ =>
      .bind (Outcome.avoids_check (.inr hv.2)) fun _ _ => Outcome.avoids_next
  | e42Delete req =>
    exact .bind Outcome.avoids_await fun _ _ =>
      .bind (Outcome.avoids_ofExcept fun msg he => findRicReqMapRicId_error he ▸ by decide) fun _ _ =>
      Outcome.avoids_next
  | takeId | arm | send =>
    simp only [Routing.step]
    split
    · exact Outcome.avoids_next
    · exact Outcome.avoids_blocked
  | createTimer fd =>
    simp only [Routing.step]
    split
    · exact .bind Outcome.avoids_await fun _ _ => Outcome.avoids_next
    · exact Outcome.avoids_blocked
  | record =>
    simp only [Routing.step]
    split
    · next entry hl =>
      obtain ⟨map, hm⟩ := h.record_fresh hn hl
      exact .bind (Outcome.avoids_ofExcept fun msg he => by cases hm.symm.trans he) fun _ _ => Outcome.avoids_next
    · exact Outcome.avoids_blocked
  | nodeAnswer i m =>
    exact .bind Outcome.avoids_ofOption fun _ _ => .bind Outcome.avoids_await fun _ _ => Outcome.avoids_next
  | nodeIndicate m => exact .bind Outcome.avoids_await fun _ _ => Outcome.avoids_next
  | take i =>
    refine .bind Outcome.avoids_ofOption fun m hm => ?_
    split
    · next kind hk =>
      have hin : ⟨kind.pendingEvent, m.ricId⟩ ∈ es.map Prod.snd :=
        ht.event_mem (List.mem_of_getElem? (Outcome.ofOption_eq_next.mp hm)) (by rw [answerEvent?, hk]; rfl)
      obtain ⟨fd, rest, p, -, hp, -⟩ := stopPendingEvent_holds ht.holds ht.fst_nodup hin
      exact .bind (Outcome.avoids_ofExcept fun msg he => by cases hp.symm.trans he) fun _ _ => Outcome.avoids_next
    · exact .bind (Outcome.avoids_check (.inr (by decide))) fun _ _ =>
        .bind (Outcome.avoids_check (.inr (by decide))) fun _ _ => Outcome.avoids_next
  | rmFd j =>
    simp only [Routing.step]
    split
    · exact .bind (Outcome.avoids_check (.inr (by decide))) fun _ _ =>
        .bind (Outcome.avoids_check (.inr (by decide))) fun _ _ =>
        .bind (Outcome.avoids_check (.inr (by decide))) fun _ _ => Outcome.avoids_next
    · exact Outcome.avoids_blocked
  | lookup j =>
    simp only [Routing.step]
    split
    · next m hj =>
      refine .bind Outcome.avoids_await fun _ hl => ?_
      obtain ⟨i, -, -, hok⟩ := h.lookup_found hn (Outcome.await_eq_next.mp hl)
        (.worker (w := .looking m) (List.mem_of_getElem? hj))
      exact .bind (Outcome.avoids_ofExcept fun msg he => by cases hok.symm.trans he) fun _ _ =>
        .bind (Outcome.avoids_check (.inr (by decide))) fun _ _ =>
        .bind (Outcome.avoids_check (.inr (by decide))) fun _ _ => Outcome.avoids_next
    · exact Outcome.avoids_blocked
  | forward j =>
    simp only [Routing.step]
    split
    · exact .bind (Outcome.avoids_ofExcept fun msg he => findMapXappsSad_error he ▸ by decide) fun _ _ =>
        Outcome.avoids_next
    · exact Outcome.avoids_blocked
  | epoll fds => exact .bind Outcome.avoids_await fun _ _ => Outcome.avoids_next
  | pendEvent =>
    simp only [Routing.step]
    split
    · exact .bind (Outcome.avoids_ofExcept fun msg he => by rcases pendEvent_error he with rfl | rfl <;> decide)
        fun _ _ => Outcome.avoids_next
    · exact Outcome.avoids_blocked

/-- A list with more than `n` occurrences has an initial part with `n` of them before one more. -/
theorem exists_prefix_count {α : Type _} [DecidableEq α] {x : α} {n : Nat} {l : List α} (h : n < l.count x) :
    ∃ k, k ++ [x] <+: l ∧ k.count x = n := by
  induction l using List.reverseRecOn with
  | nil => simp at h
  | append_singleton l y ih =>
    by_cases hn : n < l.count x
    · obtain ⟨k, hk, hc⟩ := ih hn
      exact ⟨k, hk.trans (List.prefix_append ..), hc⟩
    · rw [List.count_append, List.count_singleton] at h
      have hy : y = x := by
        by_contra hne
        simp [hne] at h
        omega
      subst hy
      exact ⟨l, List.prefix_rfl, by simp at h; omega⟩

/-- Along every run: the identifiers are fresh and the assertions on them hold exactly when the run gives
no more than 64515 requests an identifier. -/
theorem idLaw_iff (h : (routing cfg).Run System.Any as t) : IdLaw cfg as ↔ as.count .takeId ≤ 64515 := by
  constructor
  · intro hl
    by_contra hn
    obtain ⟨bs, hb, hc⟩ := exists_prefix_count (x := Act.takeId) (n := 64515) (by omega : 64515 < as.count .takeId)
    obtain ⟨cs, rfl⟩ := hb
    obtain ⟨s, hr⟩ := (List.append_assoc .. ▸ h : (routing cfg).Run System.Any (bs ++ ([.takeId] ++ cs)) t).initial
    have hf := (hl.fresh bs s (List.prefix_append ..) hr).1
    rw [(ids_of_run hr).counter, length_issued hr, hc] at hf
    omega
  · intro hn
    have hle : ∀ {bs s}, bs <+: as → (routing cfg).Run System.Any bs s → s.issued.length ≤ 64515 := by
      intro bs s hb hr
      rw [length_issued hr]
      exact (hb.sublist.count_le _).trans hn
    refine ⟨fun bs s hb hr => (ids_of_run hr).freshOk ?_, fun bs s a hb hr => ?_⟩
    · have hc := (hb.sublist.count_le Act.takeId).trans hn
      rw [List.count_append, List.count_singleton_self] at hc
      rw [length_issued hr]
      omega
    · obtain ⟨es, ht⟩ := table_of_reachable ⟨bs, hr⟩
      exact (ids_of_run hr).avoids ht (hle hb hr)

/-- The identifiers hold along a run with one request. -/
theorem idLaw_one_request : IdLaw oneNode ([.e42Setup 1 (localHost 4000), .register] ++
    passOn (controlGnb 7 1 (by decide)) (localHost 4000) 5) := by
  have h : ((routing oneNode).exec System.Any init ([.e42Setup 1 (localHost 4000), .register] ++
      passOn (controlGnb 7 1 (by decide)) (localHost 4000) 5)).passes (fun _ => true) = true := by decide +kernel
  obtain ⟨s, hr, -⟩ := System.exists_run_of_exec h
  exact (idLaw_iff hr).mpr (by decide)

/-! ### The 64516th request -/

/-- One xApp is registered, and nothing is on its way. -/
structure Calm (s : Routing) : Prop where
  loop : s.loop = .idle
  workers : s.workers = []
  toNode : s.toNode = []
  toRic : s.toRic = []
  registered : Registered s.iapp.xapps 7
  xappId : 7 ≤ s.iapp.xappId
  requesters : ∀ i ∈ s.issued, i.req.xappId = 7

theorem Calm.asio (h : s.Calm) {es : List (Nat × PendingEventRic)} (ht : s.Table es) : s.ric.asio = [] := by
  have hes : es.map Prod.snd = [] := by
    simpa [waiting, h.loop, h.toNode, h.toRic, IappPc.unsent] using ht.events
  obtain rfl := List.map_eq_nil_iff.mp hes
  simpa [held, h.loop, h.workers, IappPc.unpaired] using ht.timers

theorem run_snoc (hr : (routing cfg).Run System.Any as s) (h : step cfg s a = .next t) :
    (routing cfg).Run System.Any (as ++ [a]) t := hr.snoc trivial h

/-- A control request that is acknowledged, and whose acknowledge is forwarded. -/
theorem Calm.round (h : s.Calm) (hr : (routing oneNode).Run System.Any as s) (hn : s.issued.length < 64515) :
    ∃ bs t, (routing oneNode).Run System.Any bs t ∧ t.Calm ∧ t.issued.length = s.issued.length + 1 := by
  obtain ⟨es, ht⟩ := table_of_reachable ⟨as, hr⟩
  let req := controlGnb 7 1 (by decide)
  have hacc : s.Accepts oneNode req := ⟨by decide, h.xappId, List.mem_singleton.mpr rfl⟩
  have hr₁ := System.Run.of_exec hr ((ids_of_run hr).passOn_next hn h.loop (localHost 4000) 5 hacc
    ⟨by decide, by simp [h.asio ht]⟩)
  let ack : NodeMsg := .controlAcknowledge ⟨stamp req.ricId s.freshId, none, none⟩
  have hr₂ := run_snoc hr₁ (a := .nodeAnswer 0 ack) (by
    simp [step, passedOn, h.toNode, h.toRic, h.workers, Outcome.ofOption, Outcome.await, ack,
      NodeMsg.answers?, NodeMsg.ricId, req, controlGnb]
    rfl)
  obtain ⟨es₂, ht₂⟩ := table_of_reachable ⟨_, hr₂⟩
  obtain ⟨fd, p, h₃⟩ := ht₂.take_next oneNode 0 ack rfl rfl
  have hr₃ := run_snoc hr₂ h₃
  obtain ⟨es₃, ht₃⟩ := table_of_reachable ⟨_, hr₃⟩
  have hr₄ := run_snoc hr₃ (ht₃.rmFd_next (j := 0) rfl rfl)
  obtain ⟨i, hi, hid, h₅⟩ := (ids_of_run hr₄).lookup_next oneNode 0 ack
    (Nat.succ_le_of_lt hn) rfl (by simp [h.loop, IappPc.writeLocked])
  obtain ⟨t, hr₅, ht⟩ : ∃ t, (routing oneNode).Run System.Any _ t ∧ t = _ := ⟨_, run_snoc hr₄ h₅, rfl⟩
  have hreq : i.req.xappId = 7 := by
    rcases List.mem_cons.mp hi with rfl | hi
    · rfl
    · exact h.requesters i hi
  obtain ⟨info, -, h₆⟩ := forward_next oneNode (s := t) (j := 0) (m := ack) (x := i.entry.2) (by rw [ht]; rfl)
    (by rw [ht]; simpa [Issue.entry, hreq] using h.registered)
  refine ⟨_, _, run_snoc hr₅ h₆, ?_, by simp [ht]⟩
  subst ht
  exact {
    loop := h.loop
    workers := rfl
    toNode := rfl
    toRic := rfl
    registered := h.registered
    xappId := h.xappId
    requesters := by
      intro i hi
      rcases List.mem_cons.mp hi with rfl | hi
      · rfl
      · exact h.requesters i hi }

theorem exists_calm (n : Nat) (hn : n ≤ 64515) :
    ∃ as s, (routing oneNode).Run System.Any as s ∧ s.Calm ∧ s.issued.length = n := by
  induction n with
  | zero =>
    have h : ((routing oneNode).exec System.Any init [.e42Setup 1 (localHost 4000), .register]).passes (fun s =>
        s.loop = .idle ∧ s.workers = [] ∧ s.toNode = [] ∧ s.toRic = [] ∧ s.iapp.xapps.toList = [(7, localHost 4000)] ∧
        7 ≤ s.iapp.xappId ∧ s.issued = []) = true := by decide +kernel
    obtain ⟨s, hr, hs⟩ := System.exists_run_of_exec h
    obtain ⟨hl, hw, hn, hr', hx, hid, his⟩ := of_decide_eq_true hs
    exact ⟨_, s, hr, ⟨hl, hw, hn, hr', ⟨localHost 4000, by simp [hx]⟩, hid, by simp [his]⟩, by simp [his]⟩
  | succ n ih =>
    obtain ⟨as, s, hr, hc, rfl⟩ := ih (by omega)
    exact hc.round hr (by omega)

/-- After 64515 control requests, all acknowledged, the next one is given the identifier zero. -/
theorem request_given_zero : ∃ as s, (routing oneNode).Run System.Any as s ∧ as.count .takeId = 64515 ∧
    s.loop = .stamping (controlGnb 7 1 (by decide)) (localHost 4000) ∧ s.freshId = 0 ∧
    ¬IdLaw oneNode (as ++ [.takeId]) := by
  obtain ⟨as, s, hr, hc, hn⟩ := exists_calm 64515 le_rfl
  let req := controlGnb 7 1 (by decide)
  have hstep : step oneNode s (.e42Request req (localHost 4000)) =
      .next { s with loop := .stamping req (localHost 4000) } := by
    have hle : (7 ≤ s.iapp.xappId) = True := eq_true hc.xappId
    simp [step, hc.loop, validXappId, Outcome.await, Outcome.check, req, controlGnb, hle, validGlobalE2Node, oneNode]
  have hr' := run_snoc hr hstep
  have hcount : (as ++ [Act.e42Request req (localHost 4000)]).count Act.takeId = 64515 := by
    rw [List.count_append, ← length_issued hr, hn]
    rfl
  have hzero : freshId { s with loop := .stamping req (localHost 4000) } = 0 := by
    rw [(ids_of_run hr').counter, hn]
  refine ⟨_, _, hr', hcount, rfl, hzero, fun hl => ?_⟩
  have hf := (hl.fresh _ _ List.prefix_rfl hr').1
  omega

end Last

end Routing

end FlexRic.Ric
