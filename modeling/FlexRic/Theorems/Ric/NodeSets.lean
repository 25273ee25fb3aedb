import FlexRic.Theorems.Ric.Shutdown
import FlexRic.Theorems.Ric.XappNumbers
import FlexRic.Theorems.XApp.E2Nodes

/-! # The nodes that xApps are told about

Every xApp will hold the nodes of the iApp's registry once it has read what was sent to it, or a notification
that will reach it is due. The threads break this in three ways: an xApp is registered with nodes that have
changed meanwhile, a notification with older nodes is the last one to be sent, or it is sent before the setup
response. -/

namespace FlexRic.Ric
open Ds E2ap Ep MsgHand IApp XApp

namespace Connections

/-! ### What is due -/

/-- The notification that the worker does, or begins with the lock. -/
def Worker.due? : Worker → Option Notice
  | .connecting .. => some .counting
  | .notifying _ _ n => some n
  | _ => none

def RicLoop.due? : RicLoop → Option Notice
  | .notifying n => some n
  | _ => none

/-- The notifications that are due. -/
def due (s : Connections) : List Notice := s.workers.filterMap Worker.due? ++ s.loop.due?.toList

/-- The notifications that are due besides that of the thread. -/
def others (s : Connections) : Notifier → List Notice
  | .worker j => (s.workers.eraseIdx j).filterMap Worker.due? ++ s.loop.due?.toList
  | .loop => s.workers.filterMap Worker.due?

/-- One of the identifiers is registered with the address. -/
def Reaches (s : Connections) (xappIds : List Nat) (p : Nat × Nat × Nat) : Prop :=
  ∃ i ∈ xappIds, ∃ e ∈ s.xapps.toList, e.1 = i % 65536 ∧ e.2.peer = p

/-- The notification will tell the xApp about the nodes that are registered now. -/
def Covers (s : Connections) (p : Nat × Nat × Nat) : Notice → Prop
  | .counting => True
  | .copying numXapp => s.Reaches (List.range' 7 numXapp) p
  | .sending newE2Arr xappIds => newE2Arr.Perm s.reg.iappE2Nodes.toList ∧ s.Reaches xappIds p

/-- The setup response that is about to be sent to the xApp. -/
def pending (s : Connections) (p : Nat × Nat × Nat) : List E42NodesMsg :=
  match s.iappLoop with
  | .responding xappId info nodes => if info.peer = p then [.setupResponse xappId nodes] else []
  | _ => []

/-- What the order of the threads has to be: an xApp is registered with the nodes that are registered, unless
a notification has yet to count the xApps; and an update has the nodes that are registered, unless another
notification is due to the xApp, and is not sent before a setup response with nodes. -/
def Coordinated (s : Connections) : Act → Prop
  | .registerXapp =>
    match s.iappLoop with
    | .registering _ _ nodes => nodes.Perm s.reg.iappE2Nodes.toList ∨ .counting ∈ s.due
    | _ => True
  | .notify who =>
    match s.notice? who with
    | some (.sending newE2Arr (i :: _)) =>
      match findMapXappsSad s.xapps (i % 65536) with
      | .ok info =>
        ((carried newE2Arr).Perm s.reg.iappE2Nodes.toList ∨ ∃ n ∈ s.others who, s.Covers info.peer n) ∧
          ∀ m ∈ s.pending info.peer, m.nodes = []
      | .error _ => True
    | _ => True
  | _ => True

section Due
variable {plugins : List Nat} {s t : Connections} {who : Notifier} {n : Notice} {n' : Option Notice}
  {p : Nat × Nat × Nat}

theorem due_perm (hn : s.notice? who = some n) : s.due.Perm (n :: s.others who) := by
  rcases @setNotice_cases s who none n hn with ⟨j, ans, info, rfl, hj, -⟩ | ⟨rfl, hl, -⟩
  · exact ((perm_eraseIdx hj).filterMap Worker.due?).append_right _
  · rw [due, hl]
    exact List.perm_append_singleton ..

theorem due_setNotice (hn : s.notice? who = some n) : (s.setNotice n' who).due.Perm (n'.toList ++ s.others who) := by
  rcases @setNotice_cases s who n' n hn with ⟨j, ans, info, rfl, hj, he⟩ | ⟨rfl, hl, he⟩
  · rw [he]
    have hp := (perm_set hj (n'.elim (.responding ans info) (.notifying ans info))).filterMap Worker.due?
    refine (hp.append_right _).trans ?_
    cases n' <;> exact .refl _
  · rw [he]
    cases n' with
    | none =>
      show (s.workers.filterMap Worker.due? ++ []).Perm (s.workers.filterMap Worker.due?)
      rw [List.append_nil]
    | some m => exact List.perm_append_singleton ..

/-- A notification leaves everything else alone. -/
theorem setNotice_frame (hn : s.notice? who = some n) (n' : Option Notice) : (s.setNotice n' who).reg = s.reg ∧
    (s.setNotice n' who).xapps = s.xapps ∧ (s.setNotice n' who).iappLoop = s.iappLoop ∧
    (s.setNotice n' who).xapp = s.xapp := by
  rcases @setNotice_cases s who n' n hn with ⟨_, _, _, -, -, he⟩ | ⟨-, -, he⟩ <;> rw [he] <;> exact ⟨rfl, rfl, rfl, rfl⟩

theorem Covers.congr (h : s.Covers p n) (hx : t.xapps = s.xapps) (hr : t.reg.iappE2Nodes = s.reg.iappE2Nodes) :
    t.Covers p n := by
  cases n <;> simp only [Covers, Reaches, hx, hr] at h ⊢ <;> exact h

theorem pending_isResponse {m : E42NodesMsg} (h : m ∈ s.pending p) : isResponse m = true := by
  unfold pending at h
  split at h
  · split at h
    · rw [List.mem_singleton.mp h]
      rfl
    · cases h
  · cases h

end Due

/-! ### The steps that send nothing -/

/-- Nothing changes for an xApp, and there are no new notifications but such as have yet to count the xApps. -/
structure Still (s t : Connections) : Prop where
  due : ∀ n ∈ t.due, n ∈ s.due ∨ n = .counting
  xapps : t.xapps = s.xapps
  xapp : t.xapp = s.xapp
  pending : t.pending = s.pending

section Still
variable {plugins : List Nat} {s t : Connections} {a : Act}

/-- What a step does with the notifications and the registry, unless an xApp has a part in it: it leaves them
alone, or it changes the registry and a notification is due that has yet to count the xApps. -/
theorem still_cases (hs : Connections.step plugins s a = .next t) :
    (s.Still t ∧ t.reg.iappE2Nodes = s.reg.iappE2Nodes ∧ ∀ n ∈ s.due, n ∈ t.due) ∨
    (s.Still t ∧ .counting ∈ t.due ∧ ((ids s.reg.iappE2Nodes).Nodup → (ids t.reg.iappE2Nodes).Nodup)) ∨
    (∃ who, a = .notify who) ∨ a = .registerXapp ∨ a = .respondXapp ∨ ∃ p, a = .xappReads p := by
  cases a with
  | setupArrives req info =>
    obtain ⟨-, rfl⟩ := setupArrives_inv hs
    exact .inl ⟨⟨fun n hn => .inl hn, rfl, rfl, rfl⟩, rfl, fun n hn => hn⟩
  | shutdownArrives info =>
    obtain ⟨hl, id, reg, hr, rfl⟩ := shutdownArrives_inv hs
    obtain ⟨⟨id', m⟩, -, he⟩ := Except.bind_eq_ok.mp hr
    obtain ⟨rfl, rfl⟩ := Prod.mk.inj (Except.ok.inj he)
    have hd : s.due = s.workers.filterMap Worker.due? ++ [] := by rw [due, hl]; rfl
    exact .inl ⟨⟨fun n hn => .inl (hd ▸ hn), rfl, rfl, rfl⟩, rfl, fun n hn => by rw [hd] at hn; exact hn⟩
  | erase =>
    obtain ⟨id, reg, hl, -, hr, rfl⟩ := erase_inv hs
    obtain ⟨-, rfl⟩ := eraseE2Node_eq_ok.mp hr
    have hd : s.due = s.workers.filterMap Worker.due? ++ [] := by rw [due, hl]; rfl
    exact .inl ⟨⟨fun n hn => .inl (hd ▸ hn), rfl, rfl, rfl⟩, rfl, fun n hn => by rw [hd] at hn; exact hn⟩
  | remove =>
    obtain ⟨id, reg, hl, hr, rfl⟩ := remove_inv hs
    obtain ⟨i, hi, rfl⟩ := rmE2NodeIapp_eq_ok.mp hr
    refine .inr (.inl ⟨⟨?_, rfl, rfl, rfl⟩, List.mem_append_right _ (List.mem_singleton.mpr rfl), ?_⟩)
    · intro n hn
      rcases List.mem_append.mp hn with hn | hn
      · exact .inl (List.mem_append_left _ hn)
      · exact .inr (List.mem_singleton.mp hn)
    · intro hnd
      exact ((ids_rmRegE2Node hi).nodup_iff.mp hnd).of_cons
  | regSockAddr i =>
    obtain ⟨req, info, -, rfl⟩ := regSockAddr_inv hs
    exact .inl ⟨⟨fun n hn => .inl hn, rfl, rfl, rfl⟩, rfl, fun n hn => hn⟩
  | addE2Node j =>
    obtain ⟨req, info, reg, ans, hj, hr, -, rfl⟩ := addE2Node_inv hs
    obtain ⟨-, hid, rfl⟩ := addE2NodeIapp_eq_ok.mp hr
    have hd := (filterMap_eraseIdx hj Worker.due?).append_right s.loop.due?.toList
    have hd' := (filterMap_set_eraseIdx hj (.connecting req.id ans info) Worker.due?).append_right s.loop.due?.toList
    refine .inr (.inl ⟨⟨?_, rfl, rfl, rfl⟩, hd'.mem_iff.mpr (List.mem_cons_self ..), ?_⟩)
    · intro n hn
      rcases List.mem_cons.mp (hd'.mem_iff.mp hn) with hn | hn
      · exact .inr hn
      · exact .inl (hd.mem_iff.mpr hn)
    · intro hnd
      exact (ids_insert _ _).nodup_iff.mpr (List.nodup_cons.mpr ⟨hid, hnd⟩)
  | connect j =>
    obtain ⟨id, ans, info, hj, -, rfl⟩ := connect_inv hs
    have hd := (filterMap_set (f := Worker.due?) (y := .notifying ans info .counting) hj rfl).append_right s.loop.due?.toList
    exact .inl ⟨⟨fun n hn => .inl (hd.mem_iff.mp hn), rfl, rfl, rfl⟩, rfl, fun n hn => hd.mem_iff.mpr hn⟩
  | respond j =>
    obtain ⟨ans, info, hj, rfl⟩ := respond_inv hs
    have hd := (filterMap_eraseIdx hj Worker.due?).append_right s.loop.due?.toList
    exact .inl ⟨⟨fun n hn => .inl (hd.mem_iff.mpr hn), rfl, rfl, rfl⟩, rfl, fun n hn => hd.mem_iff.mp hn⟩
  | notify who => exact .inr (.inr (.inl ⟨who, rfl⟩))
  | e42Setup n info =>
    obtain ⟨hl, rfl⟩ := e42Setup_inv hs
    refine .inl ⟨⟨fun n hn => .inl hn, rfl, rfl, ?_⟩, rfl, fun n hn => hn⟩
    funext p
    rw [pending, pending, hl]
  | registerXapp => exact .inr (.inr (.inr (.inl rfl)))
  | respondXapp => exact .inr (.inr (.inr (.inr (.inl rfl))))
  | xappReads p => exact .inr (.inr (.inr (.inr (.inr ⟨p, rfl⟩))))

end Still

/-! ### The nodes of a message differ -/

/-- No node is twice in a registry, in a copy of it or in an update. -/
structure AllDistinct (s : Connections) : Prop where
  reg : (ids s.reg.iappE2Nodes).Nodup
  due : ∀ n ∈ s.due, ∀ newE2Arr xappIds, n = .sending newE2Arr xappIds → (newE2Arr.map Prod.fst).Nodup
  inbox : ∀ p, ∀ m ∈ (s.xapp p).inbox, Distinct m

section AllDistinct
variable {plugins : List Nat} {s t : Connections} {a : Act} {as : List Act}

theorem AllDistinct.still (h : s.AllDistinct) (hst : s.Still t) (hr : (ids t.reg.iappE2Nodes).Nodup) :
    t.AllDistinct where
  reg := hr
  due n hn arr is he := by
    rcases hst.due n hn with hn | rfl
    · exact h.due n hn arr is he
    · cases he
  inbox := by rw [hst.xapp]; exact h.inbox

theorem AllDistinct.notify {who : Notifier} {n : Notice} {n' : Option Notice}
    {sent : Option (SctpInfo × E42NodesMsg)} (h : s.AllDistinct) (hn : s.notice? who = some n)
    (hs : n.step s.reg s.xapps = .ok (n', sent)) :
    (sent.elim (s.setNotice n' who) fun m => (s.setNotice n' who).send m.1 m.2).AllDistinct := by
  obtain ⟨hr, -, -, hx⟩ := setNotice_frame hn n'
  have hmem : n ∈ s.due := (due_perm hn).mem_iff.mpr (List.mem_cons_self ..)
  -- Only the notification that goes on has a new array.
  have key : (∀ arr is, n' = some (.sending arr is) → (arr.map Prod.fst).Nodup) → (s.setNotice n' who).AllDistinct := by
    intro hnew
    refine ⟨by rw [hr]; exact h.reg, ?_, by rw [hx]; exact h.inbox⟩
    intro m hm arr is he
    rcases List.mem_append.mp ((due_setNotice hn).mem_iff.mp hm) with hm | hm
    · exact hnew arr is (he ▸ Option.mem_toList.mp hm)
    · exact h.due m ((due_perm hn).mem_iff.mpr (List.mem_cons_of_mem _ hm)) arr is he
  cases n with
  | counting =>
    obtain ⟨rfl, rfl⟩ := Prod.mk.inj (Except.ok.inj hs)
    refine key fun arr is he => ?_
    split at he <;> cases he
  | copying numXapp =>
    obtain ⟨rfl, rfl⟩ := Prod.mk.inj (Except.ok.inj hs)
    refine key fun arr is he => ?_
    obtain ⟨rfl, -⟩ := Notice.sending.inj (Option.some.inj he)
    exact ((generateE2NodeArr_perm _).map _).nodup_iff.mpr h.reg
  | sending arr is =>
    cases is with
    | nil =>
      obtain ⟨rfl, rfl⟩ := Prod.mk.inj (Except.ok.inj hs)
      exact key nofun
    | cons i is =>
      obtain ⟨info, -, hs⟩ := Except.bind_eq_ok.mp hs
      obtain ⟨rfl, rfl⟩ := Prod.mk.inj (Except.ok.inj hs)
      have harr := h.due _ hmem arr _ rfl
      have hkey := key fun arr' is' he => by
        obtain ⟨rfl, -⟩ := Notice.sending.inj (Option.some.inj he)
        exact harr
      refine ⟨hkey.reg, hkey.due, ?_⟩
      intro p m hm
      simp only [Option.elim_some, send] at hm
      split at hm
      · rcases List.mem_append.mp hm with hm | hm
        · exact hkey.inbox p m hm
        · rw [List.mem_singleton.mp hm]
          exact harr.sublist ((List.take_sublist ..).map _)
      · exact hkey.inbox p m hm

theorem AllDistinct.respondXapp (h : s.AllDistinct) (hs : Connections.step plugins s .respondXapp = .next t) :
    t.AllDistinct := by
  obtain ⟨xappId, info, nodes, -, rfl⟩ := respondXapp_inv hs
  refine ⟨h.reg, h.due, ?_⟩
  intro p m hm
  simp only [send] at hm
  split at hm
  · rcases List.mem_append.mp hm with hm | hm
    · exact h.inbox p m hm
    · rw [List.mem_singleton.mp hm]
      trivial
  · exact h.inbox p m hm

theorem AllDistinct.xappReads {p : Nat × Nat × Nat} (h : s.AllDistinct)
    (hs : Connections.step plugins s (.xappReads p) = .next t) : t.AllDistinct := by
  obtain ⟨m, inbox, nodes, hi, -, rfl⟩ := xappReads_inv hs
  refine ⟨h.reg, h.due, ?_⟩
  intro q m' hm
  dsimp only at hm
  split at hm
  · next heq =>
    subst heq
    exact h.inbox q m' (hi ▸ List.mem_cons_of_mem _ hm)
  · exact h.inbox q m' hm

theorem AllDistinct.step (h : s.AllDistinct) (hs : Connections.step plugins s a = .next t) : t.AllDistinct := by
  rcases still_cases hs with ⟨hst, hr, -⟩ | ⟨hst, -, hr⟩ | ⟨who, rfl⟩ | rfl | rfl | ⟨p, rfl⟩
  · exact h.still hst (hr ▸ h.reg)
  · exact h.still hst (hr h.reg)
  · obtain ⟨n, n', sent, hn, hstep, rfl⟩ := notify_inv hs
    exact h.notify hn hstep
  · obtain ⟨_, _, _, _, -, -, rfl⟩ := registerXapp_inv hs
    exact ⟨h.reg, h.due, h.inbox⟩
  · exact h.respondXapp hs
  · exact h.xappReads hs

end AllDistinct

/-! ### What an xApp will hold -/

/-- The messages that the xApp has yet to read. -/
def unread (s : Connections) (p : Nat × Nat × Nat) : List E42NodesMsg := (s.xapp p).inbox ++ s.pending p

/-- The nodes that the xApp holds. -/
def held (s : Connections) (p : Nat × Nat × Nat) : List E2NodeConnected := (s.xapp p).nodes.e2Nodes.toList

/-- The nodes that the xApp will hold when it has read what is sent to it. -/
def willHold (s : Connections) (p : Nat × Nat × Nat) : List E2NodeConnected := (s.unread p).foldl received (s.held p)

/-- How many setup responses were sent to the xApp, unless it has read more than one. -/
def responses (s : Connections) (p : Nat × Nat × Nat) : Nat :=
  (s.xapp p).nodes.connected.toNat + (s.unread p).countP isResponse

/-- An xApp is registered with the address. -/
def Known (s : Connections) (p : Nat × Nat × Nat) : Prop := ∃ e ∈ s.xapps.toList, e.2.peer = p

/-- Where the xApp stands: it was sent nothing, or a setup response and what it will hold is right, unless a
second response is on its way or a notification is due to it. -/
structure Synced (s : Connections) (p : Nat × Nat × Nat) : Prop where
  fresh : ¬s.Known p → s.unread p = [] ∧ s.held p = [] ∧ (s.xapp p).nodes.connected = false
  started : s.Known p → 1 ≤ s.responses p
  synced : s.Known p → 2 ≤ s.responses p ∨ (s.willHold p).Perm s.reg.iappE2Nodes.toList ∨ ∃ n ∈ s.due, s.Covers p n

section Synced
variable {plugins : List Nat} {s t : Connections} {a : Act} {as : List Act} {p : Nat × Nat × Nat}

/-- The part of the state that an xApp sees. -/
theorem Synced.of_view (h : s.Synced p) (hx : t.xapp p = s.xapp p) (hp : t.pending p = s.pending p)
    (hk : t.Known p ↔ s.Known p)
    (hd : s.Known p → (s.willHold p).Perm s.reg.iappE2Nodes.toList ∨ (∃ n ∈ s.due, s.Covers p n) →
      (s.willHold p).Perm t.reg.iappE2Nodes.toList ∨ ∃ n ∈ t.due, t.Covers p n) : t.Synced p := by
  have hu : t.unread p = s.unread p := by rw [unread, unread, hx, hp]
  have hheld : t.held p = s.held p := by rw [held, held, hx]
  refine ⟨fun hn => ?_, fun hn => ?_, fun hn => ?_⟩
  · rw [hu, hheld, hx]
    exact h.fresh (hk.not.mp hn)
  · rw [responses, hx, hu]
    exact h.started (hk.mp hn)
  · rw [responses, willHold, hx, hu, hheld]
    exact (h.synced (hk.mp hn)).imp_right (hd (hk.mp hn))

theorem Synced.still (h : s.Synced p) (hst : s.Still t)
    (hd : t.reg.iappE2Nodes = s.reg.iappE2Nodes ∧ (∀ n ∈ s.due, n ∈ t.due) ∨ .counting ∈ t.due) : t.Synced p := by
  refine h.of_view (by rw [hst.xapp]) (by rw [hst.pending]) (by rw [Known, Known, hst.xapps]) ?_
  intro _ hor
  rcases hd with ⟨hr, hd⟩ | hc
  · rcases hor with hp | ⟨n, hn, hc⟩
    · exact .inl (hr ▸ hp)
    · exact .inr ⟨n, hd n hn, hc.congr hst.xapps hr⟩
  · exact .inr ⟨.counting, hc, trivial⟩

/-- A registered xApp is reached by a notification that has counted the xApps. -/
theorem InTurn.reaches (h : s.InTurn) (hk : s.Known p) : s.Reaches (List.range' 7 s.xapps.size) p := by
  obtain ⟨e, he, hp⟩ := hk
  obtain ⟨i, hi, hk⟩ := List.mem_map.mp (h.keys.mem_iff.mp (List.mem_map_of_mem he))
  exact ⟨i, hi, e, he, hk.symm, hp⟩

theorem InTurn.eq_of_key (h : s.InTurn) {k : Nat} {i j : SctpInfo} (hi : (k, i) ∈ s.xapps.toList)
    (hj : (k, j) ∈ s.xapps.toList) : i = j :=
  congrArg Prod.snd (List.inj_on_of_nodup_map h.nodup hi hj rfl)

/-- A notification that goes on covers the xApps that it covered before, but for the one it sends to. -/
theorem Covers.step {n : Notice} {n' : Option Notice} {sent : Option (SctpInfo × E42NodesMsg)} (h : s.Covers p n)
    (hk : s.Known p) (hi : s.InTurn) (hs : n.step s.reg s.xapps = .ok (n', sent)) :
    (∃ m, n' = some m ∧ s.Covers p m) ∨ ∃ info msg, sent = some (info, msg) ∧ info.peer = p := by
  cases n with
  | counting =>
    obtain ⟨rfl, -⟩ := Prod.mk.inj (Except.ok.inj hs)
    have hne : s.xapps.size ≠ 0 := by
      obtain ⟨e, he, -⟩ := hk
      rw [AssocRbTree.size_eq_length]
      exact (List.length_pos_of_mem he).ne'
    exact .inl ⟨_, if_neg hne, hi.reaches hk⟩
  | copying numXapp =>
    obtain ⟨rfl, -⟩ := Prod.mk.inj (Except.ok.inj hs)
    exact .inl ⟨_, rfl, generateE2NodeArr_perm _, h⟩
  | sending arr is =>
    obtain ⟨hp, j, hj, ⟨k, dst⟩, he, hkey, hpeer⟩ := h
    cases is with
    | nil => cases hj
    | cons i is =>
      obtain ⟨info, hf, hs⟩ := Except.bind_eq_ok.mp hs
      obtain ⟨rfl, rfl⟩ := Prod.mk.inj (Except.ok.inj hs)
      rcases List.mem_cons.mp hj with rfl | hj
      · -- The first identifier is the xApp's, so this message goes to it.
        rcases findMapXappsSad_cases s.xapps (j % 65536) with ⟨-, he'⟩ | ⟨info', hm, he'⟩
        · rw [hf] at he'
          cases he'
        · obtain rfl := Except.ok.inj (hf.symm.trans he')
          obtain rfl : k = j % 65536 := hkey
          obtain rfl : info = dst := hi.eq_of_key hm he
          exact .inr ⟨_, _, rfl, hpeer⟩
      · exact .inl ⟨_, rfl, hp, j, hj, _, he, hkey, hpeer⟩

theorem send_xapp (s : Connections) (info : SctpInfo) (m : E42NodesMsg) (p : Nat × Nat × Nat) :
    (s.send info m).xapp p =
      if p = info.peer then { s.xapp p with inbox := (s.xapp p).inbox ++ [m] } else s.xapp p := rfl

section Notify
variable {who : Notifier} {n : Notice} {n' : Option Notice} {sent : Option (SctpInfo × E42NodesMsg)}

theorem Synced.notify_other (h : s.Synced p) (hi : s.InTurn) (hn : s.notice? who = some n)
    (hs : n.step s.reg s.xapps = .ok (n', sent)) (hother : ∀ info msg, sent = some (info, msg) → info.peer ≠ p) :
    (sent.elim (s.setNotice n' who) fun m => (s.setNotice n' who).send m.1 m.2).Synced p := by
  obtain ⟨hr, hx, hl, hxapp⟩ := setNotice_frame hn n'
  have hset : (s.setNotice n' who).Synced p := by
    refine h.of_view (by rw [hxapp]) (by rw [pending, pending, hl]) (by rw [Known, Known, hx]) ?_
    intro hk hor
    rw [hr]
    refine hor.imp_right ?_
    rintro ⟨m, hm, hc⟩
    rcases List.mem_cons.mp ((due_perm hn).mem_iff.mp hm) with rfl | hm
    · rcases hc.step hk hi hs with ⟨m', rfl, hc'⟩ | ⟨info, msg, he, hp⟩
      · exact ⟨m', (due_setNotice hn).mem_iff.mpr (List.mem_cons_self ..), hc'.congr hx (by rw [hr])⟩
      · exact absurd hp (hother info msg he)
    · exact ⟨m, (due_setNotice hn).mem_iff.mpr (List.mem_append_right _ hm), hc.congr hx (by rw [hr])⟩
  cases sent with
  | none => exact hset
  | some m =>
    obtain ⟨info, msg⟩ := m
    have hne : p ≠ info.peer := fun he => hother info msg rfl he.symm
    refine hset.of_view ?_ rfl .rfl fun _ hor => hor
    rw [Option.elim_some, send_xapp, if_neg hne]

theorem Synced.notify_sent {arr : List E2NodeConnected} {i : Nat} {is : List Nat} {info : SctpInfo}
    (h : s.Synced info.peer) (hn : s.notice? who = some (.sending arr (i :: is)))
    (hf : findMapXappsSad s.xapps (i % 65536) = .ok info) (hg : s.Coordinated (.notify who)) :
    ((s.setNotice (some (.sending arr is)) who).send info (.updateE2Node (i % 65536) (carried arr))).Synced
      info.peer := by
  obtain ⟨hr, hx, hl, hxapp⟩ := setNotice_frame hn (some (.sending arr is))
  generalize ht : (s.setNotice (some (.sending arr is)) who).send info (.updateE2Node (i % 65536) (carried arr)) = t
  have hxt : t.xapp info.peer = { s.xapp info.peer with
      inbox := (s.xapp info.peer).inbox ++ [.updateE2Node (i % 65536) (carried arr)] } := by
    rw [← ht, send_xapp, if_pos rfl, hxapp]
  have hpt : t.pending info.peer = s.pending info.peer := by rw [← ht]; simp only [pending, send, hl]
  have hrt : t.reg = s.reg := by rw [← ht]; exact hr
  have hut : t.unread info.peer =
      (s.xapp info.peer).inbox ++ .updateE2Node (i % 65536) (carried arr) :: s.pending info.peer := by
    rw [unread, hpt, hxt, List.append_assoc]
    rfl
  have hxapps : t.xapps = s.xapps := by rw [← ht]; exact hx
  have hknown : s.Known info.peer := by
    rcases findMapXappsSad_cases s.xapps (i % 65536) with ⟨-, he⟩ | ⟨info', hm, he⟩
    · rw [hf] at he
      cases he
    · obtain rfl := Except.ok.inj (hf.symm.trans he)
      exact ⟨_, hm, rfl⟩
  have hresp : t.responses info.peer = s.responses info.peer := by
    rw [responses, responses, hut, unread, hxt, List.countP_append, List.countP_append, List.countP_cons]
    rfl
  simp only [Coordinated, hn, hf] at hg
  obtain ⟨hg, hpend⟩ := hg
  have hwill : t.willHold info.peer = carried arr := by
    rw [willHold, hut, List.foldl_append, List.foldl_cons]
    exact foldl_received_empty fun m hm => ⟨pending_isResponse hm, hpend m hm⟩
  refine ⟨fun hk => ?_, fun _ => ?_, fun _ => .inr ?_⟩
  · rw [Known, hxapps] at hk
    exact absurd hknown hk
  · rw [hresp]
    exact h.started hknown
  · rw [hwill, hrt]
    refine hg.imp_right ?_
    rintro ⟨m, hm, hc⟩
    refine ⟨m, ?_, hc.congr hxapps (by rw [hrt])⟩
    rw [← ht]
    exact (due_setNotice hn).mem_iff.mpr (List.mem_append_right _ hm)

theorem Synced.notify (h : s.Synced p) (hi : s.InTurn) (hn : s.notice? who = some n)
    (hs : n.step s.reg s.xapps = .ok (n', sent)) (hg : s.Coordinated (.notify who)) :
    (sent.elim (s.setNotice n' who) fun m => (s.setNotice n' who).send m.1 m.2).Synced p := by
  by_cases hother : ∃ info msg, sent = some (info, msg) ∧ info.peer = p
  · obtain ⟨info, msg, rfl, rfl⟩ := hother
    cases n with
    | counting => cases (Prod.mk.inj (Except.ok.inj hs)).2
    | copying numXapp => cases (Prod.mk.inj (Except.ok.inj hs)).2
    | sending arr is =>
      cases is with
      | nil => cases (Prod.mk.inj (Except.ok.inj hs)).2
      | cons i is =>
        obtain ⟨info', hf, hs⟩ := Except.bind_eq_ok.mp hs
        obtain ⟨rfl, he⟩ := Prod.mk.inj (Except.ok.inj hs)
        obtain ⟨rfl, rfl⟩ := Prod.mk.inj (Option.some.inj he)
        exact h.notify_sent hn hf hg
  · exact h.notify_other hi hn hs fun info msg he hp => hother ⟨info, msg, he, hp⟩

end Notify

/-! ### Registering, answering and reading -/

theorem Synced.registerXapp (h : s.Synced p) (hs : Connections.step plugins s .registerXapp = .next t)
    (hg : s.Coordinated .registerXapp) : t.Synced p := by
  obtain ⟨xappId, info, nodes, xapps, hl, hx, rfl⟩ := registerXapp_inv hs
  obtain ⟨hfree, rfl⟩ := addMapXappsSad_eq_ok.mp hx
  simp only [Coordinated, hl] at hg
  have hins := AssocRbTree.toList_insert s.xapps xappId info
  have hpend : s.pending p = [] := by rw [pending, hl]
  generalize ht : ({ s with
    iappLoop := .responding xappId info nodes
    xapps := s.xapps.insert xappId info } : Connections) = t
  have hxt : t.xapp = s.xapp := by rw [← ht]
  have hrt : t.reg = s.reg := by rw [← ht]
  have hdt : t.due = s.due := by rw [← ht]; rfl
  have hknown : t.Known p ↔ info.peer = p ∨ s.Known p := by
    simp only [Known, ← ht, hins.mem_iff, List.exists_mem_cons_iff]
  have hcovers : ∀ n, s.Covers p n → t.Covers p n := by
    have hreach : ∀ is, s.Reaches is p → t.Reaches is p := by
      rintro is ⟨i, hi, e, he, h⟩
      exact ⟨i, hi, e, by rw [← ht]; exact hins.mem_iff.mpr (List.mem_cons_of_mem _ he), h⟩
    intro n hc
    cases n with
    | counting => trivial
    | copying numXapp => exact hreach _ hc
    | sending arr is => exact ⟨by rw [hrt]; exact hc.1, hreach _ hc.2⟩
  by_cases hp : info.peer = p
  · have hut : t.unread p = s.unread p ++ [.setupResponse xappId nodes] := by
      rw [unread, unread, hxt, hpend, List.append_nil, ← ht]
      simp only [pending, if_pos hp]
    have hresp : t.responses p = s.responses p + 1 := by
      rw [responses, responses, hut, hxt, List.countP_append]
      rfl
    refine ⟨fun hk => absurd (hknown.mpr (.inl hp)) hk, fun _ => by omega, fun _ => ?_⟩
    by_cases hk : s.Known p
    · -- It was registered before, so this is a second response.
      have := h.started hk
      exact .inl (by omega)
    · obtain ⟨hu, hheld, -⟩ := h.fresh hk
      have hwill : t.willHold p = nodes := by
        rw [willHold, hut, hu, held, hxt]
        show nodes ++ s.held p = nodes
        rw [hheld, List.append_nil]
      rw [hwill, hrt, hdt]
      exact .inr (hg.imp_right fun hc => ⟨.counting, hc, trivial⟩)
  · refine h.of_view (by rw [hxt]) ?_ ?_ ?_
    · rw [hpend, ← ht]
      simp only [pending, if_neg hp]
    · rw [hknown, or_iff_right hp]
    · intro _ hor
      rw [hrt, hdt]
      exact hor.imp_right fun ⟨n, hn, hc⟩ => ⟨n, hn, hcovers n hc⟩

theorem Synced.of_unread (h : s.Synced p) (hu : t.unread p = s.unread p) (hn : (t.xapp p).nodes = (s.xapp p).nodes)
    (hx : t.xapps = s.xapps) (hr : t.reg = s.reg) (hd : t.due = s.due) : t.Synced p := by
  have hheld : t.held p = s.held p := by rw [held, held, hn]
  refine ⟨?_, ?_, ?_⟩
  · rw [Known, hx, hu, hheld, hn]
    exact h.fresh
  · rw [Known, hx, responses, hn, hu]
    exact h.started
  · rw [Known, hx, responses, willHold, hn, hu, hheld, hr, hd]
    exact fun hk => (h.synced hk).imp_right fun hor =>
      hor.imp_right fun ⟨n, hm, hc⟩ => ⟨n, hm, hc.congr hx (by rw [hr])⟩

theorem Synced.respondXapp (h : s.Synced p) (hs : Connections.step plugins s .respondXapp = .next t) : t.Synced p := by
  obtain ⟨xappId, info, nodes, hl, rfl⟩ := respondXapp_inv hs
  refine h.of_unread ?_ ?_ rfl rfl rfl
  · show ((s.send info (.setupResponse xappId nodes)).xapp p).inbox ++ [] = _
    rw [send_xapp, List.append_nil, unread, pending, hl]
    by_cases hp : info.peer = p
    · simp only [if_pos hp, if_pos hp.symm]
    · simp only [if_neg hp, if_neg (Ne.symm hp), List.append_nil]
  · show ((s.send info (.setupResponse xappId nodes)).xapp p).nodes = _
    rw [send_xapp]
    split <;> rfl

theorem Synced.xappReads {q : Nat × Nat × Nat} (h : s.Synced p) (hd : s.AllDistinct)
    (hs : Connections.step plugins s (.xappReads q) = .next t) : t.Synced p := by
  obtain ⟨m, inbox, nodes, hi, hh, rfl⟩ := xappReads_inv hs
  by_cases hp : p = q
  · subst hp
    generalize ht : ({ s with xapp := fun q => if q = p then ⟨inbox, nodes⟩ else s.xapp q } : Connections) = t
    have hxt : t.xapp p = ⟨inbox, nodes⟩ := by rw [← ht]; exact if_pos rfl
    have hpt : t.pending p = s.pending p := by rw [← ht]; rfl
    have hu : s.unread p = m :: t.unread p := by
      rw [unread, unread, hi, hxt, hpt]
      rfl
    obtain ⟨hheld, hconn⟩ := handleNodes_inv (hd.inbox p m (by rw [hi]; exact List.mem_cons_self ..)) hh
    have hwill : (t.willHold p).Perm (s.willHold p) := by
      rw [willHold, willHold, hu, List.foldl_cons, held, hxt]
      exact foldl_received_perm hheld _
    have hresp : t.responses p = s.responses p := by
      rw [responses, responses, hu, hxt, List.countP_cons]
      split at hconn
      · next hm =>
        rw [hconn.1, hconn.2, if_pos hm]
        simp only [Bool.toNat_true, Bool.toNat_false]
        omega
      · next hm => rw [hconn, if_neg hm]; rfl
    have hknown : t.Known p ↔ s.Known p := by rw [← ht]; exact .rfl
    refine ⟨fun hk => ?_, fun hk => ?_, fun hk => ?_⟩
    · have := (h.fresh (hknown.not.mp hk)).1
      rw [hu] at this
      cases this
    · rw [hresp]
      exact h.started (hknown.mp hk)
    · rw [hresp]
      refine (h.synced (hknown.mp hk)).imp_right fun hor => ?_
      rw [← ht] at hwill ⊢
      exact hor.imp hwill.trans id
  · exact h.of_view (if_neg hp) rfl .rfl fun _ hor => hor

theorem Synced.step (h : s.Synced p) (hi : s.InTurn) (hd : s.AllDistinct) (hg : s.Coordinated a)
    (hs : Connections.step plugins s a = .next t) : t.Synced p := by
  rcases still_cases hs with ⟨hst, hr, hdue⟩ | ⟨hst, hc, -⟩ | ⟨who, rfl⟩ | rfl | rfl | ⟨q, rfl⟩
  · exact h.still hst (.inl ⟨hr, hdue⟩)
  · exact h.still hst (.inr hc)
  · obtain ⟨n, n', sent, hn, hstep, rfl⟩ := notify_inv hs
    exact h.notify hi hn hstep hg
  · exact h.registerXapp hs hg
  · exact h.respondXapp hs
  · exact h.xappReads hd hs

theorem synced_init : init.Synced p where
  fresh _ := ⟨rfl, rfl, rfl⟩
  started := fun ⟨_, he, _⟩ => nomatch he
  synced := fun ⟨_, he, _⟩ => nomatch he

theorem synced_of_run (h : (connections plugins).Run Coordinated as s) : s.Synced p := by
  have key : s.InTurn ∧ s.AllDistinct ∧ s.Synced p :=
    h.invariant (I := fun s => s.InTurn ∧ s.AllDistinct ∧ s.Synced p)
      ⟨inTurn_init, ⟨.nil, fun _ => nofun, fun _ _ => nofun⟩, synced_init⟩
      fun _ _ _ ⟨hi, hd, h⟩ hg hs => ⟨hi.step hs, hd.step hs, h.step hi hd hg hs⟩
  exact key.2.2

end Synced

/-! ### Once everything was sent and read -/

/-- No handler is running, and no message is on its way to a registered xApp. -/
def Quiet (s : Connections) : Prop :=
  s.Settled ∧ s.iappLoop = .idle ∧ ∀ e ∈ s.xapps.toList, (s.xapp e.2.peer).inbox = []

/-- The law of the node sets: when everything was handled, every xApp holds the nodes of the registry. -/
def NodeSetLaw (s : Connections) : Prop :=
  s.Quiet → ∀ e ∈ s.xapps.toList, (s.held e.2.peer).Perm s.reg.iappE2Nodes.toList

theorem nodeSetLaw_of_run {plugins : List Nat} {as : List Act} {s : Connections}
    (h : (connections plugins).Run Coordinated as s) : s.NodeSetLaw := by
  rintro ⟨⟨-, hw, hl⟩, hi, hinbox⟩ e he
  have hu : s.unread e.2.peer = [] := by rw [unread, hinbox e he, pending, hi]; rfl
  have hdue : s.due = [] := by rw [due, hw, hl]; rfl
  rcases (synced_of_run h).synced ⟨e, he, rfl⟩ with hresp | hp | ⟨n, hn, -⟩
  · -- An xApp that has read a second response has failed.
    rw [responses, hu] at hresp
    cases hc : (s.xapp e.2.peer).nodes.connected <;> rw [hc] at hresp <;> simp at hresp
  · rwa [willHold, hu] at hp
  · rw [hdue] at hn
    cases hn

instance (s : Connections) (xappIds : List Nat) (p : Nat × Nat × Nat) : Decidable (s.Reaches xappIds p) :=
  inferInstanceAs (Decidable (∃ i ∈ xappIds, ∃ e ∈ s.xapps.toList, _ ∧ _))

instance (s : Connections) (p : Nat × Nat × Nat) : (n : Notice) → Decidable (s.Covers p n)
  | .counting => .isTrue trivial
  | .copying numXapp => inferInstanceAs (Decidable (s.Reaches (List.range' 7 numXapp) p))
  | .sending newE2Arr xappIds =>
    inferInstanceAs (Decidable (newE2Arr.Perm s.reg.iappE2Nodes.toList ∧ s.Reaches xappIds p))

instance (s : Connections) (a : Act) : Decidable (s.Coordinated a) := by
  unfold Coordinated
  split
  · split <;> infer_instance
  · split
    · split <;> infer_instance
    · infer_instance
  · infer_instance

/-- An xApp connects, then a node. -/
theorem nodeSetLaw_of_run_told : ∃ s : Connections, NodeSetLaw s ∧ s.Quiet ∧
    s.reg.iappE2Nodes.toList = [(gnb, (setupOf gnb).ranFuncItem)] ∧ s.xapps.size = 1 := by
  have h : ((connections [2]).exec Coordinated init
      ([.e42Setup 1 (localHost 6000), .registerXapp, .respondXapp, .xappReads (localHost 6000).peer] ++
        [.setupArrives (setupOf gnb) (localHost 5000), .regSockAddr 0, .addE2Node 0, .connect 0,
          .notify (.worker 0), .notify (.worker 0), .notify (.worker 0), .notify (.worker 0), .respond 0,
          .xappReads (localHost 6000).peer])).passes (fun s =>
      ((s.queued = [] ∧ s.workers = [] ∧ s.loop = .idle) ∧ s.iappLoop = .idle ∧
        ∀ e ∈ s.xapps.toList, (s.xapp e.2.peer).inbox = []) ∧
      s.reg.iappE2Nodes.toList = [(gnb, (setupOf gnb).ranFuncItem)] ∧ s.xapps.size = 1) = true := by decide +kernel
  obtain ⟨s, hr, hs⟩ := System.exists_run_of_exec h
  obtain ⟨hq, hreg, hn⟩ := of_decide_eq_true hs
  exact ⟨s, nodeSetLaw_of_run hr, hq, hreg, hn⟩

/-- An xApp's setup response is generated before a node connects, and the xApp is registered after the worker
has counted the xApps: it never hears of the node. -/
theorem xapp_registered_late : ∃ s, (connections [2]).Reachable System.Any s ∧ ¬NodeSetLaw s := by
  have h : ((connections [2]).exec System.Any init
      ([.e42Setup 1 (localHost 6000)] ++ setUp (setupOf gnb) (localHost 5000) ++
        [.registerXapp, .respondXapp, .xappReads (localHost 6000).peer])).passes (fun s =>
      ((s.queued = [] ∧ s.workers = [] ∧ s.loop = .idle) ∧ s.iappLoop = .idle ∧
        ∀ e ∈ s.xapps.toList, (s.xapp e.2.peer).inbox = []) ∧
      ∃ e ∈ s.xapps.toList, ¬(s.held e.2.peer).Perm s.reg.iappE2Nodes.toList) = true := by decide +kernel
  obtain ⟨s, hr, hs⟩ := System.exists_run_of_exec h
  obtain ⟨hq, e, he, hp⟩ := of_decide_eq_true hs
  exact ⟨s, ⟨_, hr⟩, fun hl => hp (hl hq e he)⟩

end Connections

end FlexRic.Ric
