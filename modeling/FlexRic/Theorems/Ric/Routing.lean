import FlexRic.Theorems.IApp.XappIds

/-! # Every message reaches the xApp whose request it answers

As long as the identifiers last, and the requests come from the xApps that they name: a message of a node is
forwarded, once, to the xApp whose request has its identifier, under the xApp's own identifier. -/

namespace FlexRic.Ric
open Ds E2ap Ep IApp

/-- The handlers give the message the identifiers of the xApp's request. -/
theorem ricId_answerToXapp {i : Issue} {m : NodeMsg} (h : m.ricId = i.ricId) :
    (answerToXapp i.entry.2 m).ricId = i.req.ricId := by
  cases m with
  | subscriptionResponse m | indication m =>
    simp only [NodeMsg.ricId] at h
    simp only [answerToXapp, NodeMsg.ricId, h]
    rfl
  | subscriptionDeleteResponse m | controlAcknowledge m | controlFailure m => rfl

/-- The RIC's handler lets the message pass to the iApp. -/
def Handled (cfg : Config) (m : NodeMsg) : Prop :=
  implemented m = true ∧ (m.answers? = none → 0 < m.ricId.ranFuncId ∧ m.ricId.ranFuncId ∈ cfg.plugins)

namespace Routing

/-- Every request comes from an xApp that is registered under the identifier that the request names. -/
def FromOwner (s : Routing) (a : Act) : Prop :=
  ∀ req info, a = .e42Request req info → Backed SctpInfo.SamePeer s.iapp.xapps req info

/-- The same, as a test. -/
def fromOwner (s : Routing) : Act → Bool
  | .e42Request req info => s.iapp.xapps.toList.any fun e => e.1 = req.xappId ∧ e.2.SamePeer info
  | _ => true

theorem fromOwner_eq_true {s : Routing} {a : Act} : s.fromOwner a = true ↔ s.FromOwner a := by
  cases a with
  | e42Request req info =>
    simp only [fromOwner, List.any_eq_true, decide_eq_true_eq]
    constructor
    · rintro ⟨e, he, hid, hp⟩ _ _ ⟨⟩
      exact ⟨e.2, hid ▸ he, hp⟩
    · intro h
      obtain ⟨info', he, hp⟩ := h req info rfl
      exact ⟨_, he, rfl, hp⟩
  | _ =>
    refine iff_of_true rfl fun req info he => ?_
    cases he

instance (s : Routing) (a : Act) : Decidable (s.FromOwner a) := decidable_of_iff _ fromOwner_eq_true

/-- What the routing is for, in a state. -/
structure RoutingLaw (cfg : Config) (s : Routing) : Prop where
  /-- What was forwarded went to the xApp whose request, and no other, has the identifier, and it carries the
  identifiers of that xApp's request. -/
  routed : ∀ e ∈ s.forwarded, ∃ i, (∀ j ∈ s.issued, j.id = e.source.ricId.ricReqId ↔ j = i) ∧ i ∈ s.issued ∧
    (i.req.xappId, e.info) ∈ s.iapp.xapps.toList ∧ e.info.SamePeer i.info ∧
    e.sent = answerToXapp ⟨i.req.ricId, i.req.xappId⟩ e.source ∧ e.sent.ricId = i.req.ricId
  /-- What the nodes have sent is on its way, with a worker, or forwarded once. -/
  conserved : s.fromNodes.Perm (s.toRic ++ s.workers.map Worker.msg ++ s.forwarded.map Forwarded.source)
  /-- No assertion fails on a message: it is taken, its timer is removed, the request is found while the lock
  is free, and the message is sent. -/
  taken : ∀ i m, s.toRic[i]? = some m → Handled cfg m → ∃ t, step cfg s (.take i) = .next t
  stopped : ∀ j fd m, s.workers[j]? = some (.stopping fd m) → implemented m = true → ∃ t, step cfg s (.rmFd j) = .next t
  lookedUp : ∀ j m, s.workers[j]? = some (.looking m) → s.loop.writeLocked = false →
    ∃ t, step cfg s (.lookup j) = .next t
  sent : ∀ j m x, s.workers[j]? = some (.forwarding m x) → ∃ t, step cfg s (.forward j) = .next t
  /-- The loop that has the lock goes on. -/
  released : s.loop.writeLocked = true → ∃ a t, a.ofIapp = true ∧ step cfg s a = .next t

section Law
variable {cfg : Config} {s t : Routing} {a : Act} {as : List Act}

/-! ### No message is lost, none is made up -/

theorem conserved_step (h : s.fromNodes.Perm (s.toRic ++ s.workers.map Worker.msg ++ s.forwarded.map Forwarded.source))
    (hs : step cfg s a = .next t) :
    t.fromNodes.Perm (t.toRic ++ t.workers.map Worker.msg ++ t.forwarded.map Forwarded.source) := by
  cases a with
  | e42Setup n info => obtain ⟨-, rfl⟩ := e42Setup_inv hs; exact h
  | register => obtain ⟨_, _, _, -, -, rfl⟩ := register_inv hs; exact h
  | e42Request req info => obtain ⟨-, -, rfl⟩ := e42Request_inv hs; exact h
  | e42Delete req => obtain ⟨-, _, -, rfl⟩ := e42Delete_inv hs; exact h
  | takeId => obtain ⟨_, _, -, rfl⟩ := takeId_inv hs; exact h
  | createTimer fd => obtain ⟨_, _, -, -, -, rfl⟩ := createTimer_inv hs; exact h
  | arm => obtain ⟨_, _, _, -, rfl⟩ := arm_inv hs; exact h
  | send => obtain ⟨_, _, -, rfl⟩ := send_inv hs; exact h
  | record => obtain ⟨_, _, -, -, rfl⟩ := record_inv hs; exact h
  | epoll fds => obtain ⟨-, -, rfl⟩ := epoll_inv hs; exact h
  | pendEvent => obtain ⟨_, _, _, -, -, rfl⟩ := pendEvent_inv hs; exact h
  | nodeAnswer i m =>
    obtain ⟨_, _, -, -, -, -, rfl⟩ := nodeAnswer_inv hs
    simp only [List.append_assoc, List.singleton_append] at h ⊢
    exact (h.cons m).trans List.perm_middle.symm
  | nodeIndicate m =>
    obtain ⟨-, rfl⟩ := nodeIndicate_inv hs
    simp only [List.append_assoc, List.singleton_append] at h ⊢
    exact (h.cons _).trans List.perm_middle.symm
  | take i =>
    have move : ∀ {m : NodeMsg} {w : Worker}, s.toRic[i]? = some m → w.msg = m → s.fromNodes.Perm
        (s.toRic.eraseIdx i ++ (w :: s.workers).map Worker.msg ++ s.forwarded.map Forwarded.source) := by
      rintro m w hm rfl
      refine h.trans (List.Perm.append_right _ ?_)
      exact ((perm_eraseIdx hm).append_right _).trans List.perm_middle.symm
    obtain ⟨m, hm, ⟨ev, fd, p, -, -, rfl⟩ | ⟨-, -, -, rfl⟩⟩ := take_inv hs
    · exact move (w := .stopping fd m) hm rfl
    · exact move (w := .looking m) hm rfl
  | rmFd j =>
    obtain ⟨fd, m, hj, rfl⟩ := rmFd_inv hs
    have hw : (m :: (s.workers.eraseIdx j).map Worker.msg).Perm ((s.workers.set j (.looking m)).map Worker.msg) :=
      ((perm_set hj (.looking m)).map Worker.msg).symm
    exact h.trans (((((perm_eraseIdx hj).map Worker.msg).trans hw).append_left _).append_right _)
  | lookup j =>
    obtain ⟨m, x, hj, -, -, -, -, rfl⟩ := lookup_inv hs
    have hw : (m :: (s.workers.eraseIdx j).map Worker.msg).Perm ((s.workers.set j (.forwarding m x)).map Worker.msg) :=
      ((perm_set hj (.forwarding m x)).map Worker.msg).symm
    exact h.trans (((((perm_eraseIdx hj).map Worker.msg).trans hw).append_left _).append_right _)
  | forward j =>
    obtain ⟨m, x, info, hj, -, rfl⟩ := forward_inv hs
    have hw := (perm_eraseIdx hj).map Worker.msg
    refine h.trans ?_
    simp only [List.append_assoc, List.map_cons]
    refine List.Perm.append_left _ ((hw.append_right _).trans ?_)
    exact List.perm_middle.symm

theorem conserved_of_run (h : (routing cfg).Run System.Any as s) :
    s.fromNodes.Perm (s.toRic ++ s.workers.map Worker.msg ++ s.forwarded.map Forwarded.source) :=
  h.invariant (I := fun s => s.fromNodes.Perm (s.toRic ++ s.workers.map Worker.msg ++ s.forwarded.map Forwarded.source))
    (.refl _) fun _ _ _ hi _ hs => conserved_step hi hs

/-! ### One address for each xApp -/

theorem xapps_nodup_of_run (h : (routing cfg).Run System.Any as s) : (s.iapp.xapps.toList.map Prod.fst).Nodup := by
  refine h.invariant (I := fun s => (s.iapp.xapps.toList.map Prod.fst).Nodup) List.nodup_nil ?_
  intro s a t hn _ (hs : step cfg s a = .next t)
  cases a with
  | register =>
    obtain ⟨x, info, xapps, -, hx, rfl⟩ := register_inv hs
    obtain ⟨hr, rfl⟩ := addMapXappsSad_eq_ok.mp hx
    refine (((AssocRbTree.toList_insert _ _ _).map Prod.fst).nodup_iff).mpr (List.nodup_cons.mpr ⟨fun hm => hr ?_, hn⟩)
    obtain ⟨e, he, rfl⟩ := List.mem_map.mp hm
    exact ⟨e.2, he⟩
  | e42Setup n info => obtain ⟨-, rfl⟩ := e42Setup_inv hs; exact hn
  | e42Request req info => obtain ⟨-, -, rfl⟩ := e42Request_inv hs; exact hn
  | e42Delete req => obtain ⟨-, _, -, rfl⟩ := e42Delete_inv hs; exact hn
  | takeId => obtain ⟨_, _, -, rfl⟩ := takeId_inv hs; exact hn
  | createTimer fd => obtain ⟨_, _, -, -, -, rfl⟩ := createTimer_inv hs; exact hn
  | arm => obtain ⟨_, _, _, -, rfl⟩ := arm_inv hs; exact hn
  | send => obtain ⟨_, _, -, rfl⟩ := send_inv hs; exact hn
  | record => obtain ⟨_, _, -, -, rfl⟩ := record_inv hs; exact hn
  | nodeAnswer | nodeIndicate | take | rmFd | lookup | forward | epoll | pendEvent =>
    exact (frame_of_step hs rfl).2.1 ▸ hn

/-! ### The loop that holds the lock -/

theorem exists_above (l : List Nat) : ∃ n, 0 < n ∧ ∀ x ∈ l, x < n := by
  induction l with
  | nil => exact ⟨1, by decide, nofun⟩
  | cons y l ih =>
    obtain ⟨n, -, hl⟩ := ih
    refine ⟨max n (y + 1), by omega, fun x hx => ?_⟩
    rcases List.mem_cons.mp hx with rfl | hx
    · omega
    · have := hl x hx
      omega

theorem Ids.released (h : s.Ids) (hn : s.issued.length < 64515) (hl : s.loop.writeLocked = true) :
    ∃ a t, a.ofIapp = true ∧ Routing.step cfg s a = .next t := by
  cases hloop : s.loop with
  | idle | registering => simp [hloop, IappPc.writeLocked] at hl
  | stamping req info => exact ⟨.takeId, _, rfl, by simp only [Routing.step, hloop]; rfl⟩
  | timing q entry =>
    obtain ⟨fd, hfd, hlt⟩ := exists_above s.ric.asio
    have hfresh : fd ∉ s.ric.asio := fun hm => (hlt fd hm).false
    exact ⟨.createTimer fd, _, rfl, by
      simp only [Routing.step, hloop, Outcome.await_of (And.intro hfd hfresh), Outcome.next_bind]; rfl⟩
  | arming q fd entry => exact ⟨.arm, _, rfl, by simp only [Routing.step, hloop]; rfl⟩
  | sending q entry => exact ⟨.send, _, rfl, by simp only [Routing.step, hloop]; rfl⟩
  | recording entry =>
    obtain ⟨map, hm⟩ := h.record_fresh (by omega) hloop
    exact ⟨.record, _, rfl, by
      simp only [Routing.step, hloop, hm, Outcome.ofExcept, Outcome.next_bind]; rfl⟩

/-! ### The law -/

/-- In every run whose requests come from the xApps that they name, in every state with fewer requests than
identifiers. -/
theorem routingLaw_of_run (h : (routing cfg).Run FromOwner as s) (hn : s.issued.length < 65536 - 1021) :
    s.RoutingLaw cfg := by
  have hr : (routing cfg).Run System.Any as s := h.mono fun _ _ _ => trivial
  have hi := ids_of_run hr
  have hb : s.AllBacked SctpInfo.SamePeer := allBacked_of_run (fun s req info _ _ hg => hg req info rfl) h
  obtain ⟨es, ht⟩ := table_of_reachable ⟨as, hr⟩
  refine ⟨fun e he => ?_, conserved_of_run hr, fun i m hm hh => ?_, fun j fd m hj him => ⟨_, ht.rmFd_next hj him⟩,
    fun j m hj hl => ?_, fun j m x hj => ?_, hi.released hn⟩
  · obtain ⟨i, his, hid, hsent, hinfo⟩ := hi.sent e he
    obtain ⟨info', hinfo', hpeer⟩ := hb.issued i his
    have heq := List.inj_on_of_nodup_map (xapps_nodup_of_run hr) hinfo hinfo' rfl
    refine ⟨i, fun j hj => ?_, his, hinfo, (Prod.mk.inj heq).2 ▸ hpeer, hsent, hsent ▸ ricId_answerToXapp hid⟩
    have hreq : e.source.ricId.ricReqId = i.id := by rw [hid]; rfl
    rw [hreq]
    exact ⟨fun hji => List.inj_on_of_nodup_map (hi.numbered.nodup (by omega)) hj his hji, fun hji => hji ▸ rfl⟩
  · cases hk : m.answers? with
    | some kind =>
      obtain ⟨fd, p, hs⟩ := ht.take_next cfg _ _ hm (by rw [answerEvent?, hk]; rfl)
      exact ⟨_, hs⟩
    | none =>
      obtain ⟨hpos, hplug⟩ := hh.2 hk
      exact ⟨_, by simp only [step, hm, hk, Outcome.ofOption, Outcome.next_bind, Outcome.check_of hpos,
        Outcome.check_of hplug]; rfl⟩
  · obtain ⟨i, -, -, hs⟩ := hi.lookup_next cfg _ _ (by omega) hj hl
    exact ⟨_, hs⟩
  · obtain ⟨info, -, hs⟩ := forward_next cfg hj (hb.forward hi hj)
    exact ⟨_, hs⟩

/-- Two xApps whose requests have the same identifier of their own; the later one is acknowledged first. -/
theorem routingLaw_of_run_two : ∃ s : Routing, s.RoutingLaw oneNode ∧ s.forwarded =
    [⟨.controlAcknowledge ⟨⟨1021, 0, 2⟩, none, none⟩, localHost 4000, .controlAcknowledge ⟨⟨1, 0, 2⟩, none, none⟩⟩,
      ⟨.controlAcknowledge ⟨⟨1022, 0, 2⟩, none, none⟩, localHost 4001, .controlAcknowledge ⟨⟨1, 0, 2⟩, none, none⟩⟩] := by
  have h : ((routing oneNode).exec FromOwner init
      ([.e42Setup 1 (localHost 4000), .register, .e42Setup 1 (localHost 4001), .register] ++
        passOn (controlGnb 7 1 (by decide)) (localHost 4000) 5 ++ passOn (controlGnb 8 1 (by decide)) (localHost 4001) 6 ++
        [.nodeAnswer 1 (.controlAcknowledge ⟨⟨1022, 0, 2⟩, none, none⟩),
          .nodeAnswer 0 (.controlAcknowledge ⟨⟨1021, 0, 2⟩, none, none⟩), .take 0, .rmFd 0, .lookup 0, .forward 0,
          .take 0, .rmFd 0, .lookup 0, .forward 0])).passes (fun s => s.issued.length < 65536 - 1021 ∧ s.forwarded =
      [⟨.controlAcknowledge ⟨⟨1021, 0, 2⟩, none, none⟩, localHost 4000, .controlAcknowledge ⟨⟨1, 0, 2⟩, none, none⟩⟩,
        ⟨.controlAcknowledge ⟨⟨1022, 0, 2⟩, none, none⟩, localHost 4001,
          .controlAcknowledge ⟨⟨1, 0, 2⟩, none, none⟩⟩]) = true := by
    decide +kernel
  obtain ⟨s, hr, hs⟩ := System.exists_run_of_exec h
  obtain ⟨hn, hf⟩ := of_decide_eq_true hs
  exact ⟨s, routingLaw_of_run hr hn, hf⟩

end Law

end Routing

end FlexRic.Ric
