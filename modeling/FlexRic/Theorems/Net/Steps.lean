import FlexRic.Net.Network
import FlexRic.Theorems.Agent.Process
import FlexRic.Theorems.Ric.NodeRequests
import FlexRic.Theorems.XApp.Process

/-! # What each step of the network does

One inversion lemma for each action. The agents, as they are, do what the nodes of `Routing` do: they answer every request
with its own identifiers, and send indications for subscriptions that they were sent. So the RIC of the network runs
through the states of `Routing`, and what is known about these holds in the network. -/

namespace FlexRic.Ric

/-- The steps of the RIC that neither take a message of an xApp or a node nor send one to an xApp. -/
def Act.inner : Act → Bool
  | .takeId | .createTimer _ | .arm | .send | .record | .take _ | .rmFd _ | .lookup _ | .epoll _ | .pendEvent => true
  | _ => false

theorem Act.ofNode_of_inner {a : Act} (h : a.inner = true) : a.ofNode = false := by
  cases a <;> first | rfl | cases h

end FlexRic.Ric

namespace FlexRic.Net.Network
open Agent Ds E2ap Ep IApp Ric XApp

variable {ι κ ρ : Type} {cfg : Config ι ρ} {s t : Network ι κ ρ} {a : Act ι κ}

section Steps
variable [DecidableEq ι] {x : ι} {n : GlobalE2NodeId} {i : Nat}

theorem setup_inv {lenRf : Nat} (h : step cfg s (.setup x lenRf) = .next t) : (s.xapps x).id = none ∧
    t = { s with toIapp := s.toIapp ++ [(cfg.addr x, .setupRequest lenRf)] } := by
  obtain ⟨_, hw, h⟩ := Outcome.bind_eq_next.mp h
  exact ⟨Outcome.await_eq_next.mp hw, (Outcome.next.inj h).symm⟩

theorem xapp_inv {a : ProcessAct κ} (h : step cfg s (.xapp x a) = .next t) : ∃ p,
    (s.xapps x).step cfg.plugins.agIf cfg.enable a = .next p ∧ t = { s with xapps := Function.update s.xapps x p } := by
  obtain ⟨p, hp, h⟩ := Outcome.bind_eq_next.mp h
  exact ⟨p, hp, (Outcome.next.inj h).symm⟩

theorem xappSend_inv (h : step cfg s (.xappSend x) = .next t) : ∃ p msg, (s.xapps x).send = .next (p, msg) ∧
    t = { s with xapps := Function.update s.xapps x p, toIapp := s.toIapp ++ [(cfg.addr x, msg)] } := by
  obtain ⟨⟨p, msg⟩, hp, h⟩ := Outcome.bind_eq_next.mp h
  exact ⟨p, msg, hp, (Outcome.next.inj h).symm⟩

theorem xappReceive_inv (h : step cfg s (.xappReceive x i) = .next t) : ∃ info msg p, s.toXapp[i]? = some (info, msg) ∧
    info.SamePeer (cfg.addr x) ∧ (s.xapps x).handle cfg.plugins cfg.enable msg = .next p ∧
    t = { s with xapps := Function.update s.xapps x p, toXapp := s.toXapp.eraseIdx i } := by
  obtain ⟨⟨info, msg⟩, hm, h⟩ := Outcome.bind_eq_next.mp h
  obtain ⟨_, hw, h⟩ := Outcome.bind_eq_next.mp h
  obtain ⟨p, hp, h⟩ := Outcome.bind_eq_next.mp h
  exact ⟨info, msg, p, Outcome.ofOption_eq_next.mp hm, Outcome.await_eq_next.mp hw, hp, (Outcome.next.inj h).symm⟩

theorem iappReceive_inv (h : step cfg s (.iappReceive i) = .next t) : ∃ info msg ric, s.toIapp[i]? = some (info, msg) ∧
    s.ric.step cfg.ric (received info msg) = .next ric ∧ t = { s with ric, toIapp := s.toIapp.eraseIdx i } := by
  obtain ⟨⟨info, msg⟩, hm, h⟩ := Outcome.bind_eq_next.mp h
  obtain ⟨ric, hr, h⟩ := Outcome.bind_eq_next.mp h
  exact ⟨info, msg, ric, Outcome.ofOption_eq_next.mp hm, hr, (Outcome.next.inj h).symm⟩

/-- A step of the RIC without a message that comes in: it sends a setup response, it forwards the message of a node,
or nothing leaves the RIC for an xApp. -/
theorem ric_inv {a : Ric.Act} (h : step cfg s (.ric a) = .next t) : ∃ ric, s.ric.step cfg.ric a = .next ric ∧
    ((∃ xappId info, a = .register ∧ s.ric.loop = .registering xappId info ∧
        t = { s with ric, toXapp := s.toXapp ++ [(info, .setupResponse xappId)] }) ∨
      (∃ j m xr info, a = .forward j ∧ s.ric.workers[j]? = some (.forwarding m xr) ∧
        findMapXappsSad s.ric.iapp.xapps xr.xappId = .ok info ∧
        ric = { s.ric with
          workers := s.ric.workers.eraseIdx j, forwarded := ⟨m, info, answerToXapp xr m⟩ :: s.ric.forwarded } ∧
        t = { s with ric, toXapp := s.toXapp ++ [(info, .node (answerToXapp xr m))] }) ∨
      (a.inner = true ∧ t = { s with ric })) := by
  cases a with
  | e42Setup | e42Request | e42Delete | nodeAnswer | nodeIndicate => cases h
  | register =>
    simp only [step] at h
    split at h
    · next xappId info hl =>
      obtain ⟨ric, hr, h⟩ := Outcome.bind_eq_next.mp h
      exact ⟨ric, hr, .inl ⟨xappId, info, rfl, hl, (Outcome.next.inj h).symm⟩⟩
    · cases h
  | forward j =>
    obtain ⟨ric, hr, h⟩ := Outcome.bind_eq_next.mp h
    obtain ⟨f, hf, h⟩ := Outcome.bind_eq_next.mp h
    obtain ⟨m, xr, info, hj, hinfo, rfl⟩ := Routing.forward_inv hr
    obtain rfl := Option.some.inj (Outcome.ofOption_eq_next.mp hf)
    exact ⟨_, hr, .inr (.inl ⟨j, m, xr, info, rfl, hj, hinfo, rfl, (Outcome.next.inj h).symm⟩)⟩
  | takeId | createTimer | arm | send | record | take | rmFd | lookup | epoll | pendEvent =>
    obtain ⟨ric, hr, h⟩ := Outcome.bind_eq_next.mp h
    exact ⟨ric, hr, .inr (.inr ⟨rfl, (Outcome.next.inj h).symm⟩)⟩

theorem agent_inv {a : AsyncEvents.Act} (h : step cfg s (.agent n a) = .next t) : ∃ p, (s.agents n).step a = .next p ∧
    t = { s with agents := Function.update s.agents n p } := by
  obtain ⟨p, hp, h⟩ := Outcome.bind_eq_next.mp h
  exact ⟨p, hp, (Outcome.next.inj h).symm⟩

theorem agentAperiodic_inv {data : SmIndData} (h : step cfg s (.agentAperiodic n data) = .next t) : ∃ p m,
    (s.agents n).sendAperiodic data = .next (p, m) ∧
    t = { s with agents := Function.update s.agents n p, ric := fromNode s.ric m } := by
  obtain ⟨⟨p, m⟩, hp, h⟩ := Outcome.bind_eq_next.mp h
  exact ⟨p, m, hp, (Outcome.next.inj h).symm⟩

theorem agentPeriodic_inv {fd : Nat} {data : SmIndData} (h : step cfg s (.agentPeriodic n fd data) = .next t) : ∃ p m,
    (s.agents n).sendPeriodic (cfg.agent n) fd data = .next (p, m) ∧
    t = { s with agents := Function.update s.agents n p, ric := fromNode s.ric m } := by
  obtain ⟨⟨p, m⟩, hp, h⟩ := Outcome.bind_eq_next.mp h
  exact ⟨p, m, hp, (Outcome.next.inj h).symm⟩

theorem agentReceive_inv {k : SmAnswer} (h : step cfg s (.agentReceive n i k) = .next t) : ∃ q p m,
    s.ric.toNode[i]? = some q ∧ q.e2NodeId = n ∧ (s.agents n).handle (cfg.agent n) q k = .next (p, m) ∧
    t = { s with agents := Function.update s.agents n p, ric := Network.answered s.ric i q m } := by
  obtain ⟨q, hq, h⟩ := Outcome.bind_eq_next.mp h
  obtain ⟨_, hw, h⟩ := Outcome.bind_eq_next.mp h
  obtain ⟨⟨p, m⟩, hp, h⟩ := Outcome.bind_eq_next.mp h
  exact ⟨q, p, m, Outcome.ofOption_eq_next.mp hq, Outcome.await_eq_next.mp hw, hp, (Outcome.next.inj h).symm⟩

end Steps

/-! ### The RIC among its xApps and nodes -/

/-- An agent knows only of subscriptions that it was sent. -/
def Known (s : Network ι κ ρ) : Prop := ∀ n id, (s.agents n).async.Knows id → id ∈ s.ric.subscribed

theorem known_init : (init cfg : Network ι κ ρ).Known := by
  intro n id hk
  obtain ⟨_, hk⟩ := hk
  cases hk with
  | left h => cases h
  | right h => cases h
  | queue h => cases h
  | pushing h => cases h
  | sending h => cases h

/-- What an agent knows after the step of another process -/
theorem Known.agents (h : s.Known) {n : GlobalE2NodeId} {p : Agent.Process} {l : List RicGenId}
    (hl : ∀ id ∈ s.ric.subscribed, id ∈ l) (hp : ∀ id, p.async.Knows id → id ∈ l) :
    ∀ m id, (Function.update s.agents n p m).async.Knows id → id ∈ l := by
  intro m id hk
  rw [Function.update_apply] at hk
  split at hk
  · exact hp id hk
  · exact hl id (h m id hk)

/-- An indication of an agent is for one of its subscriptions. -/
theorem Known.indicates (h : s.Known) (cfg : Config ι ρ) {n : GlobalE2NodeId} {m : RicIndication} (hm : (s.agents n).async.Knows m.ricId) :
    s.ric.step cfg.ric (.nodeIndicate m) = .next (fromNode s.ric (.indication m)) := by
  rw [Routing.step, Outcome.await_of (h n _ hm)]
  rfl

variable [DecidableEq ι]

/-- What a step of the network is to the RIC: a step of `Routing`, whose request, if it takes one, was on its way. -/
theorem Known.step (h : s.Known) (hs : step cfg s a = .next t) : t.Known ∧ (t.ric = s.ric ∨
    ∃ b, s.ric.step cfg.ric b = .next t.ric ∧ ∀ req info, b = .e42Request req info → (info, .request req) ∈ s.toIapp) := by
  have same : t.agents = s.agents → t.ric.subscribed = s.ric.subscribed → t.Known := by
    intro hag hsub n id hk
    rw [hsub]
    exact h n id (hag ▸ hk)
  cases a with
  | setup x n => obtain ⟨-, rfl⟩ := setup_inv hs; exact ⟨same rfl rfl, .inl rfl⟩
  | xapp x a => obtain ⟨_, -, rfl⟩ := xapp_inv hs; exact ⟨same rfl rfl, .inl rfl⟩
  | xappSend x => obtain ⟨_, _, -, rfl⟩ := xappSend_inv hs; exact ⟨same rfl rfl, .inl rfl⟩
  | xappReceive x i => obtain ⟨_, _, _, -, -, -, rfl⟩ := xappReceive_inv hs; exact ⟨same rfl rfl, .inl rfl⟩
  | iappReceive i =>
    obtain ⟨info, msg, ric, hm, hr, rfl⟩ := iappReceive_inv hs
    refine ⟨same rfl (Routing.nodes_frame hr ?_).1, .inr ⟨_, hr, ?_⟩⟩
    · cases msg <;> rfl
    · intro req info' hb
      cases msg with
      | request req' =>
        obtain ⟨rfl, rfl⟩ := Act.e42Request.inj hb
        exact List.mem_of_getElem? hm
      | setupRequest | deleteRequest => cases hb
  | ric a =>
    obtain ⟨ric, hr, hshape⟩ := ric_inv hs
    have hsub : a.ofNode = false → ric.subscribed = s.ric.subscribed := fun ha => (Routing.nodes_frame hr ha).1
    rcases hshape with ⟨_, _, rfl, -, rfl⟩ | ⟨_, _, _, _, rfl, -, -, -, rfl⟩ | ⟨hin, rfl⟩
    · exact ⟨same rfl (hsub rfl), .inr ⟨_, hr, nofun⟩⟩
    · exact ⟨same rfl (hsub rfl), .inr ⟨_, hr, nofun⟩⟩
    · refine ⟨same rfl (hsub (Act.ofNode_of_inner hin)), .inr ⟨_, hr, ?_⟩⟩
      rintro _ _ rfl
      cases hin
  | agent n a =>
    obtain ⟨p, hp, rfl⟩ := agent_inv hs
    obtain ⟨async, ha, rfl, hmsg⟩ := Process.step_inv hp
    refine ⟨h.agents (fun _ => id) fun id hk => ?_, .inl rfl⟩
    rcases AsyncEvents.knows_of_step ha hk with hk | ⟨_, _, _, rfl, -⟩
    · exact h n id hk
    · exact absurd rfl (hmsg _)
  | agentAperiodic n data =>
    obtain ⟨p, m, hp, rfl⟩ := agentAperiodic_inv hs
    obtain ⟨aiEv, async, hl, ha, rfl, rfl⟩ := Process.sendAperiodic_inv hp
    refine ⟨h.agents (fun _ => id) fun id hk => ?_, .inr ⟨_, h.indicates cfg (n := n) ⟨_, .sending hl⟩, nofun⟩⟩
    rcases AsyncEvents.knows_of_step ha hk with hk | ⟨_, _, _, he, -⟩
    · exact h n id hk
    · cases he
  | agentPeriodic n fd data =>
    obtain ⟨p, m, hp, rfl⟩ := agentPeriodic_inv hs
    obtain ⟨e, iEv, hf, rfl, rfl⟩ := Process.sendPeriodic_inv hp
    exact ⟨h.agents (fun _ => id) fun id hk => h n id hk, .inr ⟨_, h.indicates cfg (n := n) ⟨_, .left (AssocRbTree.mem_of_findIf hf).1⟩, nofun⟩⟩
  | agentReceive n i k =>
    obtain ⟨q, p, m, hq, rfl, hp, rfl⟩ := agentReceive_inv hs
    obtain ⟨hans, hid, -, -⟩ := Process.handle_inv hp
    refine ⟨h.agents (fun id hid => ?_) fun id hk => ?_, .inr ⟨.nodeAnswer i m, ?_, nofun⟩⟩
    · show id ∈ (if q.kind = .subscription then q.ricId :: s.ric.subscribed else s.ric.subscribed)
      split
      · exact List.mem_cons_of_mem _ hid
      · exact hid
    · show id ∈ (if q.kind = .subscription then q.ricId :: s.ric.subscribed else s.ric.subscribed)
      rcases Process.knows_of_handle hp hk with hk | ⟨hsub, rfl⟩
      · split
        · exact List.mem_cons_of_mem _ (h _ id hk)
        · exact h _ id hk
      · rw [if_pos hsub]
        exact List.mem_cons_self
    · simp only [Routing.step, hq, Outcome.ofOption, Outcome.next_bind, Outcome.await_of (And.intro hans hid)]
      rfl

section Runs
variable {G : Network ι κ ρ → Act ι κ → Prop} {as : List (Act ι κ)}

theorem known_of_run (h : (network κ cfg).Run G as s) : s.Known :=
  h.invariant (I := Known) known_init fun _ _ _ hk _ hs => (hk.step hs).1

/-- The RIC of the network follows `Routing`. -/
theorem follows_routing (G : Network ι κ ρ → Act ι κ → Prop) :
    System.Follows (network κ cfg) G (routing cfg.ric) System.Any fun s r => r = s.ric :=
  System.follows_part Network.ric rfl fun _ _ _ _ hr _ _ hs =>
    ((known_of_run hr).step hs).2.imp_right fun ⟨b, hb, _⟩ => ⟨b, trivial, hb⟩

theorem ric_reachable (h : (network κ cfg).Run G as s) : (routing cfg.ric).Reachable System.Any s.ric :=
  System.reachable_part (follows_routing G) h

theorem ids_of_run (h : (network κ cfg).Run G as s) : s.ric.Ids :=
  (ric_reachable h).elim fun _ => Routing.ids_of_run

theorem asked_of_run (h : (network κ cfg).Run G as s) : s.ric.Asked :=
  (ric_reachable h).elim fun _ => Routing.asked_of_run

end Runs

end FlexRic.Net.Network
