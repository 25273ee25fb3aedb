import FlexRic.Theorems.Net.Answers
import FlexRic.Theorems.XApp.Subscriptions

/-! # The subscriptions of the xApps, and those of the agents

An xApp counts a subscription from the return of the call that has made it to the return of the call that removes it; the
agent of the node counts it from the request to the deletion. While the xApp makes no call, both have the same. -/

namespace FlexRic.XApp.Xapp

variable {X : Xapp} {r : Request}

/-- The only request that is open is that of the call, which has sent it. -/
theorem Inv.asked (h : X.Inv) (hr : r ∈ X.toIapp) : X.toIapp = [r] ∧ X.ui.request? = some r ∧ X.ui.unsent? = none := by
  have hpos := h.position
  have none : X.toIapp = [] → False := fun hto => by rw [hto] at hr; cases hr
  have atIt : ∀ r', X.At r' .asked → X.toIapp = [r] ∧ r' = r := by
    rintro r' ⟨hto, -⟩
    obtain rfl := List.mem_singleton.mp (hto ▸ hr)
    exact ⟨hto, rfl⟩
  cases hui : X.ui with
  | idle | entered | registered =>
    simp only [Position, hui] at hpos
    exact (none hpos.1.toIapp).elim
  | sent r' =>
    simp only [Position, hui] at hpos
    obtain ⟨-, hat | ⟨a, hat⟩, -⟩ := hpos
    · obtain ⟨hto, rfl⟩ := atIt r' hat
      exact ⟨hto, rfl, rfl⟩
    · exact (none hat.2.1).elim
  | handled r' | waiting r' | timedOut r' =>
    simp only [Position, hui] at hpos
    obtain ⟨st, hat, -⟩ := hpos
    cases st with
    | asked =>
      obtain ⟨hto, rfl⟩ := atIt r' hat
      exact ⟨hto, rfl, rfl⟩
    | answered => exact (none hat.2.1).elim
    | signalling => exact (none hat.2.1).elim
    | signalled => exact (none hat.2.toIapp).elim
  | woken r' =>
    simp only [Position, hui] at hpos
    obtain ⟨a, ⟨-, hq⟩, -⟩ := hpos
    exact (none hq.toIapp).elim

/-- No request is open before the call has sent it, and after it was answered. -/
theorem Inv.toIapp_eq_nil (h : X.Inv) (hui : X.ui = .idle ∨ X.ui = .woken r) : X.toIapp = [] := by
  have hpos := h.position
  rcases hui with hui | hui
  · simp only [Position, hui] at hpos
    exact hpos.1.toIapp
  · simp only [Position, hui] at hpos
    obtain ⟨a, ⟨-, hq⟩, -⟩ := hpos
    exact hq.toIapp

end FlexRic.XApp.Xapp

namespace FlexRic.Net.Network
open Agent Ds E2ap Ep IApp Ric XApp

variable {ι κ ρ : Type} {cfg : Config ι ρ} {s t : Network ι κ ρ} {a : Act ι κ} {x : ι} {n : GlobalE2NodeId}

/-- The identifiers, as the xApps have given them, with the addresses of the xApps -/
def owned (ric : Routing) (l : List RicGenId) : List (SctpInfo × RicGenId) :=
  l.filterMap fun id => (ric.owner id).map fun i => (i.info, i.req.ricId)

/-- The subscriptions of the xApp at the address, in the table of the agent of the node -/
def tableFor (s : Network ι κ ρ) (info : SctpInfo) (n : GlobalE2NodeId) : List RicGenId :=
  addressed info (owned s.ric (s.agents n).table)

/-- The subscriptions at the node -/
def subsAt (l : List (Nat × ActProcEntry κ)) (n : GlobalE2NodeId) : List RicGenId :=
  addressed n (l.map fun e => (e.2.e2Node, e.2.id))

/-- The request of the xApp that no node has taken -/
def pending (cfg : Config ι ρ) (s : Network ι κ ρ) (x : ι) : List Request :=
  (s.xapps x).ui.unsent?.toList ++ addressed (cfg.addr x) s.unanswered

/-- What the xApp has asked the nodes for: the request of a call counts from when its node has taken it. -/
def subscriptionsOf (cfg : Config ι ρ) (s : Network ι κ ρ) (x : ι) : List (Nat × ActProcEntry κ) :=
  if pending cfg s x = [] then (s.xapps x).afterCall else (s.xapps x).subscriptions

/-- The agents have what the xApp has asked for. -/
def Agrees (cfg : Config ι ρ) (s : Network ι κ ρ) (x : ι) : Prop :=
  ∀ n, (tableFor s (cfg.addr x) n).Perm (subsAt (subscriptionsOf cfg s x) n)

/-- A step that changes neither the tables nor what the xApp has asked for -/
theorem Agrees.move (h : Agrees cfg s x) (ht : ∀ n, tableFor t (cfg.addr x) n = tableFor s (cfg.addr x) n)
    (hp : (pending cfg s x).Perm (pending cfg t x)) (hs : (t.xapps x).subscriptions = (s.xapps x).subscriptions)
    (ha : (t.xapps x).afterCall = (s.xapps x).afterCall) : Agrees cfg t x := by
  intro n
  have heq : subscriptionsOf cfg t x = subscriptionsOf cfg s x := by
    unfold subscriptionsOf
    rw [hs, ha]
    by_cases hnil : pending cfg s x = []
    · rw [if_pos hnil, if_pos (hnil ▸ hp).nil_eq.symm]
    · rw [if_neg hnil, if_neg fun h => hnil (h ▸ hp).eq_nil]
  rw [ht, heq]
  exact h n

section Steps
variable [DecidableEq ι] {G : Network ι κ ρ → Act ι κ → Prop} {as : List (Act ι κ)}

/-- An xApp between two calls, or one whose call was signalled, waits for nothing. -/
theorem pending_eq_nil (hapart : Apart cfg) (h : (network κ cfg).Run IdLeft as s) {r : Request}
    (hui : (s.xapps x).ui = .idle ∨ (s.xapps x).ui = .woken r) : pending cfg s x = [] := by
  obtain ⟨X, hsee, hX⟩ := (follows_xapp hapart x).keeps (I := Xapp.Inv) (fun _ _ => Xapp.inv_of_run) h
  obtain ⟨ap, -, hthr⟩ := hsee.threads
  have hnil := hX.toIapp_eq_nil (r := r) (by rw [hthr]; exact hui)
  have hopen := (hnil ▸ hsee.asked).nil_eq
  rw [openRequests, addressed_append] at hopen
  have hun : (s.xapps x).ui.unsent? = none := by
    rcases hui with hui | hui
    · rw [hui]; rfl
    · rw [hui]; rfl
  rw [pending, hun, (List.append_eq_nil_iff.mp hopen.symm).1]
  rfl

/-- The tables, when no agent takes a request -/
theorem tableFor_of_step (h : (network κ cfg).Run IdLeft as s) (hg : IdLeft s a) (hs : step cfg s a = .next t)
    (ha : ∀ n i k, a ≠ .agentReceive n i k) (info : SctpInfo) (n : GlobalE2NodeId) :
    tableFor t info n = tableFor s info n := by
  have htab : (t.agents n).table = (s.agents n).table := by
    have update : ∀ {n' p}, p.async.agent = (s.agents n').async.agent →
        (Function.update s.agents n' p n).table = (s.agents n).table := fun hp =>
      agents_update (P := fun p q => p.table = q.table) (by rw [Process.table, Process.table, hp]) (fun _ => rfl) n
    cases a with
    | setup x n => obtain ⟨-, rfl⟩ := setup_inv hs; rfl
    | xapp x a => obtain ⟨_, -, rfl⟩ := xapp_inv hs; rfl
    | xappSend x => obtain ⟨_, _, -, rfl⟩ := xappSend_inv hs; rfl
    | xappReceive x i => obtain ⟨_, _, _, -, -, -, rfl⟩ := xappReceive_inv hs; rfl
    | iappReceive i => obtain ⟨_, _, _, -, -, rfl⟩ := iappReceive_inv hs; rfl
    | ric a =>
      obtain ⟨_, -, ⟨_, _, -, -, rfl⟩ | ⟨_, _, _, _, -, -, -, -, rfl⟩ | ⟨-, rfl⟩⟩ := ric_inv hs <;> rfl
    | agent n' a =>
      obtain ⟨p, hp, rfl⟩ := agent_inv hs
      obtain ⟨async, has, rfl, hm⟩ := Process.step_inv hp
      exact update (AsyncEvents.agent_of_step has hm)
    | agentAperiodic n' data =>
      obtain ⟨p, m, hp, rfl⟩ := agentAperiodic_inv hs
      obtain ⟨_, _, -, has, -, rfl⟩ := Process.sendAperiodic_inv hp
      exact update (AsyncEvents.agent_of_step has (by simp))
    | agentPeriodic n' fd data =>
      obtain ⟨p, m, hp, rfl⟩ := agentPeriodic_inv hs
      obtain ⟨_, _, -, -, rfl⟩ := Process.sendPeriodic_inv hp
      exact update rfl
    | agentReceive n' i k => exact absurd rfl (ha n' i k)
  rw [tableFor, tableFor, htab]
  refine congrArg (addressed info) (List.filterMap_congr fun id hid => ?_)
  obtain ⟨e, he, rfl⟩ := List.mem_map.mp hid
  obtain ⟨i, hi, hid', -⟩ := (sentByAgents_of_run (fun _ _ => id) h).known n _ ⟨_, .right he⟩
  rw [(owner_iff (fun _ _ => id) h).mpr ⟨hi, hid'.symm⟩,
    (owner_iff (fun _ _ => id) (h.snoc hg hs)).mpr ⟨mem_issued_of_step hs hi, hid'.symm⟩]

/-- The requests that the nodes have not taken, when no xApp sends and no agent takes one -/
theorem unanswered_of_step (hapart : Apart cfg) (h : (network κ cfg).Run IdLeft as s) (hg : IdLeft s a)
    (hs : step cfg s a = .next t) (hsent : sentAsk cfg s a = []) (hans : answeredAsk s a = []) :
    s.unanswered.Perm t.unanswered := by
  have hopen := (open_of_step hapart (fun _ _ => id) h hg hs).1
  rw [hsent, hans] at hopen
  exact hopen

/-- A request that no node has taken is that of the call, and the only one of its xApp. -/
theorem request_of_unanswered (hapart : Apart cfg) (h : (network κ cfg).Run IdLeft as s) {r : Request}
    (hm : r ∈ addressed (cfg.addr x) s.unanswered) : (s.xapps x).ui.request? = some r ∧
      (s.xapps x).ui.unsent? = none ∧ (addressed (cfg.addr x) s.unanswered).length = 1 := by
  obtain ⟨X, hsee, hX⟩ := (follows_xapp hapart x).keeps (I := Xapp.Inv) (fun _ _ => Xapp.inv_of_run) h
  obtain ⟨ap, -, hthr⟩ := hsee.threads
  have hall := hsee.asked
  rw [openRequests, addressed_append] at hall
  obtain ⟨hone, hreq, hunsent⟩ := hX.asked (hall.mem_iff.mpr (List.mem_append_left _ hm))
  rw [hthr] at hreq hunsent
  have hlen := (hone ▸ hall).length_eq
  rw [List.length_append, List.length_singleton] at hlen
  have hpos := List.length_pos_of_mem hm
  exact ⟨hreq, hunsent, by omega⟩

/-- What the request that an agent takes makes of its table, as the xApp at the address sees it -/
theorem makes_owned {ric : Routing} {j : Issue} {id : RicGenId} {kind : RequestKind} {l l' : List RicGenId}
    (ho : ric.owner id = some j) (h : kind.change.Makes id l l') (info : SctpInfo) :
    (j.info = info ∧ kind.change.Makes j.req.ricId (addressed info (owned ric l)) (addressed info (owned ric l'))) ∨
      (j.info ≠ info ∧ (addressed info (owned ric l')).Perm (addressed info (owned ric l))) := by
  have hown : kind.change.Makes (j.info, j.req.ricId) (owned ric l) (owned ric l') := h.filterMap (by rw [ho]; rfl)
  by_cases hj : j.info = info
  · exact .inl ⟨hj, hown.filterMap (if_pos hj)⟩
  · exact .inr ⟨hj, hown.filterMap_none (if_neg hj)⟩

/-- The subscriptions at a node, when a request is made there -/
theorem makes_subsAt {k : Nat} {v : ActProcEntry κ} {kind : RequestKind} {l l' : List (Nat × ActProcEntry κ)}
    (h : kind.change.Makes (k, v) l l') (n : GlobalE2NodeId) :
    (v.e2Node = n ∧ kind.change.Makes v.id (subsAt l n) (subsAt l' n)) ∨
      (v.e2Node ≠ n ∧ (subsAt l' n).Perm (subsAt l n)) := by
  have hmap : kind.change.Makes (v.e2Node, v.id) (l.map fun e => (e.2.e2Node, e.2.id)) (l'.map fun e => (e.2.e2Node, e.2.id)) := by
    rw [← List.filterMap_eq_map]
    exact h.filterMap rfl
  by_cases hn : v.e2Node = n
  · exact .inl ⟨hn, hmap.filterMap (if_pos hn)⟩
  · exact .inr ⟨hn, hmap.filterMap_none (if_neg hn)⟩

/-- An agent takes a request: the xApp that waits for it has asked for what the agent has, before and after. -/
theorem agrees_of_agentReceive (hapart : Apart cfg) (h : (network κ cfg).Run IdLeft as s) {i : Nat} {k : SmAnswer}
    (hg : IdLeft s (.agentReceive n i k)) (hs : step cfg s (.agentReceive n i k) = .next t) (hi : ∀ x, Agrees cfg s x)
    (y : ι) : Agrees cfg t y := by
  have hopen := (open_of_step hapart (fun _ _ => id) h hg hs).1
  obtain ⟨q, p, m, hq, rfl, hp, ht⟩ := agentReceive_inv hs
  obtain ⟨j, hj, hask⟩ := (asked_of_run h).held q (.inr (List.mem_of_getElem? hq))
  have howner := (owner_iff (fun _ _ => id) h).mpr ⟨hj, hask.ricId.symm⟩
  obtain ⟨x, c', hx, hmade', hasks'⟩ := made_of_issued hapart h hj
  have hanswered : answeredAsk s (.agentReceive q.e2NodeId i k : Act ι κ) = [(cfg.addr x, ⟨q.kind, j.req.ricId⟩)] := by
    rw [answeredAsk, hq, Option.bind_some, Routing.ask_of_owner q.kind howner, hx]
    rfl
  rw [hanswered, show sentAsk cfg s (.agentReceive q.e2NodeId i k) = [] from rfl, List.nil_append, List.singleton_append] at hopen
  have hun := addressed_perm (k := cfg.addr y) hopen
  have hxapp : t.xapps y = s.xapps y := by rw [ht]
  have htab : ∀ n, tableFor t (cfg.addr y) n = addressed (cfg.addr y) (owned s.ric (t.agents n).table) := by
    intro n
    have hown : owned t.ric (t.agents n).table = owned s.ric (t.agents n).table :=
      List.filterMap_congr fun id _ => congrArg (Option.map _) (Routing.owner_eq (by rw [ht]; rfl))
    rw [tableFor, hown]
  have hnew : (t.agents q.e2NodeId).table = p.table := by
    rw [ht]
    exact congrArg Process.table (Function.update_self ..)
  have hold : ∀ n, n ≠ q.e2NodeId → t.agents n = s.agents n := by
    intro n hn
    rw [ht]
    exact Function.update_of_ne hn ..
  rcases makes_owned howner (Process.table_of_handle hp) (cfg.addr y) with ⟨hjy, hmakes⟩ | ⟨hjy, hsame⟩
  · -- It is the request of the call of `y`.
    obtain rfl : x = y := hapart.injective (hx.symm.trans hjy)
    rw [addressed_cons_self] at hun
    obtain ⟨hreq, hunsent, hlen⟩ := request_of_unanswered hapart h (hun.mem_iff.mpr List.mem_cons_self)
    rw [hun.length_eq, List.length_cons] at hlen
    have hnil : addressed (cfg.addr x) t.unanswered = [] := List.length_eq_zero_iff.mp (Nat.succ.inj hlen)
    have hbefore : subscriptionsOf cfg s x = (s.xapps x).subscriptions := by
      refine if_neg fun hp => ?_
      rw [(List.append_eq_nil_iff.mp hp).2] at hun
      cases hun.nil_eq
    have hafter : subscriptionsOf cfg t x = (s.xapps x).afterCall := by
      rw [subscriptionsOf, pending, hxapp, hunsent, hnil]
      exact if_pos rfl
    obtain ⟨v, c, hid, hmade, ⟨kind, hasks⟩, hchange⟩ := (orderly_of_run h x).procedure hreq
    obtain ⟨-, rfl⟩ := Prod.mk.inj (List.inj_on_of_nodup_map (orderly_of_run h x).registers.nodup hmade hmade' rfl)
    have hnode : v.e2Node = q.e2NodeId := by
      rw [hask.node]
      exact (Prod.mk.inj (Option.some.inj (hasks.symm.trans hasks'))).2
    intro n
    have hagree := hi x n
    rw [hbefore] at hagree
    rw [hafter, htab]
    rcases makes_subsAt hchange n with ⟨rfl, hat⟩ | ⟨hne, hat⟩
    · rw [hnode, hnew]
      rw [hnode] at hat hagree
      rw [hid] at hat
      exact hmakes.perm hat hagree
    · rw [hold n fun he => hne (hnode.trans he.symm)]
      exact hagree.trans hat.symm
  · -- The other xApps wait for what they did.
    rw [addressed_cons_ne fun he => hjy (hx.trans he)] at hun
    have hpend : pending cfg t y = [] ↔ pending cfg s y = [] := by
      rw [pending, pending, hxapp, List.append_eq_nil_iff, List.append_eq_nil_iff]
      exact and_congr_right fun _ => ⟨fun hnil => (hnil ▸ hun).eq_nil, fun hnil => (hnil ▸ hun).nil_eq.symm⟩
    have heq : subscriptionsOf cfg t y = subscriptionsOf cfg s y := by
      unfold subscriptionsOf
      rw [hxapp]
      exact if_congr hpend rfl rfl
    intro n
    rw [htab, heq]
    refine .trans ?_ (hi y n)
    by_cases hn : n = q.e2NodeId
    · subst hn
      rw [hnew]
      exact hsame
    · rw [hold n hn]
      exact .refl _

omit [DecidableEq ι] in
theorem agrees_init : Agrees cfg (init cfg : Network ι κ ρ) x := fun _ => .refl _

theorem agrees_of_step (hapart : Apart cfg) (h : (network κ cfg).Run IdLeft as s) (hi : ∀ x, Agrees cfg s x)
    (hg : IdLeft s a) (hs : step cfg s a = .next t) (y : ι) : Agrees cfg t y := by
  have htab := tableFor_of_step h hg hs
  have hun := unanswered_of_step hapart h hg hs
  -- A step that the xApp has no part in
  have still : (∀ n i k, a ≠ .agentReceive n i k) → answeredAsk s a = [] → sentAsk cfg s a = [] →
      t.xapps y = s.xapps y → Agrees cfg t y := by
    intro ha hans hsent hx
    refine (hi y).move (htab ha _) ?_ (by rw [hx]) (by rw [hx])
    rw [pending, pending, hx]
    exact (addressed_perm (hun hsent hans)).append_left _
  have other : ∀ {x : ι} {p : XApp.Process κ ρ}, y ≠ x → Function.update s.xapps x p y = s.xapps y := fun hy =>
    Function.update_of_ne hy ..
  cases a with
  | setup x n => obtain ⟨-, rfl⟩ := setup_inv hs; exact still (by simp) rfl rfl rfl
  | xapp x a =>
    obtain ⟨p, hp, ht⟩ := xapp_inv hs
    by_cases hy : y = x
    · subst hy
      obtain ⟨ap, hk⟩ := (orderly_of_run h y).kept
      have hself : t.xapps y = p := by rw [ht]; exact Function.update_self ..
      have hpend : t.unanswered = s.unanswered := by rw [ht]; rfl
      intro n
      have hold := hi y n
      rcases Process.subscriptions_of_step hk hp with ⟨hui, hsub, hun'⟩ | ⟨hun', ⟨hsub, hafter⟩ | ⟨r, hui, hsub, hafter⟩⟩
      · -- A call is made: the xApp asks for what it will have.
        have hnil' : pending cfg t y ≠ [] := by
          obtain ⟨r, hr⟩ := Option.isSome_iff_exists.mp hun'
          rw [pending, hself, hr]
          exact List.cons_ne_nil _ _
        rw [subscriptionsOf, if_pos (pending_eq_nil hapart h (r := ⟨.control, ⟨0, 0, 0⟩⟩) (.inl hui)), Process.afterCall,
          Calls.afterCall_of_idle (hk.idle hui)] at hold
        rw [subscriptionsOf, if_neg hnil', htab (by simp), hself, hsub]
        exact hold
      · refine (hi y).move (htab (by simp) _) ?_ (by rw [hself, hsub]) (by rw [hself, hafter]) n
        rw [pending, pending, hself, hun', hpend]
      · -- The call returns, and its node has taken the request long ago.
        have hnil := pending_eq_nil hapart h (.inr hui)
        have hnil' : pending cfg t y = [] := by
          rw [pending, hself, hun', hpend]
          exact hnil
        rw [subscriptionsOf, if_pos hnil] at hold
        rw [subscriptionsOf, if_pos hnil', htab (by simp), hself, hafter]
        exact hold
    · exact still (by simp) rfl rfl (by rw [ht]; exact other hy)
  | xappSend x =>
    have hopen := (open_of_step hapart (fun _ _ => id) h hg hs).1
    obtain ⟨p, msg, hp, ht⟩ := xappSend_inv hs
    obtain ⟨ap, hk⟩ := (orderly_of_run h x).kept
    obtain ⟨xappId, c, r, ui, hid, hc, hr, hu, hu', rfl, rfl, -⟩ := hk.send hp
    have hsent : sentAsk cfg s (.xappSend x) = [(cfg.addr x, r)] := by
      rw [sentAsk, hr]
      rfl
    rw [hsent] at hopen
    have hun' := addressed_perm (k := cfg.addr y) hopen
    by_cases hy : y = x
    · subst hy
      have hself : t.xapps y = { s.xapps y with ui } := by rw [ht]; exact Function.update_self ..
      rw [List.singleton_append, addressed_cons_self] at hun'
      refine (hi y).move (htab (by simp) _) ?_ (by rw [hself]; rfl) (by rw [hself]; rfl)
      rw [pending, pending, hself, hu, show (Process.ui { s.xapps y with ui }).unsent? = none from hu']
      exact hun'
    · have hself : t.xapps y = s.xapps y := by rw [ht]; exact other hy
      rw [List.singleton_append, addressed_cons_ne fun he => hy (hapart.injective he).symm] at hun'
      refine (hi y).move (htab (by simp) _) ?_ (by rw [hself]) (by rw [hself])
      rw [pending, pending, hself]
      exact hun'.append_left _
  | xappReceive x i =>
    obtain ⟨info, msg, p, -, -, hp, ht⟩ := xappReceive_inv hs
    by_cases hy : y = x
    · subst hy
      have hself : t.xapps y = p := by rw [ht]; exact Function.update_self ..
      obtain ⟨hui, hsub, hafter⟩ := Process.subscriptions_of_handle hp
      refine (hi y).move (htab (by simp) _) ?_ (by rw [hself, hsub]) (by rw [hself, hafter])
      rw [pending, pending, hself, hui]
      exact (addressed_perm (hun rfl rfl)).append_left _
    · exact still (by simp) rfl rfl (by rw [ht]; exact other hy)
  | iappReceive i => obtain ⟨_, _, _, -, -, rfl⟩ := iappReceive_inv hs; exact still (by simp) rfl rfl rfl
  | ric a =>
    obtain ⟨_, -, ⟨_, _, -, -, rfl⟩ | ⟨_, _, _, _, -, -, -, -, rfl⟩ | ⟨-, rfl⟩⟩ := ric_inv hs <;>
      exact still (by simp) rfl rfl rfl
  | agent n a => obtain ⟨_, -, rfl⟩ := agent_inv hs; exact still (by simp) rfl rfl rfl
  | agentAperiodic n data => obtain ⟨_, _, -, rfl⟩ := agentAperiodic_inv hs; exact still (by simp) rfl rfl rfl
  | agentPeriodic n fd data => obtain ⟨_, _, -, rfl⟩ := agentPeriodic_inv hs; exact still (by simp) rfl rfl rfl
  | agentReceive n i k => exact agrees_of_agentReceive hapart h hg hs hi y

theorem agrees_of_run (hapart : Apart cfg) (h : (network κ cfg).Run IdLeft as s) (x : ι) : Agrees cfg s x :=
  h.invariant_trace (I := fun _ s => ∀ x, Agrees cfg s x) (fun _ => agrees_init) (fun _ _ _ _ hr hi hg hs y =>
    agrees_of_step hapart hr hi hg hs y) x

/-- What the tables of the agents are to the xApps. -/
structure SubscriptionLaw (cfg : Config ι ρ) (s : Network ι κ ρ) : Prop where
  /-- For an xApp that makes no call, the agents have the subscriptions that it has, each at its node. -/
  idle : ∀ x, (s.xapps x).ui = .idle → ∀ n, (tableFor s (cfg.addr x) n).Perm (subsAt (s.xapps x).subscriptions n)
  /-- During a call, they have those, or already those that the call leaves. -/
  call : ∀ x, (∀ n, (tableFor s (cfg.addr x) n).Perm (subsAt (s.xapps x).subscriptions n)) ∨
    ∀ n, (tableFor s (cfg.addr x) n).Perm (subsAt (s.xapps x).afterCall n)
  /-- Every subscription of an agent is one of an xApp, at its node. -/
  owned : ∀ n, ∀ id ∈ (s.agents n).table, ∃ x i, s.ric.owner id = some i ∧ i.info = cfg.addr x ∧
    i.req.e2NodeId = n ∧ i.req.ricId ∈ tableFor s (cfg.addr x) n

/-- In every run in which the identifiers last, the xApps and the agents agree on the subscriptions. -/
theorem subscriptionLaw_of_run (hapart : Apart cfg) (h : (network κ cfg).Run IdLeft as s) : SubscriptionLaw cfg s where
  idle x hui n := by
    obtain ⟨ap, hk⟩ := (orderly_of_run h x).kept
    have hold := agrees_of_run hapart h x n
    rw [subscriptionsOf, if_pos (pending_eq_nil hapart h (r := ⟨.control, ⟨0, 0, 0⟩⟩) (.inl hui)), Process.afterCall,
      Calls.afterCall_of_idle (hk.idle hui)] at hold
    exact hold
  call x := by
    have hold := agrees_of_run hapart h x
    unfold Agrees subscriptionsOf at hold
    split at hold
    · exact .inr hold
    · exact .inl hold
  owned n id hid := by
    obtain ⟨e, he, rfl⟩ := List.mem_map.mp hid
    obtain ⟨i, hi, hid', hn⟩ := (sentByAgents_of_run (fun _ _ => id) h).known n _ ⟨_, .right he⟩
    obtain ⟨x, -, hx, -⟩ := made_of_issued hapart h hi
    have howner := (owner_iff (fun _ _ => id) h).mpr ⟨hi, hid'.symm⟩
    refine ⟨x, i, howner, hx, hn, mem_addressed.mpr (List.mem_filterMap.mpr ⟨_, hid, ?_⟩)⟩
    rw [howner, ← hx]
    rfl

end Steps

/-- The agent has a subscription of each of two xApps. -/
theorem subscriptionLaw_of_run_two : ∃ s, (network Unit twoXapps).Run IdLeft bothServed s ∧ (s.agents gnb).table.length = 2 ∧
    SubscriptionLaw twoXapps s := by
  obtain ⟨s, hr, -, -, htable⟩ := bothServed_run
  exact ⟨s, hr, htable, subscriptionLaw_of_run twoXapps_apart hr⟩

end FlexRic.Net.Network
