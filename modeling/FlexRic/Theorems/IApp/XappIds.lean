import FlexRic.Theorems.Ric.RequestIds

/-! # The identifiers of xApps

The identifiers come from a counter that starts at 7. A request is accepted when its identifier is not
above the counter, which lets through identifiers that no xApp was given: those below 7, and the next one. -/

namespace FlexRic.Ric
open Ds E2ap Ep IApp

/-- The identifiers that were given when the counter is at `n`: from 7 on, and after 65535 from 0 on. -/
def Assigned (n x : Nat) : Prop := (7 ≤ x ∧ x < n ∧ x < 65536) ∨ x + 65536 < n

instance (n x : Nat) : Decidable (Assigned n x) := inferInstanceAs (Decidable (_ ∨ _))

/-- The next identifier is given, or it was given before and the counter has come around. -/
theorem assigned_succ {n x : Nat} (h : 7 ≤ n) (hn : ¬Assigned n (n % 65536)) :
    n ≤ 65542 ∧ (Assigned (n + 1) x ↔ x = n % 65536 ∨ Assigned n x) := by
  unfold Assigned at *
  omega

namespace Routing

/-! ### Which xApps are registered -/

/-- What every reachable state keeps of the counter and the map of the xApps. -/
def XappIds (s : Routing) : Prop :=
  match s.loop with
  | .registering xappId _ => ∃ n, s.iapp.xappId = n + 1 ∧ xappId = n % 65536 ∧ 7 ≤ n ∧ n ≤ 65543 ∧
      ∀ x, Registered s.iapp.xapps x ↔ Assigned n x
  | _ => 7 ≤ s.iapp.xappId ∧ s.iapp.xappId ≤ 65543 ∧ ∀ x, Registered s.iapp.xapps x ↔ Assigned s.iapp.xappId x

section XappIds
variable {cfg : Config} {s t : Routing} {a : Act}

theorem XappIds.of_idle (h : s.XappIds) (hl : s.loop = .idle) :
    7 ≤ s.iapp.xappId ∧ s.iapp.xappId ≤ 65543 ∧ ∀ x, Registered s.iapp.xapps x ↔ Assigned s.iapp.xappId x := by
  simpa only [XappIds, hl] using h

theorem xappIds_init : init.XappIds := by
  refine ⟨by decide, by decide, fun x => ⟨fun ⟨_, h⟩ => (nomatch h), fun h => ?_⟩⟩
  unfold Assigned at h
  simp only [init] at h
  omega

theorem XappIds.step (h : s.XappIds) (hs : step cfg s a = .next t) : t.XappIds := by
  cases a with
  | e42Setup n info =>
    obtain ⟨hl, rfl⟩ := e42Setup_inv hs
    obtain ⟨h7, hle, hreg⟩ := h.of_idle hl
    exact ⟨s.iapp.xappId, Nat.mod_eq_of_lt (by omega), rfl, h7, hle, hreg⟩
  | register =>
    obtain ⟨x, info, xapps, hl, hx, rfl⟩ := register_inv hs
    obtain ⟨hn, rfl⟩ := addMapXappsSad_eq_ok.mp hx
    simp only [XappIds, hl] at h
    obtain ⟨n, hc, rfl, h7, -, hreg⟩ := h
    rw [hreg] at hn
    have hsucc := fun y => assigned_succ (x := y) h7 hn
    refine ⟨by simp only [hc]; omega, by have := (hsucc 0).1; simp only [hc]; omega, fun y => ?_⟩
    simp only [hc]
    rw [registered_insert, hreg, (hsucc y).2]
  | e42Request req info =>
    obtain ⟨hl, -, rfl⟩ := e42Request_inv hs
    exact h.of_idle hl
  | e42Delete req =>
    obtain ⟨hl, n, -, rfl⟩ := e42Delete_inv hs
    exact h.of_idle hl
  | takeId =>
    obtain ⟨_, _, hl, rfl⟩ := takeId_inv hs
    simpa only [XappIds, hl] using h
  | createTimer fd =>
    obtain ⟨_, _, hl, -, -, rfl⟩ := createTimer_inv hs
    simpa only [XappIds, hl] using h
  | arm =>
    obtain ⟨_, _, _, hl, rfl⟩ := arm_inv hs
    simpa only [XappIds, hl] using h
  | send =>
    obtain ⟨_, entry, hl, rfl⟩ := send_inv hs
    simp only [XappIds, hl] at h
    cases entry <;> exact h
  | record =>
    obtain ⟨_, _, hl, -, rfl⟩ := record_inv hs
    simpa only [XappIds, hl] using h
  | nodeAnswer | nodeIndicate | take | rmFd | lookup | forward | epoll | pendEvent =>
    obtain ⟨hl, hi, -⟩ := frame_of_step hs rfl
    simpa only [XappIds, hl, hi] using h

theorem xappIds_of_run {as : List Act} (h : (routing cfg).Run System.Any as s) : s.XappIds :=
  h.invariant (I := XappIds) xappIds_init fun _ _ _ hi _ hs => hi.step hs

end XappIds

/-! ### Requests of registered xApps -/

/-- The xApp that the request names has an address, related to the one the request came from. -/
def Backed (R : SctpInfo → SctpInfo → Prop) (m : MapXapps) (req : E42Request) (info : SctpInfo) : Prop :=
  ∃ info', (req.xappId, info') ∈ m.toList ∧ R info' info

/-- Every request that was accepted is backed. -/
structure AllBacked (R : SctpInfo → SctpInfo → Prop) (s : Routing) : Prop where
  loop : ∀ req info, s.loop = .stamping req info → Backed R s.iapp.xapps req info
  issued : ∀ i ∈ s.issued, Backed R s.iapp.xapps i.req i.info

section Backed
variable {R : SctpInfo → SctpInfo → Prop} {cfg : Config} {s t : Routing} {a : Act} {as : List Act}

theorem Backed.registered {m : MapXapps} {req : E42Request} {info : SctpInfo} (h : Backed R m req info) :
    Registered m req.xappId := h.imp fun _ => And.left

theorem AllBacked.step (h : s.AllBacked R)
    (hb : ∀ req info, a = .e42Request req info → Backed R s.iapp.xapps req info)
    (hs : step cfg s a = .next t) : t.AllBacked R := by
  -- Another step of the loop, which does not touch the map.
  have move : t.iapp.xapps = s.iapp.xapps → t.issued = s.issued → (∀ req info, t.loop ≠ .stamping req info) →
      t.AllBacked R := fun hx hi hl => ⟨fun req info he => absurd he (hl req info), by rw [hx, hi]; exact h.issued⟩
  cases a with
  | e42Setup n info => obtain ⟨-, rfl⟩ := e42Setup_inv hs; exact move rfl rfl fun _ _ he => by cases he
  | register =>
    obtain ⟨x, info, xapps, hl, hx, rfl⟩ := register_inv hs
    obtain ⟨-, rfl⟩ := addMapXappsSad_eq_ok.mp hx
    refine ⟨fun _ _ he => (by cases he), fun i hi => ?_⟩
    obtain ⟨info', hm, hr⟩ := h.issued i hi
    exact ⟨info', (AssocRbTree.toList_insert _ _ _).mem_iff.mpr (List.mem_cons_of_mem _ hm), hr⟩
  | e42Request req info =>
    obtain ⟨-, -, rfl⟩ := e42Request_inv hs
    refine ⟨fun req' info' he => ?_, h.issued⟩
    obtain ⟨rfl, rfl⟩ := IappPc.stamping.inj he
    exact hb _ _ rfl
  | e42Delete req => obtain ⟨-, _, -, rfl⟩ := e42Delete_inv hs; exact move rfl rfl fun _ _ he => by cases he
  | takeId =>
    obtain ⟨req, info, hl, rfl⟩ := takeId_inv hs
    refine ⟨fun _ _ he => (by cases he), fun i hi => ?_⟩
    rcases List.mem_cons.mp hi with rfl | hi
    · exact h.loop _ _ hl
    · exact h.issued i hi
  | createTimer fd => obtain ⟨_, _, -, -, -, rfl⟩ := createTimer_inv hs; exact move rfl rfl fun _ _ he => by cases he
  | arm => obtain ⟨_, _, _, -, rfl⟩ := arm_inv hs; exact move rfl rfl fun _ _ he => by cases he
  | send => obtain ⟨_, entry, -, rfl⟩ := send_inv hs; cases entry <;> exact move rfl rfl fun _ _ he => by cases he
  | record => obtain ⟨_, _, -, -, rfl⟩ := record_inv hs; exact move rfl rfl fun _ _ he => by cases he
  | nodeAnswer | nodeIndicate | take | rmFd | lookup | forward | epoll | pendEvent =>
    obtain ⟨hl, hi, his⟩ := frame_of_step hs rfl
    exact ⟨by rw [hl, hi]; exact h.loop, by rw [his, hi]; exact h.issued⟩

/-- Runs whose requests are backed when they are accepted. -/
theorem allBacked_of_run {G : Routing → Act → Prop}
    (hG : ∀ s req info, (routing cfg).Reachable System.Any s → s.loop = .idle → G s (.e42Request req info) →
      Backed R s.iapp.xapps req info)
    (h : (routing cfg).Run G as s) : s.AllBacked R := by
  have hinit : AllBacked R init := ⟨fun _ _ he => (by cases he), nofun⟩
  refine h.invariant_trace (I := fun _ s => s.AllBacked R) hinit fun as s a t hr ih hg hs => ih.step ?_ hs
  rintro req info rfl
  exact hG s req info ⟨as, hr.mono fun _ _ _ => trivial⟩ (e42Request_inv hs).1 hg

/-- A message of a worker, when the requests are backed, is for a registered xApp. -/
theorem AllBacked.forward (h : s.AllBacked R) (hi : s.Ids) {j : Nat} {m : NodeMsg} {x : XappRicId}
    (hj : s.workers[j]? = some (.forwarding m x)) : Registered s.iapp.xapps x.xappId := by
  obtain ⟨i, his, -, rfl⟩ := hi.found m x (List.mem_of_getElem? hj)
  exact (h.issued i his).registered

end Backed

/-! ### Accepted requests -/

/-- Every request that is accepted names an identifier that was given to an xApp. -/
def RequestsAssigned (s : Routing) (a : Act) : Prop :=
  ∀ req info, a = .e42Request req info → Assigned s.iapp.xappId req.xappId

section Accepted
variable {cfg : Config}

/-- A request that is accepted names a registered xApp exactly when its identifier is one that was given;
and as long as all accepted requests name such identifiers, no message is forwarded to an xApp without an
address. -/
theorem accepted_registered_iff (cfg : Config) :
    (∀ s req info t, (routing cfg).Reachable System.Any s → step cfg s (.e42Request req info) = .next t →
      (Registered s.iapp.xapps req.xappId ↔ Assigned s.iapp.xappId req.xappId)) ∧
    ∀ s j msg, (routing cfg).Reachable RequestsAssigned s → step cfg s (.forward j) ≠ .abort msg := by
  refine ⟨fun s req info t ⟨as, hr⟩ hs => ?_, fun s j msg ⟨as, hr⟩ hs => ?_⟩
  · exact ((xappIds_of_run hr).of_idle (e42Request_inv hs).1).2.2 req.xappId
  · have hb : s.AllBacked fun _ _ => True := allBacked_of_run (fun s req info ⟨as, hr⟩ hl hg => by
      obtain ⟨info', hm⟩ := (((xappIds_of_run hr).of_idle hl).2.2 req.xappId).mpr (hg req info rfl)
      exact ⟨info', hm, trivial⟩) hr
    have hi := ids_of_run (hr.mono fun _ _ _ => trivial)
    cases hj : s.workers[j]? with
    | none => simp [step, hj] at hs
    | some w =>
      cases w with
      | stopping | looking => simp [step, hj] at hs
      | forwarding m x =>
        obtain ⟨info, -, hok⟩ := forward_next cfg hj (hb.forward hi hj)
        simp [hok] at hs

/-- The first xApp is registered under 7, and its request is accepted. -/
theorem accepted_registered_iff_first : ∃ s : Routing, (routing oneNode).Reachable System.Any s ∧
    (∃ t, step oneNode s (.e42Request (controlGnb 7 1 (by decide)) (localHost 4000)) = .next t) ∧
    Registered s.iapp.xapps 7 := by
  have h : ((routing oneNode).exec System.Any init [.e42Setup 1 (localHost 4000), .register]).passes (fun s =>
      s.iapp.xappId = 8 ∧ (step oneNode s (.e42Request (controlGnb 7 1 (by decide)) (localHost 4000))).passes
        fun _ => true) = true := by
    decide +kernel
  obtain ⟨s, hr, hs⟩ := System.exists_run_of_exec h
  obtain ⟨hid, hp⟩ := of_decide_eq_true hs
  obtain ⟨t, ht, -⟩ := Outcome.passes_eq_true.mp hp
  exact ⟨s, ⟨_, hr⟩, ⟨t, ht⟩,
    ((accepted_registered_iff oneNode).1 s _ _ t ⟨_, hr⟩ ht).mpr (by rw [hid]; decide)⟩

/-- Before any xApp is set up, a request with the identifier 7 is accepted; the acknowledge of the node has
nowhere to go. -/
theorem request_before_setup : ∃ s t : Routing,
    step oneNode init (.e42Request (controlGnb 7 1 (by decide)) (localHost 4000)) = .next s ∧
    ¬Registered init.iapp.xapps 7 ∧ (routing oneNode).Reachable System.Any t ∧
    t.workers = [.forwarding (.controlAcknowledge ⟨⟨1021, 0, 2⟩, none, none⟩) ⟨⟨1, 0, 2⟩, 7⟩] ∧
    step oneNode t (.forward 0) = .abort "xApp ID not found in the tree" := by
  have h₁ : (step oneNode init (.e42Request (controlGnb 7 1 (by decide)) (localHost 4000))).passes
      (fun _ => true) = true := by decide +kernel
  have h₂ : ((routing oneNode).exec System.Any init (passOn (controlGnb 7 1 (by decide)) (localHost 4000) 5 ++
      [.nodeAnswer 0 (.controlAcknowledge ⟨⟨1021, 0, 2⟩, none, none⟩), .take 0, .rmFd 0, .lookup 0])).passes (fun t =>
      t.workers = [.forwarding (.controlAcknowledge ⟨⟨1021, 0, 2⟩, none, none⟩) ⟨⟨1, 0, 2⟩, 7⟩] ∧
      (step oneNode t (.forward 0)).abort? = some "xApp ID not found in the tree") = true := by
    decide +kernel
  obtain ⟨s, hs, -⟩ := Outcome.passes_eq_true.mp h₁
  obtain ⟨t, hr, ht⟩ := System.exists_run_of_exec h₂
  obtain ⟨hw, ha⟩ := of_decide_eq_true ht
  exact ⟨s, t, hs, fun ⟨_, hn⟩ => (nomatch hn), ⟨_, hr⟩, hw, Outcome.abort?_eq_some.mp ha⟩

end Accepted

end Routing

end FlexRic.Ric
