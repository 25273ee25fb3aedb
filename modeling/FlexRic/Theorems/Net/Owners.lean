import FlexRic.Theorems.Net.Steps
import FlexRic.Theorems.Ric.Routing
import FlexRic.Theorems.XApp.Requests

/-! # Whose request it is

Every request that the iApp takes, or has given an identifier, was sent once by the xApp at the address that it came
from, under the identifier that the iApp has registered for that address. -/

namespace FlexRic.Ric
open Ds E2ap Ep IApp

/-- The request that the loop gives an identifier next. -/
def IappPc.stamping? : IappPc → Option (SctpInfo × E42Request)
  | .stamping req info => some (info, req)
  | _ => none

namespace Routing
variable {cfg : Config} {s t : Routing} {a : Act}

/-- The requests that the iApp has taken, by the address that they came from. -/
def requests (s : Routing) : List (SctpInfo × E42Request) :=
  s.loop.stamping?.toList ++ s.issued.map fun i => (i.info, i.req)

theorem requests_eq (hl : t.loop.stamping? = s.loop.stamping?) (hi : t.issued = s.issued) : t.requests = s.requests := by
  rw [requests, requests, hl, hi]

/-- The steps that neither take nor send a message of an xApp -/
theorem inner_frame (hs : step cfg s a = .next t) (ha : a.inner = true) : t.requests = s.requests ∧
    t.iapp.xapps = s.iapp.xapps ∧ t.forwarded = s.forwarded ∧ ∀ xappId info, t.loop ≠ .registering xappId info ∨
      s.loop = .registering xappId info := by
  have worker : a.ofIapp = false → t.forwarded = s.forwarded → t.requests = s.requests ∧
      t.iapp.xapps = s.iapp.xapps ∧ t.forwarded = s.forwarded ∧ ∀ xappId info, t.loop ≠ .registering xappId info ∨
        s.loop = .registering xappId info := by
    intro ha hf
    obtain ⟨hl, hi, his⟩ := frame_of_step hs ha
    refine ⟨requests_eq (by rw [hl]) his, by rw [hi], hf, fun xappId info => ?_⟩
    rw [hl]
    exact (Classical.em _).symm
  cases a with
  | e42Setup | register | e42Request | e42Delete | nodeAnswer | nodeIndicate | forward => cases ha
  | takeId =>
    obtain ⟨req, info, hl, rfl⟩ := takeId_inv hs
    refine ⟨?_, rfl, rfl, fun _ _ => .inl nofun⟩
    rw [requests, requests, hl]
    rfl
  | createTimer fd =>
    obtain ⟨q, entry, hl, -, -, rfl⟩ := createTimer_inv hs
    exact ⟨requests_eq (by rw [hl]; rfl) rfl, rfl, rfl, fun _ _ => .inl nofun⟩
  | arm =>
    obtain ⟨q, fd, entry, hl, rfl⟩ := arm_inv hs
    exact ⟨requests_eq (by rw [hl]; rfl) rfl, rfl, rfl, fun _ _ => .inl nofun⟩
  | send =>
    obtain ⟨q, entry, hl, rfl⟩ := send_inv hs
    cases entry with
    | none => exact ⟨requests_eq (by rw [hl]; rfl) rfl, rfl, rfl, fun _ _ => .inl nofun⟩
    | some entry => exact ⟨requests_eq (by rw [hl]; rfl) rfl, rfl, rfl, fun _ _ => .inl nofun⟩
  | record =>
    obtain ⟨entry, map, hl, -, rfl⟩ := record_inv hs
    exact ⟨requests_eq (by rw [hl]; rfl) rfl, rfl, rfl, fun _ _ => .inl nofun⟩
  | take i =>
    obtain ⟨_, -, ⟨_, _, _, -, -, rfl⟩ | ⟨-, -, -, rfl⟩⟩ := take_inv hs <;> exact worker rfl rfl
  | rmFd j => obtain ⟨_, _, -, rfl⟩ := rmFd_inv hs; exact worker rfl rfl
  | lookup j => obtain ⟨_, _, -, -, -, -, -, rfl⟩ := lookup_inv hs; exact worker rfl rfl
  | epoll fds => obtain ⟨-, -, rfl⟩ := epoll_inv hs; exact worker rfl rfl
  | pendEvent => obtain ⟨_, _, _, -, -, rfl⟩ := pendEvent_inv hs; exact worker rfl rfl

end Routing

end FlexRic.Ric

namespace FlexRic.Net.Network
open Agent Ds E2ap Ep IApp Ric XApp

variable {ι κ ρ : Type} [DecidableEq ι] {cfg : Config ι ρ} {s t : Network ι κ ρ} {a : Act ι κ}

/-! ### The xApps -/

/-- What the steps of an xApp keep holds of every xApp of the network. -/
theorem xapps_invariant {G : Network ι κ ρ → Act ι κ → Prop} {I : XApp.Process κ ρ → Prop} (h₀ : I .init)
    (hstep : ∀ p a p', I p → p.step cfg.plugins.agIf cfg.enable a = .next p' → I p')
    (hsend : ∀ p p' msg, I p → p.send = .next (p', msg) → I p')
    (hhandle : ∀ p m p', I p → p.handle cfg.plugins cfg.enable m = .next p' → I p') {as : List (Act ι κ)}
    (h : (network κ cfg).Run G as s) (x : ι) : I (s.xapps x) := by
  have key : ∀ {s : Network ι κ ρ} {x p}, (∀ y, I (s.xapps y)) → I p → ∀ y, I (Function.update s.xapps x p y) := by
    intro s x p hi hp y
    rw [Function.update_apply]
    split
    · exact hp
    · exact hi y
  refine h.invariant (I := fun s => ∀ x, I (s.xapps x)) (fun _ => h₀) ?_ x
  intro s a t hi _ (hs : step cfg s a = .next t)
  cases a with
  | setup x n => obtain ⟨-, rfl⟩ := setup_inv hs; exact hi
  | xapp x a => obtain ⟨p, hp, rfl⟩ := xapp_inv hs; exact key hi (hstep _ _ _ (hi x) hp)
  | xappSend x => obtain ⟨p, msg, hp, rfl⟩ := xappSend_inv hs; exact key hi (hsend _ _ _ (hi x) hp)
  | xappReceive x i => obtain ⟨_, m, p, -, -, hp, rfl⟩ := xappReceive_inv hs; exact key hi (hhandle _ _ _ (hi x) hp)
  | iappReceive i => obtain ⟨_, _, _, -, -, rfl⟩ := iappReceive_inv hs; exact hi
  | ric a =>
    obtain ⟨_, -, ⟨_, _, -, -, rfl⟩ | ⟨_, _, _, _, -, -, -, -, rfl⟩ | ⟨-, rfl⟩⟩ := ric_inv hs <;> exact hi
  | agent n a => obtain ⟨_, -, rfl⟩ := agent_inv hs; exact hi
  | agentAperiodic n data => obtain ⟨_, _, -, rfl⟩ := agentAperiodic_inv hs; exact hi
  | agentPeriodic n fd data => obtain ⟨_, _, -, rfl⟩ := agentPeriodic_inv hs; exact hi
  | agentReceive n i k => obtain ⟨_, _, _, -, -, -, rfl⟩ := agentReceive_inv hs; exact hi

theorem orderly_of_run {G : Network ι κ ρ → Act ι κ → Prop} {as : List (Act ι κ)} (h : (network κ cfg).Run G as s)
    (x : ι) : (s.xapps x).Orderly cfg.plugins :=
  xapps_invariant Process.orderly_init (fun _ _ _ hi hs => hi.step hs) (fun _ _ _ hi hs => hi.send hs)
    (fun _ _ _ hi hs => hi.handle hs) h x

/-! ### The addresses -/

/-- What holds of the addresses: those of the xApps are the only ones, and an xApp that is connected is registered. -/
structure Connected (cfg : Config ι ρ) (s : Network ι κ ρ) : Prop where
  senders : ∀ e ∈ s.toIapp, ∃ x, e.1 = cfg.addr x
  registering : ∀ xappId info, s.ric.loop = .registering xappId info → ∃ x, info = cfg.addr x
  registered : ∀ e ∈ s.ric.iapp.xapps.toList, ∃ x, e.2 = cfg.addr x
  responses : ∀ info xappId, (info, .setupResponse xappId) ∈ s.toXapp → (xappId, info) ∈ s.ric.iapp.xapps.toList
  answers : ∀ e ∈ s.toXapp, ∃ x, e.1 = cfg.addr x
  connected : ∀ x xappId, (s.xapps x).id = some xappId → (xappId, cfg.addr x) ∈ s.ric.iapp.xapps.toList

/-- The xApps have addresses that tell them apart. -/
def Apart (cfg : Config ι ρ) : Prop := ∀ x y, (cfg.addr x).SamePeer (cfg.addr y) → x = y

omit [DecidableEq ι] in
theorem Apart.injective (h : Apart cfg) {x y : ι} (he : cfg.addr x = cfg.addr y) : x = y :=
  h x y (he ▸ ⟨rfl, rfl, rfl⟩)

/-- Two xApps at one RIC, with the MAC service model -/
def twoXapps : Config (Fin 2) SmAgIfRdInd where
  ric := ⟨[gnb], [142]⟩
  addr x := localHost (4000 + x)
  plugins := ⟨⟨id, fun _ => .ok ()⟩, fun _ _ => .ok .macStatsV0⟩
  enable := false
  agent _ := ⟨loadPluginAg .init ⟨142, false⟩, [3, 4], fun b => (b, [⟨0, .report, none, none⟩])⟩

theorem twoXapps_apart : Apart twoXapps := by
  rintro x y ⟨hport, -, -⟩
  exact Fin.ext (Nat.add_left_cancel hport)

omit [DecidableEq ι] in
theorem connected_init : Connected cfg (init cfg : Network ι κ ρ) := ⟨nofun, nofun, nofun, nofun, nofun, nofun⟩

/-- The identifiers of the xApps after a step of one of them that keeps its own -/
theorem id_update {x : ι} {p : XApp.Process κ ρ} (hp : p.id = (s.xapps x).id) (y : ι) :
    (Function.update s.xapps x p y).id = (s.xapps y).id := by
  rw [Function.update_apply]
  split
  · next h => rw [h, hp]
  · rfl

theorem Connected.step (h : Connected cfg s) (hapart : Apart cfg) (ho : ∀ x, (s.xapps x).Orderly cfg.plugins)
    (hs : step cfg s a = .next t) : Connected cfg t := by
  cases a with
  | setup x n =>
    obtain ⟨-, rfl⟩ := setup_inv hs
    refine ⟨fun e he => ?_, h.registering, h.registered, h.responses, h.answers, h.connected⟩
    rcases List.mem_append.mp he with he | he
    · exact h.senders e he
    · exact ⟨x, by rw [List.mem_singleton.mp he]⟩
  | xapp x a =>
    obtain ⟨p, hp, rfl⟩ := xapp_inv hs
    have hid := Process.step_cases hp
    exact ⟨h.senders, h.registering, h.registered, h.responses, h.answers, fun y xappId hy =>
      h.connected y xappId (id_update hid.1 y ▸ hy)⟩
  | xappSend x =>
    obtain ⟨p, msg, hp, rfl⟩ := xappSend_inv hs
    refine ⟨fun e he => ?_, h.registering, h.registered, h.responses, h.answers, fun y xappId hy =>
      h.connected y xappId (id_update ((ho x).send_id hp) y ▸ hy)⟩
    rcases List.mem_append.mp he with he | he
    · exact h.senders e he
    · exact ⟨x, by rw [List.mem_singleton.mp he]⟩
  | xappReceive x i =>
    obtain ⟨info, msg, p, hi, hpeer, hp, rfl⟩ := xappReceive_inv hs
    refine ⟨h.senders, h.registering, h.registered, fun info xappId hm => h.responses _ _ (List.mem_of_mem_eraseIdx hm),
      fun e he => h.answers e (List.mem_of_mem_eraseIdx he), fun y xappId hy => ?_⟩
    dsimp only at hy
    rw [Function.update_apply] at hy
    split at hy
    · next hyx =>
      subst hyx
      obtain ⟨-, -, ⟨m', a, u, -, -, hu, rfl⟩ | ⟨m', data, rd, d, -, -, -, -, rfl⟩ | ⟨id, rfl, -, rfl⟩⟩ :=
        Process.handle_inv hp
      · obtain ⟨_, _, -, -, -, hid, -⟩ := Process.handleAnswer_inv hu
        exact h.connected y xappId (hid ▸ hy)
      · exact h.connected y xappId hy
      · obtain rfl := Option.some.inj hy
        have hreg := h.responses _ _ (List.mem_of_getElem? hi)
        obtain ⟨z, hz⟩ := h.registered _ hreg
        dsimp only at hz
        obtain rfl := hapart z y (hz ▸ hpeer)
        exact hz ▸ hreg
    · exact h.connected y xappId hy
  | iappReceive i =>
    obtain ⟨info, msg, ric, hi, hr, rfl⟩ := iappReceive_inv hs
    have hsend : ∀ e ∈ s.toIapp.eraseIdx i, ∃ x, e.1 = cfg.addr x := fun e he =>
      h.senders e (List.mem_of_mem_eraseIdx he)
    cases msg with
    | setupRequest n =>
      obtain ⟨-, rfl⟩ := Routing.e42Setup_inv hr
      refine ⟨hsend, fun xappId info' hl => ?_, h.registered, h.responses, h.answers, h.connected⟩
      obtain ⟨-, rfl⟩ := IappPc.registering.inj hl
      exact h.senders _ (List.mem_of_getElem? hi)
    | request req =>
      obtain ⟨-, -, rfl⟩ := Routing.e42Request_inv hr
      exact ⟨hsend, nofun, h.registered, h.responses, h.answers, h.connected⟩
    | deleteRequest req =>
      obtain ⟨-, _, -, rfl⟩ := Routing.e42Delete_inv hr
      exact ⟨hsend, nofun, h.registered, h.responses, h.answers, h.connected⟩
  | ric a =>
    obtain ⟨ric, hr, ⟨xappId, info, rfl, hl, rfl⟩ | ⟨_, m, xr, info, rfl, -, hinfo, rfl, rfl⟩ | ⟨hin, rfl⟩⟩ := ric_inv hs
    · obtain ⟨xappId', info', xapps, hl', hx, rfl⟩ := Routing.register_inv hr
      obtain ⟨rfl, rfl⟩ := IappPc.registering.inj (hl.symm.trans hl')
      obtain ⟨-, rfl⟩ := addMapXappsSad_eq_ok.mp hx
      have hmem : ∀ e, e ∈ (s.ric.iapp.xapps.insert xappId info).toList ↔ e = (xappId, info) ∨ e ∈ s.ric.iapp.xapps.toList :=
        fun e => (AssocRbTree.toList_insert _ _ _).mem_iff.trans List.mem_cons
      refine ⟨h.senders, nofun, fun e he => ?_, fun info' xappId' hm => ?_, fun e he => ?_, fun x xappId' hid =>
        (hmem _).mpr (.inr (h.connected x xappId' hid))⟩
      · rcases (hmem e).mp he with rfl | he
        · exact h.registering _ _ hl
        · exact h.registered e he
      · refine (hmem _).mpr ?_
        rcases List.mem_append.mp hm with hm | hm
        · exact .inr (h.responses _ _ hm)
        · obtain ⟨rfl, he⟩ := Prod.mk.inj (List.mem_singleton.mp hm)
          exact .inl (by rw [XappMsg.setupResponse.inj he])
      · rcases List.mem_append.mp he with he | he
        · exact h.answers e he
        · obtain ⟨x, hx⟩ := h.registering _ _ hl
          exact ⟨x, by rw [List.mem_singleton.mp he, hx]⟩
    · refine ⟨h.senders, h.registering, h.registered, fun info' xappId' hm => ?_, fun e he => ?_, h.connected⟩
      · rcases List.mem_append.mp hm with hm | hm
        · exact h.responses _ _ hm
        · cases List.mem_singleton.mp hm
      · rcases List.mem_append.mp he with he | he
        · exact h.answers e he
        · rcases findMapXappsSad_cases s.ric.iapp.xapps xr.xappId with ⟨-, hn⟩ | ⟨info', hmem, hok⟩
          · cases hn.symm.trans hinfo
          · obtain rfl := Except.ok.inj (hok.symm.trans hinfo)
            rw [List.mem_singleton.mp he]
            exact h.registered _ hmem
    · obtain ⟨-, hx, -, hreg⟩ := Routing.inner_frame hr hin
      refine ⟨h.senders, fun xappId info hl => h.registering xappId info ((hreg xappId info).resolve_left fun hn => hn hl),
        fun e he => ?_, fun info xappId hm => ?_, h.answers, fun x xappId hid => ?_⟩
      · exact h.registered e (by rwa [hx] at he)
      · show _ ∈ ric.iapp.xapps.toList
        rw [hx]
        exact h.responses info xappId hm
      · show _ ∈ ric.iapp.xapps.toList
        rw [hx]
        exact h.connected x xappId hid
  | agent n a =>
    obtain ⟨_, -, rfl⟩ := agent_inv hs
    exact ⟨h.senders, h.registering, h.registered, h.responses, h.answers, h.connected⟩
  | agentAperiodic n data =>
    obtain ⟨_, _, -, rfl⟩ := agentAperiodic_inv hs
    exact ⟨h.senders, h.registering, h.registered, h.responses, h.answers, h.connected⟩
  | agentPeriodic n fd data =>
    obtain ⟨_, _, -, rfl⟩ := agentPeriodic_inv hs
    exact ⟨h.senders, h.registering, h.registered, h.responses, h.answers, h.connected⟩
  | agentReceive n i k =>
    obtain ⟨_, _, _, -, -, -, rfl⟩ := agentReceive_inv hs
    exact ⟨h.senders, h.registering, h.registered, h.responses, h.answers, h.connected⟩

theorem connected_of_run {G : Network ι κ ρ → Act ι κ → Prop} {as : List (Act ι κ)} (h : (network κ cfg).Run G as s)
    (hapart : Apart cfg) : Connected cfg s :=
  h.invariant_trace (I := fun _ s => Connected cfg s) connected_init fun _ _ _ _ hr hc _ hs =>
    hc.step hapart (orderly_of_run hr) hs

/-! ### The requests -/

/-- The requests that are on their way to the iApp, by the address that they come from. -/
def queued (l : List (SctpInfo × E42Msg)) : List (SctpInfo × E42Request) :=
  l.filterMap fun e => e.2.e42Request?.map fun req => (e.1, req)

/-- All requests that were sent, by the address that they came from. -/
def requests (s : Network ι κ ρ) : List (SctpInfo × E42Request) := queued s.toIapp ++ s.ric.requests

/-- The requests with the address of an xApp are those that the xApp has asked for, each once; and what it sends has
the identifier that it was given. -/
structure Owned (cfg : Config ι ρ) (s : Network ι κ ρ) : Prop where
  asked : ∀ x, ((addressed (cfg.addr x) s.requests).map askOf).Perm (s.xapps x).asked
  sender : ∀ e ∈ s.requests, ∃ x, e.1 = cfg.addr x ∧ (s.xapps x).id = some e.2.xappId
  deletes : ∀ info req, (info, .deleteRequest req) ∈ s.toIapp →
    ∃ x, info = cfg.addr x ∧ (s.xapps x).id = some req.xappId

omit [DecidableEq ι] in
theorem owned_init : Owned cfg (init cfg : Network ι κ ρ) := ⟨fun _ => .refl _, nofun, nofun⟩

omit [DecidableEq ι] in
/-- A step that sends no request -/
theorem Owned.move (h : Owned cfg s) (hr : t.requests.Perm s.requests) (hx : ∀ x, (t.xapps x).asked = (s.xapps x).asked)
    (hid : ∀ x xappId, (s.xapps x).id = some xappId → (t.xapps x).id = some xappId)
    (hd : ∀ info req, (info, .deleteRequest req) ∈ t.toIapp → (info, .deleteRequest req) ∈ s.toIapp) : Owned cfg t where
  asked x := hx x ▸ ((addressed_perm hr).map askOf).trans (h.asked x)
  sender e he := by
    obtain ⟨x, hx, hs⟩ := h.sender e (hr.mem_iff.mp he)
    exact ⟨x, hx, hid x _ hs⟩
  deletes info req hm := by
    obtain ⟨x, hx, hs⟩ := h.deletes info req (hd info req hm)
    exact ⟨x, hx, hid x _ hs⟩

theorem queued_append (l l' : List (SctpInfo × E42Msg)) : queued (l ++ l') = queued l ++ queued l' := List.filterMap_append

theorem queued_perm {l : List (SctpInfo × E42Msg)} {info : SctpInfo} {msg : E42Msg} {i : Nat} (h : l[i]? = some (info, msg)) :
    (queued l).Perm ((msg.e42Request?.map fun req => (info, req)).toList ++ queued (l.eraseIdx i)) := by
  refine ((perm_eraseIdx h).filterMap _).trans ?_
  cases msg <;> exact .refl _

/-- A property of the xApps after a step of one of them -/
theorem xapps_update {α : Type} (f : XApp.Process κ ρ → α) {x : ι} {p : XApp.Process κ ρ} (hp : f p = f (s.xapps x)) (y : ι) :
    f (Function.update s.xapps x p y) = f (s.xapps y) := by
  rw [Function.update_apply]
  split
  · next h => rw [h, hp]
  · rfl

theorem Owned.send (h : Owned cfg s) (hapart : Apart cfg) (ho : ∀ x, (s.xapps x).Orderly cfg.plugins) {x : ι}
    (hs : step cfg s (.xappSend x) = .next t) : Owned cfg t := by
  obtain ⟨p, msg, hp, rfl⟩ := xappSend_inv hs
  obtain ⟨ap, hk⟩ := (ho x).kept
  obtain ⟨xappId, ui, hid, rfl, -, hmsg⟩ := Process.send_inv (ho x).registers hk hp
  have hids : ∀ y, (Function.update s.xapps x { s.xapps x with ui } y).id = (s.xapps y).id := xapps_update Process.id rfl
  rcases hmsg with ⟨req, rfl, rfl, hask⟩ | ⟨req, rfl, rfl, hask⟩
  · have hreq : requests { s with
        xapps := Function.update s.xapps x { s.xapps x with ui }, toIapp := s.toIapp ++ [(cfg.addr x, .request req)] } =
        queued s.toIapp ++ (cfg.addr x, req) :: s.ric.requests := by
      rw [requests, queued_append, List.append_assoc]
      rfl
    have hperm : (queued s.toIapp ++ (cfg.addr x, req) :: s.ric.requests).Perm ((cfg.addr x, req) :: s.requests) :=
      List.perm_middle
    rw [← hreq] at hperm
    refine ⟨fun y => ?_, fun e he => ?_, fun info req' hm => ?_⟩
    · refine ((addressed_perm hperm).map askOf).trans ?_
      by_cases hy : y = x
      · subst hy
        rw [addressed_cons_self]
        show _
        dsimp only
        rw [Function.update_self, hask]
        exact (h.asked y).cons _
      · rw [addressed_cons_ne fun he => hy (hapart.injective he).symm]
        dsimp only
        rw [Function.update_of_ne hy]
        exact h.asked y
    · rcases List.mem_cons.mp (hperm.mem_iff.mp he) with rfl | he
      · exact ⟨x, rfl, (hids x).trans hid⟩
      · obtain ⟨y, hy, hs⟩ := h.sender e he
        exact ⟨y, hy, (hids y).trans hs⟩
    · rcases List.mem_append.mp hm with hm | hm
      · obtain ⟨y, hy, hs⟩ := h.deletes info req' hm
        exact ⟨y, hy, (hids y).trans hs⟩
      · cases List.mem_singleton.mp hm
  · have hreq : requests { s with
        xapps := Function.update s.xapps x { s.xapps x with ui }, toIapp := s.toIapp ++ [(cfg.addr x, .deleteRequest req)] } =
        s.requests := by
      rw [requests, queued_append, requests]
      congr 1
      exact List.append_nil _
    refine ⟨fun y => ?_, fun e he => ?_, fun info req' hm => ?_⟩
    · rw [hreq]
      exact xapps_update (s := s) Process.asked hask y ▸ h.asked y
    · obtain ⟨y, hy, hs⟩ := h.sender e (hreq ▸ he)
      exact ⟨y, hy, (hids y).trans hs⟩
    · rcases List.mem_append.mp hm with hm | hm
      · obtain ⟨y, hy, hs⟩ := h.deletes info req' hm
        exact ⟨y, hy, (hids y).trans hs⟩
      · obtain ⟨rfl, he⟩ := Prod.mk.inj (List.mem_singleton.mp hm)
        obtain rfl := E42Msg.deleteRequest.inj he
        exact ⟨x, rfl, (hids x).trans hid⟩

theorem Owned.step (h : Owned cfg s) (hapart : Apart cfg) (ho : ∀ x, (s.xapps x).Orderly cfg.plugins)
    (hs : step cfg s a = .next t) : Owned cfg t := by
  cases a with
  | setup x n =>
    obtain ⟨-, rfl⟩ := setup_inv hs
    refine h.move ?_ (fun _ => rfl) (fun _ _ hid => hid) fun info req hm => ?_
    · rw [requests, requests, queued_append]
      exact .of_eq (congrArg (· ++ s.ric.requests) (List.append_nil _))
    · rcases List.mem_append.mp hm with hm | hm
      · exact hm
      · cases List.mem_singleton.mp hm
  | xapp x a =>
    obtain ⟨p, hp, rfl⟩ := xapp_inv hs
    obtain ⟨ap, hk⟩ := (ho x).kept
    exact h.move (.refl _) (xapps_update Process.asked (Process.asked_of_step hk hp))
      (fun y xappId hid => (xapps_update (s := s) Process.id (Process.step_cases hp).1 y).trans hid) fun _ _ hm => hm
  | xappSend x => exact h.send hapart ho hs
  | xappReceive x i =>
    obtain ⟨info, msg, p, hi, hpeer, hp, rfl⟩ := xappReceive_inv hs
    refine h.move (.refl _) (xapps_update Process.asked (Process.asked_of_handle hp)) (fun y xappId hid => ?_) fun _ _ hm => hm
    dsimp only
    rw [Function.update_apply]
    split
    · next hyx => exact (Process.handle_frame hp).2.2 _ (hyx ▸ hid)
    · exact hid
  | iappReceive i =>
    obtain ⟨info, msg, ric, hi, hr, rfl⟩ := iappReceive_inv hs
    refine h.move ?_ (fun _ => rfl) (fun _ _ hid => hid) fun _ _ hm => List.mem_of_mem_eraseIdx hm
    -- The request of the message, if it has one, is with the loop now.
    have hric : (s.ric.loop = .idle ∧ ric.issued = s.ric.issued) ∧
        ric.loop.stamping? = msg.e42Request?.map fun req => (info, req) := by
      cases msg with
      | setupRequest n =>
        obtain ⟨hl, rfl⟩ := Routing.e42Setup_inv hr
        exact ⟨⟨hl, rfl⟩, rfl⟩
      | request req =>
        obtain ⟨hl, -, rfl⟩ := Routing.e42Request_inv hr
        exact ⟨⟨hl, rfl⟩, rfl⟩
      | deleteRequest req =>
        obtain ⟨hl, _, -, rfl⟩ := Routing.e42Delete_inv hr
        exact ⟨⟨hl, rfl⟩, rfl⟩
    obtain ⟨⟨hl, his⟩, hst⟩ := hric
    rw [requests, requests, Routing.requests, Routing.requests, his, hst, hl]
    refine .trans ?_ ((queued_perm hi).append_right _).symm
    rw [List.append_assoc]
    exact List.perm_append_comm_assoc ..
  | ric a =>
    obtain ⟨ric, hr, ⟨xappId, info, rfl, hl, rfl⟩ | ⟨_, _, _, _, rfl, -, -, rfl, rfl⟩ | ⟨hin, rfl⟩⟩ := ric_inv hs
    · obtain ⟨xappId', info', xapps, hl', hx, rfl⟩ := Routing.register_inv hr
      refine h.move (.of_eq ?_) (fun _ => rfl) (fun _ _ hid => hid) fun _ _ hm => hm
      rw [requests, requests, Routing.requests, Routing.requests, hl']
      rfl
    · exact h.move (.refl _) (fun _ => rfl) (fun _ _ hid => hid) fun _ _ hm => hm
    · obtain ⟨hreq, -⟩ := Routing.inner_frame hr hin
      refine h.move (.of_eq ?_) (fun _ => rfl) (fun _ _ hid => hid) fun _ _ hm => hm
      rw [requests, requests, hreq]
  | agent n a =>
    obtain ⟨_, -, rfl⟩ := agent_inv hs
    exact h.move (.refl _) (fun _ => rfl) (fun _ _ hid => hid) fun _ _ hm => hm
  | agentAperiodic n data =>
    obtain ⟨_, _, -, rfl⟩ := agentAperiodic_inv hs
    exact h.move (.refl _) (fun _ => rfl) (fun _ _ hid => hid) fun _ _ hm => hm
  | agentPeriodic n fd data =>
    obtain ⟨_, _, -, rfl⟩ := agentPeriodic_inv hs
    exact h.move (.refl _) (fun _ => rfl) (fun _ _ hid => hid) fun _ _ hm => hm
  | agentReceive n i k =>
    obtain ⟨_, _, _, -, -, -, rfl⟩ := agentReceive_inv hs
    exact h.move (.refl _) (fun _ => rfl) (fun _ _ hid => hid) fun _ _ hm => hm

section Runs
variable {G : Network ι κ ρ → Act ι κ → Prop} {as : List (Act ι κ)}

theorem owned_of_run (h : (network κ cfg).Run G as s) (hapart : Apart cfg) : Owned cfg s :=
  h.invariant_trace (I := fun _ s => Owned cfg s) owned_init fun _ _ _ _ hr hc _ hs =>
    hc.step hapart (orderly_of_run hr) hs

/-- The requests come from the xApps that they name: the RIC of the network follows `Routing` under that guard. -/
theorem follows_fromOwner (hapart : Apart cfg) (G : Network ι κ ρ → Act ι κ → Prop) :
    System.Follows (network κ cfg) G (routing cfg.ric) Routing.FromOwner fun s r => r = s.ric := by
  refine System.follows_part Network.ric rfl fun _ s a t hr _ _ hs => ?_
  refine ((known_of_run hr).step hs).2.imp_right fun ⟨b, hb, hreq⟩ => ⟨b, fun req info he => ?_, hb⟩
  obtain ⟨x, hx, hid⟩ := (owned_of_run hr hapart).sender (info, req)
    (List.mem_append_left _ (List.mem_filterMap.mpr ⟨_, hreq req info he, rfl⟩))
  dsimp only at hx hid
  exact ⟨cfg.addr x, (connected_of_run hr hapart).connected x _ hid, hx ▸ ⟨rfl, rfl, rfl⟩⟩

/-- For two xApps -/
theorem follows_fromOwner_two : System.Follows (network Unit twoXapps) System.Any (routing twoXapps.ric) Routing.FromOwner
    fun s r => r = s.ric :=
  follows_fromOwner twoXapps_apart System.Any

end Runs

end FlexRic.Net.Network
