import FlexRic.Theorems.MsgHand.RegE2Nodes
import FlexRic.Theorems.XApp.PendingEvents
import FlexRic.Theorems.IApp.Maps
import FlexRic.XApp.Registration

/-! # One identifier for an xApp

The iApp handles a setup request that was sent again as it does a new one: it gives another identifier, registers
the address once more and sends another response, which the xApp does not expect. An xApp and the iApp agree as
long as no request is handled from an address that is registered. -/

namespace FlexRic.XApp
open Ds E2ap Ep IApp MsgHand

namespace Registration

/-- The entries of the map with the address. -/
def entriesAt (m : MapXapps) (p : Peer) : List (Nat × SctpInfo) := m.toList.filter fun e => e.2.peer = p

/-- The entries of `ep.xapps` with the address. -/
def boundTo (s : Registration) (p : Peer) : List (Nat × SctpInfo) := entriesAt s.xapps p

/-- An address has one identifier at most, an xApp that is connected has its own, and every response is handled
without an assertion that fails. -/
structure RegistrationLaw (s : Registration) : Prop where
  one : ∀ p, (s.boundTo p).length ≤ 1
  agree : ∀ p, (s.xapp p).nodes.connected = true → ∃ info, s.boundTo p = [((s.xapp p).id, info)]
  responses : ∀ p msg, s.step (.read p) ≠ .abort msg

/-- The iApp handles a request only from an address that is not registered. -/
def Once (s : Registration) : Act → Prop
  | .handle info => s.boundTo info.peer = []
  | _ => True

instance (s : Registration) : ∀ a, Decidable (s.Once a)
  | .handle info => inferInstanceAs (Decidable (s.boundTo info.peer = []))
  | .start .. | .expire .. | .read _ | .addNode .. | .rmNode _ => .isTrue trivial

/-! ### What a run keeps -/

/-- Nodes that an xApp can register, one after the other. -/
structure Registrable (nodes : List E2NodeConnected) : Prop where
  nodup : (nodes.map Prod.fst).Nodup
  ranFunctions : ∀ n ∈ nodes, n.2 ≠ []

/-- The xApp waits for the response to its setup request. -/
structure Waits (x : E42Xapp) : Prop where
  started : x.started = true
  pending : ∃ fd, 0 < fd ∧ x.pending.Holds [(fd, E42Xapp.setupEvent)] ∧ x.timers = [fd]
  notConnected : x.nodes.connected = false
  noNodes : ids x.nodes.e2Nodes = []

/-- How far the registration of the xApp is. -/
inductive Phase (s : Registration) (p : Peer) : Prop
  | idle (started : (s.xapp p).started = false) (notConnected : (s.xapp p).nodes.connected = false)
      (noNodes : ids (s.xapp p).nodes.e2Nodes = []) (pending : (s.xapp p).pending.Holds [])
      (timers : (s.xapp p).timers = []) (requests : s.requests p = []) (bound : s.boundTo p = [])
      (responses : s.responses p = [])
  | waiting (waits : Waits (s.xapp p)) (bound : s.boundTo p = []) (responses : s.responses p = [])
  | answered (xappId : Nat) (info : SctpInfo) (nodes : List E2NodeConnected) (waits : Waits (s.xapp p))
      (registrable : Registrable nodes) (bound : s.boundTo p = [(xappId, info)])
      (responses : s.responses p = [(xappId, nodes)])
  | connected (info : SctpInfo) (started : (s.xapp p).started = true) (isConnected : (s.xapp p).nodes.connected = true)
      (bound : s.boundTo p = [((s.xapp p).id, info)]) (responses : s.responses p = [])

/-- Every xApp is in one of the phases, and the iApp's nodes can be registered by an xApp. -/
structure InPhase (s : Registration) : Prop where
  phase : ∀ p, s.Phase p
  nodes : Registrable s.e2Nodes.toList

section Steps
variable {s t : Registration} {p : Peer} {a : Act} {plugins : Peer → List RanFunction}

theorem registrable_carried {r : RegE2Nodes} (h : Registrable r.toList) :
    Registrable (carried (generateE2NodeArr r)) := by
  have hp := generateE2NodeArr_perm r
  have hsub : (carried (generateE2NodeArr r)).Sublist (generateE2NodeArr r) := List.take_sublist _ _
  exact ⟨((hp.map Prod.fst).nodup_iff.mpr h.nodup).sublist (hsub.map _),
    fun n hn => h.ranFunctions n (hp.mem_iff.mp (hsub.subset hn))⟩

theorem registrable_addRegE2Node {r r' : RegE2Nodes} {id : GlobalE2NodeId} {rf : List RanFunction}
    (h : Registrable r.toList) (ha : addRegE2Node r id rf = .ok r') : Registrable r'.toList := by
  obtain ⟨hrf, hid, rfl⟩ := addRegE2Node_eq_ok.mp ha
  have hp := toList_insert (r := r) id rf
  refine ⟨((hp.map Prod.fst).nodup_iff).mpr (List.nodup_cons.mpr ⟨hid, h.nodup⟩), fun n hn => ?_⟩
  rcases List.mem_cons.mp (hp.mem_iff.mp hn) with rfl | hn
  · exact hrf
  · exact h.ranFunctions n hn

theorem registrable_rmRegE2Node {r r' : RegE2Nodes} {id : GlobalE2NodeId} (h : Registrable r.toList)
    (hr : rmRegE2Node r id = .ok r') : Registrable r'.toList := by
  obtain ⟨rf, hp⟩ := rmRegE2Node_inv hr
  refine ⟨(List.nodup_cons.mp ((hp.map Prod.fst).nodup_iff.mp h.nodup)).2, fun n hn => ?_⟩
  exact h.ranFunctions n (hp.mem_iff.mpr (List.mem_cons_of_mem _ hn))

/-- The response is handled, and the xApp is connected under the identifier it was given. -/
theorem Waits.handleE42SetupResponse {x : E42Xapp} (h : Waits x) {nodes : List E2NodeConnected} (hn : Registrable nodes)
    (xappId : Nat) : ∃ x', x.handleE42SetupResponse xappId nodes = .ok x' ∧ x'.started = true ∧
      x'.nodes.connected = true ∧ x'.id = xappId := by
  obtain ⟨fd, hfd, hholds, ht⟩ := h.pending
  obtain ⟨r', hr⟩ := foldlM_add_isOk (r := x.nodes.e2Nodes) hn.nodup hn.ranFunctions (by simp [h.noNodes])
  obtain ⟨pending, hrm, -⟩ : ∃ p', rmPendingEventEv x.pending { E42Xapp.setupEvent with waitMs := 0 } = .ok (fd, p') ∧
      p'.Holds [] := rmPendingEventEv_holds hholds (by simp) hfd (.refl _) rfl (by simp)
  have hnodes : XApp.handleE42SetupResponse x.nodes nodes = .ok ⟨r', true⟩ := by
    simp [XApp.handleE42SetupResponse, h.notConnected, hr]
  refine ⟨{ x with pending, timers := [], id := xappId, nodes := ⟨r', true⟩ }, ?_, h.started, rfl, rfl⟩
  simp [E42Xapp.handleE42SetupResponse, E42Xapp.rmPendingEventXapp, hnodes, hrm, rmFdAsio, ht]

theorem handleE42SetupRequest_inv {x x' : E42Xapp} {fd : Nat} {req : List RanFunction}
    (h : x.handleE42SetupRequest fd = .ok (x', req)) : 0 < fd ∧
      x' = { x with pending := x.pending.insert fd E42Xapp.setupEvent, timers := fd :: x.timers, started := true } := by
  obtain ⟨r, -, h₁⟩ := Except.bind_eq_ok.mp h
  obtain ⟨x₁, h₂, h₃⟩ := Except.bind_eq_ok.mp h₁
  obtain ⟨rfl, -⟩ := Prod.mk.inj (Except.ok.inj h₃)
  obtain ⟨pending, h₄, h₅⟩ := Except.bind_eq_ok.mp h₂
  obtain rfl := Except.ok.inj h₅
  unfold addPendingEvent at h₄
  split at h₄
  · next hfd =>
    obtain rfl := Except.ok.inj h₄
    exact ⟨hfd, rfl⟩
  · cases h₄

theorem Phase.bound_cases (h : s.Phase p) : s.boundTo p = [] ∨ ∃ e, s.boundTo p = [e] := by
  rcases h with ⟨-, -, -, -, -, -, hb, -⟩ | ⟨-, hb, -⟩ | ⟨_, _, _, -, -, hb, -⟩ | ⟨_, -, -, hb, -⟩
  · exact .inl hb
  · exact .inl hb
  · exact .inr ⟨_, hb⟩
  · exact .inr ⟨_, hb⟩

/-- A phase depends on what concerns the xApp alone. -/
theorem Phase.congr (h : s.Phase p) (hx : t.xapp p = s.xapp p) (hp : (t.boundTo p).Perm (s.boundTo p))
    (hq : t.requests p = s.requests p ∨ (s.xapp p).started = true) (hr : t.responses p = s.responses p) : t.Phase p := by
  have hb : t.boundTo p = s.boundTo p := by
    rcases h.bound_cases with hs | ⟨e, hs⟩
    · rw [hs] at hp ⊢
      exact hp.eq_nil
    · rw [hs] at hp ⊢
      exact List.perm_singleton.mp hp
  cases h with
  | idle h₁ h₂ h₃ h₄ h₅ h₆ h₇ h₈ =>
    rcases hq with hq | hq
    · exact .idle (hx ▸ h₁) (hx ▸ h₂) (hx ▸ h₃) (hx ▸ h₄) (hx ▸ h₅) (hq ▸ h₆) (hb ▸ h₇) (hr ▸ h₈)
    · rw [h₁] at hq
      cases hq
  | waiting h₁ h₂ h₃ => exact .waiting (hx ▸ h₁) (hb ▸ h₂) (hr ▸ h₃)
  | answered xappId info nodes h₁ h₂ h₃ h₄ => exact .answered xappId info nodes (hx ▸ h₁) h₂ (hb ▸ h₃) (hr ▸ h₄)
  | connected info h₁ h₂ h₃ h₄ => exact .connected info (hx ▸ h₁) (hx ▸ h₂) (by rw [hb, hx]; exact h₃) (hr ▸ h₄)

theorem InPhase.start {fd : Nat} (h : s.InPhase) (hs : s.step (.start p fd) = .next t) : t.InPhase := by
  obtain ⟨_, hw, hs⟩ := Outcome.bind_eq_next.mp hs
  obtain ⟨⟨x, req⟩, hx, hs⟩ := Outcome.bind_eq_next.mp hs
  obtain rfl := Outcome.next.inj hs
  obtain ⟨hfd, rfl⟩ := handleE42SetupRequest_inv (Outcome.ofExcept_eq_next.mp hx)
  refine ⟨fun q => ?_, h.nodes⟩
  by_cases hq : q = p
  · subst hq
    have hst : (s.xapp q).started = false := Outcome.await_eq_next.mp hw
    rcases h.phase q with ⟨-, h₂, h₃, h₄, h₅, -, h₇, h₈⟩ | ⟨⟨h₁, -⟩, -⟩ | ⟨_, _, _, ⟨h₁, -⟩, -⟩ | ⟨_, h₁, -⟩
    · refine .waiting ?_ h₇ h₈
      dsimp only
      rw [setPeer_self]
      exact ⟨rfl, ⟨fd, hfd, h₄.insert fd E42Xapp.setupEvent, by rw [h₅]⟩, h₂, h₃⟩
    · simp [hst] at h₁
    · simp [hst] at h₁
    · simp [hst] at h₁
  · exact (h.phase q).congr (setPeer_ne _ _ hq) (.refl _) (.inl (setPeer_ne _ _ hq)) rfl

theorem InPhase.expire {fd : Nat} (h : s.InPhase) (hs : s.step (.expire p fd) = .next t) : t.InPhase := by
  obtain ⟨_, hw, hs⟩ := Outcome.bind_eq_next.mp hs
  obtain ⟨req, -, hs⟩ := Outcome.bind_eq_next.mp hs
  obtain rfl := Outcome.next.inj hs
  refine ⟨fun q => ?_, h.nodes⟩
  by_cases hq : q = p
  · subst hq
    -- Only an xApp that has started has a timer.
    have hst : (s.xapp q).started = true := by
      have hmem : fd ∈ (s.xapp q).timers := Outcome.await_eq_next.mp hw
      rcases h.phase q with ⟨-, -, -, -, h₅, -⟩ | ⟨⟨h₁, -⟩, -⟩ | ⟨_, _, _, ⟨h₁, -⟩, -⟩ | ⟨_, h₁, -⟩
      · simp [h₅] at hmem
      · exact h₁
      · exact h₁
      · exact h₁
    exact (h.phase q).congr rfl (.refl _) (.inr hst) rfl
  · exact (h.phase q).congr rfl (.refl _) (.inl (setPeer_ne _ _ hq)) rfl

theorem entriesAt_insert {m m' : MapXapps} {xappId : Nat} {info : SctpInfo}
    (hx : addMapXappsSad m xappId info = .ok m') :
    (entriesAt m' p).Perm (if info.peer = p then (xappId, info) :: entriesAt m p else entriesAt m p) := by
  obtain ⟨-, rfl⟩ := addMapXappsSad_eq_ok.mp hx
  refine ((m.toList_insert xappId info).filter fun e => e.2.peer = p).trans ?_
  rw [List.filter_cons]
  by_cases hip : info.peer = p <;> simp [hip, entriesAt]

theorem InPhase.handle {info : SctpInfo} (h : s.InPhase) (hg : s.Once (.handle info))
    (hs : s.step (.handle info) = .next t) : t.InPhase := by
  simp only [step] at hs
  split at hs
  · cases hs
  · next req requests hreq =>
    obtain ⟨⟨xappId, nodes⟩, hgen, hs⟩ := Outcome.bind_eq_next.mp hs
    obtain ⟨xapps, hx, hs⟩ := Outcome.bind_eq_next.mp hs
    obtain rfl := Outcome.next.inj hs
    have hgen := Outcome.ofExcept_eq_next.mp hgen
    have hx := Outcome.ofExcept_eq_next.mp hx
    have hnodes : nodes = carried (generateE2NodeArr s.e2Nodes) := by
      unfold generateSetupResponse at hgen
      split at hgen
      · cases hgen
      · exact (Prod.mk.inj (Except.ok.inj hgen)).2.symm
    refine ⟨fun q => ?_, h.nodes⟩
    by_cases hq : q = info.peer
    · subst hq
      have hbound : s.boundTo info.peer = [] := hg
      rcases h.phase info.peer with ⟨-, -, -, -, -, h₆, -⟩ | ⟨hw, -, hr⟩ | ⟨_, _, _, -, -, hb, -⟩ | ⟨_, -, -, hb, -⟩
      · rw [h₆] at hreq
        cases hreq
      · refine .answered xappId info nodes hw (hnodes ▸ registrable_carried h.nodes) ?_ ?_
        · have hp := entriesAt_insert (p := info.peer) hx
          rw [if_pos rfl, show entriesAt s.xapps info.peer = [] from hbound] at hp
          exact List.perm_singleton.mp hp
        · dsimp only
          rw [setPeer_self, hr]
          rfl
      · rw [hbound] at hb
        cases hb
      · rw [hbound] at hb
        cases hb
    · have hb := entriesAt_insert (p := q) hx
      rw [if_neg fun heq => hq heq.symm] at hb
      exact (h.phase q).congr rfl hb (.inl (setPeer_ne _ _ hq)) (setPeer_ne _ _ hq)

theorem InPhase.read (h : s.InPhase) (hs : s.step (.read p) = .next t) : t.InPhase := by
  simp only [step] at hs
  split at hs
  · cases hs
  · next xappId nodes responses hresp =>
    obtain ⟨x, hx, hs⟩ := Outcome.bind_eq_next.mp hs
    obtain rfl := Outcome.next.inj hs
    have hx := Outcome.ofExcept_eq_next.mp hx
    refine ⟨fun q => ?_, h.nodes⟩
    by_cases hq : q = p
    · subst hq
      rcases h.phase q with ⟨-, -, -, -, -, -, -, hr⟩ | ⟨-, -, hr⟩ | ⟨xappId', info, nodes', hw, hn, hb, hr⟩ | ⟨_, -, -, -, hr⟩
      · simp [hr] at hresp
      · simp [hr] at hresp
      · obtain ⟨⟨rfl, rfl⟩, rfl⟩ : (xappId' = xappId ∧ nodes' = nodes) ∧ responses = [] := by simpa [hr] using hresp
        obtain ⟨x', hx', hst, hc, hid⟩ := hw.handleE42SetupResponse hn xappId'
        obtain rfl := Except.ok.inj (hx.symm.trans hx')
        refine .connected info ?_ ?_ ?_ ?_
        · dsimp only
          rwa [setPeer_self]
        · dsimp only
          rwa [setPeer_self]
        · dsimp only
          rw [setPeer_self, hid]
          exact hb
        · dsimp only
          rw [setPeer_self]
      · simp [hr] at hresp
    · exact (h.phase q).congr (setPeer_ne _ _ hq) (.refl _) (.inl rfl) (setPeer_ne _ _ hq)

theorem InPhase.step (h : s.InPhase) (hg : s.Once a) (hs : s.step a = .next t) : t.InPhase := by
  cases a with
  | start p fd => exact h.start hs
  | expire p fd => exact h.expire hs
  | handle info => exact h.handle hg hs
  | read p => exact h.read hs
  | addNode id rf =>
    obtain ⟨r, hr, hs⟩ := Outcome.bind_eq_next.mp hs
    obtain rfl := Outcome.next.inj hs
    exact ⟨fun p => (h.phase p).congr rfl (.refl _) (.inl rfl) rfl,
      registrable_addRegE2Node h.nodes (Outcome.ofExcept_eq_next.mp hr)⟩
  | rmNode id =>
    obtain ⟨r, hr, hs⟩ := Outcome.bind_eq_next.mp hs
    obtain rfl := Outcome.next.inj hs
    exact ⟨fun p => (h.phase p).congr rfl (.refl _) (.inl rfl) rfl,
      registrable_rmRegE2Node h.nodes (Outcome.ofExcept_eq_next.mp hr)⟩

theorem inPhase_init : (init plugins).InPhase where
  phase _ := .idle rfl rfl rfl BiMap.holds_init rfl rfl rfl rfl
  nodes := ⟨List.nodup_nil, fun _ hn => by cases hn⟩

theorem InPhase.law (h : s.InPhase) : s.RegistrationLaw := by
  refine ⟨fun p => ?_, fun p hc => ?_, fun p msg hs => ?_⟩
  · rcases (h.phase p).bound_cases with hb | ⟨e, hb⟩
    · simp [hb]
    · simp [hb]
  · rcases h.phase p with ⟨-, hn, -⟩ | ⟨hw, -⟩ | ⟨_, _, _, hw, -⟩ | ⟨info, -, -, hb, -⟩
    · simp [hn] at hc
    · simp [hw.notConnected] at hc
    · simp [hw.notConnected] at hc
    · exact ⟨info, hb⟩
  · simp only [Registration.step] at hs
    split at hs
    · cases hs
    · next xappId nodes responses hresp =>
      rcases h.phase p with ⟨-, -, -, -, -, -, -, hr⟩ | ⟨-, -, hr⟩ | ⟨xappId', _, nodes', hw, hn, -, hr⟩ | ⟨_, -, -, -, hr⟩
      · simp [hr] at hresp
      · simp [hr] at hresp
      · obtain ⟨⟨rfl, rfl⟩, -⟩ : (xappId' = xappId ∧ nodes' = nodes) ∧ responses = [] := by simpa [hr] using hresp
        obtain ⟨x', hx, -⟩ := hw.handleE42SetupResponse hn xappId'
        rw [hx] at hs
        cases hs
      · simp [hr] at hresp

end Steps

/-! ### Requests that are sent again -/

/-- Every xApp has one plug-in. -/
def onePlugin : Peer → List RanFunction := fun _ => [⟨[], 2, 1, []⟩]

def xappA : SctpInfo := localHost 40000

def xappB : SctpInfo := localHost 40001

/-- Two xApps register; the first has sent its request twice, and the iApp has yet to handle the second one. -/
def registeredOnce : List Act :=
  [.addNode gnb [⟨[], 2, 1, []⟩], .start xappA.peer 8, .start xappB.peer 8, .expire xappA.peer 8, .handle xappB,
    .handle xappA, .read xappA.peer, .read xappB.peer]

/-- The timer of an xApp expires before its request is answered, and the iApp handles both requests. -/
def registeredTwice : List Act :=
  [.start xappA.peer 8, .expire xappA.peer 8, .handle xappA, .handle xappA, .read xappA.peer]

end Registration

end FlexRic.XApp
