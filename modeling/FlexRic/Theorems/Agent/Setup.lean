import FlexRic.Agent.Setup
import FlexRic.Lib.Sequence

/-! # One setup at a time

A shutdown arms a timer whether or not a setup is pending already. The table then holds two entries of one kind,
and the next expiry finds more than the one it counts on. -/

namespace FlexRic.Agent
open Ds E2ap

/-- The setups in the table. -/
def SetupAgent.setupCount (ag : SetupAgent) : Nat := ag.pending.left.toList.countP (·.2 = .setupRequest)

/-- The table has one setup at most after the event; an expiry finds the one entry that it counts on, and a
response leaves no timer armed. -/
def Supervised (ag : SetupAgent) (e : SetupEvent) : Prop :=
  (∀ t, ag.handle e = .ok (t, ()) → t.setupCount ≤ 1) ∧
    match e with
    | .shutdown _ => True
    | .expiry _ => ag.pending.size = 1
    | .response => ∀ t, ag.handle .response = .ok (t, ()) → t.timers = [] ∧ t.setupCount = 0

/-- The association goes down only when no setup is pending. -/
def Settled (ag : SetupAgent) : SetupEvent → Prop
  | .shutdown _ => ag.pending.size = 0
  | _ => True

/-- A new timer has a descriptor that is not in use, and only armed timers expire. -/
def TimersOfKernel (ag : SetupAgent) : SetupEvent → Prop
  | .shutdown fd => 0 < fd ∧ fd ∉ ag.timers
  | .expiry fd => fd ∈ ag.timers
  | .response => True

instance : ∀ ag e, Decidable (Settled ag e)
  | ag, .shutdown _ => inferInstanceAs (Decidable (ag.pending.size = 0))
  | _, .expiry _ | _, .response => .isTrue trivial

instance : ∀ ag e, Decidable (TimersOfKernel ag e)
  | ag, .shutdown fd => inferInstanceAs (Decidable (0 < fd ∧ fd ∉ ag.timers))
  | ag, .expiry fd => inferInstanceAs (Decidable (fd ∈ ag.timers))
  | _, .response => .isTrue trivial

/-- The agent while `es` is still to come: the table has one entry for each armed timer, and there is one at
most. -/
structure Pends (ag : SetupAgent) (es : List SetupEvent) : Prop where
  holds : ag.pending.Holds (ag.timers.map (·, .setupRequest))
  length : ag.timers.length ≤ 1
  pos : ∀ fd ∈ ag.timers, 0 < fd
  kernel : Throughout SetupAgent.handle TimersOfKernel ag es

section Pends
variable {ag t : SetupAgent} {ran : RanSetup} {es : List SetupEvent} {e : SetupEvent} {fd : Nat}

theorem Pends.size_eq (h : Pends ag es) : ag.pending.size = ag.timers.length := by
  rw [h.holds.size_eq, List.length_map]

theorem setupCount_of_holds {timers : List Nat} (h : ag.pending.Holds (timers.map (·, .setupRequest))) :
    ag.setupCount = timers.length := by
  rw [SetupAgent.setupCount, h.left.countP_eq, List.countP_eq_length.mpr]
  · exact List.length_map _
  · intro e he
    obtain ⟨fd, -, rfl⟩ := List.mem_map.mp he
    rfl

theorem holds_addSetupPending (h : ag.pending.Holds (ag.timers.map (·, .setupRequest))) (fd : Nat) :
    (ag.addSetupPending fd).pending.Holds ((ag.addSetupPending fd).timers.map (·, .setupRequest)) :=
  h.insert fd .setupRequest

/-- Sending a setup request leaves the table and the timers alone. -/
theorem sendSetupRequest_inv (h : ag.sendSetupRequest = .ok t) : t.pending = ag.pending ∧ t.timers = ag.timers := by
  unfold SetupAgent.sendSetupRequest at h
  split at h
  · cases h
  · obtain rfl := Except.ok.inj h
    exact ⟨rfl, rfl⟩

theorem handle_expiry_inv (h : ag.handle (.expiry fd) = .ok (t, ())) :
    t.pending = ag.pending ∧ t.timers = ag.timers := by
  simp only [SetupAgent.handle, SetupAgent.handlePendingEvent] at h
  obtain ⟨t', h₁, h₂⟩ := Except.bind_eq_ok.mp h
  obtain ⟨rfl, -⟩ := Prod.mk.inj (Except.ok.inj h₂)
  obtain ⟨ev, -, h₃⟩ := Except.bind_eq_ok.mp h₁
  split at h₃
  · exact sendSetupRequest_inv h₃
  · cases h₃

/-- A response that is handled takes out the one entry there is. -/
theorem Pends.handle_response (h : Pends ag es) (ho : ag.handle .response = .ok (t, ())) :
    t.pending.Holds [] ∧ t.timers = [] := by
  simp only [SetupAgent.handle, SetupAgent.handleSetupResponse, SetupAgent.stopPendingEvent] at ho
  obtain ⟨t₁, h₁, h₂⟩ := Except.bind_eq_ok.mp ho
  obtain ⟨rfl, -⟩ := Prod.mk.inj (Except.ok.inj h₂)
  obtain ⟨t₂, h₃, h₄⟩ := Except.bind_eq_ok.mp h₁
  obtain ⟨⟨fd, pending⟩, hx, h₅⟩ := Except.bind_eq_ok.mp h₃
  have hkeys : BiMap.LeftKeys fdOrder (ag.timers.map fun fd => (fd, PendingEvent.setupRequest)) := by
    obtain ⟨-, hlen, -⟩ := h
    rcases ht : ag.timers with - | ⟨fd, - | ⟨fd', l⟩⟩
    · exact .nil
    · exact List.pairwise_singleton ..
    · simp [ht] at hlen
  rcases h.holds.extractRight_cases hkeys cmpFdOnPendingEvent .setupRequest with ⟨-, he⟩ | ⟨a, b, rest, hp, -, hif⟩
  · rw [hx] at he
    cases he
  · have hb : (a, b) ∈ ag.timers.map fun fd => (fd, PendingEvent.setupRequest) :=
      hp.mem_iff.mpr (List.mem_cons_self ..)
    obtain ⟨fd', hfd, heq⟩ := List.mem_map.mp hb
    obtain ⟨rfl, rfl⟩ := Prod.mk.inj heq
    have hrest : rest = [] := by
      have := hp.length_eq
      have := h.length
      simp only [List.length_map, List.length_cons] at *
      exact List.eq_nil_of_length_eq_zero (by omega)
    subst hrest
    rw [if_pos (by decide)] at hif
    obtain ⟨m', hm, hh⟩ := hif
    obtain ⟨rfl, rfl⟩ := Prod.mk.inj (Except.ok.inj (hm.symm.trans hx))
    dsimp only at h₅
    split at h₅
    · cases h₅
    · obtain ⟨timers, hrm, h₆⟩ := Except.bind_eq_ok.mp h₅
      obtain ⟨hmem, rfl⟩ := Ep.rmFdAsio_eq_ok.mp hrm
      obtain rfl := Except.ok.inj h₆
      split at h₄
      · cases h₄
      · obtain rfl := Except.ok.inj h₄
        have hlen := List.length_erase_of_mem hmem
        have := h.length
        exact ⟨hh, List.eq_nil_of_length_eq_zero (by dsimp only; omega)⟩

theorem Pends.supervised_iff (h : Pends ag (e :: es)) : Supervised ag e ↔ Settled ag e := by
  have hsize := h.size_eq
  have hlen := h.length
  cases e with
  | shutdown fd =>
    have hcount := setupCount_of_holds (holds_addSetupPending h.holds fd)
    have hcons : (ag.addSetupPending fd).timers.length = ag.timers.length + 1 := List.length_cons
    constructor
    · rintro ⟨hs, -⟩
      have := hs _ rfl
      simp only [Settled, SetupAgent.notificationHandle] at this ⊢
      omega
    · intro hz
      refine ⟨fun t ho => ?_, trivial⟩
      obtain ⟨rfl, -⟩ := Prod.mk.inj (Except.ok.inj ho)
      simp only [Settled, SetupAgent.notificationHandle] at hz ⊢
      omega
  | expiry fd =>
    refine ⟨fun _ => trivial, fun _ => ⟨fun t ho => ?_, ?_⟩⟩
    · obtain ⟨hp, ht⟩ := handle_expiry_inv ho
      have hh : t.pending.Holds (t.timers.map (·, .setupRequest)) := by
        rw [hp, ht]
        exact h.holds
      rw [setupCount_of_holds hh, ht]
      exact hlen
    · have hmem : fd ∈ ag.timers := h.kernel.1
      have := List.length_pos_of_mem hmem
      dsimp only
      omega
  | response =>
    have hnone : ∀ t, ag.handle .response = .ok (t, ()) → t.timers = [] ∧ t.setupCount = 0 := by
      intro t ho
      obtain ⟨hh, ht⟩ := h.handle_response ho
      refine ⟨ht, ?_⟩
      rw [SetupAgent.setupCount, hh.left.countP_eq]
      rfl
    exact ⟨fun _ => trivial, fun _ => ⟨fun t ho => (hnone t ho).2.le.trans (Nat.zero_le 1), hnone⟩⟩

theorem Pends.step (h : Pends ag (e :: es)) (hq : Settled ag e) (ho : ag.handle e = .ok (t, ())) : Pends t es := by
  have hk := h.kernel.2 t () ho
  cases e with
  | shutdown fd =>
    obtain ⟨rfl, -⟩ := Prod.mk.inj (Except.ok.inj ho)
    have hz : ag.timers.length = 0 := h.size_eq.symm.trans hq
    refine ⟨holds_addSetupPending h.holds fd, ?_, ?_, hk⟩
    · exact (List.length_cons ..).le.trans (by omega)
    · intro fd' hm
      rcases List.mem_cons.mp hm with rfl | hm
      · exact h.kernel.1.1
      · exact h.pos fd' hm
  | expiry fd =>
    obtain ⟨hp, ht⟩ := handle_expiry_inv ho
    exact ⟨by rw [hp, ht]; exact h.holds, by rw [ht]; exact h.length, by rw [ht]; exact h.pos, hk⟩
  | response =>
    obtain ⟨hh, ht⟩ := h.handle_response ho
    exact ⟨by rw [ht]; exact hh, by simp [ht], by simp [ht], hk⟩

theorem pends_start (hs : SetupAgent.start ran fd = .ok ag) (hfd : 0 < fd)
    (hk : Throughout SetupAgent.handle TimersOfKernel ag es) : Pends ag es := by
  obtain ⟨ag₁, h₁, h₂⟩ := Except.bind_eq_ok.mp hs
  obtain rfl := Except.ok.inj h₂
  obtain ⟨hp, ht⟩ := sendSetupRequest_inv h₁
  have hh : ag₁.pending.Holds (ag₁.timers.map (·, .setupRequest)) := by
    rw [hp, ht]
    exact BiMap.holds_init
  have htimers : (ag₁.addSetupPending fd).timers = [fd] := by
    rw [SetupAgent.addSetupPending, ht]
    rfl
  exact ⟨holds_addSetupPending hh fd, by simp [htimers], by simpa [htimers] using hfd, hk⟩

/-- The setups of an agent are supervised one at a time exactly when its association goes down only while none is
pending. -/
theorem supervised_iff_settled (hs : SetupAgent.start ran fd = .ok ag) (hfd : 0 < fd)
    (hk : Throughout SetupAgent.handle TimersOfKernel ag es) :
    Throughout SetupAgent.handle Supervised ag es ↔ Throughout SetupAgent.handle Settled ag es :=
  throughout_iff (I := Pends) (fun _ _ _ h => h.supervised_iff) (fun _ _ _ _ _ h hq ho => h.step hq ho)
    (pends_start hs hfd hk)

end Pends

/-- A gNB with one RAN function. -/
def gnbSetup : RanSetup := ⟨gnb, [⟨[], 2, 1, []⟩], ⟨.f1, .f1 1⟩⟩

/-- The agent of that gNB once it has sent its setup request. -/
def gnbStarted : SetupAgent :=
  { (SetupAgent.init gnbSetup).addSetupPending 8 with
    transIdSetupReq := 1, sent := [⟨0, gnb, gnbSetup.ranFunctions, [gnbSetup.compConfAdd]⟩] }

theorem gnbStarted_eq : SetupAgent.start gnbSetup 8 = .ok gnbStarted := rfl

/-- The first setup request is sent twice and answered; the association goes down and the setup is made anew. -/
def setupTwice : List SetupEvent := [.expiry 8, .response, .shutdown 9, .expiry 9, .response]

theorem supervised_setupTwice : Throughout SetupAgent.handle Supervised gnbStarted setupTwice :=
  (supervised_iff_settled gnbStarted_eq (by decide) (by decide +kernel)).mpr (by decide +kernel)

/-- The association goes down while the first setup is pending, and the timer of that setup expires. -/
theorem shutdown_while_pending :
    SetupAgent.start gnbSetup 8 = .ok gnbStarted ∧
      Throughout SetupAgent.handle TimersOfKernel gnbStarted [.shutdown 9, .expiry 8] ∧
      failure? SetupAgent.handle gnbStarted [.shutdown 9, .expiry 8] = some "bi_map_size(&ag->pending) == 1" ∧
      ¬Throughout SetupAgent.handle Supervised gnbStarted [.shutdown 9, .expiry 8] := by
  refine ⟨rfl, by decide +kernel, by decide +kernel, ?_⟩
  rintro ⟨⟨h, -⟩, -⟩
  have hcount : (gnbStarted.notificationHandle 9).setupCount = 2 := by decide +kernel
  have hle := h _ rfl
  rw [hcount] at hle
  omega

end FlexRic.Agent
