import FlexRic.Comparators

/-! # Which comparisons order their keys

All comparisons but two are strict total orders of all keys. `cmp_correlation_ev` puts two keys of one
request number both before and after each other, and `cmp_pending_event` makes no difference between two
events of the xApp that its equality tells apart. -/

namespace FlexRic
open E2ap Ep IApp Comparator

/-! ### The equalities are those of the keys -/

theorem eqRicGenId_iff {a b : RicGenId} : eqRicGenId a b ↔ a = b := by
  cases a
  cases b
  simp [eqRicGenId, and_assoc]

theorem eqXappRicGenId_iff {a b : XappRicId} : eqXappRicGenId a b ↔ a = b := by
  obtain ⟨x, i⟩ := a
  obtain ⟨y, j⟩ := b
  by_cases h : i = j
  · simp [eqXappRicGenId, eqRicGenId_iff, h]
  · simp [eqXappRicGenId, h]

theorem eqPendingEventRic_iff {a b : Ric.PendingEventRic} : eqPendingEventRic a b ↔ a = b := by
  cases a
  cases b
  simp [eqPendingEventRic, eqRicGenId_iff]

theorem eqE2apPlmn_iff {a b : E2apPlmn} : eqE2apPlmn a b ↔ a = b := by
  cases a
  cases b
  simp only [eqE2apPlmn, E2apPlmn.mk.injEq]
  grind

theorem eqE2apGnbId_iff {a b : GlobalE2NodeId} : eqE2apGnbId a b ↔ a.nbId = b.nbId ∧ a.unused = b.unused := by
  unfold eqE2apGnbId
  grind

theorem eqGlobalE2NodeId_iff {a b : GlobalE2NodeId} : eqGlobalE2NodeId a b ↔ a = b := by
  obtain ⟨t, p, n, u, c, hc⟩ := a
  obtain ⟨t', p', n', u', c', hc'⟩ := b
  simp only [eqGlobalE2NodeId, ← Bool.not_eq_true, eqE2apPlmn_iff, eqE2apGnbId_iff, GlobalE2NodeId.mk.injEq]
  by_cases ht : t = t'
  · subst ht
    cases hk : t.hasCuDuId with
    | true =>
      obtain ⟨x, rfl⟩ := Option.isSome_iff_exists.mp (hc.trans hk)
      obtain ⟨y, rfl⟩ := Option.isSome_iff_exists.mp (hc'.trans hk)
      simp only [Option.getD_some, Option.some.injEq]
      grind
    | false =>
      obtain rfl := Option.isSome_eq_false_iff.mp (hc.trans hk) |> Option.isNone_iff_eq_none.mp
      obtain rfl := Option.isSome_eq_false_iff.mp (hc'.trans hk) |> Option.isNone_iff_eq_none.mp
      grind
  · simp [ht]

/-! ### The comparators behind the comparisons -/

theorem cmpSctpInfoWrapper_eq (a b : Option SctpInfo) : cmpSctpInfoWrapper a b = (option sctpInfoOrder).cmp a b := by
  cases a <;> cases b <;> rfl

theorem same_e2NodeRicReq {a b : E2NodeRicReq} : e2NodeRicReqOrder.Same a b ↔ a.ricReqId = b.ricReqId := by
  simp [e2NodeRicReqOrder]

theorem same_uint16 {a b : Nat} : uint16Order.Same a b ↔ a = b := by
  simp [uint16Order]

/-! ### On which keys each comparison is an order -/

namespace Installed

/-- What a comparison needs of the keys of a container: that the correlation events of one request number
are the same event, and that the xApp waits for one request of a kind only. -/
def Tells : (i : Installed) → Set i.Key → Prop
  | correlationEv, S => ∀ a ∈ S, ∀ b ∈ S, a.ricId.ricReqId = b.ricId.ricReqId → a = b
  | pendingEventXapp, S => ∀ a ∈ S, ∀ b ∈ S, a.ev = b.ev → a.id = b.id
  | _, _ => True

theorem correlationEv_strictOn {S : Set CorrelationEvent} :
    StrictOn (cmp correlationEv) (eq correlationEv) S ↔ Tells correlationEv S := by
  refine ⟨fun h a ha b hb hr => ?_, fun h => ?_⟩
  · by_contra hne
    have hid : a.ricId ≠ b.ricId := fun he => hne (by cases a; cases b; simpa using he)
    have hab : cmpCorrelationEv a b = -1 := by simp [cmpCorrelationEv, hr, hid]
    have hba : cmpCorrelationEv b a = -1 := by simp [cmpCorrelationEv, hr, hid.symm]
    have hsymm : cmpCorrelationEv b a = -cmpCorrelationEv a b := h.symm a ha b hb
    omega
  · -- On such keys the comparison is that of the request numbers.
    have horder : StrictOn (by_ fun ev : CorrelationEvent => ev.ricId.ricReqId).cmp (eq correlationEv) S := by
      refine (by_ _).strictOn fun a ha b hb => ?_
      rw [same_by]
      refine ⟨fun hr => ?_, fun he => ?_⟩
      · obtain rfl := h a ha b hb hr
        exact eqRicGenId_iff.mpr rfl
      · rw [eqRicGenId_iff.mp he]
    refine horder.congr fun a ha b hb => ?_
    have hid : a.ricId.ricReqId = b.ricId.ricReqId ↔ a.ricId = b.ricId :=
      ⟨fun hr => by rw [h a ha b hb hr], fun he => by rw [he]⟩
    simp only [cmp, cmpCorrelationEv, by_cmp]
    grind

theorem pendingEventXapp_strictOn {S : Set XApp.PendingEventXapp} :
    StrictOn (cmp pendingEventXapp) (eq pendingEventXapp) S ↔ Tells pendingEventXapp S := by
  have hsame : ∀ a b : XApp.PendingEventXapp, XApp.pendingEventXappOrder.Same a b ↔ a.ev = b.ev :=
    fun a b => same_pendingEvent
  refine ⟨fun h a ha b hb hev => ?_, fun h => ?_⟩
  · have heq : XApp.eqPendingEventXapp a b := (h.zero a ha b hb).mp ((hsame a b).mpr hev)
    simp only [XApp.eqPendingEventXapp, Bool.and_eq_true, decide_eq_true_eq] at heq
    exact heq.2
  · refine XApp.pendingEventXappOrder.strictOn fun a ha b hb => ?_
    rw [hsame, eq, XApp.eqPendingEventXapp, Bool.and_eq_true, decide_eq_true_eq, decide_eq_true_eq]
    exact ⟨fun hev => ⟨hev, h a ha b hb hev⟩, And.left⟩

/-- **A comparison that a container is given is a strict total order of a set of keys, with the equality
used on them, if and only if it tells these keys apart**; all but two do so for every set of keys. -/
theorem strictOn_iff (i : Installed) (S : Set i.Key) : StrictOn i.cmp i.eq S ↔ i.Tells S := by
  cases i with
  | correlationEv => exact correlationEv_strictOn
  | pendingEventXapp => exact pendingEventXapp_strictOn
  | ranFuncId =>
    exact iff_true_intro (ranFuncIdOrder.strictOn fun a _ b _ => same_ranFuncId.trans decide_eq_true_iff.symm)
  | fd => exact iff_true_intro (fdOrder.strictOn fun a _ b _ => same_fd.trans decide_eq_true_iff.symm)
  | ricGenId => exact iff_true_intro (ricGenIdOrder.strictOn fun a _ b _ => same_ricGenId.trans eqRicGenId_iff.symm)
  | pendingEvent =>
    exact iff_true_intro (pendingEventOrder.strictOn fun a _ b _ => same_pendingEvent.trans decide_eq_true_iff.symm)
  | pendingEventRic =>
    exact iff_true_intro
      (Ric.pendingEventRicOrder.strictOn fun a _ b _ => Ric.same_pendingEventRic.trans eqPendingEventRic_iff.symm)
  | indEvent =>
    exact iff_true_intro
      (Agent.indEventOrder.strictOn fun a _ b _ => Agent.same_indEvent.trans eqRicGenId_iff.symm)
  | globalE2NodeId =>
    exact iff_true_intro
      (globalE2NodeIdOrder.strictOn fun a _ b _ => same_globalE2NodeId.trans eqGlobalE2NodeId_iff.symm)
  | sctpInfo =>
    refine iff_true_intro (((option sctpInfoOrder).strictOn fun a _ b _ => ?_).congr fun a _ b _ =>
      cmpSctpInfoWrapper_eq a b)
    rw [eq, eqSctpInfoWrapper, cmpSctpInfoWrapper_eq, beq_iff_eq, Comparator.same_iff]
  | xappRicGenId =>
    exact iff_true_intro (xappRicIdOrder.strictOn fun a _ b _ => same_xappRicId.trans eqXappRicGenId_iff.symm)
  | e2NodeRicReq =>
    exact iff_true_intro (e2NodeRicReqOrder.strictOn fun a _ b _ => same_e2NodeRicReq.trans decide_eq_true_iff.symm)
  | uint16 => exact iff_true_intro (uint16Order.strictOn fun a _ b _ => same_uint16.trans decide_eq_true_iff.symm)

/-- Two correlation events of request 1 with different instances come after each other, in both orders. -/
theorem correlationEv_not_antisymm : ¬∀ (i : Installed) (S : Set i.Key), StrictOn i.cmp i.eq S := by
  intro h
  have hsymm := (h correlationEv Set.univ).symm ⟨⟨1, 0, 0⟩⟩ trivial ⟨⟨1, 1, 0⟩⟩ trivial
  exact absurd hsymm (by decide)

end Installed

end FlexRic
