import FlexRic.Sm.Tc.Eq

/-! # What copies and comparisons of traffic control indications lose

The comparison never answers no: it asserts what it does not find, and some members it does not look at. Those are the
members that a copy loses. -/

namespace FlexRic.Sm.Tc
open Plain

/-! ### Messages that agree on all but real-valued members -/

section Agreement

def TcMtr.Agrees (m0 m1 : TcMtr) : Prop := m0.timeWindowMs = m1.timeWindowMs

structure TcPcr.Agrees (m0 m1 : TcPcr) : Prop where
  type : m0.type = m1.type
  id : m0.id = m1.id
  mtr : m0.mtr.Agrees m1.mtr

structure TcShp.Agrees (m0 m1 : TcShp) : Prop where
  id : m0.id = m1.id
  active : m0.active = m1.active
  maxRateKbps : m0.maxRateKbps = m1.maxRateKbps
  mtr : m0.mtr.Agrees m1.mtr

structure TcPlc.Agrees (m0 m1 : TcPlc) : Prop where
  id : m0.id = m1.id
  mtr : m0.mtr.Agrees m1.mtr
  drp : m0.drp = m1.drp
  mrk : m0.mrk = m1.mrk
  active : m0.active = m1.active
  dstId : m0.dstId = m1.dstId
  devId : m0.devId = m1.devId

structure TcQueueCounters.Agrees {δ : Type} (m0 m1 : TcQueueCounters δ) : Prop where
  bytes : m0.bytes = m1.bytes
  pkts : m0.pkts = m1.pkts
  bytesFwd : m0.bytesFwd = m1.bytesFwd
  pktsFwd : m0.pktsFwd = m1.pktsFwd
  drpOrMrk : m0.drpOrMrk = m1.drpOrMrk
  lastSojournTime : m0.lastSojournTime = m1.lastSojournTime

def TcQueueU.Agrees : TcQueueU → TcQueueU → Prop
  | fifo m0, fifo m1 => TcQueueCounters.Agrees m0 m1
  | codel m0, codel m1 => TcQueueCounters.Agrees m0 m1
  | ecn m0, ecn m1 => TcQueueCounters.Agrees m0 m1
  | _, _ => False

/-- A shaper, a policer and a queue -/
structure ShpPlcQAgree (m0 m1 : TcShp × TcPlc × TcQueue) : Prop where
  shp : m0.1.Agrees m1.1
  plc : m0.2.1.Agrees m1.2.1
  id : m0.2.2.id = m1.2.2.id
  u : m0.2.2.u.Agrees m1.2.2.u

structure TcIndMsg.Agrees (m0 m1 : TcIndMsg) : Prop where
  sch : m0.sch = m1.sch
  pcr : m0.pcr.Agrees m1.pcr
  cls : m0.cls = m1.cls
  queues : List.Forall₂ ShpPlcQAgree m0.queues.items m1.queues.items
  tstamp : m0.tstamp = m1.tstamp

end Agreement

/-! ### Real-valued members that are close -/

section Closeness

def TcMtr.Close (m0 m1 : TcMtr) : Prop := Float4.eqFloat m0.bnd m1.bnd rateEps = .ok true

def TcQueueU.avgSojournTime : TcQueueU → Float4
  | fifo m => TcQueueCounters.avgSojournTime m
  | codel m => TcQueueCounters.avgSojournTime m
  | ecn m => TcQueueCounters.avgSojournTime m

structure ShpPlcQClose (m0 m1 : TcShp × TcPlc × TcQueue) : Prop where
  shp : m0.1.mtr.Close m1.1.mtr
  plc : m0.2.1.mtr.Close m1.2.1.mtr
  maxRateKbps : Float4.eqFloat m0.2.1.maxRateKbps m1.2.1.maxRateKbps rateEps = .ok true
  avgSojournTime : Float4.eqFloat m0.2.2.u.avgSojournTime m1.2.2.u.avgSojournTime sojournEps = .ok true

/-- All numbers are close to each other, as far as `eq_float` can say. -/
def TcIndMsg.Close (m0 m1 : TcIndMsg) : Prop :=
  m0.pcr.mtr.Close m1.pcr.mtr ∧ List.Forall₂ ShpPlcQClose m0.queues.items m1.queues.items

end Closeness

/-! ### Comparisons of members that agree -/

section Comparison

theorem eqTcMtr_eq_true {m0 m1 : TcMtr} : eqTcMtr m0 m1 = .ok true ↔ m0.Agrees m1 ∧ m0.Close m1 := by
  rw [eqTcMtr, both_eq_true, same_eq_true]
  exact Iff.rfl

theorem eqTcSch_self (m : TcSch) : eqTcSch m m = .ok true := by
  cases m with
  | rr dummy => rfl
  | prio qPrio => simp [eqTcSch, eqTcSchPrio, eqArray_self]

theorem eqTcClsOsiFilter_self (m : TcClsOsiFilter) : eqTcClsOsiFilter m m = .ok true := by
  simp [eqTcClsOsiFilter, eqL3Filter, eqL4Filter]

theorem eqTcCls_self (m : TcCls) : eqTcCls m m = .ok true := by
  cases m with
  | osi flt => simp [eqTcCls, eqTcClsOsi, eqArray_self, eqTcClsOsiFilter_self]
  | _ => simp [eqTcCls]

theorem TcPcr.Agrees.eq_iff {m0 m1 : TcPcr} (h : m0.Agrees m1) : eqTcPcr m0 m1 = .ok true ↔ m0.mtr.Close m1.mtr := by
  rw [eqTcPcr, both_eq_true, both_eq_true, same_eq_true, same_eq_true, eqTcMtr_eq_true]
  exact ⟨fun ⟨_, _, _, hclose⟩ => hclose, fun hclose => ⟨h.type, h.id, h.mtr, hclose⟩⟩

theorem TcShp.Agrees.eq_iff {m0 m1 : TcShp} (h : m0.Agrees m1) : eqTcShp m0 m1 = .ok true ↔ m0.mtr.Close m1.mtr := by
  rw [eqTcShp, both_eq_true, both_eq_true, same_eq_true, same_eq_true, eqTcMtr_eq_true]
  exact ⟨fun ⟨_, _, _, hclose⟩ => hclose, fun hclose => ⟨h.id, h.active, h.mtr, hclose⟩⟩

theorem TcPlc.Agrees.eq_iff {m0 m1 : TcPlc} (h : m0.Agrees m1) :
    eqTcPlc m0 m1 = .ok true ↔
      m0.mtr.Close m1.mtr ∧ Float4.eqFloat m0.maxRateKbps m1.maxRateKbps rateEps = .ok true := by
  simp only [eqTcPlc, eqTcDrp, eqTcMrk, both_eq_true, same_eq_true, eqTcMtr_eq_true, h.id, h.mtr, h.drp, h.mrk,
    h.active, h.dstId, h.devId, true_and, and_true]

theorem TcQueueCounters.Agrees.eq_iff {δ : Type} {eq : δ → δ → Except String Bool} (heq : ∀ d, eq d d = .ok true)
    {m0 m1 : TcQueueCounters δ} (h : m0.Agrees m1) :
    eqTcQueueCounters eq m0 m1 = .ok true ↔
      Float4.eqFloat m0.avgSojournTime m1.avgSojournTime sojournEps = .ok true := by
  simp only [eqTcQueueCounters, both_eq_true, same_eq_true, h.drpOrMrk, heq, h.bytes, h.pkts, h.bytesFwd, h.pktsFwd,
    true_and, and_true]

theorem TcQueueU.Agrees.eq_iff {m0 m1 : TcQueue} (h : m0.u.Agrees m1.u) :
    eqTcQ m0 m1 = .ok true ↔ Float4.eqFloat m0.u.avgSojournTime m1.u.avgSojournTime sojournEps = .ok true := by
  have hdrp (d : TcDrp) : eqTcDrp d d = .ok true := same_eq_true.mpr rfl
  have hmrk (d : TcMrk) : eqTcMrk d d = .ok true := same_eq_true.mpr rfl
  obtain ⟨_, u0⟩ := m0
  obtain ⟨_, u1⟩ := m1
  cases u0 with
  | fifo m0 =>
    cases u1 with
    | fifo m1 => exact TcQueueCounters.Agrees.eq_iff hdrp h
    | _ => exact h.elim
  | codel m0 =>
    cases u1 with
    | codel m1 => exact TcQueueCounters.Agrees.eq_iff hdrp h
    | _ => exact h.elim
  | ecn m0 =>
    cases u1 with
    | ecn m1 => exact TcQueueCounters.Agrees.eq_iff hmrk h
    | _ => exact h.elim

theorem ShpPlcQAgree.eq_iff {m0 m1 : TcShp × TcPlc × TcQueue} (h : ShpPlcQAgree m0 m1) :
    eqTcShpPlcQ m0 m1 = .ok true ↔ ShpPlcQClose m0 m1 := by
  simp only [eqTcShpPlcQ, both_eq_true, orAssert_eq_true, h.shp.eq_iff, h.plc.eq_iff, h.u.eq_iff]
  constructor
  · rintro ⟨hshp, ⟨hplc, hrate⟩, havg⟩
    exact ⟨hshp, hplc, hrate, havg⟩
  · intro hclose
    exact ⟨hclose.shp, ⟨hclose.plc, hclose.maxRateKbps⟩, hclose.avgSojournTime⟩

theorem forall₂_eqTcShpPlcQ {as bs : List (TcShp × TcPlc × TcQueue)} (h : List.Forall₂ ShpPlcQAgree as bs) :
    List.Forall₂ (fun a b => eqTcShpPlcQ a b = .ok true) as bs ↔ List.Forall₂ ShpPlcQClose as bs := by
  induction h with
  | nil => simp
  | cons hab _ ih => rw [List.forall₂_cons, List.forall₂_cons, ih, hab.eq_iff]

theorem TcIndMsg.Agrees.eq_iff {a b : TcIndMsg} (h : a.Agrees b) : eqTcIndMsg a b = .ok true ↔ a.Close b := by
  have hlen : a.queues.items.length = b.queues.items.length := h.queues.length_eq
  simp only [eqTcIndMsg, both_eq_true, orAssert_eq_true, same_eq_true, h.tstamp, h.sch, h.cls, eqTcSch_self,
    eqTcCls_self, h.pcr.eq_iff, Counted.len_eq_iff, hlen, true_and]
  rw [eqArray_eq_true hlen, forall₂_eqTcShpPlcQ h.queues]
  exact Iff.rfl

theorem eqTcIndMsg_ne_false {a b : TcIndMsg} : eqTcIndMsg a b ≠ .ok false :=
  both_ne_false orAssert_ne_false (both_ne_false orAssert_ne_false (both_ne_false orAssert_ne_false
    (both_ne_false orAssert_ne_false (both_ne_false orAssert_ne_false (eqArray_ne_false fun _ _ =>
      both_ne_false orAssert_ne_false (both_ne_false orAssert_ne_false orAssert_ne_false))))))

theorem eqTcIndMsg_says_iff {a b : TcIndMsg} : Says (eqTcIndMsg a b) (a.Agrees b) ↔ a.Agrees b ∧ a.Close b := by
  rw [says_iff_of_ne_false eqTcIndMsg_ne_false]
  exact and_congr_right fun h => h.eq_iff

end Comparison

/-! ### Copies -/

def TcQueueU.lastSojournTime : TcQueueU → Int64
  | fifo m => TcQueueCounters.lastSojournTime m
  | codel m => TcQueueCounters.lastSojournTime m
  | ecn m => TcQueueCounters.lastSojournTime m

/-- A shaper, a policer and a queue without anything that their copy loses -/
structure ShpPlcQCopied (e : TcShp × TcPlc × TcQueue) : Prop where
  shpActive : e.1.active = 0 ∨ e.1.active = 1
  plcActive : e.2.1.active = 0 ∨ e.2.1.active = 1
  maxRateKbps : e.1.maxRateKbps = 0
  id : e.2.2.id = 0
  lastSojournTime : e.2.2.u.lastSojournTime = 0

/-- No real-valued member is `NaN`. -/
structure ShpPlcQNumbers (e : TcShp × TcPlc × TcQueue) : Prop where
  shp : e.1.mtr.bnd.isNaN = false
  plc : e.2.1.mtr.bnd.isNaN = false
  maxRateKbps : e.2.1.maxRateKbps.isNaN = false
  avgSojournTime : e.2.2.u.avgSojournTime.isNaN = false

def TcCls.Copied : TcCls → Prop
  | osi flt => ∀ f ∈ Counted.items flt, f.l7.dummy = 0
  | _ => True

structure TcIndMsg.Copied (a : TcIndMsg) : Prop where
  cls : a.cls.Copied
  queues : ∀ e ∈ a.queues.items, ShpPlcQCopied e
  pcrNumbers : a.pcr.mtr.bnd.isNaN = false
  numbers : ∀ e ∈ a.queues.items, ShpPlcQNumbers e

section Copies

theorem cpTcSch_eq (m : TcSch) : cpTcSch m = m := by
  cases m with
  | rr dummy => rfl
  | prio qPrio => rw [cpTcSch, cpTcSchPrio, Counted.map_eq_self (f := id) |>.mpr fun _ _ => rfl]

theorem cpTcClsOsiFilter_eq_iff {m : TcClsOsiFilter} : cpTcClsOsiFilter m = m ↔ m.l7.dummy = 0 := by
  obtain ⟨id, l3, l4, ⟨dummy⟩, dstQueue⟩ := m
  simp [cpTcClsOsiFilter, cpL3Filter, cpL4Filter, eq_comm]

theorem cpTcCls_eq_iff {m : TcCls} : cpTcCls m = m ↔ m.Copied := by
  cases m with
  | osi flt =>
    rw [cpTcCls, TcCls.osi.injEq, cpTcClsOsi, Counted.map_eq_self]
    exact forall₂_congr fun _ _ => cpTcClsOsiFilter_eq_iff
  | _ => exact iff_of_true rfl trivial

theorem cpTcQueueCounters_eq_iff {δ : Type} {cp : δ → δ} (hcp : ∀ d, cp d = d) {m : TcQueueCounters δ} :
    cpTcQueueCounters cp m = m ↔ m.lastSojournTime = 0 := by
  cases m
  simp [cpTcQueueCounters, hcp, eq_comm]

theorem cpTcQueueU_eq_iff {u : TcQueueU} : cpTcQueueU u = u ↔ u.lastSojournTime = 0 := by
  cases u with
  | fifo m => exact (TcQueueU.fifo.injEq _ _).to_iff.trans (cpTcQueueCounters_eq_iff fun _ => rfl)
  | codel m => exact (TcQueueU.codel.injEq _ _).to_iff.trans (cpTcQueueCounters_eq_iff fun _ => rfl)
  | ecn m => exact (TcQueueU.ecn.injEq _ _).to_iff.trans (cpTcQueueCounters_eq_iff fun _ => rfl)

theorem cpTcShpQPlc_eq_iff {e : TcShp × TcPlc × TcQueue} : cpTcShpQPlc e = .ok e ↔ ShpPlcQCopied e := by
  obtain ⟨⟨shpId, shpActive, rate, shpMtr⟩, ⟨plcId, plcMtr, drp, mrk, plcRate, plcActive, dst, dev⟩, ⟨id, u⟩⟩ := e
  simp only [cpTcShpQPlc, cpTcShp, cpTcPlc, cpTcQueue, cpTcMtr, cpTcDrp, cpTcMrk, Except.bind_eq_ok, require_eq_ok,
    exists_const, Except.pure_eq, Except.ok.injEq, existsAndEq, and_true, true_and, Prod.mk.injEq, TcShp.mk.injEq,
    TcQueue.mk.injEq, cpTcQueueU_eq_iff]
  constructor
  · rintro ⟨hshp, hplc, rfl, rfl, htime⟩
    exact ⟨hshp, hplc, rfl, rfl, htime⟩
  · rintro ⟨hshp, hplc, hrate, hid, htime⟩
    exact ⟨hshp, hplc, hrate.symm, hid.symm, htime⟩

theorem TcIndMsg.Agrees.refl (a : TcIndMsg) : a.Agrees a where
  sch := rfl
  pcr := ⟨rfl, rfl, rfl⟩
  cls := rfl
  queues := List.forall₂_same.mpr fun e _ =>
    ⟨⟨rfl, rfl, rfl, rfl⟩, ⟨rfl, rfl, rfl, rfl, rfl, rfl, rfl⟩, rfl, by
      cases e.2.2.u <;> exact ⟨rfl, rfl, rfl, rfl, rfl, rfl⟩⟩
  tstamp := rfl

theorem shpPlcQClose_self {e : TcShp × TcPlc × TcQueue} : ShpPlcQClose e e ↔ ShpPlcQNumbers e := by
  have hself (x : Float4) (eps : Float4.Eps) : Float4.eqFloat x x eps = .ok true ↔ x.isNaN = false :=
    Float4.eqFloat_self_tells.true_iff
  constructor
  · rintro ⟨hshp, hplc, hrate, havg⟩
    exact ⟨(hself _ _).mp hshp, (hself _ _).mp hplc, (hself _ _).mp hrate, (hself _ _).mp havg⟩
  · rintro ⟨hshp, hplc, hrate, havg⟩
    exact ⟨(hself _ _).mpr hshp, (hself _ _).mpr hplc, (hself _ _).mpr hrate, (hself _ _).mpr havg⟩

theorem close_self {a : TcIndMsg} :
    a.Close a ↔ a.pcr.mtr.bnd.isNaN = false ∧ ∀ e ∈ a.queues.items, ShpPlcQNumbers e := by
  refine and_congr Float4.eqFloat_self_tells.true_iff ?_
  rw [List.forall₂_same]
  exact forall₂_congr fun _ _ => shpPlcQClose_self

theorem cpTcIndMsg_eq_iff {a : TcIndMsg} : cpTcIndMsg a = .ok a ↔ a.Copied := by
  have hqueues : a.queues.mapM cpTcShpQPlc = .ok a.queues ↔ ∀ e ∈ a.queues.items, ShpPlcQCopied e := by
    rw [Counted.mapM_eq_ok, Except.mapM_eq_self]
    exact forall₂_congr fun _ _ => cpTcShpQPlc_eq_iff
  have hself : eqTcIndMsg a a = .ok true ↔ a.Close a := (TcIndMsg.Agrees.refl a).eq_iff
  rw [close_self] at hself
  simp only [cpTcIndMsg, Except.bind_eq_ok, require_eq_ok, exists_const, Except.pure_eq, Except.ok.injEq]
  constructor
  · rintro ⟨queues, hq, equal, heq, rfl, hdst⟩
    have hcls : cpTcCls a.cls = a.cls := congrArg TcIndMsg.cls hdst
    obtain rfl : queues = a.queues := congrArg TcIndMsg.queues hdst
    rw [hdst] at heq
    obtain ⟨hpcr, hnumbers⟩ := hself.mp heq
    exact ⟨cpTcCls_eq_iff.mp hcls, hqueues.mp hq, hpcr, hnumbers⟩
  · rintro ⟨hcls, hq, hpcr, hnumbers⟩
    have hdst : (⟨cpTcSch a.sch, cpTcPcr a.pcr, cpTcCls a.cls, a.queues, a.tstamp⟩ : TcIndMsg) = a := by
      rw [cpTcSch_eq, cpTcCls_eq_iff.mpr hcls]
      rfl
    refine ⟨a.queues, hqueues.mpr hq, true, ?_, rfl, hdst⟩
    rw [hdst]
    exact hself.mpr ⟨hpcr, hnumbers⟩

end Copies

/-- **A copy of an indication is the indication if and only if** no filter has a seventh layer, no shaper a rate, no
queue a number or a last time, all shapers and policers are active or not and no number is `NaN`; **a comparison is right
if and only if** the two messages agree and their real-valued members are close. -/
theorem cpTcIndMsg_eqTcIndMsg (a b : TcIndMsg) :
    (cpTcIndMsg a = .ok a ↔ a.Copied) ∧ (Says (eqTcIndMsg a b) (a.Agrees b) ↔ a.Agrees b ∧ a.Close b) :=
  ⟨cpTcIndMsg_eq_iff, eqTcIndMsg_says_iff⟩

/-- One queue with the number `id`, and a shaper with the rate `rate` -/
def oneQueue (id rate : UInt32) : TcIndMsg where
  sch := .rr 0
  pcr := ⟨0, 0, ⟨0, ⟨0⟩⟩⟩
  cls := .rr 0
  queues := ⟨[(⟨0, 0, rate, ⟨0, ⟨0⟩⟩⟩, ⟨0, ⟨0, ⟨0⟩⟩, ⟨0⟩, ⟨0⟩, ⟨0⟩, 0, 0, 0⟩, ⟨id, .fifo ⟨0, 0, 0, 0, ⟨0⟩, ⟨0⟩, 0⟩⟩)], by simp⟩
  tstamp := 1

/-- Queues lose their numbers, and shapers with different rates compare equal. -/
theorem cpTcIndMsg_eqTcIndMsg_not_right :
    (¬∀ a : TcIndMsg, cpTcIndMsg a = .ok a) ∧ ¬∀ a b : TcIndMsg, Says (eqTcIndMsg a b) (a.Agrees b) := by
  constructor
  · intro h
    have hid := (cpTcIndMsg_eq_iff.mp (h (oneQueue 7 0))).queues _ (List.mem_singleton_self _)
    exact absurd hid.id (by decide)
  · intro h
    obtain ⟨answer, hanswer, hiff⟩ := h (oneQueue 0 1) (oneQueue 0 2)
    have htrue : eqTcIndMsg (oneQueue 0 1) (oneQueue 0 2) = .ok true := by decide
    obtain rfl := Except.ok.inj (hanswer.symm.trans htrue)
    have hrate := (List.forall₂_cons.mp (hiff.mp rfl).queues).1.shp.maxRateKbps
    exact absurd hrate (by decide)

end FlexRic.Sm.Tc
