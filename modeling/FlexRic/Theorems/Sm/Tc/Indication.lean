import FlexRic.Sm.Tc.IndPlain

/-! # What the plain codec of traffic control indications carries -/

namespace FlexRic.Sm.Tc
open Plain

/-! ### What arrives of a message -/

/-- The scheduler as it arrives: of a round robin scheduler only the type. -/
def TcSch.received : TcSch → TcSch
  | .rr _ => .rr 0
  | .prio qPrio => .prio qPrio

/-- The queue as it arrives: without its identifier. -/
def TcQueue.received (q : TcQueue) : TcQueue := { q with id := 0 }

def TcIndMsg.received (m : TcIndMsg) : TcIndMsg :=
  { m with
    sch := m.sch.received
    queues := ⟨m.queues.items.map fun e => (e.1, e.2.1, e.2.2.received), by
      rw [List.length_map]
      exact m.queues.length_lt⟩ }

/-! ### Parts -/

theorem fits_sch_received (sch : TcSch) : Fits (calSchPayload sch) (tcEncSch sch) (tcDecSch granted) sch.received := by
  simp only [tcDecSch, fetchAllocated_granted]
  cases sch with
  | rr dummy =>
    refine Fits.of_eq ((fetchEnum_fits TcSchE.rr _).andThen ⟨rfl, Reads.pure _⟩) rfl (List.append_nil _)
  | prio qPrio =>
    refine Fits.of_eq ((fetchEnum_fits TcSchE.prio _).andThen (fetchCounted_fits qPrio).last) ?_ ?_
    · rw [calSchPayload, Nat.add_assoc, Nat.mul_comm]
    · rw [tcEncSch, List.append_assoc]

theorem fits_mtr (mtr : TcMtr) : Fits (calMtrPayload mtr) (tcEncMtr mtr) tcDecMtr mtr :=
  (fetch_fits mtr.bnd).andThen (fetch_fits mtr.timeWindowMs).last

theorem fits_pcr_ind (pcr : TcPcr) : Fits (calPcrPayload pcr) (tcEncPcr pcr) tcDecPcr pcr := by
  refine Fits.of_eq ((fetch_fits pcr.type).andThen ((fetch_fits pcr.id).andThen (fits_mtr pcr.mtr).last)) ?_ ?_
  · rw [calPcrPayload, Nat.add_assoc]
    rfl
  · rw [tcEncPcr, List.append_assoc]

theorem fits_clsOsi (flt : Counted TcClsOsiFilter) :
    Fits (calClsOsiPayload flt) (tcEncClsOsi flt) (fetchCounted fetchClsOsiFilter) flt where
  length := by
    simp [tcEncClsOsi, calClsOsiPayload, List.length_flatMap, List.map_const', Nat.mul_comm]
  reads := fetchCounted_reads fun f _ => fetchClsOsiFilter_reads f

theorem fits_cls_ind (cls : TcCls) : Fits (calClsPayload cls) (tcEncCls cls) (tcDecCls granted) cls := by
  simp only [tcDecCls, fetchAllocated_granted]
  cases cls with
  | rr dummy => exact (fetchEnum_fits TcClsE.rr _).andThen (fetch_fits dummy).last
  | osi flt => exact (fetchEnum_fits TcClsE.osi _).andThen (fits_clsOsi flt).last
  | sto dummy => exact (fetchEnum_fits TcClsE.sto _).andThen (fetch_fits dummy).last

theorem fits_drp (drp : TcDrp) : Fits (calDrpPayload drp) (tcEncDrp drp) tcDecDrp drp := (fetch_fits drp.droppedPkts).last

theorem fits_mrk (mrk : TcMrk) : Fits (calMrkPayload mrk) (tcEncMrk mrk) tcDecMrk mrk := (fetch_fits mrk.markedPkts).last

theorem fits_shp_ind (shp : TcShp) : Fits (calShpPayload shp) (tcEncShp shp) tcDecShp shp := by
  refine Fits.of_eq ((fetch_fits shp.id).andThen ((fetch_fits shp.active).andThen ((fetch_fits shp.maxRateKbps).andThen
    (fits_mtr shp.mtr).last))) ?_ ?_
  · simp only [calShpPayload, Nat.add_assoc]
  · simp only [tcEncShp, List.append_assoc]

theorem fits_plc_ind (plc : TcPlc) : Fits (calPlcPayload plc) (tcEncPlc plc) tcDecPlc plc := by
  refine Fits.of_eq ((fetch_fits plc.id).andThen ((fits_mtr plc.mtr).andThen ((fits_drp plc.drp).andThen
    ((fits_mrk plc.mrk).andThen ((fetch_fits plc.maxRateKbps).andThen ((fetch_fits plc.active).andThen
      ((fetch_fits plc.dstId).andThen (fetch_fits plc.devId).last))))))) ?_ ?_
  · simp only [calPlcPayload, Nat.add_assoc]
  · simp only [tcEncPlc, List.append_assoc]

theorem fits_qCounters {δ : Type} {cal : δ → Nat} {enc : δ → Bytes} {dec : Reader δ} (h : ∀ d, Fits (cal d) (enc d) dec d)
    (q : TcQueueCounters δ) : Fits (calQCounters cal q) (tcEncQCounters enc q) (tcDecQCounters dec) q := by
  refine Fits.of_eq ((fetch_fits q.bytes).andThen ((fetch_fits q.pkts).andThen ((fetch_fits q.bytesFwd).andThen
    ((fetch_fits q.pktsFwd).andThen ((h q.drpOrMrk).andThen ((fetch_fits q.avgSojournTime).andThen
      (fetch_fits q.lastSojournTime).last)))))) ?_ ?_
  · simp only [calQCounters, Nat.add_assoc]
  · simp only [tcEncQCounters, List.append_assoc]

theorem fits_q_received (q : TcQueue) : Fits (calQPayload q) (tcEncQ q) tcDecQ q.received := by
  rcases q with ⟨id, fifo | codel | ecn⟩
  · exact (fetchEnum_fits TcQueueE.fifo _).andThen (fits_qCounters fits_drp fifo).last
  · exact (fetchEnum_fits TcQueueE.codel _).andThen (fits_qCounters fits_drp codel).last
  · exact (fetchEnum_fits TcQueueE.ecnCodel _).andThen (fits_qCounters fits_mrk ecn).last

/-! ### The queues with their policers and shapers -/

/-- What one turn of the loop over the queues writes. -/
def tcEncEntry (e : TcShp × TcPlc × TcQueue) : Bytes := tcEncShp e.1 ++ (tcEncPlc e.2.1 ++ tcEncQ e.2.2)

theorem length_tcEncEntry (e : TcShp × TcPlc × TcQueue) : (tcEncEntry e).length = calShpPlcQ e := by
  rw [tcEncEntry, List.length_append, List.length_append, (fits_shp_ind _).length, (fits_plc_ind _).length,
    (fits_q_received _).length, calShpPlcQ]
  omega

theorem reads_entry (e : TcShp × TcPlc × TcQueue) :
    Reads 1 tcDecShpPlcQ (tcEncEntry e) (e.1, e.2.1, e.2.2.received) := by
  refine (fits_shp_ind e.1).reads.andThen (Reads.within ((fits_plc_ind e.2.1).reads.andThen (Reads.within ?_ ?_)) ?_)
  · refine Reads.of_eq ((fits_q_received e.2.2).reads.andThen (Reads.within (Reads.pure _) ?_)) (List.append_nil _)
    exact Nat.one_pos
  · exact Nat.succ_pos _
  · exact Nat.succ_pos _

/-- The loop over the queues writes one after the other, as long as the chunk has room for more. -/
theorem foldlM_tcEncShpPlcQ {sz : Nat} {it : Bytes} {es : List (TcShp × TcPlc × TcQueue)}
    (h : (it ++ es.flatMap tcEncEntry).length < sz) :
    es.foldlM (tcEncShpPlcQ sz) it = .ok (it ++ es.flatMap tcEncEntry) := by
  induction es generalizing it with
  | nil => rw [List.flatMap_nil, List.append_nil]; rfl
  | cons e es ih =>
    rw [List.flatMap_cons, ← List.append_assoc] at h
    have hstep : tcEncShpPlcQ sz it e = .ok (it ++ tcEncEntry e) := by
      simp only [List.length_append, tcEncEntry] at h
      have hshp : (it ++ tcEncShp e.1).length < sz := by
        rw [List.length_append]
        omega
      have hplc : (it ++ tcEncShp e.1 ++ tcEncPlc e.2.1).length < sz := by
        simp only [List.length_append]
        omega
      have hq : (it ++ tcEncShp e.1 ++ tcEncPlc e.2.1 ++ tcEncQ e.2.2).length < sz := by
        simp only [List.length_append]
        omega
      simp only [tcEncShpPlcQ, require_of hshp, require_of hplc, require_of hq, Except.ok_bind, Except.pure_eq]
      simp only [tcEncEntry, List.append_assoc]
    rw [List.foldlM_cons, hstep, Except.ok_bind, ih h, List.flatMap_cons, List.append_assoc]

theorem fits_queues {n : Nat} {es : List (TcShp × TcPlc × TcQueue)} (h : es.length = n) :
    Reads 1 (times tcDecShpPlcQ n) (es.flatMap tcEncEntry)
      ⟨es.map fun e => (e.1, e.2.1, e.2.2.received), by rw [List.length_map, h]⟩ := by
  rw [List.flatMap_def]
  refine times_reads ?_ _
  rw [List.forall₂_map_left_iff, List.forall₂_map_right_iff, List.forall₂_same]
  exact fun e _ => reads_entry e

/-! ### Messages -/

/-- What `tc_enc_ind_msg_plain` writes. -/
def tcEncIndMsg (m : TcIndMsg) : Bytes :=
  tcEncSch m.sch ++ (tcEncPcr m.pcr ++ (tcEncCls m.cls ++ (put m.queues.len ++
    (m.queues.items.flatMap tcEncEntry ++ put m.tstamp))))

theorem length_tcEncIndMsg (m : TcIndMsg) : (tcEncIndMsg m).length = calIndMsgPayload m := by
  simp only [tcEncIndMsg, calIndMsgPayload, List.length_append, (fits_sch_received _).length, (fits_pcr_ind _).length,
    (fits_cls_ind _).length, length_put, List.length_flatMap, length_tcEncEntry, Nat.add_assoc]

theorem tcEncIndMsgPlain_eq (m : TcIndMsg) : tcEncIndMsgPlain m = .ok (tcEncIndMsg m) := by
  have hlen := length_tcEncIndMsg m
  have htstamp : (put m.tstamp).length = 8 := length_put _
  simp only [tcEncIndMsg, List.length_append] at hlen
  have hsch : (tcEncSch m.sch).length < calIndMsgPayload m := by omega
  have hpcr : (tcEncSch m.sch ++ tcEncPcr m.pcr).length < calIndMsgPayload m := by
    simp only [List.length_append]
    omega
  have hcls : (tcEncSch m.sch ++ tcEncPcr m.pcr ++ tcEncCls m.cls).length < calIndMsgPayload m := by
    simp only [List.length_append]
    omega
  have hq : (tcEncSch m.sch ++ tcEncPcr m.pcr ++ tcEncCls m.cls ++ put m.queues.len).length < calIndMsgPayload m := by
    simp only [List.length_append]
    omega
  have hqs : (tcEncSch m.sch ++ tcEncPcr m.pcr ++ tcEncCls m.cls ++ put m.queues.len ++
      m.queues.items.flatMap tcEncEntry).length < calIndMsgPayload m := by
    simp only [List.length_append]
    omega
  have hall : (tcEncSch m.sch ++ tcEncPcr m.pcr ++ tcEncCls m.cls ++ put m.queues.len ++
      m.queues.items.flatMap tcEncEntry ++ put m.tstamp).length = calIndMsgPayload m := by
    simp only [List.length_append]
    omega
  simp only [tcEncIndMsgPlain, require_of hsch, require_of hpcr, require_of hcls, require_of hq, require_of hall,
    Except.ok_bind, foldlM_tcEncShpPlcQ hqs, Except.pure_eq]
  simp only [tcEncIndMsg, List.append_assoc]

theorem reads_indMsg (m : TcIndMsg) : Reads 0 (tcDecIndMsg granted) (tcEncIndMsg m) m.received := by
  simp only [tcDecIndMsg, allocated_granted]
  have htstamp : (put m.tstamp).length = 8 := length_put _
  refine (fits_sch_received m.sch).reads.andThen (Reads.within ((fits_pcr_ind m.pcr).reads.andThen (Reads.within
    ((fits_cls_ind m.cls).reads.andThen (Reads.within ((fetch_reads m.queues.len).andThen (Reads.within
      ((fits_queues m.queues.toNat_len.symm).bind (fetch_reads m.tstamp).last ?_) ?_)) ?_)) ?_)) ?_)
  · omega
  all_goals
    simp only [List.length_append]
    omega

theorem tcDecIndMsgPlain_tcEncIndMsg (m : TcIndMsg) : tcDecIndMsgPlain (tcEncIndMsg m) = .ok m.received :=
  (reads_indMsg m).whole _

/-- The identifiers that are not written are zero, as `calloc` leaves them. -/
structure TcIndMsg.NoIds (m : TcIndMsg) : Prop where
  queues : ∀ e ∈ m.queues.items, e.2.2.id = 0
  sch : ∀ dummy, m.sch = .rr dummy → dummy = 0

theorem TcSch.received_eq_iff (sch : TcSch) : sch.received = sch ↔ ∀ dummy, sch = .rr dummy → dummy = 0 := by
  cases sch with
  | rr dummy =>
    constructor
    · intro h d hd
      cases hd
      exact (TcSch.rr.inj h).symm
    · intro h
      rw [h dummy rfl]
      rfl
  | prio qPrio =>
    constructor
    · intro _ d hd
      cases hd
    · intro _
      rfl

theorem TcQueue.received_eq_iff (q : TcQueue) : q.received = q ↔ q.id = 0 := by
  constructor
  · intro h
    rw [← h]
    rfl
  · intro h
    rw [TcQueue.received, ← h]

theorem TcIndMsg.received_eq_iff (m : TcIndMsg) : m.received = m ↔ m.NoIds := by
  have hqueues : (m.queues.items.map fun e => (e.1, e.2.1, e.2.2.received)) = m.queues.items ↔
      ∀ e ∈ m.queues.items, e.2.2.id = 0 := by
    constructor
    · intro h e he
      have h' := List.map_inj_left.mp (h.trans (List.map_id _).symm) e he
      rw [← TcQueue.received_eq_iff]
      exact congrArg (fun e => e.2.2) h'
    · intro h
      refine (List.map_congr_left fun e he => ?_).trans (List.map_id _)
      rw [(TcQueue.received_eq_iff _).mpr (h e he)]
      rfl
  constructor
  · intro h
    refine ⟨hqueues.mp ?_, (TcSch.received_eq_iff _).mp ?_⟩
    · exact congrArg (fun m => m.queues.items) h
    · exact congrArg TcIndMsg.sch h
  · intro h
    have hsch := (TcSch.received_eq_iff _).mpr h.sch
    have hq := hqueues.mpr h.queues
    rcases m with ⟨sch, pcr, cls, ⟨items, hlt⟩, tstamp⟩
    simp only [TcIndMsg.received] at hsch hq ⊢
    simp only [hsch, hq]

/-- A message is encoded in as many bytes as were computed for it, and all of them are read back to it. -/
def TcIndMsg.Carried (indMsg : TcIndMsg) : Prop :=
  ∃ buf, tcEncIndMsgPlain indMsg = .ok buf ∧ buf.length = calIndMsgPayload indMsg ∧ tcDecIndMsgPlain buf = .ok indMsg

theorem TcIndMsg.carried_iff_received (indMsg : TcIndMsg) : indMsg.Carried ↔ indMsg.received = indMsg := by
  constructor
  · rintro ⟨buf, henc, -, hdec⟩
    obtain rfl := Except.ok.inj (henc.symm.trans (tcEncIndMsgPlain_eq indMsg))
    exact Except.ok.inj ((tcDecIndMsgPlain_tcEncIndMsg indMsg).symm.trans hdec)
  · intro h
    refine ⟨_, tcEncIndMsgPlain_eq indMsg, length_tcEncIndMsg indMsg, ?_⟩
    rw [tcDecIndMsgPlain_tcEncIndMsg, h]

/-- The sizes always agree. Every member comes back when the identifiers of the queues are zero, and so is the
member of a round robin scheduler. -/
theorem indication_carried_iff_noIds (indMsg : TcIndMsg) :
    (∃ buf, tcEncIndMsgPlain indMsg = .ok buf ∧ buf.length = calIndMsgPayload indMsg) ∧
      (indMsg.Carried ↔ indMsg.NoIds) :=
  ⟨⟨_, tcEncIndMsgPlain_eq indMsg, length_tcEncIndMsg indMsg⟩, indMsg.carried_iff_received.trans indMsg.received_eq_iff⟩

/-- One queue, with the identifier 5. -/
def queueFive : TcIndMsg where
  sch := .prio .empty
  pcr := ⟨0, 0, ⟨0, ⟨0⟩⟩⟩
  cls := .osi .empty
  queues := ⟨[(⟨1, 1, 100, ⟨0, ⟨0⟩⟩⟩, ⟨2, ⟨0, ⟨0⟩⟩, ⟨0⟩, ⟨0⟩, ⟨0⟩, 1, 3, 4⟩,
    ⟨5, .fifo ⟨10, 1, 20, 2, ⟨0⟩, ⟨0⟩, 7⟩⟩)], by decide⟩
  tstamp := 1

theorem queue_id_is_lost :
    ((tcEncIndMsgPlain queueFive >>= tcDecIndMsgPlain).map fun m => m.queues.items.map fun e => e.2.2.id) = .ok [0] ∧
      ¬queueFive.Carried := by
  constructor
  · rw [tcEncIndMsgPlain_eq, Except.ok_bind, tcDecIndMsgPlain_tcEncIndMsg]
    rfl
  · intro h
    have hids := queueFive.received_eq_iff.mp (queueFive.carried_iff_received.mp h)
    have h5 : (5 : UInt32) = 0 := hids.queues _ (List.mem_singleton_self _)
    exact absurd h5 (by decide)

end FlexRic.Sm.Tc
