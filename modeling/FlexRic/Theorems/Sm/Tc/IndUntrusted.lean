import FlexRic.Lib.Untrusted
import FlexRic.Theorems.Sm.Tc.Indication

/-! # Traffic control indications that anyone may have sent

After each part of a message the decoder asserts that the chunk goes on. It compares no number of items with the length
of the chunk before it allocates and reads them. -/

namespace FlexRic.Sm.Tc
open Plain

/-! ### Members -/

def TcMtr.members (mtr : TcMtr) : List Bytes := [put mtr.bnd, put mtr.timeWindowMs]

def TcPcr.members (pcr : TcPcr) : List Bytes := put pcr.type :: put pcr.id :: pcr.mtr.members

def TcSch.type : TcSch → TcSchE
  | .rr _ => .rr
  | .prio _ => .prio

def TcSch.members (sch : TcSch) : List Bytes :=
  putEnum sch.type ::
    match sch with
    | .rr _ => []
    | .prio qPrio => scalars qPrio

def TcShp.members (shp : TcShp) : List Bytes := put shp.id :: put shp.active :: put shp.maxRateKbps :: shp.mtr.members

def TcPlc.members (plc : TcPlc) : List Bytes :=
  put plc.id :: (plc.mtr.members ++ [put plc.drp.droppedPkts, put plc.mrk.markedPkts, put plc.maxRateKbps,
    put plc.active, put plc.dstId, put plc.devId])

def TcQueueCounters.members {δ : Type} (m : δ → List Bytes) (q : TcQueueCounters δ) : List Bytes :=
  put q.bytes :: put q.pkts :: put q.bytesFwd :: put q.pktsFwd ::
    (m q.drpOrMrk ++ [put q.avgSojournTime, put q.lastSojournTime])

def TcQueueU.type : TcQueueU → TcQueueE
  | .fifo _ => .fifo
  | .codel _ => .codel
  | .ecn _ => .ecnCodel

def TcQueue.members (q : TcQueue) : List Bytes :=
  putEnum q.u.type ::
    match q.u with
    | .fifo fifo => fifo.members fun drp => [put drp.droppedPkts]
    | .codel codel => codel.members fun drp => [put drp.droppedPkts]
    | .ecn ecn => ecn.members fun mrk => [put mrk.markedPkts]

/-- A filter is copied with whatever lies in its padding. -/
def TcClsOsiFilter.Members (f : TcClsOsiFilter) (ms : List Bytes) : Prop :=
  ∃ p q : Padding 4, ms = [put f.id, put p, put f.l3.srcAddr, put f.l3.dstAddr, put f.l4.srcPort, put f.l4.dstPort,
    put f.l4.protocol, put f.l7.dummy, put f.dstQueue, put q]

def TcCls.Members : TcCls → List Bytes → Prop
  | .rr dummy, ms => ms = [putEnum TcClsE.rr, put dummy]
  | .osi flt, ms =>
    ∃ fs, List.Forall₂ TcClsOsiFilter.Members flt.items fs ∧ ms = putEnum TcClsE.osi :: put flt.len :: fs.flatten
  | .sto dummy, ms => ms = [putEnum TcClsE.sto, put dummy]

/-! ### What the readers accept -/

instance : Enumerators.Distinct TcClsE := ⟨of_decide_eq_true rfl⟩
instance : Enumerators.Distinct TcQueueE := ⟨of_decide_eq_true rfl⟩
instance : Enumerators.Distinct TcSchE := ⟨of_decide_eq_true rfl⟩

theorem exact_mtr : Exact tcDecMtr (fun _ => True) TcMtr.members :=
  .scalar TcMtr.bnd fun _ => .scalar TcMtr.timeWindowMs fun _ => .pure fun ⟨_, _⟩ => by grind

theorem exact_pcr : Exact tcDecPcr (fun _ => True) TcPcr.members := by
  refine (Exact.scalar TcPcr.type fun _ => .scalar TcPcr.id fun _ => .field TcPcr.mtr exact_mtr
    (fun _ _ => .pure fun ⟨_, _, _⟩ => by grind) fun _ _ => trivial).congr fun pcr _ => ?_
  rw [List.append_nil]
  rfl

theorem exact_sch : Exact (tcDecSch granted) (fun sch => sch.received = sch) TcSch.members := by
  simp only [tcDecSch, fetchAllocated_granted]
  refine Exact.enum TcSch.type (fun type => ?_) (by decide) ⟨.rr 0, rfl⟩
  cases type with
  | rr =>
    have hV : ∀ sch : TcSch, sch.type = .rr ∧ sch.received = sch ↔ sch = .rr 0 := by
      intro sch
      cases sch <;> simp [TcSch.type, TcSch.received, eq_comm]
    refine ((Exact.pure hV).congr fun sch h => ?_).toSound
    obtain rfl := (hV sch).mp h
    rfl
  | prio =>
    refine (fetchScalars_exact.map TcSch.prio (fun sch => ?_) fun _ => rfl).toSound
    cases sch <;> simp [TcSch.type, TcSch.received]

theorem exact_shp : Exact tcDecShp (fun _ => True) TcShp.members := by
  refine (Exact.scalar TcShp.id fun _ => .scalar TcShp.active fun _ => .scalar TcShp.maxRateKbps fun _ =>
    .field TcShp.mtr exact_mtr (fun _ _ => .pure fun ⟨_, _, _, _⟩ => by grind) fun _ _ => trivial).congr fun shp _ => ?_
  rw [List.append_nil]
  rfl

theorem exact_drp : Exact tcDecDrp (fun _ => True) (fun drp => [put drp.droppedPkts]) :=
  .scalar TcDrp.droppedPkts fun _ => .pure fun ⟨_⟩ => by simp

theorem exact_mrk : Exact tcDecMrk (fun _ => True) (fun mrk => [put mrk.markedPkts]) :=
  .scalar TcMrk.markedPkts fun _ => .pure fun ⟨_⟩ => by simp

theorem exact_plc : Exact tcDecPlc (fun _ => True) TcPlc.members := by
  refine (Exact.scalar TcPlc.id fun _ => .field TcPlc.mtr exact_mtr (fun _ _ => .field TcPlc.drp exact_drp
    (fun _ _ => .field TcPlc.mrk exact_mrk (fun _ _ => .scalar TcPlc.maxRateKbps fun _ => .scalar TcPlc.active fun _ =>
    .scalar TcPlc.dstId fun _ => .scalar TcPlc.devId fun _ => .pure fun ⟨_, _, _, _, _, _, _, _⟩ => by grind)
    fun _ _ => trivial) fun _ _ => trivial) fun _ _ => trivial).congr fun plc _ => rfl

theorem exact_qCounters {δ : Type} {dec : Reader δ} {m : δ → List Bytes} (h : Exact dec (fun _ => True) m) :
    Exact (tcDecQCounters dec) (fun _ => True) (TcQueueCounters.members m) := by
  refine (Exact.scalar TcQueueCounters.bytes fun _ => .scalar TcQueueCounters.pkts fun _ =>
    .scalar TcQueueCounters.bytesFwd fun _ => .scalar TcQueueCounters.pktsFwd fun _ =>
    .field TcQueueCounters.drpOrMrk h (fun _ _ => .scalar TcQueueCounters.avgSojournTime fun _ =>
    .scalar TcQueueCounters.lastSojournTime fun _ => .pure fun ⟨_, _, _, _, _, _, _⟩ => by grind)
    fun _ _ => trivial).congr fun q _ => rfl

theorem exact_q : Exact tcDecQ (fun q => q.received = q) TcQueue.members := by
  refine Exact.enum (fun q : TcQueue => q.u.type) (fun type => ?_) (by decide) ⟨⟨0, .fifo ⟨0, 0, 0, 0, ⟨0⟩, ⟨0⟩, 0⟩⟩, rfl⟩
  cases type with
  | fifo =>
    refine ((exact_qCounters exact_drp).map (fun fifo => TcQueue.mk 0 (.fifo fifo)) (fun q => ?_) fun _ => rfl).toSound
    rcases q with ⟨id, _ | _ | _⟩ <;> simp [TcQueueU.type, TcQueue.received, eq_comm]
  | codel =>
    refine ((exact_qCounters exact_drp).map (fun codel => TcQueue.mk 0 (.codel codel)) (fun q => ?_) fun _ => rfl).toSound
    rcases q with ⟨id, _ | _ | _⟩ <;> simp [TcQueueU.type, TcQueue.received, eq_comm]
  | ecnCodel =>
    refine ((exact_qCounters exact_mrk).map (fun ecn => TcQueue.mk 0 (.ecn ecn)) (fun q => ?_) fun _ => rfl).toSound
    rcases q with ⟨id, _ | _ | _⟩ <;> simp [TcQueueU.type, TcQueue.received, eq_comm]

/-! ### Filters and classifiers -/

theorem takes_filter : Takes fetchClsOsiFilter sizeofClsOsiFilter :=
  fetch_takes.bind fun _ => (skip_takes 4).bind fun _ => fetch_takes.bind fun _ => fetch_takes.bind fun _ =>
    fetch_takes.bind fun _ => fetch_takes.bind fun _ => fetch_takes.bind fun _ => fetch_takes.bind fun _ =>
    fetch_takes.bind fun _ => (skip_takes 4).bind fun _ => .pure _

theorem lays_filter : Lays fetchClsOsiFilter TcClsOsiFilter.Members := by
  refine (fetch_lays.bind fun id => (skip_lays 4).bind fun _ => fetch_lays.bind fun srcAddr => fetch_lays.bind fun dstAddr =>
    fetch_lays.bind fun srcPort => fetch_lays.bind fun dstPort => fetch_lays.bind fun protocol =>
    fetch_lays.bind fun l7 => fetch_lays.bind fun dstQueue => (skip_lays 4).bind fun _ => .pure _).congr fun f ms => ?_
  rcases f with ⟨id, ⟨srcAddr, dstAddr⟩, ⟨srcPort, dstPort, protocol⟩, ⟨dummy⟩, dstQueue⟩
  simp only [TcClsOsiFilter.Members, TcClsOsiFilter.mk.injEq, L3Filter.mk.injEq, L4Filter.mk.injEq, L7Filter.mk.injEq,
    exists_and_left, ↓existsAndEq, true_and, and_true, List.cons_append, List.nil_append, exists_const]

/-- What follows the type of a classifier. -/
def TcCls.Payload : TcClsE → TcCls → List Bytes → Prop
  | .rr, cls, ms => ∃ dummy, cls = .rr dummy ∧ ms = [put dummy]
  | .osi, cls, ms => ∃ flt, cls = .osi flt ∧
      ∃ fs, List.Forall₂ TcClsOsiFilter.Members flt.items fs ∧ ms = put flt.len :: fs.flatten
  | .sto, cls, ms => ∃ dummy, cls = .sto dummy ∧ ms = [put dummy]

theorem lays_cls : Lays (tcDecCls granted) TcCls.Members := by
  simp only [tcDecCls, fetchAllocated_granted]
  refine (Lays.enum (F := TcCls.Payload) (by decide) ⟨.rr⟩ fun type => ?_).congr fun cls ms => ?_
  · cases type with
    | rr => exact fetch_lays.map _
    | osi => exact (lays_filter).fetchCounted.map _
    | sto => exact fetch_lays.map _
  · constructor
    · rintro ⟨_ | _ | _, _, ⟨_, rfl, h⟩, rfl⟩
      · rw [h]
        rfl
      · obtain ⟨fs, hfs, rfl⟩ := h
        exact ⟨fs, hfs, rfl⟩
      · rw [h]
        rfl
    · intro h
      cases cls with
      | rr dummy => exact ⟨.rr, _, ⟨dummy, rfl, rfl⟩, h⟩
      | osi flt =>
        obtain ⟨fs, hfs, rfl⟩ := h
        exact ⟨.osi, _, ⟨flt, rfl, fs, hfs, rfl⟩, rfl⟩
      | sto dummy => exact ⟨.sto, _, ⟨dummy, rfl, rfl⟩, h⟩

/-! ### Indications -/

/-- The parts of one turn of the loop over the queues. -/
def entryParts (e : TcShp × TcPlc × TcQueue) : List (List Bytes) := [e.1.members, e.2.1.members, e.2.2.members]

/-- The parts of a message before its queues. -/
def HeadParts (sch : TcSch) (pcr : TcPcr) (cls : TcCls) (len : UInt32) (ps : List (List Bytes)) : Prop :=
  sch.received = sch ∧ ∃ ms, cls.Members ms ∧ ps = [sch.members, pcr.members, ms, [put len]]

/-- The parts of a message before its time stamp. A decoder returns no queue with an identifier. -/
def TcIndMsg.QueueParts (m : TcIndMsg) (ps : List (List Bytes)) : Prop :=
  ∃ head, HeadParts m.sch m.pcr m.cls m.queues.len head ∧ (∀ e ∈ m.queues.items, e.2.2.received = e.2.2) ∧
    ps = head ++ m.queues.items.flatMap entryParts

/-- The parts of a message that a decoder can have returned. -/
def TcIndMsg.Parts (m : TcIndMsg) (ps : List (List Bytes)) : Prop :=
  ∃ ps', m.QueueParts ps' ∧ ps = ps' ++ [[put m.tstamp]]

theorem steps_shpPlcQ : Steps tcDecShpPlcQ fun e ps => e.2.2.received = e.2.2 ∧ ps = entryParts e := by
  refine (Steps.next exact_shp.lays (by decide) fun shp => .next exact_plc.lays (by decide) fun plc =>
    .next exact_q.lays (by decide) fun q => .pure (shp, plc, q)).congr fun e ps => ?_
  constructor
  · rintro ⟨shp, _, _, ⟨-, rfl⟩, ⟨plc, _, _, ⟨-, rfl⟩, ⟨q, _, _, ⟨hq, rfl⟩, ⟨rfl, rfl⟩, rfl⟩, rfl⟩, rfl⟩
    exact ⟨hq, rfl⟩
  · rintro ⟨hq, rfl⟩
    exact ⟨e.1, _, _, ⟨trivial, rfl⟩, ⟨e.2.1, _, _, ⟨trivial, rfl⟩, ⟨e.2.2, _, _, ⟨hq, rfl⟩, ⟨rfl, rfl⟩, rfl⟩, rfl⟩, rfl⟩

/-- The decoder up to the number of queues. -/
def tcDecHead (calloc : Calloc) : Reader (TcSch × TcPcr × TcCls × UInt32) := do
  let sch ← tcDecSch calloc
  withinChunk "iterator out of memory chunk"
  let pcr ← tcDecPcr
  withinChunk "iterator out of memory chunk"
  let cls ← tcDecCls calloc
  withinChunk "iterator out of memory chunk"
  let lenQ ← fetch UInt32
  withinChunk "iterator out of memory chunk"
  return (sch, pcr, cls, lenQ)

/-- The decoder from there to the time stamp. -/
def tcDecQueues (calloc : Calloc) (h : TcSch × TcPcr × TcCls × UInt32) : Reader (Int64 → TcIndMsg) := do
  let queues ← allocated calloc sizeofShpPlcQ tcDecShpPlcQ h.2.2.2
  return fun tstamp => ⟨h.1, h.2.1, h.2.2.1, .ofTimes queues, tstamp⟩

theorem tcDecIndMsg_eq (calloc : Calloc) :
    tcDecIndMsg calloc = tcDecHead calloc >>= tcDecQueues calloc >>= fun msg => fetch Int64 >>= fun tstamp => pure (msg tstamp) := by
  simp only [tcDecIndMsg, tcDecHead, tcDecQueues, bind_assoc, pure_bind]

theorem steps_head : Steps (tcDecHead granted) fun h ps => HeadParts h.1 h.2.1 h.2.2.1 h.2.2.2 ps := by
  refine (Steps.next exact_sch.lays (by decide) fun sch => .next exact_pcr.lays (by decide) fun pcr =>
    .next lays_cls (by decide) fun cls => .next fetch_lays (by decide) fun len => .pure (sch, pcr, cls, len)).congr fun h ps => ?_
  constructor
  · rintro ⟨sch, _, _, ⟨hsch, rfl⟩, ⟨pcr, _, _, ⟨-, rfl⟩, ⟨cls, ms, _, hcls, ⟨len, _, _, rfl, ⟨rfl, rfl⟩, rfl⟩, rfl⟩, rfl⟩, rfl⟩
    exact ⟨hsch, ms, hcls, rfl⟩
  · rintro ⟨hsch, ms, hcls, rfl⟩
    exact ⟨h.1, _, _, ⟨hsch, rfl⟩, ⟨h.2.1, _, _, ⟨trivial, rfl⟩, ⟨h.2.2.1, ms, _, hcls, ⟨h.2.2.2, _, _, rfl, ⟨rfl, rfl⟩, rfl⟩,
      rfl⟩, rfl⟩, rfl⟩

theorem forall₂_entryParts {es : List (TcShp × TcPlc × TcQueue)} {pss : List (List (List Bytes))} :
    List.Forall₂ (fun e ps => e.2.2.received = e.2.2 ∧ ps = entryParts e) es pss ↔
      (∀ e ∈ es, e.2.2.received = e.2.2) ∧ pss = es.map entryParts := by
  induction es generalizing pss with
  | nil => simp
  | cons e es ih =>
    rw [List.forall₂_cons_left_iff, List.forall_mem_cons, List.map_cons]
    constructor
    · rintro ⟨ps, pss, ⟨he, rfl⟩, hpss, rfl⟩
      obtain ⟨hes, rfl⟩ := ih.mp hpss
      exact ⟨⟨he, hes⟩, rfl⟩
    · rintro ⟨⟨he, hes⟩, rfl⟩
      exact ⟨_, _, ⟨he, rfl⟩, ih.mpr ⟨hes, rfl⟩, rfl⟩

theorem steps_queues (h : TcSch × TcPcr × TcCls × UInt32) :
    Steps (tcDecQueues granted h) fun msg ps => ∃ queues : Counted (TcShp × TcPlc × TcQueue),
      queues.len = h.2.2.2 ∧ (msg = fun tstamp => ⟨h.1, h.2.1, h.2.2.1, queues, tstamp⟩) ∧
        (∀ e ∈ queues.items, e.2.2.received = e.2.2) ∧ ps = queues.items.flatMap entryParts := by
  obtain ⟨sch, pcr, cls, len⟩ := h
  simp only [tcDecQueues, allocated_granted]
  refine ((steps_shpPlcQ.times _).map _).congr fun msg ps => ?_
  constructor
  · rintro ⟨es, rfl, pss, hpss, rfl⟩
    obtain ⟨hes, rfl⟩ := (forall₂_entryParts).mp hpss
    refine ⟨.ofTimes es, ?_, rfl, hes, List.flatMap_def.symm⟩
    rw [Counted.len, Counted.ofTimes, es.property, UInt32.ofNat_toNat]
  · rintro ⟨queues, hlen, rfl, hes, rfl⟩
    subst hlen
    exact ⟨⟨queues.items, queues.toNat_len.symm⟩, rfl, _, (forall₂_entryParts).mpr ⟨hes, rfl⟩, List.flatMap_def⟩

theorem steps_beforeTstamp :
    Steps (tcDecHead granted >>= tcDecQueues granted) fun msg ps =>
      ∃ m : TcIndMsg, (msg = fun tstamp => { m with tstamp }) ∧ m.QueueParts ps := by
  refine ((steps_head).bind steps_queues).congr fun msg ps => ?_
  constructor
  · rintro ⟨⟨sch, pcr, cls, len⟩, head, _, hhead, ⟨queues, rfl, rfl, hes, rfl⟩, rfl⟩
    exact ⟨⟨sch, pcr, cls, queues, 0⟩, rfl, head, hhead, hes, rfl⟩
  · rintro ⟨⟨sch, pcr, cls, queues, tstamp⟩, rfl, head, hhead, hes, rfl⟩
    exact ⟨(sch, pcr, cls, queues.len), head, _, hhead, ⟨queues, rfl, rfl, hes, rfl⟩, rfl⟩

theorem lays_tstamp (msg : Int64 → TcIndMsg) :
    Lays (fetch Int64 >>= fun tstamp => pure (msg tstamp)) fun m ms => ∃ tstamp, m = msg tstamp ∧ ms = [put tstamp] :=
  fetch_lays.map msg

theorem tcDecIndMsg_accepts {buf rest : Bytes} {m : TcIndMsg} (hne : buf ≠ []) :
    tcDecIndMsg granted buf = .ok (m, rest) ↔ ∃ ps, m.Parts ps ∧ buf = ps.flatten.flatten ++ rest := by
  have hF : ∀ {msg : Int64 → TcIndMsg} {m : TcIndMsg} {ms : List Bytes},
      (∃ tstamp, m = msg tstamp ∧ ms = [put tstamp]) → ms.flatten ≠ [] := by
    rintro _ _ _ ⟨tstamp, -, rfl⟩ h
    have hlen := congrArg List.length h
    simp at hlen
  rw [tcDecIndMsg_eq, steps_beforeTstamp.last_accepts lays_tstamp hF hne]
  constructor
  · rintro ⟨_, ps, _, ⟨m, rfl, hparts⟩, ⟨tstamp, rfl, rfl⟩, rfl⟩
    exact ⟨_, ⟨ps, hparts, rfl⟩, rfl⟩
  · rintro ⟨_, ⟨ps, hparts, rfl⟩, rfl⟩
    exact ⟨_, ps, _, ⟨m, rfl, hparts⟩, ⟨m.tstamp, rfl, rfl⟩, rfl⟩

theorem tcDecIndMsg_past {buf : Bytes} (hne : buf ≠ []) :
    tcDecIndMsg granted buf = .error pastEnd ↔ ∃ (m : TcIndMsg) (ps : List (List Bytes)), m.Parts ps ∧ EndsWithin ps buf := by
  rw [tcDecIndMsg_eq, steps_beforeTstamp.last_past lays_tstamp hne]
  constructor
  · rintro ⟨_, _, ps, _, ⟨m, rfl, hparts⟩, ⟨tstamp, rfl, rfl⟩, hin⟩
    exact ⟨⟨m.sch, m.pcr, m.cls, m.queues, tstamp⟩, _, ⟨ps, hparts, rfl⟩, hin⟩
  · rintro ⟨m, _, ⟨ps, hparts, rfl⟩, hin⟩
    exact ⟨_, _, ps, _, ⟨m, rfl, hparts⟩, ⟨m.tstamp, rfl, rfl⟩, hin⟩

/-- The chunk is empty, or it ends inside one of the parts of a message. -/
def TcIndMsg.CutOff (buf : Bytes) : Prop :=
  buf = [] ∨ ∃ (m : TcIndMsg) (ps : List (List Bytes)), m.Parts ps ∧ EndsWithin ps buf

/-- As many queues as there are said to be have room in what comes after their number, if anything does. -/
def TcIndMsg.QueuesHeld (buf : Bytes) : Prop :=
  ∀ sch pcr cls len ps rest, HeadParts sch pcr cls len ps → buf = ps.flatten.flatten ++ rest → rest ≠ [] →
    len.toNat * sizeofShpPlcQ ≤ rest.length

theorem decIndMsg_past {buf : Bytes} : tcDecIndMsgCalloc granted buf = .error pastEnd ↔ TcIndMsg.CutOff buf := by
  by_cases hne : buf = []
  · subst hne
    exact iff_of_true rfl (.inl rfl)
  · rw [tcDecIndMsgCalloc, whole_past (by decide), tcDecIndMsg_past hne, TcIndMsg.CutOff, or_iff_right hne]

theorem watched_head (refusal : String) : Watched refusal (tcDecHead (held refusal)) (tcDecHead granted) := by
  have hsch : Watched refusal (tcDecSch (held refusal)) (tcDecSch granted) := by
    refine (Watched.refl _).bind fun type => ?_
    cases type with
    | rr => exact .refl _
    | prio => exact (Watched.fetchAllocated fetch_takes).bind fun _ => .refl _
  have hcls : Watched refusal (tcDecCls (held refusal)) (tcDecCls granted) := by
    refine (Watched.refl _).bind fun type => ?_
    cases type with
    | rr => exact .refl _
    | osi => exact (Watched.fetchAllocated takes_filter).bind fun _ => .refl _
    | sto => exact .refl _
  exact hsch.bind fun _ => (Watched.refl _).bind fun _ => (Watched.refl _).bind fun _ => (Watched.refl _).bind fun _ =>
    hcls.bind fun _ => .refl _

/-- Up to the queues the decoders do the same, when the number of queues is there. -/
theorem head_held {refusal : String} {buf rest : Bytes} {h : TcSch × TcPcr × TcCls × UInt32}
    (hok : tcDecHead granted buf = .ok (h, rest)) : tcDecHead (held refusal) buf = .ok (h, rest) := by
  rcases watched_head refusal buf with heq | ⟨-, hpast⟩
  · exact heq.trans hok
  · rw [hok] at hpast
    cases hpast

theorem decIndMsg_refused {refusal : String} {buf : Bytes} (h : ¬TcIndMsg.QueuesHeld buf) :
    tcDecIndMsgCalloc (held refusal) buf = .error refusal := by
  simp only [TcIndMsg.QueuesHeld, not_forall] at h
  obtain ⟨sch, pcr, cls, len, ps, rest, hparts, rfl, hrest, hlt⟩ := h
  have hne : ps.flatten.flatten ++ rest ≠ [] := List.append_ne_nil_of_right_ne_nil _ hrest
  have hhead := ((steps_head).accepts (a := (sch, pcr, cls, len)) hne).mpr ⟨ps, hparts, rfl, hrest⟩
  have hdec : tcDecIndMsg (held refusal) (ps.flatten.flatten ++ rest) = .error refusal := by
    rw [tcDecIndMsg_eq]
    refine bind_of_error ?_
    rw [bind_of_ok (head_held hhead), tcDecQueues]
    exact bind_of_error (allocated_refused (Nat.lt_of_not_le hlt))
  rw [tcDecIndMsgCalloc, Reader.whole, hdec]
  rfl

theorem decIndMsg_held {buf : Bytes} (h : TcIndMsg.QueuesHeld buf) (refusal : String) :
    tcDecIndMsgCalloc (held refusal) buf = tcDecIndMsgCalloc granted buf ∨
      tcDecIndMsgCalloc (held refusal) buf = .error refusal ∧ tcDecIndMsgCalloc granted buf = .error pastEnd := by
  refine whole_watched ?_ _
  rw [tcDecIndMsg_eq, tcDecIndMsg_eq, bind_assoc, bind_assoc]
  rcases watched_head refusal buf with heq | ⟨hh, hpast⟩
  · cases hok : tcDecHead granted buf with
    | error msg => exact .inl ((bind_of_error (heq.trans hok)).trans (bind_of_error hok).symm)
    | ok p =>
      obtain ⟨⟨sch, pcr, cls, len⟩, rest⟩ := p
      have hne : buf ≠ [] := by
        rintro rfl
        cases hok
      obtain ⟨ps, hparts, hbuf, hrest⟩ := ((steps_head).accepts hne).mp hok
      rw [bind_of_ok (heq.trans hok), bind_of_ok hok]
      have hqueues := @allocated_held _ tcDecShpPlcQ _ _ _ refusal (h _ _ _ _ _ _ hparts hbuf hrest)
      exact .inl (bind_congr_at (bind_congr_at hqueues))
  · exact .inr ⟨bind_of_error hh, bind_of_error hpast⟩

/-! ### What the bytes of an indication encode -/

def TcClsOsiFilter.Encodes (f : TcClsOsiFilter) (bs : Bytes) : Prop :=
  ∃ p q : Padding 4, bs = put f.id ++ put p ++ put f.l3.srcAddr ++ put f.l3.dstAddr ++ put f.l4.srcPort ++
    put f.l4.dstPort ++ put f.l4.protocol ++ put f.l7.dummy ++ put f.dstQueue ++ put q

def TcCls.Encodes : TcCls → Bytes → Prop
  | .osi flt, bs =>
    ∃ fs, List.Forall₂ TcClsOsiFilter.Encodes flt.items fs ∧ bs = putEnum TcClsE.osi ++ (put flt.len ++ fs.flatten)
  | cls, bs => bs = tcEncCls cls

/-- The bytes are what the encoder writes for a message, with whatever lies in the padding of its filters. -/
def TcIndMsg.Encodes (m : TcIndMsg) (bs : Bytes) : Prop :=
  ∃ cls, m.cls.Encodes cls ∧ bs = tcEncSch m.sch ++ (tcEncPcr m.pcr ++ (cls ++ (put m.queues.len ++
    (m.queues.items.flatMap tcEncEntry ++ put m.tstamp))))

theorem TcClsOsiFilter.encodes_put (f : TcClsOsiFilter) : f.Encodes (putClsOsiFilter f) := by
  refine ⟨.zeros 4, .zeros 4, ?_⟩
  rw [put_zeros]
  rfl

/-- What the encoder writes, with zeros in the padding, encodes the message. -/
theorem TcIndMsg.encodes_tcEncIndMsg (m : TcIndMsg) : m.Encodes (tcEncIndMsg m) := by
  refine ⟨tcEncCls m.cls, ?_, rfl⟩
  cases m.cls with
  | rr dummy => rfl
  | osi flt =>
    refine ⟨flt.items.map putClsOsiFilter, ?_, ?_⟩
    · rw [List.forall₂_map_right_iff, List.forall₂_same]
      exact fun f _ => f.encodes_put
    · rw [tcEncCls, tcEncClsOsi, List.flatMap_def]
  | sto dummy => rfl

theorem flatten_sch (sch : TcSch) : sch.members.flatten = tcEncSch sch := by
  cases sch with
  | rr dummy => simp [TcSch.members, TcSch.type, tcEncSch]
  | prio qPrio => simp [TcSch.members, TcSch.type, tcEncSch, scalars, List.flatMap_def]

theorem flatten_mtr (mtr : TcMtr) : mtr.members.flatten = tcEncMtr mtr := by simp [TcMtr.members, tcEncMtr]

theorem flatten_pcr (pcr : TcPcr) : pcr.members.flatten = tcEncPcr pcr := by
  simp [TcPcr.members, tcEncPcr, flatten_mtr]

theorem flatten_shp (shp : TcShp) : shp.members.flatten = tcEncShp shp := by
  simp [TcShp.members, tcEncShp, flatten_mtr]

theorem flatten_plc (plc : TcPlc) : plc.members.flatten = tcEncPlc plc := by
  simp [TcPlc.members, tcEncPlc, flatten_mtr, tcEncDrp, tcEncMrk]

theorem flatten_qCounters {δ : Type} {m : δ → List Bytes} {enc : δ → Bytes} (h : ∀ d, (m d).flatten = enc d)
    (q : TcQueueCounters δ) : (q.members m).flatten = tcEncQCounters enc q := by
  simp [TcQueueCounters.members, tcEncQCounters, h]

theorem flatten_q (q : TcQueue) : q.members.flatten = tcEncQ q := by
  rcases q with ⟨id, fifo | codel | ecn⟩
  · exact congrArg (putEnum TcQueueE.fifo ++ ·) (flatten_qCounters (fun drp => List.flatten_singleton) fifo)
  · exact congrArg (putEnum TcQueueE.codel ++ ·) (flatten_qCounters (fun drp => List.flatten_singleton) codel)
  · exact congrArg (putEnum TcQueueE.ecnCodel ++ ·) (flatten_qCounters (fun mrk => List.flatten_singleton) ecn)

theorem flatten_entries (es : List (TcShp × TcPlc × TcQueue)) :
    (es.flatMap entryParts).flatten.flatten = es.flatMap tcEncEntry := by
  induction es with
  | nil => rfl
  | cons e es ih =>
    rw [List.flatMap_cons, List.flatMap_cons, List.flatten_append, List.flatten_append, ih]
    simp [entryParts, tcEncEntry, flatten_shp, flatten_plc, flatten_q]

theorem TcClsOsiFilter.Members.encodes {f : TcClsOsiFilter} {ms : List Bytes} (h : f.Members ms) :
    f.Encodes ms.flatten := by
  obtain ⟨p, q, rfl⟩ := h
  exact ⟨p, q, by simp⟩

theorem TcCls.Members.encodes {cls : TcCls} {ms : List Bytes} (h : cls.Members ms) : cls.Encodes ms.flatten := by
  cases cls with
  | rr dummy =>
    obtain rfl := h
    simp [TcCls.Encodes, tcEncCls]
  | osi flt =>
    obtain ⟨fs, hfs, rfl⟩ := h
    refine ⟨fs.map List.flatten, ?_, ?_⟩
    · rw [List.forall₂_map_right_iff]
      exact hfs.imp fun _ _ h => h.encodes
    · rw [List.flatten_cons, List.flatten_cons, List.flatten_flatten]
  | sto dummy =>
    obtain rfl := h
    simp [TcCls.Encodes, tcEncCls]

theorem TcIndMsg.Parts.encodes {m : TcIndMsg} {ps : List (List Bytes)} (h : m.Parts ps) : m.Encodes ps.flatten.flatten := by
  obtain ⟨_, ⟨head, ⟨-, ms, hcls, rfl⟩, -, rfl⟩, rfl⟩ := h
  refine ⟨ms.flatten, hcls.encodes, ?_⟩
  simp [flatten_sch, flatten_pcr, flatten_entries]

/-- The decoder is safe on a chunk that it does not run past the end of, and that has room for the queues. -/
theorem decIndMsg_safe_iff (buf : Bytes) :
    Safe tcDecIndMsgCalloc TcIndMsg.Encodes buf ↔ ¬TcIndMsg.CutOff buf ∧ TcIndMsg.QueuesHeld buf := by
  constructor
  · intro h
    refine ⟨mt (decIndMsg_past).mpr h.inside, ?_⟩
    obtain ⟨refusal, hheld⟩ := h.held
    by_contra hn
    exact hheld (decIndMsg_refused hn)
  · rintro ⟨hcut, hheld⟩
    have hpast := mt (decIndMsg_past).mp hcut
    refine safe_of_watched (decIndMsg_held hheld) hpast fun m hok => ?_
    have hne : buf ≠ [] := fun h => hcut (.inl h)
    obtain ⟨⟨m', rest⟩, hr, hok⟩ := Except.bind_eq_ok.mp hok
    obtain ⟨_, hrest, hok⟩ := Except.bind_eq_ok.mp hok
    obtain rfl := Except.ok.inj hok
    obtain rfl := require_eq_ok.mp hrest
    obtain ⟨ps, hparts, rfl⟩ := (tcDecIndMsg_accepts hne).mp hr
    rw [List.append_nil]
    exact hparts.encodes

end FlexRic.Sm.Tc
