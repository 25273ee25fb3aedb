import FlexRic.Sm.Tc.CtrlPlain

/-! # What the plain codec of traffic control commands carries -/

namespace FlexRic.Sm.Tc
open Plain

/-! ### Actions -/

section Actions
variable {α δ μ : Type} {calAdd : α → Nat} {calDel : δ → Nat} {calMod : μ → Nat} {add : α → Bytes} {del : δ → Bytes}
  {mod : μ → Bytes} {radd : Reader α} {rdel : Reader δ} {rmod : Reader μ} {c : TcCtrl α δ μ} {msg : String}

theorem fits_act (hadd : ∀ a, c = .add a → Fits (calAdd a) (add a) radd a)
    (hdel : ∀ d, c = .del d → Fits (calDel d) (del d) rdel d) (hmod : ∀ m, c = .mod m → Fits (calMod m) (mod m) rmod m) :
    Fits (calTcCtrlPayloadAct calAdd calDel calMod c) (encTcCtrlPayloadAct add del mod c)
      (decTcCtrlPayloadAct radd rdel rmod msg) c := by
  cases c with
  | add a => exact (fetchEnum_fits TcCtrlActE.add msg).andThen (hadd a rfl).last
  | del d => exact (fetchEnum_fits TcCtrlActE.del msg).andThen (hdel d rfl).last
  | mod m => exact (fetchEnum_fits TcCtrlActE.mod msg).andThen (hmod m rfl).last

end Actions

/-! ### Classifiers -/

/-- A command that adds a classifier of the OSI layers. -/
def TcCtrlCls.AddsOsi : TcCtrlCls → Prop
  | .add (.osi _) => True
  | _ => False

theorem fits_addCls (add : TcAddCtrlCls) (h : ∀ osi, add ≠ .osi osi) :
    Fits (calTcAddCtrlPayloadCls add) (encTcAddCtrlPayloadCls add) decTcAddCtrlPayloadCls add := by
  cases add with
  | rr dummy => exact (fetchEnum_fits TcClsE.rr _).andThen (fetch_fits dummy).last
  | osi osi => exact absurd rfl (h osi)
  | sto dummy => exact (fetchEnum_fits TcClsE.sto _).andThen (fetch_fits dummy).last

theorem fits_delCls (del : TcDelCtrlCls) :
    Fits (calTcDelCtrlPayloadCls del) (encTcDelCtrlPayloadCls del) decTcDelCtrlPayloadCls del := by
  cases del with
  | rr dummy => exact (fetchEnum_fits TcClsE.rr _).andThen (fetch_fits dummy).last
  | osi filterId => exact (fetchEnum_fits TcClsE.osi _).andThen (fetch_fits filterId).last
  | sto dummy => exact (fetchEnum_fits TcClsE.sto _).andThen (fetch_fits dummy).last

theorem fits_modCls (mod : TcModCtrlCls) :
    Fits (calTcModCtrlPayloadCls mod) (encTcModCtrlPayloadCls mod) decTcModCtrlPayloadCls mod := by
  cases mod with
  | rr dummy => exact (fetchEnum_fits TcClsE.rr _).andThen (fetch_fits dummy).last
  | osi filter =>
    have hfilter : Fits sizeofClsOsiFilter (putClsOsiFilter filter) fetchClsOsiFilter filter :=
      ⟨length_putClsOsiFilter filter, fetchClsOsiFilter_reads filter⟩
    exact (fetchEnum_fits TcClsE.osi _).andThen hfilter.last
  | sto dummy => exact (fetchEnum_fits TcClsE.sto _).andThen (fetch_fits dummy).last

theorem fits_cls {cls : TcCtrlCls} (h : ¬cls.AddsOsi) :
    Fits (calTcCtrlPayloadCls cls) (encTcCtrlPayloadCls cls) decTcCtrlPayloadCls cls := by
  refine fits_act (fun add hadd => fits_addCls add fun osi hosi => ?_) (fun del _ => fits_delCls del)
    (fun mod _ => fits_modCls mod)
  subst hadd hosi
  exact h trivial

/-- Four bytes more are computed for the classifier than are written. -/
theorem calTcCtrlPayloadCls_ne {cls : TcCtrlCls} (h : cls.AddsOsi) :
    (encTcCtrlPayloadCls cls).length ≠ calTcCtrlPayloadCls cls := by
  rcases cls with (_ | osi | _) | _ | _
  case add.osi =>
    simp only [encTcCtrlPayloadCls, encTcCtrlPayloadAct, encTcAddCtrlPayloadCls, encTcAddCtrlPayloadClsOsi,
      List.length_append, length_put, length_putEnum]
    show _ ≠ sizeofEnum + (sizeofEnum + (sizeofL3Filter + sizeofL4Filter + sizeofL7Filter + sizeof Int32))
    decide
  all_goals exact h.elim

/-! ### The other components -/

theorem fits_plc (plc : TcCtrlPlc) : Fits (calTcCtrlPayloadPlc plc) (encTcCtrlPayloadPlc plc) decTcCtrlPayloadPlc plc := by
  refine fits_act (fun add _ => (fetch_fits add.dummy).last) (fun del _ => (fetch_fits del.id).last) fun mod _ => ?_
  refine Fits.of_eq ((fetch_fits mod.id).andThen ((fetch_fits mod.dropRateKbps).andThen ((fetch_fits mod.devId).andThen
    ((fetch_fits mod.devRateKbps).andThen (fetch_fits mod.active).last)))) rfl ?_
  simp only [encTcModCtrlPayloadPlc, List.append_assoc]

theorem fits_qCodel (codel : TcCtrlQueueCodel) :
    Fits (calTcCtrlPayloadQCodel codel) (encTcCtrlPayloadQCodel codel) decTcCtrlPayloadQCodel codel :=
  (fetch_fits codel.targetMs).andThen (fetch_fits codel.intervalMs).last

theorem fits_qU (u : TcCtrlQueueU) :
    Fits (sizeofEnum + calTcCtrlPayloadQU u) (encTcCtrlPayloadQU u) decTcCtrlPayloadQU u := by
  cases u with
  | fifo dummy => exact (fetchEnum_fits TcQueueE.fifo _).andThen (fetch_fits dummy).last
  | codel codel => exact (fetchEnum_fits TcQueueE.codel _).andThen (fits_qCodel codel).last
  | ecn ecn => exact (fetchEnum_fits TcQueueE.ecnCodel _).andThen (fits_qCodel ecn).last

theorem fits_q (q : TcCtrlQueue) : Fits (calTcCtrlPayloadQ q) (encTcCtrlPayloadQ q) decTcCtrlPayloadQ q := by
  refine fits_act (fun add _ => fits_qU add)
    (fun del _ => (fetch_fits del.id).andThen (fetch_fits del.type).last) fun mod _ => ?_
  refine Fits.of_eq ((fetch_fits mod.id).andThen (fits_qU mod.u).last) ?_ rfl
  rw [calTcCtrlPayloadQMod, Nat.add_assoc]

theorem fits_sch (sch : TcCtrlSch) : Fits (calTcCtrlPayloadSch sch) (encTcCtrlPayloadSch sch)
    (decTcCtrlPayloadSch granted) sch := by
  simp only [decTcCtrlPayloadSch, decTcModCtrlPayloadSch, fetchAllocated_granted]
  refine fits_act (fun add _ => (fetch_fits add.dummy).last) (fun del _ => (fetch_fits del.dummy).last) fun mod _ => ?_
  cases mod with
  | rr dummy => exact (fetchEnum_fits TcSchE.rr _).andThen (fetch_fits dummy).last
  | prio qPrio => exact (fetchEnum_fits TcSchE.prio _).andThen (fetchCounted_fits qPrio).last

theorem fits_shp (shp : TcCtrlShp) : Fits (calTcCtrlPayloadShp shp) (encTcCtrlPayloadShp shp) decTcCtrlPayloadShp shp := by
  refine fits_act (fun add _ => (fetch_fits add.dummy).last) (fun del _ => (fetch_fits del.id).last) fun mod _ => ?_
  refine Fits.of_eq ((fetch_fits mod.id).andThen ((fetch_fits mod.timeWindowMs).andThen
    ((fetch_fits mod.maxRateKbps).andThen (fetch_fits mod.active).last))) rfl ?_
  simp only [encTcModCtrlPayloadShp, List.append_assoc]

theorem fits_pcr (pcr : TcCtrlPcr) : Fits (calTcCtrlPayloadPcr pcr) (encTcCtrlPayloadPcr pcr) decTcCtrlPayloadPcr pcr := by
  refine fits_act (fun add _ => (fetch_fits add.dummy).last) (fun del _ => (fetch_fits del.dummy).last) fun mod _ => ?_
  cases mod with
  | dummy dummy => exact (fetchEnum_fits TcPcrE.dummy _).andThen (fetch_fits dummy).last
  | bdp bdp => exact (fetchEnum_fits TcPcrE.bdp5g _).andThen ((fetch_fits bdp.drbSz).andThen (fetch_fits bdp.tstamp).last)

/-! ### Messages -/

/-- A message that adds a classifier of the OSI layers. -/
def TcCtrlMsg.AddsOsi : TcCtrlMsg → Prop
  | .cls c => TcCtrlCls.AddsOsi c
  | _ => False

theorem fits_ctrlMsg {ctrlMsg : TcCtrlMsg} (h : ¬ctrlMsg.AddsOsi) :
    Fits (calTcCtrlPayload ctrlMsg) (encTcCtrlPayload ctrlMsg) (decTcCtrlPayload granted) ctrlMsg := by
  cases ctrlMsg with
  | cls cls => exact (fetchEnum_fits TcCtrlMsgE.cls _).andThen (fits_cls h).last
  | plc plc => exact (fetchEnum_fits TcCtrlMsgE.plc _).andThen (fits_plc plc).last
  | q q => exact (fetchEnum_fits TcCtrlMsgE.queue _).andThen (fits_q q).last
  | sch sch => exact (fetchEnum_fits TcCtrlMsgE.sch _).andThen (fits_sch sch).last
  | shp shp => exact (fetchEnum_fits TcCtrlMsgE.shp _).andThen (fits_shp shp).last
  | pcr pcr => exact (fetchEnum_fits TcCtrlMsgE.pcr _).andThen (fits_pcr pcr).last

theorem calTcCtrlPayload_ne {ctrlMsg : TcCtrlMsg} (h : ctrlMsg.AddsOsi) :
    (encTcCtrlPayload ctrlMsg).length ≠ calTcCtrlPayload ctrlMsg := by
  cases ctrlMsg with
  | cls cls =>
    rw [encTcCtrlPayload, calTcCtrlPayload, List.length_append, length_putEnum]
    exact fun hlen => calTcCtrlPayloadCls_ne h (Nat.add_left_cancel hlen)
  | _ => exact h.elim

theorem encTcCtrlPayload_pos (ctrlMsg : TcCtrlMsg) : 0 < (encTcCtrlPayload ctrlMsg).length := by
  cases ctrlMsg <;> rw [encTcCtrlPayload, List.length_append, length_putEnum] <;> exact Nat.add_pos_left (by decide) _

/-- A message is encoded in as many bytes as were computed for it, and all of them are read back to it. -/
def TcCtrlMsg.Carried (ctrlMsg : TcCtrlMsg) : Prop :=
  ∃ buf, tcEncCtrlMsgPlain ctrlMsg = .ok buf ∧ buf.length = calTcCtrlPayload ctrlMsg ∧ tcDecCtrlMsgPlain buf = .ok ctrlMsg

theorem TcCtrlMsg.AddsOsi.not_carried {ctrlMsg : TcCtrlMsg} (h : ctrlMsg.AddsOsi) : ¬ctrlMsg.Carried := by
  rintro ⟨buf, henc, -, -⟩
  obtain ⟨_, hlen, -⟩ := Except.bind_eq_ok.mp henc
  exact calTcCtrlPayload_ne h (require_eq_ok.mp hlen)

/-- Every message is carried but one that adds a classifier of the OSI layers: its encoding aborts. -/
theorem carried_iff_not_addsOsi (ctrlMsg : TcCtrlMsg) : ctrlMsg.Carried ↔ ¬ctrlMsg.AddsOsi := by
  constructor
  · intro hc hosi
    exact hosi.not_carried hc
  · intro h
    have hfits := fits_ctrlMsg h
    refine ⟨encTcCtrlPayload ctrlMsg, ?_, hfits.length, ?_⟩
    · rw [tcEncCtrlMsgPlain, require_of hfits.length]
      rfl
    · rw [tcDecCtrlMsgPlain, tcDecCtrlMsgCalloc, require_of (encTcCtrlPayload_pos ctrlMsg)]
      exact hfits.reads.whole _

/-- A classifier that sends TCP packets to queue 1. -/
def addTcp : TcCtrlMsg := .cls (.add (.osi ⟨⟨-1, -1⟩, ⟨-1, -1, 6⟩, ⟨0⟩, 1⟩))

theorem osi_classifier_aborts :
    tcEncCtrlMsgPlain addTcp = .error "it == ba.buf + ba.len" ∧ ¬∀ ctrlMsg : TcCtrlMsg, ctrlMsg.Carried := by
  refine ⟨by decide +kernel, fun h => ?_⟩
  have hosi : addTcp.AddsOsi := trivial
  exact hosi.not_carried (h addTcp)

end FlexRic.Sm.Tc
