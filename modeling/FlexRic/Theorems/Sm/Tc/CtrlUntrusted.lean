import FlexRic.Theorems.Sm.Tc.Control
import FlexRic.Theorems.Sm.Tc.IndUntrusted

/-! # Traffic control messages that anyone may have sent

The decoder asserts that the chunk has a first byte, and at the end that there is no other one. What it reads of a
classifier of the OSI layers is not what its encoder would write. -/

namespace FlexRic.Sm.Tc
open Plain

instance : Enumerators.Distinct TcPcrE := ⟨of_decide_eq_true rfl⟩
instance : Enumerators.Distinct TcCtrlActE := ⟨of_decide_eq_true rfl⟩
instance : Enumerators.Distinct TcCtrlMsgE := ⟨of_decide_eq_true rfl⟩

/-! ### Members -/

section Actions
variable {α δ μ : Type}

def TcCtrl.Members (add : α → List Bytes → Prop) (del : δ → List Bytes → Prop) (mod : μ → List Bytes → Prop) :
    TcCtrl α δ μ → List Bytes → Prop
  | .add a, ms => ∃ t, add a t ∧ ms = putEnum TcCtrlActE.add :: t
  | .del d, ms => ∃ t, del d t ∧ ms = putEnum TcCtrlActE.del :: t
  | .mod m, ms => ∃ t, mod m t ∧ ms = putEnum TcCtrlActE.mod :: t

/-- What follows the kind of an action. -/
def TcCtrl.Payload (add : α → List Bytes → Prop) (del : δ → List Bytes → Prop) (mod : μ → List Bytes → Prop) :
    TcCtrlActE → TcCtrl α δ μ → List Bytes → Prop
  | .add, c, ms => ∃ a, c = .add a ∧ add a ms
  | .del, c, ms => ∃ d, c = .del d ∧ del d ms
  | .mod, c, ms => ∃ m, c = .mod m ∧ mod m ms

theorem lays_act {radd : Reader α} {rdel : Reader δ} {rmod : Reader μ} {add : α → List Bytes → Prop}
    {del : δ → List Bytes → Prop} {mod : μ → List Bytes → Prop} {msg : String} (hadd : Lays radd add)
    (hdel : Lays rdel del) (hmod : Lays rmod mod) (hmsg : msg ≠ pastEnd) :
    Lays (decTcCtrlPayloadAct radd rdel rmod msg) (TcCtrl.Members add del mod) := by
  refine (Lays.enum (F := TcCtrl.Payload add del mod) hmsg ⟨.add⟩ fun act => ?_).congr fun c ms => ?_
  · cases act with
    | add => exact hadd.map _
    | del => exact hdel.map _
    | mod => exact hmod.map _
  · constructor
    · rintro ⟨_ | _ | _, t, ⟨_, rfl, h⟩, rfl⟩
      · exact ⟨t, h, rfl⟩
      · exact ⟨t, h, rfl⟩
      · exact ⟨t, h, rfl⟩
    · intro h
      cases c with
      | add a =>
        obtain ⟨t, h, rfl⟩ := h
        exact ⟨.add, t, ⟨a, rfl, h⟩, rfl⟩
      | del d =>
        obtain ⟨t, h, rfl⟩ := h
        exact ⟨.del, t, ⟨d, rfl, h⟩, rfl⟩
      | mod m =>
        obtain ⟨t, h, rfl⟩ := h
        exact ⟨.mod, t, ⟨m, rfl, h⟩, rfl⟩

end Actions

def TcAddClsOsi.members (osi : TcAddClsOsi) : List Bytes :=
  [put osi.l3.srcAddr, put osi.l3.dstAddr, put osi.l4.srcPort, put osi.l4.dstPort, put osi.l4.protocol,
   put osi.dstQueue]

def TcAddCtrlCls.type : TcAddCtrlCls → TcClsE
  | .rr _ => .rr
  | .osi _ => .osi
  | .sto _ => .sto

def TcAddCtrlCls.members (add : TcAddCtrlCls) : List Bytes :=
  putEnum add.type ::
    match add with
    | .rr d => [put d]
    | .osi o => o.members
    | .sto d => [put d]

/-- The filter of layer 7 is zero. -/
def TcAddCtrlCls.NoL7 : TcAddCtrlCls → Prop
  | .osi o => o.l7.dummy = 0
  | _ => True

def TcDelCtrlCls.type : TcDelCtrlCls → TcClsE
  | .rr _ => .rr
  | .osi _ => .osi
  | .sto _ => .sto

def TcDelCtrlCls.members (del : TcDelCtrlCls) : List Bytes :=
  putEnum del.type ::
    match del with
    | .rr dummy => [put dummy]
    | .osi filterId => [put filterId]
    | .sto dummy => [put dummy]

def TcModCtrlCls.Members : TcModCtrlCls → List Bytes → Prop
  | .rr dummy, ms => ms = [putEnum TcClsE.rr, put dummy]
  | .osi filter, ms => ∃ t, filter.Members t ∧ ms = putEnum TcClsE.osi :: t
  | .sto dummy, ms => ms = [putEnum TcClsE.sto, put dummy]

def TcModCtrlPlc.members (mod : TcModCtrlPlc) : List Bytes :=
  [put mod.id, put mod.dropRateKbps, put mod.devId, put mod.devRateKbps, put mod.active]

def TcCtrlQueueCodel.members (codel : TcCtrlQueueCodel) : List Bytes := [put codel.targetMs, put codel.intervalMs]

def TcCtrlQueueU.type : TcCtrlQueueU → TcQueueE
  | .fifo _ => .fifo
  | .codel _ => .codel
  | .ecn _ => .ecnCodel

def TcCtrlQueueU.members (u : TcCtrlQueueU) : List Bytes :=
  putEnum u.type ::
    match u with
    | .fifo d => [put d]
    | .codel c => c.members
    | .ecn c => c.members

/-- A message that changes the scheduler has a member for a round robin one. -/
def TcSch.ctrlMembers (sch : TcModCtrlSch) : List Bytes :=
  putEnum sch.type ::
    match sch with
    | .rr dummy => [put dummy]
    | .prio qPrio => scalars qPrio

def TcModCtrlShp.members (mod : TcModCtrlShp) : List Bytes :=
  [put mod.id, put mod.timeWindowMs, put mod.maxRateKbps, put mod.active]

def TcModCtrlPcr.type : TcModCtrlPcr → TcPcrE
  | .dummy _ => .dummy
  | .bdp _ => .bdp5g

def TcModCtrlPcr.members (mod : TcModCtrlPcr) : List Bytes :=
  putEnum mod.type ::
    match mod with
    | .dummy d => [put d]
    | .bdp b => [put b.drbSz, put b.tstamp]

def clsMembers : TcCtrlCls → List Bytes → Prop :=
  TcCtrl.Members (fun add ms => add.NoL7 ∧ ms = add.members) (fun del ms => ms = del.members) TcModCtrlCls.Members

def plcMembers : TcCtrlPlc → List Bytes → Prop :=
  TcCtrl.Members (fun add ms => ms = [put add.dummy]) (fun del ms => ms = [put del.id]) (fun mod ms => ms = mod.members)

def qMembers : TcCtrlQueue → List Bytes → Prop :=
  TcCtrl.Members (fun add ms => ms = TcCtrlQueueU.members add) (fun del ms => ms = [put del.id, put del.type])
    (fun mod ms => ms = put mod.id :: mod.u.members)

def schMembers : TcCtrlSch → List Bytes → Prop :=
  TcCtrl.Members (fun add ms => ms = [put add.dummy]) (fun del ms => ms = [put del.dummy])
    (fun mod ms => ms = TcSch.ctrlMembers mod)

def shpMembers : TcCtrlShp → List Bytes → Prop :=
  TcCtrl.Members (fun add ms => ms = [put add.dummy]) (fun del ms => ms = [put del.id]) (fun mod ms => ms = mod.members)

def pcrMembers : TcCtrlPcr → List Bytes → Prop :=
  TcCtrl.Members (fun add ms => ms = [put add.dummy]) (fun del ms => ms = [put del.dummy]) (fun mod ms => ms = mod.members)

def TcCtrlMsg.Members : TcCtrlMsg → List Bytes → Prop
  | .cls c, ms => ∃ t, clsMembers c t ∧ ms = putEnum TcCtrlMsgE.cls :: t
  | .plc c, ms => ∃ t, plcMembers c t ∧ ms = putEnum TcCtrlMsgE.plc :: t
  | .q c, ms => ∃ t, qMembers c t ∧ ms = putEnum TcCtrlMsgE.queue :: t
  | .sch c, ms => ∃ t, schMembers c t ∧ ms = putEnum TcCtrlMsgE.sch :: t
  | .shp c, ms => ∃ t, shpMembers c t ∧ ms = putEnum TcCtrlMsgE.shp :: t
  | .pcr c, ms => ∃ t, pcrMembers c t ∧ ms = putEnum TcCtrlMsgE.pcr :: t

/-! ### What the readers accept -/

theorem exact_addClsOsi : Exact decTcAddCtrlPayloadClsOsi (fun osi => osi.l7.dummy = 0) TcAddClsOsi.members :=
  .scalar (fun osi : TcAddClsOsi => osi.l3.srcAddr) fun _ => .scalar (fun osi => osi.l3.dstAddr) fun _ =>
  .scalar (fun osi => osi.l4.srcPort) fun _ => .scalar (fun osi => osi.l4.dstPort) fun _ =>
  .scalar (fun osi => osi.l4.protocol) fun _ => .scalar TcAddClsOsi.dstQueue fun _ =>
  .pure fun ⟨⟨_, _⟩, ⟨_, _, _⟩, ⟨_⟩, _⟩ => by grind

theorem exact_addCls : Exact decTcAddCtrlPayloadCls TcAddCtrlCls.NoL7 TcAddCtrlCls.members := by
  refine Exact.enum TcAddCtrlCls.type (fun type => ?_) (by decide) ⟨.rr 0, trivial⟩
  cases type with
  | rr =>
    exact (fetch_exact.map TcAddCtrlCls.rr (fun add => by
      cases add <;> simp [TcAddCtrlCls.type, TcAddCtrlCls.NoL7]) fun _ => rfl).toSound
  | osi =>
    exact ((exact_addClsOsi).map TcAddCtrlCls.osi (fun add => by
      cases add <;> simp [TcAddCtrlCls.type, TcAddCtrlCls.NoL7]) fun _ => rfl).toSound
  | sto =>
    exact (fetch_exact.map TcAddCtrlCls.sto (fun add => by
      cases add <;> simp [TcAddCtrlCls.type, TcAddCtrlCls.NoL7]) fun _ => rfl).toSound

theorem exact_delCls : Exact decTcDelCtrlPayloadCls (fun _ => True) TcDelCtrlCls.members := by
  refine Exact.enum TcDelCtrlCls.type (fun type => ?_) (by decide) ⟨.rr 0, trivial⟩
  cases type with
  | rr => exact (fetch_exact.map TcDelCtrlCls.rr (fun del => by cases del <;> simp [TcDelCtrlCls.type]) fun _ => rfl).toSound
  | osi => exact (fetch_exact.map TcDelCtrlCls.osi (fun del => by cases del <;> simp [TcDelCtrlCls.type]) fun _ => rfl).toSound
  | sto => exact (fetch_exact.map TcDelCtrlCls.sto (fun del => by cases del <;> simp [TcDelCtrlCls.type]) fun _ => rfl).toSound

/-- What follows the type of a changed classifier. -/
def TcModCtrlCls.Payload : TcClsE → TcModCtrlCls → List Bytes → Prop
  | .rr, mod, ms => ∃ dummy, mod = .rr dummy ∧ ms = [put dummy]
  | .osi, mod, ms => ∃ filter, mod = .osi filter ∧ filter.Members ms
  | .sto, mod, ms => ∃ dummy, mod = .sto dummy ∧ ms = [put dummy]

theorem lays_modCls : Lays decTcModCtrlPayloadCls TcModCtrlCls.Members := by
  refine (Lays.enum (F := TcModCtrlCls.Payload) (by decide) ⟨.rr⟩ fun type => ?_).congr fun mod ms => ?_
  · cases type with
    | rr => exact fetch_lays.map _
    | osi => exact lays_filter.map _
    | sto => exact fetch_lays.map _
  · constructor
    · rintro ⟨_ | _ | _, t, ⟨_, rfl, h⟩, rfl⟩
      · rw [h]
        rfl
      · exact ⟨t, h, rfl⟩
      · rw [h]
        rfl
    · intro h
      cases mod with
      | rr dummy => exact ⟨.rr, _, ⟨dummy, rfl, rfl⟩, h⟩
      | osi filter =>
        obtain ⟨t, ht, rfl⟩ := h
        exact ⟨.osi, t, ⟨filter, rfl, ht⟩, rfl⟩
      | sto dummy => exact ⟨.sto, _, ⟨dummy, rfl, rfl⟩, h⟩

theorem exact_modPlc : Exact decTcModCtrlPayloadPlc (fun _ => True) TcModCtrlPlc.members :=
  .scalar TcModCtrlPlc.id fun _ => .scalar TcModCtrlPlc.dropRateKbps fun _ => .scalar TcModCtrlPlc.devId fun _ =>
  .scalar TcModCtrlPlc.devRateKbps fun _ => .scalar TcModCtrlPlc.active fun _ => .pure fun ⟨_, _, _, _, _⟩ => by grind

theorem exact_qCodel : Exact decTcCtrlPayloadQCodel (fun _ => True) TcCtrlQueueCodel.members :=
  .scalar TcCtrlQueueCodel.targetMs fun _ => .scalar TcCtrlQueueCodel.intervalMs fun _ => .pure fun ⟨_, _⟩ => by grind

theorem exact_qU : Exact decTcCtrlPayloadQU (fun _ => True) TcCtrlQueueU.members := by
  refine Exact.enum TcCtrlQueueU.type (fun type => ?_) (by decide) ⟨.fifo 0, trivial⟩
  cases type with
  | fifo => exact (fetch_exact.map TcCtrlQueueU.fifo (fun u => by cases u <;> simp [TcCtrlQueueU.type]) fun _ => rfl).toSound
  | codel =>
    exact ((exact_qCodel).map TcCtrlQueueU.codel (fun u => by cases u <;> simp [TcCtrlQueueU.type]) fun _ => rfl).toSound
  | ecnCodel =>
    exact ((exact_qCodel).map TcCtrlQueueU.ecn (fun u => by cases u <;> simp [TcCtrlQueueU.type]) fun _ => rfl).toSound

theorem exact_delQ : Exact decTcDelCtrlPayloadQ (fun _ => True) (fun del => [put del.id, put del.type]) :=
  .scalar TcDelCtrlQueue.id fun _ => .scalar TcDelCtrlQueue.type fun _ => .pure fun ⟨_, _⟩ => by grind

theorem exact_modQ : Exact decTcModCtrlPayloadQ (fun _ => True) (fun mod => put mod.id :: mod.u.members) := by
  refine (Exact.scalar TcModCtrlQueue.id fun _ => .field TcModCtrlQueue.u exact_qU
    (fun _ _ => .pure fun ⟨_, _⟩ => by grind) fun _ _ => trivial).congr fun mod _ => ?_
  rw [List.append_nil]

theorem exact_modSch : Exact (decTcModCtrlPayloadSch granted) (fun _ => True) TcSch.ctrlMembers := by
  simp only [decTcModCtrlPayloadSch, fetchAllocated_granted]
  refine Exact.enum TcSch.type (fun type => ?_) (by decide) ⟨.rr 0, trivial⟩
  cases type with
  | rr => exact (fetch_exact.map TcSch.rr (fun sch => by cases sch <;> simp [TcSch.type]) fun _ => rfl).toSound
  | prio => exact (fetchScalars_exact.map TcSch.prio (fun sch => by cases sch <;> simp [TcSch.type]) fun _ => rfl).toSound

theorem exact_modShp : Exact decTcModCtrlPayloadShp (fun _ => True) TcModCtrlShp.members :=
  .scalar TcModCtrlShp.id fun _ => .scalar TcModCtrlShp.timeWindowMs fun _ => .scalar TcModCtrlShp.maxRateKbps fun _ =>
  .scalar TcModCtrlShp.active fun _ => .pure fun ⟨_, _, _, _⟩ => by grind

theorem exact_modPcr : Exact decTcModCtrlPayloadPcr (fun _ => True) TcModCtrlPcr.members := by
  have hbdp : Exact (fetch UInt32 >>= fun drbSz => fetch Int64 >>= fun tstamp => pure (TcPcr5gBdp.mk drbSz tstamp))
      (fun _ => True) (fun b => [put b.drbSz, put b.tstamp]) :=
    .scalar TcPcr5gBdp.drbSz fun _ => .scalar TcPcr5gBdp.tstamp fun _ => .pure fun ⟨_, _⟩ => by grind
  refine Exact.enum TcModCtrlPcr.type (fun type => ?_) (by decide) ⟨.dummy 0, trivial⟩
  cases type with
  | dummy =>
    exact (fetch_exact.map TcModCtrlPcr.dummy (fun mod => by cases mod <;> simp [TcModCtrlPcr.type]) fun _ => rfl).toSound
  | bdp5g =>
    have h := (hbdp.map TcModCtrlPcr.bdp (m := fun mod => match mod with
      | .dummy d => [put d]
      | .bdp b => [put b.drbSz, put b.tstamp]) (V := fun mod => mod.type = .bdp5g ∧ True)
      (fun mod => by cases mod <;> simp [TcModCtrlPcr.type]) fun _ => rfl).toSound
    simpa only [bind_assoc, pure_bind] using h

theorem lays_clsCtrl : Lays decTcCtrlPayloadCls clsMembers :=
  lays_act (exact_addCls).lays (exact_delCls).lays_all lays_modCls (by decide)

/-- What an action takes is one number. -/
theorem lays_number {α : Type} (mk : UInt32 → α) (number : α → UInt32) (hnumber : ∀ n, number (mk n) = n)
    (hmk : ∀ a, mk (number a) = a) :
    Lays (fetch UInt32 >>= fun n => pure (mk n)) fun a ms => ms = [put (number a)] := by
  refine (fetch_lays.map mk).congr fun a ms => ?_
  constructor
  · rintro ⟨n, rfl, rfl⟩
    rw [hnumber]
  · rintro rfl
    exact ⟨number a, (hmk a).symm, rfl⟩

theorem lays_plcCtrl : Lays decTcCtrlPayloadPlc plcMembers :=
  lays_act (lays_number TcAddCtrlPlc.mk TcAddCtrlPlc.dummy (fun _ => rfl) fun _ => rfl)
    (lays_number TcDelCtrlPlc.mk TcDelCtrlPlc.id (fun _ => rfl) fun _ => rfl) (exact_modPlc).lays_all (by decide)

theorem lays_qCtrl : Lays decTcCtrlPayloadQ qMembers :=
  lays_act (exact_qU).lays_all (exact_delQ).lays_all (exact_modQ).lays_all (by decide)

theorem lays_schCtrl : Lays (decTcCtrlPayloadSch granted) schMembers :=
  lays_act (lays_number TcAddCtrlSch.mk TcAddCtrlSch.dummy (fun _ => rfl) fun _ => rfl)
    (lays_number TcDelCtrlSch.mk TcDelCtrlSch.dummy (fun _ => rfl) fun _ => rfl) (exact_modSch).lays_all (by decide)

theorem lays_shpCtrl : Lays decTcCtrlPayloadShp shpMembers :=
  lays_act (lays_number TcAddCtrlShp.mk TcAddCtrlShp.dummy (fun _ => rfl) fun _ => rfl)
    (lays_number TcDelCtrlShp.mk TcDelCtrlShp.id (fun _ => rfl) fun _ => rfl) (exact_modShp).lays_all (by decide)

theorem lays_pcrCtrl : Lays decTcCtrlPayloadPcr pcrMembers :=
  lays_act (lays_number TcAddCtrlPcr.mk TcAddCtrlPcr.dummy (fun _ => rfl) fun _ => rfl)
    (lays_number TcDelCtrlPcr.mk TcDelCtrlPcr.dummy (fun _ => rfl) fun _ => rfl) (exact_modPcr).lays_all (by decide)

/-- What follows the type of a message. -/
def TcCtrlMsg.Payload : TcCtrlMsgE → TcCtrlMsg → List Bytes → Prop
  | .cls, m, ms => ∃ c, m = .cls c ∧ clsMembers c ms
  | .plc, m, ms => ∃ c, m = .plc c ∧ plcMembers c ms
  | .queue, m, ms => ∃ c, m = .q c ∧ qMembers c ms
  | .sch, m, ms => ∃ c, m = .sch c ∧ schMembers c ms
  | .shp, m, ms => ∃ c, m = .shp c ∧ shpMembers c ms
  | .pcr, m, ms => ∃ c, m = .pcr c ∧ pcrMembers c ms

theorem lays_ctrlMsg : Lays (decTcCtrlPayload granted) TcCtrlMsg.Members := by
  refine (Lays.enum (F := TcCtrlMsg.Payload) (by decide) ⟨.cls⟩ fun type => ?_).congr fun m ms => ?_
  · cases type with
    | cls => exact (lays_clsCtrl).map _
    | plc => exact (lays_plcCtrl).map _
    | queue => exact (lays_qCtrl).map _
    | sch => exact (lays_schCtrl).map _
    | shp => exact (lays_shpCtrl).map _
    | pcr => exact (lays_pcrCtrl).map _
  · constructor
    · rintro ⟨_ | _ | _ | _ | _ | _, t, ⟨c, rfl, h⟩, rfl⟩ <;> exact ⟨t, h, rfl⟩
    · intro h
      cases m with
      | cls c =>
        obtain ⟨t, h, rfl⟩ := h
        exact ⟨.cls, t, ⟨c, rfl, h⟩, rfl⟩
      | plc c =>
        obtain ⟨t, h, rfl⟩ := h
        exact ⟨.plc, t, ⟨c, rfl, h⟩, rfl⟩
      | q c =>
        obtain ⟨t, h, rfl⟩ := h
        exact ⟨.queue, t, ⟨c, rfl, h⟩, rfl⟩
      | sch c =>
        obtain ⟨t, h, rfl⟩ := h
        exact ⟨.sch, t, ⟨c, rfl, h⟩, rfl⟩
      | shp c =>
        obtain ⟨t, h, rfl⟩ := h
        exact ⟨.shp, t, ⟨c, rfl, h⟩, rfl⟩
      | pcr c =>
        obtain ⟨t, h, rfl⟩ := h
        exact ⟨.pcr, t, ⟨c, rfl, h⟩, rfl⟩

/-! ### What the bytes encode -/

/-- The bytes are what the encoder writes for a message, with whatever lies in the padding of a filter. -/
def TcCtrlMsg.Encodes : TcCtrlMsg → Bytes → Prop
  | .cls (.mod (.osi filter)), buf =>
    ∃ bs, filter.Encodes bs ∧ buf = putEnum TcCtrlMsgE.cls ++ (putEnum TcCtrlActE.mod ++ (putEnum TcClsE.osi ++ bs))
  | m, buf => tcEncCtrlMsgPlain m = .ok buf

theorem tcEncCtrlMsgPlain_eq {m : TcCtrlMsg} (h : ¬m.AddsOsi) : tcEncCtrlMsgPlain m = .ok (encTcCtrlPayload m) := by
  rw [tcEncCtrlMsgPlain, require_of (fits_ctrlMsg h).length]
  rfl

theorem TcCtrlMsg.AddsOsi.not_encodes {m : TcCtrlMsg} (h : m.AddsOsi) (buf : Bytes) : ¬m.Encodes buf := by
  rcases m with (_ | _ | _) | _ | _ | _ | _ | _
  case cls.add add =>
    intro henc
    obtain ⟨_, hlen, -⟩ := Except.bind_eq_ok.mp henc
    exact calTcCtrlPayload_ne h (require_eq_ok.mp hlen)
  all_goals exact h.elim

section Flatten
variable {α δ μ : Type} {add : α → List Bytes → Prop} {del : δ → List Bytes → Prop} {mod : μ → List Bytes → Prop}
  {eadd : α → Bytes} {edel : δ → Bytes} {emod : μ → Bytes} {c : TcCtrl α δ μ} {t : List Bytes}

theorem flatten_act (h : c.Members add del mod t) (hadd : ∀ a t, add a t → t.flatten = eadd a)
    (hdel : ∀ d t, del d t → t.flatten = edel d) (hmod : ∀ m t, c = .mod m → mod m t → t.flatten = emod m) :
    t.flatten = encTcCtrlPayloadAct eadd edel emod c := by
  cases c with
  | add a =>
    obtain ⟨t, ht, rfl⟩ := h
    rw [List.flatten_cons, hadd a t ht]
    rfl
  | del d =>
    obtain ⟨t, ht, rfl⟩ := h
    rw [List.flatten_cons, hdel d t ht]
    rfl
  | mod m =>
    obtain ⟨t, ht, rfl⟩ := h
    rw [List.flatten_cons, hmod m t rfl ht]
    rfl

end Flatten

theorem flatten_addCls (add : TcAddCtrlCls) : add.members.flatten = encTcAddCtrlPayloadCls add := by
  cases add <;> simp [TcAddCtrlCls.members, TcAddCtrlCls.type, TcAddClsOsi.members, encTcAddCtrlPayloadCls,
    encTcAddCtrlPayloadClsOsi]

theorem flatten_qU (u : TcCtrlQueueU) : u.members.flatten = encTcCtrlPayloadQU u := by
  cases u <;> simp [TcCtrlQueueU.members, TcCtrlQueueU.type, TcCtrlQueueCodel.members, encTcCtrlPayloadQU,
    encTcCtrlPayloadQCodel]

/-- A message without a filter has its bytes from its members. -/
theorem TcCtrlMsg.Members.flatten {m : TcCtrlMsg} {ms : List Bytes} (h : m.Members ms)
    (hosi : ∀ filter, m ≠ .cls (.mod (.osi filter))) : ms.flatten = encTcCtrlPayload m := by
  cases m with
  | cls c =>
    obtain ⟨t, ht, rfl⟩ := h
    refine congrArg (putEnum TcCtrlMsgE.cls ++ ·) (flatten_act ht ?_ ?_ ?_)
    · rintro add t ⟨-, rfl⟩
      exact flatten_addCls add
    · rintro del t rfl
      cases del <;> simp [TcDelCtrlCls.members, TcDelCtrlCls.type, encTcDelCtrlPayloadCls]
    · rintro mod t rfl hmod
      cases mod with
      | rr dummy =>
        obtain rfl := hmod
        simp [encTcModCtrlPayloadCls]
      | osi filter => exact absurd rfl (hosi filter)
      | sto dummy =>
        obtain rfl := hmod
        simp [encTcModCtrlPayloadCls]
  | plc c =>
    obtain ⟨t, ht, rfl⟩ := h
    refine congrArg (putEnum TcCtrlMsgE.plc ++ ·) (flatten_act ht ?_ ?_ ?_)
    · rintro add t rfl
      simp
    · rintro del t rfl
      simp
    · rintro mod t - rfl
      simp [TcModCtrlPlc.members, encTcModCtrlPayloadPlc]
  | q c =>
    obtain ⟨t, ht, rfl⟩ := h
    refine congrArg (putEnum TcCtrlMsgE.queue ++ ·) (flatten_act ht ?_ ?_ ?_)
    · rintro add t rfl
      exact flatten_qU add
    · rintro del t rfl
      simp [encTcDelCtrlPayloadQ]
    · rintro mod t - rfl
      simp [encTcModCtrlPayloadQ, flatten_qU]
  | sch c =>
    obtain ⟨t, ht, rfl⟩ := h
    refine congrArg (putEnum TcCtrlMsgE.sch ++ ·) (flatten_act ht ?_ ?_ ?_)
    · rintro add t rfl
      simp
    · rintro del t rfl
      simp
    · rintro mod t - rfl
      cases mod <;> simp [TcSch.ctrlMembers, TcSch.type, scalars, encTcModCtrlPayloadSch, List.flatMap_def]
  | shp c =>
    obtain ⟨t, ht, rfl⟩ := h
    refine congrArg (putEnum TcCtrlMsgE.shp ++ ·) (flatten_act ht ?_ ?_ ?_)
    · rintro add t rfl
      simp
    · rintro del t rfl
      simp
    · rintro mod t - rfl
      simp [TcModCtrlShp.members, encTcModCtrlPayloadShp]
  | pcr c =>
    obtain ⟨t, ht, rfl⟩ := h
    refine congrArg (putEnum TcCtrlMsgE.pcr ++ ·) (flatten_act ht ?_ ?_ ?_)
    · rintro add t rfl
      simp
    · rintro del t rfl
      simp
    · rintro mod t - rfl
      cases mod <;> simp [TcModCtrlPcr.members, TcModCtrlPcr.type, encTcModCtrlPayloadPcr]

theorem TcCtrlMsg.Members.encodes {m : TcCtrlMsg} {ms : List Bytes} (h : m.Members ms) (hosi : ¬m.AddsOsi) :
    m.Encodes ms.flatten := by
  by_cases hfilter : ∃ filter, m = .cls (.mod (.osi filter))
  · obtain ⟨filter, rfl⟩ := hfilter
    obtain ⟨_, ⟨_, ⟨t, ht, rfl⟩, rfl⟩, rfl⟩ := h
    exact ⟨t.flatten, ht.encodes, rfl⟩
  · have hne : ∀ filter, m ≠ .cls (.mod (.osi filter)) := fun filter h => hfilter ⟨filter, h⟩
    have henc : m.Encodes ms.flatten = (tcEncCtrlMsgPlain m = .ok ms.flatten) := by
      unfold TcCtrlMsg.Encodes
      split
      · exact absurd rfl (hne _)
      · rfl
    rw [henc, h.flatten hne]
    exact tcEncCtrlMsgPlain_eq hosi

/-! ### The decoder -/

/-- The chunk ends inside a message; the decoder asserts that there is a first byte. -/
def TcCtrlMsg.CutOff (buf : Bytes) : Prop :=
  buf ≠ [] ∧ ∃ (m : TcCtrlMsg) (ms : List Bytes), m.Members ms ∧ EndsInside ms buf

/-- What is written of a message that adds a classifier of the OSI layers, before its encoding aborts. -/
def TcCtrlMsg.HasOsi (buf : Bytes) : Prop := ∃ m : TcCtrlMsg, m.AddsOsi ∧ buf = encTcCtrlPayload m

theorem decCtrlMsg_eq {calloc : Calloc} {buf : Bytes} (hne : buf ≠ []) :
    tcDecCtrlMsgCalloc calloc buf = (decTcCtrlPayload calloc).whole "ctrl_msg + len == it" buf := by
  rw [tcDecCtrlMsgCalloc, require_of (List.length_pos_iff.mpr hne)]
  rfl

theorem decCtrlMsg_past {buf : Bytes} : tcDecCtrlMsgCalloc granted buf = .error pastEnd ↔ TcCtrlMsg.CutOff buf := by
  by_cases hne : buf = []
  · subst hne
    refine iff_of_false (fun h => ?_) fun h => h.1 rfl
    exact absurd (Except.error.inj h) (by decide)
  · rw [decCtrlMsg_eq hne, whole_past (by decide), (lays_ctrlMsg).past, TcCtrlMsg.CutOff]
    exact (and_iff_right hne).symm

theorem watched_ctrlMsg (refusal : String) :
    Watched refusal (decTcCtrlPayload (held refusal)) (decTcCtrlPayload granted) := by
  have hmod : Watched refusal (decTcModCtrlPayloadSch (held refusal)) (decTcModCtrlPayloadSch granted) := by
    refine (Watched.refl _).bind fun type => ?_
    cases type with
    | rr => exact .refl _
    | prio => exact (Watched.fetchAllocated fetch_takes).bind fun _ => .refl _
  have hsch : Watched refusal (decTcCtrlPayloadSch (held refusal)) (decTcCtrlPayloadSch granted) := by
    refine (Watched.refl _).bind fun act => ?_
    cases act with
    | add => exact .refl _
    | del => exact .refl _
    | mod => exact hmod.bind fun _ => .refl _
  refine (Watched.refl _).bind fun type => ?_
  cases type with
  | sch => exact hsch.bind fun _ => .refl _
  | _ => exact .refl _

theorem decCtrlMsg_held (refusal : String) (buf : Bytes) :
    tcDecCtrlMsgCalloc (held refusal) buf = tcDecCtrlMsgCalloc granted buf ∨
      tcDecCtrlMsgCalloc (held refusal) buf = .error refusal ∧ tcDecCtrlMsgCalloc granted buf = .error pastEnd := by
  by_cases hne : buf = []
  · subst hne
    exact .inl rfl
  · rw [decCtrlMsg_eq hne, decCtrlMsg_eq hne]
    exact whole_watched (watched_ctrlMsg refusal buf) _

/-- A classifier of the OSI layers is decoded, and its bytes are not the encoding of anything. -/
theorem decCtrlMsg_hasOsi {buf : Bytes} (h : TcCtrlMsg.HasOsi buf) :
    ∃ m : TcCtrlMsg, m.AddsOsi ∧ tcDecCtrlMsgCalloc granted buf = .ok m := by
  obtain ⟨m, hosi, rfl⟩ := h
  rcases m with (⟨_ | osi | _⟩ | _ | _) | _ | _ | _ | _ | _
  case cls.add.osi =>
    have hne : encTcCtrlPayload (.cls (.add (.osi osi))) ≠ [] := List.length_pos_iff.mp (encTcCtrlPayload_pos _)
    refine ⟨.cls (.add (.osi { osi with l7 := ⟨0⟩ })), trivial, ?_⟩
    rw [decCtrlMsg_eq hne, (lays_ctrlMsg).whole_accepts]
    have hmembers : TcCtrlMsg.Members (.cls (.add (.osi { osi with l7 := ⟨0⟩ }))) _ := ⟨_, ⟨_, ⟨rfl, rfl⟩, rfl⟩, rfl⟩
    exact ⟨_, hmembers, (hmembers.flatten fun filter h => by cases h).symm⟩
  all_goals exact hosi.elim

theorem decCtrlMsg_safe_iff (buf : Bytes) :
    Safe tcDecCtrlMsgCalloc TcCtrlMsg.Encodes buf ↔ ¬TcCtrlMsg.CutOff buf ∧ ¬TcCtrlMsg.HasOsi buf := by
  constructor
  · intro h
    refine ⟨mt (decCtrlMsg_past).mpr h.inside, fun hosi => ?_⟩
    obtain ⟨m, hadds, hok⟩ := decCtrlMsg_hasOsi hosi
    exact hadds.not_encodes buf (h.exact m hok)
  · rintro ⟨hcut, hosi⟩
    have hpast := mt (decCtrlMsg_past).mp hcut
    refine safe_of_watched (fun refusal => decCtrlMsg_held refusal buf) hpast fun m hok => ?_
    have hne : buf ≠ [] := by
      rintro rfl
      cases hok
    rw [decCtrlMsg_eq hne, (lays_ctrlMsg).whole_accepts] at hok
    obtain ⟨ms, hms, rfl⟩ := hok
    refine hms.encodes fun hadds => hosi ⟨m, hadds, hms.flatten ?_⟩
    rintro filter rfl
    exact hadds.elim

end FlexRic.Sm.Tc
