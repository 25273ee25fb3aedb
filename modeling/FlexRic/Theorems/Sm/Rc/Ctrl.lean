import Mathlib.Algebra.Group.Nat.Defs
import FlexRic.Sm.Rc.Ctrl
import FlexRic.Theorems.Sm.Rc.Ind

/-! # What arrives of a control message and of its outcome

Control messages arrive when their values do. So do outcomes, but for styles without actions or with too many, which
only the decoder refuses. -/

namespace FlexRic.Sm.Rc

variable {I : Identities}

/-! ### Headers -/

theorem decCtrlHdrFrmt1_of (hI : I.RoundTrips) {f : CtrlHdrFrmt1 I.Ue} {a : Asn.ControlHeaderFormat1 I.UeAsn}
    (h : encCtrlHdrFrmt1 I f = .ok a) : decCtrlHdrFrmt1 I a = .ok f := by
  obtain ⟨ue, style, act, dec⟩ := f
  simp only [encCtrlHdrFrmt1, Except.bind_eq_ok, require_eq_ok, Except.pure_eq, Except.ok.injEq] at h
  obtain ⟨u, hu, -, hact, -, rfl, rfl⟩ := h
  simp only [decCtrlHdrFrmt1, hI.ue _ _ hu, require_of (UInt16.toNat_lt_65536 hact), require_true, Except.ok_bind,
    Except.pure_eq, UInt16.ofInt_toNat, UInt32.ofInt_toNat]

theorem decCtrlHdrFrmt2_of (hI : I.RoundTrips) {f : CtrlHdrFrmt2 I.Ue} {a : Asn.ControlHeaderFormat2 I.UeAsn}
    (h : encCtrlHdrFrmt2 I f = .ok a) : decCtrlHdrFrmt2 I a = .ok f := by
  obtain ⟨ue, dec⟩ := f
  simp only [encCtrlHdrFrmt2, Except.bind_eq_ok, require_eq_ok, Except.pure_eq, Except.ok.injEq] at h
  obtain ⟨u, hu, -, rfl, rfl⟩ := h
  simp only [decCtrlHdrFrmt2, mapOptional_round_trip hu hI.ue, require_true, Except.ok_bind, Except.pure_eq]

theorem rcDecCtrlHdr_of (hI : I.RoundTrips) {hdr : CtrlHdr I.Ue} {a : Asn.ControlHeader I.UeAsn}
    (h : rcEncCtrlHdr I hdr = .ok a) : rcDecCtrlHdr I a = .ok hdr := by
  cases hdr with
  | frmt1 f =>
    obtain ⟨b, hb, h⟩ := Except.bind_eq_ok.mp h
    obtain rfl := Except.ok.inj h
    simp only [rcDecCtrlHdr, decCtrlHdrFrmt1_of hI hb, Except.ok_bind, Except.pure_eq]
  | frmt2 f =>
    obtain ⟨b, hb, h⟩ := Except.bind_eq_ok.mp h
    obtain rfl := Except.ok.inj h
    simp only [rcDecCtrlHdr, decCtrlHdrFrmt2_of hI hb, Except.ok_bind, Except.pure_eq]

/-! ### Messages -/

/-- What every value of the message satisfies -/
def CtrlMsg.AllValues (P : RanParamValType → Prop) : CtrlMsg → Prop
  | .frmt1 f => ∀ p ∈ f.ranParam, P p.ranParamVal
  | .frmt2 f => ∀ s ∈ f.action, ∀ c ∈ s.seqCtrlAct, ∀ m ∈ c.ctrlMsgFrmt1, ∀ p ∈ m.ranParam, P p.ranParamVal

theorem CtrlMsg.allValues_and {P Q : RanParamValType → Prop} {msg : CtrlMsg} :
    msg.AllValues (fun v => P v ∧ Q v) ↔ msg.AllValues P ∧ msg.AllValues Q := by
  cases msg <;> simp only [AllValues, forall_and]

def CtrlMsgFrmt1.received (f : CtrlMsgFrmt1) : CtrlMsgFrmt1 := ⟨f.ranParam.map SeqRanParam.received⟩

def SeqCtrlAct.received (c : SeqCtrlAct) : SeqCtrlAct :=
  { c with ctrlMsgFrmt1 := c.ctrlMsgFrmt1.map CtrlMsgFrmt1.received }

def SeqCtrlSma.received (s : SeqCtrlSma) : SeqCtrlSma := { s with seqCtrlAct := s.seqCtrlAct.map SeqCtrlAct.received }

def CtrlMsgFrmt2.received (f : CtrlMsgFrmt2) : CtrlMsgFrmt2 := ⟨f.action.map SeqCtrlSma.received⟩

/-- The message with no identifiers at the items of its list values -/
def CtrlMsg.received : CtrlMsg → CtrlMsg
  | .frmt1 f => .frmt1 f.received
  | .frmt2 f => .frmt2 f.received

theorem SeqCtrlAct.received_comp : SeqCtrlAct.received ∘ SeqCtrlAct.received = SeqCtrlAct.received := by
  funext c
  have hcomp : CtrlMsgFrmt1.received ∘ CtrlMsgFrmt1.received = CtrlMsgFrmt1.received :=
    funext fun f => by simp [CtrlMsgFrmt1.received]
  simp [SeqCtrlAct.received, hcomp]

theorem SeqCtrlSma.received_comp : SeqCtrlSma.received ∘ SeqCtrlSma.received = SeqCtrlSma.received := by
  funext s
  simp [SeqCtrlSma.received, SeqCtrlAct.received_comp]

theorem CtrlMsg.received_received (msg : CtrlMsg) : msg.received.received = msg.received := by
  cases msg with
  | frmt1 f => simp [received, CtrlMsgFrmt1.received]
  | frmt2 f => simp [received, CtrlMsgFrmt2.received, SeqCtrlSma.received_comp]

theorem CtrlMsgFrmt1.carried (f : CtrlMsgFrmt1) :
    CarriedAs encCtrlMsgFrmt1 decCtrlMsgFrmt1 f f.received (∀ p ∈ f.ranParam, p.ranParamVal.Sized (oneTo 65535)) :=
  (CarriedAs.mapSized_of _ _ id fun p _ => SeqRanParam.carried_inRange p).wrap rfl fun _ => rfl

theorem SeqCtrlAct.carried (c : SeqCtrlAct) :
    CarriedAs encCtrlMsgFrmt2CtrlActIt decCtrlMsgSeqCtrlAct c c.received
      (∀ m ∈ c.ctrlMsgFrmt1, ∀ p ∈ m.ranParam, p.ranParamVal.Sized (oneTo 65535)) := by
  obtain ⟨id, m⟩ := c
  intro a h d
  obtain ⟨_, hid, h⟩ := Except.bind_eq_ok.mp h
  cases m with
  | none => cases h
  | some m =>
    obtain ⟨b, hb, h⟩ := Except.bind_eq_ok.mp h
    obtain rfl := Except.ok.inj h
    have hrange := UInt16.toNat_lt_65536 (require_eq_ok.mp hid)
    simp only [decCtrlMsgSeqCtrlAct, require_of hrange, Except.ok_bind, UInt16.ofInt_toNat, Option.mem_def,
      Option.some.injEq, forall_eq']
    exact bind_ok_iff (CtrlMsgFrmt1.carried m b hb)

theorem SeqCtrlSma.carried (s : SeqCtrlSma) :
    CarriedAs encCtrlMsgFrmt2It decCtrlMsgSeqCtrlSma s s.received
      (∀ c ∈ s.seqCtrlAct, ∀ m ∈ c.ctrlMsgFrmt1, ∀ p ∈ m.ranParam, p.ranParamVal.Sized (oneTo 65535)) := by
  intro a h t
  obtain ⟨items, hitems, h⟩ := Except.bind_eq_ok.mp h
  obtain rfl := Except.ok.inj h
  simp only [decCtrlMsgSeqCtrlSma, UInt32.ofInt_toNat]
  exact bind_ok_iff (CarriedAs.mapSized_of _ _ id (fun c _ => SeqCtrlAct.carried c) items hitems)

theorem CtrlMsgFrmt2.carried (f : CtrlMsgFrmt2) :
    CarriedAs encCtrlMsgFrmt2 decCtrlMsgFrmt2 f f.received (∀ s ∈ f.action, ∀ c ∈ s.seqCtrlAct,
      ∀ m ∈ c.ctrlMsgFrmt1, ∀ p ∈ m.ranParam, p.ranParamVal.Sized (oneTo 65535)) :=
  (CarriedAs.mapSized_of _ _ id fun s _ => SeqCtrlSma.carried s).wrap rfl fun _ => rfl

theorem CtrlMsg.carried (msg : CtrlMsg) :
    CarriedAs rcEncCtrlMsg rcDecCtrlMsg msg msg.received (msg.AllValues (RanParamValType.Sized (oneTo 65535))) := by
  cases msg with
  | frmt1 f => exact (CtrlMsgFrmt1.carried f).wrap rfl fun _ => rfl
  | frmt2 f => exact (CtrlMsgFrmt2.carried f).wrap rfl fun _ => rfl

theorem CtrlMsg.arrives_iff {msg : CtrlMsg} {a : Asn.ControlMessage} (h : rcEncCtrlMsg msg = .ok a)
    (hmsg : msg.AllValues (RanParamValType.Sized (0 < ·))) :
    (∃ msg', rcDecCtrlMsg a = .ok msg' ∧ msg'.received = msg.received) ↔
      msg.AllValues (RanParamValType.Sized (upTo 65535)) := by
  rw [(CtrlMsg.carried msg).exists_iff h msg.received_received, RanParamValType.sized_oneTo, allValues_and,
    and_iff_right hmsg]

/-! ### Outcomes -/

/-- Every style has a number of actions between one and 63. -/
def CtrlOut.StylesSized : CtrlOut → Prop
  | .frmt2 f => ∀ s ∈ f.seqCtrlStyMulOut, oneTo 63 s.seqCtrlActOut.length
  | _ => True

/-- What every value of the outcome satisfies -/
def CtrlOut.AllValues (P : RanParamValType → Prop) : CtrlOut → Prop
  | .frmt3 f => ∀ p ∈ f.ranParam, P p.ranParamVal
  | _ => True

theorem CtrlOut.allValues_and {P Q : RanParamValType → Prop} {out : CtrlOut} :
    out.AllValues (fun v => P v ∧ Q v) ↔ out.AllValues P ∧ out.AllValues Q := by
  cases out <;> simp only [AllValues, and_true, forall_and]

def CtrlOutFrmt3.received (f : CtrlOutFrmt3) : CtrlOutFrmt3 := ⟨f.ranParam.map SeqRanParam.received⟩

/-- The outcome with no identifiers at the items of its list values -/
def CtrlOut.received : CtrlOut → CtrlOut
  | .frmt3 f => .frmt3 f.received
  | out => out

theorem CtrlOut.received_received (out : CtrlOut) : out.received.received = out.received := by
  cases out with
  | frmt1 f => rfl
  | frmt2 f => rfl
  | frmt3 f => simp [received, CtrlOutFrmt3.received]

theorem SeqRanParam.decElement_of {p : SeqRanParam RanParameterValue} {a : Asn.RanParameterItem Asn.RanParameterValue}
    (h : encRanParamItem encElement p = .ok a) : decRanParamItem decRanParamVal a = .ok p :=
  (encRanParamItem_carried (r := fun v => v) (RanParameterValue.carried p.ranParamVal)).ok trivial h

theorem SeqRanParam.decElementInRange_of {p : SeqRanParam RanParameterValue}
    {a : Asn.RanParameterItem Asn.RanParameterValue} (h : encRanParamItem encElement p = .ok a) :
    decRanParamItemInRange decRanParamVal a = .ok p :=
  (encRanParamItem_carried_inRange (r := fun v => v) (RanParameterValue.carried p.ranParamVal)).ok trivial h

theorem decCtrlOutFrmt1_of {f : CtrlOutFrmt1} {a : Asn.ControlOutcomeFormat1} (h : encCtrlOutFrmt1 f = .ok a) :
    decCtrlOutFrmt1 a = .ok f := by
  obtain ⟨items, hitems, h⟩ := Except.bind_eq_ok.mp h
  obtain rfl := Except.ok.inj h
  have hback := mapSized_round_trip hitems id fun p _ _ => SeqRanParam.decElement_of
  simp only [decCtrlOutFrmt1, decCtrlOutFrmt1It, hback, Except.ok_bind, Except.pure_eq]

theorem decCtrlOutFrmt2CtrlOutIt_of {c : SeqCtrlActOut} {a : Asn.ControlOutcomeFormat2ControlOutcomeItem}
    (h : encCtrlOutFrmt2CtrlOut c = .ok a) : decCtrlOutFrmt2CtrlOutIt a = .ok c := by
  obtain ⟨id, ps⟩ := c
  simp only [encCtrlOutFrmt2CtrlOut, Except.bind_eq_ok, require_eq_ok, Except.pure_eq, Except.ok.injEq] at h
  obtain ⟨-, hid, items, hitems, rfl⟩ := h
  have hback := mapSized_round_trip hitems (fun hsize => hsize) fun p _ _ => SeqRanParam.decElementInRange_of
  simp only [decCtrlOutFrmt2CtrlOutIt, decCtrlOutFrmt2RanIt, require_of (UInt16.toNat_lt_65536 hid), hback,
    Except.ok_bind, Except.pure_eq, UInt16.ofInt_toNat]

theorem SeqCtrlStyMulOut.carried (s : SeqCtrlStyMulOut) :
    CarriedAs encCtrlOutFrmt2It decCtrlOutFrmt2StyIt s s (oneTo 63 s.seqCtrlActOut.length) := by
  intro a h t
  obtain ⟨items, hitems, h⟩ := Except.bind_eq_ok.mp h
  obtain rfl := Except.ok.inj h
  have hback := (Except.mapM_round_trip hitems).mpr fun c _ _ => decCtrlOutFrmt2CtrlOutIt_of
  simp only [decCtrlOutFrmt2StyIt, UInt32.ofInt_toNat]
  refine bind_ok_iff fun cs => ?_
  rw [mapSized_eq_ok, hback, Except.length_of_mapM hitems, Except.ok.injEq, eq_comm]

theorem CtrlOutFrmt2.carried (f : CtrlOutFrmt2) :
    CarriedAs encCtrlOutFrmt2 decCtrlOutFrmt2 f f (∀ s ∈ f.seqCtrlStyMulOut, oneTo 63 s.seqCtrlActOut.length) := by
  obtain ⟨styles⟩ := f
  exact (CarriedAs.mapSized_self _ _ id fun s _ => SeqCtrlStyMulOut.carried s).wrap rfl fun _ => rfl

theorem CtrlOutFrmt3.carried (f : CtrlOutFrmt3) :
    CarriedAs encCtrlOutFrmt3 decCtrlOutFrmt3 f f.received (∀ p ∈ f.ranParam, p.ranParamVal.Sized (oneTo 65535)) :=
  (CarriedAs.mapSized_of _ _ id fun p _ => SeqRanParam.carried p).wrap rfl fun _ => rfl

/-- An outcome arrives, its list items without their identifiers, exactly when its values do and its styles have
between one and 63 actions. -/
theorem CtrlOut.carried (out : CtrlOut) :
    CarriedAs rcEncCtrlOut rcDecCtrlOut out out.received
      (out.StylesSized ∧ out.AllValues (RanParamValType.Sized (oneTo 65535))) := by
  cases out with
  | frmt1 f =>
    have hback : CarriedAs encCtrlOutFrmt1 decCtrlOutFrmt1 f f True := .of_ok fun _ => decCtrlOutFrmt1_of
    exact (hback.wrap rfl fun _ => rfl).congr (true_and _).symm.to_iff
  | frmt2 f => exact ((CtrlOutFrmt2.carried f).wrap rfl fun _ => rfl).congr (and_true _).symm.to_iff
  | frmt3 f => exact ((CtrlOutFrmt3.carried f).wrap rfl fun _ => rfl).congr (true_and _).symm.to_iff

theorem CtrlOut.arrives_iff {out : CtrlOut} {a : Asn.ControlOutcome} (h : rcEncCtrlOut out = .ok a)
    (hstyles : out.StylesSized) (hout : out.AllValues (RanParamValType.Sized (0 < ·))) :
    (∃ out', rcDecCtrlOut a = .ok out' ∧ out'.received = out.received) ↔
      out.AllValues (RanParamValType.Sized (upTo 65535)) := by
  rw [(CtrlOut.carried out).exists_iff h out.received_received, and_iff_right hstyles, RanParamValType.sized_oneTo,
    allValues_and, and_iff_right hout]

/-! ### Indication and control -/

/-- Headers arrive as they were sent. Messages and outcomes do, but for the identifiers of their list items, exactly
when nothing in them that only the decoder measures is too long. -/
theorem messages_arrive_iff (hI : I.RoundTrips) :
    (∀ hdr a, rcEncIndHdr I hdr = .ok a → rcDecIndHdr I a = .ok hdr) ∧
    (∀ msg a, rcEncIndMsg I msg = .ok a → msg.AllValues (RanParamValType.Sized (0 < ·)) →
      ((∃ msg', rcDecIndMsg I a = .ok msg' ∧ msg'.received = msg.received) ↔ msg.Short)) ∧
    (∀ hdr a, rcEncCtrlHdr I hdr = .ok a → rcDecCtrlHdr I a = .ok hdr) ∧
    (∀ msg a, rcEncCtrlMsg msg = .ok a → msg.AllValues (RanParamValType.Sized (0 < ·)) →
      ((∃ msg', rcDecCtrlMsg a = .ok msg' ∧ msg'.received = msg.received) ↔
        msg.AllValues (RanParamValType.Sized (upTo 65535)))) ∧
    ∀ out a, rcEncCtrlOut out = .ok a → out.StylesSized → out.AllValues (RanParamValType.Sized (0 < ·)) →
      ((∃ out', rcDecCtrlOut a = .ok out' ∧ out'.received = out.received) ↔
        out.AllValues (RanParamValType.Sized (upTo 65535))) :=
  ⟨fun _ _ h => rcDecIndHdr_of hI h, fun _ _ h hmsg => IndMsg.arrives_iff hI h hmsg, fun _ _ h => rcDecCtrlHdr_of hI h,
    fun _ _ h hmsg => CtrlMsg.arrives_iff h hmsg, fun _ _ h hstyles hout => CtrlOut.arrives_iff h hstyles hout⟩

/-- UEs of a DU by their identifier of F1AP, and cells by the 36 bits of their identity in one network -/
def duIdentities : Identities where
  Ue := UInt32
  UeAsn := Nat
  Cell := UInt64
  CellAsn := Nat
  encUeIdAsn u := .ok u.toNat
  decUeIdAsn a := .ok (UInt32.ofNat a)
  cpUeIdE2sm u := .ok u
  encCellGlobalIdAsn c := do
    require (c.toNat < 2 ^ 36) "val < (1UL << 36)"
    return c.toNat
  decCellGlobalIdAsn a := .ok (UInt64.ofNat a)
  cpCellGlobalId c := .ok c

theorem duIdentities_roundTrips : duIdentities.RoundTrips where
  ue u a h := by
    obtain rfl := Except.ok.inj h
    exact congrArg Except.ok UInt32.ofNat_toNat
  cell c a h := by
    obtain ⟨_, -, h⟩ := Except.bind_eq_ok.mp h
    obtain rfl := Except.ok.inj h
    exact congrArg Except.ok UInt64.ofNat_toNat

/-- A value that is a list of one structure -/
def listValue (id : UInt32) : RanParamValType := .lst [⟨id, [⟨9, .flagFalse (.bool true)⟩]⟩]

theorem listValue_sized {size : Nat → Prop} {id : UInt32} (h : size 1) : (listValue id).Sized size := by
  refine RanParamValType.sized_lst.mpr fun i hi => ?_
  obtain rfl := List.mem_singleton.mp hi
  refine ⟨h, fun p hp => ?_⟩
  obtain rfl := List.mem_singleton.mp hp
  exact .flagFalse _

def listValueAsn : Asn.RanParameterValueType := .list [some [⟨9, .elementFalse (some (.valueBoolean true))⟩]]

def duIndHdr : IndHdr UInt32 := .frmt2 ⟨77, 3, 1⟩

def duIndHdrAsn : Asn.IndicationHeader Nat := .format2 ⟨77, 3, 1⟩

def duIndMsg : IndMsg UInt32 UInt64 := .frmt2 ⟨[⟨77, [⟨8, listValue 5⟩]⟩]⟩

def duIndMsgAsn : Asn.IndicationMessage Nat Nat := .format2 ⟨[⟨77, [⟨8, listValueAsn⟩]⟩]⟩

def duCtrlHdr : CtrlHdr UInt32 := .frmt1 ⟨77, 1, 2, none⟩

def duCtrlHdrAsn : Asn.ControlHeader Nat := .format1 ⟨77, 1, 2, none⟩

def listCtrlMsg : CtrlMsg := .frmt1 ⟨[⟨8, listValue 5⟩]⟩

def listCtrlMsgAsn : Asn.ControlMessage := .format1 ⟨[⟨8, listValueAsn⟩]⟩

def listCtrlOut : CtrlOut := .frmt3 ⟨[⟨8, listValue 5⟩]⟩

def listCtrlOutAsn : Asn.ControlOutcome := .format3 ⟨[⟨8, listValueAsn⟩]⟩

theorem messages_arrive_iff_listValue :
    rcDecIndHdr duIdentities duIndHdrAsn = .ok duIndHdr ∧
    (∃ msg, rcDecIndMsg duIdentities duIndMsgAsn = .ok msg ∧ msg.received = duIndMsg.received) ∧
    rcDecCtrlHdr duIdentities duCtrlHdrAsn = .ok duCtrlHdr ∧
    (∃ msg, rcDecCtrlMsg listCtrlMsgAsn = .ok msg ∧ msg.received = listCtrlMsg.received) ∧
    ∃ out, rcDecCtrlOut listCtrlOutAsn = .ok out ∧ out.received = listCtrlOut.received := by
  have hvalue (size : Nat → Prop) (hsize : size 1) : ∀ p ∈ [SeqRanParam.mk 8 (listValue 5)], p.ranParamVal.Sized size := by
    intro p hp
    obtain rfl := List.mem_singleton.mp hp
    exact listValue_sized hsize
  have hind (size : Nat → Prop) (hsize : size 1) : duIndMsg.AllValues (RanParamValType.Sized size) := by
    intro u hu
    obtain rfl := List.mem_singleton.mp hu
    exact hvalue size hsize
  obtain ⟨hhdr, hmsg, hctrl, hctrlMsg, hout⟩ := messages_arrive_iff duIdentities_roundTrips
  refine ⟨hhdr _ _ rfl, (hmsg duIndMsg _ rfl (hind _ (by decide))).mpr ⟨trivial, hind _ (by decide)⟩, hctrl _ _ rfl,
    (hctrlMsg listCtrlMsg _ rfl (hvalue _ (by decide))).mpr (hvalue _ (by decide)),
    (hout listCtrlOut _ rfl trivial (hvalue _ (by decide))).mpr (hvalue _ (by decide))⟩

/-- A request for so many parameters that the decoder refuses it -/
def longRequest : IndMsg UInt32 UInt64 := .frmt5 ⟨List.replicate 65536 ⟨1, .flagFalse (.bool true)⟩⟩

def longRequestAsn : Asn.IndicationMessage Nat Nat :=
  .format5 ⟨List.replicate 65536 ⟨1, .elementFalse (some (.valueBoolean true))⟩⟩

theorem long_request_refused :
    duIdentities.RoundTrips ∧ rcEncIndMsg duIdentities longRequest = .ok longRequestAsn ∧
      longRequest.AllValues (RanParamValType.Sized (0 < ·)) ∧
      ∀ msg, rcDecIndMsg duIdentities longRequestAsn ≠ .ok msg := by
  refine ⟨duIdentities_roundTrips, ?_, ?_, ?_⟩
  · have hitem : encIndMsgFrmt5It ⟨1, .flagFalse (.bool true)⟩ = .ok ⟨1, .elementFalse (some (.valueBoolean true))⟩ := rfl
    simp only [longRequest, longRequestAsn, rcEncIndMsg, encIndMsgFrmt5, Except.mapM_replicate hitem, Except.ok_bind,
      Except.pure_eq]
    rfl
  · intro p hp
    obtain rfl := List.eq_of_mem_replicate hp
    exact .flagFalse _
  · intro msg h
    obtain ⟨f, hf, -⟩ := Except.bind_eq_ok.mp h
    obtain ⟨ps, hps, -⟩ := Except.bind_eq_ok.mp hf
    have hsize := (mapSized_eq_ok.mp hps).1
    rw [List.length_replicate] at hsize
    omega

end FlexRic.Sm.Rc
