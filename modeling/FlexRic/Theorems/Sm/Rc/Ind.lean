import FlexRic.Sm.Rc.Ind
import FlexRic.Theorems.Sm.Rc.RanParam

/-! # What arrives of an indication

Headers always arrive. Messages do when their values have members that are not too many, and when two formats whose
lists only the decoder measures are not too long. -/

namespace FlexRic.Sm.Rc

/-- The functions of `lib/sm` map the identities there and back. -/
structure Identities.RoundTrips (I : Identities) : Prop where
  ue : ∀ u a, I.encUeIdAsn u = .ok a → I.decUeIdAsn a = .ok u
  cell : ∀ c a, I.encCellGlobalIdAsn c = .ok a → I.decCellGlobalIdAsn a = .ok c

variable {I : Identities}

/-! ### Headers -/

theorem decEvTriggerCond_of {msg : String} {c : UInt16} {a : Int} (h : encEvTriggerCond msg c = .ok a)
    (msg' : String) : decEvTriggerCond msg' a = .ok c := by
  simp only [encEvTriggerCond, Except.bind_eq_ok, require_eq_ok, Except.pure_eq, Except.ok.injEq] at h
  obtain ⟨-, hc, rfl⟩ := h
  simp only [decEvTriggerCond, require_of (UInt16.toNat_inRange hc), Except.ok_bind, Except.pure_eq,
    UInt16.ofInt_toNat]

theorem decIndHdrFrmt1_of {f : IndHdrFrmt1} {a : Asn.IndicationHeaderFormat1} (h : cpIndHdrFrmt1 f = .ok a) :
    decIndHdrFrmt1 a = .ok f := by
  obtain ⟨id⟩ := f
  simp only [cpIndHdrFrmt1, Except.bind_eq_ok, require_eq_ok, Except.pure_eq, Except.ok.injEq] at h
  obtain ⟨-, hsome, o, ho, rfl⟩ := h
  cases id with
  | none => cases hsome
  | some c =>
    obtain ⟨b, hb, ho⟩ := Except.bind_eq_ok.mp ho
    obtain rfl := Except.ok.inj ho
    simp [decIndHdrFrmt1, mapOptional, decEvTriggerCond_of hb]

theorem decIndHdrFrmt2_of (hI : I.RoundTrips) {f : IndHdrFrmt2 I.Ue} {a : Asn.IndicationHeaderFormat2 I.UeAsn}
    (h : cpIndHdrFrmt2 I f = .ok a) : decIndHdrFrmt2 I a = .ok f := by
  simp only [cpIndHdrFrmt2, Except.bind_eq_ok, require_eq_ok, Except.pure_eq, Except.ok.injEq] at h
  obtain ⟨ue, hue, -, hid, rfl⟩ := h
  simp only [decIndHdrFrmt2, hI.ue _ _ hue, require_of (UInt16.toNat_pos hid), Except.ok_bind, Except.pure_eq,
    UInt16.ofInt_toNat, UInt32.ofInt_toNat]

theorem decIndHdrFrmt3_of (hI : I.RoundTrips) {f : IndHdrFrmt3 I.Ue} {a : Asn.IndicationHeaderFormat3 I.UeAsn}
    (h : cpIndHdrFrmt3 I f = .ok a) : decIndHdrFrmt3 I a = .ok f := by
  simp only [cpIndHdrFrmt3, Except.bind_eq_ok, Except.pure_eq, Except.ok.injEq] at h
  obtain ⟨cond, hcond, ue, hue, rfl⟩ := h
  have hcond' := fun msg => mapOptional_round_trip hcond fun c a ha => decEvTriggerCond_of ha msg
  simp only [decIndHdrFrmt3, hcond', mapOptional_round_trip hue hI.ue, Except.ok_bind, Except.pure_eq]

theorem rcDecIndHdr_of (hI : I.RoundTrips) {hdr : IndHdr I.Ue} {a : Asn.IndicationHeader I.UeAsn}
    (h : rcEncIndHdr I hdr = .ok a) : rcDecIndHdr I a = .ok hdr := by
  cases hdr with
  | frmt1 f =>
    obtain ⟨b, hb, h⟩ := Except.bind_eq_ok.mp h
    obtain rfl := Except.ok.inj h
    simp only [rcDecIndHdr, decIndHdrFrmt1_of hb, Except.ok_bind, Except.pure_eq]
  | frmt2 f =>
    obtain ⟨b, hb, h⟩ := Except.bind_eq_ok.mp h
    obtain rfl := Except.ok.inj h
    simp only [rcDecIndHdr, decIndHdrFrmt2_of hI hb, Except.ok_bind, Except.pure_eq]
  | frmt3 f =>
    obtain ⟨b, hb, h⟩ := Except.bind_eq_ok.mp h
    obtain rfl := Except.ok.inj h
    simp only [rcDecIndHdr, decIndHdrFrmt3_of hI hb, Except.ok_bind, Except.pure_eq]

/-! ### Values of a message -/

section Values
variable {Ue Cell : Type}

/-- What every value of the message satisfies -/
def IndMsg.AllValues (P : RanParamValType → Prop) : IndMsg Ue Cell → Prop
  | .frmt1 f => ∀ p ∈ f.seqRanParam, P p.ranParamVal
  | .frmt2 f => ∀ u ∈ f.seqUeId, ∀ p ∈ u.seqRanParam, P p.ranParamVal
  | .frmt3 _ | .frmt4 _ => True
  | .frmt5 f => ∀ p ∈ f.seqRanParam, P p.ranParamVal
  | .frmt6 f => ∀ s ∈ f.seqInsStyle, ∀ i ∈ s.seqInsIndAct, ∀ p ∈ i.ranParamReq, P p.ranParamVal

theorem IndMsg.allValues_and {P Q : RanParamValType → Prop} {msg : IndMsg Ue Cell} :
    msg.AllValues (fun v => P v ∧ Q v) ↔ msg.AllValues P ∧ msg.AllValues Q := by
  cases msg <;> simp only [AllValues, and_true, forall_and]

def IndMsgFrmt1.received (f : IndMsgFrmt1) : IndMsgFrmt1 := ⟨f.seqRanParam.map SeqRanParam.received⟩

def SeqUeId.received (u : SeqUeId Ue) : SeqUeId Ue := { u with seqRanParam := u.seqRanParam.map SeqRanParam.received }

def IndMsgFrmt2.received (f : IndMsgFrmt2 Ue) : IndMsgFrmt2 Ue := ⟨f.seqUeId.map SeqUeId.received⟩

def IndMsgFrmt5.received (f : IndMsgFrmt5) : IndMsgFrmt5 := ⟨f.seqRanParam.map SeqRanParam.received⟩

def SeqInsIndAct2.received (i : SeqInsIndAct2) : SeqInsIndAct2 :=
  { i with ranParamReq := i.ranParamReq.map SeqRanParam.received }

def SeqInsStyle2.received (s : SeqInsStyle2) : SeqInsStyle2 :=
  { s with seqInsIndAct := s.seqInsIndAct.map SeqInsIndAct2.received }

def IndMsgFrmt6.received (f : IndMsgFrmt6) : IndMsgFrmt6 := ⟨f.seqInsStyle.map SeqInsStyle2.received⟩

/-- The message with no identifiers at the items of its list values -/
def IndMsg.received : IndMsg Ue Cell → IndMsg Ue Cell
  | .frmt1 f => .frmt1 f.received
  | .frmt2 f => .frmt2 f.received
  | .frmt3 f => .frmt3 f
  | .frmt4 f => .frmt4 f
  | .frmt5 f => .frmt5 f.received
  | .frmt6 f => .frmt6 f.received

theorem SeqUeId.received_comp : (SeqUeId.received ∘ SeqUeId.received : SeqUeId Ue → SeqUeId Ue) = SeqUeId.received := by
  funext u
  simp [SeqUeId.received]

theorem SeqInsIndAct2.received_comp : SeqInsIndAct2.received ∘ SeqInsIndAct2.received = SeqInsIndAct2.received := by
  funext i
  simp [SeqInsIndAct2.received]

theorem SeqInsStyle2.received_comp : SeqInsStyle2.received ∘ SeqInsStyle2.received = SeqInsStyle2.received := by
  funext s
  simp [SeqInsStyle2.received, SeqInsIndAct2.received_comp]

theorem IndMsg.received_received (msg : IndMsg Ue Cell) : msg.received.received = msg.received := by
  cases msg with
  | frmt1 f => simp [received, IndMsgFrmt1.received]
  | frmt2 f => simp [received, IndMsgFrmt2.received, SeqUeId.received_comp]
  | frmt3 f => rfl
  | frmt4 f => rfl
  | frmt5 f => simp [received, IndMsgFrmt5.received]
  | frmt6 f => simp [received, IndMsgFrmt6.received, SeqInsStyle2.received_comp]

/-- The lists that only the decoder measures are not too long. -/
def IndMsg.ListsUpTo (m : Nat) : IndMsg Ue Cell → Prop
  | .frmt4 f => upTo m f.seqUeInfo.length ∧ upTo m f.seqCellInfo2.length
  | .frmt5 f => upTo m f.seqRanParam.length
  | _ => True

end Values

/-! ### Messages -/

theorem IndMsgFrmt1.carried (f : IndMsgFrmt1) :
    CarriedAs encIndMsgFrmt1 decIndMsgFrmt1 f f.received
      (∀ p ∈ f.seqRanParam, p.ranParamVal.Sized (oneTo 65535)) :=
  (CarriedAs.mapSized_of _ _ id fun p _ => SeqRanParam.carried p).wrap rfl fun _ => rfl

theorem SeqUeId.carried (hI : I.RoundTrips) (u : SeqUeId I.Ue) :
    CarriedAs (encIndMsgFrmt2It I) (decSeqUeId I) u u.received
      (∀ p ∈ u.seqRanParam, p.ranParamVal.Sized (oneTo 65535)) := by
  intro a h v
  simp only [encIndMsgFrmt2It, Except.bind_eq_ok, Except.pure_eq, Except.ok.injEq] at h
  obtain ⟨ueId, hue, params, hparams, rfl⟩ := h
  simp only [decSeqUeId, hI.ue _ _ hue, Except.ok_bind]
  exact bind_ok_iff (CarriedAs.mapSized_of _ _ id (fun p _ => SeqRanParam.carried p) params hparams)

theorem IndMsgFrmt2.carried (hI : I.RoundTrips) (f : IndMsgFrmt2 I.Ue) :
    CarriedAs (encIndMsgFrmt2 I) (decIndMsgFrmt2 I) f f.received
      (∀ u ∈ f.seqUeId, ∀ p ∈ u.seqRanParam, p.ranParamVal.Sized (oneTo 65535)) :=
  (CarriedAs.mapSized_of _ _ id fun u _ => SeqUeId.carried hI u).wrap rfl fun _ => rfl

theorem decIndMsgFrmt3It_of (hI : I.RoundTrips) {i : SeqCellInfo I.Cell}
    {a : Asn.IndicationMessageFormat3Item I.CellAsn} (h : encIndMsgFrmt3It I i = .ok a) :
    decIndMsgFrmt3It I a = .ok i := by
  obtain ⟨cell, ctx, del, tbl⟩ := i
  simp only [encIndMsgFrmt3It, Except.bind_eq_ok, require_eq_ok, Except.pure_eq, Except.ok.injEq] at h
  obtain ⟨c, hc, -, rfl, -, rfl, -, rfl, rfl⟩ := h
  simp only [decIndMsgFrmt3It, hI.cell _ _ hc, require_true, Except.ok_bind, Except.pure_eq]

theorem decIndMsgFrmt3_of (hI : I.RoundTrips) {f : IndMsgFrmt3 I.Cell} {a : Asn.IndicationMessageFormat3 I.CellAsn}
    (h : encIndMsgFrmt3 I f = .ok a) : decIndMsgFrmt3 I a = .ok f := by
  obtain ⟨items, hitems, h⟩ := Except.bind_eq_ok.mp h
  obtain rfl := Except.ok.inj h
  have hback := mapSized_round_trip hitems id fun i _ _ => decIndMsgFrmt3It_of hI
  simp only [decIndMsgFrmt3, hback, Except.ok_bind, Except.pure_eq]

theorem decIndMsgFrmt4ItUeInfo_of (hI : I.RoundTrips) {i : SeqUeInfo I.Ue I.Cell}
    {a : Asn.IndicationMessageFormat4ItemUe I.UeAsn I.CellAsn} (h : encIndMsgFrmt4ItUe I i = .ok a) :
    decIndMsgFrmt4ItUeInfo I a = .ok i := by
  obtain ⟨ue, ctx, cell⟩ := i
  simp only [encIndMsgFrmt4ItUe, Except.bind_eq_ok, require_eq_ok, Except.pure_eq, Except.ok.injEq] at h
  obtain ⟨u, hu, -, rfl, c, hc, rfl⟩ := h
  simp only [decIndMsgFrmt4ItUeInfo, hI.ue _ _ hu, hI.cell _ _ hc, require_true, Except.ok_bind, Except.pure_eq]

theorem decIndMsgFrmt4ItDellInfo_of (hI : I.RoundTrips) {i : SeqCellInfo2 I.Cell}
    {a : Asn.IndicationMessageFormat4ItemCell I.CellAsn} (h : encIndMsgFrmt4ItCell I i = .ok a) :
    decIndMsgFrmt4ItDellInfo I a = .ok i := by
  obtain ⟨cell, ctx, tbl⟩ := i
  simp only [encIndMsgFrmt4ItCell, Except.bind_eq_ok, require_eq_ok, Except.pure_eq, Except.ok.injEq] at h
  obtain ⟨c, hc, -, rfl, -, rfl, rfl⟩ := h
  simp only [decIndMsgFrmt4ItDellInfo, hI.cell _ _ hc, require_true, Except.ok_bind, Except.pure_eq]

/-- Only the decoder measures the lists of format 4. -/
theorem IndMsgFrmt4.carried (hI : I.RoundTrips) (f : IndMsgFrmt4 I.Ue I.Cell) :
    CarriedAs (encIndMsgFrmt4 I) (decIndMsgFrmt4 I) f f
      (upTo 65535 f.seqUeInfo.length ∧ upTo 65535 f.seqCellInfo2.length) := by
  intro a h g
  simp only [encIndMsgFrmt4, Except.bind_eq_ok, Except.pure_eq, Except.ok.injEq] at h
  obtain ⟨ues, hues, cells, hcells, rfl⟩ := h
  have hues' := (Except.mapM_round_trip hues).mpr fun i _ _ => decIndMsgFrmt4ItUeInfo_of hI
  have hcells' := (Except.mapM_round_trip hcells).mpr fun i _ _ => decIndMsgFrmt4ItDellInfo_of hI
  simp only [decIndMsgFrmt4, Except.bind_eq_ok, Except.pure_eq, Except.ok.injEq, mapSized_eq_ok, hues', hcells',
    Except.length_of_mapM hues, Except.length_of_mapM hcells]
  constructor
  · rintro ⟨_, ⟨hu, rfl⟩, _, ⟨hc, rfl⟩, rfl⟩
    exact ⟨⟨hu, hc⟩, rfl⟩
  · rintro ⟨⟨hu, hc⟩, rfl⟩
    exact ⟨_, ⟨hu, rfl⟩, _, ⟨hc, rfl⟩, rfl⟩

/-- Nor does the encoder measure the list of format 5. -/
theorem IndMsgFrmt5.carried (f : IndMsgFrmt5) :
    CarriedAs encIndMsgFrmt5 decIndMsgFrmt5 f f.received
      (upTo 65535 f.seqRanParam.length ∧ ∀ p ∈ f.seqRanParam, p.ranParamVal.Sized (oneTo 65535)) :=
  (CarriedAs.mapM_mapSized _ fun p _ => SeqRanParam.carried p).wrap rfl fun _ => rfl

theorem SeqInsIndAct2.carried (i : SeqInsIndAct2) :
    CarriedAs encIndMsgFrmt6IndIt decSeqInsIndAct i i.received
      (∀ p ∈ i.ranParamReq, p.ranParamVal.Sized (oneTo 65535)) := by
  intro a h j
  simp only [encIndMsgFrmt6IndIt, Except.bind_eq_ok, require_eq_ok, Except.pure_eq, Except.ok.injEq] at h
  obtain ⟨-, hid, params, hparams, rfl⟩ := h
  simp only [decSeqInsIndAct, require_of (UInt16.toNat_lt_65536 hid), Except.ok_bind, UInt16.ofInt_toNat]
  exact bind_ok_iff (CarriedAs.mapM (fun p _ => SeqRanParam.carried_inRange p) params hparams)

theorem SeqInsStyle2.carried (s : SeqInsStyle2) :
    CarriedAs encIndMsgFrmt6It decSeqInsStyle s s.received
      (∀ i ∈ s.seqInsIndAct, ∀ p ∈ i.ranParamReq, p.ranParamVal.Sized (oneTo 65535)) := by
  intro a h t
  obtain ⟨items, hitems, h⟩ := Except.bind_eq_ok.mp h
  obtain rfl := Except.ok.inj h
  simp only [decSeqInsStyle, UInt32.ofInt_toNat]
  exact bind_ok_iff (CarriedAs.mapSized_of _ _ id (fun i _ => SeqInsIndAct2.carried i) items hitems)

theorem IndMsgFrmt6.carried (f : IndMsgFrmt6) :
    CarriedAs encIndMsgFrmt6 decIndMsgFrmt6 f f.received
      (∀ s ∈ f.seqInsStyle, ∀ i ∈ s.seqInsIndAct, ∀ p ∈ i.ranParamReq, p.ranParamVal.Sized (oneTo 65535)) :=
  (CarriedAs.mapSized_of _ _ id fun s _ => SeqInsStyle2.carried s).wrap rfl fun _ => rfl

/-- A message arrives, its list items without their identifiers, exactly when its values do and its lists are not too
long. -/
theorem IndMsg.carried (hI : I.RoundTrips) (msg : IndMsg I.Ue I.Cell) :
    CarriedAs (rcEncIndMsg I) (rcDecIndMsg I) msg msg.received
      (msg.ListsUpTo 65535 ∧ msg.AllValues (RanParamValType.Sized (oneTo 65535))) := by
  cases msg with
  | frmt1 f => exact ((IndMsgFrmt1.carried f).wrap rfl fun _ => rfl).congr (true_and _).symm.to_iff
  | frmt2 f => exact ((IndMsgFrmt2.carried hI f).wrap rfl fun _ => rfl).congr (true_and _).symm.to_iff
  | frmt3 f =>
    have hback : CarriedAs (encIndMsgFrmt3 I) (decIndMsgFrmt3 I) f f True := .of_ok fun _ => decIndMsgFrmt3_of hI
    exact (hback.wrap rfl fun _ => rfl).congr (true_and _).symm.to_iff
  | frmt4 f => exact ((IndMsgFrmt4.carried hI f).wrap rfl fun _ => rfl).congr (and_true _).symm.to_iff
  | frmt5 f => exact (IndMsgFrmt5.carried f).wrap rfl fun _ => rfl
  | frmt6 f => exact ((IndMsgFrmt6.carried f).wrap rfl fun _ => rfl).congr (true_and _).symm.to_iff

/-- Neither the members of a structure or of a list item, of any depth, nor the entries of a list that only the decoder
measures are too many. -/
def IndMsg.Short {Ue Cell : Type} (msg : IndMsg Ue Cell) : Prop :=
  msg.ListsUpTo 65535 ∧ msg.AllValues (RanParamValType.Sized (upTo 65535))

theorem IndMsg.arrives_iff (hI : I.RoundTrips) {msg : IndMsg I.Ue I.Cell} {a : Asn.IndicationMessage I.UeAsn I.CellAsn}
    (h : rcEncIndMsg I msg = .ok a) (hmsg : msg.AllValues (RanParamValType.Sized (0 < ·))) :
    (∃ msg', rcDecIndMsg I a = .ok msg' ∧ msg'.received = msg.received) ↔ msg.Short := by
  rw [(IndMsg.carried hI msg).exists_iff h msg.received_received, RanParamValType.sized_oneTo, allValues_and,
    and_iff_right hmsg, Short]

end FlexRic.Sm.Rc
