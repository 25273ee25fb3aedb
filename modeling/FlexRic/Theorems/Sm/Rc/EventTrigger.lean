import FlexRic.Sm.Rc.EventTrigger
import FlexRic.Theorems.Sm.Rc.RanParam

/-! # What arrives of an event trigger

Event triggers arrive as they were sent, but for what the two sides check differently: how many changes format 3 has and
what it says beside their identifiers, and how many members the lists and structures of a test have. -/

namespace FlexRic.Sm.Rc

/-! ### Enumerations -/

theorem decNiType_of {t : NetworkInterfaceType} {n : Int} (h : encNiType t = .ok n) : decNiType n = .ok t := by
  cases t with
  | end_ => cases h
  | _ => obtain rfl := Except.ok.inj h; rfl

theorem decRrcMsgTypeLte_of {c : LteRrcClass} {n : Int} (h : cpRrcMsgTypeLte c = .ok n) :
    decRrcMsgTypeLte n = .ok c := by
  cases c with
  | end_ => cases h
  | _ => obtain rfl := Except.ok.inj h; rfl

theorem decRrcMsgTypeNr_of {c : NrRrcClass} {n : Int} (h : cpRrcMsgTypeNr c = .ok n) : decRrcMsgTypeNr n = .ok c := by
  cases c with
  | end_ => cases h
  | _ => obtain rfl := Except.ok.inj h; rfl

theorem decRrcStateChange_of {s : RrcStateE2sm} {n : Int} (h : encRrcStateChange s = .ok n) :
    decRrcStateChange n = .ok s := by
  cases s with
  | end_ => cases h
  | _ => obtain rfl := Except.ok.inj h; rfl

theorem decRanParamTestCondComp_of {c : RanParamTestCondComp} {n : Int} (h : encRanParamTestCondComp c = .ok n) :
    decRanParamTestCondComp n = .ok c := by
  cases c with
  | end_ => cases h
  | _ => obtain rfl := Except.ok.inj h; rfl

theorem decRanParamTestCondPresence_of {p : RanParamTestCondPresence} {n : Int}
    (h : encRanParamTestCondPresence p = .ok n) : decRanParamTestCondPresence n = .ok p := by
  cases p with
  | end_ => cases h
  | _ => obtain rfl := Except.ok.inj h; rfl

/-! ### Formats 1 and 2 -/

theorem decMsgTypeNi_of {m : NetworkInterface} {a : Asn.MessageTypeNi} (h : cpMsgTypeNi m = .ok a) :
    decMsgTypeNi a = .ok m := by
  obtain ⟨t, id, msg⟩ := m
  simp only [cpMsgTypeNi, Except.bind_eq_ok, require_eq_ok, Except.pure_eq, Except.ok.injEq] at h
  obtain ⟨n, hn, -, rfl, -, rfl, rfl⟩ := h
  simp [decMsgTypeNi, decNiType_of hn, require]

theorem decRrcMsgType_of {c : RrcClass} {a : Asn.RrcType} (h : cpRrcMsgType c = .ok a) : decRrcMsgType a = .ok c := by
  cases c with
  | lte c =>
    obtain ⟨n, hn, h⟩ := Except.bind_eq_ok.mp h
    obtain rfl := Except.ok.inj h
    simp [decRrcMsgType, decRrcMsgTypeLte_of hn]
  | nr c =>
    obtain ⟨n, hn, h⟩ := Except.bind_eq_ok.mp h
    obtain rfl := Except.ok.inj h
    simp [decRrcMsgType, decRrcMsgTypeNr_of hn]

theorem decMsgTypeRrc_of {m : RrcMsgId} {a : Asn.RrcMessageId} (h : cpMsgTypeRrc m = .ok a) :
    decMsgTypeRrc a = .ok m := by
  obtain ⟨rrcType, htype, h⟩ := Except.bind_eq_ok.mp h
  obtain rfl := Except.ok.inj h
  simp [decMsgTypeRrc, decRrcMsgType_of htype]

theorem decMsgType_of {m : MsgType} {a : Asn.MessageType} (h : cpMsgType m = .ok a) : decMsgType a = .ok m := by
  cases m with
  | net net =>
    obtain ⟨ni, hni, h⟩ := Except.bind_eq_ok.mp h
    obtain rfl := Except.ok.inj h
    simp [decMsgType, decMsgTypeNi_of hni]
  | rrcMsg rrcMsg =>
    obtain ⟨rrc, hrrc, h⟩ := Except.bind_eq_ok.mp h
    obtain rfl := Except.ok.inj h
    simp [decMsgType, decMsgTypeRrc_of hrrc]

theorem decRcEvTriggerFormat1It_of {m : MsgEvTrg} {a : Asn.EventTriggerFormat1Item}
    (h : cpRcEvTriggerFormat1It m = .ok a) : decRcEvTriggerFormat1It a = .ok m := by
  obtain ⟨id, type, dir, ue, lor⟩ := m
  simp only [cpRcEvTriggerFormat1It, Except.bind_eq_ok, require_eq_ok, Except.pure_eq, Except.ok.injEq] at h
  obtain ⟨-, hid, mt, htype, -, rfl, -, rfl, -, rfl, rfl⟩ := h
  simp only [decRcEvTriggerFormat1It, decMsgType_of htype, require_of (UInt16.toNat_inRange hid), require_true,
    Except.ok_bind, Except.pure_eq, UInt16.ofInt_toNat]

theorem decRcEvTriggerFormat1_of {f : EvTrgFrmt1} {a : Asn.EventTriggerFormat1} (h : cpRcEvTriggerFormat1 f = .ok a) :
    decRcEvTriggerFormat1 a = .ok f := by
  obtain ⟨msgs, ue⟩ := f
  simp only [cpRcEvTriggerFormat1, Except.bind_eq_ok, require_eq_ok, Except.pure_eq, Except.ok.injEq] at h
  obtain ⟨items, hitems, -, rfl, rfl⟩ := h
  have hmsgs := mapSized_round_trip hitems id fun m _ _ => decRcEvTriggerFormat1It_of
  simp only [decRcEvTriggerFormat1, hmsgs, require_true, Except.ok_bind, Except.pure_eq]

theorem decRcEvTriggerFormat2_of {f : EvTrgFrmt2} {a : Asn.EventTriggerFormat2} (h : cpRcEvTriggerFormat2 f = .ok a) :
    decRcEvTriggerFormat2 a = .ok f := by
  obtain ⟨callProc, callBreak, node, ue⟩ := f
  simp only [cpRcEvTriggerFormat2, Except.bind_eq_ok, require_eq_ok, Except.pure_eq, Except.ok.injEq] at h
  obtain ⟨-, hproc, -, hbreak, -, rfl, -, rfl, rfl⟩ := h
  simp only [decRcEvTriggerFormat2, require_of (UInt16.toNat_inRange hproc), require_of (UInt16.toNat_inRange hbreak),
    require_true, Except.ok_bind, Except.pure_eq, UInt16.ofInt_toNat]

/-! ### Format 3 -/

/-- What the decoder of format 3 asks for and the encoder does not: that there are changes, not too many, and that
nothing is said beside their identifiers. -/
def EvTrgFrmt3.Fits (f : EvTrgFrmt3) : Prop :=
  oneTo 65535 f.e2NodeInfoChng.length ∧ ∀ i ∈ f.e2NodeInfoChng, i.evTriggerCellInfo = none ∧ i.logOr = none

theorem decE2NodeInfoChng_of {i : E2NodeInfoChng} {a : Asn.EventTriggerFormat3Item}
    (h : cpRcEvTriggerFormat3It i = .ok a) (hcell : i.evTriggerCellInfo = none) (hlor : i.logOr = none) :
    decE2NodeInfoChng a = .ok i := by
  obtain ⟨cond, chng, cell, lor⟩ := i
  obtain rfl : cell = none := hcell
  obtain rfl : lor = none := hlor
  simp only [cpRcEvTriggerFormat3It, Except.bind_eq_ok, require_eq_ok, Except.pure_eq, Except.ok.injEq] at h
  obtain ⟨-, hcond, -, hchng, rfl⟩ := h
  have hlt : (chng.toNat : Int) < 513 := Int.ofNat_lt.mpr (UInt16.lt_iff_toNat_lt.mp hchng.2)
  simp only [decE2NodeInfoChng, require_of (UInt16.toNat_inRange hcond),
    require_of (And.intro (UInt16.toNat_pos hchng.1) hlt), require_true, Except.ok_bind, Except.pure_eq,
    UInt16.ofInt_toNat]

theorem decRcEvTriggerFormat3_of {f : EvTrgFrmt3} {a : Asn.EventTriggerFormat3} (h : cpRcEvTriggerFormat3 f = .ok a)
    (hf : f.Fits) : decRcEvTriggerFormat3 a = .ok f := by
  obtain ⟨items, hitems, h⟩ := Except.bind_eq_ok.mp h
  obtain rfl := Except.ok.inj h
  have hsize := hf.1
  rw [← Except.length_of_mapM hitems] at hsize
  have hback : items.mapM decE2NodeInfoChng = .ok f.e2NodeInfoChng :=
    (Except.mapM_round_trip hitems).mpr fun i hi _ hb => decE2NodeInfoChng_of hb (hf.2 i hi).1 (hf.2 i hi).2
  simp only [decRcEvTriggerFormat3, mapSized_eq_ok.mpr ⟨hsize, hback⟩, Except.ok_bind, Except.pure_eq]

/-! ### Tests -/

@[elab_as_elim]
theorem RanParamTest.induct {motive : RanParamTest → Prop}
    (lst : ∀ id ts, (∀ t ∈ ts, motive t) → motive ⟨id, .lst ts⟩)
    (strct : ∀ id ts, (∀ t ∈ ts, motive t) → motive ⟨id, .strct ts⟩) (flagTrue : ∀ id v, motive ⟨id, .flagTrue v⟩)
    (flagFalse : ∀ id e, motive ⟨id, .flagFalse e⟩) (t : RanParamTest) : motive t :=
  @RanParamTest.rec motive (fun type => ∀ id, motive ⟨id, type⟩) (fun ts => ∀ t ∈ ts, motive t) (fun id _ h => h id)
    (fun ts h id => lst id ts h) (fun ts h id => strct id ts h) (fun v id => flagTrue id v)
    (fun e id => flagFalse id e) (List.forall_mem_nil _) (fun _ _ ht hts => List.forall_mem_cons.mpr ⟨ht, hts⟩) t

/-- The lists and structures of the test, of any depth, have admitted numbers of members. -/
inductive RanParamTest.Sized (size : Nat → Prop) : RanParamTest → Prop
  | lst {id : UInt32} {ts : List RanParamTest} (hsize : size ts.length) (hts : ∀ t ∈ ts, Sized size t) :
    Sized size ⟨id, .lst ts⟩
  | strct {id : UInt32} {ts : List RanParamTest} (hsize : size ts.length) (hts : ∀ t ∈ ts, Sized size t) :
    Sized size ⟨id, .strct ts⟩
  | flagTrue (id : UInt32) (v : RanParameterValue) : Sized size ⟨id, .flagTrue v⟩
  | flagFalse (id : UInt32) (e : RanParamElmKeyFalse) : Sized size ⟨id, .flagFalse e⟩

theorem encRanParamTests_eq (ts : List RanParamTest) : encRanParamTests ts = ts.mapM encRanParamTest := by
  induction ts with
  | nil => rfl
  | cons t ts ih => rw [encRanParamTests, ih, List.mapM_cons]

theorem decRanParamTests_eq (ts : List Asn.RanParameterTestingItem) : decRanParamTests ts = ts.mapM decRanParamTest := by
  induction ts with
  | nil => rfl
  | cons t ts ih => rw [decRanParamTests, ih, List.mapM_cons]

theorem decTestCond_of {c : RanParamTestCond} {a : Asn.RanParameterTestingCondition}
    (h : encRanParamTestCond c = .ok a) : decTestCond a = .ok c := by
  cases c with
  | comparison comp =>
    obtain ⟨n, hn, h⟩ := Except.bind_eq_ok.mp h
    obtain rfl := Except.ok.inj h
    simp [decTestCond, decRanParamTestCondComp_of hn]
  | presence presence =>
    obtain ⟨n, hn, h⟩ := Except.bind_eq_ok.mp h
    obtain rfl := Except.ok.inj h
    simp [decTestCond, decRanParamTestCondPresence_of hn]

theorem decKeyFlagFalse_of {e : RanParamElmKeyFalse} {a : Asn.TestingElementFalse} (h : cpElmFalse e = .ok a) :
    decKeyFlagFalse a = .ok e := by
  obtain ⟨cond, value, lor⟩ := e
  simp only [cpElmFalse, Except.bind_eq_ok, require_eq_ok, Except.pure_eq, Except.ok.injEq] at h
  obtain ⟨tc, htc, -, rfl, -, rfl, rfl⟩ := h
  simp only [decKeyFlagFalse, decTestCond_of htc, require_true, Except.ok_bind, Except.pure_eq]

theorem decRanParamTests_of {ts : List RanParamTest} {items : List Asn.RanParameterTestingItem}
    (h : encRanParamTests ts = .ok items)
    (hts : ∀ t ∈ ts, ∀ a, encRanParamTest t = .ok a → decRanParamTest a = .ok t) : decRanParamTests items = .ok ts := by
  rw [encRanParamTests_eq] at h
  rw [decRanParamTests_eq, Except.mapM_round_trip h]
  exact hts

theorem length_of_encRanParamTests {ts : List RanParamTest} {items : List Asn.RanParameterTestingItem}
    (h : encRanParamTests ts = .ok items) : items.length = ts.length := by
  rw [encRanParamTests_eq] at h
  exact Except.length_of_mapM h

theorem decRanParamTest_of {t : RanParamTest} {a : Asn.RanParameterTestingItem} (h : encRanParamTest t = .ok a)
    (ht : t.Sized (oneTo 65535)) : decRanParamTest a = .ok t := by
  induction t using RanParamTest.induct generalizing a with
  | lst id ts ih =>
    simp only [encRanParamTest, Except.bind_eq_ok, require_eq_ok, Except.pure_eq, Except.ok.injEq] at h
    obtain ⟨-, hid, items, hitems, rfl⟩ := h
    cases ht with
    | lst hsize hts =>
      rw [← length_of_encRanParamTests hitems] at hsize
      have hback := decRanParamTests_of hitems fun t hmem a ha => ih t hmem ha (hts t hmem)
      simp only [decRanParamTest, require_of (UInt32.toNat_inRange hid), require_of hsize, hback, Except.ok_bind,
        Except.pure_eq, UInt32.ofNat_toNat]
  | strct id ts ih =>
    simp only [encRanParamTest, Except.bind_eq_ok, require_eq_ok, Except.pure_eq, Except.ok.injEq] at h
    obtain ⟨-, hid, items, hitems, rfl⟩ := h
    cases ht with
    | strct hsize hts =>
      rw [← length_of_encRanParamTests hitems] at hsize
      have hback := decRanParamTests_of hitems fun t hmem a ha => ih t hmem ha (hts t hmem)
      simp only [decRanParamTest, require_of (UInt32.toNat_inRange hid), require_of hsize, hback, Except.ok_bind,
        Except.pure_eq, UInt32.ofNat_toNat]
  | flagTrue id v =>
    simp only [encRanParamTest, Except.bind_eq_ok, require_eq_ok, Except.pure_eq, Except.ok.injEq] at h
    obtain ⟨-, hid, rfl⟩ := h
    have hback : decKeyFlagTrue (cpElmTrue v) = .ok v := decRanParamVal_cpRanParamVal v
    simp only [decRanParamTest, require_of (UInt32.toNat_inRange hid), hback, Except.ok_bind, Except.pure_eq,
      UInt32.ofNat_toNat]
  | flagFalse id e =>
    simp only [encRanParamTest, Except.bind_eq_ok, require_eq_ok, Except.pure_eq, Except.ok.injEq] at h
    obtain ⟨-, hid, b, hb, rfl⟩ := h
    simp only [decRanParamTest, require_of (UInt32.toNat_inRange hid), decKeyFlagFalse_of hb, Except.ok_bind,
      Except.pure_eq, UInt32.ofNat_toNat]

/-! ### Formats 4 and 5 -/

theorem decRrcState_of {s : RrcState} {a : Asn.RrcStateItem} (h : encRrcState s = .ok a) : decRrcState a = .ok s := by
  obtain ⟨chng, lor⟩ := s
  simp only [encRrcState, Except.bind_eq_ok, require_eq_ok, Except.pure_eq, Except.ok.injEq] at h
  obtain ⟨n, hn, -, rfl, rfl⟩ := h
  simp only [decRrcState, decRrcStateChange_of hn, require_true, Except.ok_bind, Except.pure_eq]

/-- The tests of the trigger, if it has any, have admitted numbers of members. -/
def UeInfoChngTrigger.Sized (size : Nat → Prop) : UeInfoChngTrigger → Prop
  | .l2State tests => ∀ t ∈ tests, t.Sized size
  | _ => True

theorem decTriggerType_of {t : UeInfoChngTrigger} {a : Asn.TriggerType} (h : cpTriggerType t = .ok a)
    (ht : t.Sized (oneTo 65535)) : decTriggerType a = .ok t := by
  cases t with
  | rrcState states =>
    obtain ⟨items, hitems, h⟩ := Except.bind_eq_ok.mp h
    obtain rfl := Except.ok.inj h
    have hback : decRrcStateLst items = .ok states :=
      mapSized_round_trip hitems id (fun s _ _ => decRrcState_of) _
    simp only [decTriggerType, hback, Except.ok_bind, Except.pure_eq]
  | ueIdChange id =>
    obtain rfl := Except.ok.inj h
    simp only [decTriggerType, UInt16.ofInt_toNat]
  | l2State tests =>
    obtain ⟨items, hitems, h⟩ := Except.bind_eq_ok.mp h
    obtain rfl := Except.ok.inj h
    have hback : decRanParamCondCritDef items = .ok tests :=
      mapSized_round_trip hitems id (fun t hmem _ hb => decRanParamTest_of hb (ht t hmem)) _
    simp only [decTriggerType, hback, Except.ok_bind, Except.pure_eq]

theorem decUeInfoChng_of {i : UeInfoChng} {a : Asn.EventTriggerFormat4Item} (h : cpRcEvTriggerFormat4It i = .ok a)
    (hi : i.type.Sized (oneTo 65535)) : decUeInfoChng a = .ok i := by
  obtain ⟨id, type, ue, lor⟩ := i
  simp only [cpRcEvTriggerFormat4It, Except.bind_eq_ok, require_eq_ok, Except.pure_eq, Except.ok.injEq] at h
  obtain ⟨-, hid, tt, htype, -, rfl, -, rfl, rfl⟩ := h
  simp only [decUeInfoChng, require_of (UInt16.toNat_inRange hid), decTriggerType_of htype hi, require_true,
    Except.ok_bind, Except.pure_eq, UInt16.ofInt_toNat]

theorem decRcEvTriggerFormat4_of {f : EvTrgFrmt4} {a : Asn.EventTriggerFormat4} (h : cpRcEvTriggerFormat4 f = .ok a)
    (hf : ∀ i ∈ f.ueInfoChng, i.type.Sized (oneTo 65535)) : decRcEvTriggerFormat4 a = .ok f := by
  obtain ⟨items, hitems, h⟩ := Except.bind_eq_ok.mp h
  obtain rfl := Except.ok.inj h
  have hback := mapSized_round_trip hitems id fun i hi _ hb => decUeInfoChng_of hb (hf i hi)
  simp only [decRcEvTriggerFormat4, hback, Except.ok_bind, Except.pure_eq]

theorem decRcEvTriggerFormat5_of {f : EvTrgFrmt5} {a : Asn.EventTriggerFormat5} (h : cpRcEvTriggerFormat5 f = .ok a) :
    decRcEvTriggerFormat5 a = .ok f := by
  obtain ⟨demand, ue, cell⟩ := f
  simp only [cpRcEvTriggerFormat5, Except.bind_eq_ok, require_eq_ok, Except.pure_eq, Except.ok.injEq] at h
  obtain ⟨-, rfl, -, rfl, -, rfl, rfl⟩ := h
  rfl

/-! ### The event trigger -/

/-- What the decoder asks for and the encoder does not -/
def EventTrigger.Fits : EventTrigger → Prop
  | .frmt3 f => f.Fits
  | .frmt4 f => ∀ i ∈ f.ueInfoChng, i.type.Sized (oneTo 65535)
  | _ => True

theorem rcDecEventTrigger_of {et : EventTrigger} {a : Asn.EventTrigger} (h : rcEncEventTrigger et = .ok a)
    (het : et.Fits) : rcDecEventTrigger a = .ok et := by
  cases et with
  | frmt1 f =>
    obtain ⟨b, hb, h⟩ := Except.bind_eq_ok.mp h
    obtain rfl := Except.ok.inj h
    simp only [rcDecEventTrigger, decRcEvTriggerFormat1_of hb, Except.ok_bind, Except.pure_eq]
  | frmt2 f =>
    obtain ⟨b, hb, h⟩ := Except.bind_eq_ok.mp h
    obtain rfl := Except.ok.inj h
    simp only [rcDecEventTrigger, decRcEvTriggerFormat2_of hb, Except.ok_bind, Except.pure_eq]
  | frmt3 f =>
    obtain ⟨b, hb, h⟩ := Except.bind_eq_ok.mp h
    obtain rfl := Except.ok.inj h
    simp only [rcDecEventTrigger, decRcEvTriggerFormat3_of hb het, Except.ok_bind, Except.pure_eq]
  | frmt4 f =>
    obtain ⟨b, hb, h⟩ := Except.bind_eq_ok.mp h
    obtain rfl := Except.ok.inj h
    simp only [rcDecEventTrigger, decRcEvTriggerFormat4_of hb het, Except.ok_bind, Except.pure_eq]
  | frmt5 f =>
    obtain ⟨b, hb, h⟩ := Except.bind_eq_ok.mp h
    obtain rfl := Except.ok.inj h
    simp only [rcDecEventTrigger, decRcEvTriggerFormat5_of hb, Except.ok_bind, Except.pure_eq]

end FlexRic.Sm.Rc
