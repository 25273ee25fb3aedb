import FlexRic.Sm.Rc.ActionDef
import FlexRic.Theorems.Sm.Rc.EventTrigger

/-! # What arrives of a subscription

Action definitions arrive like event triggers, but for the identifiers of the items of a list value: the ASN.1 type has
no field for them, and the encoder leaves them out on purpose. -/

namespace FlexRic.Sm.Rc

variable {Ue UeAsn : Type}

/-! ### References to parameters -/

theorem decRanParamRef_of {p : RanParamRef} {a : Asn.RanParameterRef} {msg msg' : String}
    (h : encRanParamRef msg msg' p = .ok a) : decRanParamRef a = .ok p := by
  obtain ⟨id, ref⟩ := p
  simp only [encRanParamRef, Except.bind_eq_ok, require_eq_ok, Except.pure_eq, Except.ok.injEq] at h
  obtain ⟨-, hid, -, rfl, rfl⟩ := h
  simp only [decRanParamRef, require_of (UInt32.toNat_inRange hid).1, require_true, Except.ok_bind, Except.pure_eq,
    UInt32.ofNat_toNat]

/-- Lists of references, of which the decoder asserts the length -/
theorem mapSized_decRanParamRef {p : Nat → Prop} [DecidablePred p] {msg msgId msgDef : String} {l : List RanParamRef}
    {items : List Asn.RanParameterRef} (h : mapSized p msg (encRanParamRef msgId msgDef) l = .ok items)
    (hl : oneTo 65535 l.length) (msg' : String) : mapSized (oneTo 65535) msg' decRanParamRef items = .ok l :=
  mapSized_round_trip h (fun _ => hl) (fun _ _ _ => decRanParamRef_of) msg'

theorem decActDefFrmt1_of {f : ActDefFrmt1} {a : Asn.ActionDefinitionFormat1} (h : cpActDefFrmt1 f = .ok a) :
    decActDefFrmt1 a = .ok f := by
  obtain ⟨items, hitems, h⟩ := Except.bind_eq_ok.mp h
  obtain rfl := Except.ok.inj h
  have hback := mapSized_decRanParamRef hitems (mapSized_eq_ok.mp hitems).1
  simp only [decActDefFrmt1, decParamReportDef, hback, Except.ok_bind, Except.pure_eq]

/-! ### Format 2 -/

def PolicyAction.received (act : PolicyAction) : PolicyAction :=
  { act with seqRanParam := act.seqRanParam.map SeqRanParam.received }

/-- What the decoder of a policy action asks for and the encoder does not -/
def PolicyAction.Fits (act : PolicyAction) : Prop :=
  upTo 65534 act.seqRanParam.length ∧ ∀ p ∈ act.seqRanParam, p.ranParamVal.Sized (oneTo 65535)

/-- An empty list is not sent, and a list that is not sent is empty. -/
theorem decSeqRanParams_of {ps : List (SeqRanParam RanParamValType)}
    {items : List (Asn.RanParameterItem Asn.RanParameterValueType)}
    (h : ps.mapM cpRicPolicyActionRanParam = .ok items) (hsize : upTo 65534 ps.length)
    (hps : ∀ p ∈ ps, p.ranParamVal.Sized (oneTo 65535)) :
    decSeqRanParams (if 0 < ps.length then some items else none) = .ok (ps.map SeqRanParam.received) := by
  by_cases hpos : 0 < ps.length
  · have hback := CarriedAs.ok
      (CarriedAs.mapM fun p _ => encRanParamItem_carried_inRange (RanParamValType.carried p.ranParamVal)) hps h
    have hlen : oneTo 65534 items.length := by rw [Except.length_of_mapM h]; exact ⟨hpos, hsize⟩
    rw [if_pos hpos, decSeqRanParams, mapSized_eq_ok]
    exact ⟨hlen, hback⟩
  · obtain rfl := List.length_eq_zero_iff.mp (Nat.eq_zero_of_not_pos hpos)
    rfl

theorem decPolicyAction_of {act : PolicyAction} {a : Asn.RicPolicyAction} (h : cpRicPolicyAction act = .ok a)
    (hact : act.Fits) : decPolicyAction a = .ok act.received := by
  obtain ⟨id, ps, dec⟩ := act
  simp only [cpRicPolicyAction, Except.bind_eq_ok, require_eq_ok, Except.pure_eq, Except.ok.injEq] at h
  obtain ⟨-, hid, items, hitems, -, rfl, rfl⟩ := h
  simp only [decPolicyAction, require_of (UInt16.toNat_inRange hid), decSeqRanParams_of hitems hact.1 hact.2,
    require_true, Except.ok_bind, Except.pure_eq, UInt16.ofInt_toNat, PolicyAction.received]

def PolicyCond.received (c : PolicyCond) : PolicyCond := { c with polAct := c.polAct.received }

theorem decPolicyCond_of {c : PolicyCond} {a : Asn.ActionDefinitionFormat2Item} (h : cpRcActDefFrmt2It c = .ok a)
    (hc : c.polAct.Fits) : decPolicyCond a = .ok c.received := by
  obtain ⟨act, pol⟩ := c
  simp only [cpRcActDefFrmt2It, Except.bind_eq_ok, require_eq_ok, Except.pure_eq, Except.ok.injEq] at h
  obtain ⟨b, hb, -, rfl, rfl⟩ := h
  simp only [decPolicyCond, decPolicyAction_of hb hc, require_true, Except.ok_bind, Except.pure_eq, PolicyCond.received]

def ActDefFrmt2.received (f : ActDefFrmt2) : ActDefFrmt2 := ⟨f.policyCond.map PolicyCond.received⟩

/-- What the decoder of format 2 asks for and the encoder does not -/
def ActDefFrmt2.Fits (f : ActDefFrmt2) : Prop := upTo 65535 f.policyCond.length ∧ ∀ c ∈ f.policyCond, c.polAct.Fits

theorem decActDefFrmt2_of {f : ActDefFrmt2} {a : Asn.ActionDefinitionFormat2} (h : cpActDefFrmt2 f = .ok a)
    (hf : f.Fits) : decActDefFrmt2 a = .ok f.received := by
  obtain ⟨items, hitems, h⟩ := Except.bind_eq_ok.mp h
  obtain rfl := Except.ok.inj h
  obtain ⟨hpos, hitems⟩ := mapSized_eq_ok.mp hitems
  have hlen : oneTo 65535 items.length := by rw [Except.length_of_mapM hitems]; exact ⟨hpos, hf.1⟩
  have hback : items.mapM decPolicyCond = .ok (f.policyCond.map PolicyCond.received) :=
    (CarriedAs.mapM (P := fun _ => True)
      fun c hc => CarriedAs.of_ok fun _ hb => decPolicyCond_of hb (hf.2 c hc)).ok (fun _ _ => trivial) hitems
  simp only [decActDefFrmt2, mapSized_eq_ok.mpr ⟨hlen, hback⟩, Except.ok_bind, Except.pure_eq, ActDefFrmt2.received]

/-! ### Formats 3 and 4 -/

theorem decActDefFrmt3_of {f : ActDefFrmt3 Ue} {a : Asn.ActionDefinitionFormat3 UeAsn} (h : cpActDefFrmt3 f = .ok a)
    (hf : upTo 65535 f.ranParam.length) : decActDefFrmt3 a = .ok f := by
  obtain ⟨id, ps, ue⟩ := f
  simp only [cpActDefFrmt3, Except.bind_eq_ok, require_eq_ok, Except.pure_eq, Except.ok.injEq,
    Option.isNone_iff_eq_none] at h
  obtain ⟨-, hid, items, hitems, -, rfl, rfl⟩ := h
  have hback := mapSized_decRanParamRef hitems ⟨(mapSized_eq_ok.mp hitems).1, hf⟩
  simp only [decActDefFrmt3, decRanParamIns, require_of (UInt16.toNat_inRange hid), hback, Option.isNone_none,
    require_true, Except.ok_bind, Except.pure_eq, UInt16.ofInt_toNat]

theorem decSeqInsIndActDef_of {i : SeqInsIndActDef} {a : Asn.ActionDefinitionFormat4IndicationItem}
    (h : encSeqInsIndActDef i = .ok a) : decSeqInsIndActDef a = .ok i := by
  obtain ⟨id, ps⟩ := i
  simp only [encSeqInsIndActDef, Except.bind_eq_ok, require_eq_ok, Except.pure_eq, Except.ok.injEq] at h
  obtain ⟨-, hid, items, hitems, rfl⟩ := h
  have hback := mapSized_decRanParamRef hitems (mapSized_eq_ok.mp hitems).1
  simp only [decSeqInsIndActDef, decRanParamInsInd, require_of (UInt16.toNat_pos hid), hback, Except.ok_bind,
    Except.pure_eq, UInt16.ofInt_toNat]

theorem decSeqInsStyles_of {s : SeqInsStyle} {a : Asn.ActionDefinitionFormat4StyleItem} (h : cpSeqInsStyles s = .ok a) :
    decSeqInsStyles a = .ok s := by
  obtain ⟨items, hitems, h⟩ := Except.bind_eq_ok.mp h
  obtain rfl := Except.ok.inj h
  have hback := mapSized_round_trip hitems id fun i _ _ => decSeqInsIndActDef_of
  simp only [decSeqInsStyles, hback, Except.ok_bind, Except.pure_eq, UInt32.ofInt_toNat]

theorem decActDefFrmt4_of {f : ActDefFrmt4 Ue} {a : Asn.ActionDefinitionFormat4 UeAsn} (h : cpActDefFrmt4 f = .ok a) :
    decActDefFrmt4 a = .ok f := by
  obtain ⟨styles, ue⟩ := f
  simp only [cpActDefFrmt4, Except.bind_eq_ok, require_eq_ok, Except.pure_eq, Except.ok.injEq,
    Option.isNone_iff_eq_none] at h
  obtain ⟨items, hitems, -, rfl, rfl⟩ := h
  have hback := mapSized_round_trip hitems id fun s _ _ => decSeqInsStyles_of
  simp only [decActDefFrmt4, hback, Option.isNone_none, require_true, Except.ok_bind, Except.pure_eq]

/-! ### The action definition -/

def ActDefFormat.received : ActDefFormat Ue → ActDefFormat Ue
  | .frmt2 f => .frmt2 f.received
  | f => f

/-- The definition with no identifiers at the items of its list values -/
def ActionDef.received (ad : ActionDef Ue) : ActionDef Ue := { ad with format := ad.format.received }

/-- What the decoder asks for and the encoder does not -/
def ActDefFormat.Fits : ActDefFormat Ue → Prop
  | .frmt2 f => f.Fits
  | .frmt3 f => upTo 65535 f.ranParam.length
  | _ => True

theorem decActDefFormat_of {f : ActDefFormat Ue} {a : Asn.ActionDefinitionFormats UeAsn} (h : cpActDefFormat f = .ok a)
    (hf : f.Fits) : decActDefFormat a = .ok f.received := by
  cases f with
  | frmt1 f =>
    obtain ⟨b, hb, h⟩ := Except.bind_eq_ok.mp h
    obtain rfl := Except.ok.inj h
    simp only [decActDefFormat, decActDefFrmt1_of hb, Except.ok_bind, Except.pure_eq, ActDefFormat.received]
  | frmt2 f =>
    obtain ⟨b, hb, h⟩ := Except.bind_eq_ok.mp h
    obtain rfl := Except.ok.inj h
    simp only [decActDefFormat, decActDefFrmt2_of hb hf, Except.ok_bind, Except.pure_eq, ActDefFormat.received]
  | frmt3 f =>
    obtain ⟨b, hb, h⟩ := Except.bind_eq_ok.mp h
    obtain rfl := Except.ok.inj h
    simp only [decActDefFormat, decActDefFrmt3_of hb hf, Except.ok_bind, Except.pure_eq, ActDefFormat.received]
  | frmt4 f =>
    obtain ⟨b, hb, h⟩ := Except.bind_eq_ok.mp h
    obtain rfl := Except.ok.inj h
    simp only [decActDefFormat, decActDefFrmt4_of hb, Except.ok_bind, Except.pure_eq, ActDefFormat.received]

theorem rcDecActionDef_of {ad : ActionDef Ue} {a : Asn.ActionDefinition UeAsn} (h : rcEncActionDef ad = .ok a)
    (had : ad.format.Fits) : rcDecActionDef a = .ok ad.received := by
  obtain ⟨b, hb, h⟩ := Except.bind_eq_ok.mp h
  obtain rfl := Except.ok.inj h
  simp only [rcDecActionDef, decActDefFormat_of hb had, Except.ok_bind, Except.pure_eq, UInt32.ofInt_toNat,
    ActionDef.received]

/-! ### The subscription -/

/-- An event trigger arrives as it was sent and an action definition with its list items unnamed, whenever the lists
that the encoder does not measure have a length that the decoder accepts, and a change of format 3 says nothing beside
its identifiers. -/
theorem subscription_round_trip :
    (∀ (et : EventTrigger) (a : Asn.EventTrigger), rcEncEventTrigger et = .ok a → et.Fits →
      rcDecEventTrigger a = .ok et) ∧
    ∀ (ad : ActionDef Ue) (a : Asn.ActionDefinition UeAsn), rcEncActionDef ad = .ok a → ad.format.Fits →
      rcDecActionDef a = .ok ad.received :=
  ⟨fun _ _ h het => rcDecEventTrigger_of h het, fun _ _ h had => rcDecActionDef_of h had⟩

/-- A change of the state of layer 2, tested by a list of two tests -/
def l2StateTrigger : EventTrigger :=
  .frmt4 ⟨[⟨7, .l2State [⟨3, .lst [⟨4, .flagTrue (.int 12)⟩, ⟨5, .flagFalse ⟨.comparison .lessThan, none, none⟩⟩]⟩],
    none, none⟩]⟩

def l2StateTriggerAsn : Asn.EventTrigger :=
  .format4 ⟨[⟨7, .l2State [⟨3, .list [⟨4, .elementTrue (.valueInt 12)⟩, ⟨5, .elementFalse ⟨.comparison 3, none, none⟩⟩]⟩],
    none, none⟩]⟩

/-- A policy with one parameter, a list of one structure, that names the structure -/
def listPolicy (id : UInt32) : ActionDef Unit :=
  ⟨2, .frmt2 ⟨[⟨⟨1, [⟨8, .lst [⟨id, [⟨9, .flagFalse (.bool true)⟩]⟩]⟩], none⟩, none⟩]⟩⟩

def listPolicyAsn : Asn.ActionDefinition Unit :=
  ⟨2, .format2 ⟨[⟨⟨1, some [⟨8, .list [some [⟨9, .elementFalse (some (.valueBoolean true))⟩]]⟩], none⟩, none⟩]⟩⟩

theorem subscription_round_trip_l2State :
    (rcEncEventTrigger l2StateTrigger = .ok l2StateTriggerAsn ∧
      rcDecEventTrigger l2StateTriggerAsn = .ok l2StateTrigger) ∧
    rcEncActionDef (listPolicy 5) = .ok listPolicyAsn ∧
      rcDecActionDef listPolicyAsn = .ok (listPolicy 5).received := by
  have htrigger : l2StateTrigger.Fits := by
    intro i hi
    obtain rfl := List.mem_singleton.mp hi
    intro t ht
    obtain rfl := List.mem_singleton.mp ht
    refine .lst (by decide) fun t ht => ?_
    rw [List.mem_cons, List.mem_singleton] at ht
    rcases ht with rfl | rfl
    · exact .flagTrue 4 _
    · exact .flagFalse 5 _
  have hpolicy : (listPolicy 5).format.Fits := by
    refine ⟨by decide, fun c hc => ?_⟩
    obtain rfl := List.mem_singleton.mp hc
    refine ⟨by decide, fun p hp => ?_⟩
    obtain rfl := List.mem_singleton.mp hp
    refine RanParamValType.sized_lst.mpr fun i hi => ?_
    obtain rfl := List.mem_singleton.mp hi
    refine ⟨by decide, fun p hp => ?_⟩
    obtain rfl := List.mem_singleton.mp hp
    exact .flagFalse _
  have h := @subscription_round_trip Unit Unit
  exact ⟨⟨rfl, h.1 _ _ rfl htrigger⟩, rfl, h.2 _ _ rfl hpolicy⟩

/-- The name of the structure does not arrive. -/
theorem list_item_id_not_sent :
    rcEncActionDef (listPolicy 5) = .ok listPolicyAsn ∧ rcDecActionDef listPolicyAsn = .ok (listPolicy 0) ∧
      listPolicy 0 ≠ listPolicy 5 := by
  refine ⟨rfl, rfl, fun h => ?_⟩
  injection h with _ h
  simp at h

end FlexRic.Sm.Rc
