import FlexRic.Sm.Rc.RanParam

/-! # What the two sides make of a RAN parameter

A value arrives as it was sent, but for the identifiers of the items of its lists, when its structures and the items of
its lists have between one and 65535 members. -/

namespace FlexRic.Sm.Rc

/-! ### Values as trees -/

@[elab_as_elim]
theorem RanParamValType.induct {motive : RanParamValType → Prop}
    (flagTrue : ∀ v, motive (.flagTrue v)) (flagFalse : ∀ v, motive (.flagFalse v))
    (strct : ∀ ps, (∀ p ∈ ps, motive p.ranParamVal) → motive (.strct ps))
    (lst : ∀ is, (∀ i ∈ is, ∀ p ∈ i.ranParamStruct, motive p.ranParamVal) → motive (.lst is)) (v : RanParamValType) :
    motive v :=
  @RanParamValType.rec motive (fun ps => ∀ p ∈ ps, motive p.ranParamVal)
    (fun is => ∀ i ∈ is, ∀ p ∈ i.ranParamStruct, motive p.ranParamVal) (fun p => motive p.ranParamVal)
    (fun i => ∀ p ∈ i.ranParamStruct, motive p.ranParamVal) flagTrue flagFalse strct lst (List.forall_mem_nil _)
    (fun _ _ hp hps => List.forall_mem_cons.mpr ⟨hp, hps⟩) (List.forall_mem_nil _)
    (fun _ _ hi his => List.forall_mem_cons.mpr ⟨hi, his⟩) (fun _ _ h => h) (fun _ _ h => h) v

/-- The structures of the value and the items of its lists, of any depth, have admitted numbers of members. -/
inductive RanParamValType.Sized (size : Nat → Prop) : RanParamValType → Prop
  | flagTrue (v : RanParameterValue) : Sized size (.flagTrue v)
  | flagFalse (v : RanParameterValue) : Sized size (.flagFalse v)
  | strct {ps : List (SeqRanParam RanParamValType)} (hsize : size ps.length)
      (hps : ∀ p ∈ ps, Sized size p.ranParamVal) : Sized size (.strct ps)
  | lst {is : List (LstRanParam RanParamValType)} (hsize : ∀ i ∈ is, size i.ranParamStruct.length)
      (his : ∀ i ∈ is, ∀ p ∈ i.ranParamStruct, Sized size p.ranParamVal) : Sized size (.lst is)

mutual

/-- The value with no identifiers at the items of its lists -/
def RanParamValType.received : RanParamValType → RanParamValType
  | .flagTrue v => .flagTrue v
  | .flagFalse v => .flagFalse v
  | .strct ps => .strct (receivedStructs ps)
  | .lst is => .lst (receivedLsts is)

def receivedStructs : List (SeqRanParam RanParamValType) → List (SeqRanParam RanParamValType)
  | [] => []
  | ⟨id, v⟩ :: ps => ⟨id, v.received⟩ :: receivedStructs ps

def receivedLsts : List (LstRanParam RanParamValType) → List (LstRanParam RanParamValType)
  | [] => []
  | ⟨_, ps⟩ :: is => ⟨0, receivedStructs ps⟩ :: receivedLsts is

end

/-- The parameter with another value -/
def SeqRanParam.withVal {V V' : Type} (f : V → V') (p : SeqRanParam V) : SeqRanParam V' := ⟨p.ranParamId, f p.ranParamVal⟩

abbrev SeqRanParam.received (p : SeqRanParam RanParamValType) : SeqRanParam RanParamValType :=
  p.withVal RanParamValType.received

theorem receivedStructs_eq (ps : List (SeqRanParam RanParamValType)) :
    receivedStructs ps = ps.map SeqRanParam.received := by
  induction ps with
  | nil => rfl
  | cons p ps ih => rw [receivedStructs, ih]; rfl

def LstRanParam.received (i : LstRanParam RanParamValType) : LstRanParam RanParamValType :=
  ⟨0, i.ranParamStruct.map SeqRanParam.received⟩

theorem receivedLsts_eq (is : List (LstRanParam RanParamValType)) : receivedLsts is = is.map LstRanParam.received := by
  induction is with
  | nil => rfl
  | cons i is ih => rw [receivedLsts, ih, receivedStructs_eq]; rfl

@[simp] theorem RanParamValType.received_strct (ps : List (SeqRanParam RanParamValType)) :
    (RanParamValType.strct ps).received = .strct (ps.map SeqRanParam.received) := by
  rw [RanParamValType.received, receivedStructs_eq]

@[simp] theorem RanParamValType.received_lst (is : List (LstRanParam RanParamValType)) :
    (RanParamValType.lst is).received = .lst (is.map LstRanParam.received) := by
  rw [RanParamValType.received, receivedLsts_eq]

@[simp] theorem RanParamValType.sized_strct {size : Nat → Prop} {ps : List (SeqRanParam RanParamValType)} :
    (RanParamValType.strct ps).Sized size ↔ size ps.length ∧ ∀ p ∈ ps, p.ranParamVal.Sized size :=
  ⟨fun h => by cases h with | strct hsize hps => exact ⟨hsize, hps⟩, fun h => .strct h.1 h.2⟩

@[simp] theorem RanParamValType.sized_lst {size : Nat → Prop} {is : List (LstRanParam RanParamValType)} :
    (RanParamValType.lst is).Sized size ↔
      ∀ i ∈ is, size i.ranParamStruct.length ∧ ∀ p ∈ i.ranParamStruct, p.ranParamVal.Sized size := by
  constructor
  · intro h
    cases h with
    | lst hsize his => exact fun i hi => ⟨hsize i hi, his i hi⟩
  · intro h
    exact .lst (fun i hi => (h i hi).1) fun i hi => (h i hi).2

@[simp] theorem RanParamValType.received_received (v : RanParamValType) : v.received.received = v.received := by
  induction v using RanParamValType.induct with
  | flagTrue v => rfl
  | flagFalse v => rfl
  | strct ps ih =>
    simp only [received_strct, List.map_map, strct.injEq]
    exact List.map_congr_left fun p hp => congrArg (SeqRanParam.mk p.ranParamId) (ih p hp)
  | lst is ih =>
    simp only [received_lst, List.map_map, lst.injEq]
    refine List.map_congr_left fun i hi => congrArg (LstRanParam.mk 0) ?_
    rw [LstRanParam.received, List.map_map]
    exact List.map_congr_left fun p hp => congrArg (SeqRanParam.mk p.ranParamId) (ih i hi p hp)

@[simp] theorem SeqRanParam.received_comp :
    (SeqRanParam.received ∘ SeqRanParam.received) = SeqRanParam.received :=
  funext fun p => congrArg (SeqRanParam.mk p.ranParamId) p.ranParamVal.received_received

/-! ### The loops -/

theorem encRanParamStructs_eq (ps : List (SeqRanParam RanParamValType)) :
    encRanParamStructs ps = ps.mapM encRanParamStruct := by
  induction ps with
  | nil => rfl
  | cons p ps ih =>
    rw [encRanParamStructs, ih, List.mapM_cons, encRanParamStruct, encRanParamItem]
    simp only [bind_assoc, pure_bind]

theorem encLstRanParams_eq (is : List (LstRanParam RanParamValType)) : encLstRanParams is = is.mapM encLstRanParam := by
  induction is with
  | nil => rfl
  | cons i is ih =>
    rw [encLstRanParams, ih, List.mapM_cons, encLstRanParam, encRanParamStructs_eq]
    simp only [bind_assoc, pure_bind]

theorem decRanParamStructs_eq (is : List (Asn.RanParameterItem Asn.RanParameterValueType)) :
    decRanParamStructs is = is.mapM decRanParamStruct := by
  induction is with
  | nil => rfl
  | cons i is ih =>
    rw [decRanParamStructs, ih, List.mapM_cons, decRanParamStruct, decRanParamItem]
    simp only [bind_assoc, pure_bind]

theorem decLstRanParams_eq (ss : List (Option (List (Asn.RanParameterItem Asn.RanParameterValueType)))) :
    decLstRanParams ss = ss.mapM decLstRanParam := by
  induction ss with
  | nil => rfl
  | cons s ss ih =>
    cases s with
    | none => rw [decLstRanParams, List.mapM_cons, decLstRanParam]; rfl
    | some is =>
      rw [decLstRanParams, ih, List.mapM_cons, decLstRanParam, decRanParamStructs_eq, mapSized]
      simp only [bind_assoc, pure_bind]

@[simp] theorem cpRanParamValueType_strct (ps : List (SeqRanParam RanParamValType)) :
    cpRanParamValueType (.strct ps) = ps.mapM encRanParamStruct >>= fun is => .ok (.structure_ (some is)) := by
  rw [cpRanParamValueType, encRanParamStructs_eq]; rfl

@[simp] theorem cpRanParamValueType_lst (is : List (LstRanParam RanParamValType)) :
    cpRanParamValueType (.lst is) = is.mapM encLstRanParam >>= fun ss => .ok (.list ss) := by
  rw [cpRanParamValueType, encLstRanParams_eq]; rfl

@[simp] theorem decRanParamValueType_structure (is : List (Asn.RanParameterItem Asn.RanParameterValueType)) :
    decRanParamValueType (.structure_ (some is)) = mapSized (oneTo 65535)
      "src->sequence_of_ranParameters->list.count > 0 && src->sequence_of_ranParameters->list.count <  65535 + 1"
      decRanParamStruct is >>= fun ps => .ok (.strct ps) := by
  rw [decRanParamValueType, decRanParamStructs_eq, mapSized, bind_assoc]; rfl

@[simp] theorem decRanParamValueType_list (ss : List (Option (List (Asn.RanParameterItem Asn.RanParameterValueType)))) :
    decRanParamValueType (.list ss) = ss.mapM decLstRanParam >>= fun is => .ok (.lst is) := by
  rw [decRanParamValueType, decLstRanParams_eq]; rfl

/-! ### There and back -/

theorem decRanParamVal_cpRanParamVal (v : RanParameterValue) : decRanParamVal (cpRanParamVal v) = .ok v := by
  cases v <;> rfl

theorem RanParameterValue.carried (v : RanParameterValue) :
    CarriedAs (fun v => .ok (cpRanParamVal v)) decRanParamVal v v True := by
  refine CarriedAs.of_ok fun b hb => ?_
  obtain rfl := Except.ok.inj hb
  exact decRanParamVal_cpRanParamVal v

section Item
variable {V W : Type} {enc : V → Except String W} {dec : W → Except String V} {p : SeqRanParam V} {r : V → V} {P : Prop}

theorem encRanParamItem_eq_ok {enc : V → Except String W} {i : Asn.RanParameterItem W} :
    encRanParamItem enc p = .ok i ↔
      0 < p.ranParamId ∧ ∃ val, enc p.ranParamVal = .ok val ∧ ⟨p.ranParamId.toNat, val⟩ = i := by
  simp only [encRanParamItem, Except.bind_eq_ok, require_eq_ok, Except.pure_eq, Except.ok.injEq, exists_and_left,
    exists_const]

/-- An identifier that the encoder sends passes the assertion of the decoder. -/
theorem decRanParamItem_toNat {id : UInt32} {val : W} (hid : 0 < id) :
    decRanParamItem dec ⟨id.toNat, val⟩ = dec val >>= fun v => .ok ⟨id, v⟩ := by
  simp only [decRanParamItem, require_of (UInt32.toNat_inRange hid).1, Except.ok_bind, Except.pure_eq,
    UInt32.ofNat_toNat]

theorem decRanParamItemInRange_toNat {id : UInt32} {val : W} (hid : 0 < id) :
    decRanParamItemInRange dec ⟨id.toNat, val⟩ = dec val >>= fun v => .ok ⟨id, v⟩ := by
  simp only [decRanParamItemInRange, require_of (UInt32.toNat_inRange hid), Except.ok_bind, Except.pure_eq,
    UInt32.ofNat_toNat]

theorem encRanParamItem_carried (h : CarriedAs enc dec p.ranParamVal (r p.ranParamVal) P) :
    CarriedAs (encRanParamItem enc) (decRanParamItem dec) p (p.withVal r) P := by
  intro i hi q
  obtain ⟨hid, val, hval, rfl⟩ := (encRanParamItem_eq_ok).mp hi
  rw [decRanParamItem_toNat hid]
  exact bind_ok_iff (h val hval)

theorem encRanParamItem_carried_inRange (h : CarriedAs enc dec p.ranParamVal (r p.ranParamVal) P) :
    CarriedAs (encRanParamItem enc) (decRanParamItemInRange dec) p (p.withVal r) P := by
  intro i hi q
  have hback := encRanParamItem_carried h i hi q
  obtain ⟨hid, val, hval, rfl⟩ := (encRanParamItem_eq_ok).mp hi
  rw [decRanParamItemInRange_toNat hid, ← decRanParamItem_toNat hid]
  exact hback

end Item

theorem encRanParamStruct_carried {ps : List (SeqRanParam RanParamValType)}
    (h : ∀ p ∈ ps, CarriedAs cpRanParamValueType decRanParamValueType p.ranParamVal p.ranParamVal.received
      (p.ranParamVal.Sized (oneTo 65535))) :
    CarriedAs (List.mapM encRanParamStruct) (List.mapM decRanParamStruct) ps (ps.map SeqRanParam.received)
      (∀ p ∈ ps, p.ranParamVal.Sized (oneTo 65535)) :=
  CarriedAs.mapM fun p hp => encRanParamItem_carried (h p hp)

theorem encRanParamStruct_carried_sized {ps : List (SeqRanParam RanParamValType)} {msg : String}
    (h : ∀ p ∈ ps, CarriedAs cpRanParamValueType decRanParamValueType p.ranParamVal p.ranParamVal.received
      (p.ranParamVal.Sized (oneTo 65535))) :
    CarriedAs (List.mapM encRanParamStruct) (mapSized (oneTo 65535) msg decRanParamStruct) ps
      (ps.map SeqRanParam.received) (oneTo 65535 ps.length ∧ ∀ p ∈ ps, p.ranParamVal.Sized (oneTo 65535)) := by
  intro is his cs
  rw [mapSized_eq_ok, Except.length_of_mapM his, encRanParamStruct_carried h is his]
  exact and_assoc.symm

theorem encLstRanParam_carried {i : LstRanParam RanParamValType}
    (h : ∀ p ∈ i.ranParamStruct, CarriedAs cpRanParamValueType decRanParamValueType p.ranParamVal p.ranParamVal.received
      (p.ranParamVal.Sized (oneTo 65535))) :
    CarriedAs encLstRanParam decLstRanParam i i.received
      (oneTo 65535 i.ranParamStruct.length ∧ ∀ p ∈ i.ranParamStruct, p.ranParamVal.Sized (oneTo 65535)) :=
  (encRanParamStruct_carried_sized h).wrap rfl fun _ => rfl

/-- A value arrives, its list items without their identifiers, exactly when its structures and list items have between
one and 65535 members. -/
theorem RanParamValType.carried (v : RanParamValType) :
    CarriedAs cpRanParamValueType decRanParamValueType v v.received (v.Sized (oneTo 65535)) := by
  induction v using RanParamValType.induct with
  | flagTrue v =>
    exact ((RanParameterValue.carried v).wrap rfl fun _ => rfl).congr (iff_of_true trivial (Sized.flagTrue v))
  | flagFalse v =>
    have henc : cpRanParamValueType (.flagFalse v) =
      .ok (cpRanParamVal v) >>= fun w => .ok (.elementFalse (some w)) := rfl
    exact ((RanParameterValue.carried v).wrap henc fun _ => rfl).congr (iff_of_true trivial (Sized.flagFalse v))
  | strct ps ih =>
    rw [received_strct, sized_strct]
    exact (encRanParamStruct_carried_sized ih).wrap (cpRanParamValueType_strct ps) decRanParamValueType_structure
  | lst is ih =>
    rw [received_lst, sized_lst]
    have his := CarriedAs.mapM fun i hi => encLstRanParam_carried (ih i hi)
    exact his.wrap (cpRanParamValueType_lst is) decRanParamValueType_list

/-- Items of a parameter, of whichever message -/
theorem SeqRanParam.carried (p : SeqRanParam RanParamValType) :
    CarriedAs (encRanParamItem cpRanParamValueType) (decRanParamItem decRanParamValueType) p p.received
      (p.ranParamVal.Sized (oneTo 65535)) := encRanParamItem_carried p.ranParamVal.carried

theorem SeqRanParam.carried_inRange (p : SeqRanParam RanParamValType) :
    CarriedAs (encRanParamItem cpRanParamValueType) (decRanParamItemInRange decRanParamValueType) p p.received
      (p.ranParamVal.Sized (oneTo 65535)) := encRanParamItem_carried_inRange p.ranParamVal.carried

/-- A lower and an upper bound are a matter each. -/
theorem RanParamValType.sized_and {p q : Nat → Prop} {v : RanParamValType} :
    v.Sized (fun n => p n ∧ q n) ↔ v.Sized p ∧ v.Sized q := by
  induction v using RanParamValType.induct with
  | flagTrue v => simp [Sized.flagTrue]
  | flagFalse v => simp [Sized.flagFalse]
  | strct ps ih =>
    simp only [sized_strct]
    constructor
    · rintro ⟨⟨hp, hq⟩, h⟩
      exact ⟨⟨hp, fun x hx => ((ih x hx).mp (h x hx)).1⟩, hq, fun x hx => ((ih x hx).mp (h x hx)).2⟩
    · rintro ⟨⟨hp, h⟩, hq, h'⟩
      exact ⟨⟨hp, hq⟩, fun x hx => (ih x hx).mpr ⟨h x hx, h' x hx⟩⟩
  | lst is ih =>
    simp only [sized_lst]
    constructor
    · intro h
      refine ⟨fun i hi => ⟨(h i hi).1.1, fun x hx => ?_⟩, fun i hi => ⟨(h i hi).1.2, fun x hx => ?_⟩⟩
      · exact ((ih i hi x hx).mp ((h i hi).2 x hx)).1
      · exact ((ih i hi x hx).mp ((h i hi).2 x hx)).2
    · rintro ⟨h, h'⟩ i hi
      exact ⟨⟨(h i hi).1, (h' i hi).1⟩, fun x hx => (ih i hi x hx).mpr ⟨(h i hi).2 x hx, (h' i hi).2 x hx⟩⟩

theorem RanParamValType.sized_oneTo (m : Nat) :
    RanParamValType.Sized (oneTo m) = fun v => v.Sized (0 < ·) ∧ v.Sized (upTo m) :=
  funext fun _ => propext sized_and

end FlexRic.Sm.Rc
