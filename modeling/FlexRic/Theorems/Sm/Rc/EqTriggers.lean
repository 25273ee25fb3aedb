import FlexRic.Theorems.Sm.Rc.EqValues

/-! # What the comparisons of event triggers see

Triggers of formats 1, 2 and 5 are compared as they should be. Of format 3 nothing is compared but the numbers of
changes, and of format 4 a change is refused that differs in anything but its condition and its kind. -/

namespace FlexRic.Sm.Rc

/-! ### Messages -/

def NetworkInterface.Usable (n : NetworkInterface) : Prop := n.niId = none ∧ n.niMsgId = none

theorem eqNetworkInterfaceE2rc_tells {a b : NetworkInterface} (ha : a.Usable) (hb : b.Usable) :
    Tells (eqNetworkInterfaceE2rc a b) (a = b) False := by
  obtain ⟨typea, ida, msga⟩ := a
  obtain ⟨typeb, idb, msgb⟩ := b
  obtain ⟨rfl, rfl⟩ := ha
  obtain ⟨rfl, rfl⟩ := hb
  exact ((same_tells _).andThen true_tells).congr (by simp) (by simp)

theorem eqRrcMsgId_tells (a b : RrcMsgId) : Tells (eqRrcMsgId a b) (a = b) False := by
  obtain ⟨typea, ida⟩ := a
  obtain ⟨typeb, idb⟩ := b
  have hclass : Tells (eqRrcClass typea typeb) (typea = typeb) False := by
    cases typea with
    | lte a => cases typeb with
      | lte b => exact (same_tells _).congr (by simp) Iff.rfl
      | nr b => exact false_tells.congr (by simp) Iff.rfl
    | nr a => cases typeb with
      | lte b => exact false_tells.congr (by simp) Iff.rfl
      | nr b => exact (same_tells _).congr (by simp) Iff.rfl
  exact (hclass.andThen (same_tells _)).congr (by simp) (by simp)

def MsgType.Usable : MsgType → Prop
  | .net n => n.Usable
  | .rrcMsg _ => True

theorem eqMsgType_tells {a b : MsgType} (ha : a.Usable) (hb : b.Usable) : Tells (eqMsgType a b) (a = b) False := by
  cases a with
  | net a => cases b with
    | net b => exact (eqNetworkInterfaceE2rc_tells ha hb).congr (by simp) Iff.rfl
    | rrcMsg b => exact false_tells.congr (by simp) Iff.rfl
  | rrcMsg a => cases b with
    | net b => exact false_tells.congr (by simp) Iff.rfl
    | rrcMsg b => exact (eqRrcMsgId_tells a b).congr (by simp) Iff.rfl

theorem cpMsgEvTrgType_eq_self {m : MsgType} : cpMsgEvTrgType m = .ok m ↔ m.Usable := by
  cases m with
  | net n =>
    obtain ⟨type, id, msg⟩ := n
    simp only [cpMsgEvTrgType, cpNetworkInterfaceE2rc, MsgType.Usable, NetworkInterface.Usable, Except.bind_eq_ok,
      require_eq_ok, Except.pure_eq, Except.ok.injEq, MsgType.net.injEq, existsAndEq, NetworkInterface.mk.injEq]
    tauto
  | rrcMsg r =>
    obtain ⟨type, id⟩ := r
    exact iff_of_true (by cases type <;> rfl) trivial

/-- The message has a condition, and nothing that is not implemented. -/
def MsgEvTrg.Usable (m : MsgEvTrg) : Prop :=
  0 < m.evTriggerCondId ∧ m.msgType.Usable ∧ m.msgDir = none ∧ m.assocUeInfo = none ∧ m.logOr = none

theorem eqMsgEvTrg_tells {a b : MsgEvTrg} (ha : a.Usable) (hb : b.Usable) : Tells (eqMsgEvTrg a b) (a = b) False := by
  obtain ⟨conda, typea, dira, infoa, ora⟩ := a
  obtain ⟨condb, typeb, dirb, infob, orb⟩ := b
  obtain ⟨-, htypea, rfl, rfl, rfl⟩ := ha
  obtain ⟨-, htypeb, rfl, rfl, rfl⟩ := hb
  exact ((same_tells _).andThen ((eqMsgType_tells htypea htypeb).andThen true_tells)).congr (by simp) (by simp)

theorem cpMsgEvTrg_eq_self {m : MsgEvTrg} : cpMsgEvTrg m = .ok m ↔ m.Usable := by
  obtain ⟨cond, type, dir, info, or⟩ := m
  simp only [cpMsgEvTrg, MsgEvTrg.Usable, ← cpMsgEvTrgType_eq_self, Except.bind_eq_ok, require_eq_ok, Except.pure_eq,
    Except.ok.injEq, MsgEvTrg.mk.injEq, existsAndEq]
  tauto

def EvTrgFrmt1.Usable (f : EvTrgFrmt1) : Prop :=
  oneTo 65535 f.msgEvTrg.length ∧ (∀ m ∈ f.msgEvTrg, m.Usable) ∧ f.globalAssocUeInfo = none

theorem eqE2smRcEvTrgFrmt1_tells {a b : EvTrgFrmt1} (ha : a.Usable) (hb : b.Usable) :
    Tells (eqE2smRcEvTrgFrmt1 a b) (a = b) False := by
  obtain ⟨msgsa, infoa⟩ := a
  obtain ⟨msgsb, infob⟩ := b
  obtain ⟨hsizea, ha, rfl⟩ := ha
  obtain ⟨hsizeb, hb, rfl⟩ := hb
  have hmsgs : Tells (eqList eqMsgEvTrg msgsa msgsb) (msgsa = msgsb) False :=
    eqList_tells_of fun m hm n hn => eqMsgEvTrg_tells (ha m hm) (hb n hn)
  rw [eqE2smRcEvTrgFrmt1, requireBoth_of hsizea hsizeb]
  exact (hmsgs.andThen true_tells).congr (by simp) (by simp)

theorem cpE2smRcEvTrgFrmt1_eq_self {f : EvTrgFrmt1} : cpE2smRcEvTrgFrmt1 f = .ok f ↔ f.Usable := by
  obtain ⟨msgs, info⟩ := f
  simp only [cpE2smRcEvTrgFrmt1, EvTrgFrmt1.Usable, ← cpMsgEvTrg_eq_self, Except.bind_eq_ok, require_eq_ok,
    Except.pure_eq, Except.ok.injEq, EvTrgFrmt1.mk.injEq, existsAndEq, mapSized_eq_self]
  tauto

theorem EvTrgFrmt1.kept (f : EvTrgFrmt1) : Kept cpE2smRcEvTrgFrmt1 eqE2smRcEvTrgFrmt1 f ↔ f.Usable :=
  kept_iff_of_cp cpE2smRcEvTrgFrmt1_eq_self fun h => (eqE2smRcEvTrgFrmt1_tells h h).true_iff.mpr rfl

/-! ### Breakpoints and demands -/

def EvTrgFrmt2.Usable (f : EvTrgFrmt2) : Prop :=
  0 < f.callProcTypeId ∧ 0 < f.callBreakId ∧ f.assocE2NodeInfo = none ∧ f.assocUeInfo = none

theorem eqE2smRcEvTrgFrmt2_tells {a b : EvTrgFrmt2} (ha : a.Usable) (hb : b.Usable) :
    Tells (eqE2smRcEvTrgFrmt2 a b) (a = b) False := by
  obtain ⟨typea, breaka, nodea, infoa⟩ := a
  obtain ⟨typeb, breakb, nodeb, infob⟩ := b
  obtain ⟨htypea, hbreaka, rfl, rfl⟩ := ha
  obtain ⟨htypeb, hbreakb, rfl, rfl⟩ := hb
  rw [eqE2smRcEvTrgFrmt2, requireBoth_of htypea htypeb, requireBoth_of hbreaka hbreakb]
  exact ((same_tells _).andThen ((same_tells _).andThen true_tells)).congr (by simp) (by simp)

theorem cpE2smRcEvTrgFrmt2_eq_self {f : EvTrgFrmt2} : cpE2smRcEvTrgFrmt2 f = .ok f ↔ f.Usable := by
  obtain ⟨type, brk, node, info⟩ := f
  simp only [cpE2smRcEvTrgFrmt2, EvTrgFrmt2.Usable, Except.bind_eq_ok, require_eq_ok, Except.pure_eq, Except.ok.injEq,
    EvTrgFrmt2.mk.injEq]
  tauto

theorem EvTrgFrmt2.kept (f : EvTrgFrmt2) : Kept cpE2smRcEvTrgFrmt2 eqE2smRcEvTrgFrmt2 f ↔ f.Usable :=
  kept_iff_of_cp cpE2smRcEvTrgFrmt2_eq_self fun h => (eqE2smRcEvTrgFrmt2_tells h h).true_iff.mpr rfl

def EvTrgFrmt5.Usable (f : EvTrgFrmt5) : Prop := f.assocUeInfo = none ∧ f.assocCellInfo = none

theorem eqE2smRcEvTrgFrmt5_tells {a b : EvTrgFrmt5} (ha : a.Usable) (hb : b.Usable) :
    Tells (eqE2smRcEvTrgFrmt5 a b) (a = b) False := by
  obtain ⟨demanda, uea, cella⟩ := a
  obtain ⟨demandb, ueb, cellb⟩ := b
  obtain ⟨rfl, rfl⟩ := ha
  obtain ⟨rfl, rfl⟩ := hb
  exact ((same_tells _).andThen true_tells).congr (by simp) (by simp)

theorem cpE2smRcEvTrgFrmt5_eq_self {f : EvTrgFrmt5} : cpE2smRcEvTrgFrmt5 f = .ok f ↔ f.Usable := by
  obtain ⟨demand, ue, cell⟩ := f
  simp only [cpE2smRcEvTrgFrmt5, EvTrgFrmt5.Usable, Except.bind_eq_ok, require_eq_ok, Except.pure_eq, Except.ok.injEq,
    EvTrgFrmt5.mk.injEq]
  tauto

theorem EvTrgFrmt5.kept (f : EvTrgFrmt5) : Kept cpE2smRcEvTrgFrmt5 eqE2smRcEvTrgFrmt5 f ↔ f.Usable :=
  kept_iff_of_cp cpE2smRcEvTrgFrmt5_eq_self fun h => (eqE2smRcEvTrgFrmt5_tells h h).true_iff.mpr rfl

/-! ### Changes of nodes -/

def E2NodeInfoChng.Usable (c : E2NodeInfoChng) : Prop :=
  0 < c.evTriggerCondId ∧ oneTo 512 c.e2NodeInfoChngId.toNat ∧ c.evTriggerCellInfo = none ∧ c.logOr = none

/-- Any two changes pass for the same. -/
theorem eqE2NodeInfoChng_eq_true {a b : E2NodeInfoChng} (ha : a.Usable) (hb : b.Usable) :
    eqE2NodeInfoChng a b = .ok true := by
  obtain ⟨conda, ida, cella, ora⟩ := a
  obtain ⟨condb, idb, cellb, orb⟩ := b
  obtain ⟨hconda, hida, rfl, rfl⟩ := ha
  obtain ⟨hcondb, hidb, rfl, rfl⟩ := hb
  have hne (x : UInt16) (h : 0 < x) : x ≠ 0 := UInt16.pos_iff_ne_zero.mp h
  rw [eqE2NodeInfoChng, requireBoth_of (c := fun x => x ≠ 0) (hne conda hconda) (hne condb hcondb),
    requireBoth_of hida hidb]
  rfl

theorem cpE2NodeInfoChng_eq_self {c : E2NodeInfoChng} : cpE2NodeInfoChng c = .ok c ↔ c.Usable := by
  obtain ⟨cond, id, cell, or⟩ := c
  simp only [cpE2NodeInfoChng, E2NodeInfoChng.Usable, Except.bind_eq_ok, require_eq_ok, Except.pure_eq, Except.ok.injEq,
    E2NodeInfoChng.mk.injEq, Option.isNone_iff_eq_none]
  tauto

def EvTrgFrmt3.Usable (f : EvTrgFrmt3) : Prop :=
  oneTo 65535 f.e2NodeInfoChng.length ∧ ∀ c ∈ f.e2NodeInfoChng, c.Usable

/-- The numbers of changes are compared. -/
theorem eqE2smRcEvTrgFrmt3_tells {a b : EvTrgFrmt3} (ha : a.Usable) (hb : b.Usable) :
    Tells (eqE2smRcEvTrgFrmt3 a b) (a.e2NodeInfoChng.length = b.e2NodeInfoChng.length) False := by
  obtain ⟨hsizea, ha⟩ := ha
  obtain ⟨hsizeb, hb⟩ := hb
  have hchanges : ∀ c ∈ a.e2NodeInfoChng, ∀ d ∈ b.e2NodeInfoChng, Tells (eqE2NodeInfoChng c d) (() = ()) False := by
    intro c hc d hd
    rw [eqE2NodeInfoChng_eq_true (ha c hc) (hb d hd)]
    exact true_tells.congr (by simp) Iff.rfl
  rw [eqE2smRcEvTrgFrmt3, requireBoth_of hsizea hsizeb]
  refine (@eqList_tells_map _ _ _ (fun _ => ()) _ _ hchanges).congr ?_ Iff.rfl
  rw [List.map_const', List.map_const', List.replicate_inj]
  simp

theorem cpE2smRcEvTrgFrmt3_eq_self {f : EvTrgFrmt3} : cpE2smRcEvTrgFrmt3 f = .ok f ↔ f.Usable := by
  obtain ⟨changes⟩ := f
  simp only [cpE2smRcEvTrgFrmt3, EvTrgFrmt3.Usable, ← cpE2NodeInfoChng_eq_self, Except.bind_eq_ok, Except.pure_eq,
    Except.ok.injEq, EvTrgFrmt3.mk.injEq, exists_eq_right, mapSized_eq_self]

theorem EvTrgFrmt3.kept (f : EvTrgFrmt3) : Kept cpE2smRcEvTrgFrmt3 eqE2smRcEvTrgFrmt3 f ↔ f.Usable :=
  kept_iff_of_cp cpE2smRcEvTrgFrmt3_eq_self fun h => (eqE2smRcEvTrgFrmt3_tells h h).true_iff.mpr rfl

/-! ### Changes of UEs -/

def RrcState.Usable (r : RrcState) : Prop := r.logOr = none

theorem eqRrcState_tells {a b : RrcState} (ha : a.Usable) (hb : b.Usable) : Tells (eqRrcState a b) (a = b) False := by
  obtain ⟨statea, ora⟩ := a
  obtain ⟨stateb, orb⟩ := b
  obtain rfl : ora = none := ha
  obtain rfl : orb = none := hb
  exact ((same_tells _).andThen true_tells).congr (by simp) (by simp)

theorem cpRrcState_eq_self {r : RrcState} : cpRrcState r = .ok r ↔ r.Usable := by
  obtain ⟨state, or⟩ := r
  simp only [cpRrcState, RrcState.Usable, Except.bind_eq_ok, require_eq_ok, Except.pure_eq, Except.ok.injEq,
    RrcState.mk.injEq]
  tauto

/-- The trigger has elements, in the number that its kind admits, or an identifier. -/
def UeInfoChngTrigger.Usable : UeInfoChngTrigger → Prop
  | .rrcState states => oneTo 8 states.length ∧ ∀ r ∈ states, r.Usable
  | .ueIdChange id => oneTo 512 id.toNat
  | .l2State tests => oneTo 255 tests.length ∧ ∀ t ∈ tests, t.Usable

/-- The trigger as its comparison sees it -/
def UeInfoChngTrigger.compared : UeInfoChngTrigger → UeInfoChngTrigger
  | .rrcState states => .rrcState states
  | .ueIdChange id => .ueIdChange id
  | .l2State tests => .l2State (tests.map RanParamTest.compared)

def UeInfoChngTrigger.SameKind : UeInfoChngTrigger → UeInfoChngTrigger → Prop
  | .rrcState _, .rrcState _ => True
  | .ueIdChange _, .ueIdChange _ => True
  | .l2State _, .l2State _ => True
  | _, _ => False

theorem eqUeInfoChngTrigger_eq_true {a b : UeInfoChngTrigger} (ha : a.Usable) (hb : b.Usable) :
    eqUeInfoChngTrigger a b = .ok true ↔ a.compared = b.compared := by
  cases a with
  | rrcState ra => cases b with
    | rrcState rb =>
      have hstates : Tells (eqList eqRrcState ra rb) (ra = rb) False :=
        eqList_tells_of fun r hr r' hr' => eqRrcState_tells (ha.2 r hr) (hb.2 r' hr')
      rw [eqUeInfoChngTrigger, orAssert_eq_true, eqRrcStateLst, hstates.true_iff]
      simp [UeInfoChngTrigger.compared]
    | _ => simp [eqUeInfoChngTrigger, UeInfoChngTrigger.compared]
  | ueIdChange ida => cases b with
    | ueIdChange idb => simp [eqUeInfoChngTrigger, UeInfoChngTrigger.compared]
    | _ => simp [eqUeInfoChngTrigger, UeInfoChngTrigger.compared]
  | l2State ta => cases b with
    | l2State tb =>
      have htests : ∀ t ∈ ta, ∀ u ∈ tb, (eqRanParamTest t u = .ok true ↔ t.compared = u.compared) :=
        fun t ht u hu => eqRanParamTest_eq_true (ha.2 t ht) (hb.2 u hu)
      rw [eqUeInfoChngTrigger, orAssert_eq_true, eqRanParamCondCritDef, eqList_eq_true_map htests]
      simp [UeInfoChngTrigger.compared]
    | _ => simp [eqUeInfoChngTrigger, UeInfoChngTrigger.compared]

theorem eqUeInfoChngTrigger_eq_false (a b : UeInfoChngTrigger) :
    eqUeInfoChngTrigger a b = .ok false ↔ ¬a.SameKind b := by
  have hassert {x : Except String Bool} : orAssert "0!=0" x = .ok false ↔ ¬True := by simp [orAssert_ne_false]
  have hkinds : (.ok false : Except String Bool) = .ok false ↔ ¬False := by simp
  cases a with
  | rrcState ra => cases b with
    | rrcState rb => exact hassert
    | _ => exact hkinds
  | ueIdChange ida => cases b with
    | ueIdChange idb => exact hassert
    | _ => exact hkinds
  | l2State ta => cases b with
    | l2State tb => exact hassert
    | _ => exact hkinds

theorem UeInfoChngTrigger.kept (a : UeInfoChngTrigger) : Kept cpUeInfoChngTrigger eqUeInfoChngTrigger a ↔ a.Usable := by
  cases a with
  | rrcState states =>
    have hcp : cpUeInfoChngTrigger (.rrcState states) = .ok (.rrcState states) ↔ (rrcState states).Usable := by
      simp only [cpUeInfoChngTrigger, cpRrcStateLst, UeInfoChngTrigger.Usable, ← cpRrcState_eq_self, Except.bind_eq_ok,
        Except.pure_eq, Except.ok.injEq, UeInfoChngTrigger.rrcState.injEq, exists_eq_right, mapSized_eq_self]
    rw [Kept, hcp]
    exact ⟨And.left, fun h => ⟨h, (eqUeInfoChngTrigger_eq_true h h).mpr rfl⟩⟩
  | ueIdChange id =>
    simp only [Kept, cpUeInfoChngTrigger, eqUeInfoChngTrigger, UeInfoChngTrigger.Usable, Except.bind_eq_ok,
      require_eq_ok, Except.pure_eq, exists_const, orAssert_eq_true, same_eq_true, and_true]
  | l2State tests =>
    simp only [Kept, cpUeInfoChngTrigger, cpRanParamCondCritDef, eqUeInfoChngTrigger, eqRanParamCondCritDef,
      UeInfoChngTrigger.Usable, forall_kept fun t _ => RanParamTest.kept t, Except.bind_eq_ok, Except.pure_eq, Except.ok.injEq,
      UeInfoChngTrigger.l2State.injEq, exists_eq_right, mapSized_eq_self, orAssert_eq_true, eqList_self, and_assoc]

/-- The change has a condition and a trigger, and nothing that is not implemented. -/
def UeInfoChng.Usable (c : UeInfoChng) : Prop :=
  0 < c.evTrigCondId ∧ c.type.Usable ∧ c.assocUeInfo = none ∧ c.logOr = none

/-- The change as its comparison sees it -/
def UeInfoChng.compared (c : UeInfoChng) : UeInfoChng := ⟨c.evTrigCondId, c.type.compared, c.assocUeInfo, c.logOr⟩

/-- The changes have other conditions or triggers of other kinds. -/
def UeInfoChng.Apart (a b : UeInfoChng) : Prop := a.evTrigCondId = b.evTrigCondId → ¬a.type.SameKind b.type

theorem eqUeInfoChng_of {a b : UeInfoChng} (ha : a.Usable) (hb : b.Usable) : eqUeInfoChng a b =
    both (same (a.evTrigCondId = b.evTrigCondId)) (both (eqUeInfoChngTrigger a.type b.type) (.ok true)) := by
  obtain ⟨conda, typea, uea, ora⟩ := a
  obtain ⟨condb, typeb, ueb, orb⟩ := b
  obtain ⟨hconda, -, rfl, rfl⟩ := ha
  obtain ⟨hcondb, -, rfl, rfl⟩ := hb
  rw [eqUeInfoChng, requireBoth_of hconda hcondb]
  rfl

theorem eqUeInfoChng_eq_true {a b : UeInfoChng} (ha : a.Usable) (hb : b.Usable) :
    eqUeInfoChng a b = .ok true ↔ a.compared = b.compared := by
  rw [eqUeInfoChng_of ha hb, both_eq_true, both_eq_true, same_eq_true, eqUeInfoChngTrigger_eq_true ha.2.1 hb.2.1]
  obtain ⟨-, -, hinfoa, hora⟩ := ha
  obtain ⟨-, -, hinfob, horb⟩ := hb
  simp [UeInfoChng.compared, hinfoa, hora, hinfob, horb]

theorem eqUeInfoChng_eq_false {a b : UeInfoChng} (ha : a.Usable) (hb : b.Usable) :
    eqUeInfoChng a b = .ok false ↔ a.Apart b := by
  rw [eqUeInfoChng_of ha hb, both_eq_false, both_eq_false, same_eq_false, same_eq_true, eqUeInfoChngTrigger_eq_false,
    UeInfoChng.Apart]
  simp only [Except.ok.injEq, Bool.true_eq_false, and_false, or_false]
  tauto

theorem UeInfoChng.kept (c : UeInfoChng) : Kept cpUeInfoChng eqUeInfoChng c ↔ c.Usable := by
  obtain ⟨cond, type, ue, or⟩ := c
  simp only [Kept, cpUeInfoChng, eqUeInfoChng, UeInfoChng.Usable, requireAbsent, ← type.kept, Except.bind_eq_ok,
    require_eq_ok, Except.pure_eq, Except.ok.injEq, UeInfoChng.mk.injEq, existsAndEq, requireBoth_eq_ok, both_eq_true,
    same_eq_true]
  tauto

def EvTrgFrmt4.Usable (f : EvTrgFrmt4) : Prop := oneTo 65535 f.ueInfoChng.length ∧ ∀ c ∈ f.ueInfoChng, c.Usable

/-- Of the changes that the comparison does not see as the same ones, the first two have other conditions or triggers of
other kinds. -/
def EvTrgFrmt4.Apart (a b : EvTrgFrmt4) : Prop :=
  a.ueInfoChng.length = b.ueInfoChng.length →
    StopsIn (fun c d => c.compared = d.compared) UeInfoChng.Apart a.ueInfoChng b.ueInfoChng

theorem eqE2smRcEvTrgFrmt4_eq_true {a b : EvTrgFrmt4} (ha : a.Usable) (hb : b.Usable) :
    eqE2smRcEvTrgFrmt4 a b = .ok true ↔ a.ueInfoChng.map UeInfoChng.compared = b.ueInfoChng.map UeInfoChng.compared := by
  have hchanges : ∀ c ∈ a.ueInfoChng, ∀ d ∈ b.ueInfoChng, (eqUeInfoChng c d = .ok true ↔ c.compared = d.compared) :=
    fun c hc d hd => eqUeInfoChng_eq_true (ha.2 c hc) (hb.2 d hd)
  rw [eqE2smRcEvTrgFrmt4, requireBoth_of ha.1 hb.1, Except.ok_bind, eqList_eq_true_map hchanges]

theorem eqE2smRcEvTrgFrmt4_eq_false {a b : EvTrgFrmt4} (ha : a.Usable) (hb : b.Usable) :
    eqE2smRcEvTrgFrmt4 a b = .ok false ↔ a.Apart b := by
  rw [eqE2smRcEvTrgFrmt4, requireBoth_of ha.1 hb.1, Except.ok_bind, eqList_eq_false, EvTrgFrmt4.Apart,
    stopsIn_congr fun c hc d hd =>
      ⟨eqUeInfoChng_eq_true (ha.2 c hc) (hb.2 d hd), eqUeInfoChng_eq_false (ha.2 c hc) (hb.2 d hd)⟩]
  tauto

theorem EvTrgFrmt4.kept (f : EvTrgFrmt4) : Kept cpE2smRcEvTrgFrmt4 eqE2smRcEvTrgFrmt4 f ↔ f.Usable := by
  obtain ⟨changes⟩ := f
  simp only [Kept, cpE2smRcEvTrgFrmt4, eqE2smRcEvTrgFrmt4, EvTrgFrmt4.Usable, forall_kept fun c _ => UeInfoChng.kept c,
    Except.bind_eq_ok, Except.pure_eq, Except.ok.injEq, EvTrgFrmt4.mk.injEq, exists_eq_right, mapSized_eq_self,
    requireBoth_eq_ok, eqList_self]
  tauto

/-! ### Triggers -/

def EventTrigger.Usable : EventTrigger → Prop
  | .frmt1 f => f.Usable
  | .frmt2 f => f.Usable
  | .frmt3 f => f.Usable
  | .frmt4 f => f.Usable
  | .frmt5 f => f.Usable

/-- The comparison finds no difference. -/
def EventTrigger.Alike : EventTrigger → EventTrigger → Prop
  | .frmt1 a, .frmt1 b => a = b
  | .frmt2 a, .frmt2 b => a = b
  | .frmt3 a, .frmt3 b => a.e2NodeInfoChng.length = b.e2NodeInfoChng.length
  | .frmt4 a, .frmt4 b => a.ueInfoChng.map UeInfoChng.compared = b.ueInfoChng.map UeInfoChng.compared
  | .frmt5 a, .frmt5 b => a = b
  | _, _ => False

/-- The triggers have the same format, and the comparison comes to a difference that it does not assert not to be
there. -/
def EventTrigger.Apart : EventTrigger → EventTrigger → Prop
  | .frmt1 a, .frmt1 b => a ≠ b
  | .frmt2 a, .frmt2 b => a ≠ b
  | .frmt3 a, .frmt3 b => a.e2NodeInfoChng.length ≠ b.e2NodeInfoChng.length
  | .frmt4 a, .frmt4 b => a.Apart b
  | .frmt5 a, .frmt5 b => a ≠ b
  | _, _ => False

theorem eqE2smRcEventTrigger_answers {a b : EventTrigger} (ha : a.Usable) (hb : b.Usable) :
    (eqE2smRcEventTrigger a b = .ok true ↔ a.Alike b) ∧ (eqE2smRcEventTrigger a b = .ok false ↔ a.Apart b) := by
  have hanswers {t : Except String Bool} {p : Prop} (h : Tells t p False) :
      (t = .ok true ↔ p) ∧ (t = .ok false ↔ ¬p) := ⟨h.true_iff, h.eq_false_iff⟩
  have hformats {b : Bool} : (throw "read of another member of the union" : Except String Bool) = .ok b ↔ False := by
    simp [throw, throwThe, MonadExceptOf.throw]
  cases a with
  | frmt1 a => cases b with
    | frmt1 b => exact hanswers (eqE2smRcEvTrgFrmt1_tells ha hb)
    | _ => exact ⟨hformats, hformats⟩
  | frmt2 a => cases b with
    | frmt2 b => exact hanswers (eqE2smRcEvTrgFrmt2_tells ha hb)
    | _ => exact ⟨hformats, hformats⟩
  | frmt3 a => cases b with
    | frmt3 b => exact hanswers (eqE2smRcEvTrgFrmt3_tells ha hb)
    | _ => exact ⟨hformats, hformats⟩
  | frmt4 a => cases b with
    | frmt4 b => exact ⟨eqE2smRcEvTrgFrmt4_eq_true ha hb, eqE2smRcEvTrgFrmt4_eq_false ha hb⟩
    | _ => exact ⟨hformats, hformats⟩
  | frmt5 a => cases b with
    | frmt5 b => exact hanswers (eqE2smRcEvTrgFrmt5_tells ha hb)
    | _ => exact ⟨hformats, hformats⟩

theorem EventTrigger.kept (t : EventTrigger) : Kept cpE2smRcEventTrigger eqE2smRcEventTrigger t ↔ t.Usable := by
  cases t with
  | frmt1 f => exact (kept_wrap rfl rfl fun _ _ => EventTrigger.frmt1.inj).trans f.kept
  | frmt2 f => exact (kept_wrap rfl rfl fun _ _ => EventTrigger.frmt2.inj).trans f.kept
  | frmt3 f => exact (kept_wrap rfl rfl fun _ _ => EventTrigger.frmt3.inj).trans f.kept
  | frmt4 f => exact (kept_wrap rfl rfl fun _ _ => EventTrigger.frmt4.inj).trans f.kept
  | frmt5 f => exact (kept_wrap rfl rfl fun _ _ => EventTrigger.frmt5.inj).trans f.kept

end FlexRic.Sm.Rc
