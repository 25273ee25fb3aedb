import FlexRic.Ric.PubSub

/-! # Which listeners an indication is published to

The table holds, for each RAN function with a listener, its listeners in the order in which they were
registered. An indication is published to those of the first RAN function of the table, whichever one it
belongs to. -/

namespace FlexRic.Ric
open Ds E2ap

/-- The listeners that were registered for a RAN function, in their order. -/
def listenersFor (f : Nat) (regs : List (Nat × SubsRic)) : List SubsRic :=
  (regs.filter fun reg => reg.1 = f).map Prod.snd

/-- The table has one array for each RAN function with a listener, which holds its listeners. -/
structure Listening (ric : PubSub) (regs : List (Nat × SubsRic)) : Prop where
  arr : ∀ {f a}, (f, a) ∈ ric.tree.toList → ric.arrs[a]? = some (listenersFor f regs)
  key : ∀ f, (∃ a, (f, a) ∈ ric.tree.toList) ↔ f ∈ regs.map Prod.fst
  apart : ∀ {f a g b}, (f, a) ∈ ric.tree.toList → (g, b) ∈ ric.tree.toList → (f = g ↔ a = b)

section Listeners
variable {f g : Nat} {regs : List (Nat × SubsRic)} {s : SubsRic}

theorem listenersFor_append_self : listenersFor f (regs ++ [(f, s)]) = listenersFor f regs ++ [s] := by
  simp [listenersFor]

theorem listenersFor_append_of_ne (h : g ≠ f) : listenersFor f (regs ++ [(g, s)]) = listenersFor f regs := by
  simp [listenersFor, h]

theorem listenersFor_eq_nil (h : f ∉ regs.map Prod.fst) : listenersFor f regs = [] := by
  rw [listenersFor, List.map_eq_nil_iff, List.filter_eq_nil_iff]
  intro reg hreg hf
  exact h (List.mem_map.mpr ⟨reg, hreg, of_decide_eq_true hf⟩)

end Listeners

section Register
variable {ric : PubSub} {regs : List (Nat × SubsRic)} {f : Nat}

/-- What the search for a RAN function finds. -/
theorem Listening.findIf (h : Listening ric regs) (f : Nat) :
    (f ∉ regs.map Prod.fst ∧ ric.tree.findIf (eqRanFuncId f ·) = none) ∨
      ∃ a, (f, a) ∈ ric.tree.toList ∧ ric.tree.findIf (eqRanFuncId f ·) = some (f, a) := by
  cases hf : ric.tree.findIf (eqRanFuncId f ·) with
  | none =>
    refine .inl ⟨fun hm => ?_, rfl⟩
    obtain ⟨a, ha⟩ := (h.key f).mpr hm
    have hne : eqRanFuncId f f = false := AssocRbTree.findIf_eq_none.mp hf (f, a) ha
    simp [eqRanFuncId] at hne
  | some e =>
    obtain ⟨g, a⟩ := e
    obtain ⟨hm, he⟩ := AssocRbTree.mem_of_findIf hf
    obtain rfl : f = g := of_decide_eq_true he
    exact .inr ⟨a, hm, rfl⟩

theorem Listening.init : Listening .init [] where
  arr h := by simp [PubSub.init] at h
  key f := by simp [PubSub.init]
  apart h := by simp [PubSub.init] at h

theorem Listening.register (h : Listening ric regs) (f : Nat) (s : SubsRic) :
    Listening (registerListenersForRanFuncId ric f s) (regs ++ [(f, s)]) := by
  rcases h.findIf f with ⟨hnew, hf⟩ | ⟨a, ha, hf⟩
  · -- The first listener of the function: a new array at a new entry.
    rw [registerListenersForRanFuncId, hf]
    have hmem : ∀ e, e ∈ (ric.tree.insert f ric.arrs.length).toList ↔ e = (f, ric.arrs.length) ∨ e ∈ ric.tree.toList :=
      fun e => (ric.tree.toList_insert f ric.arrs.length).mem_iff.trans List.mem_cons
    have hold : ∀ {g a}, (g, a) ∈ ric.tree.toList → a < ric.arrs.length := fun hg =>
      (List.getElem?_eq_some_iff.mp (h.arr hg)).1
    refine ⟨fun {g a} hg => ?_, fun g => ?_, fun {g a g' b} hg hg' => ?_⟩
    · rcases (hmem _).mp hg with he | hg
      · obtain ⟨rfl, rfl⟩ := Prod.mk.inj he
        rw [listenersFor_append_self, listenersFor_eq_nil hnew, List.getElem?_concat_length]
        rfl
      · have hne : f ≠ g := fun he => hnew (he ▸ (h.key g).mp ⟨a, hg⟩)
        rw [listenersFor_append_of_ne hne, List.getElem?_append_left (hold hg)]
        exact h.arr hg
    · simp only [hmem, List.map_append, List.mem_append, ← h.key g]
      constructor
      · rintro ⟨a, he | hg⟩
        · exact .inr (by simp [(Prod.mk.inj he).1])
        · exact .inl ⟨a, hg⟩
      · rintro (⟨a, hg⟩ | hg)
        · exact ⟨a, .inr hg⟩
        · obtain rfl : g = f := by simpa using hg
          exact ⟨_, .inl rfl⟩
    · have hnone : ∀ {a}, (f, a) ∉ ric.tree.toList := fun hg => hnew ((h.key f).mp ⟨_, hg⟩)
      rcases (hmem _).mp hg with he | ho <;> rcases (hmem _).mp hg' with he' | ho'
      · obtain ⟨rfl, rfl⟩ := Prod.mk.inj he
        obtain ⟨rfl, rfl⟩ := Prod.mk.inj he'
        simp
      · obtain ⟨rfl, rfl⟩ := Prod.mk.inj he
        have hlt := hold ho'
        exact ⟨fun he => absurd (he ▸ ho') hnone, fun he => by omega⟩
      · obtain ⟨rfl, rfl⟩ := Prod.mk.inj he'
        have hlt := hold ho
        exact ⟨fun he => absurd (he ▸ ho) hnone, fun he => by omega⟩
      · exact h.apart ho ho'
  · -- The array of the function grows; it is not that of another one.
    rw [registerListenersForRanFuncId, hf]
    refine ⟨fun {g b} hg => ?_, fun g => ?_, h.apart⟩
    · by_cases hgf : g = f
      · subst hgf
        obtain rfl : a = b := (h.apart ha hg).mp rfl
        rw [listenersFor_append_self, List.getElem?_modify_eq, h.arr hg]
        rfl
      · have hne : a ≠ b := fun he => hgf ((h.apart hg ha).mpr he.symm)
        rw [listenersFor_append_of_ne (Ne.symm hgf), List.getElem?_modify_ne _ _ hne]
        exact h.arr hg
    · rw [h.key g, List.map_append, List.mem_append]
      refine ⟨.inl, fun hg => hg.elim id fun hg => ?_⟩
      obtain rfl : g = f := by simpa using hg
      exact (h.key g).mp ⟨a, ha⟩

theorem Listening.registerAll (h : Listening ric regs) (regs' : List (Nat × SubsRic)) :
    Listening (registerAll ric regs') (regs ++ regs') := by
  induction regs' generalizing ric regs with
  | nil => rwa [List.append_nil]
  | cons reg regs' ih =>
    rw [show regs ++ reg :: regs' = regs ++ [reg] ++ regs' by rw [List.append_assoc]; rfl]
    exact ih (h.register reg.1 reg.2)

/-- The first RAN function of the table is the least one that has a listener. -/
theorem Listening.front (h : Listening ric regs) (hne : f ∈ regs.map Prod.fst) :
    ∃ m a, ric.tree.front = some (m, a) ∧ (m, a) ∈ ric.tree.toList ∧ ∀ g ∈ regs.map Prod.fst, m ≤ g := by
  obtain ⟨b, hb⟩ := (h.key f).mpr hne
  obtain ⟨⟨m, a⟩, hfront⟩ : ∃ e, ric.tree.front = some e := by
    cases hl : ric.tree.toList with
    | nil =>
      rw [hl] at hb
      cases hb
    | cons e es => exact ⟨e, by rw [AssocRbTree.front, hl]; rfl⟩
  obtain ⟨hm, hleast⟩ := AssocRbTree.front_cmp hfront
  refine ⟨m, a, hfront, hm, fun g hg => ?_⟩
  obtain ⟨c, hc⟩ := (h.key g).mpr hg
  have hcmp : 0 ≤ cmpRanFuncId m g := hleast (g, c) hc
  unfold cmpRanFuncId at hcmp
  split at hcmp
  · omega
  · split at hcmp <;> omega

end Register

/-! ### The walk over the listeners -/

section Publish
variable {Ind : Type} {regs : List (Nat × SubsRic)} {f m : Nat} {d : Ind}

/-- The calls of some listeners in their order, each once. -/
def calls (subs : List SubsRic) (d : Ind) : List (Nat × Ind) := subs.map fun sub => (sub.fp, d)

/-- The RAN function that comes first in the table. -/
def First (m : Nat) (regs : List (Nat × SubsRic)) : Prop := m ∈ regs.map Prod.fst ∧ ∀ g ∈ regs.map Prod.fst, m ≤ g

theorem calls_inj {subs subs' : List SubsRic} :
    calls subs d = calls subs' d ↔ subs.map SubsRic.fp = subs'.map SubsRic.fp := by
  have hcalls : ∀ subs : List SubsRic, calls subs d = (subs.map SubsRic.fp).map fun fp => (fp, d) :=
    fun subs => by rw [List.map_map, calls]; rfl
  rw [hcalls, hcalls]
  exact (List.map_injective_iff.mpr fun _ _ h => (Prod.mk.inj h).1).eq_iff

theorem listening (regs : List (Nat × SubsRic)) : Listening (registerAll .init regs) regs :=
  Listening.init.registerAll regs

theorem publishIndMsg_of_not_mem (hf : f ∉ regs.map Prod.fst) :
    publishIndMsg (registerAll .init regs) f d = .error "Could not find a RAN function that matches the SM" := by
  rcases (listening regs).findIf f with ⟨-, hfind⟩ | ⟨a, ha, -⟩
  · rw [publishIndMsg, hfind]
  · exact absurd (((listening regs).key f).mp ⟨a, ha⟩) hf

/-- Any other one is published to the listeners of the first RAN function. -/
theorem publishIndMsg_of_mem (hf : f ∈ regs.map Prod.fst) (hm : First m regs) :
    publishIndMsg (registerAll .init regs) f d = .ok (calls (listenersFor m regs) d) := by
  obtain ⟨m', a, hfront, ha, hleast⟩ := (listening regs).front hf
  obtain rfl : m' = m :=
    Nat.le_antisymm (hleast m hm.1) (hm.2 m' (((listening regs).key m').mp ⟨a, ha⟩))
  rcases (listening regs).findIf f with ⟨hf', -⟩ | ⟨b, -, hfind⟩
  · exact absurd hf hf'
  · have harr := (listening regs).arr ha
    simp only [publishIndMsg, hfind, hfront, List.getD_eq_getElem?_getD, harr, Option.getD_some]
    rfl

theorem exists_first (hf : f ∈ regs.map Prod.fst) : ∃ m, First m regs := by
  obtain ⟨m, a, -, ha, hleast⟩ := (listening regs).front hf
  exact ⟨m, ((listening regs).key m).mp ⟨a, ha⟩, hleast⟩

/-- **An indication is published to the listeners of its RAN function, each once and in the order of their
registration, if and only if the function has a listener and the first one of the table has the same.** -/
theorem publishIndMsg_iff (regs : List (Nat × SubsRic)) (f : Nat) (d : Ind) :
    publishIndMsg (registerAll .init regs) f d = .ok (calls (listenersFor f regs) d) ↔
      f ∈ regs.map Prod.fst ∧
        ∀ m, First m regs → (listenersFor m regs).map SubsRic.fp = (listenersFor f regs).map SubsRic.fp := by
  by_cases hf : f ∈ regs.map Prod.fst
  · constructor
    · refine fun h => ⟨hf, fun m hm => ?_⟩
      rw [publishIndMsg_of_mem hf hm] at h
      exact calls_inj.mp (Except.ok.inj h)
    · rintro ⟨-, h⟩
      obtain ⟨m, hm⟩ := exists_first hf
      rw [publishIndMsg_of_mem hf hm, calls_inj.mpr (h m hm)]
  · rw [publishIndMsg_of_not_mem hf]
    simp [hf]

/-- An indication of RAN function 3 goes to the listener of RAN function 2. -/
theorem publishIndMsg_first_only :
    publishIndMsg (registerAll .init [(2, ⟨"a", 1⟩), (3, ⟨"b", 2⟩)]) 3 () ≠
      .ok (calls (listenersFor 3 [(2, ⟨"a", 1⟩), (3, ⟨"b", 2⟩)]) ()) := by
  have hfirst : First 2 [(2, ⟨"a", 1⟩), (3, ⟨"b", 2⟩)] := ⟨by decide, by decide⟩
  rw [publishIndMsg_of_mem (by decide) hfirst]
  decide

end Publish

/-! ### The listeners of the RIC itself -/

section Default
variable {Ind : Type} {f : Nat} {smDs : List Nat} (stdoutLog : Bool)

/-- The registrations of `load_default_pub_sub_ric`. -/
def defaultRegs (smDs : List Nat) : List (Nat × SubsRic) :=
  smDs.flatMap fun ranFuncId => (defaultListeners stdoutLog).map fun listener => (ranFuncId, listener)

theorem loadDefaultPubSubRic_eq (ric : PubSub) (smDs : List Nat) :
    loadDefaultPubSubRic stdoutLog ric smDs = registerAll ric (defaultRegs stdoutLog smDs) := by
  simp only [loadDefaultPubSubRic, registerAll, defaultRegs, List.foldl_flatMap, List.foldl_map]

theorem mem_defaultRegs : f ∈ (defaultRegs stdoutLog smDs).map Prod.fst ↔ f ∈ smDs := by
  simp only [defaultRegs, defaultListeners, List.map_flatMap, List.mem_flatMap]
  cases stdoutLog <;> simp

theorem listenersFor_defaultRegs (hd : smDs.Nodup) (hf : f ∈ smDs) :
    listenersFor f (defaultRegs stdoutLog smDs) = defaultListeners stdoutLog := by
  induction smDs with
  | nil => cases hf
  | cons g gs ih =>
    obtain ⟨hg, hd⟩ := List.nodup_cons.mp hd
    have hsplit : listenersFor f (defaultRegs stdoutLog (g :: gs)) =
        (if g = f then defaultListeners stdoutLog else []) ++ listenersFor f (defaultRegs stdoutLog gs) := by
      by_cases hgf : g = f <;> simp [listenersFor, defaultRegs, hgf, List.filter_map, Function.comp_def]
    rw [hsplit]
    rcases List.mem_cons.mp hf with rfl | hf
    · rw [if_pos rfl, listenersFor_eq_nil fun h => hg ((mem_defaultRegs stdoutLog).mp h), List.append_nil]
    · have hne : g ≠ f := fun he => hg (he ▸ hf)
      rw [if_neg hne, ih hd hf, List.nil_append]

/-- With these listeners, which are the same for all RAN functions, every indication reaches its own. -/
theorem publishIndMsg_default (hd : smDs.Nodup) (hf : f ∈ smDs) (d : Ind) :
    publishIndMsg (loadDefaultPubSubRic stdoutLog .init smDs) f d = .ok (calls (defaultListeners stdoutLog) d) := by
  have hmem := (mem_defaultRegs stdoutLog).mpr hf
  obtain ⟨m, hm⟩ := exists_first hmem
  rw [loadDefaultPubSubRic_eq, publishIndMsg_of_mem hmem hm,
    listenersFor_defaultRegs stdoutLog hd ((mem_defaultRegs stdoutLog).mp hm.1)]

end Default

end FlexRic.Ric
