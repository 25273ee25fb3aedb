import Mathlib.Data.List.Nodup
import FlexRic.E2ap.Types

/-! # The xApp's active procedures (`act_proc.c`)

The registry is kept as the list of its live pairs of key and value. -/

namespace FlexRic.XApp
open E2ap

/-- `act_proc_val_e` -/
inductive ActProcType
  | ricSubscriptionProcedureActive
  | ricControlProcedureActive
  deriving DecidableEq, Repr

/-- `act_proc_val_t`, without the callback and the E2 node, which only the indications use. -/
structure ActProcVal where
  type : ActProcType
  id : RicGenId
  deriving DecidableEq, Repr

/-- `act_proc_t`: the next key, and the live entries. -/
structure ActProc where
  keyId : Nat
  procs : List (Nat × ActProcVal)
  deriving DecidableEq, Repr

namespace ActProc

/-- `init_act_proc` -/
def init : ActProc := ⟨1, []⟩

/-- `add_act_proc`: the key of the new entry, and the registry with it. -/
def add (p : ActProc) (type : ActProcType) (id : RicGenId) : Nat × ActProc :=
  (p.keyId, ⟨p.keyId + 1, p.procs ++ [(p.keyId, ⟨type, id⟩)]⟩)

/-- `find_act_proc`; the entry found gets its key as the request identifier. -/
def find (p : ActProc) (ricReqId : Nat) : Option ActProcVal :=
  (p.procs.find? (·.1 = ricReqId)).map fun e => { e.2 with id := { e.2.id with ricReqId } }

/-- `rm_act_proc` -/
def rm (p : ActProc) (ricReqId : Nat) : Except String ActProc :=
  if (p.procs.find? (·.1 = ricReqId)).isSome then
    .ok { p with procs := p.procs.filter (·.1 ≠ ricReqId) }
  else .error "ric_req_id key value not found in the registry"

/-- The keys of the live entries are different, and older than the next one. -/
structure WellKeyed (p : ActProc) : Prop where
  nodup : (p.procs.map Prod.fst).Nodup
  lt : ∀ e ∈ p.procs, e.1 < p.keyId

variable {p : ActProc} {k : Nat}

/-- The registry has an entry with the key. -/
def Has (p : ActProc) (k : Nat) : Prop := ∃ v, (k, v) ∈ p.procs

theorem WellKeyed.init : init.WellKeyed := ⟨List.nodup_nil, by simp [ActProc.init]⟩

theorem WellKeyed.lt_of_has (h : p.WellKeyed) (hk : p.Has k) : k < p.keyId :=
  let ⟨_, hv⟩ := hk
  h.lt _ hv

theorem WellKeyed.add (h : p.WellKeyed) (type : ActProcType) (id : RicGenId) : (p.add type id).2.WellKeyed where
  nodup := by
    simp only [ActProc.add, List.map_append, List.map_cons, List.map_nil]
    refine List.nodup_append.mpr ⟨h.nodup, by simp, fun a ha b hb => ?_⟩
    obtain ⟨e, he, rfl⟩ := List.mem_map.mp ha
    obtain rfl := List.mem_singleton.mp hb
    exact (h.lt e he).ne
  lt e he := by
    rcases List.mem_append.mp he with he | he
    · exact Nat.lt_succ_of_lt (h.lt e he)
    · obtain rfl := List.mem_singleton.mp he
      exact Nat.lt_succ_self _

theorem has_add {type : ActProcType} {id : RicGenId} :
    (p.add type id).2.Has k ↔ p.Has k ∨ k = p.keyId := by
  simp only [Has, ActProc.add, List.mem_append, List.mem_singleton, Prod.mk.injEq]
  constructor
  · rintro ⟨v, hv | ⟨rfl, -⟩⟩
    · exact .inl ⟨v, hv⟩
    · exact .inr rfl
  · rintro (⟨v, hv⟩ | rfl)
    · exact ⟨v, .inl hv⟩
    · exact ⟨⟨type, id⟩, .inr ⟨rfl, rfl⟩⟩

theorem find_isSome : (p.procs.find? (·.1 = k)).isSome ↔ p.Has k := by
  rw [List.find?_isSome]
  constructor
  · rintro ⟨⟨k', v⟩, he, hk⟩
    obtain rfl : k' = k := by simpa using hk
    exact ⟨v, he⟩
  · rintro ⟨v, hv⟩
    exact ⟨_, hv, by simp⟩

theorem has_of_find {v : ActProcVal} (h : p.find k = some v) : p.Has k := by
  unfold find at h
  rw [← find_isSome]
  cases hf : p.procs.find? (·.1 = k) <;> simp [hf] at h ⊢

/-- The entry of a key gives the identifier it was registered with, under that key. -/
theorem WellKeyed.find_eq (h : p.WellKeyed) {v : ActProcVal} (hv : (k, v) ∈ p.procs) :
    p.find k = some { v with id := { v.id with ricReqId := k } } := by
  unfold find
  cases hf : p.procs.find? (·.1 = k) with
  | none => simpa using List.find?_eq_none.mp hf _ hv
  | some e =>
    have hk : e.1 = k := by simpa using List.find?_some hf
    have heq : e = (k, v) := List.inj_on_of_nodup_map h.nodup (List.mem_of_find?_eq_some hf) hv hk
    simp [heq]

theorem rm_eq (h : p.Has k) : p.rm k = .ok { p with procs := p.procs.filter (·.1 ≠ k) } := by
  rw [rm, if_pos (find_isSome.mpr h)]

theorem WellKeyed.rm (h : p.WellKeyed) {p' : ActProc} (hr : p.rm k = .ok p') :
    p'.WellKeyed ∧ p'.keyId = p.keyId ∧ ∀ j, p'.Has j ↔ p.Has j ∧ j ≠ k := by
  unfold ActProc.rm at hr
  split at hr
  · obtain rfl := Except.ok.inj hr
    refine ⟨⟨h.nodup.sublist (List.filter_sublist.map _), fun e he => h.lt e (List.mem_filter.mp he).1⟩, rfl, ?_⟩
    intro j
    simp only [Has, List.mem_filter, decide_not, Bool.not_eq_eq_eq_not, Bool.not_true, decide_eq_false_iff_not]
    exact ⟨fun ⟨v, hv, hj⟩ => ⟨⟨v, hv⟩, hj⟩, fun ⟨⟨v, hv⟩, hj⟩ => ⟨v, hv, hj⟩⟩
  · cases hr

end ActProc

end FlexRic.XApp
