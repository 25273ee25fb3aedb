import FlexRic.Ds.AssocRegErase
import FlexRic.XApp.ActProc

/-! # The active procedures in their registry (`act_proc.c`)

`ActProc` keeps the registry as a list. Here it is the registry that the source uses, with the callback and the E2
node of each procedure. -/

namespace FlexRic.XApp
open Ds E2ap

/-- `act_proc_val_t`. The callbacks are of any type; `NULL` is none. -/
structure ActProcEntry (κ : Type) where
  type : ActProcType
  id : RicGenId
  smCb : Option κ
  e2Node : GlobalE2NodeId

/-- `act_proc_t`, without its lock. -/
abbrev ActProcReg (κ : Type) := AssocReg (ActProcEntry κ)

namespace ActProcReg
variable {κ : Type}

/-- The entry with the request identifier that is its key. -/
def keyed (e : Nat × ActProcEntry κ) : Nat × ActProcEntry κ :=
  (e.1, { e.2 with id := { e.2.id with ricReqId := e.1 } })

/-- The active procedures, each under its request identifier. -/
def active (p : ActProcReg κ) : List (Nat × ActProcEntry κ) := (AssocReg.live p.arr).map keyed

/-- `add_act_proc` -/
def addActProc (p : ActProcReg κ) (type : ActProcType) (id : RicGenId) (e2Node : GlobalE2NodeId) (smCb : Option κ) :
    Except String (Nat × ActProcReg κ) :=
  p.pushBack ⟨type, id, smCb, e2Node⟩

/-- `rm_act_proc` -/
def rmActProc (p : ActProcReg κ) (ricReqId : Nat) : Except String (ActProcReg κ) := do
  let it ← p.find p.front p.end_ ricReqId
  require (it ≠ p.end_) "ric_req_id key value not found in the registry"
  let next ← p.next it
  p.erase it next

/-- `find_act_proc`; the entry found gets its key as the request identifier. -/
def findActProc (p : ActProcReg κ) (ricReqId : Nat) : Except String (Option (ActProcEntry κ) × ActProcReg κ) := do
  let it ← p.find p.front p.end_ ricReqId
  if it = p.end_ then return (none, p)
  else
    let val ← p.value it
    let val := { val with id := { val.id with ricReqId } }
    return (some val, p.update it val)

/-- The registry is in order and has these procedures, and the searches reach all of it. -/
def Procs (p : ActProcReg κ) (ps : List (Nat × ActProcEntry κ)) : Prop :=
  ∃ l, p.Holds l ∧ p.keyId ≤ 2147483648 ∧ l.map keyed = ps

section Procs
variable {p : ActProcReg κ} {ps : List (Nat × ActProcEntry κ)} {k : Nat} {v : ActProcEntry κ}

theorem procs_init : Procs (AssocReg.init : ActProcReg κ) [] := ⟨[], AssocReg.holds_init, show 1 ≤ 2147483648 by decide, rfl⟩

theorem Procs.active (h : p.Procs ps) : p.active = ps := by
  obtain ⟨l, hl, hmax, rfl⟩ := h
  rw [ActProcReg.active, hl.live]

theorem Procs.key_lt (h : p.Procs ps) (hv : (k, v) ∈ ps) : 0 < k ∧ k < p.keyId := by
  obtain ⟨l, hl, hmax, rfl⟩ := h
  obtain ⟨⟨k', w⟩, hw, heq⟩ := List.mem_map.mp hv
  obtain rfl : k' = k := congrArg Prod.fst heq
  rw [← hl.live, AssocReg.mem_live] at hw
  exact ⟨hl.pos _ hw, hl.lt _ hw⟩

theorem Procs.ricReqId_eq (h : p.Procs ps) (hv : (k, v) ∈ ps) : v.id.ricReqId = k := by
  obtain ⟨l, -, -, rfl⟩ := h
  obtain ⟨e, -, he⟩ := List.mem_map.mp hv
  obtain ⟨rfl, rfl⟩ := Prod.mk.inj he
  rfl

/-- The other procedures have other keys than the last one. -/
theorem Procs.filter_last (h : p.Procs (ps ++ [(k, v)])) : (ps ++ [(k, v)]).filter (·.1 ≠ k) = ps := by
  obtain ⟨l, hl, -, heq⟩ := h
  have hs : ((ps ++ [(k, v)]).map Prod.fst).Pairwise (· < ·) := by
    rw [← heq, List.map_map]
    exact hl.sorted_keys
  obtain ⟨hne, -⟩ := AssocReg.ne_of_sorted hs
  rw [List.filter_append, List.filter_cons_of_neg (by simp), List.filter_nil, List.append_nil]
  exact List.filter_eq_self.mpr fun e he => decide_eq_true (hne e he)

theorem Procs.nodup_keys (h : p.Procs ps) : (ps.map Prod.fst).Nodup := by
  obtain ⟨l, hl, hmax, rfl⟩ := h
  rw [List.map_map]
  exact hl.sorted_keys.imp fun hlt => hlt.ne

theorem Procs.unique (h : p.Procs ps) {w : ActProcEntry κ} (hv : (k, v) ∈ ps) (hw : (k, w) ∈ ps) : v = w := by
  obtain ⟨l, hl, hmax, rfl⟩ := h
  obtain ⟨a, ha, hav⟩ := List.mem_map.mp hv
  obtain ⟨b, hb, hbw⟩ := List.mem_map.mp hw
  have hab : a = b := hl.eq_of_key ha hb ((congrArg Prod.fst hav).trans (congrArg Prod.fst hbw).symm)
  exact congrArg Prod.snd (hav.symm.trans ((congrArg keyed hab).trans hbw))

theorem Procs.addActProc (h : p.Procs ps) (hk : p.keyId < 2147483648) (type : ActProcType) (id : RicGenId)
    (e2Node : GlobalE2NodeId) (smCb : Option κ) :
    ∃ p', p.addActProc type id e2Node smCb = .ok (p.keyId, p') ∧ p'.keyId = p.keyId + 1 ∧
      p'.Procs (ps ++ [(p.keyId, ⟨type, { id with ricReqId := p.keyId }, smCb, e2Node⟩)]) := by
  obtain ⟨l, hl, hmax, rfl⟩ := h
  obtain ⟨p', hp, hl', hk'⟩ := hl.pushBack (by omega) ⟨type, id, smCb, e2Node⟩
  exact ⟨p', hp, hk', _, hl', by omega, List.map_append⟩

/-- The procedure of an identifier is found, and the registry keeps its procedures. -/
theorem Procs.findActProc (h : p.Procs ps) (hv : (k, v) ∈ ps) :
    ∃ p', p.findActProc k = .ok (some v, p') ∧ p'.keyId = p.keyId ∧ p'.Procs ps := by
  obtain ⟨hpos, -⟩ := h.key_lt hv
  obtain ⟨l, hl, hmax, rfl⟩ := h
  obtain ⟨⟨k', w⟩, hw, heq⟩ := List.mem_map.mp hv
  obtain ⟨rfl, rfl⟩ := Prod.mk.inj heq
  rcases hl.find (hl.searchable hmax) hpos with ⟨w', it, hw', hfind, hit⟩ | ⟨hno, -⟩
  · obtain rfl : w' = w := congrArg Prod.snd (hl.eq_of_key hw' hw rfl)
    obtain ⟨hlt, -⟩ := List.getElem?_eq_some_iff.mp hit
    refine ⟨p.update it { w' with id := { w'.id with ricReqId := k' } }, ?_, rfl, _, hl.update hit _, hmax, ?_⟩
    · have hval : p.value it = .ok w' := by
        rw [AssocReg.value, hit]
        rfl
      rw [ActProcReg.findActProc, hfind, Except.ok_bind, if_neg (show it ≠ p.end_ from hlt.ne), hval]
      rfl
    · rw [List.map_map]
      refine List.map_congr_left fun e he => ?_
      by_cases hek : e.1 = k'
      · obtain rfl : e = (k', w') := hl.eq_of_key he hw hek
        rw [Function.comp_apply, if_pos rfl]
        rfl
      · rw [Function.comp_apply, if_neg hek]
  · exact absurd hw (hno w)

theorem Procs.findActProc_none (h : p.Procs ps) (hk : 0 < k) (hno : ∀ v, (k, v) ∉ ps) :
    p.findActProc k = .ok (none, p) := by
  obtain ⟨l, hl, hmax, rfl⟩ := h
  rcases hl.find (hl.searchable hmax) hk with ⟨w, it, hw, -, -⟩ | ⟨-, hfind⟩
  · exact absurd (List.mem_map_of_mem hw) (hno _)
  · rw [ActProcReg.findActProc, hfind, Except.ok_bind, if_pos rfl]
    rfl

/-- A look-up that goes through keeps the registry's procedures, and its answer is the procedure of the identifier. -/
theorem Procs.findActProc_inv (h : p.Procs ps) {ans : Option (ActProcEntry κ)} {p' : ActProcReg κ}
    (hf : p.findActProc k = .ok (ans, p')) : p'.Procs ps ∧ p'.keyId = p.keyId ∧ ∀ v, ans = some v ↔ (k, v) ∈ ps := by
  by_cases hv : ∃ v, (k, v) ∈ ps
  · obtain ⟨v, hv⟩ := hv
    obtain ⟨q, hq, hk, hps⟩ := h.findActProc hv
    obtain ⟨rfl, rfl⟩ := Prod.mk.inj (Except.ok.inj (hq.symm.trans hf))
    refine ⟨hps, hk, fun w => ⟨?_, fun hw => congrArg some (h.unique hv hw)⟩⟩
    rintro ⟨⟩
    exact hv
  · have hno : ∀ v, (k, v) ∉ ps := fun v hv' => hv ⟨v, hv'⟩
    have hpos : 0 < k := by
      obtain ⟨_, hr, -⟩ := Except.bind_eq_ok.mp hf
      obtain ⟨_, hr, -⟩ := Except.bind_eq_ok.mp hr
      exact require_eq_ok.mp hr
    rw [h.findActProc_none hpos hno] at hf
    obtain ⟨rfl, rfl⟩ := Prod.mk.inj (Except.ok.inj hf)
    refine ⟨h, rfl, fun w => ⟨?_, fun hw => absurd hw (hno w)⟩⟩
    rintro ⟨⟩

theorem Procs.rmActProc (h : p.Procs ps) (hv : (k, v) ∈ ps) :
    ∃ p', p.rmActProc k = .ok p' ∧ p'.keyId = p.keyId ∧ p'.Procs (ps.filter (·.1 ≠ k)) := by
  obtain ⟨hpos, -⟩ := h.key_lt hv
  obtain ⟨l, hl, hmax, rfl⟩ := h
  obtain ⟨⟨k', w⟩, hw, heq⟩ := List.mem_map.mp hv
  obtain rfl : k' = k := congrArg Prod.fst heq
  rcases hl.find (hl.searchable hmax) hpos with ⟨w', it, -, hfind, hit⟩ | ⟨hno, -⟩
  · obtain ⟨hlt, -⟩ := List.getElem?_eq_some_iff.mp hit
    obtain ⟨p', hp, hl', hk'⟩ := hl.erase hit
    refine ⟨p', ?_, hk', _, hl', hk'.trans_le hmax, ?_⟩
    · rw [ActProcReg.rmActProc, hfind, Except.ok_bind, require_of (show it ≠ p.end_ from hlt.ne), Except.ok_bind,
        AssocReg.next_eq hit, Except.ok_bind, hp]
    · rw [List.filter_map]
      rfl
  · exact absurd hw (hno w)

end Procs

end ActProcReg

end FlexRic.XApp
