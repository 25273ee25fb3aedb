import Mathlib.Data.List.Nodup
import FlexRic.Theorems.Ric.ConnectionSteps

/-! # The identifiers of the registered xApps

The iApp gives identifiers from 7 on and registers them in that order, so that a notification, which counts
the xApps and starts from 7, reaches every xApp that it has counted. -/

namespace FlexRic.Ric
open Ds E2ap Ep MsgHand IApp XApp

namespace Connections

/-- The address that an E42 setup request comes from. -/
def Act.setup? : Act → Option SctpInfo
  | .e42Setup _ info => some info
  | _ => none

/-- The identifiers of as many xApps. -/
def xappIds (n : Nat) : List Nat := (List.range' 7 n).map (· % 65536)

/-- The registered xApps have the first identifiers, and the counter is at the next one. -/
structure InTurn (s : Connections) : Prop where
  keys : (s.xapps.toList.map Prod.fst).Perm (xappIds s.xapps.size)
  nodup : (s.xapps.toList.map Prod.fst).Nodup
  counter : match s.iappLoop with
    | .registering xappId _ _ => s.xappId = s.xapps.size + 8 ∧ xappId = (7 + s.xapps.size) % 65536
    | _ => s.xappId = s.xapps.size + 7

section InTurn
variable {plugins : List Nat} {s t : Connections} {a : Act} {as : List Act}

/-- The steps that are not the iApp's own leave its registry and its counter alone. -/
theorem iapp_cases (hs : step plugins s a = .next t) :
    (∃ n info, a = .e42Setup n info) ∨ a = .registerXapp ∨ a = .respondXapp ∨
      a.setup? = none ∧ t.xapps = s.xapps ∧ t.xappId = s.xappId ∧ t.iappLoop = s.iappLoop := by
  have still (ha : a.setup? = none) (h : t.xapps = s.xapps ∧ t.xappId = s.xappId ∧ t.iappLoop = s.iappLoop) :
      (∃ n info, a = .e42Setup n info) ∨ a = .registerXapp ∨ a = .respondXapp ∨
        a.setup? = none ∧ t.xapps = s.xapps ∧ t.xappId = s.xappId ∧ t.iappLoop = s.iappLoop :=
    .inr (.inr (.inr ⟨ha, h⟩))
  cases a with
  | e42Setup n info => exact .inl ⟨n, info, rfl⟩
  | registerXapp => exact .inr (.inl rfl)
  | respondXapp => exact .inr (.inr (.inl rfl))
  | setupArrives req info => obtain ⟨-, rfl⟩ := setupArrives_inv hs; exact still rfl ⟨rfl, rfl, rfl⟩
  | shutdownArrives info => obtain ⟨-, _, _, -, rfl⟩ := shutdownArrives_inv hs; exact still rfl ⟨rfl, rfl, rfl⟩
  | erase => obtain ⟨_, _, -, -, -, rfl⟩ := erase_inv hs; exact still rfl ⟨rfl, rfl, rfl⟩
  | remove => obtain ⟨_, _, -, -, rfl⟩ := remove_inv hs; exact still rfl ⟨rfl, rfl, rfl⟩
  | regSockAddr i => obtain ⟨_, _, -, rfl⟩ := regSockAddr_inv hs; exact still rfl ⟨rfl, rfl, rfl⟩
  | addE2Node j => obtain ⟨_, _, _, _, -, -, -, rfl⟩ := addE2Node_inv hs; exact still rfl ⟨rfl, rfl, rfl⟩
  | connect j => obtain ⟨_, _, _, -, -, rfl⟩ := connect_inv hs; exact still rfl ⟨rfl, rfl, rfl⟩
  | respond j => obtain ⟨_, _, -, rfl⟩ := respond_inv hs; exact still rfl ⟨rfl, rfl, rfl⟩
  | xappReads p => obtain ⟨_, _, _, -, -, rfl⟩ := xappReads_inv hs; exact still rfl ⟨rfl, rfl, rfl⟩
  | notify who =>
    obtain ⟨n, n', sent, hn, -, rfl⟩ := notify_inv hs
    refine still rfl ?_
    rcases @setNotice_cases s who n' n hn with ⟨_, _, _, -, -, he⟩ | ⟨-, -, he⟩ <;> cases sent <;> rw [he] <;>
      exact ⟨rfl, rfl, rfl⟩

theorem InTurn.size_le (h : s.InTurn) : s.xapps.size ≤ 65536 := by
  by_contra hlt
  have hn : (xappIds s.xapps.size).Nodup := h.keys.nodup_iff.mp h.nodup
  have h7 : (7 : Nat) ∈ List.range' 7 s.xapps.size := List.mem_range'_1.mpr ⟨by omega, by omega⟩
  have h7' : (65543 : Nat) ∈ List.range' 7 s.xapps.size := List.mem_range'_1.mpr ⟨by omega, by omega⟩
  have := List.inj_on_of_nodup_map hn h7 h7' rfl
  omega

theorem InTurn.frame (h : s.InTurn) (hx : t.xapps = s.xapps) (hc : t.xappId = s.xappId)
    (hl : t.iappLoop = s.iappLoop) : t.InTurn where
  keys := by rw [hx]; exact h.keys
  nodup := by rw [hx]; exact h.nodup
  counter := by rw [hl, hc, hx]; exact h.counter

theorem inTurn_init : init.InTurn := ⟨.refl _, .nil, rfl⟩

theorem InTurn.registerXapp (h : s.InTurn) {xappId : Nat} {info : SctpInfo} {nodes : List E2NodeConnected}
    {xapps : MapXapps} (hl : s.iappLoop = .registering xappId info nodes)
    (hx : addMapXappsSad s.xapps xappId info = .ok xapps) :
    ({ s with iappLoop := .responding xappId info nodes, xapps } : Connections).InTurn := by
  obtain ⟨hn, rfl⟩ := addMapXappsSad_eq_ok.mp hx
  have hc := h.counter
  rw [hl] at hc
  obtain ⟨hc, rfl⟩ := hc
  have hp := (AssocRbTree.toList_insert s.xapps ((7 + s.xapps.size) % 65536) info).map Prod.fst
  have hsize : (s.xapps.insert ((7 + s.xapps.size) % 65536) info).size = s.xapps.size + 1 := rfl
  refine ⟨hp.trans ?_, hp.nodup_iff.mpr (List.nodup_cons.mpr ⟨?_, h.nodup⟩), hc⟩
  · rw [hsize, xappIds, List.range'_1_concat, List.map_append]
    exact (h.keys.cons _).trans (List.perm_append_singleton ..).symm
  · intro hm
    obtain ⟨⟨k, info'⟩, he, rfl⟩ := List.mem_map.mp hm
    exact hn ⟨info', he⟩

theorem InTurn.step (h : s.InTurn) (hs : Connections.step plugins s a = .next t) : t.InTurn := by
  rcases iapp_cases hs with ⟨n, info, rfl⟩ | rfl | rfl | ⟨-, hx, hc, hl⟩
  · obtain ⟨hl, rfl⟩ := e42Setup_inv hs
    have hc := h.counter
    rw [hl] at hc
    have hle := h.size_le
    refine ⟨h.keys, h.nodup, ?_, ?_⟩
    · show (s.xappId + 1) % 2 ^ 32 = s.xapps.size + 8
      omega
    · show s.xappId % 65536 = (7 + s.xapps.size) % 65536
      omega
  · obtain ⟨_, _, _, _, hl, hx, rfl⟩ := registerXapp_inv hs
    exact h.registerXapp hl hx
  · obtain ⟨_, _, _, hl, rfl⟩ := respondXapp_inv hs
    have hc := h.counter
    rw [hl] at hc
    exact ⟨h.keys, h.nodup, hc⟩
  · exact h.frame hx hc hl

theorem inTurn_of_run {G : Connections → Act → Prop} (h : (connections plugins).Run G as s) : s.InTurn :=
  h.invariant inTurn_init fun _ _ _ hi _ hs => hi.step hs

/-- What the events of nodes rely on when they are handled one at a time. -/
theorem InTurn.numbered (h : s.InTurn) : NumberedInTurn s.xapps := by
  intro i hi
  have hm : (7 + i) % 65536 ∈ xappIds s.xapps.size :=
    List.mem_map.mpr ⟨7 + i, List.mem_range'_1.mpr ⟨by omega, by omega⟩, rfl⟩
  obtain ⟨e, he, hk⟩ := List.mem_map.mp (h.keys.mem_iff.mpr hm)
  exact ⟨e.2, hk ▸ he⟩

end InTurn

end Connections

end FlexRic.Ric
