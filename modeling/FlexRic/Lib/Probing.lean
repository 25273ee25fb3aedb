import Mathlib.Data.Nat.Find
import Mathlib.Data.Nat.ModEq
import FlexRic.Lib.Except

/-! # Probing the slots of a table in a circle

A search begins at some slot, goes from slot to slot and from the last one to the first, and ends where a visit gives
a result. When it is back at where it began it has failed. -/

namespace FlexRic

universe u

namespace Probing
variable {γ : Type u} {visit : Nat → Except String (Option γ)} {cap start d i : Nat} {P Q : Nat → Prop}

/-- The search from the slot `idx` on, in at most so many visits; `failed` is the text when no visit gives a result. -/
def probe (visit : Nat → Except String (Option γ)) (failed : String) (cap start : Nat) : Nat → Nat → Except String γ
  | 0, _ => .error failed
  | visits + 1, idx =>
    match visit idx with
    | .error msg => .error msg
    | .ok (some r) => .ok r
    | .ok none =>
      let idx := if idx + 1 = cap then 0 else idx + 1
      if start ≠ idx then probe visit failed cap start visits idx else .error failed

/-- The slot that a search from `start` comes to after `d` visits. -/
def slot (cap start d : Nat) : Nat := (start + d) % cap

/-- All slots that a search from `start` visits before it comes to `i` have the property. -/
def Before (P : Nat → Prop) (cap start i : Nat) : Prop := ∃ d, d < cap ∧ slot cap start d = i ∧ ∀ j, j < d → P (slot cap start j)

theorem slot_lt (h : start < cap) : slot cap start d < cap := Nat.mod_lt _ (by omega)

theorem slot_zero (h : start < cap) : slot cap start 0 = start := Nat.mod_eq_of_lt h

theorem slot_succ (h : start < cap) :
    slot cap start (d + 1) = if slot cap start d + 1 = cap then 0 else slot cap start d + 1 := by
  have hlt : slot cap start d < cap := slot_lt h
  have hs : slot cap start (d + 1) = (slot cap start d + 1) % cap := by
    rw [slot, slot, Nat.mod_add_mod]
    rfl
  rw [hs]
  split
  · next hend => rw [hend, Nat.mod_self]
  · exact Nat.mod_eq_of_lt (by omega)

theorem slot_inj {e : Nat} (hd : d < cap) (he : e < cap) (h : slot cap start d = slot cap start e) : d = e :=
  Nat.ModEq.eq_of_lt_of_lt (Nat.ModEq.add_left_cancel' start h) hd he

/-- Every slot is come to. -/
theorem exists_slot (h : start < cap) (hi : i < cap) : ∃ d, d < cap ∧ slot cap start d = i := by
  rcases Nat.lt_or_ge i start with hlt | hge
  · refine ⟨i + cap - start, by omega, ?_⟩
    rw [slot, show start + (i + cap - start) = i + cap by omega, Nat.add_mod_right, Nat.mod_eq_of_lt hi]
  · exact ⟨i - start, by omega, by rw [slot, Nat.add_sub_cancel' hge, Nat.mod_eq_of_lt hi]⟩

/-- The first slot with a property, when there is one. -/
theorem exists_first (h : start < cap) (hex : ∃ i, i < cap ∧ Q i) :
    ∃ d, d < cap ∧ Q (slot cap start d) ∧ ∀ j, j < d → ¬Q (slot cap start j) := by
  classical
  obtain ⟨i, hi, hq⟩ := hex
  obtain ⟨d, hd, rfl⟩ := exists_slot h hi
  have hex : ∃ d, d < cap ∧ Q (slot cap start d) := ⟨d, hd, hq⟩
  refine ⟨Nat.find hex, (Nat.find_spec hex).1, (Nat.find_spec hex).2, fun j hj hqj => ?_⟩
  exact Nat.find_min hex hj ⟨Nat.lt_trans hj (Nat.find_spec hex).1, hqj⟩

theorem Before.mono (h : Before P cap start i) (hPQ : ∀ j, P j → Q j) : Before Q cap start i := by
  obtain ⟨d, hd, hi, hp⟩ := h
  exact ⟨d, hd, hi, fun j hj => hPQ _ (hp j hj)⟩

/-- The search ends at the first slot whose visit gives a result. -/
theorem probe_from (failed : String) (h : start < cap) {r : γ} (hd : d < cap)
    (hr : visit (slot cap start d) = .ok (some r)) (hn : ∀ j, j < d → visit (slot cap start j) = .ok none)
    (n j : Nat) (hj : j + n = cap) (hjd : j ≤ d) : probe visit failed cap start n (slot cap start j) = .ok r := by
  induction n generalizing j with
  | zero => omega
  | succ n ih =>
    rcases Nat.eq_or_lt_of_le hjd with rfl | hlt
    · rw [probe, hr]
    · have hne : start ≠ slot cap start (j + 1) := by
        intro heq
        have hz := slot_inj (by omega) (by omega) ((slot_zero h).trans heq)
        omega
      rw [probe, hn j hlt]
      simp only [← slot_succ h]
      rw [if_pos hne]
      exact ih (j + 1) (by omega) hlt

theorem probe_eq (failed : String) (h : start < cap) {r : γ} (hd : d < cap)
    (hr : visit (slot cap start d) = .ok (some r)) (hn : ∀ j, j < d → visit (slot cap start j) = .ok none) :
    probe visit failed cap start cap start = .ok r := by
  have hp := probe_from failed h hd hr hn cap 0 (Nat.zero_add _) (Nat.zero_le _)
  rwa [slot_zero h] at hp

end Probing

end FlexRic
