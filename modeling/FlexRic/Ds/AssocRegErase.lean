import FlexRic.Ds.AssocReg

/-! # Writing and erasing in the registry

A value of the registry is written or erased through an iterator. What erases a range of buckets, or the buckets whose
value fits, erases their pairs and no other, and the maintenance that follows keeps the rest. -/

namespace FlexRic.Ds.AssocReg

variable {ν : Type}

/-! ### Changing the bucket of a key -/

section At
variable {r : AssocReg ν} {l : List (Nat × ν)} {key it : Nat} {v : ν}

/-- The live pairs before and after a bucket that gets another value, or none. -/
theorem live_modify {arr : List (Bucket ν)} (hit : arr[it]? = some ⟨key, some v⟩) :
    ∃ l₁ l₂, live arr = l₁ ++ (key, v) :: l₂ ∧
      ∀ o, live (arr.modify it fun b => { b with val := o }) = l₁ ++ ((o.map (key, ·)).toList ++ l₂) := by
  obtain ⟨hlt, hb⟩ := List.getElem?_eq_some_iff.mp hit
  refine ⟨live (arr.take it), live (arr.drop (it + 1)), ?_, fun o => ?_⟩
  · conv_lhs => rw [← List.take_append_drop it arr, List.drop_eq_getElem_cons hlt, hb]
    rw [live, List.filterMap_append]
    rfl
  · rw [List.modify_eq_take_cons_drop hlt, hb, live, List.filterMap_append]
    cases o <;> rfl

theorem ne_of_sorted {l₁ l₂ : List (Nat × ν)} (h : ((l₁ ++ (key, v) :: l₂).map Prod.fst).Pairwise (· < ·)) :
    (∀ e ∈ l₁, e.1 ≠ key) ∧ ∀ e ∈ l₂, e.1 ≠ key := by
  rw [List.map_append, List.pairwise_append, List.map_cons, List.pairwise_cons] at h
  obtain ⟨-, ⟨h₂, -⟩, h₁⟩ := h
  constructor
  · intro e he
    exact (h₁ e.1 (List.mem_map_of_mem he) key List.mem_cons_self).ne
  · intro e he
    exact (h₂ e.1 (List.mem_map_of_mem he)).ne'

theorem Holds.sorted_keys (h : r.Holds l) : (l.map Prod.fst).Pairwise (· < ·) := by
  have hsub : (l.map Prod.fst).Sublist (r.arr.map Bucket.key) := by
    rw [← h.live]
    generalize r.arr = arr
    induction arr with
    | nil => exact List.Sublist.slnil
    | cons b arr ih =>
      cases hv : b.val with
      | none => simpa [AssocReg.live, hv] using ih.cons _
      | some v => simpa [AssocReg.live, hv] using ih
  exact h.sorted.sublist hsub

theorem Holds.eq_of_key (h : r.Holds l) {a b : Nat × ν} (ha : a ∈ l) (hb : b ∈ l) (hab : a.1 = b.1) : a = b := by
  have hnd : (l.map Prod.fst).Nodup := h.sorted_keys.imp fun hlt => hlt.ne
  exact List.inj_on_of_nodup_map hnd ha hb hab

/-- A change of values keeps the rest of the registry. -/
theorem Holds.modify (h : r.Holds l) (o : Option ν) {sz : Nat} {l' : List (Nat × ν)}
    (hlive : AssocReg.live (r.arr.modify it fun b => { b with val := o }) = l') (hsz : sz = l'.length) :
    AssocReg.Holds { r with arr := r.arr.modify it fun b => { b with val := o }, sz } l' := by
  have hkey : (r.arr.modify it fun b => { b with val := o }).map Bucket.key = r.arr.map Bucket.key := by
    refine List.ext_getElem? fun i => ?_
    rw [List.getElem?_map, List.getElem?_map, List.getElem?_modify]
    cases r.arr[i]? with
    | none => rfl
    | some b => by_cases hi : it = i <;> simp [hi]
  have hmem : ∀ b ∈ r.arr.modify it fun b => { b with val := o }, ∃ c ∈ r.arr, c.key = b.key := by
    intro b hb
    exact List.mem_map.mp (hkey ▸ List.mem_map_of_mem hb)
  refine ⟨hlive, hkey.symm ▸ h.sorted, fun b hb => ?_, fun b hb => ?_, h.keyId, hsz, ?_, h.cap⟩
  · obtain ⟨c, hc, heq⟩ := hmem b hb
    exact heq ▸ h.pos c hc
  · obtain ⟨c, hc, heq⟩ := hmem b hb
    exact heq ▸ h.lt c hc
  · show (r.arr.modify it _).length < r.cap
    rw [List.length_modify]
    exact h.room

/-- Writing the value of a key. -/
theorem Holds.update (h : r.Holds l) (hit : r.arr[it]? = some ⟨key, some v⟩) (v' : ν) :
    (r.update it v').Holds (l.map fun e => if e.1 = key then (key, v') else e) := by
  obtain ⟨l₁, l₂, hl, hm⟩ := live_modify hit
  rw [h.live] at hl
  subst hl
  obtain ⟨h₁, h₂⟩ := ne_of_sorted h.sorted_keys
  have hid : ∀ l' : List (Nat × ν), (∀ e ∈ l', e.1 ≠ key) →
      l'.map (fun e => if e.1 = key then (key, v') else e) = l' := by
    intro l' hne
    exact (List.map_congr_left fun e he => if_neg (hne e he)).trans (List.map_id l')
  rw [List.map_append, List.map_cons, hid l₁ h₁, hid l₂ h₂, if_pos rfl]
  refine h.modify (some v') (hm (some v')) ?_
  rw [h.sz, List.length_append, List.length_append]
  rfl

theorem next_eq (hit : r.arr[it]? = some ⟨key, some v⟩) : r.next it = .ok (r.seek (it + 1)) := by
  have hv : ((r.arr[it]?.bind (·.val)).isSome) = true := by
    rw [hit]
    rfl
  rw [next, require_of hv]
  rfl

/-- A bucket that loses its value takes its pair with it. -/
theorem Holds.clear (h : r.Holds l) (hit : r.arr[it]? = some ⟨key, some v⟩) :
    (r.clear it).Holds (l.filter (·.1 ≠ key)) := by
  obtain ⟨l₁, l₂, hl, hm⟩ := live_modify hit
  rw [h.live] at hl
  subst hl
  obtain ⟨h₁, h₂⟩ := ne_of_sorted h.sorted_keys
  have e₁ : l₁.filter (·.1 ≠ key) = l₁ := List.filter_eq_self.mpr fun e he => decide_eq_true (h₁ e he)
  have e₂ : l₂.filter (·.1 ≠ key) = l₂ := List.filter_eq_self.mpr fun e he => decide_eq_true (h₂ e he)
  rw [List.filter_append, List.filter_cons_of_neg (by simp), e₁, e₂]
  refine h.modify none (hm none) ?_
  rw [h.sz, List.length_append, List.length_append, List.length_cons]
  rfl

end At

/-! ### Erasing what a range of buckets has -/

/-- A bucket with a value is at the index. -/
def LiveAt (r : AssocReg ν) (it : Nat) : Prop := ∃ key v, r.arr[it]? = some ⟨key, some v⟩

instance (r : AssocReg ν) (it : Nat) : Decidable (r.LiveAt it) :=
  decidable_of_iff ((r.arr[it]?.bind (·.val)).isSome) <| by
    rw [Option.isSome_iff_exists, LiveAt]
    constructor
    · rintro ⟨v, hv⟩
      obtain ⟨⟨key, _⟩, hb, rfl⟩ := Option.bind_eq_some_iff.mp hv
      exact ⟨key, v, hb⟩
    · rintro ⟨key, v, hb⟩
      exact ⟨v, by rw [hb]; rfl⟩

/-- From one iterator to another one, or to the end. -/
def LiveRange (r : AssocReg ν) (startIt endIt : Nat) : Prop :=
  startIt = endIt ∨ r.LiveAt startIt ∧ startIt < endIt ∧ (endIt = r.end_ ∨ r.LiveAt endIt)

instance (r : AssocReg ν) (startIt endIt : Nat) : Decidable (r.LiveRange startIt endIt) :=
  inferInstanceAs (Decidable (_ ∨ _ ∧ _ ∧ (_ ∨ _)))

/-- The keys that the buckets from one index up to another one have with a value. -/
def keysIn (r : AssocReg ν) (startIt endIt : Nat) : List Nat := (live ((r.arr.take endIt).drop startIt)).map Prod.fst

section Range
variable {r : AssocReg ν} {l : List (Nat × ν)} {key it endIt : Nat} {v : ν}

theorem LiveAt.lt (h : r.LiveAt it) : it < r.end_ := by
  obtain ⟨_, _, hit⟩ := h
  exact (List.getElem?_eq_some_iff.mp hit).1

theorem not_liveAt_iff {b : Bucket ν} (hb : r.arr[it]? = some b) : ¬r.LiveAt it ↔ b.val = none := by
  obtain ⟨key, val⟩ := b
  cases val with
  | none => simp [LiveAt, hb]
  | some v => simp [LiveAt, hb]

/-- No bucket that the search passes has a value. -/
theorem not_liveAt_of_lt_seek {i : Nat} (hi : it ≤ i) (hlt : i < r.seek it) : ¬r.LiveAt i := by
  rintro ⟨key, v, hb⟩
  obtain ⟨hlen, hb⟩ := List.getElem?_eq_some_iff.mp hb
  rw [seek] at hlt
  have hpass : i - it < (r.arr.drop it).findIdx (·.val.isSome) := by omega
  have hno := List.not_of_lt_findIdx hpass
  rw [List.getElem_drop] at hno
  simp only [Nat.add_sub_cancel' hi, hb] at hno
  cases hno

theorem liveAt_seek (h : r.seek it < r.end_) : r.LiveAt (r.seek it) := by
  have hlen : (r.arr.drop it).findIdx (·.val.isSome) < (r.arr.drop it).length := by
    rw [List.length_drop]
    rw [seek, end_] at h
    omega
  have hsome := List.findIdx_getElem (w := hlen)
  rw [List.getElem_drop] at hsome
  obtain ⟨v, hv⟩ := Option.isSome_iff_exists.mp hsome
  refine ⟨(r.arr[r.seek it]).key, v, List.getElem?_eq_some_iff.mpr ⟨h, ?_⟩⟩
  rw [← hv]
  rfl

theorem le_seek : it ≤ r.seek it := Nat.le_add_right _ _

theorem seek_le_of (he : endIt = r.end_ ∨ r.LiveAt endIt) (hle : it ≤ endIt) : r.seek it ≤ endIt := by
  rcases he with rfl | he
  · exact seek_le hle
  · by_contra hlt
    exact not_liveAt_of_lt_seek hle (Nat.lt_of_not_le hlt) he

theorem live_drop_of_not_liveAt {arr : List (Bucket ν)} {i j : Nat} (hij : i ≤ j)
    (hno : ∀ m b, i ≤ m → m < j → arr[m]? = some b → b.val = none) : live (arr.drop i) = live (arr.drop j) := by
  obtain ⟨n, rfl⟩ := Nat.exists_eq_add_of_le hij
  conv_lhs => rw [← List.take_append_drop n (arr.drop i), List.drop_drop]
  rw [live, List.filterMap_append, List.filterMap_eq_nil_iff.mpr, List.nil_append]
  · rfl
  · intro b hb
    obtain ⟨m, hm⟩ := List.mem_iff_getElem?.mp hb
    obtain ⟨hlt, -⟩ := List.getElem?_eq_some_iff.mp hm
    rw [List.length_take] at hlt
    rw [List.getElem?_take_of_lt (by omega), List.getElem?_drop] at hm
    rw [hno _ b (Nat.le_add_right i m) (by omega) hm]
    rfl

theorem keysIn_cons (hit : r.arr[it]? = some ⟨key, some v⟩) (hlt : it < endIt) (he : endIt = r.end_ ∨ r.LiveAt endIt) :
    r.keysIn it endIt = key :: r.keysIn (r.seek (it + 1)) endIt := by
  have hat : (r.arr.take endIt)[it]? = some ⟨key, some v⟩ := by
    rw [List.getElem?_take_of_lt hlt, hit]
  obtain ⟨hlen, hb⟩ := List.getElem?_eq_some_iff.mp hat
  have hskip : live ((r.arr.take endIt).drop (it + 1)) = live ((r.arr.take endIt).drop (r.seek (it + 1))) := by
    refine live_drop_of_not_liveAt le_seek fun m b hm hms hb => ?_
    have hme : m < endIt := Nat.lt_of_lt_of_le hms (seek_le_of he hlt)
    rw [List.getElem?_take_of_lt hme] at hb
    exact (not_liveAt_iff hb).mp (not_liveAt_of_lt_seek hm hms)
  rw [keysIn, List.drop_eq_getElem_cons hlen, hb, keysIn, ← hskip]
  rfl

theorem filter_keys_cons (l : List (Nat × ν)) (key : Nat) (keys : List Nat) :
    (l.filter (·.1 ≠ key)).filter (·.1 ∉ keys) = l.filter (·.1 ∉ key :: keys) := by
  rw [List.filter_filter]
  refine List.filter_congr fun e _ => ?_
  rw [← Bool.decide_and, decide_eq_decide, List.mem_cons, not_or, and_comm]

theorem clear_getElem? {i : Nat} (hi : it ≠ i) : (r.clear it).arr[i]? = r.arr[i]? := by
  rw [AssocReg.clear, List.getElem?_modify]
  simp only [if_neg hi]
  exact Option.map_id'

theorem LiveAt.clear {i : Nat} (h : r.LiveAt i) (hi : it ≠ i) : (r.clear it).LiveAt i := by
  obtain ⟨k, w, hw⟩ := h
  exact ⟨k, w, (clear_getElem? hi).trans hw⟩

theorem end_clear : (r.clear it).end_ = r.end_ := List.length_modify ..

theorem keysIn_clear {i : Nat} (hi : it < i) : (r.clear it).keysIn i endIt = r.keysIn i endIt := by
  rw [keysIn, keysIn, List.drop_take, List.drop_take, AssocReg.clear, List.drop_modify_of_lt _ _ _ _ hi]

theorem Holds.eraseLoop {n : Nat} (h : r.Holds l) (hn : endIt < it + n) (hr : r.LiveRange it endIt) :
    ∃ r', AssocReg.eraseLoop endIt n it r = .ok r' ∧ r'.Holds (l.filter (·.1 ∉ r.keysIn it endIt)) ∧
      r'.keyId = r.keyId := by
  induction n generalizing it r l with
  | zero =>
    rcases hr with rfl | ⟨-, hlt, -⟩
    · exact absurd hn (Nat.lt_irrefl _)
    · exact absurd hn (by omega)
  | succ n ih =>
    rcases hr with rfl | ⟨⟨key, v, hit⟩, hlt, he⟩
    · refine ⟨r, by rw [AssocReg.eraseLoop, if_pos rfl]; rfl, ?_, rfl⟩
      have hnil : r.keysIn it it = [] := by
        rw [keysIn, List.drop_take, Nat.sub_self, List.take_zero]
        rfl
      rwa [hnil, List.filter_eq_self.mpr fun e _ => by simp]
    · have hle : r.seek (it + 1) ≤ endIt := seek_le_of he hlt
      have hgt : it < r.seek (it + 1) := le_seek
      have he' : endIt = (r.clear it).end_ ∨ (r.clear it).LiveAt endIt :=
        he.imp (fun h => h.trans end_clear.symm) fun h => h.clear hlt.ne
      have hr' : (r.clear it).LiveRange (r.seek (it + 1)) endIt := by
        rcases Nat.eq_or_lt_of_le hle with heq | hlt'
        · exact .inl heq
        · refine .inr ⟨(liveAt_seek (Nat.lt_of_lt_of_le hlt' ?_)).clear hgt.ne, hlt', he'⟩
          exact he.elim (fun h => h.le) fun h => h.lt.le
      obtain ⟨r', hloop, hh, hk⟩ := ih (h.clear hit) (by omega) hr'
      refine ⟨r', ?_, ?_, hk⟩
      · rw [AssocReg.eraseLoop, if_neg hlt.ne, next_eq hit]
        exact hloop
      · rw [keysIn_clear hgt, filter_keys_cons] at hh
        rwa [keysIn_cons hit hlt he]

theorem keyId_maintained : r.compactIfNecessary.shrinkIfNecessary.keyId = r.keyId := by
  rw [AssocReg.shrinkIfNecessary, AssocReg.compactIfNecessary]
  split <;> split <;> rfl

/-- Erasing a range erases the pairs of its buckets, and no other. -/
theorem Holds.eraseRange (h : r.Holds l) (hr : r.LiveRange it endIt) :
    ∃ r', r.erase it endIt = .ok r' ∧ r'.Holds (l.filter (·.1 ∉ r.keysIn it endIt)) ∧ r'.keyId = r.keyId ∧
      (r.Dense → r'.Dense) := by
  by_cases heq : it = endIt
  · subst heq
    obtain ⟨r', hloop, hh, hk⟩ := h.eraseLoop (n := 1) (Nat.lt_succ_self _) hr
    rw [AssocReg.eraseLoop, if_pos rfl] at hloop
    obtain rfl := Except.ok.inj hloop
    exact ⟨r, by rw [AssocReg.erase, if_pos rfl]; rfl, hh, rfl, id⟩
  · obtain ⟨hlive, hlt, he⟩ := hr.resolve_left heq
    have hend : endIt ≤ r.arr.length := he.elim (fun h => h.le) fun h => h.lt.le
    obtain ⟨r', hloop, hh, hk⟩ := h.eraseLoop (n := r.arr.length + 1) (by omega) hr
    refine ⟨_, ?_, hh.compactIfNecessary.shrinkIfNecessary, keyId_maintained.trans hk,
      fun _ => hh.compactIfNecessary.dense_shrink hh.dense_compact⟩
    rw [AssocReg.erase, if_neg heq, require_of (show it < r.arr.length from hlive.lt), Except.ok_bind, hloop]
    rfl

/-- Erasing up to the next bucket with a value erases the key, and no other. -/
theorem Holds.erase (h : r.Holds l) (hit : r.arr[it]? = some ⟨key, some v⟩) :
    ∃ r', r.erase it (r.seek (it + 1)) = .ok r' ∧ r'.Holds (l.filter (·.1 ≠ key)) ∧ r'.keyId = r.keyId := by
  have hlt : it < r.end_ := LiveAt.lt ⟨key, v, hit⟩
  have hnext : r.seek (it + 1) = r.end_ ∨ r.LiveAt (r.seek (it + 1)) :=
    (Nat.eq_or_lt_of_le (seek_le hlt)).imp_right liveAt_seek
  obtain ⟨r', hr', hh, hk, -⟩ := h.eraseRange (.inr ⟨⟨key, v, hit⟩, le_seek, hnext⟩)
  refine ⟨r', hr', ?_, hk⟩
  have hone : r.keysIn it (r.seek (it + 1)) = [key] := by
    rw [keysIn_cons hit le_seek hnext, keysIn, List.drop_take, Nat.sub_self, List.take_zero]
    rfl
  rw [hone] at hh
  convert hh using 4 with e
  simp

/-- The loop over all the buckets takes the pairs whose value fits, and gives their keys. -/
theorem Holds.removeLoop (f : ν → Bool) {n i : Nat} {keys : List Nat} (h : r.Holds l) (hn : i + n = r.arr.length) :
    ∃ r', AssocReg.removeLoop f n i keys r =
        (keys ++ ((AssocReg.live (r.arr.drop i)).filter (f ·.2)).map Prod.fst, r') ∧
      r'.Holds (l.filter (·.1 ∉ ((AssocReg.live (r.arr.drop i)).filter (f ·.2)).map Prod.fst)) ∧
      r'.keyId = r.keyId := by
  induction n generalizing i r l keys with
  | zero =>
    have hnil : r.arr.drop i = [] := List.drop_eq_nil_of_le (by omega)
    rw [hnil]
    refine ⟨r, by simp [AssocReg.removeLoop, AssocReg.live], ?_, rfl⟩
    simpa [AssocReg.live] using h
  | succ n ih =>
    have hlt : i < r.arr.length := by omega
    have hat : r.arr[i]? = some r.arr[i] := List.getElem?_eq_getElem hlt
    rw [List.drop_eq_getElem_cons hlt, AssocReg.removeLoop, hat]
    generalize r.arr[i] = b at hat
    obtain ⟨key, val⟩ := b
    have hkept : val.any f = false → (AssocReg.live (⟨key, val⟩ :: r.arr.drop (i + 1))).filter (f ·.2) =
        (AssocReg.live (r.arr.drop (i + 1))).filter (f ·.2) := by
      intro hf
      cases val with
      | none => rfl
      | some v => exact List.filter_cons_of_neg (by simpa using hf)
    cases hf : val.any f with
    | false =>
      rw [hkept hf]
      obtain ⟨r', hloop, hh, hk⟩ := @ih r l (i + 1) keys h (by omega)
      exact ⟨r', (if_neg (by simp [hf])).trans hloop, hh, hk⟩
    | true =>
      obtain ⟨v, rfl, hv⟩ := (Option.any_eq_true _ _).mp hf
      obtain ⟨r', hloop, hh, hk⟩ := @ih (r.clear i) _ (i + 1) (keys ++ [key]) (h.clear hat)
        (by rw [← end_, end_clear, end_]; omega)
      have hdrop : (r.clear i).arr.drop (i + 1) = r.arr.drop (i + 1) := by
        rw [AssocReg.clear, List.drop_modify_of_lt _ _ _ _ (Nat.lt_succ_self _)]
      have hcons : (AssocReg.live (⟨key, some v⟩ :: r.arr.drop (i + 1))).filter (f ·.2) =
          (key, v) :: (AssocReg.live (r.arr.drop (i + 1))).filter (f ·.2) := List.filter_cons_of_pos hv
      rw [hdrop] at hloop hh
      refine ⟨r', ?_, ?_, hk⟩
      · refine (if_pos hf).trans ?_
        rw [hloop, hcons, List.append_assoc]
        rfl
      · rw [filter_keys_cons] at hh
        rwa [hcons]

/-- The pairs whose value fits are removed, and their keys are returned in order. -/
theorem Holds.removeIfRangeReg (h : r.Holds l) (f : ν → Bool) :
    ∃ r', r.removeIfRangeReg f = ((l.filter (f ·.2)).map Prod.fst, r') ∧
      r'.Holds (l.filter (·.1 ∉ (l.filter (f ·.2)).map Prod.fst)) ∧ r'.keyId = r.keyId ∧ r'.Dense := by
  obtain ⟨r', hloop, hh, hk⟩ := @Holds.removeLoop _ _ _ f _ 0 [] h (Nat.zero_add _)
  rw [List.drop_zero, h.live] at hloop hh
  refine ⟨_, ?_, hh.compactIfNecessary.shrinkIfNecessary, keyId_maintained.trans hk,
    hh.compactIfNecessary.dense_shrink hh.dense_compact⟩
  rw [AssocReg.removeIfRangeReg, hloop]
  rfl

end Range

end FlexRic.Ds.AssocReg
