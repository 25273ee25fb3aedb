import FlexRic.Ds.AssocRbTreeOrder

/-! # The balance of the tree

The red-black properties, and that the two fix-ups restore them: on a tree that has them, no step of an
insertion or an extraction looks below the dummy or fails an assertion. -/

namespace FlexRic.Ds

universe u v

namespace Tree
variable {κ : Type u} {ν : Type v}

/-- A red-black tree whose root has colour `c`, with `n` black nodes on every path down. -/
inductive Balanced : Tree κ ν → AssocColor → Nat → Prop
  | dummy : Balanced dummy .black 0
  | red {l r : Tree κ ν} {k : κ} {v : ν} {n : Nat} :
      Balanced l .black n → Balanced r .black n → Balanced (node .red l k v r) .red n
  | black {l r : Tree κ ν} {k : κ} {v : ν} {c₁ c₂ : AssocColor} {n : Nat} :
      Balanced l c₁ n → Balanced r c₂ n → Balanced (node .black l k v r) .black (n + 1)

/-- The frames above a place that takes a tree of colour `c` and black height `n`. -/
inductive Fits : List (Frame κ ν) → AssocColor → Nat → Prop
  | root {n : Nat} : Fits [] .black n
  | red {path : List (Frame κ ν)} {side : Side} {k : κ} {v : ν} {w : Tree κ ν} {n : Nat} :
      Balanced w .black n → Fits path .red n → Fits (⟨side, .red, k, v, w⟩ :: path) .black n
  | black {path : List (Frame κ ν)} {side : Side} {k : κ} {v : ν} {w : Tree κ ν} {c c' : AssocColor} {n : Nat} :
      Balanced w c' n → Fits path .black (n + 1) → Fits (⟨side, .black, k, v, w⟩ :: path) c n

theorem Balanced.color_eq {t : Tree κ ν} {c : AssocColor} {n : Nat} (h : Balanced t c n) : t.color = c := by
  cases h <;> rfl

theorem Balanced.of_color {t : Tree κ ν} {c c' : AssocColor} {n : Nat} (h : Balanced t c n)
    (hc : t.color = c') : Balanced t c' n := by
  rwa [← hc, h.color_eq]

theorem Balanced.join_red {x w : Tree κ ν} {n : Nat} (side : Side) (k : κ) (v : ν) (hx : Balanced x .black n)
    (hw : Balanced w .black n) : Balanced (join side .red x k v w) .red n := by
  cases side with
  | left => exact .red hx hw
  | right => exact .red hw hx

theorem Balanced.join_black {x w : Tree κ ν} {c c' : AssocColor} {n : Nat} (side : Side) (k : κ) (v : ν)
    (hx : Balanced x c n) (hw : Balanced w c' n) : Balanced (join side .black x k v w) .black (n + 1) := by
  cases side with
  | left => exact .black hx hw
  | right => exact .black hw hx

theorem Balanced.paint_black {t : Tree κ ν} {c : AssocColor} {n : Nat} (h : Balanced t c n) :
    ∃ m, Balanced (t.paint .black) .black m := by
  cases h with
  | dummy => exact ⟨_, .dummy⟩
  | red hl hr => exact ⟨_, .black hl hr⟩
  | black hl hr => exact ⟨_, .black hl hr⟩

theorem Balanced.red_inv {t : Tree κ ν} {n : Nat} (h : Balanced t .red n) :
    ∃ l k v r, t = node .red l k v r ∧ Balanced l .black n ∧ Balanced r .black n := by
  cases h with
  | red hl hr => exact ⟨_, _, _, _, rfl, hl, hr⟩

theorem Fits.plug {path : List (Frame κ ν)} {c : AssocColor} {n : Nat} (hp : Fits path c n) {t : Tree κ ν}
    (ht : Balanced t c n) : ∃ m, Balanced (plug t path) .black m := by
  induction hp generalizing t with
  | root => exact ⟨_, ht⟩
  | red hw _ ih => exact ih (ht.join_red _ _ _ hw)
  | black hw _ ih => exact ih (ht.join_black _ _ _ hw)

/-- Where a red tree fits, the parent is black, and any tree of the same height fits. -/
theorem Fits.any {path : List (Frame κ ν)} {n : Nat} (hp : Fits path .red n) (c : AssocColor) : Fits path c n := by
  cases hp with
  | black hw hp => exact .black hw hp

/-! ### Insertion -/

theorem fits_descend (cmp : κ → κ → Int) (key : κ) {t : Tree κ ν} {path : List (Frame κ ν)} {c : AssocColor}
    {n : Nat} (ht : Balanced t c n) (hp : Fits path c n) : Fits (descend cmp key t path) .black 0 := by
  induction ht generalizing path with
  | dummy => exact hp
  | red hl hr ihl ihr =>
    rw [descend]
    split
    · exact ihl (.red hr hp)
    · exact ihr (.red hl hp)
  | black hl hr ihl ihr =>
    rw [descend]
    split
    · exact ihl (.black hr hp)
    · exact ihr (.black hl hp)

/-- The red parent and its red child, turned to the outer side. -/
theorem outerChild_balanced (side pside : Side) (k : κ) (v : ν) {w z : Tree κ ν} {n : Nat}
    (hz : Balanced z .red n) (hw : Balanced w .black n) :
    ∃ a k₁ v₁ b k₂ v₂ c, Balanced a .black n ∧ Balanced b .black n ∧ Balanced c .black n ∧
      outerChild side ⟨pside, .red, k, v, w⟩ z = some (join side .red (node .red a k₁ v₁ b) k₂ v₂ c) := by
  obtain ⟨l, zk, zv, r, rfl, hl, hr⟩ := hz.red_inv
  cases side with
  | left =>
    cases pside with
    | left => exact ⟨l, zk, zv, r, k, v, w, hl, hr, hw, rfl⟩
    | right => exact ⟨w, k, v, l, zk, zv, r, hw, hl, hr, rfl⟩
  | right =>
    cases pside with
    | left => exact ⟨r, k, v, w, zk, zv, l, hr, hw, hl, rfl⟩
    | right => exact ⟨l, zk, zv, r, k, v, w, hl, hr, hw, rfl⟩

theorem insertFixup_balanced {z : Tree κ ν} {path : List (Frame κ ν)} {n : Nat} (hz : Balanced z .red n)
    (hp : Fits path .black n) : ∃ t m, insertFixup z path = some t ∧ Balanced t .black m := by
  fun_induction insertFixup z path generalizing n with
  | case1 z =>
    obtain ⟨m, hm⟩ := hz.paint_black
    exact ⟨_, m, rfl, hm⟩
  | case2 z parent hb =>
    cases hp with
    | red => cases hb
    | black hw =>
      obtain ⟨m, hm⟩ := (hz.join_black _ _ _ hw).paint_black
      exact ⟨_, m, rfl, hm⟩
  | case3 z parent hr =>
    cases hp with
    | red _ hp => cases hp
    | black => cases hr
  | case4 z parent grand path hb =>
    cases hp with
    | red => cases hb
    | black hw hp =>
      obtain ⟨m, hm⟩ := hp.plug (hz.join_black _ _ _ hw)
      obtain ⟨m', hm'⟩ := hm.paint_black
      exact ⟨_, m', rfl, hm'⟩
  | case5 z parent grand path hr hu ih =>
    cases hp with
    | black => cases hr
    | red hw hp =>
      cases hp with
      | black hu' hp =>
        obtain ⟨l, k, v, r, hw', hl, hr⟩ := (hu'.of_color hu).red_inv
        refine ih ((hz.join_black _ _ _ hw).join_red _ _ _ ?_) hp
        rw [hw']
        exact .black hl hr
  | case6 z parent grand path hr hu =>
    cases hp with
    | black => cases hr
    | @red _ pside pk pv pw _ hw hp =>
      cases hp with
      | @black _ gside gk gv gw _ _ _ hu' hp =>
        have hgw : Balanced gw .black n := hu'.of_color (by cases hc : gw.color <;> simp_all)
        obtain ⟨a, k₁, v₁, b, k₂, v₂, c, ha, hb, hc, ho⟩ :=
          outerChild_balanced gside pside pk pv hz hw
        have htop : Balanced (join gside .black (node .red a k₁ v₁ b) k₂ v₂
            (join gside .red c gk gv gw)) .black (n + 1) :=
          (Balanced.red ha hb).join_black _ _ _ (hc.join_red _ _ _ hgw)
        obtain ⟨m, hm⟩ := hp.plug htop
        obtain ⟨m', hm'⟩ := hm.paint_black
        refine ⟨_, m', ?_, hm'⟩
        cases gside <;> simp [ho]

theorem insert_balanced (cmp : κ → κ → Int) (key : κ) (value : ν) {t : Tree κ ν} {n : Nat}
    (ht : Balanced t .black n) : ∃ t' m, insert cmp key value t = some t' ∧ Balanced t' .black m :=
  insertFixup_balanced (.red .dummy .dummy) (fits_descend cmp key ht .root)

/-! ### Extraction -/

/-- The outer nephew is red after case 3. -/
theorem outerNephew_balanced (side : Side) {wl wr : Tree κ ν} {c₁ c₂ : AssocColor} {n : Nat} (wk : κ) (wv : ν)
    (hl : Balanced wl c₁ n) (hr : Balanced wr c₂ n) (hn : ¬(wl.color = .black ∧ wr.color = .black)) :
    ∃ inner k v outer c, Balanced inner c n ∧ Balanced outer .red n ∧
      outerNephew side wl wk wv wr = some (join side.other .black outer k v inner) := by
  have red_of : ∀ t : Tree κ ν, ¬t.color = .black → t.color = .red := fun t h => by
    cases hc : t.color
    · exact absurd hc h
    · rfl
  cases side with
  | left =>
    by_cases hb : wr.color = .black
    · obtain ⟨a, k, v, b, rfl, ha, hb'⟩ := (hl.of_color (red_of wl fun h => hn ⟨h, hb⟩)).red_inv
      exact ⟨a, k, v, node .red b wk wv wr, _, ha, .red hb' (hr.of_color hb), by simp [outerNephew, hb]⟩
    · exact ⟨wl, wk, wv, wr, _, hl, hr.of_color (red_of wr hb), by simp [outerNephew, hb]⟩
  | right =>
    by_cases hb : wl.color = .black
    · obtain ⟨a, k, v, b, rfl, ha, hb'⟩ := (hr.of_color (red_of wr fun h => hn ⟨hb, h⟩)).red_inv
      exact ⟨b, k, v, node .red wl wk wv a, _, hb', .red (hl.of_color hb) ha, by simp [outerNephew, hb]⟩
    · exact ⟨wr, wk, wv, wl, _, hr, hl.of_color (red_of wl hb), by simp [outerNephew, hb]⟩

/-- With a black sibling of the height that `x` should have, the loop body either paints the sibling red or
ends with the subtree balanced. -/
theorem fixBlackSibling_balanced {x : Tree κ ν} {p : Frame κ ν} {n : Nat} (hx : Balanced x .black n)
    (hw : Balanced p.sibling .black (n + 1)) :
    (∃ w, Balanced w .red n ∧ fixBlackSibling x p = some (.inl (join p.side p.color x p.key p.value w))) ∨
    ∃ l k v r, Balanced l .black (n + 1) ∧ Balanced r .black (n + 1) ∧
      fixBlackSibling x p = some (.inr (node p.color l k v r)) := by
  obtain ⟨side, c, k, v, w⟩ := p
  cases hw with
  | @black wl wr wk wv c₁ c₂ _ hl hr =>
    by_cases hb : wl.color = .black ∧ wr.color = .black
    · exact .inl ⟨node .red wl wk wv wr, .red (hl.of_color hb.1) (hr.of_color hb.2), by simp [fixBlackSibling, hb]⟩
    · obtain ⟨inner, ik, iv, outer, ci, hi, ho, he⟩ := outerNephew_balanced side wk wv hl hr hb
      obtain ⟨a, ok, ov, b, rfl, ha, hb'⟩ := ho.red_inv
      refine .inr ?_
      cases side with
      | left =>
        exact ⟨node .black x k v inner, ik, iv, node .black a ok ov b, .black hx hi, .black ha hb',
          by simp [fixBlackSibling, hb, he]⟩
      | right =>
        exact ⟨node .black a ok ov b, ik, iv, node .black inner k v x, .black ha hb', .black hi hx,
          by simp [fixBlackSibling, hb, he]⟩

/-- `x` with one black node too few: it is red and can make up for it, or it is black. -/
def Deficient (x : Tree κ ν) (n : Nat) : Prop :=
  (x.color = .red ∧ Balanced (x.paint .black) .black (n + 1)) ∨ Balanced x .black n

theorem Balanced.deficient {x : Tree κ ν} {c : AssocColor} {n : Nat} (h : Balanced x c n) : Deficient x n := by
  cases h with
  | dummy => exact .inr .dummy
  | red hl hr => exact .inl ⟨rfl, .black hl hr⟩
  | black hl hr => exact .inr (.black hl hr)

theorem paint_plug_balanced {t : Tree κ ν} {path : List (Frame κ ν)} {c : AssocColor} {n : Nat}
    (ht : Balanced t c n) (hp : Fits path c n) : ∃ m, Balanced ((plug t path).paint .black) .black m :=
  let ⟨_, hm⟩ := hp.plug ht
  hm.paint_black

theorem deleteFixup_balanced {x : Tree κ ν} {path : List (Frame κ ν)} {n : Nat} (hx : Deficient x n)
    (hp : Fits path .black (n + 1)) : ∃ t m, deleteFixup x path = some t ∧ Balanced t .black m := by
  induction path generalizing x n with
  | nil =>
    rcases hx with ⟨-, hx⟩ | hx
    · exact ⟨_, _, rfl, hx⟩
    · obtain ⟨m, hm⟩ := hx.paint_black
      exact ⟨_, m, rfl, hm⟩
  | cons p path ih =>
    obtain ⟨side, c, k, v, w⟩ := p
    rcases hx with ⟨hred, hx⟩ | hx
    · obtain ⟨m, hm⟩ := hp.plug hx
      exact ⟨_, m, by rw [deleteFixup, if_pos hred], hm⟩
    · have hnr : ¬x.color = .red := by rw [hx.color_eq]; decide
      rw [deleteFixup, if_neg hnr]
      cases hp with
      | red hw hp =>
        have hfix := fixBlackSibling_balanced (p := ⟨side, .red, k, v, w⟩) hx hw
        cases hw with
        | @black wl wr wk wv c₁ c₂ _ hl hr =>
          rcases hfix with ⟨w', hw', he⟩ | ⟨a, k', v', b, ha, hb, he⟩
          · have hb := hx.join_black side k v hw'
            have := ih (x := join side .red x k v w') (.inl ⟨by cases side <;> rfl, by cases side <;> exact hb⟩)
              (hp.any .black)
            simpa [he] using this
          · obtain ⟨m, hm⟩ := paint_plug_balanced (.red (k := k') (v := v') ha hb) hp
            exact ⟨_, m, by simp [he], hm⟩
      | black hw hp =>
        cases hw with
        | @black wl wr wk wv c₁ c₂ _ hl hr =>
          have hfix := fixBlackSibling_balanced (p := ⟨side, .black, k, v, node .black wl wk wv wr⟩) hx (.black hl hr)
          rcases hfix with ⟨w', hw', he⟩ | ⟨a, k', v', b, ha, hb, he⟩
          · have := ih (.inr (hx.join_black side k v hw')) hp
            simpa [he] using this
          · obtain ⟨m, hm⟩ := paint_plug_balanced (.black (k := k') (v := v') ha hb) hp
            exact ⟨_, m, by simp [he], hm⟩
        | @red wl wr wk wv _ hl hr =>
          -- Case 1: the parent is red now, under the sibling, and the near nephew is the new sibling.
          have step : ∀ near far : Tree κ ν, Balanced near .black (n + 1) → Balanced far .black (n + 1) →
              (∃ u m, fixBlackSibling x ⟨side, .red, k, v, near⟩ = some (.inl u) ∧
                Balanced (plug (u.paint .black) (⟨side, .black, wk, wv, far⟩ :: path)) .black m) ∨
              ∃ u m, fixBlackSibling x ⟨side, .red, k, v, near⟩ = some (.inr u) ∧
                Balanced ((plug u (⟨side, .black, wk, wv, far⟩ :: path)).paint .black) .black m := by
            intro near far hnear hfar
            have hup : ∀ c, Fits (⟨side, .black, wk, wv, far⟩ :: path) c (n + 1) := fun c => .black hfar hp
            rcases fixBlackSibling_balanced (p := ⟨side, .red, k, v, near⟩) hx hnear with
              ⟨w', hw', he⟩ | ⟨a, k', v', b, ha, hb, he⟩
            · have hb := hx.join_black side k v hw'
              have hj : (join side .red x k v w').paint .black = join side .black x k v w' := by
                cases side <;> rfl
              obtain ⟨m, hm⟩ := (hup .black).plug hb
              rw [← hj] at hm
              exact .inl ⟨_, m, he, hm⟩
            · obtain ⟨m, hm⟩ := paint_plug_balanced (.red (k := k') (v := v') ha hb) (hup .red)
              exact .inr ⟨_, m, he, hm⟩
          cases side with
          | left =>
            rcases step wl wr hl hr with ⟨u, m, he, hm⟩ | ⟨u, m, he, hm⟩
            · exact ⟨_, m, by simp [he], hm⟩
            · exact ⟨_, m, by simp [he], hm⟩
          | right =>
            rcases step wr wl hr hl with ⟨u, m, he, hm⟩ | ⟨u, m, he, hm⟩
            · exact ⟨_, m, by simp [he], hm⟩
            · exact ⟨_, m, by simp [he], hm⟩

theorem fits_findNode (cmp : κ → κ → Int) (key : κ) {t : Tree κ ν} {path : List (Frame κ ν)} {c : AssocColor}
    {n : Nat} (ht : Balanced t c n) (hp : Fits path c n) :
    ∃ c' n', Balanced (findNode cmp key t path).1 c' n' ∧ Fits (findNode cmp key t path).2 c' n' := by
  induction ht generalizing path with
  | dummy => exact ⟨_, _, .dummy, hp⟩
  | red hl hr ihl ihr =>
    rw [findNode]
    split
    · exact ihl (.red hr hp)
    · split
      · exact ihr (.red hl hp)
      · exact ⟨_, _, .red hl hr, hp⟩
  | black hl hr ihl ihr =>
    rw [findNode]
    split
    · exact ihl (.black hr hp)
    · split
      · exact ihr (.black hl hp)
      · exact ⟨_, _, .black hl hr, hp⟩

theorem minimum_append (t : Tree κ ν) (p q : List (Frame κ ν)) :
    minimum t (p ++ q) = ((minimum t p).1, (minimum t p).2 ++ q) := by
  fun_induction minimum t p with
  | case1 => rfl
  | case2 => rfl
  | case3 c c' l' k' v' r' k v r path ih => exact ih

theorem fits_minimum {t : Tree κ ν} {path : List (Frame κ ν)} {c : AssocColor} {n : Nat} (ht : Balanced t c n)
    (hp : Fits path c n) : ∃ c' n', Balanced (minimum t path).1 c' n' ∧ Fits (minimum t path).2 c' n' := by
  fun_induction minimum t path generalizing c n with
  | case1 => exact ⟨_, _, ht, hp⟩
  | case2 => exact ⟨_, _, ht, hp⟩
  | case3 c c' l' k' v' r' k v r path ih =>
    cases ht with
    | red hl hr => exact ih hl (.red hr hp)
    | black hl hr => exact ih hl (.black hr hp)

theorem removeNode_balanced {c : AssocColor} {l r : Tree κ ν} {k : κ} {v : ν} {path : List (Frame κ ν)}
    {c₀ : AssocColor} {n : Nat} (hz : Balanced (node c l k v r) c₀ n) (hp : Fits path c₀ n) :
    ∃ t m, removeNode c l r path = some t ∧ Balanced t .black m := by
  -- Where a node of colour `b` with a dummy for one child stood, its other child goes.
  have lift : ∀ {b b₀ : AssocColor} {x y : Tree κ ν} {k : κ} {v : ν} {q : List (Frame κ ν)} {m : Nat},
      Balanced (node b x k v y) b₀ m → (x = dummy ∨ y = dummy) → Fits q b₀ m →
      ∀ z, (x = dummy → z = y) → (y = dummy → z = x) →
        ∃ t m', (if b = .black then deleteFixup z q else some (plug z q)) = some t ∧ Balanced t .black m' := by
    intro b b₀ x y k v q m hb hd hq z hzx hzy
    cases hb with
    | red hx hy =>
      have hz : Balanced z .black m := by
        rcases hd with h | h
        · rw [hzx h]; exact hy
        · rw [hzy h]; exact hx
      obtain ⟨m', hm⟩ := (hq.any .black).plug hz
      exact ⟨_, m', by simp, hm⟩
    | @black _ _ _ _ c₁ c₂ m hx hy =>
      have hz : Deficient z m := by
        rcases hd with h | h
        · rw [hzx h]; exact hy.deficient
        · rw [hzy h]; exact hx.deficient
      obtain ⟨t, m', ht, hm⟩ := deleteFixup_balanced hz hq
      exact ⟨t, m', by rw [if_pos rfl]; exact ht, hm⟩
  unfold removeNode
  split
  · exact lift hz (.inl rfl) hp _ (fun _ => rfl) (fun h => h)
  · exact lift hz (.inr rfl) hp _ (fun h => h) (fun _ => rfl)
  · next c' l' k' v' r' _ =>
    obtain ⟨cy, ky, vy, x, inner, hm, -, -⟩ :=
      minimum_cases (t := node c' l' k' v' r') (by simp) ([] : List (Frame κ ν))
    have hplace : ∃ c₁ n₁, Balanced (node c' l' k' v' r') c₁ n₁ ∧ Fits (⟨.right, c, ky, vy, l⟩ :: path) c₁ n₁ := by
      cases hz with
      | red hl hr => exact ⟨_, _, hr, .red hl hp⟩
      | black hl hr => exact ⟨_, _, hr, .black hl hp⟩
    obtain ⟨c₁, n₁, hr, hplace⟩ := hplace
    obtain ⟨c₂, n₂, hy, hq⟩ := fits_minimum hr hplace
    have happ := minimum_append (node c' l' k' v' r') [] (⟨.right, c, ky, vy, l⟩ :: path)
    rw [List.nil_append, hm] at happ
    rw [happ] at hy hq
    rw [hm]
    exact lift hy (.inl rfl) hq x (fun _ => rfl) (fun h => h ▸ rfl)

/-- An extraction fails only on a key that is not there. -/
theorem extract_balanced (cmp : κ → κ → Int) (key : κ) {t : Tree κ ν} {n : Nat} (ht : Balanced t .black n) :
    ((findNode cmp key t []).1 = dummy ∧
      extract cmp key t = .error "Trying to extract a key not found in the tree") ∨
    ∃ v t' m, extract cmp key t = .ok (v, t') ∧ Balanced t' .black m := by
  obtain ⟨c, m, hb, hf⟩ := fits_findNode cmp key ht .root
  unfold extract
  generalize findNode cmp key t [] = found at *
  obtain ⟨x, path⟩ := found
  cases x with
  | dummy => exact .inl ⟨rfl, rfl⟩
  | node c' l k v r =>
    obtain ⟨t', m', hr, ht'⟩ := removeNode_balanced hb hf
    exact .inr ⟨v, t', m', by simp [hr], ht'⟩

end Tree

end FlexRic.Ds
