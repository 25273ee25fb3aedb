import Mathlib.Logic.Function.Basic
import FlexRic.Lib.Except

/-! # Values that a pair of operations carries

One operation maps a value to another structure, a second one maps it back, and either may refuse. -/

namespace FlexRic

variable {ε α β γ : Type}

/-- Once `enc` has let `a` through, `dec` accepts the outcome exactly when `P`, and makes `r` of it. -/
def CarriedAs (enc : α → Except ε β) (dec : β → Except ε γ) (a : α) (r : γ) (P : Prop) : Prop :=
  ∀ b, enc a = .ok b → ∀ c, dec b = .ok c ↔ P ∧ c = r

/-- A list whose length is asserted, and an operation on each of its elements -/
def mapSized (size : Nat → Prop) [DecidablePred size] (msg : String) (f : α → Except String β) (l : List α) :
    Except String (List β) := do
  require (size l.length) msg
  l.mapM f

/-- A pointer to one value, or `NULL` -/
def mapOptional (f : α → Except ε β) : Option α → Except ε (Option β)
  | none => .ok none
  | some a => f a >>= fun b => .ok (some b)

/-- A list with its length, or `NULL` when it has no elements -/
def mapNonempty (size : Nat → Prop) [DecidablePred size] (msg : String) (f : α → Except String β) (l : List α) :
    Except String (Option (List β)) :=
  if l = [] then .ok none
  else mapSized size msg f l >>= fun bs => .ok (some bs)

/-- The list that is read from such a pointer -/
def mapListed (size : Nat → Prop) [DecidablePred size] (msg : String) (f : α → Except String β) :
    Option (List α) → Except String (List β)
  | none => .ok []
  | some l => mapSized size msg f l

/-- Between one and `m` -/
abbrev oneTo (m n : Nat) : Prop := 0 < n ∧ n < m + 1

@[simp] theorem require_true [Decidable True] {msg : String} : require True msg = .ok () := require_of trivial

/-- At most `m` -/
abbrev upTo (m n : Nat) : Prop := n < m + 1

theorem mapSized_eq_ok {size : Nat → Prop} [DecidablePred size] {msg : String} {f : α → Except String β} {l : List α}
    {bs : List β} : mapSized size msg f l = .ok bs ↔ size l.length ∧ l.mapM f = .ok bs := by
  simp only [mapSized, Except.bind_eq_ok, require_eq_ok, exists_and_left, exists_const]

theorem mapSized_eq_self {size : Nat → Prop} [DecidablePred size] {msg : String} {f : α → Except String α} {l : List α} :
    mapSized size msg f l = .ok l ↔ size l.length ∧ ∀ a ∈ l, f a = .ok a := by
  rw [mapSized_eq_ok, Except.mapM_eq_self]

theorem Except.mapM_replicate {f : α → Except ε β} {a : α} {b : β} {n : Nat} (h : f a = .ok b) :
    (List.replicate n a).mapM f = .ok (List.replicate n b) := by
  induction n with
  | zero => rfl
  | succ n ih => rw [List.replicate_succ, List.mapM_cons, h, ih]; rfl

/-- A list goes there and back when each of its elements does, and the second assertion is no stronger. -/
theorem mapSized_round_trip {p q : Nat → Prop} [DecidablePred p] [DecidablePred q] {msg : String}
    {f : α → Except String β} {g : β → Except String α} {l : List α} {bs : List β} (h : mapSized p msg f l = .ok bs)
    (hpq : p l.length → q l.length) (hfg : ∀ a ∈ l, ∀ b, f a = .ok b → g b = .ok a) (msg' : String) :
    mapSized q msg' g bs = .ok l := by
  obtain ⟨hp, hbs⟩ := mapSized_eq_ok.mp h
  refine mapSized_eq_ok.mpr ⟨?_, (Except.mapM_round_trip hbs).mpr hfg⟩
  rw [Except.length_of_mapM hbs]
  exact hpq hp

@[simp] theorem mapOptional_none {f : α → Except ε β} : mapOptional f none = .ok none := rfl

theorem mapOptional_eq_ok {f : α → Except ε β} {o : Option α} {o' : Option β} :
    mapOptional f o = .ok o' ↔ (o = none ∧ o' = none) ∨ ∃ a b, o = some a ∧ f a = .ok b ∧ o' = some b := by
  cases o with
  | none => simp [mapOptional, eq_comm]
  | some a =>
    rw [mapOptional, Except.bind_eq_ok]
    simp [eq_comm]

theorem mapOptional_eq_self {f : α → Except ε α} {o : Option α} : mapOptional f o = .ok o ↔ ∀ a ∈ o, f a = .ok a := by
  cases o with
  | none => simp
  | some a => simp [mapOptional, Except.bind_eq_ok]

theorem mapOptional_round_trip {f : α → Except ε β} {g : β → Except ε α} {o : Option α} {o' : Option β}
    (h : mapOptional f o = .ok o') (hfg : ∀ a b, f a = .ok b → g b = .ok a) : mapOptional g o' = .ok o := by
  obtain ⟨rfl, rfl⟩ | ⟨a, b, rfl, hb, rfl⟩ := mapOptional_eq_ok.mp h
  · rfl
  · rw [mapOptional, hfg a b hb, Except.ok_bind]

/-! ### Numbers in a wider type -/

theorem UInt16.ofInt_toNat (x : UInt16) : UInt16.ofInt (x.toNat : Int) = x := by
  have h := x.toNat_lt
  rw [UInt16.ofInt, Int.emod_eq_of_lt (by omega) (by omega), Int.toNat_natCast, UInt16.ofNat_toNat]

theorem UInt32.ofInt_toNat (x : UInt32) : UInt32.ofInt (x.toNat : Int) = x := by
  have h := x.toNat_lt
  rw [UInt32.ofInt, Int.emod_eq_of_lt (by omega) (by omega), Int.toNat_natCast, UInt32.ofNat_toNat]

theorem UInt16.toNat_pos {x : UInt16} (h : 0 < x) : 0 < (x.toNat : Int) :=
  Int.natCast_pos.mpr (UInt16.lt_iff_toNat_lt.mp h)

theorem UInt16.toNat_inRange {x : UInt16} (h : 0 < x) : 0 < (x.toNat : Int) ∧ (x.toNat : Int) < 65535 + 1 :=
  ⟨UInt16.toNat_pos h, Int.ofNat_lt.mpr x.toNat_lt⟩

theorem UInt16.toNat_lt_65536 {x : UInt16} (h : 0 < x) : 0 < (x.toNat : Int) ∧ (x.toNat : Int) < 65536 :=
  UInt16.toNat_inRange h

theorem UInt32.toNat_inRange {x : UInt32} (h : 0 < x) : 0 < x.toNat ∧ x.toNat < 4294967295 + 1 :=
  ⟨UInt32.lt_iff_toNat_lt.mp h, x.toNat_lt⟩

/-! ### Carrying a value -/

/-- A result in a structure of its own -/
theorem bind_ok_iff {δ : Type} {x : Except ε γ} {mk : γ → δ} {P : Prop} {r : γ} (h : ∀ c, x = .ok c ↔ P ∧ c = r) {d : δ} :
    (x >>= fun c => .ok (mk c)) = .ok d ↔ P ∧ d = mk r := by
  rw [Except.bind_eq_ok]
  constructor
  · rintro ⟨c, hc, hd⟩
    obtain ⟨hP, rfl⟩ := (h c).mp hc
    exact ⟨hP, (Except.ok.inj hd).symm⟩
  · rintro ⟨hP, rfl⟩
    exact ⟨r, (h r).mpr ⟨hP, rfl⟩, rfl⟩

namespace CarriedAs

variable {enc : α → Except ε β} {dec : β → Except ε γ} {a : α} {b : β} {r : γ} {P Q : Prop}

/-- A value that always arrives -/
theorem of_ok (h : ∀ b, enc a = .ok b → dec b = .ok r) : CarriedAs enc dec a r True := by
  intro b hb c
  rw [h b hb, Except.ok.injEq, true_and, eq_comm]

theorem ok (h : CarriedAs enc dec a r P) (hP : P) (hb : enc a = .ok b) : dec b = .ok r := (h b hb r).mpr ⟨hP, rfl⟩

/-- Whether anything arrives that agrees with `r` in what `f` tells -/
theorem exists_iff {δ : Type} {f : γ → δ} {d : δ} (h : CarriedAs enc dec a r P) (hb : enc a = .ok b) (hr : f r = d) :
    (∃ c, dec b = .ok c ∧ f c = d) ↔ P := by
  constructor
  · rintro ⟨c, hc, -⟩
    exact ((h b hb c).mp hc).1
  · intro hP
    exact ⟨r, h.ok hP hb, hr⟩

theorem congr (h : CarriedAs enc dec a r P) (hPQ : P ↔ Q) : CarriedAs enc dec a r Q :=
  fun b hb c => (h b hb c).trans (and_congr_left fun _ => hPQ)

theorem wrap {δ ι κ : Type} {encIn : δ → Except ε β} {decIn : β → Except ε γ} {d : δ} {mk : β → ι} {mk' : γ → κ}
    {encOut : α → Except ε ι} {decOut : ι → Except ε κ} (h : CarriedAs encIn decIn d r P)
    (henc : encOut a = encIn d >>= fun b => .ok (mk b)) (hdec : ∀ b, decOut (mk b) = decIn b >>= fun c => .ok (mk' c)) :
    CarriedAs encOut decOut a (mk' r) P := by
  intro o ho k
  rw [henc] at ho
  obtain ⟨b, hb, ho⟩ := Except.bind_eq_ok.mp ho
  obtain rfl := Except.ok.inj ho
  rw [hdec]
  exact bind_ok_iff (h b hb)

theorem mapM {l : List α} {r : α → γ} {P : α → Prop} (h : ∀ a ∈ l, CarriedAs enc dec a (r a) (P a)) :
    CarriedAs (List.mapM enc) (List.mapM dec) l (l.map r) (∀ a ∈ l, P a) := by
  intro bs hbs
  induction l generalizing bs with
  | nil =>
    obtain rfl := Except.ok.inj hbs
    intro cs
    simp [eq_comm, List.mapM_nil, pure, Except.pure]
  | cons a l ih =>
    rw [List.mapM_cons] at hbs
    obtain ⟨b, hb, hbs⟩ := Except.bind_eq_ok.mp hbs
    obtain ⟨bs', hbs', hbs⟩ := Except.bind_eq_ok.mp hbs
    obtain rfl := Except.ok.inj hbs
    have hhead := h a List.mem_cons_self b hb
    have htail := ih (fun a' ha' => h a' (List.mem_cons_of_mem _ ha')) bs' hbs'
    intro cs
    rw [List.mapM_cons, Except.bind_eq_ok, List.forall_mem_cons, List.map_cons]
    constructor
    · rintro ⟨c, hc, hcs⟩
      obtain ⟨cs', hcs', hcs⟩ := Except.bind_eq_ok.mp hcs
      obtain rfl := Except.ok.inj hcs
      obtain ⟨hPa, rfl⟩ := (hhead c).mp hc
      obtain ⟨hPl, rfl⟩ := (htail cs').mp hcs'
      exact ⟨⟨hPa, hPl⟩, rfl⟩
    · rintro ⟨⟨hPa, hPl⟩, rfl⟩
      refine ⟨r a, (hhead _).mpr ⟨hPa, rfl⟩, ?_⟩
      rw [(htail _).mpr ⟨hPl, rfl⟩]
      rfl

/-- Only the way back asserts the length. -/
theorem mapM_mapSized {enc : α → Except String β} {dec : β → Except String γ} {q : Nat → Prop} [DecidablePred q]
    {l : List α} {r : α → γ} {P : α → Prop} (msg : String) (h : ∀ a ∈ l, CarriedAs enc dec a (r a) (P a)) :
    CarriedAs (List.mapM enc) (FlexRic.mapSized q msg dec) l (l.map r) (q l.length ∧ ∀ a ∈ l, P a) := by
  intro bs hbs cs
  rw [mapSized_eq_ok, Except.length_of_mapM hbs, mapM h bs hbs, and_assoc]

/-- The assertion of the way back is about the same length. -/
theorem mapSized {enc : α → Except String β} {dec : β → Except String γ} {p q : Nat → Prop} [DecidablePred p]
    [DecidablePred q] {l : List α} {r : α → γ} {P : α → Prop} (msg msg' : String)
    (h : ∀ a ∈ l, CarriedAs enc dec a (r a) (P a)) :
    CarriedAs (mapSized p msg enc) (mapSized q msg' dec) l (l.map r) (q l.length ∧ ∀ a ∈ l, P a) := by
  intro bs hbs cs
  exact mapM_mapSized msg' h bs (mapSized_eq_ok.mp hbs).2 cs

/-- The assertion of the way back is no stronger. -/
theorem mapSized_of {enc : α → Except String β} {dec : β → Except String γ} {p q : Nat → Prop} [DecidablePred p]
    [DecidablePred q] {l : List α} {r : α → γ} {P : α → Prop} (msg msg' : String) (hpq : p l.length → q l.length)
    (h : ∀ a ∈ l, CarriedAs enc dec a (r a) (P a)) :
    CarriedAs (FlexRic.mapSized p msg enc) (FlexRic.mapSized q msg' dec) l (l.map r) (∀ a ∈ l, P a) := by
  intro bs hbs cs
  rw [mapSized msg msg' h bs hbs, and_iff_right (hpq (mapSized_eq_ok.mp hbs).1)]

/-- A list of elements that arrive as they were sent -/
theorem mapSized_self {enc : α → Except String β} {dec : β → Except String α} {p q : Nat → Prop} [DecidablePred p]
    [DecidablePred q] {l : List α} {P : α → Prop} (msg msg' : String) (hpq : p l.length → q l.length)
    (h : ∀ a ∈ l, CarriedAs enc dec a a (P a)) :
    CarriedAs (FlexRic.mapSized p msg enc) (FlexRic.mapSized q msg' dec) l l (∀ a ∈ l, P a) := by
  have hl := mapSized_of (r := fun a => a) msg msg' hpq h
  rwa [List.map_id'] at hl

end CarriedAs

/-! ### Values that come back -/

theorem bind_mk_eq_ok {ι : Type} {x : Except ε β} {mk : β → ι} {b : β} (hmk : Function.Injective mk) :
    (x >>= fun b => .ok (mk b)) = .ok (mk b) ↔ x = .ok b := by
  rw [Except.bind_eq_ok]
  constructor
  · rintro ⟨b', hb', heq⟩
    exact hmk (Except.ok.inj heq) ▸ hb'
  · intro hb
    exact ⟨b, hb, rfl⟩

/-- Of what `enc` has made of `a`, `dec` makes `a` again exactly when `P`. -/
def Restored (enc : α → Except ε β) (dec : β → Except ε α) (a : α) (P : Prop) : Prop :=
  ∀ b, enc a = .ok b → (dec b = .ok a ↔ P)

namespace Restored

variable {enc : α → Except ε β} {dec : β → Except ε α} {a : α} {P Q : Prop}

theorem congr (h : Restored enc dec a P) (hPQ : P ↔ Q) : Restored enc dec a Q := fun b hb => (h b hb).trans hPQ

theorem of_ok (h : ∀ b, enc a = .ok b → dec b = .ok a) : Restored enc dec a True := fun b hb => iff_true_intro (h b hb)

theorem wrap {δ ι : Type} {mk : β → ι} {mk' : α → δ} {encOut : δ → Except ε ι} {decOut : ι → Except ε δ}
    (h : Restored enc dec a P) (henc : encOut (mk' a) = enc a >>= fun b => .ok (mk b))
    (hdec : ∀ b, decOut (mk b) = dec b >>= fun a => .ok (mk' a)) (hmk' : Function.Injective mk') :
    Restored encOut decOut (mk' a) P := by
  intro o ho
  rw [henc] at ho
  obtain ⟨b, hb, ho⟩ := Except.bind_eq_ok.mp ho
  obtain rfl := Except.ok.inj ho
  rw [hdec, ← h b hb, bind_mk_eq_ok hmk']

section Parts
variable {α₁ α₂ α₃ β₁ β₂ β₃ δ ι : Type} {enc₁ : α₁ → Except ε β₁} {enc₂ : α₂ → Except ε β₂} {enc₃ : α₃ → Except ε β₃}
  {dec₁ : β₁ → Except ε α₁} {dec₂ : β₂ → Except ε α₂} {dec₃ : β₃ → Except ε α₃} {encOut : δ → Except ε ι}
  {decOut : ι → Except ε δ} {a₁ : α₁} {a₂ : α₂} {a₃ : α₃} {P₁ P₂ P₃ : Prop}

/-- A value of two parts comes back when both do. -/
theorem pair {mk : β₁ → β₂ → ι} {mk' : α₁ → α₂ → δ} (h₁ : Restored enc₁ dec₁ a₁ P₁) (h₂ : Restored enc₂ dec₂ a₂ P₂)
    (henc : encOut (mk' a₁ a₂) = enc₁ a₁ >>= fun b₁ => enc₂ a₂ >>= fun b₂ => .ok (mk b₁ b₂))
    (hdec : ∀ b₁ b₂, decOut (mk b₁ b₂) = dec₁ b₁ >>= fun a₁ => dec₂ b₂ >>= fun a₂ => .ok (mk' a₁ a₂))
    (hmk' : ∀ {x₁ x₂ y₁ y₂}, mk' x₁ x₂ = mk' y₁ y₂ → x₁ = y₁ ∧ x₂ = y₂) :
    Restored encOut decOut (mk' a₁ a₂) (P₁ ∧ P₂) := by
  intro b hb
  simp only [henc, Except.bind_eq_ok, Except.ok.injEq] at hb
  obtain ⟨b₁, hb₁, b₂, hb₂, rfl⟩ := hb
  simp only [hdec, Except.bind_eq_ok, Except.ok.injEq, ← h₁ b₁ hb₁, ← h₂ b₂ hb₂]
  constructor
  · rintro ⟨x₁, hx₁, x₂, hx₂, heq⟩
    obtain ⟨rfl, rfl⟩ := hmk' heq
    exact ⟨hx₁, hx₂⟩
  · rintro ⟨ha₁, ha₂⟩
    exact ⟨a₁, ha₁, a₂, ha₂, rfl⟩

/-- A value of three parts -/
theorem triple {mk : β₁ → β₂ → β₃ → ι} {mk' : α₁ → α₂ → α₃ → δ} (h₁ : Restored enc₁ dec₁ a₁ P₁)
    (h₂ : Restored enc₂ dec₂ a₂ P₂) (h₃ : Restored enc₃ dec₃ a₃ P₃)
    (henc : encOut (mk' a₁ a₂ a₃) =
      enc₁ a₁ >>= fun b₁ => enc₂ a₂ >>= fun b₂ => enc₃ a₃ >>= fun b₃ => .ok (mk b₁ b₂ b₃))
    (hdec : ∀ b₁ b₂ b₃, decOut (mk b₁ b₂ b₃) =
      dec₁ b₁ >>= fun a₁ => dec₂ b₂ >>= fun a₂ => dec₃ b₃ >>= fun a₃ => .ok (mk' a₁ a₂ a₃))
    (hmk' : ∀ {x₁ x₂ x₃ y₁ y₂ y₃}, mk' x₁ x₂ x₃ = mk' y₁ y₂ y₃ → x₁ = y₁ ∧ x₂ = y₂ ∧ x₃ = y₃) :
    Restored encOut decOut (mk' a₁ a₂ a₃) (P₁ ∧ P₂ ∧ P₃) := by
  intro b hb
  simp only [henc, Except.bind_eq_ok, Except.ok.injEq] at hb
  obtain ⟨b₁, hb₁, b₂, hb₂, b₃, hb₃, rfl⟩ := hb
  simp only [hdec, Except.bind_eq_ok, Except.ok.injEq, ← h₁ b₁ hb₁, ← h₂ b₂ hb₂, ← h₃ b₃ hb₃]
  constructor
  · rintro ⟨x₁, hx₁, x₂, hx₂, x₃, hx₃, heq⟩
    obtain ⟨rfl, rfl, rfl⟩ := hmk' heq
    exact ⟨hx₁, hx₂, hx₃⟩
  · rintro ⟨ha₁, ha₂, ha₃⟩
    exact ⟨a₁, ha₁, a₂, ha₂, a₃, ha₃, rfl⟩

end Parts

theorem mapM {l : List α} {P : α → Prop} (h : ∀ a ∈ l, Restored enc dec a (P a)) :
    Restored (List.mapM enc) (List.mapM dec) l (∀ a ∈ l, P a) := by
  intro bs hbs
  rw [Except.mapM_round_trip hbs]
  have hok (a : α) (ha : a ∈ l) : ∃ b, enc a = .ok b := Except.mapM_isOk_iff.mp ⟨bs, hbs⟩ a ha
  constructor
  · intro hback a ha
    obtain ⟨b, hb⟩ := hok a ha
    exact (h a ha b hb).mp (hback a ha b hb)
  · intro hP a ha b hb
    exact (h a ha b hb).mpr (hP a ha)

/-- The assertion of the way back is no stronger. -/
theorem mapSized {enc : α → Except String β} {dec : β → Except String α} {p q : Nat → Prop} [DecidablePred p]
    [DecidablePred q] {l : List α} {P : α → Prop} (msg msg' : String) (hpq : p l.length → q l.length)
    (h : ∀ a ∈ l, Restored enc dec a (P a)) :
    Restored (mapSized p msg enc) (FlexRic.mapSized q msg' dec) l (∀ a ∈ l, P a) := by
  intro bs hbs
  obtain ⟨hp, hbs⟩ := mapSized_eq_ok.mp hbs
  rw [mapSized_eq_ok, Except.length_of_mapM hbs, and_iff_right (hpq hp), mapM h bs hbs]

theorem mapNonempty {enc : α → Except String β} {dec : β → Except String α} {p q : Nat → Prop} [DecidablePred p]
    [DecidablePred q] {l : List α} {P : α → Prop} (msg msg' : String) (hpq : p l.length → q l.length)
    (h : ∀ a ∈ l, Restored enc dec a (P a)) :
    Restored (mapNonempty p msg enc) (mapListed q msg' dec) l (∀ a ∈ l, P a) := by
  intro b hb
  rw [FlexRic.mapNonempty] at hb
  split at hb
  case isTrue hnil =>
    subst hnil
    obtain rfl := Except.ok.inj hb
    exact iff_of_true rfl (List.forall_mem_nil _)
  case isFalse =>
    obtain ⟨bs, hbs, hb⟩ := Except.bind_eq_ok.mp hb
    obtain rfl := Except.ok.inj hb
    exact mapSized msg msg' hpq h bs hbs

/-- A list that was read is not empty. -/
theorem mapListed {enc : α → Except String β} {dec : β → Except String α} {p q : Nat → Prop} [DecidablePred p]
    [DecidablePred q] {o : Option (List α)} {P : α → Prop} (msg msg' : String) (hpos : ∀ n, p n → 0 < n)
    (hpq : ∀ n, p n → q n) (h : ∀ a, Restored enc dec a (P a)) :
    Restored (mapListed p msg enc) (FlexRic.mapNonempty q msg' dec) o (∀ l ∈ o, ∀ a ∈ l, P a) := by
  intro bs hbs
  cases o with
  | none =>
    obtain rfl := Except.ok.inj hbs
    exact iff_of_true rfl fun _ hl => by cases hl
  | some l =>
    have hlen := Except.length_of_mapM (mapSized_eq_ok.mp hbs).2
    have hne : bs ≠ [] := List.ne_nil_of_length_pos (hlen ▸ hpos _ (mapSized_eq_ok.mp hbs).1)
    rw [FlexRic.mapNonempty, if_neg hne, bind_mk_eq_ok fun _ _ => Option.some.inj,
      mapSized msg msg' (hpq _) (fun a _ => h a) bs hbs]
    simp

theorem mapOptional {o : Option α} {P : α → Prop} (h : ∀ a ∈ o, Restored enc dec a (P a)) :
    Restored (mapOptional enc) (mapOptional dec) o (∀ a ∈ o, P a) := by
  intro b hb
  obtain ⟨rfl, rfl⟩ | ⟨a, b, rfl, hab, rfl⟩ := mapOptional_eq_ok.mp hb
  · exact iff_of_true rfl fun _ ha => by cases ha
  · rw [FlexRic.mapOptional, bind_mk_eq_ok fun _ _ => Option.some.inj, h a rfl b hab]
    simp

theorem optional (h : ∀ a, Restored enc dec a True) (o : Option α) :
    Restored (FlexRic.mapOptional enc) (FlexRic.mapOptional dec) o True :=
  (mapOptional fun a _ => h a).congr (iff_true_intro fun _ _ => trivial)

end Restored

/-! ### Using what was carried -/

/-- Whatever `dec` makes of `b`, `enc` makes `b` of it and `cp` the same value again, exactly when `P`. -/
def UsableAs (enc : α → Except ε β) (dec : β → Except ε α) (cp : α → Except ε α) (b : β) (P : Prop) : Prop :=
  ∀ a, dec b = .ok a → (enc a = .ok b ∧ cp a = .ok a ↔ P)

theorem Except.mapM_cons_eq_ok {f : α → Except ε β} {a : α} {b : β} {l : List α} {bs : List β} :
    (a :: l).mapM f = .ok (b :: bs) ↔ f a = .ok b ∧ l.mapM f = .ok bs := by
  rw [List.mapM_cons]
  simp only [Except.bind_eq_ok, Except.pure_eq, Except.ok.injEq, List.cons.injEq]
  constructor
  · rintro ⟨_, ha, _, hl, rfl, rfl⟩
    exact ⟨ha, hl⟩
  · rintro ⟨ha, hl⟩
    exact ⟨b, ha, bs, hl, rfl, rfl⟩

theorem bind_bind_mk_eq_ok {ι : Type} {x : Except ε β} {y : Except ε γ} {mk : β → γ → ι} {b : β} {c : γ}
    (hmk : Function.Injective2 mk) :
    (x >>= fun b => y >>= fun c => .ok (mk b c)) = .ok (mk b c) ↔ x = .ok b ∧ y = .ok c := by
  simp only [Except.bind_eq_ok]
  constructor
  · rintro ⟨b', hb', c', hc', heq⟩
    obtain ⟨rfl, rfl⟩ := hmk (Except.ok.inj heq)
    exact ⟨hb', hc'⟩
  · rintro ⟨hb, hc⟩
    exact ⟨b, hb, c, hc, rfl⟩

namespace UsableAs

variable {enc : α → Except ε β} {dec : β → Except ε α} {cp : α → Except ε α} {b : β} {P : Prop}

theorem wrap {δ ι : Type} {mk : β → ι} {mk' : α → δ} {encOut : δ → Except ε ι} {decOut : ι → Except ε δ}
    {cpOut : δ → Except ε δ} (h : UsableAs enc dec cp b P)
    (henc : ∀ a, encOut (mk' a) = enc a >>= fun b => .ok (mk b)) (hdec : decOut (mk b) = dec b >>= fun a => .ok (mk' a))
    (hcp : ∀ a, cpOut (mk' a) = cp a >>= fun a => .ok (mk' a)) (hmk : Function.Injective mk)
    (hmk' : Function.Injective mk') : UsableAs encOut decOut cpOut (mk b) P := by
  intro d hd
  rw [hdec] at hd
  obtain ⟨a, ha, hd⟩ := Except.bind_eq_ok.mp hd
  obtain rfl := Except.ok.inj hd
  rw [← h a ha, henc, hcp, bind_mk_eq_ok hmk, bind_mk_eq_ok hmk']

/-- A value beside a number, on both sides -/
theorem beside_iff {κ ν δ ι : Type} {x : Except ε β} {y : Except ε α} {m k : κ} {n : ν} {a : α} (mk : κ → β → ι)
    (mk' : ν → α → δ) (hmk : Function.Injective2 mk) (hmk' : Function.Injective2 mk') :
    (x >>= fun b => .ok (mk m b)) = .ok (mk k b) ∧ (y >>= fun a => .ok (mk' n a)) = .ok (mk' n a) ↔
      m = k ∧ x = .ok b ∧ y = .ok a := by
  simp only [Except.bind_eq_ok, Except.ok.injEq]
  constructor
  · rintro ⟨⟨b', hb', hb⟩, a', ha', ha⟩
    obtain ⟨hm, rfl⟩ := hmk hb
    obtain ⟨-, rfl⟩ := hmk' ha
    exact ⟨hm, hb', ha'⟩
  · rintro ⟨rfl, hb, ha⟩
    exact ⟨⟨b, hb, rfl⟩, a, ha, rfl⟩

theorem mapM {l : List β} {P : β → Prop} (h : ∀ b ∈ l, UsableAs enc dec cp b (P b)) :
    UsableAs (List.mapM enc) (List.mapM dec) (List.mapM cp) l (∀ b ∈ l, P b) := by
  intro as has
  induction l generalizing as with
  | nil =>
    obtain rfl := Except.ok.inj has
    simp [List.mapM_nil, pure, Except.pure]
  | cons b l ih =>
    rw [List.mapM_cons] at has
    obtain ⟨a, ha, has⟩ := Except.bind_eq_ok.mp has
    obtain ⟨as', has', has⟩ := Except.bind_eq_ok.mp has
    obtain rfl := Except.ok.inj has
    have hhead := h b List.mem_cons_self a ha
    have htail := ih (fun b' hb' => h b' (List.mem_cons_of_mem _ hb')) as' has'
    rw [Except.mapM_cons_eq_ok, Except.mapM_cons_eq_ok, List.forall_mem_cons, ← hhead, ← htail, and_and_and_comm]

theorem mapSized {enc : α → Except String β} {dec : β → Except String α} {cp : α → Except String α}
    {p q s : Nat → Prop} [DecidablePred p] [DecidablePred q] [DecidablePred s] {l : List β} {P : β → Prop}
    (msg msg' msg'' : String) (hp : q l.length → p l.length) (hs : q l.length → s l.length)
    (h : ∀ b ∈ l, UsableAs enc dec cp b (P b)) :
    UsableAs (mapSized p msg enc) (mapSized q msg' dec) (mapSized s msg'' cp) l (∀ b ∈ l, P b) := by
  intro as has
  obtain ⟨hq, has⟩ := mapSized_eq_ok.mp has
  have hlen := Except.length_of_mapM has
  rw [mapSized_eq_ok, mapSized_eq_ok, hlen, and_iff_right (hp hq), and_iff_right (hs hq), mapM h as has]

/-- Only the way there asserts the length. -/
theorem mapM_mapSized {enc : α → Except String β} {dec : β → Except String α} {cp : α → Except String α}
    {q : Nat → Prop} [DecidablePred q] {l : List β} {P : β → Prop} (msg : String)
    (h : ∀ b ∈ l, UsableAs enc dec cp b (P b)) :
    UsableAs (List.mapM enc) (FlexRic.mapSized q msg dec) (List.mapM cp) l (∀ b ∈ l, P b) :=
  fun as has => mapM h as (mapSized_eq_ok.mp has).2

end UsableAs

/-! ### There and back -/

/-- The operation and its way back both go through, and give the value again. -/
def RoundTrips (enc : α → Except ε β) (dec : β → Except ε α) (a : α) : Prop := ∃ b, enc a = .ok b ∧ dec b = .ok a

theorem exists_require_iff {x : Except String β} {g : Prop} [Decidable g] {msg : String} {P : β → Prop} :
    (∃ b, (require g msg >>= fun _ => x) = .ok b ∧ P b) ↔ g ∧ ∃ b, x = .ok b ∧ P b := by
  simp only [Except.bind_eq_ok, require_eq_ok, exists_const]
  constructor
  · rintro ⟨b, ⟨hg, hb⟩, hP⟩
    exact ⟨hg, b, hb, hP⟩
  · rintro ⟨hg, b, hb, hP⟩
    exact ⟨b, ⟨hg, hb⟩, hP⟩

/-- One part of a value goes there and back. -/
theorem exists_bind_iff {δ ι : Type} {x : Except ε β} {y : β → Except ε γ} {mk : β → ι} (mk' : γ → δ)
    {dec : ι → Except ε δ} {c : γ} (hdec : ∀ b, dec (mk b) = y b >>= fun c => .ok (mk' c))
    (hmk : Function.Injective mk') :
    (∃ i, (x >>= fun b => .ok (mk b)) = .ok i ∧ dec i = .ok (mk' c)) ↔ ∃ b, x = .ok b ∧ y b = .ok c := by
  simp only [Except.bind_eq_ok, Except.ok.injEq]
  constructor
  · rintro ⟨_, ⟨b, hb, rfl⟩, hi⟩
    rw [hdec, bind_mk_eq_ok hmk] at hi
    exact ⟨b, hb, hi⟩
  · rintro ⟨b, hb, hc⟩
    exact ⟨mk b, ⟨b, hb, rfl⟩, by rw [hdec, bind_mk_eq_ok hmk]; exact hc⟩

/-- Two parts of a value go there and back. -/
theorem exists_bind_bind_iff {δ ι β' γ' : Type} {x : Except ε β} {x' : Except ε β'} {y : β → Except ε γ}
    {y' : β' → Except ε γ'} {mk : β → β' → ι} (mk' : γ → γ' → δ) {dec : ι → Except ε δ} {c : γ} {c' : γ'}
    (hdec : ∀ b b', dec (mk b b') = y b >>= fun c => y' b' >>= fun c' => .ok (mk' c c'))
    (hmk : Function.Injective2 mk') :
    (∃ i, (x >>= fun b => x' >>= fun b' => .ok (mk b b')) = .ok i ∧ dec i = .ok (mk' c c')) ↔
      (∃ b, x = .ok b ∧ y b = .ok c) ∧ ∃ b', x' = .ok b' ∧ y' b' = .ok c' := by
  simp only [Except.bind_eq_ok, Except.ok.injEq]
  constructor
  · rintro ⟨_, ⟨b, hb, b', hb', rfl⟩, hi⟩
    rw [hdec, bind_bind_mk_eq_ok hmk] at hi
    exact ⟨⟨b, hb, hi.1⟩, b', hb', hi.2⟩
  · rintro ⟨⟨b, hb, hc⟩, b', hb', hc'⟩
    exact ⟨mk b b', ⟨b, hb, b', hb', rfl⟩, by rw [hdec, bind_bind_mk_eq_ok hmk]; exact ⟨hc, hc'⟩⟩

theorem roundTrips_mapM {enc : α → Except ε β} {dec : β → Except ε α} {l : List α} :
    RoundTrips (List.mapM enc) (List.mapM dec) l ↔ ∀ a ∈ l, RoundTrips enc dec a := by
  induction l with
  | nil => exact iff_of_true ⟨[], rfl, rfl⟩ (List.forall_mem_nil _)
  | cons a l ih =>
    rw [List.forall_mem_cons, ← ih]
    constructor
    · rintro ⟨bs, hbs, hback⟩
      rw [List.mapM_cons] at hbs
      obtain ⟨b, hb, hbs⟩ := Except.bind_eq_ok.mp hbs
      obtain ⟨bs', hbs', hbs⟩ := Except.bind_eq_ok.mp hbs
      obtain rfl := Except.ok.inj hbs
      obtain ⟨ha, hl⟩ := Except.mapM_cons_eq_ok.mp hback
      exact ⟨⟨b, hb, ha⟩, bs', hbs', hl⟩
    · rintro ⟨⟨b, hb, ha⟩, bs, hbs, hl⟩
      exact ⟨b :: bs, Except.mapM_cons_eq_ok.mpr ⟨hb, hbs⟩, Except.mapM_cons_eq_ok.mpr ⟨ha, hl⟩⟩

theorem roundTrips_mapSized {enc : α → Except String β} {dec : β → Except String α} {p q : Nat → Prop}
    [DecidablePred p] [DecidablePred q] {msg msg' : String} {l : List α} (hp : p l.length) (hq : q l.length) :
    RoundTrips (mapSized p msg enc) (mapSized q msg' dec) l ↔ ∀ a ∈ l, RoundTrips enc dec a := by
  rw [← roundTrips_mapM]
  constructor
  · rintro ⟨bs, hbs, hl⟩
    exact ⟨bs, (mapSized_eq_ok.mp hbs).2, (mapSized_eq_ok.mp hl).2⟩
  · rintro ⟨bs, hbs, hl⟩
    have hlen := Except.length_of_mapM hbs
    exact ⟨bs, mapSized_eq_ok.mpr ⟨hp, hbs⟩, mapSized_eq_ok.mpr ⟨hlen ▸ hq, hl⟩⟩

theorem roundTrips_mapOptional {enc : α → Except ε β} {dec : β → Except ε α} {o : Option α} :
    RoundTrips (mapOptional enc) (mapOptional dec) o ↔ ∀ a ∈ o, RoundTrips enc dec a := by
  cases o with
  | none => exact iff_of_true ⟨none, rfl, rfl⟩ (by simp)
  | some a =>
    simp only [RoundTrips, mapOptional, Option.mem_def, Option.some.injEq, forall_eq']
    exact exists_bind_iff some (fun _ => rfl) fun _ _ => Option.some.inj

/-! ### Numbers in a narrower type -/

theorem UInt32.toNat_ofInt_eq_iff {x : Int} : ((UInt32.ofInt x).toNat : Int) = x ↔ 0 ≤ x ∧ x < 4294967296 := by
  have h : ((UInt32.ofInt x).toNat : Int) = x % 4294967296 := by
    rw [UInt32.ofInt, UInt32.toNat_ofNat']
    omega
  omega

theorem UInt16.toNat_ofInt_eq_iff {x : Int} : ((UInt16.ofInt x).toNat : Int) = x ↔ 0 ≤ x ∧ x < 65536 := by
  have h : ((UInt16.ofInt x).toNat : Int) = x % 65536 := by
    rw [UInt16.ofInt, UInt16.toNat_ofNat']
    omega
  omega

theorem UInt16.ofInt_pos {x : Int} (hpos : 0 < x) (hlt : x < 65536) : 0 < UInt16.ofInt x := by
  have h := UInt16.toNat_ofInt_eq_iff.mpr ⟨Int.le_of_lt hpos, hlt⟩
  rw [UInt16.lt_iff_toNat_lt, ← Int.ofNat_lt, h]
  exact hpos

theorem UInt32.toNat_ofNat_eq_iff {n : Nat} : (UInt32.ofNat n).toNat = n ↔ n < 4294967296 := by
  rw [UInt32.toNat_ofNat']
  omega

end FlexRic
