import Mathlib.Data.List.Forall2
import FlexRic.Lib.Plain

/-! # Comparisons written by hand

A function that compares two values member by member answers yes or no, unless it comes to something that
it cannot compare: memory that is not there, or a value that it asserts not to get. -/

namespace FlexRic

variable {α : Type} {p q : Prop}

/-- `x && y`: the second comparison is made when the first one has found no difference. -/
def both (x y : Except String Bool) : Except String Bool := do
  if ← x then y else return false

/-- The comparison of two members. -/
def same (p : Prop) [Decidable p] : Except String Bool := .ok (decide p)

/-- The loop over two arrays, up to the length of the first one. -/
def eqArray (eq : α → α → Except String Bool) : List α → List α → Except String Bool
  | [], _ => return true
  | _ :: _, [] => throw "read past the end of the array"
  | a :: as, b :: bs => both (eq a b) (eqArray eq as bs)

/-- The lengths are compared first. -/
def eqList (eq : α → α → Except String Bool) (as bs : List α) : Except String Bool :=
  both (same (as.length = bs.length)) (eqArray eq as bs)

/-- Optional members, which are compared when both are there. -/
def eqWhenBoth (eq : α → α → Except String Bool) : Option α → Option α → Except String Bool
  | some a, some b => eq a b
  | _, _ => return true

/-- Optional members, of which both are there or none -/
def eqPresent (eq : α → α → Except String Bool) : Option α → Option α → Except String Bool
  | none, none => return true
  | some a, some b => eq a b
  | _, _ => return false

/-- `!((m0 != NULL || m1 != NULL) && *m0 != *m1)` -/
def eqRead [DecidableEq α] : Option α → Option α → Except String Bool
  | none, none => return true
  | some a, some b => return decide (a = b)
  | _, _ => throw "read from NULL"

/-- An assertion that fails instead of the answer no -/
def orAssert (msg : String) (x : Except String Bool) : Except String Bool := do
  if ← x then return true else throw msg

/-- One assertion about each of two members; `msg` is its text for the name of the value. -/
def requireBoth (c : α → Prop) [DecidablePred c] (msg : String → String) (m0 m1 : α) : Except String Unit := do
  require (c m0) (msg "m0")
  require (c m1) (msg "m1")

/-- `memcmp(m0, m1, n) == 0` -/
def memcmp [DecidableEq α] (m0 m1 : List α) (n : Nat) : Except String Bool :=
  if n ≤ m0.length ∧ n ≤ m1.length then .ok (m0.take n = m1.take n) else throw "read past the end of the array"

/-- The comparison answers, and with yes if and only if `p`. -/
def Says (t : Except String Bool) (p : Prop) : Prop := ∃ b, t = .ok b ∧ (b = true ↔ p)

/-- The comparison answers yes when the values are alike, and does not answer when it fails on them. -/
structure Tells (t : Except String Bool) (Alike Fails : Prop) : Prop where
  true_iff : t = .ok true ↔ Alike
  error_iff : (∃ msg, t = .error msg) ↔ Fails

section Tells
variable {t s : Except String Bool} {A A' B F F' G : Prop}

/-- A comparison is right about `p` if and only if it does not fail and finds alike what it should. -/
theorem Tells.says_iff (h : Tells t A F) : Says t p ↔ ¬F ∧ (A ↔ p) := by
  rw [← h.true_iff, ← h.error_iff]
  cases t <;> simp [Says]

/-- A comparison that does not fail is right about two values when they are the same or it tells them apart. -/
theorem says_eq_iff {a b : α} (h : Tells t A False) (hself : a = b → A) : Says t (a = b) ↔ (A → a = b) := by
  rw [h.says_iff, not_false_eq_true, true_and]
  exact ⟨fun h => h.mp, fun h => ⟨h, hself⟩⟩

theorem Tells.false_iff (h : Tells t A F) : t = .ok false ↔ ¬A ∧ ¬F := by
  rw [← h.true_iff, ← h.error_iff]
  cases t <;> simp

/-- A comparison that cannot fail says no to what is not alike. -/
theorem Tells.eq_false_iff (h : Tells t A False) : t = .ok false ↔ ¬A := h.false_iff.trans (and_iff_left not_false)

theorem Tells.congr (h : Tells t A F) (hA : A ↔ A') (hF : F ↔ F') : Tells t A' F' :=
  ⟨h.true_iff.trans hA, h.error_iff.trans hF⟩

theorem same_tells (p : Prop) [Decidable p] : Tells (same p) p False := by
  constructor <;> simp [same]

theorem false_tells : Tells (.ok false) False False := by
  constructor <;> simp

theorem true_tells : Tells (.ok true) True False := by
  constructor <;> simp

theorem error_tells (msg : String) : Tells (.error msg) False True := by
  constructor <;> simp

theorem ok_tells {b : Bool} (h : b = true ↔ p) : Tells (.ok b) p False := by
  constructor
  · rw [Except.ok.injEq]
    exact h
  · simp

/-- An assertion before a comparison -/
theorem Tells.guarded {c : Prop} [Decidable c] {msg : String} (ht : Tells t A F) :
    Tells (require c msg >>= fun _ => t) (c ∧ A) (¬c ∨ F) := by
  by_cases hc : c
  · rw [require_of hc, Except.ok_bind]
    exact ht.congr (by simp [hc]) (by simp [hc])
  · rw [require, if_neg hc]
    exact (error_tells _).congr (by simp [hc]) (by simp [hc])

theorem Tells.both (ht : Tells t A F) (hs : Tells s B G) : Tells (both t s) (A ∧ B) (F ∨ A ∧ G) := by
  rw [← ht.true_iff, ← ht.error_iff, ← hs.true_iff, ← hs.error_iff]
  rcases t with msg | _ | _
  · constructor <;> simp [FlexRic.both]
  · constructor <;> simp [FlexRic.both]
  · constructor <;> simp [FlexRic.both]

/-- A comparison of members that cannot fail, before another one. -/
theorem Tells.andThen (ht : Tells t A False) (hs : Tells s B G) : Tells (FlexRic.both t s) (A ∧ B) (A ∧ G) :=
  (ht.both hs).congr Iff.rfl (by rw [false_or])

/-- The second comparison counts only where the first one finds no difference. -/
theorem Tells.andThen_of (ht : Tells t A False) (hs : A → Tells s B G) : Tells (FlexRic.both t s) (A ∧ B) (A ∧ G) := by
  by_cases hA : A
  · exact ht.andThen (hs hA)
  · have hfalse : t = .ok false := ht.false_iff.mpr ⟨hA, not_false⟩
    rw [hfalse]
    exact false_tells.congr (by simp [hA]) (by simp [hA])

end Tells

/-! ### The answer yes -/

section Yes
variable {t s : Except String Bool} {o o' : Option α} {as bs : List α} {eq : α → α → Except String Bool}

@[simp] theorem both_eq_true : both t s = .ok true ↔ t = .ok true ∧ s = .ok true := by
  rcases t with msg | _ | _ <;> simp [both]

@[simp] theorem same_eq_true [Decidable p] : same p = .ok true ↔ p := by simp [same]

@[simp] theorem orAssert_eq_true {msg : String} : orAssert msg t = .ok true ↔ t = .ok true := by
  rcases t with msg | _ | _ <;> simp [orAssert, throw, throwThe, MonadExceptOf.throw]

theorem requireBoth_eq_ok {c : α → Prop} [DecidablePred c] {msg : String → String} {a b : α} {u : Unit} :
    requireBoth c msg a b = .ok u ↔ c a ∧ c b := by
  simp only [requireBoth, Except.bind_eq_ok, require_eq_ok, exists_and_left, exists_const]

@[simp] theorem requireBoth_bind_eq_true {c : α → Prop} [DecidablePred c] {msg : String → String} {a b : α} :
    (requireBoth c msg a b >>= fun _ => t) = .ok true ↔ c a ∧ c b ∧ t = .ok true := by
  simp only [Except.bind_eq_ok, requireBoth_eq_ok, exists_and_left, exists_const, and_assoc]

theorem requireBoth_of {c : α → Prop} [DecidablePred c] {msg : String → String} {a b : α} (ha : c a) (hb : c b) :
    requireBoth c msg a b = .ok () := by
  rw [requireBoth, require_of ha, require_of hb, Except.ok_bind]

@[simp] theorem eqRead_eq_true [DecidableEq α] : eqRead o o' = .ok true ↔ o = o' := by
  cases o <;> cases o' <;> simp [eqRead, throw, throwThe, MonadExceptOf.throw]

theorem eqPresent_eq_true (h : ∀ a b, eq a b = .ok true ↔ a = b) : eqPresent eq o o' = .ok true ↔ o = o' := by
  cases o <;> cases o' <;> simp [eqPresent, h]

theorem eqPresent_eq_true_and {P : α → Prop} (h : ∀ a b, eq a b = .ok true ↔ a = b ∧ P a) :
    eqPresent eq o o' = .ok true ↔ o = o' ∧ ∀ a ∈ o, P a := by
  cases o <;> cases o' <;> simp [eqPresent, h]

theorem eqArray_eq_true (hlen : as.length = bs.length) :
    eqArray eq as bs = .ok true ↔ List.Forall₂ (fun a b => eq a b = .ok true) as bs := by
  induction as generalizing bs with
  | nil =>
    obtain rfl := List.length_eq_zero_iff.mp hlen.symm
    simp [eqArray]
  | cons a as ih =>
    cases bs with
    | nil => cases hlen
    | cons b bs => rw [eqArray, both_eq_true, ih (Nat.succ.inj hlen), List.forall₂_cons]

theorem eqArray_self : eqArray eq as as = .ok true ↔ ∀ a ∈ as, eq a a = .ok true := by
  rw [eqArray_eq_true rfl, List.forall₂_same]

theorem eqList_self : eqList eq as as = .ok true ↔ ∀ a ∈ as, eq a a = .ok true := by
  rw [eqList, both_eq_true, same_eq_true, eqArray_self, and_iff_right rfl]

theorem eqList_eq_true : eqList eq as bs = .ok true ↔ List.Forall₂ (fun a b => eq a b = .ok true) as bs := by
  rw [eqList, both_eq_true, same_eq_true]
  exact ⟨fun ⟨hlen, h⟩ => (eqArray_eq_true hlen).mp h, fun h => ⟨h.length_eq, (eqArray_eq_true h.length_eq).mpr h⟩⟩

theorem eqList_eq_true_map {β : Type} {f : α → β} (h : ∀ a ∈ as, ∀ b ∈ bs, (eq a b = .ok true ↔ f a = f b)) :
    eqList eq as bs = .ok true ↔ as.map f = bs.map f := by
  rw [eqList_eq_true]
  induction as generalizing bs with
  | nil => cases bs <;> simp
  | cons a as ih =>
    cases bs with
    | nil => simp
    | cons b bs =>
      rw [List.forall₂_cons, h a List.mem_cons_self b List.mem_cons_self,
        ih fun a ha b hb => h a (List.mem_cons_of_mem _ ha) b (List.mem_cons_of_mem _ hb), List.map_cons, List.map_cons,
        List.cons.injEq]

theorem forall₂_eq_and {P : α → Prop} : List.Forall₂ (fun a b => a = b ∧ P a) as bs ↔ as = bs ∧ ∀ a ∈ as, P a := by
  simp only [and_comm (b := P _), List.forall₂_and_left, List.forall₂_eq_eq_eq]
  exact and_comm

/-! ### The answer no -/

theorem both_eq_false : both t s = .ok false ↔ t = .ok false ∨ t = .ok true ∧ s = .ok false := by
  rcases t with msg | _ | _ <;> simp [both]

theorem same_eq_false [Decidable p] : same p = .ok false ↔ ¬p := by simp [same]

theorem says_iff_or : Says t p ↔ t = .ok true ∧ p ∨ t = .ok false ∧ ¬p := by
  rcases t with msg | _ | _ <;> simp [Says]

/-- A comparison that never answers no is right where there is nothing to find, and it does not fail. -/
theorem says_iff_of_ne_false (ht : t ≠ .ok false) : Says t p ↔ p ∧ t = .ok true := by
  rw [says_iff_or, or_iff_left fun h => ht h.1]
  exact and_comm

/-- The loop comes to a pair that differs. -/
def StopsIn (Alike Apart : α → α → Prop) : List α → List α → Prop
  | a :: as, b :: bs => Apart a b ∨ Alike a b ∧ StopsIn Alike Apart as bs
  | _, _ => False

theorem eqArray_eq_false : eqArray eq as bs = .ok false ↔
    StopsIn (fun a b => eq a b = .ok true) (fun a b => eq a b = .ok false) as bs := by
  induction as generalizing bs with
  | nil => simp [eqArray, StopsIn]
  | cons a as ih =>
    cases bs with
    | nil => simp [eqArray, StopsIn, throw, throwThe, MonadExceptOf.throw]
    | cons b bs => rw [eqArray, both_eq_false, ih, StopsIn]

theorem eqList_eq_false : eqList eq as bs = .ok false ↔ as.length ≠ bs.length ∨ as.length = bs.length ∧
    StopsIn (fun a b => eq a b = .ok true) (fun a b => eq a b = .ok false) as bs := by
  rw [eqList, both_eq_false, same_eq_false, same_eq_true, eqArray_eq_false]

theorem stopsIn_congr {Alike Alike' Apart Apart' : α → α → Prop}
    (h : ∀ a ∈ as, ∀ b ∈ bs, (Alike a b ↔ Alike' a b) ∧ (Apart a b ↔ Apart' a b)) :
    StopsIn Alike Apart as bs ↔ StopsIn Alike' Apart' as bs := by
  induction as generalizing bs with
  | nil => simp [StopsIn]
  | cons a as ih =>
    cases bs with
    | nil => simp [StopsIn]
    | cons b bs =>
      obtain ⟨halike, hapart⟩ := h a List.mem_cons_self b List.mem_cons_self
      rw [StopsIn, StopsIn, halike, hapart,
        ih fun a ha b hb => h a (List.mem_cons_of_mem _ ha) b (List.mem_cons_of_mem _ hb)]

theorem StopsIn.of_forall₂ {Alike Apart R : α → α → Prop} (h : StopsIn Alike Apart as bs) (hr : List.Forall₂ R as bs) :
    ∃ a b, R a b ∧ Apart a b := by
  induction hr with
  | nil => exact h.elim
  | cons hab _ ih =>
    rcases h with h | ⟨-, h⟩
    · exact ⟨_, _, hab, h⟩
    · exact ih h

/-! ### A comparison that asserts what it does not find -/

theorem orAssert_ne_false {msg : String} : orAssert msg t ≠ .ok false := by
  rcases t with msg | _ | _ <;> simp [orAssert, throw, throwThe, MonadExceptOf.throw]

theorem both_ne_false (ht : t ≠ .ok false) (hs : s ≠ .ok false) : both t s ≠ .ok false := by
  rcases t with msg | _ | _
  · simp [both]
  · exact absurd rfl ht
  · simpa [both] using hs

theorem eqArray_ne_false (h : ∀ a b, eq a b ≠ .ok false) : eqArray eq as bs ≠ .ok false := by
  induction as generalizing bs with
  | nil => simp [eqArray]
  | cons a as ih =>
    cases bs with
    | nil => simp [eqArray, throw, throwThe, MonadExceptOf.throw]
    | cons b bs => exact both_ne_false (h a b) ih

theorem eqList_eq_false_iff_length (h : ∀ a b, eq a b ≠ .ok false) :
    eqList eq as bs = .ok false ↔ as.length ≠ bs.length := by
  rw [eqList, both_eq_false, same_eq_false, or_iff_left fun hfalse => eqArray_ne_false h hfalse.2]

/-- After one comparison that may answer no, a comparison that asserts the rest is right where that one answers no, or
where there is nothing to find. -/
theorem says_both_same_iff [Decidable q] (ht : t ≠ .ok false) (hpq : p → q) :
    Says (both (same q) t) p ↔ ¬q ∨ p ∧ both (same q) t = .ok true := by
  rw [says_iff_or, both_eq_false, same_eq_false, same_eq_true, and_comm (a := both _ _ = _)]
  constructor
  · rintro (h | ⟨hq | ⟨-, hfalse⟩, -⟩)
    · exact .inr h
    · exact .inl hq
    · exact absurd hfalse ht
  · rintro (hq | h)
    · exact .inr ⟨.inl hq, fun hp => hq (hpq hp)⟩
    · exact .inl h

end Yes

theorem both_assoc (x y z : Except String Bool) : both (both x y) z = both x (both y z) := by
  rcases x with msg | _ | _ <;> rfl

/-! ### Arrays -/

section Arrays
variable {eq : α → α → Except String Bool} {Alike Fails : α → α → Prop}

/-- The loop comes to a pair on which the comparison fails, or to the end of the second array. -/
def FailsIn (Alike Fails : α → α → Prop) : List α → List α → Prop
  | [], _ => False
  | _ :: _, [] => True
  | a :: as, b :: bs => Fails a b ∨ Alike a b ∧ FailsIn Alike Fails as bs

/-- All that the loop compares is alike. -/
def AlikeIn (Alike : α → α → Prop) : List α → List α → Prop
  | [], _ => True
  | _ :: _, [] => False
  | a :: as, b :: bs => Alike a b ∧ AlikeIn Alike as bs

theorem eqArray_tells (h : ∀ a b, Tells (eq a b) (Alike a b) (Fails a b)) (as bs : List α) :
    Tells (eqArray eq as bs) (AlikeIn Alike as bs) (FailsIn Alike Fails as bs) := by
  induction as generalizing bs with
  | nil => exact true_tells
  | cons a as ih =>
    cases bs with
    | nil => exact error_tells _
    | cons b bs => exact (h a b).both (ih bs)

theorem alikeIn_eq {as bs : List α} : AlikeIn (· = ·) as bs ↔ as <+: bs := by
  induction as generalizing bs with
  | nil => simp [AlikeIn]
  | cons a as ih =>
    cases bs with
    | nil => simp [AlikeIn]
    | cons b bs => rw [AlikeIn, ih, List.cons_prefix_cons]

theorem failsIn_eq {as bs : List α} : FailsIn (· = ·) (fun _ _ => False) as bs ↔ bs <+: as ∧ bs.length < as.length := by
  induction as generalizing bs with
  | nil =>
    simp [FailsIn]
  | cons a as ih =>
    cases bs with
    | nil => simp [FailsIn]
    | cons b bs =>
      rw [FailsIn, ih, List.cons_prefix_cons, List.length_cons, List.length_cons, false_or]
      constructor
      · rintro ⟨rfl, h, hlen⟩
        exact ⟨⟨rfl, h⟩, by omega⟩
      · rintro ⟨⟨rfl, h⟩, hlen⟩
        exact ⟨rfl, h, by omega⟩

/-- Arrays of one length are compared to their ends. -/
theorem alikeIn_of_length {as bs : List α} (hlen : as.length = bs.length) :
    AlikeIn (· = ·) as bs ↔ as = bs := by
  rw [alikeIn_eq]
  exact ⟨fun h => h.eq_of_length hlen, fun h => h ▸ List.prefix_rfl⟩

theorem failsIn_of_length {as bs : List α} (hlen : as.length = bs.length) :
    ¬FailsIn (· = ·) (fun _ _ => False) as bs := by
  rw [failsIn_eq]
  rintro ⟨-, h⟩
  omega

theorem eqList_tells (h : ∀ a b, Tells (eq a b) (a = b) False) (as bs : List α) :
    Tells (eqList eq as bs) (as = bs) False := by
  refine ((same_tells _).andThen (eqArray_tells h as bs)).congr ?_ ?_
  · constructor
    · rintro ⟨hlen, h⟩
      exact (alikeIn_of_length hlen).mp h
    · rintro rfl
      exact ⟨rfl, (alikeIn_of_length rfl).mpr rfl⟩
  · rw [iff_false]
    rintro ⟨hlen, h⟩
    exact failsIn_of_length hlen h

/-- Arrays of one length, of which the comparison of elements sees `f` -/
theorem eqArray_tells_map {β : Type} {f : α → β} {as bs : List α} (hlen : as.length = bs.length)
    (h : ∀ a ∈ as, ∀ b ∈ bs, Tells (eq a b) (f a = f b) False) :
    Tells (eqArray eq as bs) (as.map f = bs.map f) False := by
  induction as generalizing bs with
  | nil =>
    obtain rfl := List.length_eq_zero_iff.mp hlen.symm
    exact true_tells.congr (by simp) Iff.rfl
  | cons a as ih =>
    cases bs with
    | nil => cases hlen
    | cons b bs =>
      have hhead := h a List.mem_cons_self b List.mem_cons_self
      have htail := ih (Nat.succ.inj hlen) fun a ha b hb => h a (List.mem_cons_of_mem _ ha) b (List.mem_cons_of_mem _ hb)
      exact (hhead.andThen htail).congr (by simp) (by simp)

theorem eqList_tells_map {β : Type} {f : α → β} {as bs : List α}
    (h : ∀ a ∈ as, ∀ b ∈ bs, Tells (eq a b) (f a = f b) False) :
    Tells (eqList eq as bs) (as.map f = bs.map f) False := by
  refine ((same_tells _).andThen_of fun hlen => eqArray_tells_map hlen h).congr ?_ (by simp)
  rw [and_iff_right_iff_imp]
  intro heq
  simpa using congrArg List.length heq

theorem eqList_tells_of {as bs : List α} (h : ∀ a ∈ as, ∀ b ∈ bs, Tells (eq a b) (a = b) False) :
    Tells (eqList eq as bs) (as = bs) False :=
  (@eqList_tells_map α eq α id as bs h).congr (by simp) Iff.rfl

theorem eqWhenBoth_tells (h : ∀ a b, Tells (eq a b) (Alike a b) (Fails a b)) (o p : Option α) :
    Tells (eqWhenBoth eq o p) (∀ a ∈ o, ∀ b ∈ p, Alike a b) (∃ a ∈ o, ∃ b ∈ p, Fails a b) := by
  cases o with
  | none => exact true_tells.congr (by simp) (by simp)
  | some a =>
    cases p with
    | none => exact true_tells.congr (by simp) (by simp)
    | some b => exact (h a b).congr (by simp) (by simp)

theorem eqPresent_tells (h : ∀ a b, Tells (eq a b) (a = b) (Fails a b)) (o p : Option α) :
    Tells (eqPresent eq o p) (o = p) (∃ a ∈ o, ∃ b ∈ p, Fails a b) := by
  cases o with
  | none =>
    cases p with
    | none => exact true_tells.congr (by simp) (by simp)
    | some b => exact false_tells.congr (by simp) (by simp)
  | some a =>
    cases p with
    | none => exact false_tells.congr (by simp) (by simp)
    | some b => exact (h a b).congr (by simp) (by simp)

theorem eqPresent_tells_map {β : Type} {f : α → β} {o p : Option α}
    (h : ∀ a ∈ o, ∀ b ∈ p, Tells (eq a b) (f a = f b) False) : Tells (eqPresent eq o p) (o.map f = p.map f) False := by
  cases o with
  | none => cases p with
    | none => exact true_tells.congr (by simp) Iff.rfl
    | some b => exact false_tells.congr (by simp) Iff.rfl
  | some a => cases p with
    | none => exact false_tells.congr (by simp) Iff.rfl
    | some b => exact (h a rfl b rfl).congr (by simp) Iff.rfl

theorem eqPresent_tells_of {o p : Option α} (h : ∀ a ∈ o, ∀ b ∈ p, Tells (eq a b) (a = b) False) :
    Tells (eqPresent eq o p) (o = p) False := by
  have hid := eqPresent_tells_map (f := id) h
  rwa [Option.map_id, id, id] at hid

theorem memcmp_of_length [DecidableEq α] {m0 m1 : List α} {n : Nat} (h0 : m0.length = n) (h1 : m1.length = n) :
    memcmp m0 m1 n = same (m0 = m1) := by
  subst h0
  rw [memcmp, if_pos ⟨Nat.le_refl _, by omega⟩, List.take_length, List.take_of_length_le (by omega)]
  rfl

end Arrays

/-! ### Arrays with their length -/

namespace Plain
variable {xs ys : Counted α}

theorem Counted.items_inj : xs = ys ↔ xs.items = ys.items := by
  cases xs
  cases ys
  simp

theorem Counted.len_eq_iff : xs.len = ys.len ↔ xs.items.length = ys.items.length := by
  rw [← xs.toNat_len, ← ys.toNat_len, UInt32.toNat_inj]

theorem Counted.len_pos_iff : xs.len > 0 ↔ xs.items ≠ [] := by
  rw [gt_iff_lt, UInt32.lt_iff_toNat_lt, xs.toNat_len, ← List.length_pos_iff]
  rfl

theorem eqCounted_tells {eq : α → α → Except String Bool} (h : ∀ a b, Tells (eq a b) (a = b) False) :
    Tells (both (same (xs.len = ys.len)) (eqArray eq xs.items ys.items)) (xs = ys) False := by
  have hlen : same (xs.len = ys.len) = same (xs.items.length = ys.items.length) := by
    simp only [same, Counted.len_eq_iff]
  rw [hlen]
  exact (eqList_tells h _ _).congr Counted.items_inj.symm Iff.rfl

/-- Two texts compared by their lengths first and then by their bytes, with other members in between. -/
theorem memcmp_counted [DecidableEq α] (h : xs.len = ys.len) :
    memcmp xs.items ys.items xs.len.toNat = same (xs.items = ys.items) :=
  memcmp_of_length xs.toNat_len.symm (by rw [h, ys.toNat_len])

end Plain

end FlexRic
