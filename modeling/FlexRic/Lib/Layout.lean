import FlexRic.Lib.Plain

/-! # What a reader accepts, and where it runs past the end

The members of a value are the pieces of it that lie one after the other. A reader is exact when it accepts a value
only from the bytes of its members, and reads past the end of a chunk only when the chunk ends inside a member. -/

namespace FlexRic.Plain

variable {α β : Type}

/-- What `take` says of a chunk with too few bytes. -/
def pastEnd : String := "read past the end of the chunk"

/-- The chunk ends inside a member: it has all members of a value before that one, and then fewer bytes than it takes. -/
def Cut (V : α → Prop) (m : α → List Bytes) (buf : Bytes) : Prop :=
  ∃ a pre x post q, V a ∧ m a = pre ++ x :: post ∧ q.length < x.length ∧ buf = pre.flatten ++ q

/-- The reader makes the values of `V`, each from its members `m`. -/
structure Sound (r : Reader α) (V : α → Prop) (m : α → List Bytes) : Prop where
  accepts : ∀ {buf a rest}, r buf = .ok (a, rest) ↔ V a ∧ buf = (m a).flatten ++ rest
  past : ∀ {buf}, r buf = .error pastEnd ↔ Cut V m buf

/-- A sound reader that accepts something. -/
structure Exact (r : Reader α) (V : α → Prop) (m : α → List Bytes) : Prop extends Sound r V m where
  some : ∃ a, V a

/-! ### One reader after another -/

section Bind
variable {r : Reader α} {f : α → Reader β} {Va : α → Prop} {V : β → Prop} {ma : α → List Bytes} {m mb : β → List Bytes}

theorem bind_accepts {buf rest : Bytes} {b : β} :
    (r >>= f) buf = .ok (b, rest) ↔ ∃ a mid, r buf = .ok (a, mid) ∧ f a mid = .ok (b, rest) := by
  show (r buf >>= fun p => f p.1 p.2) = _ ↔ _
  rw [Except.bind_eq_ok, Prod.exists]

theorem bind_of_ok {buf mid : Bytes} {a : α} (h : r buf = .ok (a, mid)) : (r >>= f) buf = f a mid := by
  show (r buf >>= fun p => f p.1 p.2) = _
  rw [h]
  rfl

theorem bind_of_error {buf : Bytes} {msg : String} (h : r buf = .error msg) : (r >>= f) buf = .error msg := by
  show (r buf >>= fun p => f p.1 p.2) = _
  rw [h]
  rfl

theorem bind_past {buf : Bytes} :
    (r >>= f) buf = .error pastEnd ↔
      r buf = .error pastEnd ∨ ∃ a mid, r buf = .ok (a, mid) ∧ f a mid = .error pastEnd := by
  show (r buf >>= fun p => f p.1 p.2) = _ ↔ _
  cases r buf with
  | error msg => simp
  | ok p =>
    rw [Except.ok_bind]
    constructor
    · intro h
      exact .inr ⟨p.1, p.2, rfl, h⟩
    · rintro (h | ⟨a, mid, h, hf⟩)
      · cases h
      · obtain rfl := Except.ok.inj h
        exact hf

/-- What comes before the member in which the chunk ends, and after it, when there are two lists of members. -/
theorem split_append {γ : Type} {as bs pre post : List γ} {x : γ} (h : as ++ bs = pre ++ x :: post) :
    (∃ post', as = pre ++ x :: post') ∨ ∃ pre', pre = as ++ pre' ∧ bs = pre' ++ x :: post := by
  rcases List.append_eq_append_iff.mp h with ⟨pre', hpre, hbs⟩ | ⟨c, has, hc⟩
  · exact .inr ⟨pre', hpre, hbs⟩
  · cases c with
    | nil => exact .inr ⟨[], by simpa using has.symm, hc.symm⟩
    | cons y c =>
      obtain ⟨rfl, -⟩ := List.cons.inj hc
      exact .inl ⟨c, has⟩

/-- `P` tells which value of the first reader a value of both comes from. -/
theorem Exact.bind {d : β → List Bytes} (P : α → β → Prop) (hr : Exact r Va ma)
    (hf : ∀ a, Va a → Exact (f a) (fun b => P a b ∧ V b) d) (hV : ∀ b, V b → ∃ a, P a b ∧ Va a)
    (hm : ∀ a b, P a b → V b → m b = ma a ++ d b) : Exact (r >>= f) V m where
  accepts {buf b rest} := by
    rw [bind_accepts]
    constructor
    · rintro ⟨a, mid, ha, hb⟩
      obtain ⟨hVa, rfl⟩ := hr.accepts.mp ha
      obtain ⟨⟨hP, hVb⟩, rfl⟩ := (hf a hVa).accepts.mp hb
      refine ⟨hVb, ?_⟩
      rw [hm a b hP hVb, List.flatten_append, List.append_assoc]
    · rintro ⟨hVb, rfl⟩
      obtain ⟨a, hP, hVa⟩ := hV b hVb
      refine ⟨a, (d b).flatten ++ rest, hr.accepts.mpr ⟨hVa, ?_⟩, (hf a hVa).accepts.mpr ⟨⟨hP, hVb⟩, rfl⟩⟩
      rw [hm a b hP hVb, List.flatten_append, List.append_assoc]
  past {buf} := by
    rw [bind_past]
    constructor
    · rintro (h | ⟨a, mid, ha, hb⟩)
      · obtain ⟨a, pre, x, post, q, hVa, ha, hq, rfl⟩ := hr.past.mp h
        obtain ⟨b, hP, hVb⟩ := (hf a hVa).some
        refine ⟨b, pre, x, post ++ d b, q, hVb, ?_, hq, rfl⟩
        rw [hm a b hP hVb, ha, List.append_assoc, List.cons_append]
      · obtain ⟨hVa, rfl⟩ := hr.accepts.mp ha
        obtain ⟨b, pre, x, post, q, ⟨hP, hVb⟩, hmb, hq, rfl⟩ := (hf a hVa).past.mp hb
        refine ⟨b, ma a ++ pre, x, post, q, hVb, ?_, hq, ?_⟩
        · rw [hm a b hP hVb, hmb, List.append_assoc]
        · rw [List.flatten_append, List.append_assoc]
    · rintro ⟨b, pre, x, post, q, hVb, hb, hq, rfl⟩
      obtain ⟨a, hP, hVa⟩ := hV b hVb
      rw [hm a b hP hVb] at hb
      rcases split_append hb with ⟨post', ha⟩ | ⟨pre', rfl, hmb⟩
      · exact .inl (hr.past.mpr ⟨a, pre, x, post', q, hVa, ha, hq, rfl⟩)
      · refine .inr ⟨a, pre'.flatten ++ q, hr.accepts.mpr ⟨hVa, ?_⟩, (hf a hVa).past.mpr ?_⟩
        · rw [List.flatten_append, List.append_assoc]
        · exact ⟨b, pre', x, post, q, ⟨hP, hVb⟩, hmb, hq, rfl⟩
  some := by
    obtain ⟨a, hVa⟩ := hr.some
    exact (hf a hVa).some.imp fun _ h => h.2

theorem Exact.field (p : β → α) (hr : Exact r Va ma) (hf : ∀ a, Va a → Exact (f a) (fun b => p b = a ∧ V b) mb)
    (hV : ∀ b, V b → Va (p b)) : Exact (r >>= f) V (fun b => ma (p b) ++ mb b) :=
  hr.bind (fun a b => p b = a) hf (fun b hb => ⟨p b, rfl, hV b hb⟩) fun _ _ ha _ => ha ▸ rfl

theorem Exact.pure {b₀ : β} (hV : ∀ b, V b ↔ b = b₀) : Exact (pure b₀) V (fun _ => []) where
  accepts {buf b rest} := by
    rw [hV]
    constructor
    · intro h
      obtain ⟨rfl, rfl⟩ := Prod.mk.inj (Except.ok.inj h)
      exact ⟨rfl, rfl⟩
    · rintro ⟨rfl, rfl⟩
      rfl
  past {buf} := by
    constructor
    · rintro ⟨⟩
    · rintro ⟨_, pre, _, _, _, _, h, -⟩
      exact absurd h.symm (List.append_ne_nil_of_right_ne_nil pre (List.cons_ne_nil _ _))
  some := ⟨b₀, (hV b₀).mpr rfl⟩

theorem Exact.congr {r : Reader β} (h : Exact r V m) (hm : ∀ b, V b → m b = mb b) : Exact r V mb := by
  refine ⟨⟨fun {buf b rest} => ?_, fun {buf} => ?_⟩, h.some⟩
  · rw [h.accepts]
    exact and_congr_right fun hb => by rw [hm b hb]
  · rw [h.past]
    refine exists_congr fun b => exists_congr fun _ => exists_congr fun _ => exists_congr fun _ => exists_congr fun _ => ?_
    exact and_congr_right fun hb => by rw [hm b hb]

theorem Exact.map (g : α → β) (hr : Exact r Va ma)
    (hV : ∀ b, V b ↔ ∃ a, b = g a ∧ Va a) (hm : ∀ a, m (g a) = ma a) : Exact (r >>= fun a => Pure.pure (g a)) V m := by
  refine hr.bind (fun a b => b = g a) (fun a ha => .pure fun b => ⟨And.left, ?_⟩) (fun b => (hV b).mp) ?_
  · rintro rfl
    exact ⟨rfl, (hV _).mpr ⟨a, rfl, ha⟩⟩
  · rintro a b rfl -
    rw [hm, List.append_nil]

theorem Sound.throw {msg : String} (hmsg : msg ≠ pastEnd) (hV : ∀ b, ¬V b) :
    Sound (throw msg : Reader β) V m where
  accepts {_ b _} := ⟨nofun, fun h => absurd h.1 (hV b)⟩
  past := ⟨fun h => absurd (Except.error.inj h) hmsg, fun ⟨b, _, _, _, _, hb, _⟩ => absurd hb (hV b)⟩

end Bind

/-! ### Scalars -/

theorem take_accepts {n : Nat} {buf bs rest : Bytes} :
    take n buf = .ok (bs, rest) ↔ bs.length = n ∧ buf = bs ++ rest := by
  rw [take]
  split
  · next h =>
    rw [Except.ok.injEq, Prod.mk.injEq]
    constructor
    · rintro ⟨rfl, rfl⟩
      exact ⟨List.length_take_of_le h, (List.take_append_drop n buf).symm⟩
    · rintro ⟨rfl, rfl⟩
      exact ⟨List.take_left, List.drop_left⟩
  · next h =>
    constructor
    · intro hok
      cases hok
    · rintro ⟨rfl, rfl⟩
      rw [List.length_append] at h
      omega

theorem take_past {n : Nat} {buf : Bytes} : take n buf = .error pastEnd ↔ buf.length < n := by
  rw [take]
  split
  · next h =>
    constructor
    · intro herr
      cases herr
    · intro hlt
      exact absurd h (Nat.not_le_of_lt hlt)
  · next h => exact ⟨fun _ => Nat.lt_of_not_le h, fun _ => rfl⟩

/-- Every number of as many bytes is a scalar. -/
class Scalar.Full (α : Type) [Scalar α] : Prop where
  toNat_ofNat : ∀ n, n < 256 ^ sizeof α → Scalar.toNat (Scalar.ofNat n : α) = n

instance : Scalar.Full UInt8 := ⟨fun _ h => UInt8.toNat_ofNat_of_lt' h⟩
instance : Scalar.Full UInt16 := ⟨fun _ h => UInt16.toNat_ofNat_of_lt' h⟩
instance : Scalar.Full UInt32 := ⟨fun _ h => UInt32.toNat_ofNat_of_lt' h⟩
instance : Scalar.Full UInt64 := ⟨fun _ h => UInt64.toNat_ofNat_of_lt' h⟩
instance : Scalar.Full Int32 := ⟨fun _ h => UInt32.toNat_ofNat_of_lt' h⟩
instance : Scalar.Full Int64 := ⟨fun _ h => UInt64.toNat_ofNat_of_lt' h⟩
instance : Scalar.Full Float4 := ⟨fun _ h => UInt32.toNat_ofNat_of_lt' h⟩
instance : Scalar.Full Float8 := ⟨fun _ h => UInt64.toNat_ofNat_of_lt' h⟩
instance (n : Nat) : Scalar.Full (Padding n) := ⟨fun _ h => leNat_leBytes h⟩

section Scalar
variable [Scalar α] [Scalar.Full α]

theorem put_ofNat {bs : Bytes} (h : bs.length = sizeof α) : put (Scalar.ofNat (leNat bs) : α) = bs := by
  rw [put, Scalar.Full.toNat_ofNat _ (h ▸ leNat_lt bs), ← h, leBytes_leNat]

theorem fetch_exact : Exact (fetch α) (fun _ => True) (fun a => [put a]) where
  accepts {buf a rest} := by
    rw [fetch, bind_accepts]
    simp only [take_accepts, true_and, List.flatten_cons, List.flatten_nil, List.append_nil]
    constructor
    · rintro ⟨bs, mid, ⟨hlen, rfl⟩, h⟩
      obtain ⟨rfl, rfl⟩ := Prod.mk.inj (Except.ok.inj h)
      rw [put_ofNat hlen]
    · rintro rfl
      refine ⟨put a, rest, ⟨length_put a, rfl⟩, ?_⟩
      rw [put, leNat_leBytes (Scalar.toNat_lt a), Scalar.ofNat_toNat]
      rfl
  past {buf} := by
    rw [fetch, bind_past, take_past]
    constructor
    · rintro (h | ⟨_, _, -, h⟩)
      · exact ⟨Scalar.ofNat 0, [], _, [], buf, trivial, rfl, by rwa [length_put], rfl⟩
      · cases h
    · rintro ⟨a, pre, x, post, q, -, h, hq, rfl⟩
      obtain ⟨rfl, rfl, rfl⟩ : pre = [] ∧ x = put a ∧ post = [] := by
        cases pre with
        | nil => obtain ⟨rfl, rfl⟩ := List.cons.inj h; exact ⟨rfl, rfl, rfl⟩
        | cons _ pre => exact absurd (List.cons.inj h).2.symm (List.append_ne_nil_of_right_ne_nil pre (List.cons_ne_nil _ _))
      rw [length_put] at hq
      exact .inl hq
  some := ⟨Scalar.ofNat 0, trivial⟩

theorem Exact.scalar (p : β → α) {f : α → Reader β} {V : β → Prop} {mb : β → List Bytes}
    (hf : ∀ a, Exact (f a) (fun b => p b = a ∧ V b) mb) : Exact (fetch α >>= f) V (fun b => put (p b) :: mb b) :=
  fetch_exact.field p (fun a _ => hf a) fun _ _ => trivial

end Scalar

/-! ### Enumerations -/

/-- The enumerators are different ones. -/
class Enumerators.Distinct (α : Type) [DecidableEq α] [Enumerators α] : Prop where
  nodup : (Enumerators.values : List α).Nodup

section Enumerators
variable [DecidableEq α] [Enumerators α] [Enumerators.Distinct α] {f : α → Reader β} {V : β → Prop}
  {mb : β → List Bytes} {msg : String}

theorem fetchEnum_accepts {buf rest : Bytes} {a : α} :
    fetchEnum α msg buf = .ok (a, rest) ↔ buf = putEnum a ++ rest := by
  constructor
  · intro hok
    obtain ⟨n, mid, hn, h⟩ := bind_accepts.mp hok
    obtain ⟨-, rfl⟩ := fetch_exact.accepts.mp hn
    cases hb : (Enumerators.values : List α)[n.toNat]? with
    | none =>
      rw [hb] at h
      cases h
    | some b =>
      rw [hb] at h
      obtain ⟨rfl, rfl⟩ := Prod.mk.inj (Except.ok.inj h)
      obtain ⟨hlt, rfl⟩ := List.getElem?_eq_some_iff.mp hb
      rw [putEnum, Enumerators.Distinct.nodup.idxOf_getElem, UInt32.ofNat_toNat, List.flatten_singleton]
  · rintro rfl
    exact fetchEnum_reads a msg rest (Nat.zero_le _)

omit [Enumerators.Distinct α] in
theorem fetchEnum_past {buf : Bytes} (hmsg : msg ≠ pastEnd) :
    fetchEnum α msg buf = .error pastEnd ↔ buf.length < sizeofEnum := by
  rw [fetchEnum, bind_past, fetch, bind_past, take_past]
  constructor
  · rintro ((h | ⟨_, _, -, h⟩) | ⟨n, _, -, h⟩)
    · exact h
    · cases h
    · cases hb : (Enumerators.values : List α)[n.toNat]? with
      | none =>
        rw [hb] at h
        exact absurd (Except.error.inj h) hmsg
      | some b =>
        rw [hb] at h
        cases h
  · exact fun h => .inl (.inl h)

/-- The enumerator `k` of a value comes first, and says what is read next. At an enumerator that no value has, the
reader may stop. -/
theorem Exact.enum (k : β → α) (hf : ∀ a, Sound (f a) (fun b => k b = a ∧ V b) mb) (hmsg : msg ≠ pastEnd)
    (hV : ∃ b, V b) : Exact (fetchEnum α msg >>= f) V (fun b => putEnum (k b) :: mb b) where
  accepts {buf b rest} := by
    rw [bind_accepts]
    constructor
    · rintro ⟨a, mid, ha, hb⟩
      obtain rfl := fetchEnum_accepts.mp ha
      obtain ⟨⟨rfl, hVb⟩, rfl⟩ := (hf a).accepts.mp hb
      exact ⟨hVb, by rw [List.flatten_cons, List.append_assoc]⟩
    · rintro ⟨hVb, rfl⟩
      refine ⟨k b, (mb b).flatten ++ rest, fetchEnum_accepts.mpr ?_, (hf _).accepts.mpr ⟨⟨rfl, hVb⟩, rfl⟩⟩
      rw [List.flatten_cons, List.append_assoc]
  past {buf} := by
    rw [bind_past, fetchEnum_past hmsg]
    constructor
    · rintro (h | ⟨a, mid, ha, hb⟩)
      · obtain ⟨b, hVb⟩ := hV
        exact ⟨b, [], _, _, buf, hVb, rfl, by rwa [length_putEnum], rfl⟩
      · obtain rfl := fetchEnum_accepts.mp ha
        obtain ⟨b, pre, x, post, q, ⟨rfl, hVb⟩, hmb, hq, rfl⟩ := (hf a).past.mp hb
        refine ⟨b, putEnum (k b) :: pre, x, post, q, hVb, congrArg (putEnum (k b) :: ·) hmb, hq, ?_⟩
        rw [List.flatten_cons, List.append_assoc]
    · rintro ⟨b, pre, x, post, q, hVb, h, hq, rfl⟩
      cases pre with
      | nil =>
        obtain ⟨rfl, -⟩ := List.cons.inj h
        rw [length_putEnum] at hq
        exact .inl hq
      | cons y pre =>
        obtain ⟨rfl, hb⟩ := List.cons.inj h
        refine .inr ⟨k b, pre.flatten ++ q, fetchEnum_accepts.mpr ?_, (hf _).past.mpr ⟨b, pre, x, post, q, ⟨rfl, hVb⟩, hb, hq, rfl⟩⟩
        rw [List.flatten_cons, List.append_assoc]
  some := hV

end Enumerators

/-! ### Arrays -/

section Arrays
variable {r : Reader α} {V : α → Prop} {m : α → List Bytes}

theorem times_exact (h : Exact r V m) (n : Nat) :
    Exact (times r n) (fun xs => ∀ a ∈ xs.val, V a) (fun xs => xs.val.flatMap m) := by
  induction n with
  | zero =>
    refine (Exact.pure fun xs => ?_).congr fun xs _ => ?_
    · obtain ⟨_ | _, hxs⟩ := xs
      · simp
      · cases hxs
    · obtain ⟨_ | _, hxs⟩ := xs
      · rfl
      · cases hxs
  | succ n ih =>
    refine h.bind (fun a xs => ∃ t, xs.val = a :: t) (d := fun xs => xs.val.tail.flatMap m)
      (fun a ha => ih.map _ (fun xs => ⟨?_, ?_⟩) fun xs => rfl) (fun xs hxs => ?_) fun a xs ha _ => ?_
    · rintro ⟨⟨t, ht⟩, hxs⟩
      obtain ⟨xs, hlen⟩ := xs
      obtain rfl : xs = a :: t := ht
      exact ⟨⟨t, Nat.succ.inj hlen⟩, rfl, fun b hb => hxs b (List.mem_cons_of_mem a hb)⟩
    · rintro ⟨xs', rfl, hxs⟩
      exact ⟨⟨_, rfl⟩, List.forall_mem_cons.mpr ⟨ha, hxs⟩⟩
    · obtain ⟨_ | ⟨a, t⟩, hlen⟩ := xs
      · cases hlen
      · exact ⟨a, ⟨t, rfl⟩, hxs a List.mem_cons_self⟩
    · obtain ⟨t, ht⟩ := ha
      rw [ht, List.flatMap_cons, List.tail_cons]

theorem fetchCounted_exact (h : Exact r V m) :
    Exact (fetchCounted r) (fun xs => ∀ a ∈ xs.items, V a) (fun xs => put xs.len :: xs.items.flatMap m) := by
  refine fetch_exact.bind (fun len xs => xs.len = len) (d := fun xs => xs.items.flatMap m)
    (fun len _ => (times_exact h len.toNat).map _ (fun xs => ⟨?_, ?_⟩) fun xs => rfl) (fun xs _ => ⟨xs.len, rfl, trivial⟩)
    fun len xs hlen _ => ?_
  · rintro ⟨rfl, hxs⟩
    exact ⟨⟨xs.items, xs.toNat_len.symm⟩, rfl, hxs⟩
  · rintro ⟨⟨xs', hlen⟩, rfl, hxs⟩
    refine ⟨?_, hxs⟩
    rw [Counted.len, Counted.ofTimes, hlen, UInt32.ofNat_toNat]
  · rw [hlen]
    rfl

/-- The length of an array, and its items. -/
def scalars [Scalar α] (xs : Counted α) : List Bytes := put xs.len :: xs.items.map put

theorem fetchScalars_exact [Scalar α] [Scalar.Full α] : Exact (fetchCounted (fetch α)) (fun _ => True) scalars := by
  have h := fetchCounted_exact (@fetch_exact α _ _)
  simp only [implies_true, ← List.map_eq_flatMap] at h
  exact h

end Arrays

/-! ### Whole chunks -/

section Whole
variable {r : Reader α} {V : α → Prop} {m : α → List Bytes} {msg : String} {buf : Bytes}

theorem Sound.whole_accepts (h : Sound r V m) {a : α} :
    r.whole msg buf = .ok a ↔ V a ∧ buf = (m a).flatten := by
  rw [Reader.whole, Except.bind_eq_ok, Prod.exists]
  constructor
  · rintro ⟨b, rest, hr, h'⟩
    obtain ⟨_, hrest, h'⟩ := Except.bind_eq_ok.mp h'
    obtain rfl := Except.ok.inj h'
    obtain rfl := require_eq_ok.mp hrest
    rw [h.accepts, List.append_nil] at hr
    exact hr
  · rintro ⟨hV, rfl⟩
    exact ⟨a, [], h.accepts.mpr ⟨hV, (List.append_nil _).symm⟩, rfl⟩

theorem whole_past (hmsg : msg ≠ pastEnd) : r.whole msg buf = .error pastEnd ↔ r buf = .error pastEnd := by
  rw [Reader.whole]
  cases r buf with
  | error msg' => exact ⟨fun h => congrArg _ (Except.error.inj h), fun h => congrArg _ (Except.error.inj h)⟩
  | ok p =>
    obtain ⟨a, rest⟩ := p
    constructor
    · intro h
      change (require (rest = []) msg >>= fun _ => Pure.pure a) = _ at h
      rw [require] at h
      split at h
      · cases h
      · exact absurd (Except.error.inj h) hmsg
    · intro h
      cases h

end Whole

end FlexRic.Plain
