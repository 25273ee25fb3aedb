import FlexRic.Lib.Copy

/-! # Decoding what anyone may have sent

The bytes of a value need not be a function of it: a structure that is copied whole has bytes that no member occupies.
Which bytes a value lies in is a relation here, between the value and the pieces that are read one after the other. -/

namespace FlexRic.Plain

variable {α β γ : Type}

/-- What is expected of a decoder on a chunk: that it reads nothing past the end, that it allocates nothing for a count
that the rest of the chunk cannot hold (a refusal would be its answer, whatever the refusal says), and that it accepts
only what encodes the value that it returns. -/
structure Safe (decode : Calloc → Bytes → Except String α) (Encodes : α → Bytes → Prop) (buf : Bytes) : Prop where
  inside : decode granted buf ≠ .error pastEnd
  held : ∃ refusal, decode (held refusal) buf ≠ .error refusal
  exact : ∀ a, decode granted buf = .ok a → Encodes a buf

/-! ### Pieces -/

/-- The bytes end inside one of the pieces: all before it are there, and it is not. -/
def EndsInside (ms : List Bytes) (buf : Bytes) : Prop :=
  ∃ pre x post q, ms = pre ++ x :: post ∧ q.length < x.length ∧ buf = pre.flatten ++ q

theorem EndsInside.append_right {ms : List Bytes} {buf : Bytes} (h : EndsInside ms buf) (ms' : List Bytes) :
    EndsInside (ms ++ ms') buf := by
  obtain ⟨pre, x, post, q, rfl, hq, rfl⟩ := h
  exact ⟨pre, x, post ++ ms', q, by simp, hq, rfl⟩

theorem EndsInside.append_left {ms : List Bytes} {buf : Bytes} (h : EndsInside ms buf) (ms' : List Bytes) :
    EndsInside (ms' ++ ms) (ms'.flatten ++ buf) := by
  obtain ⟨pre, x, post, q, rfl, hq, rfl⟩ := h
  exact ⟨ms' ++ pre, x, post, q, by simp, hq, by simp⟩

theorem endsInside_append {ms ms' : List Bytes} {buf : Bytes} :
    EndsInside (ms ++ ms') buf ↔ EndsInside ms buf ∨ ∃ q, buf = ms.flatten ++ q ∧ EndsInside ms' q := by
  constructor
  · rintro ⟨pre, x, post, q, hms, hq, rfl⟩
    rcases split_append hms with ⟨post', h⟩ | ⟨pre', rfl, h⟩
    · exact .inl ⟨pre, x, post', q, h, hq, rfl⟩
    · exact .inr ⟨pre'.flatten ++ q, by simp, pre', x, post, q, h, hq, rfl⟩
  · rintro (h | ⟨q, rfl, h⟩)
    · exact h.append_right ms'
    · exact h.append_left ms

theorem not_endsInside_nil {buf : Bytes} : ¬EndsInside [] buf := by
  rintro ⟨pre, x, post, q, h, -⟩
  exact absurd h.symm (List.append_ne_nil_of_right_ne_nil pre (List.cons_ne_nil _ _))

theorem endsInside_singleton {x buf : Bytes} : EndsInside [x] buf ↔ buf.length < x.length := by
  constructor
  · rintro ⟨pre, y, post, q, h, hq, rfl⟩
    cases pre with
    | nil =>
      obtain ⟨rfl, -⟩ := List.cons.inj h
      exact hq
    | cons z pre => exact absurd (List.cons.inj h).2.symm (List.append_ne_nil_of_right_ne_nil pre (List.cons_ne_nil _ _))
  · intro h
    exact ⟨[], x, [], buf, rfl, h, rfl⟩

/-! ### Pieces of a list

Pieces and parts are laid one after the other alike. -/

section Laid
variable {δ : Type} {E : α → List δ → Prop} {b : β} {g : α → β} {ms : List δ} {n : Nat}

theorem laid_map : (∃ a ms₁ ms₂, E a ms₁ ∧ (b = g a ∧ ms₂ = []) ∧ ms = ms₁ ++ ms₂) ↔ ∃ a, b = g a ∧ E a ms := by
  constructor
  · rintro ⟨a, ms₁, _, h₁, ⟨rfl, rfl⟩, rfl⟩
    exact ⟨a, rfl, (List.append_nil ms₁).symm ▸ h₁⟩
  · rintro ⟨a, rfl, h₁⟩
    exact ⟨a, ms, [], h₁, ⟨rfl, rfl⟩, (List.append_nil ms).symm⟩

theorem laid_nil {xs : { xs : List α // xs.length = 0 }} :
    xs = ⟨[], rfl⟩ ∧ ms = [] ↔ ∃ mss, List.Forall₂ E xs.val mss ∧ ms = mss.flatten := by
  obtain ⟨_ | _, hxs⟩ := xs
  · simp
  · cases hxs

theorem laid_cons {xs : { xs : List α // xs.length = n + 1 }} :
    (∃ a ms₁ ms₂, E a ms₁ ∧
      (∃ xs' : { xs : List α // xs.length = n }, xs = ⟨a :: xs'.val, congrArg Nat.succ xs'.property⟩ ∧
        ∃ mss, List.Forall₂ E xs'.val mss ∧ ms₂ = mss.flatten) ∧ ms = ms₁ ++ ms₂) ↔
      ∃ mss, List.Forall₂ E xs.val mss ∧ ms = mss.flatten := by
  constructor
  · rintro ⟨a, ms₁, _, h₁, ⟨xs', rfl, mss, hmss, rfl⟩, rfl⟩
    exact ⟨ms₁ :: mss, .cons h₁ hmss, rfl⟩
  · rintro ⟨mss, hmss, rfl⟩
    obtain ⟨_ | ⟨a, t⟩, hlen⟩ := xs
    · cases hlen
    · cases hmss with
      | cons h₁ hmss => exact ⟨a, _, _, h₁, ⟨⟨t, Nat.succ.inj hlen⟩, rfl, _, hmss, rfl⟩, rfl⟩

end Laid

/-! ### Readers -/

/-- The reader accepts a value from its pieces and from nothing else, and runs past the end of a chunk exactly when the
chunk ends inside a piece. -/
structure Lays (r : Reader α) (E : α → List Bytes → Prop) : Prop where
  accepts : ∀ {buf a rest}, r buf = .ok (a, rest) ↔ ∃ ms, E a ms ∧ buf = ms.flatten ++ rest
  past : ∀ {buf}, r buf = .error pastEnd ↔ ∃ a ms, E a ms ∧ EndsInside ms buf
  some : ∃ a ms, E a ms

theorem Exact.lays {r : Reader α} {V : α → Prop} {m : α → List Bytes} (h : Exact r V m) :
    Lays r fun a ms => V a ∧ ms = m a where
  accepts {buf a rest} := by
    rw [h.accepts]
    constructor
    · rintro ⟨ha, rfl⟩
      exact ⟨_, ⟨ha, rfl⟩, rfl⟩
    · rintro ⟨_, ⟨ha, rfl⟩, rfl⟩
      exact ⟨ha, rfl⟩
  past {buf} := by
    rw [h.past]
    constructor
    · rintro ⟨a, pre, x, post, q, ha, hm, hq, rfl⟩
      exact ⟨a, _, ⟨ha, rfl⟩, pre, x, post, q, hm, hq, rfl⟩
    · rintro ⟨a, _, ⟨ha, rfl⟩, pre, x, post, q, hm, hq, rfl⟩
      exact ⟨a, pre, x, post, q, ha, hm, hq, rfl⟩
  some := h.some.imp fun a ha => ⟨_, ha, rfl⟩

theorem Exact.lays_all {r : Reader α} {m : α → List Bytes} (h : Exact r (fun _ => True) m) :
    Lays r fun a ms => ms = m a := by
  have heq : (fun a ms => True ∧ ms = m a) = fun a ms => ms = m a := by simp only [true_and]
  exact heq ▸ h.lays

namespace Lays
variable {r : Reader α} {f : α → Reader β} {E : α → List Bytes → Prop} {F : α → β → List Bytes → Prop}

theorem bind (hr : Lays r E) (hf : ∀ a, Lays (f a) (F a)) :
    Lays (r >>= f) fun b ms => ∃ a ms₁ ms₂, E a ms₁ ∧ F a b ms₂ ∧ ms = ms₁ ++ ms₂ where
  accepts {buf b rest} := by
    rw [bind_accepts]
    constructor
    · rintro ⟨a, mid, ha, hb⟩
      obtain ⟨ms₁, h₁, rfl⟩ := hr.accepts.mp ha
      obtain ⟨ms₂, h₂, rfl⟩ := (hf a).accepts.mp hb
      exact ⟨_, ⟨a, ms₁, ms₂, h₁, h₂, rfl⟩, by simp⟩
    · rintro ⟨_, ⟨a, ms₁, ms₂, h₁, h₂, rfl⟩, rfl⟩
      exact ⟨a, ms₂.flatten ++ rest, hr.accepts.mpr ⟨ms₁, h₁, by simp⟩, (hf a).accepts.mpr ⟨ms₂, h₂, rfl⟩⟩
  past {buf} := by
    rw [bind_past]
    constructor
    · rintro (h | ⟨a, mid, ha, hb⟩)
      · obtain ⟨a, ms₁, h₁, hin⟩ := hr.past.mp h
        obtain ⟨b, ms₂, h₂⟩ := (hf a).some
        exact ⟨b, _, ⟨a, ms₁, ms₂, h₁, h₂, rfl⟩, hin.append_right ms₂⟩
      · obtain ⟨ms₁, h₁, rfl⟩ := hr.accepts.mp ha
        obtain ⟨b, ms₂, h₂, hin⟩ := (hf a).past.mp hb
        exact ⟨b, _, ⟨a, ms₁, ms₂, h₁, h₂, rfl⟩, hin.append_left ms₁⟩
    · rintro ⟨b, _, ⟨a, ms₁, ms₂, h₁, h₂, rfl⟩, hin⟩
      rcases endsInside_append.mp hin with hin₁ | ⟨q, rfl, hin₂⟩
      · exact .inl (hr.past.mpr ⟨a, ms₁, h₁, hin₁⟩)
      · exact .inr ⟨a, q, hr.accepts.mpr ⟨ms₁, h₁, rfl⟩, (hf a).past.mpr ⟨b, ms₂, h₂, hin₂⟩⟩
  some := by
    obtain ⟨a, ms₁, h₁⟩ := hr.some
    obtain ⟨b, ms₂, h₂⟩ := (hf a).some
    exact ⟨b, _, a, ms₁, ms₂, h₁, h₂, rfl⟩

theorem pure (b : β) : Lays (pure b) fun b' ms => b' = b ∧ ms = [] where
  accepts {buf b' rest} := by
    constructor
    · intro h
      obtain ⟨rfl, rfl⟩ := Prod.mk.inj (Except.ok.inj h)
      exact ⟨[], ⟨rfl, rfl⟩, rfl⟩
    · rintro ⟨_, ⟨rfl, rfl⟩, rfl⟩
      rfl
  past {buf} := by
    constructor
    · intro h
      cases h
    · rintro ⟨_, _, ⟨-, rfl⟩, h⟩
      exact absurd h not_endsInside_nil
  some := ⟨b, [], rfl, rfl⟩

theorem congr {E' : α → List Bytes → Prop} (h : Lays r E) (hE : ∀ a ms, E a ms ↔ E' a ms) : Lays r E' := by
  have heq : E = E' := funext₂ fun a ms => propext (hE a ms)
  exact heq ▸ h

theorem map (g : α → β) (h : Lays r E) :
    Lays (r >>= fun a => Pure.pure (g a)) fun b ms => ∃ a, b = g a ∧ E a ms :=
  (h.bind fun a => Lays.pure (g a)).congr fun _ _ => laid_map

/-- An enumerator first, which says what is read next. -/
theorem enum [DecidableEq α] [Enumerators α] [Enumerators.Distinct α] {msg : String} (hmsg : msg ≠ pastEnd)
    (hα : Nonempty α) (hf : ∀ a, Lays (f a) (F a)) :
    Lays (fetchEnum α msg >>= f) fun b ms => ∃ a ms', F a b ms' ∧ ms = putEnum a :: ms' := by
  have hr : Lays (fetchEnum α msg) fun a ms => ms = [putEnum a] := by
    refine ⟨fun {buf a rest} => ?_, fun {buf} => ?_, ?_⟩
    · rw [fetchEnum_accepts]
      simp
    · rw [fetchEnum_past hmsg]
      obtain ⟨a⟩ := hα
      constructor
      · exact fun h => ⟨a, _, rfl, endsInside_singleton.mpr (by rwa [length_putEnum])⟩
      · rintro ⟨a, _, rfl, h⟩
        rwa [endsInside_singleton, length_putEnum] at h
    · exact hα.elim fun a => ⟨a, _, rfl⟩
  refine (hr.bind hf).congr fun b ms => ?_
  constructor
  · rintro ⟨a, _, ms', rfl, h, rfl⟩
    exact ⟨a, ms', h, rfl⟩
  · rintro ⟨a, ms', h, rfl⟩
    exact ⟨a, _, ms', rfl, h, rfl⟩

theorem times (h : Lays r E) (n : Nat) :
    Lays (times r n) fun xs ms => ∃ mss, List.Forall₂ E xs.val mss ∧ ms = mss.flatten := by
  induction n with
  | zero => exact (Lays.pure _).congr fun _ _ => laid_nil
  | succ n ih => exact (h.bind fun a => ih.map _).congr fun _ _ => laid_cons

theorem fetchCounted (h : Lays r E) :
    Lays (fetchCounted r) fun xs ms => ∃ mss, List.Forall₂ E xs.items mss ∧ ms = put xs.len :: mss.flatten := by
  refine ((fetch_exact : Exact (fetch UInt32) _ _).lays.bind fun len => (h.times len.toNat).map _).congr fun xs ms => ?_
  constructor
  · rintro ⟨len, _, _, ⟨-, rfl⟩, ⟨xs', rfl, mss, hmss, rfl⟩, rfl⟩
    refine ⟨mss, hmss, ?_⟩
    rw [Counted.len, Counted.ofTimes, xs'.property, UInt32.ofNat_toNat]
    rfl
  · rintro ⟨mss, hmss, rfl⟩
    exact ⟨xs.len, _, _, ⟨trivial, rfl⟩, ⟨⟨xs.items, xs.toNat_len.symm⟩, rfl, mss, hmss, rfl⟩, rfl⟩

theorem whole_accepts {msg : String} {buf : Bytes} {a : α} (h : Lays r E) :
    r.whole msg buf = .ok a ↔ ∃ ms, E a ms ∧ buf = ms.flatten := by
  rw [Reader.whole, Except.bind_eq_ok, Prod.exists]
  constructor
  · rintro ⟨b, rest, hr, h'⟩
    obtain ⟨_, hrest, h'⟩ := Except.bind_eq_ok.mp h'
    obtain rfl := Except.ok.inj h'
    obtain rfl := require_eq_ok.mp hrest
    rw [h.accepts] at hr
    simpa only [List.append_nil] using hr
  · rintro ⟨ms, hE, rfl⟩
    exact ⟨a, [], h.accepts.mpr ⟨ms, hE, (List.append_nil _).symm⟩, rfl⟩

end Lays

theorem fetch_lays [Scalar α] [Scalar.Full α] : Lays (fetch α) fun a ms => ms = [put a] := fetch_exact.lays_all

/-- The bytes that are skipped are read as the padding that they are. -/
theorem skip_lays (n : Nat) : Lays (skip n) fun _ ms => ∃ p : Padding n, ms = [put p] := by
  have hskip : skip n = fetch (Padding n) >>= fun _ => pure () := by
    simp only [skip, fetch, bind_assoc, pure_bind]
    rfl
  rw [hskip]
  exact ((fetch_lays : Lays (fetch (Padding n)) _).map fun _ => ()).congr fun _ ms => by simp

/-! ### Parts, after each of which the chunk has to go on -/

/-- The bytes end inside one of the parts, and not right before it: all parts before it are there, and it has begun. -/
def EndsWithin (ps : List (List Bytes)) (buf : Bytes) : Prop :=
  ∃ pre ms post q, ps = pre ++ ms :: post ∧ EndsInside ms q ∧ q ≠ [] ∧ buf = pre.flatten.flatten ++ q

theorem EndsWithin.append_right {ps : List (List Bytes)} {buf : Bytes} (h : EndsWithin ps buf)
    (ps' : List (List Bytes)) : EndsWithin (ps ++ ps') buf := by
  obtain ⟨pre, ms, post, q, rfl, hin, hq, rfl⟩ := h
  exact ⟨pre, ms, post ++ ps', q, by simp, hin, hq, rfl⟩

theorem EndsWithin.append_left {ps : List (List Bytes)} {buf : Bytes} (h : EndsWithin ps buf)
    (ps' : List (List Bytes)) : EndsWithin (ps' ++ ps) (ps'.flatten.flatten ++ buf) := by
  obtain ⟨pre, ms, post, q, rfl, hin, hq, rfl⟩ := h
  exact ⟨ps' ++ pre, ms, post, q, by simp, hin, hq, by simp⟩

theorem endsWithin_append {ps ps' : List (List Bytes)} {buf : Bytes} :
    EndsWithin (ps ++ ps') buf ↔ EndsWithin ps buf ∨ ∃ q, buf = ps.flatten.flatten ++ q ∧ EndsWithin ps' q := by
  constructor
  · rintro ⟨pre, ms, post, q, hps, hin, hq, rfl⟩
    rcases split_append hps with ⟨post', h⟩ | ⟨pre', rfl, h⟩
    · exact .inl ⟨pre, ms, post', q, h, hin, hq, rfl⟩
    · exact .inr ⟨pre'.flatten.flatten ++ q, by simp, pre', ms, post, q, h, hin, hq, rfl⟩
  · rintro (h | ⟨q, rfl, h⟩)
    · exact h.append_right ps'
    · exact h.append_left ps

theorem EndsWithin.ne_nil {ps : List (List Bytes)} {buf : Bytes} (h : EndsWithin ps buf) : buf ≠ [] := by
  obtain ⟨pre, ms, post, q, -, -, hq, rfl⟩ := h
  exact List.append_ne_nil_of_right_ne_nil _ hq

theorem endsWithin_singleton {ms : List Bytes} {buf : Bytes} : EndsWithin [ms] buf ↔ buf ≠ [] ∧ EndsInside ms buf := by
  constructor
  · rintro ⟨pre, ms', post, q, h, hin, hq, rfl⟩
    cases pre with
    | nil =>
      obtain ⟨rfl, -⟩ := List.cons.inj h
      exact ⟨hq, hin⟩
    | cons z pre => exact absurd (List.cons.inj h).2.symm (List.append_ne_nil_of_right_ne_nil pre (List.cons_ne_nil _ _))
  · rintro ⟨hne, hin⟩
    exact ⟨[], ms, [], buf, rfl, hin, hne, rfl⟩

/-- The reader accepts a value from its parts, when something comes after them, and runs past the end of a chunk exactly
when the chunk ends within a part. -/
structure Steps (r : Reader α) (P : α → List (List Bytes) → Prop) : Prop where
  accepts : ∀ {buf a rest}, buf ≠ [] →
    (r buf = .ok (a, rest) ↔ ∃ ps, P a ps ∧ buf = ps.flatten.flatten ++ rest ∧ rest ≠ [])
  past : ∀ {buf}, buf ≠ [] → (r buf = .error pastEnd ↔ ∃ a ps, P a ps ∧ EndsWithin ps buf)
  some : ∃ a ps, P a ps

namespace Steps
variable {r : Reader α} {f : α → Reader β} {P : α → List (List Bytes) → Prop}
  {Q : α → β → List (List Bytes) → Prop}

theorem bind (hr : Steps r P) (hf : ∀ a, Steps (f a) (Q a)) :
    Steps (r >>= f) fun b ps => ∃ a ps₁ ps₂, P a ps₁ ∧ Q a b ps₂ ∧ ps = ps₁ ++ ps₂ where
  accepts {buf b rest} hne := by
    rw [bind_accepts]
    constructor
    · rintro ⟨a, mid, ha, hb⟩
      obtain ⟨ps₁, h₁, rfl, hmid⟩ := (hr.accepts hne).mp ha
      obtain ⟨ps₂, h₂, rfl, hrest⟩ := ((hf a).accepts hmid).mp hb
      exact ⟨_, ⟨a, ps₁, ps₂, h₁, h₂, rfl⟩, by simp, hrest⟩
    · rintro ⟨_, ⟨a, ps₁, ps₂, h₁, h₂, rfl⟩, rfl, hrest⟩
      have hmid : ps₂.flatten.flatten ++ rest ≠ [] := List.append_ne_nil_of_right_ne_nil _ hrest
      exact ⟨a, _, (hr.accepts hne).mpr ⟨ps₁, h₁, by simp, hmid⟩, ((hf a).accepts hmid).mpr ⟨ps₂, h₂, rfl, hrest⟩⟩
  past {buf} hne := by
    rw [bind_past]
    constructor
    · rintro (h | ⟨a, mid, ha, hb⟩)
      · obtain ⟨a, ps₁, h₁, hin⟩ := (hr.past hne).mp h
        obtain ⟨b, ps₂, h₂⟩ := (hf a).some
        exact ⟨b, _, ⟨a, ps₁, ps₂, h₁, h₂, rfl⟩, hin.append_right ps₂⟩
      · obtain ⟨ps₁, h₁, rfl, hmid⟩ := (hr.accepts hne).mp ha
        obtain ⟨b, ps₂, h₂, hin⟩ := ((hf a).past hmid).mp hb
        exact ⟨b, _, ⟨a, ps₁, ps₂, h₁, h₂, rfl⟩, hin.append_left ps₁⟩
    · rintro ⟨b, _, ⟨a, ps₁, ps₂, h₁, h₂, rfl⟩, hin⟩
      rcases endsWithin_append.mp hin with hin₁ | ⟨q, rfl, hin₂⟩
      · exact .inl ((hr.past hne).mpr ⟨a, ps₁, h₁, hin₁⟩)
      · have hq := hin₂.ne_nil
        exact .inr ⟨a, q, (hr.accepts hne).mpr ⟨ps₁, h₁, rfl, hq⟩, ((hf a).past hq).mpr ⟨b, ps₂, h₂, hin₂⟩⟩
  some := by
    obtain ⟨a, ps₁, h₁⟩ := hr.some
    obtain ⟨b, ps₂, h₂⟩ := (hf a).some
    exact ⟨b, _, a, ps₁, ps₂, h₁, h₂, rfl⟩

theorem pure (b : β) : Steps (pure b) fun b' ps => b' = b ∧ ps = [] where
  accepts {buf b' rest} hne := by
    constructor
    · intro h
      obtain ⟨rfl, rfl⟩ := Prod.mk.inj (Except.ok.inj h)
      exact ⟨[], ⟨rfl, rfl⟩, rfl, hne⟩
    · rintro ⟨_, ⟨rfl, rfl⟩, rfl, -⟩
      rfl
  past {buf} _ := by
    constructor
    · intro h
      cases h
    · rintro ⟨_, _, ⟨-, rfl⟩, pre, _, _, _, h, -⟩
      exact absurd h.symm (List.append_ne_nil_of_right_ne_nil pre (List.cons_ne_nil _ _))
  some := ⟨b, [], rfl, rfl⟩

theorem congr {P' : α → List (List Bytes) → Prop} (h : Steps r P) (hP : ∀ a ps, P a ps ↔ P' a ps) : Steps r P' := by
  have heq : P = P' := funext₂ fun a ps => propext (hP a ps)
  exact heq ▸ h

theorem map (g : α → β) (h : Steps r P) :
    Steps (r >>= fun a => Pure.pure (g a)) fun b ps => ∃ a, b = g a ∧ P a ps :=
  (h.bind fun a => Steps.pure (g a)).congr fun _ _ => laid_map

/-- A part, and the assertion that it was not the last one. -/
theorem part {E : α → List Bytes → Prop} {msg : String} (hr : Lays r E) (hmsg : msg ≠ pastEnd) :
    Steps (r >>= fun a => withinChunk msg >>= fun _ => Pure.pure a) fun a ps => ∃ ms, E a ms ∧ ps = [ms] where
  accepts {buf a rest} _ := by
    rw [bind_accepts]
    constructor
    · rintro ⟨b, mid, hb, h⟩
      obtain ⟨ms, hE, rfl⟩ := hr.accepts.mp hb
      obtain ⟨_, mid', hw, h⟩ := bind_accepts.mp h
      obtain ⟨rfl, rfl⟩ := Prod.mk.inj (Except.ok.inj h)
      rw [withinChunk] at hw
      split at hw
      · cases hw
      · next hne =>
        obtain ⟨-, rfl⟩ := Prod.mk.inj (Except.ok.inj hw)
        exact ⟨[ms], ⟨ms, hE, rfl⟩, by simp, hne⟩
    · rintro ⟨_, ⟨ms, hE, rfl⟩, rfl, hne⟩
      refine ⟨a, rest, hr.accepts.mpr ⟨ms, hE, by simp⟩, bind_accepts.mpr ⟨(), rest, if_neg hne, rfl⟩⟩
  past {buf} hne := by
    rw [bind_past]
    constructor
    · rintro (h | ⟨a, mid, -, h⟩)
      · obtain ⟨a, ms, hE, hin⟩ := hr.past.mp h
        exact ⟨a, _, ⟨ms, hE, rfl⟩, endsWithin_singleton.mpr ⟨hne, hin⟩⟩
      · rcases bind_past.mp h with h | ⟨_, _, -, h⟩
        · rw [withinChunk] at h
          split at h
          · exact absurd (Except.error.inj h) hmsg
          · cases h
        · cases h
    · rintro ⟨a, _, ⟨ms, hE, rfl⟩, hin⟩
      exact .inl (hr.past.mpr ⟨a, ms, hE, (endsWithin_singleton.mp hin).2⟩)
  some := by
    obtain ⟨a, ms, hE⟩ := hr.some
    exact ⟨a, _, ms, hE, rfl⟩

theorem next {E : α → List Bytes → Prop} {msg : String} (hr : Lays r E) (hmsg : msg ≠ pastEnd)
    (hf : ∀ a, Steps (f a) (Q a)) :
    Steps (r >>= fun a => withinChunk msg >>= fun _ => f a) fun b ps => ∃ a ms ps', E a ms ∧ Q a b ps' ∧ ps = ms :: ps' := by
  have h := (part hr hmsg).bind hf
  simp only [bind_assoc, pure_bind] at h
  refine h.congr fun b ps => ?_
  constructor
  · rintro ⟨a, _, ps', ⟨ms, hE, rfl⟩, hQ, rfl⟩
    exact ⟨a, ms, ps', hE, hQ, rfl⟩
  · rintro ⟨a, ms, ps', hE, hQ, rfl⟩
    exact ⟨a, _, ps', ⟨ms, hE, rfl⟩, hQ, rfl⟩

theorem times (h : Steps r P) (n : Nat) :
    Steps (times r n) fun xs ps => ∃ pss, List.Forall₂ P xs.val pss ∧ ps = pss.flatten := by
  induction n with
  | zero => exact (Steps.pure _).congr fun _ _ => laid_nil
  | succ n ih => exact (h.bind fun a => ih.map _).congr fun _ _ => laid_cons

/-- The last part, which nothing has to come after. -/
theorem last_accepts {F : α → β → List Bytes → Prop} (hr : Steps r P) (hf : ∀ a, Lays (f a) (F a))
    (hF : ∀ {a b ms}, F a b ms → ms.flatten ≠ []) {buf rest : Bytes} {b : β} (hne : buf ≠ []) :
    (r >>= f) buf = .ok (b, rest) ↔
      ∃ a ps ms, P a ps ∧ F a b ms ∧ buf = (ps ++ [ms]).flatten.flatten ++ rest := by
  rw [bind_accepts]
  constructor
  · rintro ⟨a, mid, ha, hb⟩
    obtain ⟨ps, hP, rfl, -⟩ := (hr.accepts hne).mp ha
    obtain ⟨ms, h, rfl⟩ := (hf a).accepts.mp hb
    exact ⟨a, ps, ms, hP, h, by simp⟩
  · rintro ⟨a, ps, ms, hP, h, rfl⟩
    have hmid : ms.flatten ++ rest ≠ [] := List.append_ne_nil_of_left_ne_nil (hF h) _
    exact ⟨a, _, (hr.accepts hne).mpr ⟨ps, hP, by simp, hmid⟩, (hf a).accepts.mpr ⟨ms, h, rfl⟩⟩

theorem last_past {F : α → β → List Bytes → Prop} (hr : Steps r P) (hf : ∀ a, Lays (f a) (F a)) {buf : Bytes}
    (hne : buf ≠ []) :
    (r >>= f) buf = .error pastEnd ↔ ∃ a b ps ms, P a ps ∧ F a b ms ∧ EndsWithin (ps ++ [ms]) buf := by
  rw [bind_past]
  constructor
  · rintro (h | ⟨a, mid, ha, hb⟩)
    · obtain ⟨a, ps, hP, hin⟩ := (hr.past hne).mp h
      obtain ⟨b, ms, h⟩ := (hf a).some
      exact ⟨a, b, ps, ms, hP, h, hin.append_right [ms]⟩
    · obtain ⟨ps, hP, rfl, hmid⟩ := (hr.accepts hne).mp ha
      obtain ⟨b, ms, h, hin⟩ := (hf a).past.mp hb
      exact ⟨a, b, ps, ms, hP, h, (endsWithin_singleton.mpr ⟨hmid, hin⟩).append_left ps⟩
  · rintro ⟨a, b, ps, ms, hP, h, hin⟩
    rcases endsWithin_append.mp hin with hin₁ | ⟨q, rfl, hin₂⟩
    · exact .inl ((hr.past hne).mpr ⟨a, ps, hP, hin₁⟩)
    · obtain ⟨hq, hin⟩ := endsWithin_singleton.mp hin₂
      exact .inr ⟨a, q, (hr.accepts hne).mpr ⟨ps, hP, rfl, hq⟩, (hf a).past.mpr ⟨b, ms, h, hin⟩⟩

end Steps

/-! ### Allocations -/

section Allocated
variable {r : Reader α} {size : Nat} {len : UInt32} {buf : Bytes} {refusal : String}

theorem allocated_held (h : len.toNat * size ≤ buf.length) :
    allocated (held refusal) size r len buf = allocated granted size r len buf := by
  rw [allocated_granted, allocated]
  split
  · exact bind_of_ok (if_pos h)
  · rfl

theorem allocated_refused (h : buf.length < len.toNat * size) :
    allocated (held refusal) size r len buf = .error refusal := by
  have hpos : 0 < len := by
    rw [UInt32.lt_iff_toNat_lt]
    exact Nat.pos_of_ne_zero fun h0 => by simp [h0] at h
  rw [allocated, if_pos hpos]
  exact bind_of_error (if_neg (Nat.not_le_of_lt h))

end Allocated

theorem bind_congr_at {r r' : Reader α} {f : α → Reader β} {buf : Bytes} (h : r buf = r' buf) :
    (r >>= f) buf = (r' >>= f) buf := by
  show (r buf >>= fun p => f p.1 p.2) = (r' buf >>= fun p => f p.1 p.2)
  rw [h]

/-- The reader that allocates only what the chunk can hold does what the other one does, other than before it runs past
the end. -/
def Watched (refusal : String) (rh r : Reader α) : Prop :=
  ∀ buf, rh buf = r buf ∨ rh buf = .error refusal ∧ r buf = .error pastEnd

namespace Watched
variable {refusal : String}

theorem refl (r : Reader α) : Watched refusal r r := fun _ => .inl rfl

theorem bind {rh r : Reader α} {fh f : α → Reader β} (hr : Watched refusal rh r)
    (hf : ∀ a, Watched refusal (fh a) (f a)) : Watched refusal (rh >>= fh) (r >>= f) := by
  intro buf
  rcases hr buf with h | ⟨hh, h⟩
  · cases hok : r buf with
    | error msg => exact .inl ((bind_of_error (h.trans hok)).trans (bind_of_error hok).symm)
    | ok p =>
      obtain ⟨a, mid⟩ := p
      rw [bind_of_ok (h.trans hok), bind_of_ok hok]
      exact hf a mid
  · exact .inr ⟨bind_of_error hh, bind_of_error h⟩

theorem allocated {r : Reader α} {size : Nat} (h : Takes r size) (len : UInt32) :
    Watched refusal (allocated (held refusal) size r len) (allocated granted size r len) := by
  intro buf
  rcases Nat.lt_or_ge buf.length (len.toNat * size) with hlt | hge
  · refine .inr ⟨allocated_refused hlt, ?_⟩
    rw [allocated_granted]
    exact (h.times _).past hlt
  · exact .inl (allocated_held hge)

theorem fetchAllocated {r : Reader α} {size : Nat} (h : Takes r size) :
    Watched refusal (fetchAllocated (held refusal) size r) (fetchAllocated granted size r) :=
  (refl _).bind fun len => (allocated h len).bind fun _ => refl _

end Watched

theorem whole_watched {rh r : Reader α} {refusal : String} {buf : Bytes}
    (h : rh buf = r buf ∨ rh buf = .error refusal ∧ r buf = .error pastEnd) (msg : String) :
    rh.whole msg buf = r.whole msg buf ∨ rh.whole msg buf = .error refusal ∧ r.whole msg buf = .error pastEnd := by
  rcases h with heq | ⟨hh, hr⟩
  · exact .inl (by rw [Reader.whole, Reader.whole, heq])
  · refine .inr ⟨?_, ?_⟩
    · rw [Reader.whole, hh]
      rfl
    · rw [Reader.whole, hr]
      rfl

section Safe
variable {decode decode' : Calloc → Bytes → Except String α} {Encodes : α → Bytes → Prop} {buf : Bytes}

theorem safe_congr (h : ∀ calloc, decode calloc buf = decode' calloc buf) :
    Safe decode Encodes buf ↔ Safe decode' Encodes buf := by
  constructor
  · rintro ⟨hinside, hheld, hexact⟩
    simp only [h] at hinside hheld hexact
    exact ⟨hinside, hheld, hexact⟩
  · rintro ⟨hinside, hheld, hexact⟩
    simp only [← h] at hinside hheld hexact
    exact ⟨hinside, hheld, hexact⟩

/-- A decoder that is watched and does not run past the end allocates only what the chunk can hold. -/
theorem safe_of_watched (h : ∀ refusal, decode (held refusal) buf = decode granted buf ∨
      decode (held refusal) buf = .error refusal ∧ decode granted buf = .error pastEnd)
    (hinside : decode granted buf ≠ .error pastEnd) (hexact : ∀ a, decode granted buf = .ok a → Encodes a buf) :
    Safe decode Encodes buf := by
  refine ⟨hinside, ?_, hexact⟩
  cases hbuf : decode granted buf with
  | ok a =>
    refine ⟨"", fun hn => ?_⟩
    rcases h "" with h | ⟨-, h⟩
    · rw [h, hbuf] at hn
      cases hn
    · exact hinside h
  | error msg =>
    refine ⟨msg ++ "!", fun hn => ?_⟩
    rcases h (msg ++ "!") with h | ⟨-, h⟩
    · rw [h, hbuf] at hn
      have hlen := congrArg String.length (Except.error.inj hn)
      simp at hlen
    · exact hinside h

theorem safe_of_rejected {msg : String} (hmsg : msg ≠ pastEnd) (h : ∀ calloc, decode calloc buf = .error msg) :
    Safe decode Encodes buf := by
  refine safe_of_watched (fun refusal => .inl ?_) ?_ fun a hok => ?_
  · rw [h, h]
  · rw [h]
    exact fun herr => hmsg (Except.error.inj herr)
  · rw [h] at hok
    cases hok

end Safe

end FlexRic.Plain
