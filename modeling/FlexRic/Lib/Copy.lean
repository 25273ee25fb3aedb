import FlexRic.Lib.Layout

/-! # Structures that are copied in one piece

Whatever their bytes are, there is a value that has them. -/

namespace FlexRic.Plain

variable {α β : Type}

/-- The reader takes `n` bytes, whatever they are. -/
structure Takes (r : Reader α) (n : Nat) : Prop where
  takes : ∀ {buf : Bytes}, n ≤ buf.length → ∃ a, r buf = .ok (a, buf.drop n)
  past : ∀ {buf : Bytes}, buf.length < n → r buf = .error pastEnd

namespace Takes
variable {r : Reader α} {f : α → Reader β} {n m : Nat}

theorem bind (hr : Takes r n) (hf : ∀ a, Takes (f a) m) : Takes (r >>= f) (n + m) where
  takes {buf} hn := by
    obtain ⟨a, ha⟩ := hr.takes (Nat.le_of_add_right_le hn)
    have hm : m ≤ (buf.drop n).length := by
      rw [List.length_drop]
      omega
    obtain ⟨b, hb⟩ := (hf a).takes hm
    exact ⟨b, by rw [bind_of_ok ha, hb, List.drop_drop]⟩
  past {buf} hlt := by
    rcases Nat.lt_or_ge buf.length n with h | h
    · exact bind_of_error (hr.past h)
    · obtain ⟨a, ha⟩ := hr.takes h
      rw [bind_of_ok ha]
      exact (hf a).past (by rw [List.length_drop]; omega)

theorem pure (b : β) : Takes (pure b) 0 where
  takes _ := ⟨b, rfl⟩
  past hlt := absurd hlt (Nat.not_lt_zero _)

theorem past_iff (h : Takes r n) {buf : Bytes} : r buf = .error pastEnd ↔ buf.length < n := by
  constructor
  · intro herr
    by_contra hge
    obtain ⟨a, hok⟩ := h.takes (Nat.le_of_not_lt hge)
    rw [herr] at hok
    cases hok
  · exact h.past

theorem times (h : Takes r n) (k : Nat) : Takes (times r k) (k * n) := by
  induction k with
  | zero =>
    rw [Nat.zero_mul]
    exact pure _
  | succ k ih =>
    rw [Nat.succ_mul, Nat.add_comm (k * n)]
    exact h.bind fun a => ih.bind fun xs => pure _

end Takes

theorem take_takes (n : Nat) : Takes (take n) n where
  takes {buf} hn := ⟨_, take_accepts.mpr ⟨List.length_take_of_le hn, (List.take_append_drop n buf).symm⟩⟩
  past hlt := take_past.mpr hlt

theorem skip_takes (n : Nat) : Takes (skip n) n := (take_takes n).bind fun _ => .pure ()

theorem fetch_takes [Scalar α] : Takes (fetch α) (sizeof α) := (take_takes _).bind fun _ => .pure _

/-- The reader copies `n` bytes, when they are there, and makes of them the value of `V` that has them. -/
structure Copies (r : Reader α) (V : α → Prop) (n : Nat) (enc : α → Bytes) : Prop where
  copy : ∀ {buf : Bytes}, n ≤ buf.length → ∃ a, V a ∧ enc a = buf.take n ∧ r buf = .ok (a, buf.drop n)
  past : ∀ {buf : Bytes}, buf.length < n → r buf = .error pastEnd
  reads : ∀ {a}, V a → Reads 0 r (enc a) a

namespace Copies

section
variable {r : Reader α} {V : α → Prop} {n : Nat} {enc enc' : α → Bytes} (h : Copies r V n enc)
include h

theorem toTakes : Takes r n := ⟨fun hn => (h.copy hn).imp fun _ ha => ha.2.2, h.past⟩

theorem length {a : α} (ha : V a) : (enc a).length = n := by
  have hr := h.reads ha [] (Nat.zero_le _)
  rw [List.append_nil] at hr
  rcases Nat.lt_or_ge (enc a).length n with hlt | hge
  · rw [h.past hlt] at hr
    cases hr
  · obtain ⟨b, -, -, hb⟩ := h.copy hge
    rw [hr, Except.ok.injEq, Prod.mk.injEq] at hb
    exact Nat.le_antisymm (List.drop_eq_nil_iff.mp hb.2.symm) hge

theorem accepts {buf rest : Bytes} {a : α} : r buf = .ok (a, rest) ↔ V a ∧ buf = enc a ++ rest := by
  constructor
  · intro hok
    rcases Nat.lt_or_ge buf.length n with hlt | hge
    · rw [h.past hlt] at hok
      cases hok
    · obtain ⟨b, hb, henc, hr⟩ := h.copy hge
      obtain ⟨rfl, rfl⟩ := Prod.mk.inj (Except.ok.inj (hr.symm.trans hok))
      refine ⟨hb, ?_⟩
      rw [henc, List.take_append_drop]
  · rintro ⟨ha, rfl⟩
    exact h.reads ha rest (Nat.zero_le _)

theorem of_eq {n' : Nat} (hn : n = n') (henc : ∀ a, V a → enc a = enc' a) : Copies r V n' enc' := by
  subst hn
  refine ⟨fun {buf} hn => ?_, h.past, fun {a} ha => henc a ha ▸ h.reads ha⟩
  obtain ⟨a, ha, hbs, hr⟩ := h.copy hn
  exact ⟨a, ha, henc a ha ▸ hbs, hr⟩

end

theorem pure {V : β → Prop} {b₀ : β} (hV : ∀ b, V b ↔ b = b₀) : Copies (pure b₀) V 0 fun _ => [] where
  copy {buf} _ := ⟨b₀, (hV b₀).mpr rfl, rfl, rfl⟩
  past {buf} hlt := absurd hlt (Nat.not_lt_zero _)
  reads {b} hb := by
    obtain rfl := (hV b).mp hb
    exact Reads.pure b

/-- `p` tells which value of the first reader a value of both comes from. -/
theorem bind {r : Reader α} {f : α → Reader β} {Va : α → Prop} {V : β → Prop} {n m : Nat} {ea : α → Bytes}
    {eb : β → Bytes} (p : β → α) (hr : Copies r Va n ea) (hf : ∀ a, Va a → Copies (f a) (fun b => V b ∧ p b = a) m eb)
    (hV : ∀ b, V b → Va (p b)) : Copies (r >>= f) V (n + m) fun b => ea (p b) ++ eb b where
  copy {buf} hn := by
    obtain ⟨a, ha, hea, hra⟩ := hr.copy (Nat.le_of_add_right_le hn)
    have hm : m ≤ (buf.drop n).length := by
      rw [List.length_drop]
      omega
    obtain ⟨b, ⟨hb, rfl⟩, heb, hrb⟩ := (hf a ha).copy hm
    refine ⟨b, hb, ?_, ?_⟩
    · rw [hea, heb, List.take_add]
    · rw [bind_of_ok hra, hrb, List.drop_drop]
  past {buf} hlt := by
    rcases Nat.lt_or_ge buf.length n with h | h
    · exact bind_of_error (hr.past h)
    · obtain ⟨a, ha, -, hra⟩ := hr.copy h
      rw [bind_of_ok hra]
      exact (hf a ha).past (by rw [List.length_drop]; omega)
  reads {b} hb := (hr.reads (hV b hb)).andThen ((hf _ (hV b hb)).reads ⟨hb, rfl⟩)

end Copies

section Scalars
variable [Scalar α] [Scalar.Full α]

theorem fetch_copies : Copies (fetch α) (fun _ => True) (sizeof α) put where
  copy {buf} hn := by
    have hlen : (buf.take (sizeof α)).length = sizeof α := List.length_take_of_le hn
    refine ⟨Scalar.ofNat (leNat (buf.take (sizeof α))), trivial, put_ofNat hlen, ?_⟩
    rw [fetch, bind_of_ok (take_accepts.mpr ⟨hlen, (List.take_append_drop _ _).symm⟩)]
    rfl
  past := fetch_takes.past
  reads _ := fetch_reads _

theorem Copies.scalar (p : β → α) {f : α → Reader β} {V : β → Prop} {n : Nat} {enc : β → Bytes}
    (hf : ∀ a, Copies (f a) (fun b => V b ∧ p b = a) n enc) :
    Copies (fetch α >>= f) V (sizeof α + n) fun b => put (p b) ++ enc b :=
  .bind p fetch_copies (fun a _ => hf a) fun _ _ => trivial

end Scalars

theorem Copies.times {r : Reader α} {n : Nat} {enc : α → Bytes} (h : Copies r (fun _ => True) n enc) (k : Nat) :
    Copies (times r k) (fun _ => True) (k * n) fun xs => xs.val.flatMap enc where
  copy {buf} hn := by
    induction k generalizing buf with
    | zero => exact ⟨⟨[], rfl⟩, trivial, by simp, by simp; rfl⟩
    | succ k ih =>
      rw [Nat.succ_mul] at hn
      have htail : k * n ≤ (buf.drop n).length := by
        rw [List.length_drop]
        omega
      obtain ⟨a, -, ha, hr⟩ := h.copy (Nat.le_of_add_left_le hn)
      obtain ⟨xs, -, hxs, hrs⟩ := ih htail
      refine ⟨⟨a :: xs.val, congrArg Nat.succ xs.property⟩, trivial, ?_, ?_⟩
      · rw [List.flatMap_cons, ha, hxs, ← List.take_add, Nat.succ_mul, Nat.add_comm]
      · rw [Plain.times, bind_of_ok hr, bind_of_ok hrs, List.drop_drop, Nat.add_comm n (k * n), ← Nat.succ_mul]
        rfl
  past := (h.toTakes.times k).past
  reads {xs} _ := times_reads_flatMap (fun a _ => h.reads trivial) xs.property

end FlexRic.Plain
