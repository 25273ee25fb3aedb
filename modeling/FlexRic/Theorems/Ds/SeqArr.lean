import Mathlib.Algebra.BigOperators.Group.List.Basic
import Mathlib.Algebra.Order.Ring.Nat
import Mathlib.Data.Int.Cast.Lemmas
import FlexRic.Ds.SeqArr

/-! # An array is the list of its elements

As long as the block that it shrinks into is large enough: `maybe_shrink` asks for `cap` bytes an element. -/

namespace FlexRic.Ds.SeqArr

variable {A : Allocator} {n : EltSize A} {arr : SeqArr} {l : List (List UInt8)} {s : Traced} {as : List Op}

/-! ### Elements of one size -/

section Uniform
variable {e : Nat}

theorem length_flatten_of (h : ∀ x ∈ l, x.length = e) : l.flatten.length = l.length * e := by
  rw [List.length_flatten, List.eq_replicate_of_mem (a := e) (l := l.map List.length) (by simpa using h),
    List.sum_replicate_nat, List.length_map]

theorem flatten_take_of (h : ∀ x ∈ l, x.length = e) {i : Nat} (hi : i ≤ l.length) :
    (l.take i).flatten = l.flatten.take (i * e) := by
  have hlen : (l.take i).flatten.length = i * e := by
    rw [length_flatten_of fun x hx => h x (List.mem_of_mem_take hx), List.length_take, Nat.min_eq_left hi]
  conv_rhs => rw [← List.take_append_drop i l, List.flatten_append]
  rw [List.take_left' hlen]

theorem flatten_drop_of (h : ∀ x ∈ l, x.length = e) {i : Nat} (hi : i ≤ l.length) :
    (l.drop i).flatten = l.flatten.drop (i * e) := by
  have hlen : (l.take i).flatten.length = i * e := by
    rw [length_flatten_of fun x hx => h x (List.mem_of_mem_take hx), List.length_take, Nat.min_eq_left hi]
  conv_rhs => rw [← List.take_append_drop i l, List.flatten_append]
  rw [List.drop_left' hlen]

end Uniform

/-! ### Occupation -/

theorem toFloat_two_pow {k : Nat} : toFloat (2 ^ k) = 2 ^ k := by
  have hd : 2 ^ (k - 23) ∣ 2 ^ k := pow_dvd_pow 2 (Nat.sub_le k 23)
  have hpos : 0 < 2 ^ (k - 23) := Nat.two_pow_pos _
  simp only [toFloat, Nat.log2_two_pow]
  rw [Nat.mod_eq_zero_of_dvd hd, if_neg (by omega), Nat.div_mul_cancel hd]

/-- Rounding takes away less than a half. -/
theorem le_toFloat (m : Nat) : m ≤ 2 * toFloat m := by
  rcases Nat.eq_zero_or_pos m with rfl | hm
  · exact Nat.zero_le _
  have hpos : 0 < 2 ^ (m.log2 - 23) := Nat.two_pow_pos _
  have hle : 2 ^ (m.log2 - 23) ≤ m :=
    (Nat.pow_le_pow_right Nat.two_pos (Nat.sub_le _ _)).trans (Nat.log2_self_le hm.ne')
  have hmod := Nat.mod_lt m hpos
  have hdiv := Nat.div_add_mod' m (2 ^ (m.log2 - 23))
  have hq : 2 ^ (m.log2 - 23) ≤ m / 2 ^ (m.log2 - 23) * 2 ^ (m.log2 - 23) :=
    Nat.le_mul_of_pos_left _ (Nat.div_pos hle hpos)
  simp only [toFloat]
  split
  · rw [Nat.add_mul]
    omega
  · omega

/-! ### What an array keeps -/

/-- The array has the elements. -/
structure Holds (arr : SeqArr) (l : List (List UInt8)) : Prop where
  cap : ∃ k, 3 ≤ k ∧ arr.cap = 2 ^ k
  size : arr.size = l.length
  room : l.length < arr.cap
  elts : ∀ x ∈ l, x.length = arr.eltSize
  block : arr.cap * arr.eltSize ≤ arr.data.length
  bounded : arr.data.length < 9223372036854775808
  data : arr.data.take (l.length * arr.eltSize) = l.flatten

theorem Sparse.lt (h : arr.Sparse) (hc : ∃ k, 3 ≤ k ∧ arr.cap = 2 ^ k) :
    minSize < arr.cap ∧ arr.size < arr.cap / 2 ∧ ∃ k, 3 ≤ k ∧ arr.cap / 2 = 2 ^ k := by
  obtain ⟨hmin, hocc⟩ := h
  obtain ⟨k, hk, hcap⟩ := hc
  have hf := le_toFloat arr.size
  rw [hcap, toFloat_two_pow] at hocc
  have hmin' : 8 < arr.size := hmin
  have hlt : arr.size < arr.cap / 2 := by
    have heven : 2 ^ k = 2 * 2 ^ (k - 1) := by rw [← Nat.pow_succ']; congr 1; omega
    omega
  refine ⟨by unfold minSize; omega, hlt, k - 1, ?_, ?_⟩
  · refine Nat.le_sub_of_add_le (Nat.lt_of_le_of_ne hk fun h => ?_)
    rw [hcap, ← h] at hlt
    omega
  · rw [hcap, ← Nat.pow_div (by omega) Nat.two_pos, Nat.pow_one]

/-- What comes out is as required, unless the memory is exhausted. -/
inductive Yields (P : SeqArr → Prop) : Outcome SeqArr → Prop
  | next {arr : SeqArr} : P arr → Yields P (.next arr)
  | exhausted {msg : String} : msg ∈ exhausted → Yields P (.abort msg)

namespace Yields
variable {P Q : SeqArr → Prop} {x : Outcome SeqArr} {f : SeqArr → Outcome SeqArr}

theorem bind (h : Yields P x) (hf : ∀ arr, P arr → Yields Q (f arr)) : Yields Q (x >>= f) := by
  cases h with
  | next hp => exact hf _ hp
  | exhausted hm => exact .exhausted hm

theorem of_gives {m : Nat} {msg : String} {y : Outcome SeqArr} (hm : msg ∈ SeqArr.exhausted)
    (hy : A.gives m = true → Yields Q y) : Yields Q (Outcome.check (A.gives m = true) msg >>= fun _ => y) := by
  by_cases hg : A.gives m = true
  · rw [Outcome.check_of hg]
    exact hy hg
  · rw [Outcome.check, if_neg hg]
    exact .exhausted hm

end Yields

namespace Holds

theorem init (n : EltSize A) : (SeqArr.init n).Holds [] where
  cap := ⟨3, Nat.le_refl 3, rfl⟩
  size := rfl
  room := Nat.zero_lt_succ _
  elts x hx := by cases hx
  block := by simp [SeqArr.init]
  bounded := by simpa [SeqArr.init] using A.bounded _ n.2
  data := by simp

/-- A number of elements that are there has its bytes in the block. -/
theorem bytes_le (h : arr.Holds l) {i : Nat} (hi : i ≤ l.length) : i * arr.eltSize ≤ arr.data.length :=
  (Nat.mul_le_mul_right _ (hi.trans h.room.le)).trans h.block

theorem sizeT_bytes (h : arr.Holds l) {i : Nat} (hi : i ≤ l.length) : sizeT (i * arr.eltSize) = i * arr.eltSize := by
  have hle := h.bytes_le hi
  have hb := h.bounded
  rw [← Nat.cast_mul, sizeT_of_lt (by omega)]

theorem end_eq (h : arr.Holds l) : arr.end_ = l.length * arr.eltSize := by
  rw [end_, h.size, h.sizeT_bytes (Nat.le_refl _)]

/-- Where the element at `i` is. -/
theorem at_eq (h : arr.Holds l) {i : Nat} (hi : i < l.length) : arr.at_ i = .next l[i] := by
  have hle := h.bytes_le (Nat.succ_le_of_lt hi)
  rw [Nat.succ_mul] at hle
  have hget : (arr.data.drop (i * arr.eltSize)).take arr.eltSize = l[i] := by
    have hone : (l.drop i).take 1 = [l[i]] := by rw [List.drop_eq_getElem_cons hi]; rfl
    have hflat := flatten_take_of (fun x hx => h.elts x (List.mem_of_mem_drop hx)) (i := 1) (l := l.drop i)
      (by rw [List.length_drop]; omega)
    rw [hone, List.flatten_singleton, Nat.one_mul, flatten_drop_of h.elts hi.le, ← h.data] at hflat
    rw [hflat, List.drop_take, List.take_take, ← Nat.sub_mul]
    congr 1
    exact (Nat.min_eq_left (Nat.le_mul_of_pos_left _ (by omega))).symm
  rw [at_, Outcome.check_of (h.size ▸ hi), Outcome.next_bind, h.sizeT_bytes hi.le, Block.read_of_le hle, hget]

theorem maybeExpand (h : arr.Holds l) :
    Yields (fun arr' => arr'.Holds l ∧ l.length + 1 < arr'.cap ∧ arr'.eltSize = arr.eltSize) (arr.maybeExpand A) := by
  have hroom := h.room
  have hsize := h.size
  unfold SeqArr.maybeExpand
  split
  · next hfull =>
    have hb := h.bounded
    have hblock := h.block
    have hbytes : sizeT (2 * arr.cap * arr.eltSize) = 2 * (arr.cap * arr.eltSize) := by
      rw [← Nat.mul_assoc]
      exact sizeT_of_lt (n := 2 * arr.cap * arr.eltSize) (by rw [Nat.mul_assoc]; omega)
    refine Yields.of_gives (by decide) fun hg => .next ⟨?_, by dsimp only; omega, rfl⟩
    rw [hbytes] at hg ⊢
    refine ⟨?_, hsize, by dsimp only; omega, h.elts, ?_, ?_, ?_⟩
    · obtain ⟨k, hk, hc⟩ := h.cap
      exact ⟨k + 1, by omega, by rw [hc, Nat.pow_succ]⟩
    · rw [Block.length_resize]
      dsimp only
      rw [Nat.mul_comm arr.cap 2, Nat.mul_assoc]
    · rw [Block.length_resize]
      exact A.bounded _ hg
    · rw [Block.take_resize 0 (h.bytes_le (Nat.le_refl _)), h.data]
      exact (Nat.mul_le_mul_right _ hroom.le).trans (by omega)
  · exact .next ⟨h, by omega, rfl⟩

theorem cap_le (h : arr.Holds l) (he : 0 < arr.eltSize) : arr.cap < 9223372036854775808 :=
  ((Nat.le_mul_of_pos_right _ he).trans h.block).trans_lt h.bounded

theorem pushBack (h : arr.Holds l) (he : 0 < arr.eltSize) {x : List UInt8} (hx : x.length = arr.eltSize) :
    Yields (fun arr' => arr'.Holds (l ++ [x]) ∧ arr'.eltSize = arr.eltSize) (arr.pushBack A x) := by
  rw [SeqArr.pushBack, Outcome.check_of hx, Outcome.next_bind]
  refine h.maybeExpand.bind ?_
  rintro arr ⟨h, hroom, helt⟩
  rw [← helt] at hx he ⊢
  have hrow : (l.length + 1) * arr.eltSize = l.length * arr.eltSize + x.length := by rw [hx, Nat.succ_mul]
  have hle : l.length * arr.eltSize + x.length ≤ arr.data.length := by
    rw [← hrow]
    exact (Nat.mul_le_mul_right _ h.room).trans h.block
  have hsize : sizeT ((l.length : Int) + 1) = l.length + 1 := by
    have hcap := h.cap_le he
    exact sizeT_of_lt (n := l.length + 1) (by omega)
  dsimp only
  rw [h.size, h.sizeT_bytes (Nat.le_refl _), Block.write_of_le hle]
  refine .next ⟨⟨h.cap, ?_, ?_, ?_, ?_, ?_, ?_⟩, rfl⟩
  · simpa using hsize
  · simpa using hroom
  · intro y hy
    rcases List.mem_append.mp hy with hy | hy
    · exact h.elts y hy
    · rw [List.mem_singleton.mp hy]
      exact hx
  · dsimp only
    rw [Block.length_written hle]
    exact h.block
  · dsimp only
    rw [Block.length_written hle]
    exact h.bounded
  · dsimp only
    rw [List.length_append, List.length_singleton, hrow, Block.take_written hle, h.data, List.flatten_append,
      List.flatten_singleton]

theorem maybeShrink (h : arr.Holds l) (hfits : arr.Sparse → arr.eltSize ≤ arr.cap / 2) :
    Yields (fun arr' => arr'.Holds l ∧ arr'.eltSize = arr.eltSize) (arr.maybeShrink A) := by
  unfold SeqArr.maybeShrink
  split
  · next hs =>
    obtain ⟨hmin, hlt, hcap⟩ := hs.lt h.cap
    have hsize := h.size
    rw [Outcome.check_of hmin, Outcome.next_bind]
    refine Yields.of_gives (by decide) fun hg => ?_
    have hrow : arr.cap / 2 * arr.eltSize ≤ arr.cap / 2 * (arr.cap / 2) := Nat.mul_le_mul_left _ (hfits hs)
    have hbytes := h.bytes_le (Nat.le_refl _)
    have htake : ((arr.data.drop 0).take (l.length * arr.eltSize)) = l.flatten := h.data
    have hlen : l.flatten.length = l.length * arr.eltSize := length_flatten_of h.elts
    have hle : 0 + l.flatten.length ≤ (List.replicate (arr.cap / 2 * (arr.cap / 2)) (0 : UInt8)).length := by
      rw [Nat.zero_add, hlen, List.length_replicate]
      exact (Nat.mul_le_mul_right _ (by omega)).trans hrow
    dsimp only
    rw [Outcome.check_of hlt.le, Outcome.next_bind, hsize, h.sizeT_bytes (Nat.le_refl _),
      Block.read_of_le (by rwa [Nat.zero_add]), Outcome.next_bind, htake, Block.write_of_le hle]
    refine .next ⟨⟨hcap, rfl, by dsimp only; omega, h.elts, ?_, ?_, ?_⟩, rfl⟩
    · dsimp only
      rw [Block.length_written hle, List.length_replicate]
      exact hrow
    · dsimp only
      rw [Block.length_written hle, List.length_replicate]
      exact A.bounded _ hg
    · have hwritten := Block.take_written hle
      rw [Nat.zero_add, List.take_zero, List.nil_append] at hwritten
      dsimp only
      rw [← hlen, Nat.zero_add]
      exact hwritten
  · exact .next ⟨h, rfl⟩

/-- What is asked of the erasure of the elements from `i` on and before `j`: the numbers of bytes fit into an `int`,
and the block that it may shrink into has room. -/
structure Erasable (arr : SeqArr) (i j : Nat) : Prop where
  moved : (arr.size - j) * arr.eltSize < 2147483648
  erased : (j - i) * arr.eltSize < 2147483648
  shrunk : Sparse { arr with size := arr.size - (j - i) } → arr.eltSize ≤ arr.cap / 2

/-- The elements from `j` on are moved to where those from `i` on were. -/
theorem move (h : arr.Holds l) {i j : Nat} (hij : i ≤ j) (hj : j ≤ l.length) {moved : List UInt8}
    (hm : moved = (arr.data.drop (j * arr.eltSize)).take ((l.length - j) * arr.eltSize))
    (hle : i * arr.eltSize + moved.length ≤ arr.data.length) :
    Holds
      { arr with
        data := arr.data.take (i * arr.eltSize) ++ (moved ++ arr.data.drop (i * arr.eltSize + moved.length))
        size := l.length - (j - i) }
      (l.take i ++ l.drop j) where
  cap := h.cap
  size := by
    dsimp only
    rw [List.length_append, List.length_take, List.length_drop]
    omega
  room := by
    have hroom := h.room
    rw [List.length_append, List.length_take, List.length_drop]
    dsimp only
    omega
  elts x hx := by
    rcases List.mem_append.mp hx with hx | hx
    · exact h.elts x (List.mem_of_mem_take hx)
    · exact h.elts x (List.mem_of_mem_drop hx)
  block := by
    dsimp only
    rw [Block.length_written hle]
    exact h.block
  bounded := by
    dsimp only
    rw [Block.length_written hle]
    exact h.bounded
  data := by
    have hrest : moved = (l.drop j).flatten := by
      rw [hm, flatten_drop_of h.elts hj, ← h.data, List.drop_take, ← Nat.sub_mul]
    have hlen : moved.length = (l.length - j) * arr.eltSize := by
      rw [hrest, length_flatten_of fun x hx => h.elts x (List.mem_of_mem_drop hx), List.length_drop]
    have hrow : (l.take i ++ l.drop j).length * arr.eltSize = i * arr.eltSize + moved.length := by
      rw [hlen, ← Nat.add_mul, List.length_append, List.length_take, List.length_drop, Nat.min_eq_left (hij.trans hj)]
    have hfirst : arr.data.take (i * arr.eltSize) = (l.take i).flatten := by
      rw [flatten_take_of h.elts (hij.trans hj), ← h.data, List.take_take,
        Nat.min_eq_left (Nat.mul_le_mul_right _ (hij.trans hj))]
    dsimp only
    rw [hrow, Block.take_written hle, hfirst, hrest, List.flatten_append]

/-- What is behind the elements may be written. -/
theorem writeBehind (h : arr.Holds l) {src : List UInt8} (hle : arr.end_ + src.length ≤ arr.data.length) :
    Holds { arr with data := arr.data.take arr.end_ ++ (src ++ arr.data.drop (arr.end_ + src.length)) } l where
  cap := h.cap
  size := h.size
  room := h.room
  elts := h.elts
  block := by
    dsimp only
    rw [Block.length_written hle]
    exact h.block
  bounded := by
    dsimp only
    rw [Block.length_written hle]
    exact h.bounded
  data := by
    dsimp only
    rw [Block.take_written_of_le hle h.end_eq.ge, h.data]

/-- The erasure up to `maybe_shrink`: the block has the elements that are left. -/
theorem erase_eq (h : arr.Holds l) (he : 0 < arr.eltSize) {i j : Nat} (hlt : i < j) (hj : j ≤ l.length)
    (hmoved : (l.length - j) * arr.eltSize < 2147483648) (herased : (j - i) * arr.eltSize < 2147483648) :
    ∃ data, arr.erase A (i * arr.eltSize) (j * arr.eltSize) =
        SeqArr.maybeShrink A { arr with data, size := l.length - (j - i) } ∧
      Holds { arr with data, size := l.length - (j - i) } (l.take i ++ l.drop j) := by
  have hij := hlt.le
  have hne : i * arr.eltSize ≠ j * arr.eltSize := fun heq => hlt.ne (Nat.eq_of_mul_eq_mul_right he heq)
  have hrow : i * arr.eltSize + (j - i) * arr.eltSize = j * arr.eltSize := by
    rw [← Nat.add_mul, Nat.add_sub_cancel' hij]
  have hrow' : j * arr.eltSize + (l.length - j) * arr.eltSize = l.length * arr.eltSize := by
    rw [← Nat.add_mul, Nat.add_sub_cancel' hj]
  have hmove : int32 ((arr.end_ : Int) - (j * arr.eltSize : Nat)) = ((l.length - j) * arr.eltSize : Nat) := by
    rw [h.end_eq, ← hrow', Nat.cast_add, add_sub_cancel_left]
    exact int32_of_lt hmoved
  have herase : int32 (((j * arr.eltSize : Nat) : Int) - (i * arr.eltSize : Nat)) = ((j - i) * arr.eltSize : Nat) := by
    rw [← hrow, Nat.cast_add, add_sub_cancel_left]
    exact int32_of_lt herased
  have hcount : int32 (((j - i) * arr.eltSize : Nat) / (arr.eltSize : Int)) = (j - i : Nat) := by
    rw [← Int.natCast_div, Nat.mul_div_cancel _ he]
    exact int32_of_lt ((Nat.le_mul_of_pos_right _ he).trans_lt herased)
  have hcap := h.cap_le he
  have hroom := h.room
  have hsize : sizeT ((arr.size : Int) - (j - i : Nat)) = l.length - (j - i) := by
    rw [h.size, ← Nat.cast_sub (by omega)]
    exact sizeT_of_lt (by omega)
  have hlen : ((arr.data.drop (j * arr.eltSize)).take ((l.length - j) * arr.eltSize)).length =
      (l.length - j) * arr.eltSize := by
    have hbytes := h.bytes_le (Nat.le_refl _)
    rw [List.length_take, List.length_drop]
    omega
  have hread := h.bytes_le (Nat.le_refl _)
  have hfit : i * arr.eltSize + ((arr.data.drop (j * arr.eltSize)).take ((l.length - j) * arr.eltSize)).length ≤
      arr.data.length := by omega
  have hmoves := h.move hij hj rfl hfit
  have hleft : (l.take i ++ l.drop j).length + (j - i) = l.length := by
    rw [List.length_append, List.length_take, List.length_drop]
    omega
  have hrest : (l.take i ++ l.drop j).length * arr.eltSize + (j - i) * arr.eltSize = l.length * arr.eltSize := by
    rw [← Nat.add_mul, hleft]
  rw [SeqArr.erase, if_neg hne, Outcome.check_of (Nat.mul_le_mul_right _ hij), Outcome.next_bind]
  dsimp only
  rw [hmove, Outcome.check_of (by omega), Outcome.next_bind, sizeT_of_lt (by omega), Block.read_of_le (by omega),
    Outcome.next_bind, Block.write_of_le hfit, Outcome.next_bind, herase, sizeT_of_lt (by omega), hcount,
    Outcome.check_of (by omega), Outcome.next_bind, hsize]
  -- From here on the block after the move matters only by its length and its elements.
  have hdata := Block.length_written hfit
  generalize arr.data.take (i * arr.eltSize) ++ (_ ++ _) = data at hmoves hdata ⊢
  have hzero : end_ ⟨data, l.length - (j - i), arr.eltSize, arr.cap⟩ +
      (List.replicate ((j - i) * arr.eltSize) (0 : UInt8)).length ≤ data.length := by
    rw [hmoves.end_eq, List.length_replicate, hdata, hrest]
    exact hread
  rw [Block.write_of_le hzero, Outcome.next_bind]
  exact ⟨_, rfl, hmoves.writeBehind hzero⟩

theorem erase (h : arr.Holds l) (he : 0 < arr.eltSize) {i j : Nat} (hij : i ≤ j) (hj : j ≤ l.length)
    (hfits : i < j → Erasable arr i j) :
    Yields (fun arr' => arr'.Holds (l.take i ++ l.drop j) ∧ arr'.eltSize = arr.eltSize)
      (arr.erase A (i * arr.eltSize) (j * arr.eltSize)) := by
  rcases Nat.eq_or_lt_of_le hij with rfl | hlt
  · rw [SeqArr.erase, if_pos rfl, List.take_append_drop]
    exact .next ⟨h, rfl⟩
  obtain ⟨hmoved, herased, hshrunk⟩ := hfits hlt
  rw [h.size] at hmoved hshrunk
  obtain ⟨data, heq, hleft⟩ := h.erase_eq (A := A) he hlt hj hmoved herased
  rw [heq]
  exact hleft.maybeShrink hshrunk

end Holds

/-! ### Steps and runs -/

/-- What is asked of an operation, in the state where its turn comes. -/
def Fits (s : Traced) : Op → Prop
  | .push _ => 0 < s.arr.eltSize
  | .erase i j => 0 < s.arr.eltSize ∧ (i < j → Holds.Erasable s.arr i j)

instance (i j : Nat) : Decidable (Holds.Erasable arr i j) :=
  decidable_of_iff ((arr.size - j) * arr.eltSize < 2147483648 ∧ (j - i) * arr.eltSize < 2147483648 ∧
    (Sparse { arr with size := arr.size - (j - i) } → arr.eltSize ≤ arr.cap / 2))
    ⟨fun h => ⟨h.1, h.2.1, h.2.2⟩, fun h => ⟨h.moved, h.erased, h.shrunk⟩⟩

instance (s : Traced) : ∀ op, Decidable (Fits s op)
  | .push _ => inferInstanceAs (Decidable (0 < s.arr.eltSize))
  | .erase _ _ => inferInstanceAs (Decidable (_ ∧ (_ → _)))

/-- The array is the list in its block, and no operation that fits it leaves the block. -/
structure Law (A : Allocator) (s : Traced) : Prop where
  block : s.arr.cap * s.arr.eltSize ≤ s.arr.data.length
  size_le : s.arr.size ≤ s.arr.cap
  size : s.arr.size = s.live.length
  contents : ∀ i (hi : i < s.live.length), s.arr.at_ i = .next s.live[i]
  inside : ∀ op msg, Fits s op → s.step A op = .abort msg → msg ∈ exhausted

theorem Holds.step {op : Op} (h : s.arr.Holds s.live) (hf : Fits s op) :
    (∀ msg, s.step A op = .abort msg → msg ∈ exhausted) ∧ ∀ t, s.step A op = .next t → t.arr.Holds t.live := by
  have key : ∀ (x : Outcome SeqArr) (l : List (List UInt8)),
      Yields (fun arr' => arr'.Holds l ∧ arr'.eltSize = s.arr.eltSize) x →
      (∀ msg, (x >>= fun arr => pure (⟨arr, l⟩ : Traced)) = .abort msg → msg ∈ exhausted) ∧
      ∀ t, (x >>= fun arr => pure (⟨arr, l⟩ : Traced)) = .next t → t.arr.Holds t.live := by
    intro x l hx
    cases hx with
    | next hp =>
      constructor
      · rintro msg ⟨⟩
      · rintro t ⟨⟩
        exact hp.1
    | exhausted hm =>
      constructor
      · rintro msg ⟨⟩
        exact hm
      · rintro t ⟨⟩
  cases op with
  | push x =>
    by_cases hx : x.length = s.arr.eltSize
    · rw [Traced.step, Outcome.await_of hx, Outcome.next_bind]
      exact key _ _ (h.pushBack hf hx)
    · rw [Traced.step, Outcome.await, if_neg hx]
      constructor <;> rintro _ ⟨⟩
  | erase i j =>
    by_cases hr : i ≤ j ∧ j ≤ s.live.length
    · rw [Traced.step, Outcome.await_of hr, Outcome.next_bind]
      exact key _ _ (h.erase hf.1 hr.1 hr.2 hf.2)
    · rw [Traced.step, Outcome.await, if_neg hr]
      constructor <;> rintro _ ⟨⟩

theorem holds_of_run (h : (seqArr A n).Run Fits as s) : s.arr.Holds s.live :=
  h.invariant (I := fun s => s.arr.Holds s.live) (Holds.init n) fun _ _ t hh hf hs => (hh.step hf).2 t hs

theorem arrayLaw_of_run (h : (seqArr A n).Run Fits as s) : Law A s := by
  have hh := holds_of_run h
  exact ⟨hh.block, hh.size ▸ hh.room.le, hh.size, fun i hi => hh.at_eq hi, fun op msg hf => (hh.step hf).1 msg⟩

/-- An allocator that gives every block that there can be. -/
def plenty : Allocator := ⟨fun m => m < 9223372036854775808, by simp⟩

/-- Thirty-two elements, of which the first seventeen are erased: fifteen of sixty-four are less than a quarter. -/
def filledAndErased (x : List UInt8) : List Op := List.replicate 32 (.push x) ++ [.erase 0 17]

theorem arrayLaw_of_run_shrunk : ∃ s, (seqArr plenty ⟨2, by decide⟩).Run Fits (filledAndErased [1, 2]) s ∧
    s.arr.cap = 32 ∧ s.live = List.replicate 15 [1, 2] ∧ Law plenty s := by
  have h : (((seqArr plenty ⟨2, by decide⟩).exec Fits (seqArr plenty ⟨2, by decide⟩).init
      (filledAndErased [1, 2])).passes fun s => s.arr.cap == 32 && s.live == List.replicate 15 [1, 2]) = true := by
    decide +kernel
  obtain ⟨s, hr, hs⟩ := System.exists_run_of_exec h
  obtain ⟨hcap, hlive⟩ := Bool.and_eq_true_iff.mp hs
  exact ⟨s, hr, beq_iff_eq.mp hcap, beq_iff_eq.mp hlive, arrayLaw_of_run hr⟩

namespace Holds

/-- A push for which there is memory takes place, and doubles a block that is full. -/
theorem pushBack_next (h : arr.Holds l) (he : 0 < arr.eltSize) {x : List UInt8} (hx : x.length = arr.eltSize)
    (hg : A.gives (sizeT (2 * arr.cap * arr.eltSize)) = true) : ∃ arr', arr.pushBack A x = .next arr' ∧
      arr'.Holds (l ++ [x]) ∧ arr'.eltSize = arr.eltSize ∧
      (arr'.cap = arr.cap ∨ arr.size + 1 = arr.cap ∧ arr'.cap = arr.cap * 2) := by
  have hy := h.pushBack (A := A) he hx
  have hexp : ∃ arr₁, arr.maybeExpand A = .next arr₁ ∧ (arr₁.cap = arr.cap ∨ arr.size + 1 = arr.cap ∧ arr₁.cap = arr.cap * 2) := by
    unfold SeqArr.maybeExpand
    split
    · next hfull =>
      dsimp only
      rw [Outcome.check_of hg]
      exact ⟨_, rfl, .inr ⟨hfull, rfl⟩⟩
    · exact ⟨_, rfl, .inl rfl⟩
  obtain ⟨arr₁, hexp, hcap⟩ := hexp
  rw [SeqArr.pushBack, Outcome.check_of hx, Outcome.next_bind, hexp, Outcome.next_bind] at hy ⊢
  dsimp only at hy ⊢
  cases hw : Block.write arr₁.data (sizeT (arr₁.size * arr₁.eltSize)) x with
  | next data =>
    rw [hw] at hy
    cases hy with
    | next hp => exact ⟨_, rfl, hp.1, hp.2, hcap⟩
  | abort msg =>
    -- It is the memory outside of the block that a write asks for, and not memory that is exhausted.
    have hmsg : msg = Block.outside := by
      unfold Block.write at hw
      split at hw
      · cases hw
      · exact (Outcome.abort.inj hw).symm
    rw [hw] at hy
    cases hy with
    | exhausted hm => exact absurd (hmsg ▸ hm) (by decide)
  | blocked =>
    rw [hw] at hy
    cases hy

/-- Elements that are too large leave the block that the array shrinks into. -/
theorem maybeShrink_outside (h : arr.Holds l) (hs : arr.Sparse) (hg : A.gives (arr.cap / 2 * (arr.cap / 2)) = true)
    (hlarge : arr.cap / 2 * (arr.cap / 2) < l.length * arr.eltSize) : arr.maybeShrink A = .abort Block.outside := by
  obtain ⟨hmin, hlt, -⟩ := hs.lt h.cap
  have hbytes := h.bytes_le (Nat.le_refl _)
  have hlen : ((arr.data.drop 0).take (l.length * arr.eltSize)).length = l.length * arr.eltSize := by
    rw [List.drop_zero, List.length_take, Nat.min_eq_left hbytes]
  rw [SeqArr.maybeShrink, if_pos hs, Outcome.check_of hmin, Outcome.next_bind]
  dsimp only
  rw [Outcome.check_of hg, Outcome.next_bind, Outcome.check_of hlt.le, Outcome.next_bind, h.size,
    h.sizeT_bytes (Nat.le_refl _), Block.read_of_le (by rwa [Nat.zero_add]), Outcome.next_bind, Block.write,
    if_neg (by rw [hlen, List.length_replicate]; omega)]
  rfl

end Holds

/-- Up to 32 elements of 72 bytes, in a block that is doubled no more than it has to be -/
theorem run_pushes {x : List UInt8} (hx : x.length = 72) {k : Nat} (hk : k ≤ 32) :
    ∃ s, (seqArr plenty ⟨72, by decide⟩).Run System.Any (List.replicate k (.push x)) s ∧ s.arr.Holds s.live ∧
      s.live.length = k ∧ s.arr.eltSize = 72 ∧ (s.arr.cap = 8 ∨ s.arr.cap ≤ 2 * k) := by
  induction k with
  | zero => exact ⟨_, .nil, Holds.init _, rfl, rfl, .inl rfl⟩
  | succ k ih =>
    obtain ⟨s, hr, hh, hlen, helt, hcap⟩ := ih (Nat.le_of_succ_le hk)
    have hpos : 0 < s.arr.eltSize := by omega
    have hg : plenty.gives (sizeT (2 * s.arr.cap * s.arr.eltSize)) = true := by
      have hb : 2 * s.arr.cap * s.arr.eltSize < 9223372036854775808 := by rw [helt]; omega
      exact decide_eq_true ((sizeT_of_lt (n := 2 * s.arr.cap * s.arr.eltSize) (by omega)).trans_lt hb)
    obtain ⟨arr', hpush, hh', helt', hcap'⟩ := hh.pushBack_next hpos (hx.trans helt.symm) hg
    refine ⟨⟨arr', s.live ++ [x]⟩, ?_, hh', by rw [List.length_append, hlen]; rfl, helt'.trans helt, ?_⟩
    · rw [List.replicate_succ']
      refine hr.snoc trivial ?_
      show s.step plenty (.push x) = _
      rw [Traced.step, Outcome.await_of (hx.trans helt.symm), Outcome.next_bind, hpush]
      rfl
    · have hsize := hh.size
      dsimp only
      omega

/-- With elements of `72` bytes the fifteen that are left do not fit into the block of `32 * 32` bytes. -/
theorem shrink_leaves_block : ∃ s, (seqArr plenty ⟨72, by decide⟩).Run System.Any
    (List.replicate 32 (.push (List.replicate 72 0))) s ∧ s.step plenty (.erase 0 17) = .abort Block.outside := by
  obtain ⟨s, hr, hh, hlen, helt, hcap⟩ := run_pushes (x := List.replicate 72 0) List.length_replicate (Nat.le_refl 32)
  have hfull : s.arr.cap = 64 := by
    obtain ⟨k, -, hk⟩ := hh.cap
    have hroom := hh.room
    have hlow : 2 ^ 5 < 2 ^ k := by omega
    have hhigh : 2 ^ k ≤ 2 ^ 6 := by omega
    have hk' : k = 6 := Nat.le_antisymm ((Nat.pow_le_pow_iff_right (by decide)).mp hhigh)
      ((Nat.pow_lt_pow_iff_right (by decide)).mp hlow)
    rw [hk, hk']
    rfl
  obtain ⟨data, heq, hleft⟩ := hh.erase_eq (A := plenty) (i := 0) (j := 17) (by omega) (by decide) (by omega)
    (by rw [hlen, helt]; decide) (by rw [helt]; decide)
  have hsparse : Sparse { s.arr with data, size := s.live.length - (17 - 0) } := by
    rw [Sparse, hlen, hfull]
    dsimp only
    decide +kernel
  have hshrink := hleft.maybeShrink_outside (A := plenty) hsparse (by dsimp only; rw [hfull]; rfl) (by
    dsimp only
    rw [hfull, helt, List.length_append, List.length_take, List.length_drop, hlen]
    decide)
  refine ⟨s, hr, ?_⟩
  rw [Traced.step, Outcome.await_of (by omega), Outcome.next_bind, heq, hshrink]
  rfl

end FlexRic.Ds.SeqArr
