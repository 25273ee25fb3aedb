import Mathlib.Data.List.TakeWhile
import FlexRic.IApp.StringParser

/-! # The slice statistics are written whole, or not within their bounds

The text of a message is written piece by piece as long as it is shorter than the scratch buffer. -/

namespace FlexRic.IApp
open Plain Sm.Slice

variable {p : Printf} {slice : SliceIndMsg} {tstamp : Int64} {out : List UInt8} {outLen : Nat}

/-! ### Nothing that is printed has a zero -/

theorem noNul_nameText (name : Counted UInt8) : NoNul (nameText p name) := by
  unfold nameText
  split
  · exact p.noNul_noName
  · intro h
    have hz := List.mem_takeWhile_imp h
    simp at hz

theorem noNul_noSlicesText (p : Printf) (slice : SliceIndMsg) (tstamp : Int64) :
    NoNul (noSlicesText p slice tstamp) := by
  simp only [noSlicesText, noNul_append, noNul_decimal, noNul_nameText, and_true]
  decide

theorem noNul_slicesHead (tstamp : Int64) (n : Nat) : NoNul (slicesHead tstamp n) := by
  simp only [slicesHead, noNul_append, noNul_decimal, noNul_number, and_true]
  decide

theorem noNul_sliceHead (i : Nat) (s : FrSlice) (type : Nat) {kind : String} (hk : NoNul (ascii kind)) :
    NoNul (sliceHead p i s type kind) := by
  simp only [sliceHead, noNul_append, noNul_number, noNul_nameText, hk, and_true]
  decide

theorem noNul_sliceText (i : Nat) (s : FrSlice) : NoNul ((sliceText p i s).getD []) := by
  have hsta : NoNul (sliceHead p i s 1 ",static") := noNul_sliceHead i s 1 (by decide)
  have hnvs : NoNul (sliceHead p i s 2 ",nvs") := noNul_sliceHead i s 2 (by decide)
  have hedf : NoNul (sliceHead p i s 4 ",edf") := noNul_sliceHead i s 4 (by decide)
  unfold sliceText
  rcases s.params with _ | sta | (rate | capacity) | scn19 | edf
  · exact noNul_nil
  · simp only [Option.getD_some, noNul_append, hsta, noNul_number, and_true, true_and]
    decide
  · simp only [Option.getD_some, noNul_append, hnvs, noNul_number, p.noNul_f2, and_true, true_and]
    decide
  · simp only [Option.getD_some, noNul_append, hnvs, noNul_number, p.noNul_f2, and_true, true_and]
    decide
  · exact noNul_nil
  · simp only [Option.getD_some, noNul_append, hedf, noNul_number, and_true, true_and]
    decide

theorem noNul_uesHead (n : Nat) : NoNul (uesHead n) := .append (by decide) (noNul_number _ _)

theorem noNul_ueText (i : Nat) (u : UeSliceAssoc) : NoNul (ueText i u) := by
  simp only [ueText, noNul_append, noNul_number, noNul_decimal, and_true]
  decide

theorem noNul_slicePieces (x : FrSlice × Nat) : NoNul (slicePieces p slice tstamp x) := by
  refine .append ?_ (noNul_sliceText _ _)
  split
  · exact noNul_slicesHead _ _
  · exact noNul_nil

theorem noNul_uePieces (x : UeSliceAssoc × Nat) : NoNul (uePieces slice x) := by
  refine .append ?_ (noNul_ueText _ _)
  split
  · exact noNul_uesHead _
  · exact noNul_nil

theorem noNul_flatMap {α : Type} {f : α → List UInt8} (h : ∀ x, NoNul (f x)) (l : List α) : NoNul (l.flatMap f) := by
  intro hz
  obtain ⟨x, -, hx⟩ := List.mem_flatMap.mp hz
  exact h x hx

theorem noNul_sliceStats : NoNul (sliceStats p slice tstamp) := by
  unfold sliceStats
  refine .append (.append (.append ?_ (noNul_flatMap noNul_slicePieces _)) (noNul_flatMap noNul_uePieces _)) (by decide)
  split
  · exact noNul_noSlicesText _ _ _
  · exact noNul_nil

/-! ### One piece after the other -/

/-- So much of the text is in an output of `out_len` bytes. -/
structure TextBuf.Has (b : TextBuf) (outLen : Nat) (done : List UInt8) : Prop where
  temp : b.temp.length = maxText
  out : b.out.length = outLen
  sz : b.sz = done.length
  text : b.out.take b.sz = done

namespace TextBuf
variable {b : TextBuf} {done text : List UInt8}

theorem Has.init (hout : out.length = outLen) : Has ⟨List.replicate maxText 0, out, 0⟩ outLen [] :=
  ⟨List.length_replicate, hout, rfl, rfl⟩

/-- What the scratch buffer has up to a zero is copied. -/
theorem Has.copy_of (h : b.Has outLen done) (ht : NoNul text) {rest : List UInt8} (htemp : b.temp = text ++ 0 :: rest)
    (hlen : done.length + text.length ≤ outLen) : ∃ b', b.copy = .next b' ∧ b'.Has outLen (done ++ text) := by
  have hread : 0 + text.length ≤ b.temp.length := by
    rw [htemp, List.length_append]
    omega
  have hbytes : (b.temp.drop 0).take text.length = text := by rw [List.drop_zero, htemp, List.take_left]
  have hwrite : b.sz + text.length ≤ b.out.length := by
    rw [h.sz, h.out]
    exact hlen
  rw [copy, htemp, strlen_append ht, Outcome.next_bind, ← htemp, Block.read_of_le hread, Outcome.next_bind, hbytes,
    Block.write_of_le hwrite]
  refine ⟨_, rfl, h.temp, ?_, ?_, ?_⟩
  · dsimp only
    rw [Block.length_written hwrite, h.out]
  · dsimp only
    rw [h.sz, List.length_append]
  · dsimp only
    rw [Block.take_written hwrite, h.text]

theorem Has.print (h : b.Has outLen done) (ht : NoNul text) (hmax : maxText ≤ outLen)
    (hlen : done.length + text.length < maxText) :
    ∃ b₁ b₂, b.print outLen text = .next b₁ ∧ b₁.copy = .next b₂ ∧ b₂.Has outLen (done ++ text) := by
  have hmaxText : maxText = 2048 := rfl
  have htemp := h.temp
  have hprint : b.print outLen text = .next { b with temp := text ++ 0 :: b.temp.drop (text.length + 1) } := by
    have hlt : (text.length : Int) < maxText := by omega
    rw [TextBuf.print, snprintf_of_lt (by omega) (by omega) (by omega), Outcome.next_bind, Outcome.check_of hlt]
    rfl
  have hscratch : (text ++ 0 :: b.temp.drop (text.length + 1)).length = maxText := by
    rw [List.length_append, List.length_cons, List.length_drop]
    omega
  obtain ⟨b₂, hcopy, h₂⟩ := copy_of (b := { b with temp := text ++ 0 :: b.temp.drop (text.length + 1) })
    ⟨hscratch, h.out, h.sz, h.text⟩ ht rfl (by omega)
  exact ⟨_, b₂, hprint, hcopy, h₂⟩

theorem Has.clear (h : b.Has outLen done) :
    ∃ b', b.clear = .next b' ∧ b'.Has outLen done ∧ b'.temp = List.replicate maxText 0 := by
  have hlen : 0 + (List.replicate maxText (0 : UInt8)).length ≤ b.temp.length := by
    rw [Nat.zero_add, List.length_replicate, h.temp]
  refine ⟨{ b with temp := List.replicate maxText 0 }, ?_, ⟨List.length_replicate, h.out, h.sz, h.text⟩, rfl⟩
  rw [TextBuf.clear, Block.write_of_le hlen, Outcome.next_bind, Nat.zero_add, List.length_replicate, ← h.temp]
  simp

theorem scratch_cleared : List.replicate maxText (0 : UInt8) = [] ++ 0 :: List.replicate 2047 0 := by
  rw [show maxText = 2047 + 1 from rfl, List.replicate_succ, List.nil_append]

/-- A piece that there may be is printed into the cleared scratch buffer. -/
theorem Has.piece (h : b.Has outLen done) {text : Option (List UInt8)} (ht : NoNul (text.getD []))
    (hmax : maxText ≤ outLen) (hlen : done.length + (text.getD []).length < maxText) :
    ∃ b₁ b₂ b₃, b.clear = .next b₁ ∧ b₁.printSome outLen text = .next b₂ ∧ b₂.copy = .next b₃ ∧
      b₃.Has outLen (done ++ text.getD []) := by
  obtain ⟨b₁, hclear, h₁, htemp⟩ := h.clear
  cases text with
  | some text =>
    obtain ⟨b₂, b₃, hprint, hcopy, h₃⟩ := h₁.print ht hmax hlen
    exact ⟨b₁, b₂, b₃, hclear, hprint, hcopy, h₃⟩
  | none =>
    obtain ⟨b₂, hcopy, h₂⟩ := h₁.copy_of noNul_nil (htemp.trans scratch_cleared)
      (Nat.le_of_lt (Nat.lt_of_lt_of_le hlen hmax))
    exact ⟨b₁, b₁, b₂, hclear, rfl, hcopy, h₂⟩

end TextBuf

open TextBuf

section Turns
variable {b : TextBuf} {done : List UInt8}

theorem sliceTurn_has (hmax : maxText ≤ outLen) (x : FrSlice × Nat) (h : b.Has outLen done)
    (hlen : done.length + (slicePieces p slice tstamp x).length < maxText) :
    ∃ b', sliceTurn p slice tstamp outLen b x = .next b' ∧ b'.Has outLen (done ++ slicePieces p slice tstamp x) := by
  have hnul := noNul_sliceText (p := p) x.2 x.1
  unfold sliceTurn
  unfold slicePieces at hlen ⊢
  by_cases hx : x.2 = 0
  · rw [if_pos hx, List.length_append] at hlen
    simp only [if_pos hx]
    obtain ⟨b₁, b₂, hprint, hcopy, h₂⟩ :=
      h.print (noNul_slicesHead tstamp slice.sliceConf.dl.slices.items.length) hmax (by omega)
    obtain ⟨b₃, b₄, b₅, hclear, hsome, hcopy', h₅⟩ := h₂.piece hnul hmax (by rw [List.length_append]; omega)
    rw [hprint, Outcome.next_bind, hcopy, Outcome.next_bind, hclear, Outcome.next_bind, hsome, Outcome.next_bind,
      ← List.append_assoc]
    exact ⟨b₅, hcopy', h₅⟩
  · rw [if_neg hx, List.nil_append] at hlen
    simp only [if_neg hx]
    obtain ⟨b₁, b₂, b₃, hclear, hsome, hcopy, h₃⟩ := h.piece hnul hmax hlen
    rw [Outcome.pure_eq, Outcome.next_bind, hclear, Outcome.next_bind, hsome, Outcome.next_bind, List.nil_append]
    exact ⟨b₃, hcopy, h₃⟩

theorem ueTurn_has (hmax : maxText ≤ outLen) (x : UeSliceAssoc × Nat) (h : b.Has outLen done)
    (hlen : done.length + (uePieces slice x).length < maxText) :
    ∃ b', ueTurn slice outLen b x = .next b' ∧ b'.Has outLen (done ++ uePieces slice x) := by
  have hnul := noNul_ueText x.2 x.1
  unfold ueTurn
  unfold uePieces at hlen ⊢
  by_cases hx : x.2 = 0
  · rw [if_pos hx, List.length_append] at hlen
    simp only [if_pos hx]
    obtain ⟨b₁, hclear, h₁, -⟩ := h.clear
    obtain ⟨b₂, b₃, hprint, hcopy, h₃⟩ := h₁.print (noNul_uesHead slice.ueSliceConf.ues.items.length) hmax (by omega)
    obtain ⟨b₄, hclear', h₄, -⟩ := h₃.clear
    obtain ⟨b₅, b₆, hprint', hcopy', h₆⟩ := h₄.print hnul hmax (by rw [List.length_append]; omega)
    rw [hclear, Outcome.next_bind, hprint, Outcome.next_bind, hcopy, Outcome.next_bind, hclear', Outcome.next_bind,
      hprint', Outcome.next_bind, ← List.append_assoc]
    exact ⟨b₆, hcopy', h₆⟩
  · rw [if_neg hx, List.nil_append] at hlen
    simp only [if_neg hx]
    obtain ⟨b₁, hclear, h₁, -⟩ := h.clear
    obtain ⟨b₂, b₃, hprint, hcopy, h₃⟩ := h₁.print hnul hmax hlen
    rw [Outcome.pure_eq, Outcome.next_bind, hclear, Outcome.next_bind, hprint, Outcome.next_bind, List.nil_append]
    exact ⟨b₃, hcopy, h₃⟩

/-- A loop whose turns each write their piece writes all of them. -/
theorem foldlM_has {α : Type} {turn : TextBuf → α → Outcome TextBuf} {piece : α → List UInt8}
    (hturn : ∀ x {b done}, b.Has outLen done → done.length + (piece x).length < maxText →
      ∃ b', turn b x = .next b' ∧ b'.Has outLen (done ++ piece x))
    (l : List α) {b : TextBuf} {done : List UInt8} (h : b.Has outLen done)
    (hlen : done.length + (l.flatMap piece).length < maxText) :
    ∃ b', l.foldlM turn b = .next b' ∧ b'.Has outLen (done ++ l.flatMap piece) := by
  induction l generalizing b done with
  | nil => exact ⟨b, rfl, by rwa [List.flatMap_nil, List.append_nil]⟩
  | cons x l ih =>
    rw [List.flatMap_cons, List.length_append] at hlen
    obtain ⟨b₁, hb₁, h₁⟩ := hturn x h (by omega)
    obtain ⟨b₂, hb₂, h₂⟩ := ih h₁ (by rw [List.length_append]; omega)
    rw [List.flatMap_cons, ← List.append_assoc]
    exact ⟨b₂, by rw [List.foldlM_cons, hb₁, Outcome.next_bind, hb₂], h₂⟩

theorem slices_has (p : Printf) (slice : SliceIndMsg) (tstamp : Int64) (hmax : maxText ≤ outLen) (h : b.Has outLen done)
    (hlen : done.length + (slice.sliceConf.dl.slices.items.zipIdx.flatMap (slicePieces p slice tstamp)).length < maxText) :
    ∃ b', slice.sliceConf.dl.slices.items.zipIdx.foldlM (sliceTurn p slice tstamp outLen) b = .next b' ∧
      b'.Has outLen (done ++ slice.sliceConf.dl.slices.items.zipIdx.flatMap (slicePieces p slice tstamp)) :=
  foldlM_has (fun x _ _ h hl => sliceTurn_has hmax x h hl) _ h hlen

theorem ues_has (slice : SliceIndMsg) (hmax : maxText ≤ outLen) (h : b.Has outLen done)
    (hlen : done.length + (slice.ueSliceConf.ues.items.zipIdx.flatMap (uePieces slice)).length < maxText) :
    ∃ b', slice.ueSliceConf.ues.items.zipIdx.foldlM (ueTurn slice outLen) b = .next b' ∧
      b'.Has outLen (done ++ slice.ueSliceConf.ues.items.zipIdx.flatMap (uePieces slice)) :=
  foldlM_has (fun x _ _ h hl => ueTurn_has hmax x h hl) _ h hlen

end Turns

/-! ### The whole text -/

/-- The text of the end of line and the zero that follow what was copied. -/
theorem TextBuf.Has.finish {b : TextBuf} {done : List UInt8} (h : b.Has outLen done) (hlen : done.length + 1 < outLen) :
    ∃ out', (Block.write b.out b.sz (ascii "\n") >>= fun out => Block.write out (b.sz + 1) [0]) = .next out' ∧
      out'.length = outLen ∧ ∃ rest, out' = (done ++ ascii "\n") ++ 0 :: rest := by
  have hone : (ascii "\n").length = 1 := rfl
  have hnl : b.sz + (ascii "\n").length ≤ b.out.length := by
    rw [h.sz, h.out, hone]
    omega
  have hlen' := Block.length_written hnl
  have hzero : b.sz + 1 + [(0 : UInt8)].length ≤
      (b.out.take b.sz ++ (ascii "\n" ++ b.out.drop (b.sz + (ascii "\n").length))).length := by
    rw [hlen', h.sz, h.out, List.length_singleton]
    omega
  have htake := (Block.take_written hnl).trans (congrArg (· ++ _) h.text)
  rw [Block.write_of_le hnl, Outcome.next_bind, Block.write_of_le hzero]
  exact ⟨_, rfl, (Block.length_written hzero).trans (hlen'.trans h.out), _, congrArg (· ++ _) htake⟩

/-- A text that the scratch buffer has room for is written as a whole, with its zero. -/
theorem writeSlice_of_lt (hout : out.length = outLen) (hmax : maxText ≤ outLen)
    (hlen : (sliceStats p slice tstamp).length < maxText) :
    ∃ out', writeSlice p slice tstamp out outLen = .next out' ∧ out'.length = outLen ∧
      ∃ rest, out' = sliceStats p slice tstamp ++ 0 :: rest := by
  have hone : (ascii "\n").length = 1 := rfl
  have h₀ := Has.init hout
  unfold writeSlice
  unfold sliceStats at hlen ⊢
  rw [List.length_append, List.length_append, List.length_append, hone] at hlen
  by_cases hn : slice.sliceConf.dl.slices.items.length = 0
  · rw [if_pos hn] at hlen ⊢
    simp only [if_pos hn]
    obtain ⟨b₁, b₂, hprint, hcopy, h₂⟩ := h₀.print (noNul_noSlicesText p slice tstamp) hmax (by rw [List.length_nil]; omega)
    rw [List.nil_append] at h₂
    obtain ⟨b₃, hslices, h₃⟩ := slices_has p slice tstamp hmax h₂ (by omega)
    obtain ⟨b₄, hues, h₄⟩ := ues_has slice hmax h₃ (by rw [List.length_append]; omega)
    rw [hprint, Outcome.next_bind, hcopy, Outcome.next_bind, hslices, Outcome.next_bind, hues, Outcome.next_bind]
    exact h₄.finish (by rw [List.length_append, List.length_append]; omega)
  · rw [if_neg hn] at hlen ⊢
    simp only [if_neg hn]
    rw [List.length_nil] at hlen
    rw [List.nil_append]
    obtain ⟨b₃, hslices, h₃⟩ := slices_has p slice tstamp hmax h₀ (by rw [List.length_nil]; omega)
    rw [List.nil_append] at h₃
    obtain ⟨b₄, hues, h₄⟩ := ues_has slice hmax h₃ (by omega)
    rw [Outcome.pure_eq, Outcome.next_bind, hslices, Outcome.next_bind, hues, Outcome.next_bind]
    exact h₄.finish (by rw [List.length_append]; omega)

/-- The output has the whole text and its zero, and no access left one of the two blocks. -/
def Written (p : Printf) (slice : SliceIndMsg) (tstamp : Int64) (out : List UInt8) : Prop :=
  ∃ out', toStringSlice p slice tstamp out out.length = .next out' ∧ out'.length = out.length ∧
    ∃ rest, out' = sliceStats p slice tstamp ++ 0 :: rest

/-- The output is large enough from the size of the scratch buffer on, but the text has to fit into that one as well. -/
theorem toStringSlice_written_iff (p : Printf) (slice : SliceIndMsg) (tstamp : Int64) (out : List UInt8) :
    Written p slice tstamp out ↔ maxText ≤ out.length ∧ (sliceStats p slice tstamp).length < maxText := by
  constructor
  · rintro ⟨out', hrun, -, rest, rfl⟩
    obtain ⟨⟨⟩, hmax, hrun⟩ := Outcome.bind_eq_next.mp hrun
    obtain ⟨out', hwrite, hrun⟩ := Outcome.bind_eq_next.mp hrun
    obtain ⟨n, hn, hrun⟩ := Outcome.bind_eq_next.mp hrun
    obtain ⟨⟨⟩, hlt, hrun⟩ := Outcome.bind_eq_next.mp hrun
    obtain rfl : out' = _ := Outcome.next.inj hrun
    rw [strlen_append noNul_sliceStats] at hn
    obtain rfl := Outcome.next.inj hn
    exact ⟨Outcome.check_eq_next.mp hmax, Outcome.check_eq_next.mp hlt⟩
  · rintro ⟨hmax, hlen⟩
    obtain ⟨out', hwrite, hout', rest, rfl⟩ := writeSlice_of_lt rfl hmax hlen
    refine ⟨_, ?_, hout', rest, rfl⟩
    rw [toStringSlice, Outcome.check_of hmax, Outcome.next_bind, hwrite, Outcome.next_bind,
      strlen_append noNul_sliceStats, Outcome.next_bind, Outcome.check_of hlen]
    rfl

/-! ### A text that the scratch buffer has no room for -/

/-- With an output larger than the scratch buffer, a piece that is too long is written behind its end. -/
theorem TextBuf.Has.print_outside {b : TextBuf} {done text : List UInt8} (h : b.Has outLen done) (hmax : maxText < outLen)
    (ht : maxText ≤ text.length) : b.print outLen text = .abort Block.outside := by
  have hlen : ¬0 + (text.take (outLen - 1) ++ [(0 : UInt8)]).length ≤ b.temp.length := by
    rw [h.temp, List.length_append, List.length_take, List.length_singleton]
    omega
  have hlimit : outLen ≠ 0 := by omega
  rw [TextBuf.print, snprintf, if_neg hlimit, Block.write, if_neg hlen]
  rfl

def printf : Printf := ⟨fun _ => ascii "0.00", ascii "(null)", fun _ => by decide, by decide⟩

/-- A message without slices whose scheduler has a long name -/
def longName : SliceIndMsg where
  sliceConf := ⟨⟨.empty, ⟨List.replicate 2048 97, by rw [List.length_replicate]; decide⟩⟩, ⟨.empty, .empty⟩⟩
  ueSliceConf := ⟨.empty⟩
  tstamp := 0

theorem maxText_le_longName : maxText ≤ (noSlicesText printf longName 0).length := by
  have hitems : longName.sliceConf.dl.schedName.items = List.replicate maxText 97 := rfl
  have hname : nameText printf longName.sliceConf.dl.schedName = List.replicate maxText 97 := by
    have hne : List.replicate maxText (97 : UInt8) ≠ [] := by
      rw [Ne, List.replicate_eq_nil_iff]
      decide
    rw [nameText, hitems, if_neg hne, List.takeWhile_replicate, if_pos (by decide)]
  rw [noSlicesText, hname, List.length_append, List.length_replicate]
  exact Nat.le_add_left _ _

/-- The name is written over what is behind the scratch buffer. -/
theorem name_leaves_scratch : toStringSlice printf longName 0 (List.replicate 4096 0) 4096 = .abort Block.outside ∧
    ¬Written printf longName 0 (List.replicate 4096 0) := by
  have hmax : maxText < 4096 := by decide
  have hout : (List.replicate 4096 (0 : UInt8)).length = 4096 := List.length_replicate
  have hprint := (Has.init hout).print_outside hmax maxText_le_longName
  have hrun : toStringSlice printf longName 0 (List.replicate 4096 0) 4096 = .abort Block.outside := by
    have hnone : longName.sliceConf.dl.slices.items.length = 0 := rfl
    rw [toStringSlice, Outcome.check_of (Nat.le_of_lt hmax), Outcome.next_bind, writeSlice]
    simp only [if_pos hnone]
    rw [hprint, Outcome.abort_bind, Outcome.abort_bind]
  refine ⟨hrun, ?_⟩
  rintro ⟨out', hnext, -⟩
  rw [hout, hrun] at hnext
  cases hnext

end FlexRic.IApp
