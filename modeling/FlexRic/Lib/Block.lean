import FlexRic.Lib.System

/-! # Blocks of memory

A block that was allocated is the list of its bytes. Who reads or writes outside of it does so in memory that belongs
to somebody else. -/

namespace FlexRic

universe u

/-- What the allocator has to give: no object is larger than `PTRDIFF_MAX`. -/
structure Allocator where
  gives : Nat → Bool
  bounded : ∀ n, gives n = true → n < 9223372036854775808

namespace Block
variable {β : Type u} {b src : List β} {off n : Nat}

/-- The text of an access that leaves the block. -/
def outside : String := "access outside of the block"

/-- The `n` bytes from `off` on. -/
def read (b : List β) (off n : Nat) : Outcome (List β) :=
  if off + n ≤ b.length then .next ((b.drop off).take n) else .abort outside

/-- The block after the bytes are written to it. -/
def write (b : List β) (off : Nat) (src : List β) : Outcome (List β) :=
  if off + src.length ≤ b.length then .next (b.take off ++ (src ++ b.drop (off + src.length))) else .abort outside

/-- `realloc`: the bytes that both sizes have; nobody reads the others before they are written. -/
def resize (b : List β) (zero : β) (n : Nat) : List β := b.take n ++ List.replicate (n - b.length) zero

theorem read_of_le (h : off + n ≤ b.length) : read b off n = .next ((b.drop off).take n) := if_pos h

theorem write_of_le (h : off + src.length ≤ b.length) :
    write b off src = .next (b.take off ++ (src ++ b.drop (off + src.length))) := if_pos h

theorem length_written (h : off + src.length ≤ b.length) :
    (b.take off ++ (src ++ b.drop (off + src.length))).length = b.length := by
  simp only [List.length_append, List.length_take, List.length_drop]
  omega

theorem take_written (h : off + src.length ≤ b.length) :
    (b.take off ++ (src ++ b.drop (off + src.length))).take (off + src.length) = b.take off ++ src := by
  have hlen : (b.take off ++ src).length = off + src.length := by
    rw [List.length_append, List.length_take]
    omega
  rw [← List.append_assoc, List.take_left' hlen]

theorem take_written_of_le {m : Nat} (h : off + src.length ≤ b.length) (hm : m ≤ off) :
    (b.take off ++ (src ++ b.drop (off + src.length))).take m = b.take m := by
  rw [List.take_append_of_le_length (by rw [List.length_take]; omega), List.take_take, Nat.min_eq_left hm]

theorem length_resize (b : List β) (zero : β) (n : Nat) : (resize b zero n).length = n := by
  simp only [resize, List.length_append, List.length_take, List.length_replicate]
  omega

theorem take_resize {m : Nat} (zero : β) (hm : m ≤ b.length) (hn : m ≤ n) : (resize b zero n).take m = b.take m := by
  rw [resize, List.take_append_of_le_length (by rw [List.length_take]; omega), List.take_take, Nat.min_eq_left hn]

end Block

end FlexRic
