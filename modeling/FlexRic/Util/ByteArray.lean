import FlexRic.Lib.Equality

/-! # Comparisons of byte arrays

`eq_byte_array`, of two arrays and of two pointers. -/

namespace FlexRic.Util

def eqByteArray (m0 m1 : List UInt8) : Except String Bool :=
  both (same (m0.length = m1.length)) (memcmp m0 m1 m0.length)

theorem eqByteArray_tells (a b : List UInt8) : Tells (eqByteArray a b) (a = b) False := by
  have heq : eqByteArray a b = same (a = b) := by
    by_cases hlen : a.length = b.length
    · rw [eqByteArray, memcmp_of_length rfl hlen.symm, same, decide_eq_true hlen]
      rfl
    · have hne : a ≠ b := fun h => hlen (congrArg List.length h)
      rw [eqByteArray, same, decide_eq_false hlen, same, decide_eq_false hne]
      rfl
  rw [heq]
  exact same_tells _

end FlexRic.Util
