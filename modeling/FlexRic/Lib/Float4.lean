import FlexRic.Lib.Equality

/-! # Single precision numbers

The comparisons of C on `float`. Finite magnitudes are counted in units of the smallest subnormal number,
`2 ^ -149`, so that sums and differences are exact before they are rounded. -/

namespace FlexRic.Plain.Float4
open FlexRic

/-- The bits of the number without its sign. -/
def magBits (x : Float4) : Nat := x.bits.toNat % 0x80000000

def isNaN (x : Float4) : Bool := 0x7F800000 < x.magBits

def isZero (x : Float4) : Bool := x.magBits = 0

/-- `x == y`: there are two zeros, and no number is equal to `NaN`. -/
def ceq (x y : Float4) : Bool := !x.isNaN && !y.isNaN && (x = y || (x.isZero && y.isZero))

/-- The number with the one of the two zeros that has no sign. -/
def unsigned (x : Float4) : Float4 := if x.isZero then ⟨0⟩ else x

section Ceq
variable {x y : Float4}

theorem unsigned_eq_iff : x.unsigned = y.unsigned ↔ x = y ∨ (x.isZero ∧ y.isZero) := by
  have hzero : isZero ⟨0⟩ := by decide
  unfold unsigned
  by_cases hx : x.isZero <;> by_cases hy : y.isZero
  · simp [hx, hy]
  · rw [if_pos hx, if_neg hy]
    refine ⟨fun h => absurd (h ▸ hzero) hy, ?_⟩
    rintro (rfl | ⟨-, h⟩)
    · exact absurd hx hy
    · exact absurd h hy
  · rw [if_neg hx, if_pos hy]
    refine ⟨fun h => absurd (h ▸ hzero) hx, ?_⟩
    rintro (rfl | ⟨h, -⟩)
    · exact absurd hy hx
    · exact absurd h hx
  · simp [hx, hy]

theorem not_isNaN_of_isZero (h : x.isZero) : x.isNaN = false := by
  have hmag : x.magBits = 0 := of_decide_eq_true h
  simp [isNaN, hmag]

theorem ceq_iff : x.ceq y ↔ x.unsigned = y.unsigned ∧ x.isNaN = false := by
  rw [unsigned_eq_iff]
  simp only [ceq, Bool.and_eq_true, Bool.not_eq_true', Bool.or_eq_true, decide_eq_true_eq]
  constructor
  · rintro ⟨⟨hx, -⟩, h⟩
    exact ⟨h, hx⟩
  · rintro ⟨rfl | ⟨hx, hy⟩, hn⟩
    · exact ⟨⟨hn, hn⟩, .inl rfl⟩
    · exact ⟨⟨hn, not_isNaN_of_isZero hy⟩, .inr ⟨hx, hy⟩⟩

end Ceq

/-! ### Comparison up to a relative error -/

/-- The magnitude of a number; there is none of an infinite one. -/
def mag (x : Float4) : Option Nat :=
  let exp := x.magBits / 0x800000
  let frac := x.magBits % 0x800000
  if exp = 255 then none
  else if exp = 0 then some frac
  else some ((0x800000 + frac) * 2 ^ (exp - 1))

def isNeg (x : Float4) : Bool := 0x80000000 ≤ x.bits.toNat

/-- `n / d` to the nearest integer, and to the even one of two. -/
def roundHalfEven (n d : Nat) : Nat :=
  if 2 * (n % d) < d ∨ (2 * (n % d) = d ∧ n / d % 2 = 0) then n / d else n / d + 1

/-- A magnitude rounded to 24 significant bits; there is none when it is too large to be finite. -/
def roundMag (n : Nat) : Option Nat :=
  let d := 2 ^ (n.log2 + 1 - 24)
  let r := roundHalfEven n d * d
  if r < 2 ^ 277 then some r else none

/-- The magnitude of `x - y`. -/
def absSub (x y : Float4) : Option Nat := do
  let m ← x.mag
  let n ← y.mag
  roundMag (if x.isNeg = y.isNeg then max m n - min m n else m + n)

/-- `fabs(x) + fabs(y)` -/
def absAdd (x y : Float4) : Option Nat := do
  let m ← x.mag
  let n ← y.mag
  roundMag (m + n)

/-- A `double` constant `m / 2 ^ k` between 0 and 1, `m` being its 53 significant bits. -/
structure Eps where
  m : Nat
  k : Nat

/-- `diff < eps * FLT_MIN` -/
def Eps.ltMin (eps : Eps) : Option Nat → Bool
  | none => false
  | some diff => diff * 2 ^ eps.k < eps.m * 0x800000

/-- `diff / sum < eps`, the quotient being rounded to the nearest `double`: it is less than `eps` when it is
less than the middle between `eps` and the number before it, or is the middle and goes down to an even one. -/
def Eps.quotLt (eps : Eps) : Option Nat → Option Nat → Bool
  | none, _ => false
  | some _, none => true
  | some diff, some sum =>
    2 * diff * 2 ^ eps.k < (2 * eps.m - 1) * sum || (2 * diff * 2 ^ eps.k = (2 * eps.m - 1) * sum && eps.m % 2 = 1)

/-- `eq_float` -/
def eqFloat (a b : Float4) (eps : Eps) : Except String Bool := do
  require (a.isNaN = false) "isnan(a) == false"
  require (b.isNaN = false) "isnan(b) == false"
  let diff := absSub a b
  if a.ceq b then return true
  else if a.isZero || b.isZero || (diff.any (· < 0x800000)) then return eps.ltMin diff
  else return eps.quotLt diff (absAdd a b)

section EqFloat
variable {a b : Float4} {eps : Eps}

theorem eqFloat_error_iff : (∃ msg, eqFloat a b eps = .error msg) ↔ a.isNaN ∨ b.isNaN := by
  unfold eqFloat require
  cases ha : a.isNaN <;> cases hb : b.isNaN
  · simp only [if_true, Except.ok_bind, Bool.false_eq_true, or_self, iff_false, not_exists]
    intro msg
    split
    · simp
    · split <;> simp
  · simp
  · simp
  · simp

theorem eqFloat_self (h : a.isNaN = false) : eqFloat a a eps = .ok true := by
  have hc : a.ceq a = true := ceq_iff.mpr ⟨rfl, h⟩
  simp [eqFloat, require_of h, hc]

theorem eqFloat_tells : Tells (eqFloat a b eps) (eqFloat a b eps = .ok true) (a.isNaN ∨ b.isNaN) :=
  ⟨Iff.rfl, eqFloat_error_iff⟩

/-- To itself every number is close, and what is no number is not compared. -/
theorem eqFloat_self_tells : Tells (eqFloat a a eps) (a.isNaN = false) a.isNaN := by
  cases h : a.isNaN with
  | false =>
    rw [eqFloat_self h]
    exact true_tells.congr (by simp) (by simp)
  | true =>
    obtain ⟨msg, hmsg⟩ : ∃ msg, eqFloat a a eps = .error msg := eqFloat_error_iff.mpr (.inl h)
    rw [hmsg]
    exact (error_tells msg).congr (by simp) (by simp)

end EqFloat

end FlexRic.Plain.Float4
