import FlexRic.Lib.Except

/-! # The generated ASN.1 coders

`asn_encode_to_buffer` and `asn_decode` code the values of a type in a transfer syntax. What they do for each type is
generated, and a parameter here. -/

namespace FlexRic.Sm

universe u v

/-- The constants of `enum asn_transfer_syntax` that the service models name. -/
inductive TransferSyntax
  | unalignedBasicPer
  | alignedBasicPer
  deriving DecidableEq, Repr

/-- Coders for the types of these descriptors: the bytes of an encoding unless it fails, and the value that complete
bytes decode to. -/
structure AsnCoder (D : Type u) (Value : D → Type v) where
  encode : TransferSyntax → (d : D) → Value d → Option (List UInt8)
  decode : TransferSyntax → (d : D) → List UInt8 → Option (Value d)

namespace AsnCoder
variable {D : Type u} {Value : D → Type v} (c : AsnCoder D Value)

/-- The decoder for a transfer syntax inverts the encoder for that syntax. -/
def Inverts : Prop := ∀ syn d v bs, c.encode syn d v = some bs → c.decode syn d bs = some v

/-- `asn_encode_to_buffer` into `malloc(2048)`, and the assertion about what it returns -/
def encodeToBuffer (syn : TransferSyntax) (d : D) (v : Value d) : Except String (List UInt8) :=
  match c.encode syn d v with
  | none => .error "er.encoded > -1 && (size_t)er.encoded <= ba.len"
  | some bs => if bs.length ≤ 2048 then .ok bs else .error "er.encoded > -1 && (size_t)er.encoded <= ba.len"

theorem encodeToBuffer_eq_ok {c : AsnCoder D Value} {syn : TransferSyntax} {d : D} {v : Value d} {bs : List UInt8} :
    c.encodeToBuffer syn d v = .ok bs ↔ c.encode syn d v = some bs ∧ bs.length ≤ 2048 := by
  unfold encodeToBuffer
  cases h : c.encode syn d v with
  | none => simp
  | some bs' =>
    by_cases hl : bs'.length ≤ 2048
    · simp only [if_pos hl, Except.ok.injEq, Option.some.injEq]
      exact ⟨fun he => ⟨he, he ▸ hl⟩, fun he => he.1⟩
    · simp only [if_neg hl, Option.some.injEq, reduceCtorEq, false_iff]
      rintro ⟨rfl, hl'⟩
      exact hl hl'

end AsnCoder

end FlexRic.Sm
