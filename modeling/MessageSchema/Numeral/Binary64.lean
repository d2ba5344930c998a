/-! The 64-bit binary floating point format in exact integer arithmetic: a finite number is a sign
and a magnitude `significand * 2 ^ exponent`, and a ratio rounds to the nearest such magnitude. -/
namespace MessageSchema.Numeral

structure Magnitude where
  significand : Nat
  exponent : Int
deriving DecidableEq, Repr

inductive Binary64 where
  | finite (negative : Bool) (magnitude : Magnitude)
  | infinite (negative : Bool)
  | nan
deriving DecidableEq, Repr

namespace Binary64

/-- The exponent of the smallest positive magnitude. -/
def minExponent : Int := -1074

/-- Width of the stored significand; magnitudes of full precision have one more bit in front. -/
def fractionBits : Nat := 52

/-- The exponent field of infinities and NaN. -/
def topField : Nat := 2047

def ofBits (bits : UInt64) : Binary64 :=
  let negative := bits.toNat / Nat.pow 2 63 = 1
  let field := bits.toNat / Nat.pow 2 fractionBits % Nat.pow 2 11
  let fraction := bits.toNat % Nat.pow 2 fractionBits
  if field = topField then
    if fraction = 0 then .infinite negative else .nan
  else if field = 0 then .finite negative ⟨fraction, minExponent⟩
  else .finite negative ⟨fraction + Nat.pow 2 fractionBits, minExponent + (field - 1 : Nat)⟩

/-- The bits of a magnitude. The leading bit of a full significand carries into the exponent field,
as does a significand of `2 ^ 53`; past the largest finite number the bits are those of infinity. -/
def bitsOf (magnitude : Magnitude) : Nat :=
  min (magnitude.significand + (magnitude.exponent - minExponent).toNat * Nat.pow 2 fractionBits)
    (topField * Nat.pow 2 fractionBits)

/-- The largest `k` with `2 ^ k * den ≤ num`, for positive `num` and `den`. -/
def binade (num den : Nat) : Int :=
  let guess : Int := num.log2 - den.log2
  if den * Nat.pow 2 guess.toNat ≤ num * Nat.pow 2 (-guess).toNat then guess else guess - 1

/-- The quotient rounded to the nearest integer, and a half to the even one. -/
def roundDiv (num den : Nat) : Nat :=
  let quotient := num / den
  let twice := 2 * (num % den)
  if twice < den then quotient
  else if den < twice then quotient + 1
  else quotient + quotient % 2

/-- The magnitude nearest to `num / den`, with ties to the even significand. -/
def nearest (num den : Nat) : Magnitude :=
  let exponent := max (binade num den - fractionBits) minExponent
  ⟨roundDiv (num * Nat.pow 2 (-exponent).toNat) (den * Nat.pow 2 exponent.toNat), exponent⟩

/-- The floating point number nearest to `num / den`; infinity beyond the largest finite number. -/
def ofRatio (num den : Nat) : Float :=
  if num = 0 then 0.0 else Float.ofBits (bitsOf (nearest num den)).toUInt64

end Binary64

end MessageSchema.Numeral
