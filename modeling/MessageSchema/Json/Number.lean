import MessageSchema.Json.Lexeme
import MessageSchema.Numeral.Layout

/-! The values of JSON numbers. An integer of 64 bits is exact. Any other number is a 64-bit
significand, which takes digits while they fit, scaled by a power of ten in floating point. -/
namespace MessageSchema.Json
open Numeral

inductive Number where
  | integer (n : Int)
  | real (x : Float)
deriving BEq, Repr

namespace Number

def significandBound : Nat := Nat.pow 2 64

/-- Takes digits into a significand while they fit, and leaves the others. -/
def absorb (significand : Nat) : List Char → Nat × List Char
  | [] => (significand, [])
  | c :: rest =>
    let next := significand * 10 + (digit? c).getD 0
    if next < significandBound then absorb next rest else (significand, c :: rest)

/-- The significand of a number text and the power of ten that scales it. Digits that no longer fit
raise the power in front of the point and count for nothing behind it. -/
def scaled (text : NumberText) : Nat × Int :=
  let (significand, unfit) := absorb 0 text.whole
  let fraction := text.fraction.getD []
  let (significand, dropped) := absorb significand fraction
  let shift : Int := unfit.length - (fraction.length - dropped.length : Nat)
  let size : Int := Nat.ofDigitChars 10 ((text.exponent.map Prod.snd).getD []) 0
  let exponent := if (text.exponent.map Prod.fst).getD false then -size else size
  (significand, shift + exponent)

/-- The largest power of ten that scales in one operation. -/
def maxPower : Nat := 308

def power (n : Nat) : Float :=
  Binary64.ofRatio (Nat.pow 10 n) 1

/-- Scales up; nothing where the result is too large. -/
def scaleUp? (x : Float) (n : Nat) : Option Float :=
  if n ≤ maxPower then
    let product := x * power n
    if product.isInf then none else some product
  else if x == 0.0 then some x
  else none

/-- Scales down, in steps where the power is too large for one. -/
def scaleDown (x : Float) (n : Nat) : Float :=
  if n ≤ maxPower then x / power n
  else if x == 0.0 then x
  else scaleDown (x / power maxPower) (n - maxPower)
termination_by n
decreasing_by simp only [maxPower] at *; omega

/-- The floating point value of a number text, if it is in range. -/
def real? (text : NumberText) : Option Float :=
  let (significand, exponent) := scaled text
  let x := Binary64.ofRatio significand 1
  let size? := if exponent < 0 then some (scaleDown x exponent.natAbs) else scaleUp? x exponent.natAbs
  size?.map fun size => if text.negative then -size else size

/-- The integer that a number text without point and exponent denotes, if 64 bits hold it. Minus
zero is no integer. -/
def integer? (text : NumberText) : Option Int :=
  match text.fraction, text.exponent with
  | none, none =>
    let size := Nat.ofDigitChars 10 text.whole 0
    if text.negative then
      if 0 < size ∧ size ≤ Nat.pow 2 63 then some (-size) else none
    else if size < significandBound then some size
    else none
  | _, _ => none

def ofText? (text : NumberText) : Option Number :=
  match integer? text with
  | some n => some (integer n)
  | none => (real? text).map real

/-- Numbers are written positionally with at least one decimal from `10 ^ -5` up to below `10 ^ 16`,
else with an exponent; of two equally near decimals the even one is taken. -/
def layout : Layout where
  positional leading := -5 ≤ leading ∧ leading ≤ 15
  wholeMark := ".0"
  tie := .toEven

def text : Number → String
  | integer n => writeInteger n
  | real x => layout.text x

def read : Reader Number := fun text => do
  let (written, rest) ← numberText .truncated text
  match ofText? written with
  | some number => .ok (number, rest)
  | none => .error .malformed

end Number

end MessageSchema.Json
