import MessageSchema.Numeral.Integer
import MessageSchema.Numeral.Binary64

/-! Decimal literals of floating point numbers: digits with an optional point and exponent, or a
name of infinity or NaN in any case. The value is the nearest floating point number. -/
namespace MessageSchema.Numeral

inductive DecimalFault where
  | empty
  | invalid
deriving DecidableEq, Repr

/-- The number `digits * 10 ^ exponent`. -/
structure Decimal where
  digits : Nat
  exponent : Int
deriving DecidableEq, Repr

def decimalLength (n : Nat) : Nat :=
  (Nat.toDigits 10 n).length

/-- The nearest floating point number. Decimals far outside the format's range are settled by their
leading exponent, which keeps the exact arithmetic small. -/
def Decimal.toFloat (decimal : Decimal) : Float :=
  let leading := decimalLength decimal.digits + decimal.exponent
  if decimal.digits = 0 ∨ leading < -330 then 0.0
  else if 310 < leading then 1.0 / 0.0
  else
    Binary64.ofRatio (decimal.digits * Nat.pow 10 decimal.exponent.toNat)
      (Nat.pow 10 (-decimal.exponent).toNat)

/-- Splits off an optional sign; true for a minus. -/
def splitSign : List Char → Bool × List Char
  | '-' :: rest => (true, rest)
  | '+' :: rest => (false, rest)
  | text => (false, text)

/-- Splits off the leading decimal digits. -/
def splitDigits (text : List Char) : List Char × List Char :=
  (text.takeWhile Char.isDigit, text.dropWhile Char.isDigit)

/-- The digits of an exponent. Past `0x10000` further digits change nothing that could matter. -/
def exponentOfDigits (digits : List Char) : Nat :=
  digits.foldl (fun total c => if total < 0x10000 then total * 10 + (digit? c).getD 0 else total) 0

/-- The exponent part that ends a literal: nothing, or a mark, an optional sign and digits. -/
def exponentPart? : List Char → Option Int
  | [] => some 0
  | mark :: rest =>
    if mark = 'e' ∨ mark = 'E' then
      let (negative, text) := splitSign rest
      if text ≠ [] ∧ text.all Char.isDigit then
        let size : Int := exponentOfDigits text
        some (if negative then -size else size)
      else none
    else none

/-- A decimal without sign: digits on at least one side of an optional point. -/
def decimal? (text : List Char) : Option Decimal := do
  let (whole, afterWhole) := splitDigits text
  let (fraction, rest) :=
    match afterWhole with
    | '.' :: afterPoint => splitDigits afterPoint
    | _ => ([], afterWhole)
  if whole = [] ∧ fraction = [] then none
  else
    let exponent ← exponentPart? rest
    some ⟨Nat.ofDigitChars 10 (whole ++ fraction) 0, exponent - fraction.length⟩

def magnitude? (text : List Char) : Option Float :=
  match decimal? text with
  | some decimal => some decimal.toFloat
  | none =>
    let word := String.ofList (text.map Char.toLower)
    if word = "inf" ∨ word = "infinity" then some (1.0 / 0.0)
    else if word = "nan" then some (0.0 / 0.0)
    else none

def readDecimal (text : String) : Except DecimalFault Float :=
  if text = "" then .error .empty
  else
    let (negative, body) := splitSign text.toList
    match magnitude? body with
    | some x => .ok (if negative then -x else x)
    | none => .error .invalid

end MessageSchema.Numeral
