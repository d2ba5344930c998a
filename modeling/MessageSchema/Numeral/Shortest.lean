import MessageSchema.Numeral.Decimal

/-! The shortest decimal digits of a magnitude: of all decimals that read back as it, one with the
fewest digits, and of those the nearest. All comparisons are between natural numbers. -/
namespace MessageSchema.Numeral

inductive Tie where
  | toEven
  | up
deriving DecidableEq, Repr

/-- The decimals that read back as `value / unit` lie between `low / unit` and `high / unit`; the
ends count when `closed`. -/
structure Interval where
  low : Nat
  value : Nat
  high : Nat
  unit : Nat
  closed : Bool

namespace Interval

/-- Half the distance to the neighbours on both sides. The lower neighbour of a power of two is
nearer, unless it has the same exponent. An even significand also wins ties at the ends. -/
def ofMagnitude (m : Magnitude) : Interval :=
  let atPower := m.significand = Nat.pow 2 Binary64.fractionBits ∧ Binary64.minExponent < m.exponent
  let scale := Nat.pow 2 m.exponent.toNat
  { low := (4 * m.significand - if atPower then 1 else 2) * scale
    value := 4 * m.significand * scale
    high := (4 * m.significand + 2) * scale
    unit := 4 * Nat.pow 2 (-m.exponent).toNat
    closed := m.significand % 2 = 0 }

/-- The interval in units of `10 ^ exponent`. -/
def scaled (interval : Interval) (exponent : Int) : Interval :=
  let up := Nat.pow 10 (-exponent).toNat
  { interval with
    low := interval.low * up
    value := interval.value * up
    high := interval.high * up
    unit := interval.unit * Nat.pow 10 exponent.toNat }

/-- Whether the natural number `n` lies in the interval. -/
def contains (interval : Interval) (n : Nat) : Bool :=
  let point := n * interval.unit
  if interval.closed then interval.low ≤ point && point ≤ interval.high
  else interval.low < point && point < interval.high

/-- The natural number in the interval next to its value, if one of the value's two neighbours lies
in it. -/
def nearest? (tie : Tie) (interval : Interval) : Option Nat :=
  let below := interval.value / interval.unit
  match interval.contains below, interval.contains (below + 1) with
  | true, true =>
    let twice := 2 * (interval.value % interval.unit)
    if twice < interval.unit then some below
    else if interval.unit < twice then some (below + 1)
    else
      match tie with
      | .toEven => some (below + below % 2)
      | .up => some (below + 1)
  | true, false => some below
  | false, true => some (below + 1)
  | false, false => none

/-- The `k` with `10 ^ k ≤ value / unit < 10 ^ (k + 1)`, for values from `10 ^ -350`. -/
def leading (interval : Interval) : Int :=
  decimalLength (interval.value * Nat.pow 10 350 / interval.unit) - 351

end Interval

/-- Enough digits to tell any two magnitudes apart. -/
def maxDigits : Nat := 17

/-- Drops the zeros at the end of the digits and raises the exponent for each. -/
def trimZeros (digits : List Char) (exponent : Int) : List Char × Int :=
  let zeros := (digits.reverse.takeWhile (· = '0')).length
  (digits.take (digits.length - zeros), exponent + zeros)

/-- The shortest digits of a positive magnitude and the exponent of the last of them. Each grid of
decimals is tried in turn, from one digit on; the last one has a point in every interval. -/
def shortest (tie : Tie) (m : Magnitude) : List Char × Int :=
  let interval := Interval.ofMagnitude m
  let leading := interval.leading
  let grid? (places : Nat) : Option (List Char × Int) :=
    let exponent := leading - places
    ((interval.scaled exponent).nearest? tie).map fun n =>
      trimZeros (Nat.toDigits 10 n) exponent
  ((List.range maxDigits).findSome? grid?).getD ([], 0)

end MessageSchema.Numeral
