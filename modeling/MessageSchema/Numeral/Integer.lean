/-! Integer literals within a range: an optional sign and decimal digits. Digits are taken from the
left, and the first one that leaves the range, or is no digit, decides the fault. -/
namespace MessageSchema.Numeral

structure Range where
  low : Int
  high : Int
deriving DecidableEq, Repr

namespace Range

def signed (width : Nat) : Range :=
  let half : Int := Nat.pow 2 (width - 1)
  ⟨-half, half - 1⟩

def unsigned (width : Nat) : Range :=
  ⟨0, (Nat.pow 2 width : Nat) - 1⟩

def contains (range : Range) (n : Int) : Bool :=
  range.low ≤ n && n ≤ range.high

/-- Only a range with negative members lets a literal start with a minus sign. -/
def hasNegative (range : Range) : Bool :=
  range.low < 0

end Range

/-- Why a text is no integer literal of a range. -/
inductive IntegerFault where
  | empty
  | notADigit
  | tooLarge
  | tooSmall
deriving DecidableEq, Repr

def digit? (c : Char) : Option Nat :=
  if c.isDigit then some (c.toNat - '0'.toNat) else none

/-- Continues a literal after `total`, away from zero, while it stays inside the range. -/
def extend (range : Range) (negative : Bool) (total : Int) : List Char → Except IntegerFault Int
  | [] => .ok total
  | c :: rest =>
    match digit? c with
    | none => .error .notADigit
    | some d =>
      let next := if negative then total * 10 - d else total * 10 + d
      if next < range.low then .error .tooSmall
      else if range.high < next then .error .tooLarge
      else extend range negative next rest

/-- The digits of a literal, of which there is at least one. -/
def magnitude (range : Range) (negative : Bool) : List Char → Except IntegerFault Int
  | [] => .error .notADigit
  | c :: rest => extend range negative 0 (c :: rest)

/-- Reads an integer literal of a range. A plus sign is always allowed. -/
def readInteger (range : Range) (text : String) : Except IntegerFault Int :=
  match text.toList with
  | [] => .error .empty
  | '+' :: digits => magnitude range false digits
  | '-' :: digits => if range.hasNegative then magnitude range true digits else .error .notADigit
  | digits => magnitude range false digits

/-- The decimal text of an integer: no plus sign and no leading zeros. -/
def writeInteger (n : Int) : String :=
  let digits := Nat.toDigits 10 n.natAbs
  String.ofList (if n < 0 then '-' :: digits else digits)

end MessageSchema.Numeral
