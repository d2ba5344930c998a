import MessageSchema.Numeral.Shortest

/-! Written forms of floating point numbers. The digits are always the shortest; a layout says where
positional notation ends, whether whole numbers keep a decimal, and how ties between equally near
digits go. -/
namespace MessageSchema.Numeral

structure Layout where
  /-- Whether numbers with this leading exponent are written positionally. -/
  positional : Int → Bool
  /-- What follows the digits of a whole number in positional notation. -/
  wholeMark : String
  tie : Tie

namespace Layout

/-- Digits with a point at the place that the leading exponent gives. -/
def point (layout : Layout) (digits : List Char) (leading : Int) : List Char :=
  if leading < 0 then
    '0' :: '.' :: List.replicate (-leading - 1).toNat '0' ++ digits
  else
    let whole := leading.toNat + 1
    if digits.length ≤ whole then
      digits ++ List.replicate (whole - digits.length) '0' ++ layout.wholeMark.toList
    else digits.take whole ++ '.' :: digits.drop whole

/-- One digit, the others behind a point, and the exponent with its sign. -/
def scientific (digits : List Char) (leading : Int) : List Char :=
  let fraction := match digits.drop 1 with
    | [] => []
    | rest => '.' :: rest
  let sign := if leading < 0 then '-' else '+'
  digits.take 1 ++ fraction ++ 'e' :: sign :: Nat.toDigits 10 leading.natAbs

def magnitude (layout : Layout) (m : Magnitude) : List Char :=
  if m.significand = 0 then '0' :: layout.wholeMark.toList
  else
    let (digits, exponent) := shortest layout.tie m
    let leading := exponent + digits.length - 1
    if layout.positional leading then layout.point digits leading else scientific digits leading

/-- A minus sign in front of a negative number, zero and infinity included. -/
def signed (negative : Bool) (text : List Char) : String :=
  String.ofList (if negative then '-' :: text else text)

def text (layout : Layout) (x : Float) : String :=
  match Binary64.ofBits x.toBits with
  | .nan => "NaN"
  | .infinite negative => signed negative "inf".toList
  | .finite negative m => signed negative (layout.magnitude m)

end Layout

end MessageSchema.Numeral
