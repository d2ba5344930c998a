import MessageSchema.Text.Extending
import MessageSchema.Text.Ignorable
import MessageSchema.Text.Unprintable

/-! The quoted form of a text: every character of it can be seen. What has no printed form, may be
passed over, or would change the look of the character before it, is written by its code point. -/
namespace MessageSchema.Text

/-- Whether a code point lies in one of the ranges. -/
def inRanges (ranges : List (Nat × Nat)) (code : Nat) : Bool :=
  ranges.any fun (first, last) => first ≤ code && code ≤ last

/-- Whether a character stands for itself in a quoted text. -/
def isVisible (c : Char) : Bool :=
  !inRanges unprintable c.toNat && !inRanges ignorable c.toNat && !inRanges extending c.toNat

/-- A character as written between the quotes. -/
def quoteChar (c : Char) : List Char :=
  match c with
  | '"' => ['\\', '"']
  | '\\' => ['\\', '\\']
  | '\n' => ['\\', 'n']
  | '\r' => ['\\', 'r']
  | '\t' => ['\\', 't']
  | '\x00' => ['\\', '0']
  | _ =>
    if isVisible c then [c]
    else ['\\', 'u', '{'] ++ Nat.toDigits 16 c.toNat ++ ['}']

/-- The text in double quotes. -/
def quoted (text : String) : String :=
  String.ofList ('"' :: text.toList.flatMap quoteChar ++ ['"'])

end MessageSchema.Text
