import MessageSchema.Json.Value

/-! The compact text of a value, without blanks. -/
namespace MessageSchema.Json

/-- A character of a text as written between the quotes: quotes, backslashes and control characters
are escaped, the latter by a letter where they have one. -/
def escaped (c : Char) : List Char :=
  match c with
  | '"' => ['\\', '"']
  | '\\' => ['\\', '\\']
  | '\x08' => ['\\', 'b']
  | '\x0c' => ['\\', 'f']
  | '\n' => ['\\', 'n']
  | '\r' => ['\\', 'r']
  | '\t' => ['\\', 't']
  | _ =>
    if c < ' ' then
      ['\\', 'u', '0', '0', Nat.digitChar (c.toNat / 16), Nat.digitChar (c.toNat % 16)]
    else [c]

/-- A text in quotes. -/
def textLiteral (s : String) : String :=
  String.ofList ('"' :: s.toList.flatMap escaped ++ ['"'])

/-- A text in braces. -/
def braced (s : String) : String :=
  String.ofList ('{' :: s.toList ++ ['}'])

theorem toList_textLiteral (s : String) :
    (textLiteral s).toList = '"' :: (s.toList.flatMap escaped ++ ['"']) :=
  String.toList_ofList

theorem toList_braced (s : String) : (braced s).toList = '{' :: (s.toList ++ ['}']) :=
  String.toList_ofList

namespace Value

mutual

/-- The compact text of a value. -/
def compact : Value → String
  | null => "null"
  | bool b => if b then "true" else "false"
  | number n => n.text
  | text s => textLiteral s
  | array items => "[" ++ ",".intercalate (compactItems items) ++ "]"
  | object members => braced (",".intercalate (compactMembers members))

def compactItems : List Value → List String
  | [] => []
  | item :: rest => item.compact :: compactItems rest

def compactMembers : List (String × Value) → List String
  | [] => []
  | (key, value) :: rest => (textLiteral key ++ ":" ++ value.compact) :: compactMembers rest

end

end Value

end MessageSchema.Json
