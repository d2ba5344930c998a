import MessageSchema.Proofs.DecimalLiterals
import MessageSchema.Proofs.IntegerLiterals

/-! The grammar of JSON texts, told without the readers. The text of a value starts with its first
token and ends with its last one; blanks belong to what stands around it. -/
namespace MessageSchema.Json
open Numeral

def Blanks (space : List Char) : Prop :=
  ∀ c ∈ space, c ∈ [' ', '\t', '\n', '\r']

/-- A hexadecimal digit, in either case, and its value. -/
def HexDigit (c : Char) (n : Nat) : Prop :=
  "0123456789abcdef".toList[n]? = some c ∨ "0123456789ABCDEF".toList[n]? = some c

inductive FourDigits : List Char → Nat → Prop where
  | mk {a b c d : Char} {k l m n : Nat} : HexDigit a k → HexDigit b l → HexDigit c m → HexDigit d n →
      FourDigits [a, b, c, d] (0x1000 * k + 0x100 * l + 0x10 * m + n)

/-- The letters that may stand behind a backslash, and the characters they mean. -/
def shortEscapes : List (Char × Char) :=
  [('"', '"'), ('\\', '\\'), ('/', '/'), ('b', '\x08'), ('f', '\x0c'), ('n', '\n'), ('r', '\r'),
    ('t', '\t')]

/-- The ways to write a character between quotes. -/
inductive Spelling : Char → List Char → Prop where
  | plain {c : Char} : ' ' ≤ c → c ≠ '"' → c ≠ '\\' → Spelling c [c]
  | short {letter c : Char} : (letter, c) ∈ shortEscapes → Spelling c ['\\', letter]
  | unit {c : Char} {code : List Char} : FourDigits code c.toNat → Spelling c ('\\' :: 'u' :: code)
  /-- A surrogate pair, for a character that four digits cannot tell. -/
  | pair {c : Char} {leading trailing : List Char} {high low : Nat} :
      FourDigits leading (0xD800 + high) → FourDigits trailing (0xDC00 + low) → high < 0x400 →
      low < 0x400 → c.toNat = 0x10000 + 0x400 * high + low →
      Spelling c ('\\' :: 'u' :: (leading ++ '\\' :: 'u' :: trailing))

inductive Spelled : List Char → List Char → Prop where
  | nil : Spelled [] []
  | cons {c : Char} {rest spelling body : List Char} : Spelling c spelling → Spelled rest body →
      Spelled (c :: rest) (spelling ++ body)

/-- A text in quotes. -/
def TextLiteral (s : String) (written : List Char) : Prop :=
  ∃ body, Spelled s.toList body ∧ written = '"' :: (body ++ ['"'])

/-- What may stand between quotes by the grammar alone. Surrogates need not come in pairs. -/
inductive TextPiece : List Char → Prop where
  | plain {c : Char} : ' ' ≤ c → c ≠ '"' → c ≠ '\\' → TextPiece [c]
  | short {letter c : Char} : (letter, c) ∈ shortEscapes → TextPiece ['\\', letter]
  | unit {code : List Char} {n : Nat} : FourDigits code n → TextPiece ('\\' :: 'u' :: code)

def IsText (written : List Char) : Prop :=
  ∃ pieces : List (List Char),
    (∀ piece ∈ pieces, TextPiece piece) ∧ written = '"' :: (pieces.flatten ++ ['"'])

/-- Digits without a zero in front, unless that is all. -/
def IsWhole (written : List Char) : Prop :=
  IsNumeral written ∧ (written.head? = some '0' → written = ['0'])

inductive IsFraction : List Char → Prop where
  | none : IsFraction []
  | point {decimals : List Char} : IsNumeral decimals → IsFraction ('.' :: decimals)

/-- A number of any size. -/
inductive IsNumber : List Char → Prop where
  | mk {sign whole fraction exponent : List Char} : sign = [] ∨ sign = ['-'] → IsWhole whole →
      IsFraction fraction → ExponentPart exponent →
      IsNumber (sign ++ (whole ++ (fraction ++ exponent)))

/-- What follows an element between brackets: further elements, each behind a comma. -/
inductive Further : List (List Char) → List Char → Prop where
  | done {space : List Char} : Blanks space → Further [] space
  | more {before after element body : List Char} {elements : List (List Char)} : Blanks before →
      Blanks after → Further elements body →
      Further (element :: elements) (before ++ ',' :: (after ++ (element ++ body)))

/-- The elements that stand between two brackets. -/
inductive Elements : List (List Char) → List Char → Prop where
  | none {space : List Char} : Blanks space → Elements [] space
  | some {space element body : List Char} {elements : List (List Char)} : Blanks space →
      Further elements body → Elements (element :: elements) (space ++ (element ++ body))

def ArrayText (items : List (List Char)) (written : List Char) : Prop :=
  ∃ body, Elements items body ∧ written = '[' :: (body ++ [']'])

/-- A key, as `keyed` says that it may be written, and the text of its value. -/
def MemberText (keyed : κ → List Char → Prop) (member : κ × List Char) (written : List Char) : Prop :=
  ∃ key before after, keyed member.1 key ∧ Blanks before ∧ Blanks after ∧
    written = key ++ (before ++ ':' :: (after ++ member.2))

def ObjectText (keyed : κ → List Char → Prop) (members : List (κ × List Char)) (written : List Char) :
    Prop :=
  ∃ elements body, List.Forall₂ (MemberText keyed) members elements ∧ Elements elements body ∧
    written = '{' :: (body ++ ['}'])

/-- A well-formed value of any kind, nested to any depth. -/
inductive IsValue : List Char → Prop where
  | null : IsValue ['n', 'u', 'l', 'l']
  | true : IsValue ['t', 'r', 'u', 'e']
  | false : IsValue ['f', 'a', 'l', 's', 'e']
  | number {written : List Char} : IsNumber written → IsValue written
  | text {written : List Char} : IsText written → IsValue written
  | array {items : List (List Char)} {written : List Char} : ArrayText items written →
      (∀ item ∈ items, IsValue item) → IsValue written
  | object {members : List (Unit × List Char)} {written : List Char} :
      ObjectText (fun _ => IsText) members written → (∀ member ∈ members, IsValue member.2) →
      IsValue written

/-- The decimal text of an integer. -/
def IntegerText (n : Int) (written : List Char) : Prop :=
  written = (writeInteger n).toList

/-- The digits of a number that has no sign. -/
def NaturalText (n : Nat) (written : List Char) : Prop :=
  IsWhole written ∧ Nat.ofDigitChars 10 written 0 = n

/-- Nothing is written as `null`. -/
inductive NullOr (item : α → List Char → Prop) : Option α → List Char → Prop where
  | null : NullOr item none ['n', 'u', 'l', 'l']
  | some {value : α} {written : List Char} : item value written → NullOr item (some value) written

/-- An array of values that are written one by one, of at most so many levels of brackets. -/
def ListText (levels : Nat) (item : α → List Char → Prop) (values : List α) (written : List Char) :
    Prop :=
  0 < levels ∧ ∃ items, List.Forall₂ item values items ∧ ArrayText items written

/-- A member of the records of a type: its key, the value that it shows, how that value is written,
and which value need not be. -/
structure Form (σ : Type) where
  {Value : Type}
  key : String
  get : σ → Value
  writes : Value → List Char → Prop
  unwritten : Option Value

/-- The members that write a record, in any order and among any others. -/
structure Written (forms : List (Form σ)) (record : σ) (members : List (String × List Char)) :
    Prop where
  known : ∀ form ∈ forms, ∀ written, (form.key, written) ∈ members →
    form.writes (form.get record) written
  unknown : ∀ member ∈ members, member.1 ∉ forms.map Form.key → IsValue member.2
  once : ∀ form ∈ forms, (members.map Prod.fst).count form.key ≤ 1
  complete : ∀ form ∈ forms, form.key ∉ members.map Prod.fst →
    form.unwritten = some (form.get record)

/-- An object of at most so many levels of brackets. The values of unknown keys do not count. -/
def RecordText (levels : Nat) (forms : List (Form σ)) (record : σ) (written : List Char) : Prop :=
  0 < levels ∧ ∃ members, ObjectText TextLiteral members written ∧ Written forms record members

end MessageSchema.Json
