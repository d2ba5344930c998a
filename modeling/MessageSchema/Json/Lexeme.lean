import MessageSchema.Json.Reader

/-! The words, texts and number texts of JSON. A text is read strictly, with surrogate escapes in
pairs, or skipped, where any four hexadecimal digits make an escape. -/
namespace MessageSchema.Json
open Reader

def isBlank (c : Char) : Bool :=
  c = ' ' || c = '\n' || c = '\t' || c = '\r'

def skipBlanks (text : List Char) : List Char :=
  text.dropWhile isBlank

/-- The letters of a word such as `null` that stand behind its first one. -/
def letters : List Char → Reader Unit
  | [], text => .ok ((), text)
  | _ :: _, [] => .error .truncated
  | letter :: others, c :: rest => if c = letter then letters others rest else .error .malformed

def hexDigit? (c : Char) : Option Nat :=
  if c.isDigit then some (c.toNat - '0'.toNat)
  else if 'a' ≤ c ∧ c ≤ 'f' then some (c.toNat - 'a'.toNat + 10)
  else if 'A' ≤ c ∧ c ≤ 'F' then some (c.toNat - 'A'.toNat + 10)
  else none

/-- Four hexadecimal digits. The text is too short where fewer than four bytes are left. -/
def fourHexDigits : Reader Nat
  | a :: b :: c :: d :: rest =>
    match hexDigit? a, hexDigit? b, hexDigit? c, hexDigit? d with
    | some a, some b, some c, some d => .ok (((a * 16 + b) * 16 + c) * 16 + d, rest)
    | _, _, _, _ => .error .malformed
  | short => .error (if (String.ofList short).utf8ByteSize < 4 then .truncated else .malformed)

def shortEscape? : Char → Option Char
  | '"' => some '"'
  | '\\' => some '\\'
  | '/' => some '/'
  | 'b' => some '\x08'
  | 'f' => some '\x0c'
  | 'n' => some '\n'
  | 'r' => some '\r'
  | 't' => some '\t'
  | _ => none

def isLeadingSurrogate (unit : Nat) : Bool :=
  0xD800 ≤ unit && unit < 0xDC00

def isTrailingSurrogate (unit : Nat) : Bool :=
  0xDC00 ≤ unit && unit < 0xE000

/-- The trailing half of a surrogate pair, as an escape of its own. -/
def trailingSurrogate : Reader Nat
  | [] | ['\\'] => .error .truncated
  | '\\' :: 'u' :: rest =>
    match fourHexDigits rest with
    | .ok (unit, rest) => if isTrailingSurrogate unit then .ok (unit, rest) else .error .malformed
    | .error fault => .error fault
  | _ => .error .malformed

/-- The digits of a `\u` escape and, for a leading surrogate, the escape that completes it. -/
def unicodeEscape : Reader Char := fun text => do
  let (unit, rest) ← fourHexDigits text
  if isTrailingSurrogate unit then .error .malformed
  else if isLeadingSurrogate unit then
    let (trailing, rest) ← trailingSurrogate rest
    .ok (Char.ofNat (0x10000 + (unit - 0xD800) * 0x400 + (trailing - 0xDC00)), rest)
  else .ok (Char.ofNat unit, rest)

def escape : Reader Char
  | [] => .error .truncated
  | 'u' :: rest => unicodeEscape rest
  | c :: rest =>
    match shortEscape? c with
    | some character => .ok (character, rest)
    | none => .error .malformed

/-- One character of a text, or the quote that ends it; `before` holds the characters so far, the
last one first. Control characters have to be escaped. -/
def textRound (before : List Char) : Reader (Round (List Char) String)
  | [] => .error .truncated
  | '"' :: rest => .ok (.done (String.ofList before.reverse), rest)
  | '\\' :: rest => (escape.map fun c => .again (c :: before)) rest
  | c :: rest => if c < ' ' then .error .malformed else .ok (.again (c :: before), rest)

/-- The text behind an opening quote, up to the closing one. -/
def textBody : Reader String :=
  loop textRound []

def skippedEscape : Reader Unit
  | [] => .error .truncated
  | 'u' :: rest => (fourHexDigits.map fun _ => ()) rest
  | c :: rest => if (shortEscape? c).isSome then .ok ((), rest) else .error .malformed

def skippedTextRound (_ : Unit) : Reader (Round Unit Unit)
  | [] => .error .truncated
  | '"' :: rest => .ok (.done (), rest)
  | '\\' :: rest => (skippedEscape.map .again) rest
  | c :: rest => if c < ' ' then .error .malformed else .ok (.again (), rest)

def skippedTextBody : Reader Unit :=
  loop skippedTextRound ()

structure NumberText where
  negative : Bool
  whole : List Char
  /-- The digits behind a point. -/
  fraction : Option (List Char)
  /-- The sign, true for a minus, and the digits behind an exponent mark. -/
  exponent : Option (Bool × List Char)
deriving DecidableEq, Repr

/-- At least one digit; `atEnd` is the fault where the text ends before it. -/
def digits (atEnd : Fault) : Reader (List Char) := fun text =>
  match text with
  | [] => .error atEnd
  | c :: _ =>
    if c.isDigit then .ok (text.takeWhile Char.isDigit, text.dropWhile Char.isDigit)
    else .error .malformed

/-- The digits in front of a point. A zero in front stands alone. -/
def wholeDigits (atEnd : Fault) : Reader (List Char) := fun text => do
  let (whole, rest) ← digits atEnd text
  if whole.head? = some '0' ∧ whole.length ≠ 1 then .error .malformed else .ok (whole, rest)

def fractionPart (atEnd : Fault) : Reader (Option (List Char))
  | '.' :: rest => (digits atEnd).map some rest
  | text => .ok (none, text)

/-- The optional sign of an exponent; true for a minus. -/
def exponentSign : List Char → Bool × List Char
  | '-' :: rest => (true, rest)
  | '+' :: rest => (false, rest)
  | text => (false, text)

def exponentPart (atEnd : Fault) : Reader (Option (Bool × List Char))
  | [] => .ok (none, [])
  | c :: rest =>
    if c = 'e' ∨ c = 'E' then
      let (negative, text) := exponentSign rest
      (digits atEnd).map (fun size => some (negative, size)) text
    else .ok (none, c :: rest)

def startsNumber (c : Char) : Bool :=
  c = '-' || c.isDigit

def numberText (atEnd : Fault) : Reader NumberText := fun text => do
  let (negative, text) := match text with
    | '-' :: rest => (true, rest)
    | _ => (false, text)
  let (whole, text) ← wholeDigits atEnd text
  let (fraction, text) ← fractionPart atEnd text
  let (exponent, text) ← exponentPart atEnd text
  .ok (⟨negative, whole, fraction, exponent⟩, text)

end MessageSchema.Json
