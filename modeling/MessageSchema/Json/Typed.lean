import MessageSchema.Json.Number
import MessageSchema.Json.Skip

/-! Readers that expect a value of one kind. Where another kind of value stands, its first word,
text or number is still read, so that a fault in it comes before the mismatch. -/
namespace MessageSchema.Json
open Reader

/-- The fault of a value that is read and then found to be of the wrong kind. -/
def mismatch (result : Except Fault α) : Fault :=
  match result with
  | .ok _ => .mismatched
  | .error fault => fault

/-- The fault where a value of another kind was expected at this place. -/
def wrongKind : List Char → Fault
  | [] => .truncated
  | 'n' :: rest => mismatch (letters ['u', 'l', 'l'] rest)
  | 't' :: rest => mismatch (letters ['r', 'u', 'e'] rest)
  | 'f' :: rest => mismatch (letters ['a', 'l', 's', 'e'] rest)
  | '"' :: rest => mismatch (textBody rest)
  | '[' :: _ | '{' :: _ => .mismatched
  | c :: rest => if startsNumber c then mismatch (Number.read (c :: rest)) else .malformed

/-- Expects a text. -/
def text : Reader String := fun input =>
  match skipBlanks input with
  | '"' :: rest => textBody rest
  | other => .error (wrongKind other)

/-- Expects an integer of a range. -/
def integer (range : Numeral.Range) : Reader Int := fun input =>
  match skipBlanks input with
  | [] => .error .truncated
  | c :: rest =>
    if startsNumber c then
      match Number.read (c :: rest) with
      | .ok (.integer n, rest) => if range.contains n then .ok (n, rest) else .error .mismatched
      | .ok (.real _, _) => .error .mismatched
      | .error fault => .error fault
    else .error (wrongKind (c :: rest))

/-- Expects `null`, which stands for nothing, or what the reader expects. -/
def orNull (reader : Reader α) : Reader (Option α) := fun input =>
  match skipBlanks input with
  | 'n' :: rest => ((letters ['u', 'l', 'l']).map fun _ => none) rest
  | other => (reader.map some) other

/-- Moves to the next item of an array, or past its end; `fresh` before the first item. -/
def nextItem (fresh : Bool) : Reader Bool := fun input =>
  match skipBlanks input with
  | [] => .error .truncated
  | ']' :: rest => .ok (false, rest)
  | c :: rest =>
    if fresh then .ok (true, c :: rest)
    else if c = ',' then
      match skipBlanks rest with
      | [] => .error .truncated
      | ']' :: _ => .error .malformed
      | ahead => .ok (true, ahead)
    else .error .malformed

/-- One item, or the end of the array; `before` holds the items so far, the last one first. -/
def itemRound (item : Reader α) (before : List α) : Reader (Round (List α) (List α)) := fun input =>
  match nextItem before.isEmpty input with
  | .ok (true, ahead) => (item.map fun value => .again (value :: before)) ahead
  | .ok (false, rest) => .ok (.done before.reverse, rest)
  | .error fault => .error fault

/-- The items of an array behind its opening bracket. -/
def items (item : Reader α) : Reader (List α) :=
  loop (itemRound item) []

/-- Expects an array. Without depth left no bracket may open. -/
def list (depth : Nat) (item : Reader α) : Reader (List α) := fun input =>
  match skipBlanks input with
  | '[' :: rest => if depth = 0 then .error .malformed else items item rest
  | other => .error (wrongKind other)

/-- The key at this place. -/
def keyAhead : Reader String
  | [] => .error .truncated
  | '"' :: rest => textBody rest
  | _ => .error .malformed

/-- Moves to the next key of an object, or past its end; `fresh` before the first member. -/
def nextKey (fresh : Bool) : Reader (Option String) := fun input =>
  match skipBlanks input with
  | [] => .error .truncated
  | '}' :: rest => .ok (none, rest)
  | c :: rest =>
    if fresh then (keyAhead.map some) (c :: rest)
    else if c = ',' then (keyAhead.map some) (skipBlanks rest)
    else .error .malformed

end MessageSchema.Json
