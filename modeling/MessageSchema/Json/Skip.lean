import MessageSchema.Json.Lexeme

/-! Skipping a value that nobody asked for. Only its grammar counts: numbers may be out of range,
surrogates may stand alone, and brackets nest to any depth, since open ones are kept in a list. -/
namespace MessageSchema.Json
open Reader

inductive Frame where
  | array
  | object
deriving DecidableEq, Repr

def Frame.close : Frame → Char
  | array => ']'
  | object => '}'

/-- What comes next: a value, or something inside the innermost frame, which is `fresh` as long as
nothing stands in it. -/
inductive Awaiting where
  | value (outer : List Frame)
  | inside (fresh : Bool) (frame : Frame) (outer : List Frame)
deriving DecidableEq, Repr

/-- Where a complete value leads: outside all frames the skipping is done. -/
def afterValue : List Frame → Round Awaiting Unit
  | [] => .done ()
  | frame :: outer => .again (.inside false frame outer)

def colon : Reader Unit := fun text =>
  match skipBlanks text with
  | [] => .error .truncated
  | c :: rest => if c = ':' then .ok ((), rest) else .error .malformed

/-- The key of a member and the colon behind it. -/
def skipKey : Reader Unit := fun text =>
  match skipBlanks text with
  | [] => .error .truncated
  | '"' :: rest => do
    let (_, rest) ← skippedTextBody rest
    colon rest
  | _ => .error .malformed

/-- A value without brackets, or the opening bracket of another. -/
def skipStart (outer : List Frame) : Reader (Round Awaiting Unit) := fun text =>
  let complete (reader : Reader Unit) := reader.map fun _ => afterValue outer
  match skipBlanks text with
  | [] => .error .truncated
  | 'n' :: rest => complete (letters ['u', 'l', 'l']) rest
  | 't' :: rest => complete (letters ['r', 'u', 'e']) rest
  | 'f' :: rest => complete (letters ['a', 'l', 's', 'e']) rest
  | '"' :: rest => complete skippedTextBody rest
  | '[' :: rest => .ok (.again (.inside true .array outer), rest)
  | '{' :: rest => .ok (.again (.inside true .object outer), rest)
  | c :: rest =>
    if startsNumber c then ((numberText .malformed).map fun _ => afterValue outer) (c :: rest)
    else .error .malformed

/-- The next item of an array or member of an object, up to where its value starts. -/
def skipItem (frame : Frame) (outer : List Frame) : Reader (Round Awaiting Unit) :=
  match frame with
  | .array => skipStart (frame :: outer)
  | .object => skipKey.map fun _ => .again (.value (frame :: outer))

def skipRound : Awaiting → Reader (Round Awaiting Unit)
  | .value outer, text => skipStart outer text
  | .inside fresh frame outer, text =>
    match skipBlanks text with
    | [] => .error .truncated
    | c :: rest =>
      if c = frame.close then .ok (afterValue outer, rest)
      else if fresh then skipItem frame outer (c :: rest)
      else if c = ',' then skipItem frame outer rest
      else .error .malformed

def skipValue : Reader Unit :=
  loop skipRound (.value [])

end MessageSchema.Json
