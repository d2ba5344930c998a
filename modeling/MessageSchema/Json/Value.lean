import MessageSchema.Json.Typed

/-! Values of any kind. The members of an object are kept in the order of their keys, and of
several members with one key the last one counts. -/
namespace MessageSchema.Json
open Reader

inductive Value where
  | null
  | bool (b : Bool)
  | number (n : Number)
  | text (s : String)
  | array (items : List Value)
  | object (members : List (String × Value))

namespace Value

/-- Puts a member into members ordered by key. -/
def insert (key : String) (value : Value) : List (String × Value) → List (String × Value)
  | [] => [(key, value)]
  | (other, old) :: rest =>
    if key < other then (key, value) :: (other, old) :: rest
    else if key = other then (key, value) :: rest
    else (other, old) :: insert key value rest

/-- One member of an object, or its end. The state says whether no member was read yet. -/
def memberRound (value : Reader Value) (state : Bool × List (String × Value)) :
    Reader (Round (Bool × List (String × Value)) Value) := fun input => do
  let (fresh, members) := state
  let (key?, input) ← nextKey fresh input
  match key? with
  | some key =>
    let (_, input) ← colon input
    let (item, input) ← value input
    .ok (.again (false, insert key item members), input)
  | none => .ok (.done (.object members), input)

/-- A value of any kind, with brackets nested at most `depth` deep. -/
def read (depth : Nat) : Reader Value := fun input =>
  match skipBlanks input with
  | [] => .error .truncated
  | 'n' :: rest => ((letters ['u', 'l', 'l']).map fun _ => .null) rest
  | 't' :: rest => ((letters ['r', 'u', 'e']).map fun _ => .bool true) rest
  | 'f' :: rest => ((letters ['a', 'l', 's', 'e']).map fun _ => .bool false) rest
  | '"' :: rest => (textBody.map .text) rest
  | '[' :: rest =>
    match depth with
    | 0 => .error .malformed
    | deeper + 1 => ((items (read deeper)).map .array) rest
  | '{' :: rest =>
    match depth with
    | 0 => .error .malformed
    | deeper + 1 => loop (memberRound (read deeper)) (true, []) rest
  | c :: rest =>
    if startsNumber c then (Number.read.map .number) (c :: rest) else .error .malformed

end Value

end MessageSchema.Json
