import MessageSchema.Json.Typed

/-! Records with known members. A record is an object, in which members stand in any order and
unknown ones are skipped, or an array of its members in declaration order. -/
namespace MessageSchema.Json
open Reader

/-- A member of a record of type `σ`. A member that is not required keeps the value that the blank
record gives it. -/
structure Member (σ : Type) where
  key : String
  required : Bool
  /-- Reads the member's value into the record. -/
  read : σ → Reader σ

namespace Member

/-- A member that every record has to have. -/
def needed (key : String) (reader : Reader α) (store : σ → α → σ) : Member σ :=
  ⟨key, true, fun record => reader.map (store record)⟩

/-- A member that may be left out. -/
def optional (key : String) (reader : Reader α) (store : σ → α → σ) : Member σ :=
  ⟨key, false, fun record => reader.map (store record)⟩

end Member

/-- A record whose members are being read, and the keys of those already given. -/
structure Draft (σ : Type) where
  record : σ
  given : List String

namespace Draft

/-- The record, once no required member is missing. -/
def finish (members : List (Member σ)) (draft : Draft σ) : Except Fault σ :=
  if members.all fun m => !m.required || draft.given.contains m.key then .ok draft.record
  else .error .mismatched

/-- Reads what stands behind a key: the colon, and the value of a known member or one to skip. A
known member given before is refused at its key. -/
def readMember (members : List (Member σ)) (draft : Draft σ) (key : String) : Reader (Draft σ) :=
  fun input =>
    match members.find? (·.key = key) with
    | some m =>
      if draft.given.contains key then .error .mismatched
      else do
        let (_, input) ← colon input
        let (record, input) ← m.read draft.record input
        .ok (⟨record, key :: draft.given⟩, input)
    | none => do
      let (_, input) ← colon input
      let (_, input) ← skipValue input
      .ok (draft, input)

end Draft

/-- One member of an object, or its end. The state says whether no member was read yet. -/
def memberRound (members : List (Member σ)) (state : Bool × Draft σ) :
    Reader (Round (Bool × Draft σ) σ) := fun input => do
  let (fresh, draft) := state
  let (key?, input) ← nextKey fresh input
  match key? with
  | some key => ((draft.readMember members key).map fun next => .again (false, next)) input
  | none =>
    let record ← draft.finish members
    .ok (.done record, input)

/-- The members of an object behind its opening bracket. -/
def objectMembers (members : List (Member σ)) (blank : σ) : Reader σ :=
  loop (memberRound members) (true, ⟨blank, []⟩)

/-- The end of an array that holds nothing more. -/
def arrayEnd : Reader Unit := fun input =>
  match skipBlanks input with
  | [] => .error .truncated
  | c :: rest => if c = ']' then .ok ((), rest) else .error .malformed

/-- The members of a record in order behind the opening bracket of an array. Where the array ends,
the members left have to be ones that may be left out. -/
def arrayMembers : List (Member σ) → Bool → σ → Reader σ
  | [], _, record, input => (arrayEnd.map fun _ => record) input
  | m :: others, fresh, record, input =>
    match nextItem fresh input with
    | .ok (true, ahead) =>
      match m.read record ahead with
      | .ok (record, rest) => arrayMembers others false record rest
      | .error fault => .error fault
    | .ok (false, rest) =>
      if (m :: others).any (·.required) then .error .mismatched else .ok (record, rest)
    | .error fault => .error fault

/-- Expects a record. Without depth left no bracket may open. -/
def record (depth : Nat) (members : List (Member σ)) (blank : σ) : Reader σ := fun input =>
  match skipBlanks input with
  | '{' :: rest => if depth = 0 then .error .malformed else objectMembers members blank rest
  | '[' :: rest => if depth = 0 then .error .malformed else arrayMembers members true blank rest
  | other => .error (wrongKind other)

end MessageSchema.Json
