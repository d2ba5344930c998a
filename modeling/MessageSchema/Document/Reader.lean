import MessageSchema.Document
import MessageSchema.Label
import MessageSchema.Json.Record

/-! Reading a schema document from JSON text. Each record lists its members in declaration order and
says which of them may be left out. -/
namespace MessageSchema
open Json

/-- How deep brackets may nest in the known parts of a document. -/
def maxDepth : Nat := 127

namespace EnumValue

def members : List (Member EnumValue) := [
  .needed "name" Json.text fun value name => { value with name },
  .needed "number" (integer (.signed 32)) fun value number => { value with number := number.toInt32 }]

def read (depth : Nat) : Reader EnumValue :=
  record depth members ⟨"", 0⟩

end EnumValue

namespace EnumDef

def members (depth : Nat) : List (Member EnumDef) := [
  .needed "name" Json.text fun definition name => { definition with name },
  .optional "values" (list depth (EnumValue.read (depth - 1))) fun definition values =>
    { definition with values }]

def read (depth : Nat) : Reader EnumDef :=
  record depth (members (depth - 1)) ⟨"", []⟩

end EnumDef

namespace FieldDef

/-- A field without name, number and type, which has the label of fields that do not say. -/
def blank : FieldDef :=
  ⟨"", 0, Label.optional.keyword, "", none, none⟩

def members (depth : Nat) : List (Member FieldDef) := [
  .needed "name" Json.text fun definition name => { definition with name },
  .needed "number" (integer (.signed 64)) fun definition number =>
    { definition with number := number.toInt64 },
  .optional "label" Json.text fun definition label => { definition with label },
  .needed "type" Json.text fun definition tag => { definition with tag },
  .optional "type_name" (orNull Json.text) fun definition typeName => { definition with typeName },
  .optional "default" (orNull (Value.read depth)) fun definition default =>
    { definition with default }]

def read (depth : Nat) : Reader FieldDef :=
  record depth (members (depth - 1)) blank

end FieldDef

namespace MessageDef

/-- The members of a message, given the reader of its nested messages. -/
def members (depth : Nat) (nested : Reader (List MessageDef)) : List (Member MessageDef) := [
  .needed "name" Json.text fun definition name => { definition with name },
  .optional "fields" (list depth (FieldDef.read (depth - 1))) fun definition fields =>
    { definition with fields },
  .optional "enums" (list depth (EnumDef.read (depth - 1))) fun definition enums =>
    { definition with enums },
  .optional "messages" nested fun definition messages => { definition with messages }]

def blank : MessageDef :=
  ⟨"", [], [], []⟩

mutual

def read : Nat → Reader MessageDef
  | 0 => record 0 [] blank
  | depth + 1 => record (depth + 1) (members depth (readAll depth)) blank

def readAll : Nat → Reader (List MessageDef)
  | 0 => list 0 (fun _ => .error .malformed)
  | depth + 1 => list (depth + 1) (read depth)

end

end MessageDef

namespace Document

def members (depth : Nat) : List (Member Document) := [
  .optional "package" (orNull Json.text) fun document package => { document with package },
  .optional "enums" (list depth (EnumDef.read (depth - 1))) fun document enums =>
    { document with enums },
  .optional "messages" (MessageDef.readAll depth) fun document messages =>
    { document with messages }]

def read : Reader Document :=
  record maxDepth (members (maxDepth - 1)) ⟨none, [], []⟩

/-- The document that a text writes; only blanks may follow it. -/
def ofText (text : String) : Except Fault Document := do
  let (document, rest) ← read text.toList
  if skipBlanks rest = [] then .ok document else .error .malformed

end Document

end MessageSchema
