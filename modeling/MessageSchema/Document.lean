import MessageSchema.UserType
import MessageSchema.Json.Value

/-! Schema documents as written: definitions of enums, messages and fields, and the order in which
they declare types. -/
namespace MessageSchema

structure EnumDef where
  name : String
  values : List EnumValue
deriving DecidableEq, Repr

/-- A field definition. The number is any integer of 64 bits, so that one out of range can be
reported. -/
structure FieldDef where
  name : String
  number : Int64
  label : String
  /-- A scalar keyword, or the identifier of a user-defined type. -/
  tag : String
  /-- The type reference, where it differs from the tag. -/
  typeName : Option String
  default : Option Json.Value

structure MessageDef where
  name : String
  fields : List FieldDef
  enums : List EnumDef
  messages : List MessageDef

/-- A schema document. An absent package is the root scope. -/
structure Document where
  package : Option String
  enums : List EnumDef
  messages : List MessageDef

def EnumDef.declare (scope : Option String) (definition : EnumDef) : EnumType :=
  ⟨⟨definition.name, scope⟩, definition.values⟩

structure Placed where
  scope : Option String
  definition : MessageDef

namespace Placed

def id (placed : Placed) : TypeName :=
  ⟨placed.definition.name, placed.scope⟩

/-- The full name, which is also the scope of everything nested in the message. -/
def fullName (placed : Placed) : String :=
  placed.id.fullName

/-- The message itself and then its own enums. -/
def types (placed : Placed) : List UserType :=
  .message placed.id ::
    placed.definition.enums.map fun e => .enum (e.declare (some placed.fullName))

end Placed

mutual

/-- A message and all messages nested in it, each before its own nested ones. -/
def MessageDef.placed (scope : Option String) : MessageDef → List Placed
  | ⟨name, fields, enums, messages⟩ =>
    ⟨scope, ⟨name, fields, enums, messages⟩⟩ ::
      MessageDef.placedAll (some (Dotted.qualify scope name)) messages

def MessageDef.placedAll (scope : Option String) : List MessageDef → List Placed
  | [] => []
  | definition :: rest => definition.placed scope ++ MessageDef.placedAll scope rest

end

namespace Document

/-- The scope of the top level. An empty package is none. -/
def scope (document : Document) : Option String :=
  document.package.filter (· ≠ "")

/-- Every message, nested ones behind the message around them. -/
def placed (document : Document) : List Placed :=
  MessageDef.placedAll document.scope document.messages

/-- Every declared type: top-level enums, then each message with its enums. -/
def types (document : Document) : List UserType :=
  (document.enums.map fun e => .enum (e.declare document.scope)) ++
    document.placed.flatMap Placed.types

end Document

end MessageSchema
