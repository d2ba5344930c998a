import MessageSchema.Field

/-! Loaded schemas: every message with its fields, and the look-ups in them. -/
namespace MessageSchema

structure Message where
  id : TypeName
  fields : List Field
deriving Repr

namespace Message

def fullName (message : Message) : String :=
  message.id.fullName

def field? (message : Message) (name : String) : Option Field :=
  message.fields.find? (·.name = name)

def fieldByNumber? (message : Message) (number : UInt32) : Option Field :=
  message.fields.find? (·.number = number)

end Message

structure Schema where
  package : Option String
  /-- Every enum, nested ones included. -/
  enums : List EnumType
  /-- Every message, nested ones behind the message around them. -/
  messages : List Message
deriving Repr

namespace Schema

/-- The message of a full name, which may start with a dot. -/
def message? (schema : Schema) (name : String) : Option Message :=
  let fullName := (Dotted.absolute? name).getD name
  schema.messages.find? (·.fullName = fullName)

/-- How many fields refer to a type that is not known. -/
def unresolvedCount (schema : Schema) : Nat :=
  (schema.messages.flatMap Message.fields).countP fun field => !field.isScalar && !field.isResolved

end Schema

end MessageSchema
