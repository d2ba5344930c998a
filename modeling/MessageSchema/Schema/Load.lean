import MessageSchema.Document.Reader
import MessageSchema.Event
import MessageSchema.Registry
import MessageSchema.Schema

/-! Loading a schema in two passes: all types are registered before the first field is built, so a
reference may point forward, backward or into nested types. -/
namespace MessageSchema

/-- The number in 32 bits without a sign, where it fits. -/
def wireNumber? (number : Int64) : Option UInt32 :=
  if (Numeral.Range.unsigned 32).contains number.toInt then some number.toInt.toNat.toUInt32 else none

/-- The literal that a default in a document stands for: a text itself, a number or truth value by
its text. -/
def Json.Value.literal? : Json.Value → Option String
  | .text s => some s
  | .number n => some n.text
  | .bool b => some (if b then "true" else "false")
  | .null | .array _ | .object _ => none

namespace FieldDef

/-- The type reference of the field: its own, or else its tag. -/
def reference (definition : FieldDef) : String :=
  definition.typeName.getD definition.tag

def attach (field : Field) (type : UserType) : Except Error Field :=
  let named := field.setDeclaredName type.id.name
  let placed := match type.id.scope with
    | some scope => named.setScope scope
    | none => named
  placed.attach type

/-- Declares what the reference says, for a type that is not known. -/
def declareWritten (field : Field) (reference : String) : Field :=
  let (scope?, name) := Dotted.written reference
  match scope? with
  | some scope => (field.setScope scope).setDeclaredName name
  | none => field.setDeclaredName name

/-- Sets the declared type of a field of the message `scope`, and attaches it where it resolves. -/
def refer (registry : Registry) (scope : String) (definition : FieldDef) (field : Field) :
    Traced Field :=
  if field.isScalar then
    match definition.typeName with
    | some name => pure (field.setDeclaredName name)
    | none => pure field
  else
    match registry.resolve? scope definition.reference with
    | some type => do
      Traced.emit (.resolved definition.name scope type.fullName)
      Traced.ofExcept (attach field type)
    | none => do
      Traced.emit (.unresolved definition.name scope definition.reference)
      pure (declareWritten field definition.reference)

def giveDefault (definition : FieldDef) (field : Field) : Except Error Field :=
  match definition.default with
  | none => .ok field
  | some value =>
    match value.literal? with
    | none => .error (.schema (.defaultKind definition.name value))
    | some literal => do
      let value ← field.readDefault literal
      .ok { field with defaultValue := some value }

/-- The number of the field on the wire. -/
def wireNumber (scope : String) (definition : FieldDef) : Except Error UInt32 :=
  if 1 ≤ definition.number.toInt ∧ definition.number.toInt ≤ maxFieldNumber then
    match wireNumber? definition.number with
    | some number => .ok number
    | none => .error (.schema (.numberTooWide definition.name))
  else .error (.schema (.numberOutOfRange definition.name scope definition.number))

/-- The field with its own facts alone. -/
def start (scope : String) (definition : FieldDef) : Except Error Field := do
  let number ← definition.wireNumber scope
  let label ← Label.ofText definition.label
  .ok (.bare definition.name number label definition.tag)

def build (registry : Registry) (scope : String) (definition : FieldDef) : Traced Field := do
  let field ← Traced.ofExcept (definition.start scope)
  let field ← refer registry scope definition field
  Traced.ofExcept (definition.giveDefault field)

/-- Refuses a name or number that an earlier field of the message has. -/
def checkNew (scope : String) (earlier : List FieldDef) (definition : FieldDef) : Except Error Unit :=
  if earlier.any (·.name = definition.name) then
    .error (.schema (.repeatedFieldName definition.name scope))
  else if earlier.any (·.number = definition.number) then
    .error (.schema (.repeatedFieldNumber definition.number scope))
  else .ok ()

/-- Builds the fields of the message `scope` in order, behind the earlier ones. -/
def buildAll (registry : Registry) (scope : String) (earlier : List FieldDef) :
    List FieldDef → Traced (List Field)
  | [] => pure []
  | definition :: rest => do
    Traced.ofExcept (definition.checkNew scope earlier)
    let field ← definition.build registry scope
    let fields ← buildAll registry scope (definition :: earlier) rest
    pure (field :: fields)

end FieldDef

namespace Placed

/-- The identity under which the message is registered. -/
def registered (registry : Registry) (placed : Placed) : Except Error TypeName :=
  match registry.find? placed.fullName with
  | some (.message id) => .ok id
  | some (.enum _) | none => .error (.schema (.unregisteredMessage placed.fullName))

def build (registry : Registry) (placed : Placed) : Traced Message := do
  let id ← Traced.ofExcept (placed.registered registry)
  let fields ← FieldDef.buildAll registry placed.fullName [] placed.definition.fields
  pure ⟨id, fields⟩

def buildAll (registry : Registry) : List Placed → Traced (List Message)
  | [] => pure []
  | placed :: rest => do
    let message ← placed.build registry
    let messages ← buildAll registry rest
    pure (message :: messages)

end Placed

namespace Schema

def ofDocument (document : Document) : Traced Schema := do
  let registry ← Traced.ofExcept (Registry.ofTypes document.types)
  let messages ← Placed.buildAll registry document.placed
  let enums := document.types.filterMap UserType.asEnum?
  Traced.emit (.loaded (document.scope.getD "") messages.length enums.length)
  pure ⟨document.scope, enums, messages⟩

def ofText (text : String) : Traced Schema :=
  match Document.ofText text with
  | .ok document => ofDocument document
  | .error fault => .fail (.json fault)

/-- Loads the file of a path, given its bytes or why there are none. -/
def ofFile (path : String) (content : Except ReadFault ByteArray) : Traced Schema :=
  match content with
  | .ok bytes =>
    match String.fromUTF8? bytes with
    | some text => ofText text
    | none => .fail (.unreadable path .notUnicode)
  | .error fault => .fail (.unreadable path fault)

end Schema

end MessageSchema
