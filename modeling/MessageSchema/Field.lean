import MessageSchema.Error
import MessageSchema.Identifier
import MessageSchema.Label

/-! Fields of a message. A field states its own facts and the name of its type; the user-defined
type it refers to is attached once that is known. An attached type is always the one that the field
declares, since every edit that changes the declaration lets go of it. -/
namespace MessageSchema

structure Field where
  name : String
  /-- The number on the wire. It is stored as given. -/
  number : UInt32
  label : Label
  /-- The type tag as written: a scalar keyword or the identifier of a user-defined type. -/
  tag : String
  declaredName : Option String
  scope : Option String
  target : Option UserType
  defaultValue : Option DefaultValue
deriving BEq, Repr

inductive Edit where
  | name (value : String)
  | number (value : UInt32)
  | label (value : Label)
  | tag (value : String)
  | declaredName (value : String)
  | scope (value : String)
  | defaultValue (value : DefaultValue)
  | target (type : UserType)

namespace Field

/-- A field that declares no type name and has no default. -/
def bare (name : String) (number : UInt32) (label : Label) (tag : String) : Field :=
  ⟨name, number, label, tag, none, none, none, none⟩

def scalar? (field : Field) : Option Scalar :=
  Scalar.ofTag? field.tag

def isScalar (field : Field) : Bool :=
  (Scalar.categoryOf? field.tag).isSome

theorem isScalar_eq (field : Field) : field.isScalar = (Scalar.ofTag? field.tag).isSome := by
  simp [isScalar, Scalar.categoryOf?]

def hasNative (field : Field) : Bool :=
  (Scalar.nativeOf? field.tag).isSome

def category (field : Field) : Except Error Category :=
  match Scalar.categoryOf? field.tag with
  | some category => .ok category
  | none => .error (.notScalar field.tag)

def native (field : Field) : Except Error String :=
  match Scalar.nativeOf? field.tag with
  | some native => .ok native
  | none => .error (.notScalar field.tag)

def isResolved (field : Field) : Bool :=
  field.target.isSome

def isEnum (field : Field) : Bool :=
  (field.target.bind UserType.asEnum?).isSome

def isMessage (field : Field) : Bool :=
  (field.target.bind UserType.asMessage?).isSome

/-- The type in generated signatures: the native primitive of a scalar, the integer primitive for an
enum, and the tag itself for a message or a type that is not resolved. -/
def typeName (field : Field) : String :=
  match Scalar.nativeOf? field.tag with
  | some native => native
  | none => if field.isEnum then nativeInt else field.tag

def camelCaseName (field : Field) : String :=
  Identifier.camelCase field.name

def constantName (field : Field) : String :=
  Identifier.constant field.name

/-- Whether the field declares this type: both the name and the scope have to be equal. -/
def declares (field : Field) (id : TypeName) : Bool :=
  field.declaredName = some id.name && field.scope = id.scope

/-- Lets go of an attached type that the field does not declare. -/
def dropStale (field : Field) : Field :=
  { field with target := field.target.filter fun type => field.declares type.id }

/-- Sets the tag. A scalar refers to no user-defined type. -/
def setTag (field : Field) (tag : String) : Field :=
  let field := { field with tag }
  if field.isScalar then { field with target := none } else field

def setDeclaredName (field : Field) (name : String) : Field :=
  { field with declaredName := some name }.dropStale

def setScope (field : Field) (scope : String) : Field :=
  { field with scope := some scope }.dropStale

/-- The full name of the type that the field declares, by its tag where it declares no name. -/
def declaredFullName (field : Field) : String :=
  Dotted.qualify field.scope (field.declaredName.getD field.tag)

/-- Attaches a user-defined type, which has to be the one that the field declares. -/
def attach (field : Field) (type : UserType) : Except Error Field :=
  if field.isScalar then .error (.scalarTarget field.name field.tag)
  else if field.declares type.id then .ok { field with target := some type }
  else .error (.targetMismatch field.name field.declaredFullName type.fullName)

/-- The field after an edit. Only attaching a type can be refused. -/
def apply (field : Field) : Edit → Except Error Field
  | .name name => .ok { field with name }
  | .number number => .ok { field with number }
  | .label label => .ok { field with label }
  | .tag tag => .ok (field.setTag tag)
  | .declaredName name => .ok (field.setDeclaredName name)
  | .scope scope => .ok (field.setScope scope)
  | .defaultValue value => .ok { field with defaultValue := some value }
  | .target type => field.attach type

def readDefault (field : Field) (literal : String) : Except Error DefaultValue :=
  let value :=
    match field.scalar? with
    | some scalar => DefaultValue.ofScalarLiteral scalar literal
    | none => DefaultValue.ofUserLiteral field.tag field.target literal
  value.mapError (.invalidDefault field.name literal)

end Field

end MessageSchema
