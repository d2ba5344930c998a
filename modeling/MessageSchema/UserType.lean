import MessageSchema.Dotted

/-! User-defined types: enums and messages. A type is known by its name and the scope that declares
it. A message stands here for its identity alone, so messages may refer to themselves. -/
namespace MessageSchema

/-- A name and the scope that declares it. An absent scope and an empty one differ as values and
give the same full name. -/
structure TypeName where
  name : String
  scope : Option String
deriving DecidableEq, Repr

/-- The dotted name from the root, such as `tutorial.Person.PhoneType`. -/
def TypeName.fullName (id : TypeName) : String :=
  Dotted.qualify id.scope id.name

structure EnumValue where
  name : String
  number : Int32
deriving DecidableEq, Repr

structure EnumType where
  id : TypeName
  values : List EnumValue
deriving DecidableEq, Repr

namespace EnumType

def empty (id : TypeName) : EnumType :=
  ⟨id, []⟩

def addValue (e : EnumType) (value : EnumValue) : EnumType :=
  { e with values := e.values ++ [value] }

def value? (e : EnumType) (name : String) : Option EnumValue :=
  e.values.find? (·.name = name)

end EnumType

/-- What a field that is not scalar may refer to. -/
inductive UserType where
  | enum (e : EnumType)
  | message (id : TypeName)
deriving DecidableEq, Repr

namespace UserType

def id : UserType → TypeName
  | enum e => e.id
  | message id => id

def fullName (type : UserType) : String :=
  type.id.fullName

def asEnum? : UserType → Option EnumType
  | enum e => some e
  | message _ => none

def asMessage? : UserType → Option TypeName
  | enum _ => none
  | message id => some id

end UserType

end MessageSchema
