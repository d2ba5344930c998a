import MessageSchema.Scalar
import MessageSchema.UserType
import MessageSchema.Numeral.Layout
import MessageSchema.Text.Quoted

/-! Default values of fields: how a literal is read as a scalar type or as an enum, and how a value
is displayed. -/
namespace MessageSchema

/-- A default, typed by what its field holds. Equality compares floating point numbers by value, so
NaN differs from itself and both zeros are equal. -/
inductive DefaultValue where
  | float (x : Float)
  | int (n : Int64)
  | uint (n : UInt64)
  | bool (b : Bool)
  | text (s : String)
  | enum (value : EnumValue)
deriving BEq, Repr

inductive DefaultFault where
  | integer (cause : Numeral.IntegerFault)
  | decimal (cause : Numeral.DecimalFault)
  | notBool
  | noSuchValue (enumName : String)
  | messageField
  | unresolved (tag : String)
deriving DecidableEq, Repr

inductive Scalar.Literal where
  | float
  | signed (width : Nat)
  | unsigned (width : Nat)
  | bool
  | text

/-- The literals of each scalar. The encoding on the wire does not matter here, only width and
sign. -/
def Scalar.literal : Scalar → Scalar.Literal
  | .double | .float => .float
  | .int32 | .sint32 | .sfixed32 => .signed 32
  | .int64 | .sint64 | .sfixed64 => .signed 64
  | .uint32 | .fixed32 => .unsigned 32
  | .uint64 | .fixed64 => .unsigned 64
  | .bool => .bool
  | .string | .bytes => .text

namespace DefaultValue

/-- Displayed floating point numbers are positional at every size, whole numbers have no decimals,
and of two equally near decimals the larger is taken. -/
def floatLayout : Numeral.Layout where
  positional _ := true
  wholeMark := ""
  tie := .up

def display : DefaultValue → String
  | float x => floatLayout.text x
  | int n => Numeral.writeInteger n.toInt
  | uint n => Numeral.writeInteger n.toNat
  | bool b => if b then "true" else "false"
  | text s => Text.quoted s
  | enum value => value.name

def ofScalarLiteral (scalar : Scalar) (literal : String) : Except DefaultFault DefaultValue :=
  match scalar.literal with
  | .float => (Numeral.readDecimal literal).map float |>.mapError .decimal
  | .signed width =>
    (Numeral.readInteger (.signed width) literal).map (int ·.toInt64) |>.mapError .integer
  | .unsigned width =>
    (Numeral.readInteger (.unsigned width) literal).map (uint ·.toNat.toUInt64) |>.mapError .integer
  | .bool =>
    if literal = "true" then .ok (bool true)
    else if literal = "false" then .ok (bool false)
    else .error .notBool
  | .text => .ok (text literal)

/-- Reads a literal as the type that a field refers to. Only a resolved enum has literals, and they
are the names of its values. -/
def ofUserLiteral (tag : String) (target : Option UserType) (literal : String) :
    Except DefaultFault DefaultValue :=
  match target with
  | some (.enum e) =>
    match e.value? literal with
    | some value => .ok (enum value)
    | none => .error (.noSuchValue e.id.fullName)
  | some (.message _) => .error .messageField
  | none => .error (.unresolved tag)

end DefaultValue

end MessageSchema
