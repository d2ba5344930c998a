import MessageSchema.DefaultValue
import MessageSchema.Json.Printer

/-! What can go wrong with fields and schemas, by cause, and the wording of each cause. -/
namespace MessageSchema

/-- The highest field number of the wire format. -/
def maxFieldNumber : Nat := 536870911

inductive ReadFault where
  | noSuchFile
  | notUnicode
  | system (cause : String)
deriving DecidableEq, Repr

inductive SchemaFault where
  | repeatedType (fullName : String)
  | unregisteredMessage (fullName : String)
  | repeatedFieldName (name message : String)
  | repeatedFieldNumber (number : Int64) (message : String)
  | numberOutOfRange (field message : String) (number : Int64)
  | numberTooWide (field : String)
  | defaultKind (field : String) (value : Json.Value)
  | messageNotFound (name : String) (available : List String)
  | unresolvedReferences (count : Nat)

inductive Error where
  /-- A scalar was asked for and the type tag is none. -/
  | notScalar (tag : String)
  /-- A scalar field was to refer to a user-defined type. -/
  | scalarTarget (field tag : String)
  /-- A field was to refer to another type than it declares. -/
  | targetMismatch (field declared found : String)
  | invalidLabel (text : String)
  | invalidDefault (field literal : String) (fault : DefaultFault)
  | schema (fault : SchemaFault)
  | unreadable (path : String) (fault : ReadFault)
  | json (fault : Json.Fault)

def Numeral.IntegerFault.message : Numeral.IntegerFault → String
  | .empty => "cannot parse integer from empty string"
  | .notADigit => "invalid digit found in string"
  | .tooLarge => "number too large to fit in target type"
  | .tooSmall => "number too small to fit in target type"

def Numeral.DecimalFault.message : Numeral.DecimalFault → String
  | .empty => "cannot parse float from empty string"
  | .invalid => "invalid float literal"

def DefaultFault.message : DefaultFault → String
  | .integer cause => cause.message
  | .decimal cause => cause.message
  | .notBool => "expected 'true' or 'false'"
  | .noSuchValue enumName => "enum '" ++ enumName ++ "' has no such value"
  | .messageField => "message fields cannot have a default"
  | .unresolved tag => "type '" ++ tag ++ "' is not resolved"

def ReadFault.message : ReadFault → String
  | .noSuchFile => "No such file or directory (os error 2)"
  | .notUnicode => "stream did not contain valid UTF-8"
  | .system cause => cause

def SchemaFault.message : SchemaFault → String
  | .repeatedType fullName => "type '" ++ fullName ++ "' is defined more than once"
  | .unregisteredMessage fullName => "message '" ++ fullName ++ "' was not registered"
  | .repeatedFieldName name message =>
    "duplicate field name '" ++ name ++ "' in message '" ++ message ++ "'"
  | .repeatedFieldNumber number message =>
    "duplicate field number " ++ Numeral.writeInteger number.toInt ++ " in message '" ++ message ++
      "'"
  | .numberOutOfRange field message number =>
    "field '" ++ field ++ "' in message '" ++ message ++ "' has number " ++
      Numeral.writeInteger number.toInt ++ " (expected 1..=" ++ Numeral.writeInteger maxFieldNumber ++
      ")"
  | .numberTooWide field =>
    "field '" ++ field ++ "': out of range integral type conversion attempted"
  | .defaultKind field value =>
    "field '" ++ field ++ "' has a default that is not a string, number or boolean: " ++ value.compact
  | .messageNotFound name available =>
    "message '" ++ name ++ "' not found (available: " ++ ", ".intercalate available ++ ")"
  | .unresolvedReferences count =>
    Numeral.writeInteger count ++ " type reference(s) could not be resolved"

def Json.Fault.message : Json.Fault → String
  | .malformed => "malformed text"
  | .mismatched => "unexpected value"
  | .truncated => "unexpected end of text"

def Error.message : Error → String
  | .notScalar tag => "'" ++ tag ++ "' is not a scalar type"
  | .scalarTarget field tag =>
    "field '" ++ field ++ "' has scalar type '" ++ tag ++ "' and cannot reference a user-defined type"
  | .targetMismatch field declared found =>
    "field '" ++ field ++ "' declares type '" ++ declared ++ "' but was resolved to '" ++ found ++ "'"
  | .invalidLabel text =>
    "invalid label '" ++ text ++ "' (expected required, optional or repeated)"
  | .invalidDefault field literal fault =>
    "invalid default '" ++ literal ++ "' for field '" ++ field ++ "': " ++ fault.message
  | .schema fault => "schema error: " ++ fault.message
  | .unreadable path fault => "failed to read " ++ path ++ ": " ++ fault.message
  | .json fault => "failed to parse JSON: " ++ fault.message

/-- The cause behind an error, where it has one of its own. -/
def Error.cause? : Error → Option String
  | .unreadable _ fault => some fault.message
  | _ => none

end MessageSchema
