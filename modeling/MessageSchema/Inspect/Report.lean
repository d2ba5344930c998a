import MessageSchema.Schema
import MessageSchema.Text.Column

/-! Reports on a schema: one row for each field, as a table or as JSON. -/
namespace MessageSchema

structure Row where
  message : String
  name : String
  number : UInt32
  label : Label
  tag : String
  typeName : String
  declaredName : Option String
  scope : Option String
  category : Option Category
  /-- The kind and full name of the attached type. -/
  resolved : Option String
  camelCaseName : String
  constantName : String
  defaultText : Option String
deriving DecidableEq, Repr

def UserType.describe : UserType → String
  | enum e => "enum " ++ e.id.fullName
  | message id => "message " ++ id.fullName

namespace Row

def ofField (message : Message) (field : Field) : Row where
  message := message.fullName
  name := field.name
  number := field.number
  label := field.label
  tag := field.tag
  typeName := field.typeName
  declaredName := field.declaredName
  scope := field.scope
  category := field.category.toOption
  resolved := field.target.map UserType.describe
  camelCaseName := field.camelCaseName
  constantName := field.constantName
  defaultText := field.defaultValue.map DefaultValue.display

def ofMessage (message : Message) : List Row :=
  message.fields.map (ofField message)

def columns : List Text.Column := [
  ⟨"MESSAGE", 28, .left⟩, ⟨"NUM", 5, .right⟩, ⟨"FIELD", 20, .left⟩, ⟨"LABEL", 9, .left⟩,
  ⟨"TYPE NAME", 20, .left⟩, ⟨"CATEGORY", 10, .left⟩, ⟨"CONST", 22, .left⟩, ⟨"DEFAULT", 0, .left⟩]

/-- The texts of a row in the table; a dash stands for what the field does not have. -/
def texts (row : Row) : List String :=
  [row.message, Numeral.writeInteger row.number.toNat, row.name, row.label.keyword, row.typeName,
    (row.category.map Category.keyword).getD "-", row.constantName, row.defaultText.getD "-"]

/-- The table: headings, then one line for each row. -/
def table (rows : List Row) : String :=
  Text.Column.line columns (columns.map (·.heading)) ++
    String.join (rows.map fun row => Text.Column.line columns row.texts)

def optionalText : Option String → String
  | some s => Json.textLiteral s
  | none => "null"

/-- The members of a row in JSON: keys and the text of their values. -/
def members (row : Row) : List (String × String) := [
  ("message", Json.textLiteral row.message),
  ("name", Json.textLiteral row.name),
  ("number", Numeral.writeInteger row.number.toNat),
  ("label", Json.textLiteral row.label.keyword),
  ("type", Json.textLiteral row.tag),
  ("type_name", Json.textLiteral row.typeName),
  ("declared_type_name", optionalText row.declaredName),
  ("namespace", optionalText row.scope),
  ("scalar_category", optionalText (row.category.map Category.keyword)),
  ("resolved", optionalText row.resolved),
  ("camel_case_name", Json.textLiteral row.camelCaseName),
  ("const_name", Json.textLiteral row.constantName),
  ("default", optionalText row.defaultText)]

/-- A row as an object in JSON, one member a line. -/
def object (row : Row) : String :=
  let lines := row.members.map fun (key, value) => "    " ++ Json.textLiteral key ++ ": " ++ value
  Json.braced ("\n" ++ ",\n".intercalate lines ++ "\n  ")

/-- The object of a row as an item of an array. -/
def item (row : Row) : String :=
  "  " ++ row.object

/-- All rows as an array in JSON, with an indentation of two spaces. -/
def json (rows : List Row) : String :=
  if rows = [] then "[]\n" else "[\n" ++ ",\n".intercalate (rows.map item) ++ "\n]\n"

end Row

end MessageSchema
