import MessageSchema.Keyword

/-! The fifteen scalar wire types. A type tag that spells none of them names a user-defined type.
Each scalar has one category, which fixes how values are encoded, and one native primitive. -/
namespace MessageSchema

inductive Scalar where
  | double | float
  | int32 | int64 | uint32 | uint64 | sint32 | sint64
  | fixed32 | fixed64 | sfixed32 | sfixed64
  | bool | string | bytes
deriving DecidableEq, Repr

/-- How the values of a scalar are carried on the wire. -/
inductive Category where
  | double | float | int | signedInt | fixed32 | fixed64 | bool | string
deriving DecidableEq, Repr

namespace Category

/-- The spelling of a category in reports. -/
def keyword : Category → String
  | double => "double"
  | float => "float"
  | int => "int"
  | signedInt => "signed-int"
  | fixed32 => "fixed32"
  | fixed64 => "fixed64"
  | bool => "bool"
  | string => "string"

def isInteger : Category → Bool
  | int | signedInt | fixed32 | fixed64 => true
  | double | float | bool | string => false

end Category

/-- The primitive that carries integers and enum values in generated signatures. -/
def nativeInt : String := "int"

namespace Scalar

def all : List Scalar :=
  [double, float, int32, int64, uint32, uint64, sint32, sint64, fixed32, fixed64, sfixed32, sfixed64,
    bool, string, bytes]

def keyword : Scalar → String
  | double => "double"
  | float => "float"
  | int32 => "int32"
  | int64 => "int64"
  | uint32 => "uint32"
  | uint64 => "uint64"
  | sint32 => "sint32"
  | sint64 => "sint64"
  | fixed32 => "fixed32"
  | fixed64 => "fixed64"
  | sfixed32 => "sfixed32"
  | sfixed64 => "sfixed64"
  | bool => "bool"
  | string => "string"
  | bytes => "bytes"

def category : Scalar → Category
  | double => .double
  | float => .float
  | int32 | int64 | uint32 | uint64 => .int
  | sint32 | sint64 => .signedInt
  | fixed32 | sfixed32 => .fixed32
  | fixed64 | sfixed64 => .fixed64
  | bool => .bool
  | string | bytes => .string

def native : Scalar → String
  | double | float => "float"
  | bool => "bool"
  | string | bytes => "string"
  | int32 | int64 | uint32 | uint64 | sint32 | sint64 | fixed32 | fixed64 | sfixed32 | sfixed64 =>
    nativeInt

/-- The scalar that a type tag spells, if it spells one. -/
def ofTag? (tag : String) : Option Scalar :=
  Keyword.find? "type_" keyword all tag

/-- The category of a type tag, if the tag is a wire scalar. -/
def categoryOf? (tag : String) : Option Category :=
  (ofTag? tag).map category

def nativeOf? (tag : String) : Option String :=
  (ofTag? tag).map native

theorem mem_all (scalar : Scalar) : scalar ∈ all := by
  cases scalar <;> decide

theorem keyword_injective {a b : Scalar} (same : a.keyword = b.keyword) : a = b := by
  revert same
  cases a <;> cases b <;> decide

end Scalar

end MessageSchema
