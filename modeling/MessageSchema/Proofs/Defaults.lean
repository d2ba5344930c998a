import MessageSchema.Field
import MessageSchema.Proofs.DecimalLiterals
import MessageSchema.Proofs.IntegerLiterals

/-! The literals of a field's type: for a scalar the texts of its own grammar and range, for an enum
the names of its values, and for anything else none. They are exactly what a field reads. -/
namespace MessageSchema
open Numeral

/-- Integers from `low` to `high`; a minus sign may only stand where `low` is negative. -/
def IntegerBetween (low high : Int) (text : String) : Prop :=
  ∃ n, IntegerLiteral (low < 0) text.toList n ∧ low ≤ n ∧ n ≤ high

def Scalar.IsLiteral (text : String) : Scalar → Prop
  | double | float => DecimalLiteral text.toList
  | int32 | sint32 | sfixed32 => IntegerBetween (-2147483648) 2147483647 text
  | int64 | sint64 | sfixed64 => IntegerBetween (-9223372036854775808) 9223372036854775807 text
  | uint32 | fixed32 => IntegerBetween 0 4294967295 text
  | uint64 | fixed64 => IntegerBetween 0 18446744073709551615 text
  | bool => text = "true" ∨ text = "false"
  | string | bytes => True

theorem map_mapError_ok_iff {result : Except ε α} {f : α → β} {wrap : ε → ε'} :
    (∃ value, (result.map f).mapError wrap = .ok value) ↔ ∃ value, result = .ok value := by
  cases result <;> simp [Except.map, Except.mapError]

theorem readInteger_exists_iff {low high : Int} (zero : low ≤ 0 ∧ 0 ≤ high) (text : String) :
    (∃ n, readInteger ⟨low, high⟩ text = .ok n) ↔ IntegerBetween low high text := by
  simp only [@readInteger_ok_iff ⟨low, high⟩ zero, IntegerBetween, Range.hasNegative]

theorem Scalar.ofLiteral_ok_iff (scalar : Scalar) (text : String) :
    (∃ value, DefaultValue.ofScalarLiteral scalar text = .ok value) ↔ scalar.IsLiteral text := by
  cases scalar with
  | double | float => exact map_mapError_ok_iff.trans readDecimal_ok_iff
  | int32 | sint32 | sfixed32 =>
    exact map_mapError_ok_iff.trans (readInteger_exists_iff (by decide) text)
  | int64 | sint64 | sfixed64 =>
    exact map_mapError_ok_iff.trans (readInteger_exists_iff (by decide) text)
  | uint32 | fixed32 => exact map_mapError_ok_iff.trans (readInteger_exists_iff (by decide) text)
  | uint64 | fixed64 => exact map_mapError_ok_iff.trans (readInteger_exists_iff (by decide) text)
  | bool =>
    simp only [DefaultValue.ofScalarLiteral, literal, IsLiteral]
    split
    · next same => simp [same]
    · split
      · next same => simp [same]
      · next notTrue notFalse => simp [notTrue, notFalse]
  | string | bytes => simp [DefaultValue.ofScalarLiteral, literal, IsLiteral]

/-- The texts that are defaults of a tag whose reference has this target. -/
def IsDefaultOf (tag : String) (target : Option UserType) (text : String) : Prop :=
  match Scalar.ofTag? tag with
  | some scalar => scalar.IsLiteral text
  | none => ∃ e, target = some (.enum e) ∧ ∃ value ∈ e.values, value.name = text

theorem DefaultValue.ofUser_ok_iff {tag text : String} {target : Option UserType} :
    (∃ value, ofUserLiteral tag target text = .ok value) ↔
      ∃ e, target = some (.enum e) ∧ ∃ value ∈ e.values, value.name = text := by
  unfold ofUserLiteral
  split
  · next e =>
    cases found : e.value? text with
    | none =>
      have absent := List.find?_eq_none.mp found
      simpa using absent
    | some value =>
      have member := List.mem_of_find?_eq_some found
      have named : value.name = text := by simpa using List.find?_some found
      simp only [Except.ok.injEq, exists_eq', Option.some.injEq, UserType.enum.injEq, exists_eq_left',
        true_iff]
      exact ⟨value, member, named⟩
  · simp
  · simp

theorem Field.readDefault_ok_iff (field : Field) (text : String) :
    (∃ value, field.readDefault text = .ok value) ↔ IsDefaultOf field.tag field.target text := by
  unfold readDefault scalar? IsDefaultOf
  have plain {result : Except DefaultFault DefaultValue} :
      (∃ value, result.mapError (Error.invalidDefault field.name text) = .ok value) ↔
        ∃ value, result = .ok value := by
    cases result <;> simp [Except.mapError]
  rw [plain]
  cases Scalar.ofTag? field.tag with
  | some scalar => exact scalar.ofLiteral_ok_iff text
  | none => exact DefaultValue.ofUser_ok_iff

end MessageSchema
