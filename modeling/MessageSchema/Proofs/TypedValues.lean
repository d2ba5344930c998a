import MessageSchema.Proofs.Defaults

/-! The values of a field's type: for a scalar those of its kind and range, for an enum its own
values, and for anything else none. What a field reads from a literal is such a value. -/
namespace MessageSchema
open Numeral

/-- The values of a scalar. -/
def Scalar.Holds (value : DefaultValue) : Scalar → Prop
  | double | float => ∃ x, value = .float x
  | int32 | sint32 | sfixed32 => ∃ n, value = .int n ∧ -2147483648 ≤ n.toInt ∧ n.toInt ≤ 2147483647
  | int64 | sint64 | sfixed64 =>
    ∃ n, value = .int n ∧ -9223372036854775808 ≤ n.toInt ∧ n.toInt ≤ 9223372036854775807
  | uint32 | fixed32 => ∃ n, value = .uint n ∧ n.toNat ≤ 4294967295
  | uint64 | fixed64 => ∃ n, value = .uint n ∧ n.toNat ≤ 18446744073709551615
  | bool => ∃ b, value = .bool b
  | string | bytes => ∃ s, value = .text s

/-- Whether the value is one of the field's current type. -/
def Field.Takes (field : Field) (value : DefaultValue) : Prop :=
  match Scalar.ofTag? field.tag with
  | some scalar => scalar.Holds value
  | none => ∃ e, field.target = some (.enum e) ∧ ∃ entry ∈ e.values, value = .enum entry

/-- The entry is the first of the enum with this name. Names may repeat in an enum. -/
def EnumType.First (e : EnumType) (name : String) (entry : EnumValue) : Prop :=
  entry.name = name ∧
    ∃ before after, e.values = before ++ entry :: after ∧ ∀ other ∈ before, other.name ≠ name

theorem EnumType.value?_eq_some_iff {e : EnumType} {name : String} {entry : EnumValue} :
    e.value? name = some entry ↔ e.First name entry := by
  simp [value?, First, List.find?_eq_some_iff_append]

theorem EnumType.First.mem {e : EnumType} {name : String} {entry : EnumValue}
    (first : e.First name entry) : entry ∈ e.values := by
  obtain ⟨_, before, after, values, _⟩ := first
  rw [values]
  exact List.mem_append_right before List.mem_cons_self

theorem ok_of_mapError {result : Except ε α} {wrap : ε → ε'} {value : α}
    (done : result.mapError wrap = .ok value) : result = .ok value := by
  cases result with
  | error fault => cases done
  | ok read =>
    cases done
    rfl

theorem ok_of_map_mapError {result : Except ε α} {f : α → β} {wrap : ε → ε'} {value : β}
    (done : (result.map f).mapError wrap = .ok value) :
    ∃ read, result = .ok read ∧ value = f read := by
  have mapped := ok_of_mapError done
  cases result with
  | error fault => cases mapped
  | ok read =>
    cases mapped
    exact ⟨read, rfl, rfl⟩

theorem readInteger_between {range : Range} (zero : range.low ≤ 0 ∧ 0 ≤ range.high) {text : String}
    {n : Int} (read : readInteger range text = .ok n) : range.low ≤ n ∧ n ≤ range.high :=
  ((readInteger_ok_iff zero).mp read).2

theorem toInt_toInt64 {n : Int} (low : -9223372036854775808 ≤ n) (high : n ≤ 9223372036854775807) :
    n.toInt64.toInt = n :=
  Int64.toInt_ofInt_of_le (by omega) (by omega)

theorem toNat_toUInt64 {n : Int} (high : n ≤ 18446744073709551615) :
    n.toNat.toUInt64.toNat = n.toNat :=
  UInt64.toNat_ofNat_of_lt' (by rw [UInt64.size]; omega)

theorem Scalar.holds_of_literal {scalar : Scalar} {literal : String} {value : DefaultValue}
    (read : DefaultValue.ofScalarLiteral scalar literal = .ok value) : scalar.Holds value := by
  unfold DefaultValue.ofScalarLiteral at read
  cases scalar with
  | double | float =>
    obtain ⟨x, _, same⟩ := ok_of_map_mapError read
    exact ⟨x, same⟩
  | int32 | sint32 | sfixed32 =>
    obtain ⟨n, read, same⟩ := ok_of_map_mapError read
    obtain ⟨low, high⟩ : -2147483648 ≤ n ∧ n ≤ 2147483647 := readInteger_between (by decide) read
    refine ⟨_, same, ?_⟩
    rw [toInt_toInt64 (by omega) (by omega)]
    exact ⟨low, high⟩
  | int64 | sint64 | sfixed64 =>
    obtain ⟨n, read, same⟩ := ok_of_map_mapError read
    obtain ⟨low, high⟩ : -9223372036854775808 ≤ n ∧ n ≤ 9223372036854775807 :=
      readInteger_between (by decide) read
    refine ⟨_, same, ?_⟩
    rw [toInt_toInt64 low high]
    exact ⟨low, high⟩
  | uint32 | fixed32 =>
    obtain ⟨n, read, same⟩ := ok_of_map_mapError read
    obtain ⟨_, high⟩ : 0 ≤ n ∧ n ≤ 4294967295 := readInteger_between (by decide) read
    refine ⟨_, same, ?_⟩
    rw [toNat_toUInt64 (by omega)]
    omega
  | uint64 | fixed64 =>
    obtain ⟨n, read, same⟩ := ok_of_map_mapError read
    obtain ⟨_, high⟩ : 0 ≤ n ∧ n ≤ 18446744073709551615 := readInteger_between (by decide) read
    refine ⟨_, same, ?_⟩
    rw [toNat_toUInt64 high]
    omega
  | bool =>
    simp only [Scalar.literal] at read
    split at read
    · exact ⟨true, (Except.ok.inj read).symm⟩
    · split at read
      · exact ⟨false, (Except.ok.inj read).symm⟩
      · cases read
  | string | bytes => exact ⟨literal, (Except.ok.inj read).symm⟩

theorem DefaultValue.ofUserLiteral_eq_ok_iff {tag literal : String} {target : Option UserType}
    {value : DefaultValue} :
    ofUserLiteral tag target literal = .ok value ↔
      ∃ e entry, target = some (.enum e) ∧ e.First literal entry ∧ value = .enum entry := by
  unfold ofUserLiteral
  split
  · next e =>
    simp only [← EnumType.value?_eq_some_iff]
    cases found : e.value? literal with
    | none => simp [found]
    | some entry => simp [found, eq_comm]
  · simp
  · simp

namespace Field

variable {field : Field} {literal : String} {value : DefaultValue}

theorem readDefault_scalar {scalar : Scalar} (spelled : Scalar.ofTag? field.tag = some scalar)
    (read : field.readDefault literal = .ok value) :
    DefaultValue.ofScalarLiteral scalar literal = .ok value := by
  simp only [readDefault, scalar?, spelled] at read
  exact ok_of_mapError read

theorem readDefault_user (user : Scalar.ofTag? field.tag = none)
    (read : field.readDefault literal = .ok value) :
    ∃ e entry, field.target = some (.enum e) ∧ e.First literal entry ∧ value = .enum entry := by
  simp only [readDefault, scalar?, user] at read
  exact DefaultValue.ofUserLiteral_eq_ok_iff.mp (ok_of_mapError read)

theorem takes_of_readDefault (read : field.readDefault literal = .ok value) : field.Takes value := by
  unfold Takes
  cases spelled : Scalar.ofTag? field.tag with
  | some scalar => exact Scalar.holds_of_literal (readDefault_scalar spelled read)
  | none =>
    obtain ⟨e, entry, attached, first, same⟩ := readDefault_user spelled read
    exact ⟨e, attached, entry, first.mem, same⟩

end Field

end MessageSchema
