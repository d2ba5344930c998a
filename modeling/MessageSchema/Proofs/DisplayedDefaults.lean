import MessageSchema.Proofs.NumberDefaults

/-! Defaults read from the text that displays them. Integers, truth values and enum values are
displayed by a literal of their own, which is one and the same for all literals of the value.
Floating point numbers and texts are displayed for a reader and are left out. -/
namespace MessageSchema
open Numeral

/-- The values that are displayed by a literal. -/
def DefaultValue.Discrete : DefaultValue → Prop
  | .int _ | .uint _ | .bool _ | .enum _ => True
  | .float _ | .text _ => False

/-- The scalars with such values. -/
def Scalar.Discrete : Scalar → Prop
  | int32 | int64 | uint32 | uint64 | sint32 | sint64 | fixed32 | fixed64 | sfixed32 | sfixed64
  | bool => True
  | double | float | string | bytes => False

theorem Scalar.Holds.discrete_iff {scalar : Scalar} {value : DefaultValue}
    (held : scalar.Holds value) :
    value.Discrete ↔ scalar.Discrete := by
  cases scalar with
  | double | float | bool | string | bytes =>
    obtain ⟨_, rfl⟩ := held
    exact Iff.rfl
  | int32 | int64 | sint32 | sint64 | sfixed32 | sfixed64 | uint32 | uint64 | fixed32 | fixed64 =>
    obtain ⟨_, rfl, _⟩ := held
    exact Iff.rfl

theorem Scalar.Discrete.cases {scalar : Scalar} (discrete : scalar.Discrete) :
    (∃ kind, scalar.integerKind? = some kind) ∨ scalar = .bool := by
  cases scalar with
  | int32 | int64 | uint32 | uint64 | sint32 | sint64 | fixed32 | fixed64 | sfixed32 | sfixed64 =>
    exact .inl ⟨_, rfl⟩
  | bool => exact .inr rfl
  | double | float | string | bytes => exact discrete.elim

theorem IntegerKind.Stores.display {kind : IntegerKind} {n : Int} {value : DefaultValue}
    (stores : kind.Stores n value) : value.display = writeInteger n := by
  cases value with
  | int word | uint word =>
    rw [← stores.2]
    rfl
  | float | bool | text | enum => exact stores.elim

theorem DefaultValue.display_of_bool {literal : String} {value : DefaultValue}
    (read : ofScalarLiteral .bool literal = .ok value) : value.display = literal := by
  simp only [ofScalarLiteral, Scalar.literal] at read
  split at read
  · next same =>
    cases read
    exact same.symm
  · split at read
    · next same =>
      cases read
      exact same.symm
    · cases read

namespace Field

variable {field : Field} {literal : String} {value other : DefaultValue}

/-- A field has values of one sort: all of them are displayed by literals, or none is. -/
theorem Takes.discrete_iff (takes : field.Takes value) (also : field.Takes other) :
    value.Discrete ↔ other.Discrete := by
  unfold Takes at takes also
  cases spelled : Scalar.ofTag? field.tag with
  | some scalar =>
    rw [spelled] at takes also
    exact takes.discrete_iff.trans also.discrete_iff.symm
  | none =>
    rw [spelled] at takes also
    obtain ⟨_, _, _, _, rfl⟩ := takes
    obtain ⟨_, _, _, _, rfl⟩ := also
    exact Iff.rfl

theorem readDefault_display_integer {kind : IntegerKind} (integer : field.integerKind? = some kind)
    (read : field.readDefault literal = .ok value) : field.readDefault value.display = .ok value := by
  obtain ⟨n, parsed, rfl⟩ := ok_of_map_mapError (readDefault_integer integer literal ▸ read)
  have accepted := IntegerKind.readInteger_ok_iff_accepts.mp parsed
  have stored := IntegerKind.stores_value accepted.least accepted.most
  rw [stored.display]
  exact readDefault_accepted integer (IntegerKind.accepts_writeInteger accepted.least accepted.most)

/-- The first entry of a name is found by its name, however often the name repeats. -/
theorem display_of_user (user : Scalar.ofTag? field.tag = none)
    (read : field.readDefault literal = .ok value) : value.display = literal := by
  obtain ⟨_, _, _, first, rfl⟩ := readDefault_user user read
  exact first.1

theorem readDefault_display (discrete : value.Discrete)
    (read : field.readDefault literal = .ok value) :
    field.readDefault value.display = .ok value := by
  cases spelled : Scalar.ofTag? field.tag with
  | none => rwa [display_of_user spelled read]
  | some scalar =>
    have parsed := readDefault_scalar spelled read
    have scalarDiscrete := (Scalar.holds_of_literal parsed).discrete_iff.mp discrete
    obtain ⟨kind, kinded⟩ | rfl := scalarDiscrete.cases
    · have integer : field.integerKind? = some kind :=
        Option.bind_eq_some_iff.mpr ⟨scalar, spelled, kinded⟩
      exact readDefault_display_integer integer read
    · rwa [DefaultValue.display_of_bool parsed]

/-- The text that displays what the field reads from a literal. -/
def displayed? (field : Field) (literal : String) : Option String :=
  (field.readDefault literal).toOption.map DefaultValue.display

theorem displayed?_ok (read : field.readDefault literal = .ok value) :
    field.displayed? literal = some value.display := by
  rw [displayed?, read]
  rfl

/-- How the text that displays a default relates to the literals of the field. -/
structure ReadsBack (field : Field) (literal : String) (value : DefaultValue) : Prop where
  again : field.readDefault value.display = .ok value
  canonical : ∃ shown, field.displayed? literal = some shown ∧ field.displayed? shown = some shown
  same : ∀ text other, field.readDefault text = .ok other →
    (other.display = value.display ↔ other = value)

/-- All literals of a value lead to one displayed text, and that is one of them. -/
theorem displayed_defaults_read_back (discrete : value.Discrete)
    (read : field.readDefault literal = .ok value) : field.ReadsBack literal value where
  again := readDefault_display discrete read
  canonical := ⟨value.display, displayed?_ok read, displayed?_ok (readDefault_display discrete read)⟩
  same text other otherRead := by
    constructor
    · intro shown
      have otherDiscrete : other.Discrete :=
        ((takes_of_readDefault read).discrete_iff (takes_of_readDefault otherRead)).mp discrete
      have first := readDefault_display discrete read
      have second := readDefault_display otherDiscrete otherRead
      rw [shown] at second
      exact Except.ok.inj (second.symm.trans first)
    · rintro rfl
      rfl

/-- The least integer of 64 bits, behind a needless zero. -/
theorem least_default_reads_back :
    (DefaultValue.int (-9223372036854775808)).Discrete ∧
      (bare "least" 1 .optional "TYPE_sint64").readDefault "-09223372036854775808" =
        .ok (.int (-9223372036854775808)) ∧
      (bare "least" 1 .optional "TYPE_sint64").ReadsBack "-09223372036854775808"
        (.int (-9223372036854775808)) :=
  ⟨trivial, rfl, displayed_defaults_read_back trivial rfl⟩

end Field

end MessageSchema
