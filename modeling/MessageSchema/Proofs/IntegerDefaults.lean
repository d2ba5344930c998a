import MessageSchema.Proofs.TypedValues

/-! Defaults of integer fields. The ten integer tags differ in sign and width alone: a literal is
read exactly if its integer lies in the range of the tag, and then that integer is stored. -/
namespace MessageSchema
open Numeral

/-- The integers of a tag, from the least to the greatest. Machine words of 64 bits hold them, with
a sign or without one. -/
structure IntegerKind where
  signed : Bool
  low : Int
  high : Int
  zero : low ≤ 0 ∧ 0 ≤ high := by decide
  sign : signed = decide (low < 0) := by decide
  words : if signed then -9223372036854775808 ≤ low ∧ high ≤ 9223372036854775807
    else high ≤ 18446744073709551615 := by decide

namespace IntegerKind

def signed32 : IntegerKind where
  signed := true
  low := -2147483648
  high := 2147483647

def signed64 : IntegerKind where
  signed := true
  low := -9223372036854775808
  high := 9223372036854775807

def unsigned32 : IntegerKind where
  signed := false
  low := 0
  high := 4294967295

def unsigned64 : IntegerKind where
  signed := false
  low := 0
  high := 18446744073709551615

variable {kind : IntegerKind} {text : String} {n : Int}

/-- The text is a literal of the integer, and the integer is one of the kind. Only a kind with a
sign has literals with a minus. -/
structure Accepts (kind : IntegerKind) (text : String) (n : Int) : Prop where
  literal : IntegerLiteral kind.signed text.toList n
  least : kind.low ≤ n
  most : n ≤ kind.high

/-- The value is the integer, in a word with a sign or in one without. -/
def Stores (kind : IntegerKind) (n : Int) : DefaultValue → Prop
  | .int word => kind.signed = true ∧ word.toInt = n
  | .uint word => kind.signed = false ∧ (word.toNat : Int) = n
  | .float _ | .bool _ | .text _ | .enum _ => False

def range (kind : IntegerKind) : Range :=
  ⟨kind.low, kind.high⟩

def value (kind : IntegerKind) (n : Int) : DefaultValue :=
  if kind.signed then .int n.toInt64 else .uint n.toNat.toUInt64

/-- No integer of the kind is changed by the word that holds it. -/
theorem stores_value (least : kind.low ≤ n) (most : n ≤ kind.high) :
    kind.Stores n (kind.value n) := by
  have words := kind.words
  have sign := kind.sign
  unfold value
  split
  · next signed =>
    rw [if_pos signed] at words
    exact ⟨signed, toInt_toInt64 (by omega) (by omega)⟩
  · next unsigned =>
    rw [if_neg unsigned] at words
    rw [Bool.not_eq_true] at unsigned
    have nonnegative : ¬ kind.low < 0 := by simpa [unsigned] using sign
    refine ⟨unsigned, ?_⟩
    rw [toNat_toUInt64 (by omega)]
    omega

theorem readInteger_ok_iff_accepts :
    readInteger kind.range text = .ok n ↔ kind.Accepts text n := by
  rw [readInteger_ok_iff kind.zero, show kind.range.hasNegative = kind.signed from kind.sign.symm]
  exact ⟨fun ⟨literal, least, most⟩ => ⟨literal, least, most⟩,
    fun accepted => ⟨accepted.literal, accepted.least, accepted.most⟩⟩

end IntegerKind

/-- The kinds of the ten integer tags. -/
def Scalar.integerKind? : Scalar → Option IntegerKind
  | int32 | sint32 | sfixed32 => some .signed32
  | int64 | sint64 | sfixed64 => some .signed64
  | uint32 | fixed32 => some .unsigned32
  | uint64 | fixed64 => some .unsigned64
  | double | float | bool | string | bytes => none

theorem DefaultValue.ofScalarLiteral_integer {scalar : Scalar} {kind : IntegerKind}
    (integer : scalar.integerKind? = some kind) (text : String) :
    ofScalarLiteral scalar text =
      ((readInteger kind.range text).map kind.value).mapError .integer := by
  cases scalar <;> cases integer <;> rfl

namespace Field

/-- The kind of the field's tag, where that is an integer tag. -/
def integerKind? (field : Field) : Option IntegerKind :=
  (Scalar.ofTag? field.tag).bind Scalar.integerKind?

variable {field : Field} {kind : IntegerKind}

theorem readDefault_integer (integer : field.integerKind? = some kind) (text : String) :
    field.readDefault text =
      ((readInteger kind.range text).map kind.value).mapError fun cause =>
        .invalidDefault field.name text (.integer cause) := by
  obtain ⟨scalar, spelled, kinded⟩ := Option.bind_eq_some_iff.mp integer
  have read := DefaultValue.ofScalarLiteral_integer kinded text
  simp only [readDefault, scalar?, spelled, read]
  cases readInteger kind.range text <;> rfl

/-- What a field makes of a text as an integer of a kind. -/
structure ReadsInteger (field : Field) (kind : IntegerKind) (text : String) : Prop where
  accepted : (∃ value, field.readDefault text = .ok value) ↔ ∃ n, kind.Accepts text n
  exact : ∀ n value, kind.Accepts text n → field.readDefault text = .ok value → kind.Stores n value
  refused : (¬ ∃ n, kind.Accepts text n) →
    ∃ cause, field.readDefault text = .error (.invalidDefault field.name text (.integer cause))

theorem readDefault_accepted (integer : field.integerKind? = some kind) {text : String} {n : Int}
    (accepted : kind.Accepts text n) : field.readDefault text = .ok (kind.value n) := by
  rw [readDefault_integer integer, IntegerKind.readInteger_ok_iff_accepts.mpr accepted]
  rfl

theorem readDefault_not_accepted (integer : field.integerKind? = some kind) {text : String}
    (never : ¬ ∃ n, kind.Accepts text n) :
    ∃ cause, field.readDefault text = .error (.invalidDefault field.name text (.integer cause)) := by
  rw [readDefault_integer integer]
  cases read : readInteger kind.range text with
  | ok n => exact absurd ⟨n, IntegerKind.readInteger_ok_iff_accepts.mp read⟩ never
  | error cause => exact ⟨cause, rfl⟩

/-- An integer field reads the literals of its own range and refuses every other text. -/
theorem integer_defaults_exact (integer : field.integerKind? = some kind) (text : String) :
    field.ReadsInteger kind text where
  accepted := by
    constructor
    · rintro ⟨value, read⟩
      by_contra never
      obtain ⟨cause, refused⟩ := readDefault_not_accepted integer never
      cases read.symm.trans refused
    · rintro ⟨n, accepted⟩
      exact ⟨kind.value n, readDefault_accepted integer accepted⟩
  exact n value accepted read := by
    obtain rfl := Except.ok.inj ((readDefault_accepted integer accepted).symm.trans read)
    exact IntegerKind.stores_value accepted.least accepted.most
  refused := readDefault_not_accepted integer

/-- The least integer of 32 bits, behind needless zeros. -/
theorem least_default_exact :
    (bare "least" 1 .optional "TYPE_sfixed32").integerKind? = some .signed32 ∧
      (bare "least" 1 .optional "TYPE_sfixed32").ReadsInteger .signed32 "-0000000002147483648" :=
  ⟨rfl, integer_defaults_exact rfl "-0000000002147483648"⟩

/-- A minus sign is refused without regard to the number behind it where the tag has no sign. -/
example : (bare "most" 1 .optional "uint32").readDefault "-0" =
    .error (.invalidDefault "most" "-0" (.integer .notADigit)) := by rfl

end Field

end MessageSchema
