import MessageSchema.Proofs.Acceptance
import MessageSchema.Proofs.TypedValues

/-! The defaults of a loaded schema. A field has one exactly if its definition states one, and it is
the value of the field's own type that the stated literal stands for. -/
namespace MessageSchema

namespace Document

structure Defaulted (document : Document) (site : Site) (definition : FieldDef) (field : Field) :
    Prop where
  stated : field.defaultValue.isSome ↔ definition.default.isSome
  /-- The tag of the field decides: a scalar's kind and range, or else an enum. -/
  typed : ∀ value, field.defaultValue = some value → field.Takes value
  text : ∀ s, field.defaultValue = some (.text s) →
    ∃ json, definition.default = some json ∧ json.HasText s
  /-- The enum is the one that the reference denotes, not another of the same name. -/
  enum : field.isScalar = false → ∀ value, field.defaultValue = some value →
    ∃ e entry json, document.Denotes (document.pathName site.path) definition.reference (.enum e) ∧
      definition.default = some json ∧ json.HasText entry.name ∧ e.First entry.name entry ∧
      value = .enum entry
  message : field.isMessage → field.defaultValue = none
  unresolved : field.isScalar = false → field.isResolved = false → field.defaultValue = none

end Document

/-- The value that a built field holds was read by that field from a literal of its definition. -/
theorem FieldDef.default_of_build {registry : Registry} {scope : String} {definition : FieldDef}
    {field : Field} (built : (definition.build registry scope).result = .ok field) :
    (field.defaultValue.isSome ↔ definition.default.isSome) ∧
      ∀ value, field.defaultValue = some value → ∃ json literal,
        definition.default = some json ∧ json.HasText literal ∧
          field.readDefault literal = .ok value := by
  obtain ⟨number, label, value?, _, _, defaults, rfl⟩ := build_ok_iff.mp built
  cases value? with
  | none =>
    have absent : definition.default = none := defaults
    simp [absent]
  | some value =>
    obtain ⟨json, literal, stated, written, read⟩ := defaults
    refine ⟨by simp [stated], fun other same => ?_⟩
    cases same
    exact ⟨json, literal, stated, Json.Value.literal?_eq_some_iff.mp written, read⟩

theorem Field.readDefault_text {field : Field} {literal s : String}
    (read : field.readDefault literal = .ok (.text s)) : s = literal := by
  cases spelled : Scalar.ofTag? field.tag with
  | none =>
    obtain ⟨_, _, _, _, same⟩ := readDefault_user spelled read
    cases same
  | some scalar =>
    have value := readDefault_scalar spelled read
    have held := Scalar.holds_of_literal value
    cases scalar
    case string | bytes =>
      cases value
      rfl
    all_goals simp [Scalar.Holds] at held

theorem loaded_defaults_typed {document : Document} {schema : Schema}
    (loaded : (Schema.ofDocument document).result = .ok schema) :
    schema.EachField document document.Defaulted := by
  refine Schema.eachField_of_build loaded fun registry filled site _ definition _ field built => ?_
  obtain ⟨stated, given⟩ := FieldDef.default_of_build built
  have target := FieldDef.target_of_build built
  have tagged : field.tag = definition.tag := by
    obtain ⟨_, _, _, _, _, _, rfl⟩ := FieldDef.build_ok_iff.mp built
    rfl
  have entries (user : Scalar.ofTag? field.tag = none) (value : DefaultValue)
      (held : field.defaultValue = some value) : ∃ e entry json, field.target = some (.enum e) ∧
        definition.default = some json ∧ json.HasText entry.name ∧ e.First entry.name entry ∧
        value = .enum entry := by
    obtain ⟨json, literal, default, written, read⟩ := given value held
    obtain ⟨e, entry, attached, first, same⟩ := Field.readDefault_user user read
    obtain rfl := first.1
    exact ⟨e, entry, json, attached, default, written, first, same⟩
  constructor
  case stated => exact stated
  case typed =>
    intro value held
    obtain ⟨_, _, _, _, read⟩ := given value held
    exact Field.takes_of_readDefault read
  case text =>
    intro s held
    obtain ⟨json, literal, default, written, read⟩ := given _ held
    obtain rfl := Field.readDefault_text read
    exact ⟨json, default, written⟩
  case enum =>
    intro notScalar value held
    have user : Scalar.ofTag? field.tag = none := by simpa [Field.isScalar_eq] using notScalar
    obtain ⟨e, entry, json, attached, rest⟩ := entries user value held
    rw [target, FieldDef.target?_user (tagged ▸ user)] at attached
    exact ⟨e, entry, json, (Registry.resolve?_eq_some_iff filled).mp attached, rest⟩
  case message =>
    intro message
    have user : Scalar.ofTag? field.tag = none := by
      by_contra scalar
      rw [tagged, ← ne_eq, Option.ne_none_iff_isSome] at scalar
      simp [Field.isMessage, target, FieldDef.target?_scalar scalar] at message
    by_contra held
    obtain ⟨value, held⟩ := Option.ne_none_iff_exists'.mp held
    obtain ⟨e, _, _, attached, _⟩ := entries user value held
    simp [Field.isMessage, attached, UserType.asMessage?] at message
  case unresolved =>
    intro notScalar missing
    have user : Scalar.ofTag? field.tag = none := by simpa [Field.isScalar_eq] using notScalar
    by_contra held
    obtain ⟨value, held⟩ := Option.ne_none_iff_exists'.mp held
    obtain ⟨e, _, _, attached, _⟩ := entries user value held
    simp [Field.isResolved, attached] at missing

/-- Both enums have a `LOW`, and the inner one has it twice. -/
def graded : Document where
  package := some "shop"
  enums := [⟨"Level", [⟨"LOW", 1⟩]⟩]
  messages := [⟨"Order", [⟨"level", 1, "optional", "Level", none, some (.text "LOW")⟩,
      ⟨"outer", 2, "optional", "Level", some ".shop.Level", some (.text "LOW")⟩,
      ⟨"least", 3, "optional", "sfixed32", none, some (.number (.integer (-2147483648)))⟩,
      ⟨"most", 4, "optional", "UINT64", none, some (.text "+18446744073709551615")⟩,
      ⟨"note", 5, "optional", "bytes", none, some (.bool true)⟩,
      ⟨"next", 6, "optional", "Order", none, none⟩, ⟨"ratio", 7, "optional", "float", none,
        some (.text "1e-3")⟩],
    [⟨"Level", [⟨"HIGH", 9⟩, ⟨"LOW", 7⟩, ⟨"LOW", 8⟩]⟩], []⟩]

theorem graded_defaults : ∃ schema, (Schema.ofDocument graded).result = .ok schema ∧
    schema.EachField graded graded.Defaulted := by
  have accepted : (Schema.ofDocument graded).result.isOk = true := by decide +kernel
  obtain ⟨schema, loaded⟩ := exists_ok_of_isOk accepted
  exact ⟨schema, loaded, loaded_defaults_typed loaded⟩

end MessageSchema
