import MessageSchema.Proofs.Defaults
import MessageSchema.Proofs.Loading

/-! Exactly which documents load, as a condition on the document alone. -/
namespace MessageSchema

/-- The JSON values that stand for a literal, and the literal. -/
inductive Json.Value.HasText : Json.Value → String → Prop where
  | text : HasText (.text s) s
  | number : HasText (.number n) n.text
  | true : HasText (.bool true) "true"
  | false : HasText (.bool false) "false"

theorem Json.Value.literal?_eq_some_iff {value : Json.Value} {literal : String} :
    value.literal? = some literal ↔ value.HasText literal := by
  constructor
  · intro written
    cases value with
    | text s => cases written; exact .text
    | number n => cases written; exact .number
    | bool b =>
      cases b <;> cases written
      · exact .false
      · exact .true
    | null | array | object => cases written
  · rintro (_ | _ | _ | _) <;> rfl

namespace Document

/-- A default that is stated has a text, and the text is one of the type of the field: of its
scalar, or else of the enum that its reference denotes. -/
def DefaultFits (document : Document) (scope : String) (definition : FieldDef) : Prop :=
  ∀ json, definition.default = some json → ∃ literal, json.HasText literal ∧
    match Scalar.ofTag? definition.tag with
    | some scalar => scalar.IsLiteral literal
    | none => ∃ e, document.Denotes scope definition.reference (.enum e) ∧
        ∃ value ∈ e.values, value.name = literal

structure FieldFits (document : Document) (scope : String) (definition : FieldDef) : Prop where
  number : 1 ≤ definition.number.toInt ∧ definition.number.toInt ≤ 536870911
  label : (Label.ofText? definition.label).isSome
  default : document.DefaultFits scope definition

structure SiteFits (document : Document) (site : Site) : Prop where
  names : (site.definition.fields.map FieldDef.name).Nodup
  numbers : (site.definition.fields.map FieldDef.number).Nodup
  fields : ∀ definition ∈ site.definition.fields,
    document.FieldFits (document.pathName site.path) definition

structure Fits (document : Document) : Prop where
  types : (document.declared.map UserType.fullName).Nodup
  sites : ∀ site ∈ document.sites, document.SiteFits site

end Document

namespace FieldDef

variable {document : Document} {registry : Registry} {scope : String}

theorem defaults_exists_iff (definition : FieldDef) (field : Field) :
    (∃ value?, definition.Defaults field value?) ↔
      ∀ json, definition.default = some json → ∃ literal, json.HasText literal ∧
        IsDefaultOf field.tag field.target literal := by
  simp only [← Field.readDefault_ok_iff, ← Json.Value.literal?_eq_some_iff]
  constructor
  · rintro ⟨value?, defaults⟩ json stated
    cases value? with
    | none => cases stated.symm.trans defaults
    | some value =>
      obtain ⟨_, literal, same, written, read⟩ := defaults
      cases stated.symm.trans same
      exact ⟨literal, written, value, read⟩
  · intro fits
    cases stated : definition.default with
    | none => exact ⟨none, stated⟩
    | some json =>
      obtain ⟨literal, written, value, read⟩ := fits json stated
      exact ⟨some value, json, literal, stated, written, read⟩

theorem isDefaultOf_linked_iff (filled : Registry.ofTypes document.declared = .ok registry)
    (definition : FieldDef) (literal : String) :
    IsDefaultOf definition.tag (definition.target? registry scope) literal ↔
      match Scalar.ofTag? definition.tag with
      | some scalar => scalar.IsLiteral literal
      | none => ∃ e, document.Denotes scope definition.reference (.enum e) ∧
          ∃ value ∈ e.values, value.name = literal := by
  unfold IsDefaultOf target?
  cases Scalar.ofTag? definition.tag with
  | some scalar => exact .rfl
  | none => simp only [Registry.resolve?_eq_some_iff filled]

theorem build_exists_iff (filled : Registry.ofTypes document.declared = .ok registry)
    {definition : FieldDef} :
    (∃ field, (definition.build registry scope).result = .ok field) ↔
      document.FieldFits scope definition := by
  simp only [build_ok_iff]
  constructor
  · rintro ⟨_, number, label, value?, numbered, labelled, defaults, _⟩
    refine ⟨numbered.inRange, by simp [labelled], ?_⟩
    intro json stated
    obtain ⟨literal, written, read⟩ :=
      (defaults_exists_iff definition _).mp ⟨value?, defaults⟩ json stated
    exact ⟨literal, written, (isDefaultOf_linked_iff filled definition literal).mp read⟩
  · rintro ⟨inRange, labelled, fits⟩
    obtain ⟨number, numbered⟩ := exists_hasNumber_iff.mpr inRange
    obtain ⟨label, labelled⟩ := Option.isSome_iff_exists.mp labelled
    have defaults := (defaults_exists_iff definition
      (definition.linked registry scope number label)).mpr ?_
    · obtain ⟨value?, defaults⟩ := defaults
      exact ⟨_, number, label, value?, numbered, labelled, defaults, rfl⟩
    · intro json stated
      obtain ⟨literal, written, read⟩ := fits json stated
      exact ⟨literal, written, (isDefaultOf_linked_iff filled definition literal).mpr read⟩

end FieldDef

namespace Document

theorem built_exists_iff {document : Document} {registry : Registry}
    (filled : Registry.ofTypes document.declared = .ok registry) {site : Site} :
    (∃ message, document.Built registry site message) ↔ document.SiteFits site := by
  constructor
  · rintro ⟨message, _, new, fields⟩
    refine ⟨new.names, new.numbers, fun definition member => ?_⟩
    exact (FieldDef.build_exists_iff filled).mp (exists_forall₂_iff.mp ⟨_, fields⟩ definition member)
  · rintro ⟨names, numbers, fits⟩
    obtain ⟨fields, built⟩ := exists_forall₂_iff.mpr fun definition member =>
      (FieldDef.build_exists_iff filled).mpr (fits definition member)
    exact ⟨⟨document.messageAt site, fields⟩, rfl, ⟨names, numbers, by simp⟩, built⟩

end Document

/-- A document loads exactly if its full names are distinct and every message at any depth fits. -/
theorem loads_iff_fits (document : Document) :
    (∃ schema, (Schema.ofDocument document).result = .ok schema) ↔ document.Fits := by
  simp only [Document.load_ok_iff]
  constructor
  · rintro ⟨schema, registry, filled, _, _, built⟩
    refine ⟨Registry.ofTypes_ok_iff.mp ⟨registry, filled⟩, fun site member => ?_⟩
    exact (Document.built_exists_iff filled).mp (exists_forall₂_iff.mp ⟨_, built⟩ site member)
  · rintro ⟨types, fits⟩
    obtain ⟨registry, filled⟩ := Registry.ofTypes_ok_iff.mpr types
    obtain ⟨messages, built⟩ := exists_forall₂_iff.mpr fun site member =>
      (Document.built_exists_iff filled).mpr (fits site member)
    exact ⟨⟨document.scope, document.declared.filterMap UserType.asEnum?, messages⟩, registry, filled,
      rfl, rfl, built⟩

end MessageSchema
