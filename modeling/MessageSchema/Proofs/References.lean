import MessageSchema.Proofs.Names

/-! No reference of a loaded schema dangles. One that is attached leads to a type that the schema
holds; one that is not attached could lead to none of them, and keeps all that was written but the
dots at the front. -/
namespace MessageSchema

namespace Dotted

/-- The rest of a reference behind its leading dots, all of them. -/
structure Undotted (reference rest : String) : Prop where
  dots : ∃ count, reference.toList = List.replicate count '.' ++ rest.toList
  start : ∀ name, rest ≠ "." ++ name

/-- The full names that a reference made inside `scope` could stand for. -/
inductive MayDenote (scope : String) : String → String → Prop where
  | absolute {name : String} : MayDenote scope ("." ++ name) name
  | relative {reference outer : String} : (∀ name, reference ≠ "." ++ name) →
      outer ∈ around scope → MayDenote scope reference (qualify (some outer) reference)

theorem undotted_dropWhile (reference : String) :
    Undotted reference (String.ofList (reference.toList.dropWhile (· = '.'))) := by
  constructor
  case dots =>
    have dots : ∀ c ∈ reference.toList.takeWhile (· = '.'), c = '.' := fun c member => by
      simpa using List.all_eq_true.mp List.all_takeWhile c member
    refine ⟨(reference.toList.takeWhile (· = '.')).length, ?_⟩
    rw [← List.eq_replicate_of_mem dots, String.toList_ofList, List.takeWhile_append_dropWhile]
  case start =>
    intro name same
    have text : reference.toList.dropWhile (· = '.') = '.' :: name.toList := by
      simpa using congrArg String.toList same
    have first := List.head?_dropWhile_not (· = '.') reference.toList
    rw [text] at first
    simp at first

/-- Qualifying puts together what was cut. An empty scope would lose its dot, but no dot leads. -/
theorem qualify_written (reference : String) :
    qualify (written reference).1 (written reference).2 =
      String.ofList (reference.toList.dropWhile (· = '.')) := by
  have start := (undotted_dropWhile reference).start
  unfold written
  generalize reference.toList.dropWhile (· = '.') = text at start
  rcases dotless_or_split text with free | ⟨outer, last, rfl, free⟩
  · simp [splitLast?_eq_none free, qualify]
  · have nonempty : outer ≠ [] := by
      rintro rfl
      exact start (String.ofList last) (by simp)
    simp [splitLast?_append free, qualify, nonempty, ← String.toList_inj]

theorem written_dotless (reference : String) : '.' ∉ (written reference).2.toList := by
  unfold written
  rcases dotless_or_split (reference.toList.dropWhile (· = '.')) with free | ⟨outer, last, cut, free⟩
  · simp [splitLast?_eq_none free, free]
  · simp [cut, splitLast?_append free, free]

theorem written_undotted (reference : String) :
    Undotted reference (qualify (written reference).1 (written reference).2) := by
  rw [qualify_written]
  exact undotted_dropWhile reference

/-- Trailing dots and empty components stay where they are. -/
example : written "..a..b." = (some "a..b", "") ∧ qualify (some "a..b") "" = "a..b." := by decide

end Dotted

theorem Document.reaches_iff {document : Document} {scope reference : String} :
    document.Reaches scope reference ↔
      ∃ fullName, Dotted.MayDenote scope reference fullName ∧ document.Names fullName := by
  constructor
  · rintro (⟨name, rfl, named⟩ | ⟨relative, outer, member, named⟩)
    · exact ⟨name, .absolute, named⟩
    · exact ⟨_, .relative relative member, named⟩
  · rintro ⟨_, denotes, named⟩
    cases denotes with
    | absolute => exact .inl ⟨_, rfl, named⟩
    | relative relative member => exact .inr ⟨relative, _, member, named⟩

theorem FieldDef.declaration_of_build {registry : Registry} {scope : String} {definition : FieldDef}
    {field : Field} (built : (definition.build registry scope).result = .ok field) :
    (field.scope, field.declaredName) = definition.declaration field.target := by
  obtain ⟨_, _, _, _, _, _, rfl⟩ := build_ok_iff.mp built
  rfl

/-- Where the reference of a field leads, which is told of fields alone that are not scalar. -/
structure Schema.Links (schema : Schema) (document : Document) (site : Site) (definition : FieldDef)
    (field : Field) : Prop where
  resolved : field.isScalar = false → ∀ type, field.target = some type → schema.Holds type ∧
    ∃ name, field.declaredName = some name ∧ Dotted.qualify field.scope name = type.fullName
  unresolved : field.isScalar = false → field.target = none →
    (∀ fullName, Dotted.MayDenote (document.pathName site.path) definition.reference fullName →
      ¬ schema.Bears fullName) ∧
    ∃ name, field.declaredName = some name ∧ '.' ∉ name.toList ∧
      Dotted.Undotted definition.reference (Dotted.qualify field.scope name)

theorem loaded_references_closed {document : Document} {schema : Schema}
    (loaded : (Schema.ofDocument document).result = .ok schema) :
    schema.EachField document (schema.Links document) := by
  refine Schema.eachField_of_build loaded fun registry filled site _ definition _ field built => ?_
  have tagged := (FieldDef.kept_of_build built).tag
  have declares := FieldDef.declaration_of_build built
  have searched (notScalar : field.isScalar = false) : Scalar.ofTag? definition.tag = none ∧
      field.target = registry.resolve? (document.pathName site.path) definition.reference := by
    have user : Scalar.ofTag? definition.tag = none := by
      simpa [Field.isScalar_eq, tagged] using notScalar
    exact ⟨user, (FieldDef.target_of_build built).trans (FieldDef.target?_user user)⟩
  constructor
  case resolved =>
    intro notScalar type attached
    obtain ⟨user, found⟩ := searched notScalar
    have denotes := (Registry.resolve?_eq_some_iff filled).mp (found.symm.trans attached)
    simp only [FieldDef.declaration, user, attached, Prod.mk.injEq] at declares
    refine ⟨(Schema.holds_iff loaded).mpr denotes.declared, type.id.name, declares.2, ?_⟩
    rw [declares.1]
    rfl
  case unresolved =>
    intro notScalar missing
    obtain ⟨user, found⟩ := searched notScalar
    have unreached : ¬ document.Reaches (document.pathName site.path) definition.reference := by
      rw [← Registry.resolve?_isSome_iff filled, ← found, missing]
      simp
    simp only [FieldDef.declaration, user, missing, Prod.mk.injEq] at declares
    refine ⟨fun fullName denotes borne => ?_, _, declares.2, Dotted.written_dotless _, ?_⟩
    · have named := (Schema.bears_iff_names loaded).mp borne
      exact unreached (Document.reaches_iff.mpr ⟨fullName, denotes, named⟩)
    · rw [declares.1]
      exact Dotted.written_undotted definition.reference

/-- The first two references resolve, forward and to the message itself; the
others lead elsewhere. -/
def outlying : Document where
  package := some "shop"
  enums := []
  messages := [⟨"Order", [⟨"kind", 1, "optional", "Line.Kind", none, none⟩,
      ⟨"replaces", 2, "optional", "message", some ".shop.Order", none⟩,
      ⟨"placed", 3, "optional", "message", some "..google.protobuf.Timestamp", none⟩,
      ⟨"odd", 4, "optional", "a..b.", none, none⟩,
      ⟨"root", 5, "optional", "message", some ".", none⟩,
      ⟨"count", 6, "optional", "int32", some "Kind", none⟩], [],
    [⟨"Line", [], [⟨"Kind", [⟨"NEW", 0⟩]⟩], []⟩]⟩]

theorem outlying_closed : ∃ schema, (Schema.ofDocument outlying).result = .ok schema ∧
    schema.unresolvedCount = 3 ∧ schema.EachField outlying (schema.Links outlying) := by
  have accepted : ((Schema.ofDocument outlying).result.map Schema.unresolvedCount).toOption =
      some 3 := by decide +kernel
  cases loaded : (Schema.ofDocument outlying).result with
  | error error =>
    rw [loaded] at accepted
    cases accepted
  | ok schema =>
    rw [loaded] at accepted
    exact ⟨schema, rfl, Option.some.inj accepted, loaded_references_closed loaded⟩

end MessageSchema
