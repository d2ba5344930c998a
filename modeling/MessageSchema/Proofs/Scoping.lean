import MessageSchema.Proofs.Loading

/-! Which type a loaded field refers to. A scalar tag refers to none, whatever is declared; any
other reference refers to the type that it denotes from inside its message, and the search for it
ends. -/
namespace MessageSchema

namespace Document

/-- The field is attached to what the reference of its definition denotes. -/
structure Scoped (document : Document) (site : Site) (definition : FieldDef) (field : Field) :
    Prop where
  scalar : (Scalar.ofTag? definition.tag).isSome → field.target = none
  resolved : Scalar.ofTag? definition.tag = none →
    (field.isResolved ↔ document.Reaches (document.pathName site.path) definition.reference)
  target : Scalar.ofTag? definition.tag = none → ∀ type,
    field.target = some type ↔
      document.Denotes (document.pathName site.path) definition.reference type

end Document

/-- Every message of the document counts, at any depth, and every scope the search
may start from. -/
theorem loaded_fields_scoped (document : Document) :
    (∀ schema, (Schema.ofDocument document).result = .ok schema →
      schema.EachField document document.Scoped) ∧
    ∀ (registry : Registry) (scope reference : String), Dotted.absolute? reference = none →
      ∃ turns, turns ≤ scope.toList.count '.' + 2 ∧
        (registry.turn reference)^[turns] (.trying scope.toList) =
          .over (registry.resolve? scope reference) := by
  refine ⟨fun schema loaded => ?_, fun registry _ _ relative => registry.search_ends relative⟩
  refine Schema.eachField_of_build loaded fun registry filled site _ definition _ field built => ?_
  have target := FieldDef.target_of_build built
  refine ⟨fun scalar => ?_, fun user => ?_, fun user type => ?_⟩
  · rw [target, FieldDef.target?_scalar scalar]
  · rw [Field.isResolved, target, FieldDef.target?_user user]
    exact Registry.resolve?_isSome_iff filled
  · rw [target, FieldDef.target?_user user]
    exact Registry.resolve?_eq_some_iff filled

/-- A nested enum shadows an outer one of the same name, and a dot at the front skips it. -/
def shadowing : Document where
  package := some "shop"
  enums := [⟨"Kind", [⟨"OLD", 0⟩]⟩]
  messages := [⟨"Order", [⟨"kind", 1, "optional", "Kind", none, none⟩],
    [⟨"Kind", [⟨"NEW", 0⟩]⟩],
    [⟨"Line", [⟨"kind", 1, "optional", "Kind", none, none⟩,
      ⟨"outer", 2, "optional", "Kind", some ".shop.Kind", none⟩,
      ⟨"count", 3, "optional", "int32", some "Kind", none⟩], [], []⟩]⟩]

theorem shadowing_scoped : ∃ schema, (Schema.ofDocument shadowing).result = .ok schema ∧
    schema.EachField shadowing shadowing.Scoped := by
  have accepted : (Schema.ofDocument shadowing).result.isOk = true := by decide +kernel
  obtain ⟨schema, loaded⟩ := exists_ok_of_isOk accepted
  exact ⟨schema, loaded, (loaded_fields_scoped shadowing).1 schema loaded⟩

end MessageSchema
