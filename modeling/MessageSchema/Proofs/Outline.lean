import MessageSchema.Proofs.Loading

/-! A loaded schema is the document in pre-order: nothing is lost, repeated or moved, and everything
stands in the namespace of its path. -/
namespace MessageSchema

/-- The field holds what its definition says of name, number, tag and label. -/
structure FieldDef.Kept (definition : FieldDef) (field : Field) : Prop where
  name : field.name = definition.name
  number : (field.number.toNat : Int) = definition.number.toInt
  tag : field.tag = definition.tag
  label : Label.ofText? definition.label = some field.label

theorem FieldDef.kept_of_build {definition : FieldDef} {registry : Registry} {scope : String}
    {field : Field} (built : (definition.build registry scope).result = .ok field) :
    definition.Kept field := by
  obtain ⟨number, label, _, numbered, labelled, _, rfl⟩ := build_ok_iff.mp built
  exact ⟨rfl, numbered.same, rfl, labelled⟩

namespace Document

structure Kept (document : Document) (site : Site) (message : Message) : Prop where
  name : message.id.name = site.definition.name
  scope : message.id.scope = document.namespaceOf site.outer
  fields : List.Forall₂ FieldDef.Kept site.definition.fields message.fields

/-- Top-level enums, then the enums of each message, messages in pre-order. -/
def enumsInOrder (document : Document) : List EnumType :=
  document.enums.map (document.enumAt []) ++
    document.sites.flatMap fun site => site.definition.enums.map (document.enumAt site.path)

theorem declared_enums (document : Document) :
    document.declared.filterMap UserType.asEnum? = document.enumsInOrder := by
  simp [declared, enumsInOrder, List.filterMap_flatMap, List.filterMap_cons, UserType.asEnum?,
    Function.comp_def]

theorem declared_messages (document : Document) :
    document.declared.filterMap UserType.asMessage? = document.sites.map document.messageAt := by
  rw [List.map_eq_flatMap]
  simp [declared, List.filterMap_flatMap, UserType.asMessage?, Function.comp_def]

end Document

/-- Enums and messages together are all types. -/
theorem UserType.fullNames_perm (types : List UserType) :
    ((types.filterMap asEnum?).map (·.id.fullName) ++
      (types.filterMap asMessage?).map TypeName.fullName).Perm (types.map fullName) := by
  induction types with
  | nil => exact .nil
  | cons type rest ih =>
    cases type with
    | enum e => exact ih.cons _
    | message id => exact List.perm_middle.trans (ih.cons _)

theorem schema_keeps_document {document : Document} {schema : Schema}
    (loaded : (Schema.ofDocument document).result = .ok schema) :
    List.Forall₂ document.Kept document.sites schema.messages ∧
      schema.enums = document.enumsInOrder ∧
      (schema.enums.map (·.id.fullName) ++ schema.messages.map Message.fullName).Nodup := by
  obtain ⟨registry, filled, _, enums, built⟩ := Document.load_ok_iff.mp loaded
  refine ⟨?_, enums.trans document.declared_enums, ?_⟩
  · refine built.imp fun site message ⟨id, _, fields⟩ => ⟨by rw [id]; rfl, by rw [id]; rfl, ?_⟩
    exact fields.imp fun _ _ => FieldDef.kept_of_build
  · have names : schema.messages.map Message.fullName =
        (document.declared.filterMap UserType.asMessage?).map TypeName.fullName := by
      rw [document.declared_messages, List.map_map, ← List.forall₂_eq_eq_eq]
      simp only [List.forall₂_map_left_iff, List.forall₂_map_right_iff]
      exact .flip (built.imp fun site message ⟨id, _, _⟩ => congrArg TypeName.fullName id)
    rw [names, enums, (UserType.fullNames_perm document.declared).nodup_iff]
    exact Registry.ofTypes_ok_iff.mp ⟨registry, filled⟩

/-- A message without a name: what stands in it is in the empty namespace, not in none. -/
def unnamed : Document where
  package := none
  enums := [⟨"Kind", [⟨"OLD", 0⟩]⟩]
  messages := [⟨"", [⟨"kind", 1, "required", "Kind", none, none⟩], [⟨"Unit", [⟨"PIECE", 0⟩]⟩],
    [⟨"Line", [⟨"count", 2, "repeated", "int32", none, none⟩],
      [⟨"Part", [⟨"A", 0⟩, ⟨"B", 1⟩]⟩], []⟩]⟩,
    ⟨"Order", [], [], []⟩]

theorem unnamed_kept : ∃ schema, (Schema.ofDocument unnamed).result = .ok schema ∧
    List.Forall₂ unnamed.Kept unnamed.sites schema.messages ∧
      schema.enums = unnamed.enumsInOrder ∧
      (schema.enums.map (·.id.fullName) ++ schema.messages.map Message.fullName).Nodup := by
  have accepted : (Schema.ofDocument unnamed).result.isOk = true := by decide +kernel
  obtain ⟨schema, loaded⟩ := exists_ok_of_isOk accepted
  exact ⟨schema, loaded, schema_keeps_document loaded⟩

end MessageSchema
