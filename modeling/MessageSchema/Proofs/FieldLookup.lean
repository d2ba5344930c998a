import MessageSchema.Proofs.Outline

/-! Looking up the fields of a loaded message. Names and numbers are those of the definitions,
which do not repeat in a message, so each look-up leads back to the one field that has the
name or number. -/
namespace MessageSchema

namespace Message

variable {message : Message}

/-- Both look-ups are inverse to the list of fields. -/
structure Indexed (message : Message) : Prop where
  name : ∀ name field,
    message.field? name = some field ↔ field ∈ message.fields ∧ field.name = name
  number : ∀ number field,
    message.fieldByNumber? number = some field ↔ field ∈ message.fields ∧ field.number = number

theorem indexed (names : (message.fields.map Field.name).Nodup)
    (numbers : (message.fields.map Field.number).Nodup) : message.Indexed where
  name _ _ := find?_key_eq_some_iff names
  number _ _ := find?_key_eq_some_iff numbers

theorem Indexed.found (indexed : message.Indexed) {field : Field} (member : field ∈ message.fields) :
    message.field? field.name = some field ∧ message.fieldByNumber? field.number = some field :=
  ⟨(indexed.name _ _).mpr ⟨member, rfl⟩, (indexed.number _ _).mpr ⟨member, rfl⟩⟩

theorem Indexed.no_name (indexed : message.Indexed) {name : String}
    (absent : ∀ field ∈ message.fields, field.name ≠ name) : message.field? name = none := by
  by_contra found
  obtain ⟨field, found⟩ := Option.ne_none_iff_exists'.mp found
  obtain ⟨member, same⟩ := (indexed.name _ _).mp found
  exact absent field member same

theorem Indexed.no_number (indexed : message.Indexed) {number : UInt32}
    (absent : ∀ field ∈ message.fields, field.number ≠ number) :
    message.fieldByNumber? number = none := by
  by_contra found
  obtain ⟨field, found⟩ := Option.ne_none_iff_exists'.mp found
  obtain ⟨member, same⟩ := (indexed.number _ _).mp found
  exact absent field member same

end Message

theorem FieldDef.kept_names {definitions : List FieldDef} {fields : List Field}
    (kept : List.Forall₂ FieldDef.Kept definitions fields) :
    fields.map Field.name = definitions.map FieldDef.name := by
  rw [← List.forall₂_eq_eq_eq, List.forall₂_map_left_iff, List.forall₂_map_right_iff]
  exact .flip (kept.imp fun definition field same => same.name)

theorem FieldDef.kept_numbers {definitions : List FieldDef} {fields : List Field}
    (kept : List.Forall₂ FieldDef.Kept definitions fields) :
    fields.map (fun field => (field.number.toNat : Int)) =
      definitions.map fun definition => definition.number.toInt := by
  rw [← List.forall₂_eq_eq_eq, List.forall₂_map_left_iff, List.forall₂_map_right_iff]
  exact .flip (kept.imp fun definition field same => same.number)

/-- What was checked of the definitions, with 64 bits for a number, holds of the fields with 32. -/
theorem Document.Built.indexed {document : Document} {registry : Registry} {site : Site}
    {message : Message} (built : document.Built registry site message) : message.Indexed := by
  have kept : List.Forall₂ FieldDef.Kept site.definition.fields message.fields :=
    built.fields.imp fun _ _ => FieldDef.kept_of_build
  apply Message.indexed
  · rw [FieldDef.kept_names kept]
    exact built.new.names
  · have numbers : (site.definition.fields.map fun definition => definition.number.toInt).Nodup := by
      rw [← Function.comp_def, ← List.map_map]
      exact built.new.numbers.map fun _ _ => Int64.toInt_inj.mp
    rw [← FieldDef.kept_numbers kept, ← Function.comp_def Nat.cast, ← List.map_map] at numbers
    have naturals := numbers.of_map
    rw [← Function.comp_def, ← List.map_map] at naturals
    exact naturals.of_map

/-- The number of the field is that of its definition, which fits the wire format. -/
structure FieldDef.NumberKept (definition : FieldDef) (field : Field) : Prop where
  same : (field.number.toNat : Int) = definition.number.toInt
  inRange : 1 ≤ field.number.toNat ∧ field.number.toNat ≤ 536870911

theorem FieldDef.numberKept_of_build {definition : FieldDef} {registry : Registry} {scope : String}
    {field : Field} (built : (definition.build registry scope).result = .ok field) :
    definition.NumberKept field := by
  obtain ⟨number, _, _, numbered, _, _, rfl⟩ := build_ok_iff.mp built
  obtain ⟨⟨least, most⟩, same⟩ := numbered
  rw [← same] at least most
  simp only [maxFieldNumber] at most
  exact ⟨same, by simp only [linked]; omega⟩

/-- In every message of a loaded schema a field is found by its name and by its number, nothing else
is found, and the numbers are those of the document. -/
theorem fields_found_by_name_and_number {document : Document} {schema : Schema}
    (loaded : (Schema.ofDocument document).result = .ok schema) :
    (∀ message ∈ schema.messages,
      (∀ field ∈ message.fields, message.field? field.name = some field ∧
        message.fieldByNumber? field.number = some field) ∧
      (∀ name, (∀ field ∈ message.fields, field.name ≠ name) → message.field? name = none) ∧
      ∀ number, (∀ field ∈ message.fields, field.number ≠ number) →
        message.fieldByNumber? number = none) ∧
    schema.EachField document fun _ => FieldDef.NumberKept := by
  constructor
  · intro message member
    obtain ⟨registry, _, _, _, built⟩ := Document.load_ok_iff.mp loaded
    obtain ⟨site, _, built⟩ := forall₂_exists_right built.flip member
    have indexed := built.indexed
    exact ⟨fun field => indexed.found, fun name => indexed.no_name, fun number => indexed.no_number⟩
  · apply Schema.eachField_of_build loaded
    intro registry filled site inside definition defined field built
    exact FieldDef.numberKept_of_build built

/-- The nested message has the names and numbers of the message around it once more, and the highest
number there is. -/
def numbered : Document where
  package := some "shop"
  enums := []
  messages := [⟨"Order", [⟨"id", 1, "required", "int32", none, none⟩,
      ⟨"lines", 536870911, "repeated", "Line", none, none⟩], [],
    [⟨"Line", [⟨"lines", 1, "optional", "int32", none, none⟩,
      ⟨"id", 2, "optional", "Missing", none, none⟩], [], []⟩]⟩]

theorem numbered_found : ∃ schema, (Schema.ofDocument numbered).result = .ok schema ∧
    (∀ message ∈ schema.messages,
      (∀ field ∈ message.fields, message.field? field.name = some field ∧
        message.fieldByNumber? field.number = some field) ∧
      (∀ name, (∀ field ∈ message.fields, field.name ≠ name) → message.field? name = none) ∧
      ∀ number, (∀ field ∈ message.fields, field.number ≠ number) →
        message.fieldByNumber? number = none) ∧
    schema.EachField numbered fun _ => FieldDef.NumberKept := by
  have accepted : (Schema.ofDocument numbered).result.isOk = true := by decide +kernel
  obtain ⟨schema, loaded⟩ := exists_ok_of_isOk accepted
  exact ⟨schema, loaded, fields_found_by_name_and_number loaded⟩

end MessageSchema
