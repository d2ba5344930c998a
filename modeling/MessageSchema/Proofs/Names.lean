import Mathlib.Data.List.Nodup
import MessageSchema.Proofs.Outline

/-! The members of a loaded schema are the types that its document declares, and each has a full
name of its own. -/
namespace MessageSchema.Schema

variable {document : Document} {schema : Schema}

/-- The type is an enum of the schema, values included, or the identity of one of its messages. -/
def Holds (schema : Schema) : UserType → Prop
  | .enum e => e ∈ schema.enums
  | .message id => ∃ message ∈ schema.messages, message.id = id

/-- Some enum or message of the schema has the full name. -/
def Bears (schema : Schema) (fullName : String) : Prop :=
  (∃ e ∈ schema.enums, e.id.fullName = fullName) ∨
    ∃ message ∈ schema.messages, message.fullName = fullName

theorem declared_nodup (loaded : (ofDocument document).result = .ok schema) :
    (document.declared.map UserType.fullName).Nodup := by
  obtain ⟨registry, filled, _, _, _⟩ := Document.load_ok_iff.mp loaded
  exact Registry.ofTypes_ok_iff.mp ⟨registry, filled⟩

theorem enums_eq (loaded : (ofDocument document).result = .ok schema) :
    schema.enums = document.declared.filterMap UserType.asEnum? := by
  obtain ⟨_, _, _, enums, _⟩ := Document.load_ok_iff.mp loaded
  exact enums

theorem messageIds_eq (loaded : (ofDocument document).result = .ok schema) :
    schema.messages.map Message.id = document.declared.filterMap UserType.asMessage? := by
  obtain ⟨_, _, _, _, built⟩ := Document.load_ok_iff.mp loaded
  rw [document.declared_messages, ← List.forall₂_eq_eq_eq, List.forall₂_map_left_iff,
    List.forall₂_map_right_iff]
  exact .flip (built.imp fun site message same => same.id)

theorem mem_enums_iff (loaded : (ofDocument document).result = .ok schema) {e : EnumType} :
    e ∈ schema.enums ↔ .enum e ∈ document.declared := by
  rw [enums_eq loaded, List.mem_filterMap]
  constructor
  · rintro ⟨type, declared, same⟩
    cases type <;> cases same
    exact declared
  · exact fun declared => ⟨_, declared, rfl⟩

theorem exists_message_iff (loaded : (ofDocument document).result = .ok schema) {id : TypeName} :
    (∃ message ∈ schema.messages, message.id = id) ↔ .message id ∈ document.declared := by
  rw [← List.mem_map, messageIds_eq loaded, List.mem_filterMap]
  constructor
  · rintro ⟨type, declared, same⟩
    cases type <;> cases same
    exact declared
  · exact fun declared => ⟨_, declared, rfl⟩

theorem holds_iff (loaded : (ofDocument document).result = .ok schema) {type : UserType} :
    schema.Holds type ↔ type ∈ document.declared := by
  cases type with
  | enum e => exact mem_enums_iff loaded
  | message id => exact exists_message_iff loaded

theorem bears_iff {fullName : String} :
    schema.Bears fullName ↔ ∃ type, schema.Holds type ∧ type.fullName = fullName := by
  constructor
  · rintro (⟨e, member, named⟩ | ⟨message, member, named⟩)
    · exact ⟨.enum e, member, named⟩
    · exact ⟨.message message.id, ⟨message, member, rfl⟩, named⟩
  · rintro ⟨_ | _, held, named⟩
    · exact .inl ⟨_, held, named⟩
    · obtain ⟨message, member, rfl⟩ := held
      exact .inr ⟨message, member, named⟩

theorem bears_iff_names (loaded : (ofDocument document).result = .ok schema) {fullName : String} :
    schema.Bears fullName ↔ document.Names fullName := by
  simp only [bears_iff, holds_iff loaded, Document.Names]

theorem enum_unique (loaded : (ofDocument document).result = .ok schema) {e other : EnumType}
    (first : e ∈ schema.enums) (second : other ∈ schema.enums)
    (same : e.id.fullName = other.id.fullName) : e = other := by
  have types := List.inj_on_of_nodup_map (declared_nodup loaded) ((mem_enums_iff loaded).mp first)
    ((mem_enums_iff loaded).mp second) same
  exact UserType.enum.inj types

/-- Messages come after enums in the names of all types, which do not repeat. -/
theorem messages_nodup (loaded : (ofDocument document).result = .ok schema) :
    (schema.messages.map Message.fullName).Nodup := by
  have ids := congrArg (List.map TypeName.fullName) (messageIds_eq loaded)
  rw [List.map_map] at ids
  have types := (UserType.fullNames_perm document.declared).nodup_iff.mpr (declared_nodup loaded)
  exact ids ▸ types.of_append_right

theorem message_unique (loaded : (ofDocument document).result = .ok schema) {message other : Message}
    (first : message ∈ schema.messages) (second : other ∈ schema.messages)
    (same : message.fullName = other.fullName) : message = other :=
  List.inj_on_of_nodup_map (messages_nodup loaded) first second same

end MessageSchema.Schema
