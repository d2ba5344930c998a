import MessageSchema.Proofs.Loading
import MessageSchema.Proofs.Runs

/-! The field definitions of a document in the order in which the loader comes to them: messages in
pre-order, and in each its fields as declared. Once the types are registered, loading is a run over
them. -/
namespace MessageSchema

/-- A field definition where it stands: in the message of the full name `scope`, behind the earlier
definitions of that message. -/
structure Slot where
  scope : String
  earlier : List FieldDef
  definition : FieldDef

namespace Slot

/-- The definitions of a message in order, the first of them behind earlier ones. -/
def ofFields (scope : String) (earlier : List FieldDef) : List FieldDef → List Slot
  | [] => []
  | definition :: rest => ⟨scope, earlier, definition⟩ :: ofFields scope (definition :: earlier) rest

def build (registry : Registry) (slot : Slot) : Traced Field := do
  Traced.ofExcept (slot.definition.checkNew slot.scope slot.earlier)
  slot.definition.build registry slot.scope

def Builds (registry : Registry) (slot : Slot) : Prop :=
  ∃ field, (slot.build registry).result = .ok field

/-- The loader of a message is a run over its slots. -/
theorem forget_fields (registry : Registry) (scope : String) (earlier definitions : List FieldDef) :
    (FieldDef.buildAll registry scope earlier definitions).forget =
      Traced.run (fun slot => (slot.build registry).forget) (ofFields scope earlier definitions) := by
  induction definitions generalizing earlier with
  | nil => rfl
  | cons definition rest ih =>
    rw [FieldDef.buildAll, ofFields, Traced.run, ← ih, build]
    simp only [Traced.forget, Traced.bind_assoc, Traced.pure_bind]

theorem forall₂_ofFields {R : FieldDef → Field → Prop} {definitions : List FieldDef}
    {fields : List Field} (all : List.Forall₂ R definitions fields) (scope : String)
    (earlier : List FieldDef) :
    List.Forall₂ (fun slot field => slot.scope = scope ∧ R slot.definition field)
      (ofFields scope earlier definitions) fields := by
  induction all generalizing earlier with
  | nil => exact .nil
  | cons first _ ih => exact .cons ⟨rfl, first⟩ (ih _)

end Slot

namespace Placed

def slots (placed : Placed) : List Slot :=
  Slot.ofFields placed.fullName [] placed.definition.fields

theorem forget_build {registry : Registry} {placed : Placed} {id : TypeName}
    (registered : placed.registered registry = .ok id) :
    (placed.build registry).forget =
      Traced.run (fun slot => (slot.build registry).forget) placed.slots := by
  rw [build, registered, slots, ← Slot.forget_fields, Traced.forget_bind]
  rw [Traced.bind_ok (Traced.result_ofExcept _), Traced.forget_bind]
  rfl

theorem forget_buildAll {registry : Registry} {placed : List Placed}
    (registered : ∀ place ∈ placed, ∃ id, place.registered registry = .ok id) :
    (buildAll registry placed).forget =
      Traced.run (fun slot => (slot.build registry).forget) (placed.flatMap slots) := by
  induction placed with
  | nil => rfl
  | cons place rest ih =>
    obtain ⟨⟨id, known⟩, others⟩ := List.forall_mem_cons.mp registered
    rw [List.flatMap_cons, Traced.run_append, ← forget_build known, ← ih others, buildAll]
    simp only [Traced.forget, Traced.bind_assoc, Traced.pure_bind]

end Placed

namespace Document

def slots (document : Document) : List Slot :=
  document.sites.flatMap fun site =>
    Slot.ofFields (document.pathName site.path) [] site.definition.fields

variable {document : Document} {registry : Registry}

theorem forget_messages (filled : Registry.ofTypes document.declared = .ok registry) :
    (Placed.buildAll registry document.placed).forget =
      Traced.run (fun slot => (slot.build registry).forget) document.slots := by
  rw [placed_eq, Placed.forget_buildAll, slots, List.flatMap_map]
  · simp only [Placed.slots, place_fullName]
    rfl
  · intro place member
    obtain ⟨site, inside, rfl⟩ := List.mem_map.mp member
    exact ⟨_, registered_eq filled inside⟩

/-- Where a full name repeats, nothing is built. -/
theorem load_unfilled {error : Error} (refused : Registry.ofTypes document.declared = .error error) :
    Schema.ofDocument document = ⟨[], .error error⟩ := by
  rw [Schema.ofDocument, types_eq, refused, Traced.bind_error (Traced.result_ofExcept _)]
  rfl

theorem load_stopped (filled : Registry.ofTypes document.declared = .ok registry)
    {passed rest : List Slot} {slot : Slot} {error : Error}
    (split : document.slots = passed ++ slot :: rest)
    (before : ∀ prior ∈ passed, prior.Builds registry)
    (failed : (slot.build registry).result = .error error) :
    Schema.ofDocument document =
      ⟨(passed.flatMap fun prior => (prior.build registry).events) ++ (slot.build registry).events,
        .error error⟩ := by
  have stopped := forget_messages filled
  rw [split, Traced.run_stopped (fun prior member => Traced.forget_ok_iff.mpr (before prior member))
    (Traced.forget_error_iff.mpr failed)] at stopped
  simp only [Traced.events_forget] at stopped
  rw [Schema.ofDocument, types_eq, filled, Traced.bind_ok (Traced.result_ofExcept _),
    Traced.eq_of_forget_error stopped, Traced.bind_error rfl]
  rfl

theorem load_done (filled : Registry.ofTypes document.declared = .ok registry)
    (all : ∀ slot ∈ document.slots, slot.Builds registry) :
    ∃ schema, Schema.ofDocument document =
      ⟨(document.slots.flatMap fun slot => (slot.build registry).events) ++
        [.loaded (schema.package.getD "") schema.messages.length schema.enums.length],
        .ok schema⟩ := by
  have done := forget_messages filled
  rw [Traced.run_done fun slot member => Traced.forget_ok_iff.mpr (all slot member)] at done
  simp only [Traced.events_forget] at done
  obtain ⟨messages, built⟩ := Traced.eq_of_forget_ok done
  refine ⟨⟨document.scope, document.types.filterMap UserType.asEnum?, messages⟩, ?_⟩
  rw [Schema.ofDocument, types_eq, filled, Traced.bind_ok (Traced.result_ofExcept _), built,
    Traced.bind_ok rfl]
  rfl

/-- The fields of a loaded schema are built from the slots, one by one. -/
theorem slots_built (filled : Registry.ofTypes document.declared = .ok registry) {schema : Schema}
    (loaded : (Schema.ofDocument document).result = .ok schema) :
    List.Forall₂ (fun slot field => (slot.definition.build registry slot.scope).result = .ok field)
      document.slots (schema.messages.flatMap Message.fields) := by
  obtain ⟨other, same, _, _, built⟩ := load_ok_iff.mp loaded
  cases filled.symm.trans same
  refine List.rel_flatMap built fun site message built => ?_
  refine (Slot.forall₂_ofFields built.fields _ _).imp fun slot field ⟨scope, done⟩ => ?_
  rw [scope]
  exact done

end Document

end MessageSchema
