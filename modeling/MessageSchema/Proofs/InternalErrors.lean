import MessageSchema.Proofs.FirstFault

/-! Some errors of the loader guard its parts against one another: a type that another part
registered otherwise, a target other than the declared one, a number that is too wide although it is
in range. No document leads to them. -/
namespace MessageSchema

namespace Error

/-- The error says what is wrong with the document. -/
inductive Blames : Error → Prop where
  | repeatedType : Blames (.schema (.repeatedType fullName))
  | repeatedFieldName : Blames (.schema (.repeatedFieldName name scope))
  | repeatedFieldNumber : Blames (.schema (.repeatedFieldNumber number scope))
  | numberOutOfRange : Blames (.schema (.numberOutOfRange field scope number))
  | invalidLabel : Blames (.invalidLabel text)
  | defaultKind : Blames (.schema (.defaultKind field value))
  | invalidDefault : Blames (.invalidDefault field literal fault)

/-- The error says that parts of the loader disagree. -/
inductive Internal : Error → Prop where
  | notScalar : Internal (.notScalar tag)
  | scalarTarget : Internal (.scalarTarget field tag)
  | targetMismatch : Internal (.targetMismatch field declared found)
  | unregisteredMessage : Internal (.schema (.unregisteredMessage fullName))
  | numberTooWide : Internal (.schema (.numberTooWide field))

theorem Blames.not_internal {error : Error} (blames : error.Blames) : ¬ error.Internal := by
  intro internal
  cases blames <;> cases internal

end Error

theorem Slot.Fails.blames {document : Document} {slot : Slot} {check : Check} {error : Error}
    (failed : slot.Fails document check error) : error.Blames := by
  cases check with
  | name => obtain ⟨_, rfl⟩ := failed; exact .repeatedFieldName
  | number => obtain ⟨_, rfl⟩ := failed; exact .repeatedFieldNumber
  | range => obtain ⟨_, rfl⟩ := failed; exact .numberOutOfRange
  | label => obtain ⟨_, rfl⟩ := failed; exact .invalidLabel
  | defaultKind => obtain ⟨_, _, _, rfl⟩ := failed; exact .defaultKind
  | defaultText => obtain ⟨_, _, _, _, _, _, rfl⟩ := failed; exact .invalidDefault

theorem Document.FirstFault.blames {document : Document} {examined : Examined} {error : Error}
    (fault : document.FirstFault examined error) : error.Blames := by
  cases fault with
  | type => exact .repeatedType
  | field _ _ _ failed => exact failed.fails.blames

/-- Within a document the passes of the loader agree: what one of them gives, no other refuses. -/
structure Document.Coherent (document : Document) (registry : Registry) : Prop where
  registered : ∀ placed ∈ document.placed, ∃ id, placed.registered registry = .ok id ∧
    id.fullName = placed.fullName
  attached : ∀ slot ∈ document.slots, Scalar.ofTag? slot.definition.tag = none → ∀ type,
    registry.resolve? slot.scope slot.definition.reference = some type → ∀ number label, ∃ field,
      FieldDef.attach (.bare slot.definition.name number label slot.definition.tag) type = .ok field ∧
        field.target = some type

theorem Document.coherent {document : Document} {registry : Registry}
    (filled : Registry.ofTypes document.types = .ok registry) : document.Coherent registry where
  registered := by
    rw [types_eq] at filled
    rw [placed_eq, List.forall_mem_map]
    intro site member
    exact ⟨_, registered_eq filled member, by rw [messageAt_fullName, place_fullName]⟩
  attached := fun _ _ user type _ _ _ => ⟨_, FieldDef.attach_bare type user, rfl⟩

/-- A number is refused for its range only, and what it is converted to is the same number. -/
structure FieldDef.KeepsNumber (scope : String) (definition : FieldDef) : Prop where
  range : ∀ error, definition.wireNumber scope = .error error →
    error = .schema (.numberOutOfRange definition.name scope definition.number)
  same : ∀ number, definition.wireNumber scope = .ok number →
    (number.toNat : Int) = definition.number.toInt

theorem FieldDef.keepsNumber (scope : String) (definition : FieldDef) :
    definition.KeepsNumber scope where
  range := by
    intro error refused
    by_cases inRange : 1 ≤ definition.number.toInt ∧ definition.number.toInt ≤ maxFieldNumber
    · obtain ⟨number, numbered⟩ := exists_hasNumber_iff.mpr inRange
      cases refused.symm.trans (wireNumber_ok_iff.mpr numbered)
    · rw [wireNumber, if_neg inRange] at refused
      cases refused
      rfl
  same := fun _ converted => (wireNumber_ok_iff.mp converted).same

/-- Whatever the document, only the document is to blame where it does not load, and a schema that
is loaded has the numbers of the document. -/
theorem refusals_blame_document (document : Document) :
    (∀ registry, Registry.ofTypes document.types = .ok registry → document.Coherent registry) ∧
      (∀ slot ∈ document.slots, slot.definition.KeepsNumber slot.scope) ∧
      (∀ error, (Schema.ofDocument document).result = .error error →
        error.Blames ∧ ¬ error.Internal) ∧
      ∀ schema, (Schema.ofDocument document).result = .ok schema →
        schema.EachField document fun _ definition field =>
          (field.number.toNat : Int) = definition.number.toInt := by
  refine ⟨fun registry => Document.coherent,
    fun slot _ => slot.definition.keepsNumber slot.scope, ?_, ?_⟩
  · intro error refused
    obtain ⟨examined, fault⟩ := Document.exists_firstFault refused
    exact ⟨fault.blames, fault.blames.not_internal⟩
  · intro schema loaded
    refine Schema.eachField_of_build loaded fun registry _ site _ definition _ field built => ?_
    obtain ⟨number, label, value?, numbered, _, _, rfl⟩ := FieldDef.build_ok_iff.mp built
    exact numbered.same

/-- The message without a name has the type of its field inside, so an empty scope takes part. -/
def nameless (number : Int64) : Document where
  package := none
  enums := []
  messages := [⟨"", [⟨"item", number, "optional", "Item", none, none⟩], [], [⟨"Item", [], [], []⟩]⟩]

theorem nameless_blamed :
    (∃ registry, Registry.ofTypes (nameless 1).types = .ok registry ∧
      (nameless 1).Coherent registry) ∧
      (∃ error, (Schema.ofDocument (nameless 0)).result = .error error ∧ error.Blames) ∧
      ∃ schema, (Schema.ofDocument (nameless 1)).result = .ok schema ∧
        schema.EachField (nameless 1) fun _ definition field =>
          (field.number.toNat : Int) = definition.number.toInt := by
  have registered : (Registry.ofTypes (nameless 1).types).isOk = true := by decide +kernel
  have accepted : (Schema.ofDocument (nameless 1)).result.isOk = true := by decide +kernel
  have refused : (Schema.ofDocument (nameless 0)).result.isOk = false := by decide +kernel
  obtain ⟨registry, filled⟩ := exists_ok_of_isOk registered
  obtain ⟨schema, loaded⟩ := exists_ok_of_isOk accepted
  obtain ⟨error, failed⟩ := exists_error_of_not_isOk refused
  obtain ⟨coherent, _, _, numbers⟩ := refusals_blame_document (nameless 1)
  obtain ⟨_, _, blames, _⟩ := refusals_blame_document (nameless 0)
  exact ⟨⟨registry, filled, coherent registry filled⟩, ⟨error, failed, (blames error failed).1⟩,
    schema, loaded, numbers schema loaded⟩

end MessageSchema
