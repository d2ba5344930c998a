import MessageSchema.Proofs.FieldFaults

/-! The error of a document that does not load is that of its first fault: of the first full name
that repeats, or else of the first check that fails in the first field in which one does. What comes
after it has no say. -/
namespace MessageSchema

/-- How far a document has been looked at: some of its types, or all of them and some
of its fields. -/
inductive Examined where
  | types (types : List UserType)
  | fields (types : List UserType) (slots : List Slot)

namespace Document

variable {document : Document} {examined : Examined} {error : Error}

/-- Looking at the document goes through this first. -/
def Begins (document : Document) : Examined → Prop
  | .types types => types <+: document.declared
  | .fields types slots => types = document.declared ∧ slots <+: document.slots

/-- The first fault of a document is the last thing that is looked at. -/
inductive FirstFault (document : Document) : Examined → Error → Prop where
  | type {before after : List UserType} {type : UserType} :
      document.declared = before ++ type :: after → (before.map UserType.fullName).Nodup →
      type.fullName ∈ before.map UserType.fullName →
      FirstFault document (.types (before ++ [type])) (.schema (.repeatedType type.fullName))
  | field {passed rest : List Slot} {slot : Slot} {check : Check} {error : Error} :
      (document.declared.map UserType.fullName).Nodup → document.slots = passed ++ slot :: rest →
      (∀ prior ∈ passed, prior.Sound document) → slot.FirstFails document check error →
      FirstFault document (.fields document.declared (passed ++ [slot])) error

theorem FirstFault.begins (fault : document.FirstFault examined error) :
    document.Begins examined := by
  cases fault with
  | @type before after _ split => exact ⟨after, by simp [split]⟩
  | @field _ rest _ _ _ _ split => exact ⟨rfl, rest, by simp [split]⟩

/-- Any document that begins like this one, up to the fault, is refused for it. -/
theorem FirstFault.refused (fault : document.FirstFault examined error) {other : Document}
    (begins : other.Begins examined) : (Schema.ofDocument other).result = .error error := by
  cases fault with
  | @type before _ type _ distinct repeated =>
    obtain ⟨after, split⟩ := begins
    have repeats := Registry.ofTypes_error_iff.mpr
      ⟨before, type, after, (List.append_cons before type after).symm, distinct, repeated, rfl⟩
    rw [load_unfilled (split ▸ repeats)]
  | @field passed _ slot check error distinct _ sound failed =>
    obtain ⟨same, rest, split⟩ := begins
    obtain ⟨registry, filled⟩ := Registry.ofTypes_ok_iff.mpr distinct
    have built : ∀ prior ∈ passed, prior.Builds registry := fun prior member =>
      (Slot.builds_iff_sound filled).mpr (sound prior member)
    have stopped := (Slot.build_error_iff filled).mpr ⟨check, failed⟩
    have split : other.slots = passed ++ slot :: rest := by rw [← split, ← List.append_cons]
    rw [load_stopped (same ▸ filled) split built stopped]

theorem exists_firstFault (refused : (Schema.ofDocument document).result = .error error) :
    ∃ examined, document.FirstFault examined error := by
  cases filled : Registry.ofTypes document.declared with
  | error other =>
    rw [load_unfilled filled] at refused
    cases refused
    obtain ⟨before, type, after, split, distinct, repeated, rfl⟩ :=
      Registry.ofTypes_error_iff.mp filled
    exact ⟨_, .type split distinct repeated⟩
  | ok registry =>
    have distinct := Registry.ofTypes_ok_iff.mp ⟨registry, filled⟩
    rcases sound_or_stopped document document.slots with
      sound | ⟨passed, slot, rest, check, other, split, sound, failed⟩
    · obtain ⟨schema, loaded⟩ := load_of_sound filled sound
      rw [loaded] at refused
      cases refused
    · rw [load_of_firstFails filled split sound failed] at refused
      cases refused
      exact ⟨_, .field distinct split sound failed⟩

end Document

/-- A document is refused exactly if it has a first fault, and with the error of that; nothing that
follows the fault, in whatever document begins so, changes the error. -/
theorem first_fault_is_reported (document : Document) (error : Error) :
    ((Schema.ofDocument document).result = .error error ↔
      ∃ examined, document.FirstFault examined error) ∧
    ∀ examined, document.FirstFault examined error → ∀ other : Document, other.Begins examined →
      (Schema.ofDocument other).result = .error error := by
  refine ⟨⟨Document.exists_firstFault, ?_⟩, fun examined fault other begins => fault.refused begins⟩
  rintro ⟨examined, fault⟩
  exact fault.refused fault.begins

/-- The number of the first field of `Line` is out of range. Its label, the fields after it and the
messages after it are wrong as well. -/
def faulty : Document where
  package := some "shop"
  enums := []
  messages := [⟨"Order", [⟨"id", 1, "required", "int32", none, some (.text "7")⟩], [],
    [⟨"Line", [⟨"count", 0, "many", "int32", none, none⟩,
      ⟨"count", 0, "optional", "Kind", none, some .null⟩], [], []⟩]⟩,
    ⟨"Invoice", [⟨"id", 1, "few", "string", none, none⟩], [], []⟩]

/-- The same with nothing wrong in the fields that follow the first of `Line`. -/
def halfMended : Document where
  package := some "shop"
  enums := []
  messages := [⟨"Order", [⟨"id", 1, "required", "int32", none, some (.text "7")⟩], [],
    [⟨"Line", [⟨"count", 0, "many", "int32", none, none⟩,
      ⟨"kind", 1, "optional", "Kind", none, none⟩], [], []⟩]⟩,
    ⟨"Invoice", [], [], []⟩]

def faultyId : Slot :=
  ⟨"shop.Order", [], ⟨"id", 1, "required", "int32", none, some (.text "7")⟩⟩

def faultyCount : Slot :=
  ⟨"shop.Order.Line", [], ⟨"count", 0, "many", "int32", none, none⟩⟩

theorem faulty_reported :
    faulty.FirstFault (.fields faulty.declared [faultyId, faultyCount])
        (.schema (.numberOutOfRange "count" "shop.Order.Line" 0)) ∧
      halfMended.Begins (.fields faulty.declared [faultyId, faultyCount]) ∧
      (Schema.ofDocument halfMended).result =
        .error (.schema (.numberOutOfRange "count" "shop.Order.Line" 0)) := by
  have distinct : (faulty.declared.map UserType.fullName).Nodup := by decide +kernel
  have sound : faultyId.Sound faulty := by
    obtain ⟨registry, filled⟩ := Registry.ofTypes_ok_iff.mpr distinct
    exact (Slot.builds_iff_sound filled).mp ⟨_, rfl⟩
  have failed : faultyCount.FirstFails faulty .range
      (.schema (.numberOutOfRange "count" "shop.Order.Line" 0)) := by
    refine ⟨⟨by decide, rfl⟩, fun prior earlier other fails => ?_⟩
    cases prior with
    | name | number => simp [Slot.Fails, faultyCount] at fails
    | range | label | defaultKind | defaultText => exact absurd earlier (by decide)
  have fault := @Document.FirstFault.field faulty [faultyId] _ _ _ _ distinct rfl
    (by simpa using sound) failed
  have begins : halfMended.Begins (.fields faulty.declared [faultyId, faultyCount]) :=
    ⟨rfl, [⟨"shop.Order.Line", [faultyCount.definition],
      ⟨"kind", 1, "optional", "Kind", none, none⟩⟩], rfl⟩
  exact ⟨fault, begins, (first_fault_is_reported faulty _).2 _ fault halfMended begins⟩

end MessageSchema
