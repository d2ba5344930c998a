import MessageSchema.Proofs.FieldFaults
import MessageSchema.Proofs.Outline

/-! What loading records. A field that is come to reports its reference, before its default is
looked at; the end of a load is recorded only where it succeeds. A schema has as many unresolved
fields as there were warnings. -/
namespace MessageSchema

/-- The record of loading a document, told by the document and by how the load ends. -/
inductive Document.Trail (document : Document) : Except Error Schema → List Event → Prop where
  | repeated : ¬ (document.declared.map UserType.fullName).Nodup → Trail document (.error error) []
  | stopped {check : Check} : (document.declared.map UserType.fullName).Nodup →
      document.slots = passed ++ slot :: rest → (∀ prior ∈ passed, prior.Sound document) →
      slot.FirstFails document check error →
      List.Forall₂ (Slot.Reports document) passed reports → slot.Reports document own →
      Trail document (.error error) (reports.flatten ++ if check.ofDefault then own else [])
  | loaded : List.Forall₂ (Slot.Reports document) document.slots reports →
      Trail document (.ok schema) (reports.flatten ++
        [.loaded (schema.package.getD "") schema.messages.length schema.enums.length])

namespace Slot

variable {document : Document} {registry : Registry}

theorem forall₂_reports_iff (filled : Registry.ofTypes document.declared = .ok registry)
    {slots : List Slot} {reports : List (List Event)} :
    List.Forall₂ (Slot.Reports document) slots reports ↔
      reports = slots.map fun slot => slot.definition.report registry slot.scope := by
  induction slots generalizing reports with
  | nil => simp
  | cons slot rest ih =>
    simp only [List.forall₂_cons_left_iff, reports_iff filled, ih, List.map_cons]
    constructor
    · rintro ⟨_, _, rfl, rfl, rfl⟩
      rfl
    · rintro rfl
      exact ⟨_, _, rfl, rfl, rfl⟩

/-- A field that is built is unresolved exactly if its report is a warning. -/
theorem countP_report {slot : Slot} {field : Field}
    (built : (slot.definition.build registry slot.scope).result = .ok field) :
    (slot.definition.report registry slot.scope).countP Event.isWarning =
      if !field.isScalar && !field.isResolved then 1 else 0 := by
  have target := FieldDef.target_of_build built
  have tagged := (FieldDef.kept_of_build built).tag
  rw [Field.isScalar_eq, Field.isResolved, target, tagged, FieldDef.target?, FieldDef.report]
  cases Scalar.ofTag? slot.definition.tag with
  | some scalar => rfl
  | none => cases registry.resolve? slot.scope slot.definition.reference <;> rfl

end Slot

namespace Document

variable {document : Document} {registry : Registry}

theorem load_of_repeated (repeated : ¬ (document.declared.map UserType.fullName).Nodup) :
    ∃ error, Schema.ofDocument document = ⟨[], .error error⟩ := by
  cases filled : Registry.ofTypes document.declared with
  | error error => exact ⟨error, load_unfilled filled⟩
  | ok registry => exact absurd (Registry.ofTypes_ok_iff.mp ⟨registry, filled⟩) repeated

theorem sound_of_loaded (filled : Registry.ofTypes document.declared = .ok registry) {schema : Schema}
    (loaded : (Schema.ofDocument document).result = .ok schema) :
    ∀ slot ∈ document.slots, slot.Sound document := by
  rcases sound_or_stopped document document.slots with
    sound | ⟨passed, slot, rest, check, error, split, sound, failed⟩
  · exact sound
  · rw [load_of_firstFails filled split sound failed] at loaded
    cases loaded

theorem trail_of_load (document : Document) :
    document.Trail (Schema.ofDocument document).result (Schema.ofDocument document).events := by
  by_cases distinct : (document.declared.map UserType.fullName).Nodup
  · obtain ⟨registry, filled⟩ := Registry.ofTypes_ok_iff.mpr distinct
    rcases sound_or_stopped document document.slots with
      sound | ⟨passed, slot, rest, check, error, split, sound, failed⟩
    · obtain ⟨schema, loaded⟩ := load_of_sound filled sound
      rw [loaded, List.flatMap_def]
      exact .loaded ((Slot.forall₂_reports_iff filled).mpr rfl)
    · rw [load_of_firstFails filled split sound failed, List.flatMap_def]
      exact .stopped distinct split sound failed ((Slot.forall₂_reports_iff filled).mpr rfl)
        ((Slot.reports_iff filled).mpr rfl)
  · obtain ⟨error, refused⟩ := load_of_repeated distinct
    rw [refused]
    exact .repeated distinct

theorem Trail.events_eq {outcome : Except Error Schema} {events : List Event}
    (trail : document.Trail outcome events) (ends : (Schema.ofDocument document).result = outcome) :
    (Schema.ofDocument document).events = events := by
  cases trail with
  | repeated repeated =>
    obtain ⟨error, refused⟩ := load_of_repeated repeated
    rw [refused]
  | stopped distinct split sound failed reports own =>
    obtain ⟨registry, filled⟩ := Registry.ofTypes_ok_iff.mpr distinct
    rw [load_of_firstFails filled split sound failed, (Slot.forall₂_reports_iff filled).mp reports,
      (Slot.reports_iff filled).mp own, List.flatMap_def]
  | loaded reports =>
    obtain ⟨registry, filled, -⟩ := load_ok_iff.mp ends
    obtain ⟨schema, loaded⟩ := load_of_sound filled (sound_of_loaded filled ends)
    rw [loaded] at ends
    cases ends
    rw [loaded, (Slot.forall₂_reports_iff filled).mp reports, List.flatMap_def]

/-- The warnings of a load that succeeds are as many as the fields that it leaves unresolved. -/
theorem countP_events {schema : Schema} (ends : (Schema.ofDocument document).result = .ok schema) :
    (Schema.ofDocument document).events.countP Event.isWarning = schema.unresolvedCount := by
  obtain ⟨registry, filled, -⟩ := load_ok_iff.mp ends
  have built := slots_built filled ends
  obtain ⟨_, loaded⟩ := load_of_sound filled (sound_of_loaded filled ends)
  rw [loaded, List.countP_append, Schema.unresolvedCount,
    countP_flatMap_of_forall₂ built fun slot field => Slot.countP_report]
  rfl

end Document

/-- A text that cannot be read leaves no record. One that is read leaves the record of its document
and no other, with a warning for each unresolved field where it loads. -/
theorem events_follow_fields (text : String) :
    (∀ fault, Document.ofText text = .error fault → (Schema.ofText text).events = []) ∧
      (∀ document, Document.ofText text = .ok document → ∀ events,
        (Schema.ofText text).events = events ↔ document.Trail (Schema.ofText text).result events) ∧
      ∀ schema, (Schema.ofText text).result = .ok schema →
        (Schema.ofText text).events.countP Event.isWarning = schema.unresolvedCount := by
  cases read : Document.ofText text with
  | error fault =>
    have ends : Schema.ofText text = ⟨[], .error (.json fault)⟩ := by
      rw [Schema.ofText, read]
      rfl
    rw [ends]
    refine ⟨fun _ _ => rfl, ?_, ?_⟩
    · intro document impossible
      cases impossible
    · intro schema impossible
      cases impossible
  | ok document =>
    have loads : Schema.ofText text = Schema.ofDocument document := by rw [Schema.ofText, read]
    rw [loads]
    refine ⟨?_, ?_, fun schema => Document.countP_events⟩
    · intro fault impossible
      cases impossible
    · intro same read events
      cases read
      constructor
      · rintro rfl
        exact document.trail_of_load
      · exact fun trail => trail.events_eq rfl

/-- The field of the message refers to nothing. -/
def looseText : String :=
  let field := Json.braced "\"name\":\"b\",\"number\":1,\"label\":\"optional\",\"type\":\"B\""
  let message := Json.braced ("\"name\":\"A\",\"fields\":[" ++ field ++ "]")
  Json.braced ("\"messages\":[" ++ message ++ "]")

theorem loose_recorded :
    (∃ fault, Document.ofText "null" = .error fault ∧ (Schema.ofText "null").events = []) ∧
      ∃ document schema, Document.ofText looseText = .ok document ∧
        (Schema.ofText looseText).result = .ok schema ∧
        document.Trail (.ok schema) [.unresolved "b" "A" "B", .loaded "" 1 0] ∧
        (Schema.ofText looseText).events.countP Event.isWarning = schema.unresolvedCount := by
  have unread : (Document.ofText "null").isOk = false := by decide +kernel
  have done : (Schema.ofText looseText).result.isOk = true ∧
      (Schema.ofText looseText).events = [.unresolved "b" "A" "B", .loaded "" 1 0] := by
    decide +kernel
  constructor
  · obtain ⟨fault, unread⟩ := exists_error_of_not_isOk unread
    exact ⟨fault, unread, (events_follow_fields "null").1 fault unread⟩
  · obtain ⟨accepted, events⟩ := done
    obtain ⟨schema, loaded⟩ := exists_ok_of_isOk accepted
    obtain ⟨_, trail, warnings⟩ := events_follow_fields looseText
    cases read : Document.ofText looseText with
    | error fault =>
      rw [Schema.ofText, read] at loaded
      cases loaded
    | ok document =>
      refine ⟨document, schema, rfl, loaded, ?_, warnings schema loaded⟩
      rw [← loaded]
      exact (trail document read _).mp events

end MessageSchema
