import MessageSchema.Proofs.Acceptance
import MessageSchema.Proofs.Slots

/-! What can be wrong with a field definition, told by the document alone, in the order in which it
is looked at. The loader refuses a definition with the first thing that is wrong, and reports its
reference only where that is the default. -/
namespace MessageSchema

/-- Why a text is no default of a field. A scalar gives the reason for which it cannot be read. -/
inductive Document.Refuses (document : Document) (scope : String) (definition : FieldDef)
    (literal : String) : DefaultFault → Prop where
  | scalar : Scalar.ofTag? definition.tag = some scalar → ¬ scalar.IsLiteral literal →
      DefaultValue.ofScalarLiteral scalar literal = .error fault →
      Refuses document scope definition literal fault
  | enum : Scalar.ofTag? definition.tag = none →
      document.Denotes scope definition.reference (.enum e) →
      (∀ value ∈ e.values, value.name ≠ literal) →
      Refuses document scope definition literal (.noSuchValue e.id.fullName)
  | message {id : TypeName} : Scalar.ofTag? definition.tag = none →
      document.Denotes scope definition.reference (.message id) →
      Refuses document scope definition literal .messageField
  | unresolved : Scalar.ofTag? definition.tag = none → ¬ document.Reaches scope definition.reference →
      Refuses document scope definition literal (.unresolved definition.tag)

/-- What is looked at in a field definition. -/
inductive Check where
  | name | number | range | label | defaultKind | defaultText
deriving DecidableEq

namespace Check

/-- All checks in order. -/
def all : List Check :=
  [name, number, range, label, defaultKind, defaultText]

def before (check : Check) : List Check :=
  all.takeWhile (· ≠ check)

/-- The checks of the default come after the reference of the field was looked up. -/
def ofDefault : Check → Bool
  | defaultKind | defaultText => true
  | name | number | range | label => false

theorem length_before {prior check : Check} (earlier : prior ∈ check.before) :
    prior.before.length < check.before.length := by
  revert earlier
  cases prior <;> cases check <;> decide

theorem before_defaultKind_subset : defaultKind.before ⊆ defaultText.before := by
  decide

/-- Of the checks that fail, one is the first. -/
theorem exists_first {fails : Check → Prop} (check : Check) (failed : fails check) :
    ∃ first, fails first ∧ ∀ prior ∈ first.before, ¬ fails prior := by
  by_cases earlier : ∃ prior ∈ check.before, fails prior
  · obtain ⟨prior, before, failed⟩ := earlier
    exact exists_first prior failed
  · exact ⟨check, failed, fun prior before failed => earlier ⟨prior, before, failed⟩⟩
termination_by check.before.length
decreasing_by exact length_before before

end Check

namespace Slot

variable {document : Document} {registry : Registry} {slot : Slot} {error : Error}

/-- The definition fails the check, whatever else may be wrong with it, and this is the error of
that. -/
def Fails (document : Document) (slot : Slot) : Check → Error → Prop
  | .name, error =>
    (∃ other ∈ slot.earlier, other.name = slot.definition.name) ∧
      error = .schema (.repeatedFieldName slot.definition.name slot.scope)
  | .number, error =>
    (∃ other ∈ slot.earlier, other.number = slot.definition.number) ∧
      error = .schema (.repeatedFieldNumber slot.definition.number slot.scope)
  | .range, error =>
    ¬ (1 ≤ slot.definition.number.toInt ∧ slot.definition.number.toInt ≤ 536870911) ∧
      error = .schema (.numberOutOfRange slot.definition.name slot.scope slot.definition.number)
  | .label, error =>
    Label.ofText? slot.definition.label = none ∧ error = .invalidLabel slot.definition.label
  | .defaultKind, error =>
    ∃ json, slot.definition.default = some json ∧ (∀ literal, ¬ json.HasText literal) ∧
      error = .schema (.defaultKind slot.definition.name json)
  | .defaultText, error =>
    ∃ json literal fault, slot.definition.default = some json ∧ json.HasText literal ∧
      document.Refuses slot.scope slot.definition literal fault ∧
      error = .invalidDefault slot.definition.name literal fault

/-- Nothing is wrong with the definition. -/
def Sound (document : Document) (slot : Slot) : Prop :=
  ∀ check error, ¬ slot.Fails document check error

structure FirstFails (document : Document) (slot : Slot) (check : Check) (error : Error) : Prop where
  fails : slot.Fails document check error
  first : ∀ prior ∈ check.before, ∀ other, ¬ slot.Fails document prior other

/-- The event that the reference of a field gives: none for a scalar. -/
inductive Reports (document : Document) (slot : Slot) : List Event → Prop where
  | scalar : (Scalar.ofTag? slot.definition.tag).isSome → Reports document slot []
  | resolved : Scalar.ofTag? slot.definition.tag = none →
      document.Denotes slot.scope slot.definition.reference type →
      Reports document slot [.resolved slot.definition.name slot.scope type.fullName]
  | unresolved : Scalar.ofTag? slot.definition.tag = none →
      ¬ document.Reaches slot.scope slot.definition.reference →
      Reports document slot
        [.unresolved slot.definition.name slot.scope slot.definition.reference]

end Slot

namespace FieldDef

variable {document : Document} {registry : Registry} {scope : String} {definition : FieldDef}

theorem refuses_scalar_iff {scalar : Scalar} (spelled : Scalar.ofTag? definition.tag = some scalar)
    {literal : String} {fault : DefaultFault} :
    document.Refuses scope definition literal fault ↔
      DefaultValue.ofScalarLiteral scalar literal = .error fault := by
  constructor
  · intro refuses
    cases refuses with
    | scalar same _ read =>
      cases spelled.symm.trans same
      exact read
    | enum user | message user | unresolved user => cases spelled.symm.trans user
  · intro read
    refine .scalar spelled (fun isLiteral => ?_) read
    obtain ⟨value, accepted⟩ := (scalar.ofLiteral_ok_iff literal).mpr isLiteral
    cases read.symm.trans accepted

theorem refuses_user_iff (filled : Registry.ofTypes document.declared = .ok registry)
    (user : Scalar.ofTag? definition.tag = none) {literal : String} {fault : DefaultFault} :
    document.Refuses scope definition literal fault ↔
      DefaultValue.ofUserLiteral definition.tag (registry.resolve? scope definition.reference)
        literal = .error fault := by
  have denotes (type : UserType) :=
    @Registry.resolve?_eq_some_iff _ _ filled scope definition.reference type
  have reaches := @Registry.resolve?_isSome_iff _ _ filled scope definition.reference
  constructor
  · intro refuses
    cases refuses with
    | scalar spelled => cases user.symm.trans spelled
    | @enum e _ denoted absent =>
      have missing : e.value? literal = none := by simpa [EnumType.value?] using absent
      simp [(denotes _).mpr denoted, DefaultValue.ofUserLiteral, missing]
    | message _ denoted => simp [(denotes _).mpr denoted, DefaultValue.ofUserLiteral]
    | unresolved _ unreached =>
      rw [← reaches, Option.not_isSome_iff_eq_none] at unreached
      simp [unreached, DefaultValue.ofUserLiteral]
  · cases found : registry.resolve? scope definition.reference with
    | none =>
      intro refused
      cases refused
      exact .unresolved user (by simp [← reaches, found])
    | some type =>
      have denoted := (denotes type).mp found
      cases type with
      | message id =>
        intro refused
        cases refused
        exact .message user denoted
      | enum e =>
        cases missing : e.value? literal with
        | some value => simp [DefaultValue.ofUserLiteral, missing]
        | none =>
          simp only [DefaultValue.ofUserLiteral, missing, Except.error.injEq]
          rintro rfl
          exact .enum user denoted (by simpa [EnumType.value?] using missing)

theorem readDefault_error_iff (filled : Registry.ofTypes document.declared = .ok registry)
    {number : UInt32} {label : Label} {literal : String} {error : Error} :
    (definition.linked registry scope number label).readDefault literal = .error error ↔
      ∃ fault, document.Refuses scope definition literal fault ∧
        error = .invalidDefault definition.name literal fault := by
  simp only [Field.readDefault, Field.scalar?, linked, mapError_eq_error_iff]
  cases spelled : Scalar.ofTag? definition.tag with
  | some scalar => simp only [refuses_scalar_iff spelled]
  | none => simp only [target?_user spelled, refuses_user_iff filled spelled]

/-- What a definition reports of its reference. -/
def report (registry : Registry) (scope : String) (definition : FieldDef) : List Event :=
  match Scalar.ofTag? definition.tag, registry.resolve? scope definition.reference with
  | some _, _ => []
  | none, some type => [.resolved definition.name scope type.fullName]
  | none, none => [.unresolved definition.name scope definition.reference]

theorem refer_events (definition : FieldDef) (number : UInt32) (label : Label) :
    (definition.refer registry scope (.bare definition.name number label definition.tag)).events =
      definition.report registry scope := by
  unfold refer report
  cases spelled : Scalar.ofTag? definition.tag with
  | some scalar =>
    simp only [Field.isScalar_eq, Field.bare, spelled, Option.isSome_some, ↓reduceIte]
    cases definition.typeName <;> rfl
  | none =>
    simp only [Field.isScalar_eq, Field.bare, spelled, Option.isSome_none, Bool.false_eq_true,
      ↓reduceIte]
    cases registry.resolve? scope definition.reference <;> rfl

/-- A definition with facts of its own in order reports its reference, and then
its default decides. -/
theorem build_eq {number : UInt32} {label : Label} (numbered : definition.HasNumber number)
    (labelled : Label.ofText? definition.label = some label) :
    definition.build registry scope = ⟨definition.report registry scope,
      definition.giveDefault (definition.linked registry scope number label)⟩ := by
  have started : definition.start scope = .ok (.bare definition.name number label definition.tag) :=
    start_ok_iff.mpr ⟨number, label, numbered, labelled, rfl⟩
  have referred := @refer_result registry scope definition number label
  rw [build, started, Traced.bind_ok (Traced.result_ofExcept _), Traced.bind_ok referred,
    refer_events]
  simp [Traced.ofExcept]

theorem start_of_outside
    (outside : ¬ (1 ≤ definition.number.toInt ∧ definition.number.toInt ≤ maxFieldNumber)) :
    definition.start scope =
      .error (.schema (.numberOutOfRange definition.name scope definition.number)) := by
  rw [start, wireNumber, if_neg outside]
  rfl

theorem start_of_unlabelled {number : UInt32} (numbered : definition.HasNumber number)
    (unlabelled : Label.ofText? definition.label = none) :
    definition.start scope = .error (.invalidLabel definition.label) := by
  have wire : definition.wireNumber scope = .ok number := wireNumber_ok_iff.mpr numbered
  have refused := Label.ofText_eq_error_iff.mpr ⟨unlabelled, rfl⟩
  rw [start, wire, refused]
  rfl

theorem checkNew_of_name {earlier : List FieldDef}
    (repeated : ∃ other ∈ earlier, other.name = definition.name) :
    definition.checkNew scope earlier =
      .error (.schema (.repeatedFieldName definition.name scope)) := by
  have found : earlier.any (·.name = definition.name) = true := by simpa using repeated
  rw [checkNew, if_pos found]

theorem checkNew_of_number {earlier : List FieldDef}
    (distinct : ¬ ∃ other ∈ earlier, other.name = definition.name)
    (repeated : ∃ other ∈ earlier, other.number = definition.number) :
    definition.checkNew scope earlier =
      .error (.schema (.repeatedFieldNumber definition.number scope)) := by
  have missed : ¬ earlier.any (·.name = definition.name) = true := by simpa using distinct
  have found : earlier.any (·.number = definition.number) = true := by simpa using repeated
  rw [checkNew, if_neg missed, if_pos found]

end FieldDef

namespace Slot

variable {document : Document} {registry : Registry} {slot : Slot} {check : Check} {error : Error}

theorem new_of_passed (name : ∀ other, ¬ slot.Fails document .name other)
    (number : ∀ other, ¬ slot.Fails document .number other) :
    slot.definition.checkNew slot.scope slot.earlier = .ok () := by
  refine FieldDef.checkNew_ok_iff.mpr fun other member => ⟨fun same => ?_, fun same => ?_⟩
  · exact name _ ⟨⟨other, member, same⟩, rfl⟩
  · exact number _ ⟨⟨other, member, same⟩, rfl⟩

theorem hasNumber_of_passed (range : ∀ other, ¬ slot.Fails document .range other) :
    ∃ number, slot.definition.HasNumber number := by
  by_contra outside
  rw [FieldDef.exists_hasNumber_iff] at outside
  exact range _ ⟨outside, rfl⟩

theorem label_of_passed (unrefused : ∀ other, ¬ slot.Fails document .label other) :
    ∃ label, Label.ofText? slot.definition.label = some label := by
  by_contra unlabelled
  rw [← Option.isSome_iff_exists, Option.not_isSome_iff_eq_none] at unlabelled
  exact unrefused _ ⟨unlabelled, rfl⟩

/-- The facts of the field itself are in order. -/
structure Opened (slot : Slot) : Prop where
  new : slot.definition.checkNew slot.scope slot.earlier = .ok ()
  number : ∃ number, slot.definition.HasNumber number
  label : ∃ label, Label.ofText? slot.definition.label = some label

theorem opened_of_passed
    (passed : ∀ prior ∈ Check.defaultKind.before, ∀ other, ¬ slot.Fails document prior other) :
    slot.Opened :=
  ⟨new_of_passed (passed .name (by decide)) (passed .number (by decide)),
    hasNumber_of_passed (passed .range (by decide)), label_of_passed (passed .label (by decide))⟩

theorem Opened.build_eq (opened : slot.Opened) (registry : Registry) : ∃ number label,
    slot.build registry = ⟨slot.definition.report registry slot.scope,
      slot.definition.giveDefault (slot.definition.linked registry slot.scope number label)⟩ := by
  obtain ⟨number, numbered⟩ := opened.number
  obtain ⟨label, labelled⟩ := opened.label
  refine ⟨number, label, ?_⟩
  rw [build, opened.new, Traced.bind_ok (Traced.result_ofExcept _),
    FieldDef.build_eq numbered labelled]
  rfl

/-- What is given a default by its definition is refused for the kind or for the text of the
default. -/
theorem giveDefault_error_iff (filled : Registry.ofTypes document.declared = .ok registry)
    {number : UInt32} {label : Label} :
    slot.definition.giveDefault (slot.definition.linked registry slot.scope number label) =
        .error error ↔
      slot.Fails document .defaultKind error ∨ slot.Fails document .defaultText error := by
  unfold FieldDef.giveDefault Fails
  cases stated : slot.definition.default with
  | none => simp
  | some json =>
    cases written : json.literal? with
    | none =>
      have textless : ∀ literal, ¬ json.HasText literal := by
        intro literal has
        cases written.symm.trans (Json.Value.literal?_eq_some_iff.mpr has)
      simp [written, textless, eq_comm]
    | some literal =>
      have only {other : String} : json.HasText other ↔ literal = other := by
        rw [← Json.Value.literal?_eq_some_iff, written, Option.some.injEq]
      simp [written, only, bind_error_iff, FieldDef.readDefault_error_iff filled]

theorem build_of_unstarted (registry : Registry)
    (new : slot.definition.checkNew slot.scope slot.earlier = .ok ())
    (unstarted : slot.definition.start slot.scope = .error error) :
    slot.build registry = ⟨[], .error error⟩ := by
  rw [build, new, Traced.bind_ok (Traced.result_ofExcept _), FieldDef.build, unstarted,
    Traced.bind_error (Traced.result_ofExcept _)]
  rfl

/-- The slot is refused with its first fault. It reports its reference if that is in the default. -/
theorem build_of_firstFails (filled : Registry.ofTypes document.declared = .ok registry)
    (failed : slot.FirstFails document check error) :
    slot.build registry =
      ⟨if check.ofDefault then slot.definition.report registry slot.scope else [], .error error⟩ := by
  cases check with
  | name =>
    obtain ⟨repeated, rfl⟩ := failed.fails
    rw [build, FieldDef.checkNew_of_name repeated, Traced.bind_error (Traced.result_ofExcept _)]
    rfl
  | number =>
    obtain ⟨repeated, rfl⟩ := failed.fails
    have distinct := fun same => failed.first .name (by decide) _ ⟨same, rfl⟩
    rw [build, FieldDef.checkNew_of_number distinct repeated,
      Traced.bind_error (Traced.result_ofExcept _)]
    rfl
  | range =>
    obtain ⟨outside, rfl⟩ := failed.fails
    have new := new_of_passed (failed.first .name (by decide)) (failed.first .number (by decide))
    exact build_of_unstarted registry new (FieldDef.start_of_outside outside)
  | label =>
    obtain ⟨unlabelled, rfl⟩ := failed.fails
    have new := new_of_passed (failed.first .name (by decide)) (failed.first .number (by decide))
    obtain ⟨number, numbered⟩ := hasNumber_of_passed (failed.first .range (by decide))
    exact build_of_unstarted registry new (FieldDef.start_of_unlabelled numbered unlabelled)
  | defaultKind =>
    obtain ⟨number, label, built⟩ := (opened_of_passed failed.first).build_eq registry
    rw [built, (giveDefault_error_iff filled).mpr (.inl failed.fails)]
    rfl
  | defaultText =>
    have opened : slot.Opened := opened_of_passed fun prior earlier =>
      failed.first prior (Check.before_defaultKind_subset earlier)
    obtain ⟨number, label, built⟩ := opened.build_eq registry
    rw [built, (giveDefault_error_iff filled).mpr (.inr failed.fails)]
    rfl

/-- A slot without a fault is built, and reports its reference. -/
theorem build_of_sound (filled : Registry.ofTypes document.declared = .ok registry)
    (sound : slot.Sound document) : ∃ field,
      slot.build registry = ⟨slot.definition.report registry slot.scope, .ok field⟩ := by
  have opened : slot.Opened := opened_of_passed fun prior _ => sound prior
  obtain ⟨number, label, built⟩ := opened.build_eq registry
  cases given : slot.definition.giveDefault
      (slot.definition.linked registry slot.scope number label) with
  | ok field => exact ⟨field, by rw [built, given]⟩
  | error error =>
    rcases (giveDefault_error_iff filled).mp given with failed | failed
    · exact absurd failed (sound _ error)
    · exact absurd failed (sound _ error)

theorem sound_or_firstFails (document : Document) (slot : Slot) :
    slot.Sound document ∨ ∃ check error, slot.FirstFails document check error := by
  by_cases sound : slot.Sound document
  · exact .inl sound
  · simp only [Sound, not_forall, not_not] at sound
    obtain ⟨check, failed⟩ := sound
    obtain ⟨first, ⟨error, failed⟩, earlier⟩ :=
      @Check.exists_first (fun check => ∃ error, slot.Fails document check error) check failed
    exact .inr ⟨first, error, failed, fun prior before other fails =>
      earlier prior before ⟨other, fails⟩⟩

theorem builds_iff_sound (filled : Registry.ofTypes document.declared = .ok registry) :
    slot.Builds registry ↔ slot.Sound document := by
  constructor
  · rintro ⟨field, built⟩
    rcases sound_or_firstFails document slot with sound | ⟨check, error, failed⟩
    · exact sound
    · rw [build_of_firstFails filled failed] at built
      cases built
  · intro sound
    obtain ⟨field, built⟩ := build_of_sound filled sound
    exact ⟨field, by rw [built]⟩

theorem build_error_iff (filled : Registry.ofTypes document.declared = .ok registry) :
    (slot.build registry).result = .error error ↔ ∃ check, slot.FirstFails document check error := by
  constructor
  · intro refused
    rcases sound_or_firstFails document slot with sound | ⟨check, other, failed⟩
    · obtain ⟨field, built⟩ := build_of_sound filled sound
      rw [built] at refused
      cases refused
    · rw [build_of_firstFails filled failed] at refused
      cases refused
      exact ⟨check, failed⟩
  · rintro ⟨check, failed⟩
    rw [build_of_firstFails filled failed]

theorem reports_iff (filled : Registry.ofTypes document.declared = .ok registry)
    {events : List Event} :
    slot.Reports document events ↔ events = slot.definition.report registry slot.scope := by
  have denotes (type : UserType) :=
    @Registry.resolve?_eq_some_iff _ _ filled slot.scope slot.definition.reference type
  have reaches := @Registry.resolve?_isSome_iff _ _ filled slot.scope slot.definition.reference
  unfold FieldDef.report
  constructor
  · intro reports
    cases reports with
    | scalar scalar =>
      obtain ⟨_, spelled⟩ := Option.isSome_iff_exists.mp scalar
      rw [spelled]
    | resolved user denoted => rw [user, (denotes _).mpr denoted]
    | unresolved user unreached =>
      rw [← reaches, Option.not_isSome_iff_eq_none] at unreached
      rw [user, unreached]
  · cases spelled : Scalar.ofTag? slot.definition.tag with
    | some scalar =>
      rintro rfl
      exact .scalar (by rw [spelled]; rfl)
    | none =>
      cases found : registry.resolve? slot.scope slot.definition.reference with
      | some type =>
        rintro rfl
        exact .resolved spelled ((denotes type).mp found)
      | none =>
        rintro rfl
        exact .unresolved spelled (by rw [← reaches, found]; decide)

end Slot

namespace Document

variable {document : Document} {registry : Registry}

theorem flatMap_events (filled : Registry.ofTypes document.declared = .ok registry)
    {slots : List Slot} (sound : ∀ slot ∈ slots, slot.Sound document) :
    (slots.flatMap fun slot => (slot.build registry).events) =
      slots.flatMap fun slot => slot.definition.report registry slot.scope := by
  refine List.flatMap_congr fun slot member => ?_
  obtain ⟨field, built⟩ := Slot.build_of_sound filled (sound slot member)
  rw [built]

/-- Where nothing is wrong with any field, all are reported. -/
theorem load_of_sound (filled : Registry.ofTypes document.declared = .ok registry)
    (sound : ∀ slot ∈ document.slots, slot.Sound document) :
    ∃ schema, Schema.ofDocument document =
      ⟨(document.slots.flatMap fun slot => slot.definition.report registry slot.scope) ++
        [.loaded (schema.package.getD "") schema.messages.length schema.enums.length],
        .ok schema⟩ := by
  obtain ⟨schema, loaded⟩ := load_done filled fun slot member =>
    (Slot.builds_iff_sound filled).mpr (sound slot member)
  exact ⟨schema, by rw [loaded, flatMap_events filled sound]⟩

/-- The first fault of the first faulty field is the error, and the fields before
it are reported. -/
theorem load_of_firstFails (filled : Registry.ofTypes document.declared = .ok registry)
    {passed rest : List Slot} {slot : Slot} {check : Check} {error : Error}
    (split : document.slots = passed ++ slot :: rest)
    (sound : ∀ prior ∈ passed, prior.Sound document) (failed : slot.FirstFails document check error) :
    Schema.ofDocument document =
      ⟨(passed.flatMap fun prior => prior.definition.report registry prior.scope) ++
        if check.ofDefault then slot.definition.report registry slot.scope else [],
        .error error⟩ := by
  have built : ∀ prior ∈ passed, prior.Builds registry := fun prior member =>
    (Slot.builds_iff_sound filled).mpr (sound prior member)
  have stopped := Slot.build_of_firstFails filled failed
  rw [load_stopped filled split built (by rw [stopped]), flatMap_events filled sound, stopped]

/-- Of any slots, nothing is wrong with all of them or there is a first with a fault. -/
theorem sound_or_stopped (document : Document) (slots : List Slot) :
    (∀ slot ∈ slots, slot.Sound document) ∨
      ∃ passed slot rest check error, slots = passed ++ slot :: rest ∧
        (∀ prior ∈ passed, prior.Sound document) ∧ slot.FirstFails document check error := by
  induction slots with
  | nil => exact .inl (by simp)
  | cons slot rest ih =>
    rcases Slot.sound_or_firstFails document slot with sound | ⟨check, error, failed⟩
    · rcases ih with all | ⟨passed, next, beyond, check, error, rfl, before, failed⟩
      · exact .inl (List.forall_mem_cons.mpr ⟨sound, all⟩)
      · exact .inr ⟨slot :: passed, next, beyond, check, error, rfl,
          List.forall_mem_cons.mpr ⟨sound, before⟩, failed⟩
    · exact .inr ⟨[], slot, rest, check, error, rfl, by simp, failed⟩

end Document

end MessageSchema
