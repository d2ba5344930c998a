import MessageSchema.Proofs.LoadEvents
import MessageSchema.Proofs.Reports

/-! How an inspection of a file ends. There is a report unless the file does not load or a message
is asked for that it does not have. Being strict bears on the exit alone, and being quiet on neither
the exit nor the report. -/
namespace MessageSchema

namespace Schema

variable {document : Document} {schema : Schema}

/-- The messages that a filter stands for. -/
inductive Selects (schema : Schema) : Option String → List Message → Prop where
  | all : Selects schema none schema.messages
  | one : message ∈ schema.messages → AsksFor name message.fullName →
      Selects schema (some name) [message]

/-- The filter names a message, and the schema has none of that name. -/
def Misses (schema : Schema) (filter : Option String) : Prop :=
  ∃ name, filter = some name ∧ ∀ message ∈ schema.messages, ¬ AsksFor name message.fullName

/-- Somewhere in the schema a field that is no scalar refers to nothing. -/
def HasUnresolved (schema : Schema) : Prop :=
  ∃ message ∈ schema.messages, ∃ field ∈ message.fields,
    Scalar.ofTag? field.tag = none ∧ field.target = none

theorem unresolvedCount_pos_iff : 0 < schema.unresolvedCount ↔ schema.HasUnresolved := by
  simp only [unresolvedCount, List.countP_pos_iff, List.mem_flatMap, HasUnresolved,
    Field.isScalar_eq, Field.isResolved, Bool.and_eq_true, Bool.not_eq_true',
    Option.isSome_eq_false_iff, Option.isNone_iff_eq_none]
  constructor
  · rintro ⟨field, ⟨message, member, inside⟩, unresolved⟩
    exact ⟨message, member, field, inside, unresolved⟩
  · rintro ⟨message, member, field, inside, unresolved⟩
    exact ⟨field, ⟨message, member, inside⟩, unresolved⟩

/-- A file that loads gives as many warnings as its schema has unresolved fields. -/
theorem countP_events_ofFile {path : String} {content : Except ReadFault ByteArray}
    (stored : (ofFile path content).result = .ok schema) :
    (ofFile path content).events.countP Event.isWarning = schema.unresolvedCount := by
  obtain ⟨document, same⟩ := ofFile_eq_ofDocument stored
  rw [same] at stored ⊢
  exact Document.countP_events stored

theorem selects_or_misses (schema : Schema) (filter : Option String) :
    (∃ messages, schema.Selects filter messages) ∨ schema.Misses filter := by
  cases filter with
  | none => exact .inl ⟨_, .all⟩
  | some name =>
    by_cases asked : ∃ message ∈ schema.messages, AsksFor name message.fullName
    · obtain ⟨message, member, asks⟩ := asked
      exact .inl ⟨_, .one member asks⟩
    · exact .inr ⟨name, rfl, fun message member asks => asked ⟨message, member, asks⟩⟩

theorem Selects.not_misses {filter : Option String} {messages : List Message}
    (selects : schema.Selects filter messages) : ¬ schema.Misses filter := by
  rintro ⟨name, named, missed⟩
  cases selects with
  | all => cases named
  | one member asks =>
    cases named
    exact missed _ member asks

theorem Selects.select_eq (loaded : (ofDocument document).result = .ok schema)
    {filter : Option String}
    {messages : List Message} (selects : schema.Selects filter messages) :
    schema.select filter = .ok messages := by
  cases selects with
  | all => rfl
  | one member asks =>
    have found := (message?_eq_some_iff loaded).mpr ⟨member, asks⟩
    simp only [select, found]

/-- A selection fails exactly if it is asked for a message that is not there. -/
theorem misses_iff (loaded : (ofDocument document).result = .ok schema) {filter : Option String} :
    schema.Misses filter ↔ ∃ error, schema.select filter = .error error := by
  constructor
  · rintro ⟨name, rfl, missed⟩
    exact ⟨_, select_missed loaded missed⟩
  · rintro ⟨error, refused⟩
    rcases schema.selects_or_misses filter with ⟨messages, selects⟩ | misses
    · cases (selects.select_eq loaded).symm.trans refused
    · exact misses

end Schema

namespace Invocation

variable {invocation other : Invocation} {content : Except ReadFault ByteArray} {schema : Schema}

/-- The file holds this schema. -/
def Loads (invocation : Invocation) (content : Except ReadFault ByteArray) (schema : Schema) : Prop :=
  (Schema.ofFile invocation.schema content).result = .ok schema

/-- There is no file, or no schema in it. -/
def FailsToLoad (invocation : Invocation) (content : Except ReadFault ByteArray) : Prop :=
  ∃ error, (Schema.ofFile invocation.schema content).result = .error error

/-- The message that is asked for is not in the schema. -/
def NamesNone (invocation : Invocation) (content : Except ReadFault ByteArray) : Prop :=
  ∃ schema, invocation.Loads content schema ∧ schema.Misses invocation.message

/-- A strict inspection does not accept what the schema leaves unresolved. -/
def Objects (invocation : Invocation) (content : Except ReadFault ByteArray) : Prop :=
  invocation.strict ∧ ∃ schema, invocation.Loads content schema ∧ schema.HasUnresolved

/-- The reasons for which an inspection fails. -/
def Fails (invocation : Invocation) (content : Except ReadFault ByteArray) : Prop :=
  invocation.FailsToLoad content ∨ invocation.NamesNone content ∨ invocation.Objects content

theorem exists_loads (loads : ¬ invocation.FailsToLoad content) :
    ∃ schema, invocation.Loads content schema := by
  cases ends : (Schema.ofFile invocation.schema content).result with
  | error error => exact absurd ⟨error, ends⟩ loads
  | ok schema => exact ⟨schema, ends⟩

theorem Loads.unique {first second : Schema} (loads : invocation.Loads content first)
    (again : invocation.Loads content second) : first = second :=
  Except.ok.inj (loads.symm.trans again)

theorem Loads.not_failsToLoad (loads : invocation.Loads content schema) :
    ¬ invocation.FailsToLoad content := by
  rintro ⟨error, failed⟩
  cases loads.symm.trans failed

theorem Loads.namesNone_iff (loads : invocation.Loads content schema) :
    invocation.NamesNone content ↔ schema.Misses invocation.message := by
  constructor
  · rintro ⟨same, again, misses⟩
    exact loads.unique again ▸ misses
  · exact fun misses => ⟨schema, loads, misses⟩

theorem Loads.objects_iff (loads : invocation.Loads content schema) :
    invocation.Objects content ↔ invocation.strict ∧ 0 < schema.unresolvedCount := by
  rw [Schema.unresolvedCount_pos_iff, Objects]
  refine and_congr_right fun _ => ?_
  constructor
  · rintro ⟨same, again, unresolved⟩
    exact loads.unique again ▸ unresolved
  · exact fun unresolved => ⟨schema, loads, unresolved⟩

theorem report_ne_empty (invocation : Invocation) (rows : List Row) :
    invocation.report rows ≠ "" := by
  rw [report_eq]
  cases invocation.format with
  | table => simp [Format.frame, Text.Column.line]
  | json => cases rows <;> simp [Format.frame]

theorem exit_of_selected {messages : List Message}
    (selected : schema.select invocation.message = .ok messages) (warnings : List Event) :
    (invocation.inspect warnings schema).exit =
      if invocation.strict ∧ 0 < schema.unresolvedCount then 1 else 0 := by
  simp only [inspect, selected]
  split <;> rfl

theorem run_of_failed {error : Error}
    (failed : (Schema.ofFile invocation.schema content).result = .error error) :
    invocation.run content =
      Invocation.failed (invocation.shown (Schema.ofFile invocation.schema content).events)
        error := by
  simp only [run, failed]

theorem warnings_inspect (invocation : Invocation) (warnings : List Event) (schema : Schema) :
    (invocation.inspect warnings schema).warnings = warnings := by
  unfold inspect
  split
  · rfl
  · dsimp only
    split <;> rfl

theorem warnings_run (invocation : Invocation) (content : Except ReadFault ByteArray) :
    (invocation.run content).warnings =
      invocation.shown (Schema.ofFile invocation.schema content).events := by
  cases ends : (Schema.ofFile invocation.schema content).result with
  | error error => rw [run_of_failed ends, failed]
  | ok schema => rw [run_of_loaded ends, warnings_inspect]

/-- The ways in which an inspection can end. -/
inductive Ends (invocation : Invocation) (content : Except ReadFault ByteArray) (outcome : Outcome) :
    Prop where
  | unloaded : invocation.FailsToLoad content → outcome.exit = 1 → outcome.stdout = "" →
      Ends invocation content outcome
  | missed {schema : Schema} : invocation.Loads content schema → schema.Misses invocation.message →
      outcome.exit = 1 → outcome.stdout = "" → Ends invocation content outcome
  | reported {schema : Schema} {messages : List Message} : invocation.Loads content schema →
      schema.Selects invocation.message messages →
      outcome.exit = (if invocation.strict ∧ 0 < schema.unresolvedCount then 1 else 0) →
      outcome.stdout = invocation.report (messages.flatMap Row.ofMessage) →
      Ends invocation content outcome

theorem ends_run (invocation : Invocation) (content : Except ReadFault ByteArray) :
    invocation.Ends content (invocation.run content) := by
  cases ends : (Schema.ofFile invocation.schema content).result with
  | error error =>
    rw [run_of_failed ends]
    exact .unloaded ⟨error, ends⟩ rfl rfl
  | ok schema =>
    obtain ⟨document, loaded⟩ := Schema.exists_document ends
    rw [run_of_loaded ends]
    rcases schema.selects_or_misses invocation.message with ⟨messages, selects⟩ | misses
    · have selected := selects.select_eq loaded
      refine .reported ends selects (exit_of_selected selected _) ?_
      rw [stdout_of_selected selected, report_eq]
    · obtain ⟨error, refused⟩ := (Schema.misses_iff loaded).mp misses
      rw [inspect_of_missed refused]
      exact .missed ends misses rfl rfl

/-- What an inspection comes to, told by what the file holds and what is asked of it. -/
structure Concludes (invocation : Invocation) (content : Except ReadFault ByteArray)
    (outcome : Outcome) : Prop where
  fails_iff : outcome.exit = 1 ↔ invocation.Fails content
  passes_iff : outcome.exit = 0 ↔ ¬ invocation.Fails content
  silent_iff : outcome.stdout = "" ↔ invocation.FailsToLoad content ∨ invocation.NamesNone content
  misses_iff : ∀ schema, invocation.Loads content schema →
    (schema.Misses invocation.message ↔ ∃ error, schema.select invocation.message = .error error)
  /-- The report is complete also where a strict inspection fails behind it. -/
  reports : ∀ schema messages, invocation.Loads content schema →
    schema.Selects invocation.message messages →
    outcome.stdout = invocation.report (messages.flatMap Row.ofMessage)
  warns : invocation.quiet = false → ∀ schema, invocation.Loads content schema →
    outcome.warnings.length = schema.unresolvedCount
  quiets : invocation.quiet → outcome.warnings.length = 0

theorem Ends.exit_eq_one_iff {outcome : Outcome} (ends : invocation.Ends content outcome) :
    outcome.exit = 1 ↔ invocation.Fails content := by
  cases ends with
  | unloaded fails exit => exact iff_of_true exit (.inl fails)
  | missed loads misses exit => exact iff_of_true exit (.inr (.inl (loads.namesNone_iff.mpr misses)))
  | reported loads selects exit =>
    have fails := loads.not_failsToLoad
    have names := mt loads.namesNone_iff.mp selects.not_misses
    rw [exit, Fails, or_iff_right fails, or_iff_right names, loads.objects_iff]
    split
    · next objects => exact iff_of_true rfl objects
    · next accepts => exact iff_of_false (by decide) accepts

theorem Ends.exit_eq_zero_iff {outcome : Outcome} (ends : invocation.Ends content outcome) :
    outcome.exit = 0 ↔ ¬ outcome.exit = 1 := by
  cases ends with
  | unloaded _ exit => simp [exit]
  | missed _ _ exit => simp [exit]
  | reported _ _ exit =>
    rw [exit]
    split <;> decide

theorem Ends.stdout_eq_empty_iff {outcome : Outcome} (ends : invocation.Ends content outcome) :
    outcome.stdout = "" ↔ invocation.FailsToLoad content ∨ invocation.NamesNone content := by
  cases ends with
  | unloaded fails _ silent => exact iff_of_true silent (.inl fails)
  | missed loads misses _ silent => exact iff_of_true silent (.inr (loads.namesNone_iff.mpr misses))
  | reported loads selects _ report =>
    have names := mt loads.namesNone_iff.mp selects.not_misses
    refine iff_of_false ?_ (not_or.mpr ⟨loads.not_failsToLoad, names⟩)
    rw [report]
    exact invocation.report_ne_empty _

theorem concludes_run (invocation : Invocation) (content : Except ReadFault ByteArray) :
    invocation.Concludes content (invocation.run content) where
  fails_iff := (invocation.ends_run content).exit_eq_one_iff
  passes_iff := by
    have ends := invocation.ends_run content
    rw [ends.exit_eq_zero_iff, ends.exit_eq_one_iff]
  silent_iff := (invocation.ends_run content).stdout_eq_empty_iff
  misses_iff schema loads := by
    obtain ⟨document, loaded⟩ := Schema.exists_document loads
    exact Schema.misses_iff loaded
  reports schema messages loads selects := by
    obtain ⟨document, loaded⟩ := Schema.exists_document loads
    rw [run_of_loaded loads, stdout_of_selected (selects.select_eq loaded), report_eq]
  warns loud schema loads := by
    rw [warnings_run, shown, loud, if_neg Bool.false_ne_true, ← List.countP_eq_length_filter,
      Schema.countP_events_ofFile loads]
  quiets quiet := by rw [warnings_run, shown, if_pos quiet, List.length_nil]

/-- The invocations differ at most in being strict and in being quiet. -/
structure AsksAlike (invocation other : Invocation) : Prop where
  schema : other.schema = invocation.schema
  message : other.message = invocation.message
  format : other.format = invocation.format

namespace AsksAlike

theorem symm (alike : invocation.AsksAlike other) : other.AsksAlike invocation :=
  ⟨alike.schema.symm, alike.message.symm, alike.format.symm⟩

variable (alike : invocation.AsksAlike other)
include alike

theorem loads_iff : other.Loads content schema ↔ invocation.Loads content schema := by
  rw [Loads, Loads, alike.schema]

theorem silent_iff : other.FailsToLoad content ∨ other.NamesNone content ↔
    invocation.FailsToLoad content ∨ invocation.NamesNone content := by
  simp only [FailsToLoad, NamesNone, alike.loads_iff, alike.schema, alike.message]

theorem fails_of_fails (stricter : invocation.strict → other.strict)
    (fails : invocation.Fails content) : other.Fails content := by
  rw [Fails, ← or_assoc] at fails ⊢
  rw [alike.silent_iff]
  refine fails.imp_right fun ⟨strict, schema, loads, unresolved⟩ => ?_
  exact ⟨stricter strict, schema, alike.loads_iff.mpr loads, unresolved⟩

theorem report_eq (rows : List Row) : other.report rows = invocation.report rows := by
  rw [report, report, alike.format]

end AsksAlike

/-- What being strict and quiet can change of an outcome. -/
structure FlagsConfined (invocation other : Invocation) (outcome changed : Outcome) : Prop where
  stdout : changed.stdout = outcome.stdout
  quiet : other.strict = invocation.strict → changed.exit = outcome.exit
  strict : other.strict → changed.exit = outcome.exit ∨ outcome.exit = 0 ∧ changed.exit = 1

/-- Two inspections are compared by what each comes to alone. -/
theorem Concludes.flagsConfined {outcome changed : Outcome} (alike : invocation.AsksAlike other)
    (first : invocation.Concludes content outcome) (second : other.Concludes content changed) :
    invocation.FlagsConfined other outcome changed where
  stdout := by
    by_cases silent : invocation.FailsToLoad content ∨ invocation.NamesNone content
    · rw [first.silent_iff.mpr silent, second.silent_iff.mpr (alike.silent_iff.mpr silent)]
    · obtain ⟨loads, named⟩ := not_or.mp silent
      obtain ⟨schema, loads⟩ := exists_loads loads
      rcases schema.selects_or_misses invocation.message with ⟨messages, selects⟩ | misses
      · rw [first.reports schema messages loads selects, ← alike.report_eq]
        exact second.reports schema messages (alike.loads_iff.mpr loads) (alike.message ▸ selects)
      · exact absurd (loads.namesNone_iff.mpr misses) named
  quiet same := by
    by_cases fails : other.Fails content
    · have both := alike.symm.fails_of_fails (fun strict => same ▸ strict) fails
      rw [second.fails_iff.mpr fails, first.fails_iff.mpr both]
    · have neither := mt (alike.fails_of_fails fun strict => same ▸ strict) fails
      rw [second.passes_iff.mpr fails, first.passes_iff.mpr neither]
  strict strict := by
    by_cases fails : other.Fails content
    · have failed := second.fails_iff.mpr fails
      by_cases before : invocation.Fails content
      · exact .inl (failed.trans (first.fails_iff.mpr before).symm)
      · exact .inr ⟨first.passes_iff.mpr before, failed⟩
    · have before := mt (alike.fails_of_fails fun _ => strict) fails
      exact .inl ((second.passes_iff.mpr fails).trans (first.passes_iff.mpr before).symm)

end Invocation

/-- An inspection fails for one of three reasons, and reports unless it is one of the first two.
Asking for the same report in a strict or quiet way gives the same report. -/
theorem inspections_conclude (invocation : Invocation) (content : Except ReadFault ByteArray) :
    invocation.Concludes content (invocation.run content) ∧
      ∀ other, invocation.AsksAlike other →
        invocation.FlagsConfined other (invocation.run content) (other.run content) :=
  ⟨invocation.concludes_run content, fun other alike =>
    (invocation.concludes_run content).flagsConfined alike (other.concludes_run content)⟩

/-- The message that is asked for has no fields. It is another one that leaves a reference open. -/
example :
    let outcome := Invocation.run ⟨"a.json", some "C", .json, true, true⟩
      (.ok "[null,[],[[\"A\",[[\"b\",1,\"optional\",\"B\"]]],[\"C\"]]]".toUTF8)
    outcome.exit = 1 ∧ outcome.stdout = "[]\n" ∧ outcome.warnings.length = 0 := by decide +kernel

end MessageSchema
