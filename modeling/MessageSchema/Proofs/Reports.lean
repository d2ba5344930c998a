import MessageSchema.Proofs.MessageLookup
import MessageSchema.Proofs.ReportTexts

/-! Reports on a schema, on all of it or on one message. A report is a frame around the entries of
its rows, and an entry tells of its row alone. So the report on a message is the part of the whole
report that bears the message's name, and the reports on all messages make up the whole. -/
namespace MessageSchema

/-- The text for one row: a line of the table, or an item of the array. -/
def Format.entry : Format → Row → String
  | .table, row => Text.Column.line Row.columns row.texts
  | .json, row => row.item

/-- The text of a report with these entries: lines under a line of headings, or
items in brackets. -/
def Format.frame : Format → List String → String
  | .table, lines => Text.Column.line Row.columns (Row.columns.map (·.heading)) ++ String.join lines
  | .json, [] => "[]\n"
  | .json, first :: rest => "[\n" ++ ",\n".intercalate (first :: rest) ++ "\n]\n"

theorem Format.entryText_entry (format : Format) (row : Row) :
    format.EntryText row (format.entry row) := by
  cases format with
  | table => exact row.inLine_line
  | json => exact ⟨_, row.inObject_object, by simp [entry, Row.item]⟩

theorem Format.reportText_frame (format : Format) (rows : List Row) :
    format.ReportText rows (format.frame (rows.map format.entry)) := by
  cases format with
  | table => exact Row.reportText_table rows
  | json =>
    have framed : Format.json.frame (rows.map Format.json.entry) = Row.json rows := by
      cases rows <;> rfl
    rw [framed]
    exact Row.reportText_json rows

/-- A report on these rows is a frame around their entries. The text of an entry tells of its row,
and the whole text of the rows; in JSON they tell of no others. -/
structure Format.Reports (format : Format) (rows : List Row) (report : String) : Prop where
  framed : report = format.frame (rows.map format.entry)
  entries : ∀ row ∈ rows, format.EntryText row (format.entry row)
  told : format.ReportText rows report
  onlyEntry : format = .json → ∀ row ∈ rows, ∀ other,
    format.EntryText other (format.entry row) → other = row
  only : format = .json → ∀ others, format.ReportText others report → others = rows

theorem Format.reports_frame (format : Format) (rows : List Row) :
    format.Reports rows (format.frame (rows.map format.entry)) where
  framed := rfl
  entries row _ := format.entryText_entry row
  told := format.reportText_frame rows
  onlyEntry := by
    rintro rfl row _ other again
    exact entryText_unique again (entryText_entry .json row)
  only := by
    rintro rfl others again
    exact reportText_unique again (reportText_frame .json rows)

/-- The row of a field in a message: what the field answers, with a text for the type that it is
attached to. -/
structure Row.IsOf (row : Row) (message : Message) (field : Field) : Prop where
  message : row.message = message.fullName
  name : row.name = field.name
  number : row.number = field.number
  label : row.label = field.label
  tag : row.tag = field.tag
  typeName : row.typeName = field.typeName
  declaredName : row.declaredName = field.declaredName
  scope : row.scope = field.scope
  category : ∀ category, row.category = some category ↔ field.category = .ok category
  detached : row.resolved = none ↔ field.target = none
  attachedEnum : ∀ e, field.target = some (.enum e) → row.resolved = some ("enum " ++ e.id.fullName)
  attachedMessage : ∀ id, field.target = some (.message id) →
    row.resolved = some ("message " ++ id.fullName)
  camelCaseName : row.camelCaseName = field.camelCaseName
  constantName : row.constantName = field.constantName
  defaultText : row.defaultText = field.defaultValue.map DefaultValue.display

theorem Row.isOf_ofField (message : Message) (field : Field) :
    (ofField message field).IsOf message field where
  message := rfl
  name := rfl
  number := rfl
  label := rfl
  tag := rfl
  typeName := rfl
  declaredName := rfl
  scope := rfl
  category category := by
    cases answer : field.category <;> simp [ofField, answer, Except.toOption]
  detached := by simp [ofField]
  attachedEnum e attached := by simp [ofField, attached, UserType.describe]
  attachedMessage id attached := by simp [ofField, attached, UserType.describe]
  camelCaseName := rfl
  constantName := rfl
  defaultText := rfl

/-- One row for each field, in the order of the messages and of their fields. -/
def Schema.rows (schema : Schema) : List Row :=
  schema.messages.flatMap Row.ofMessage

/-- Each field with the message that it stands in. -/
def Schema.places (schema : Schema) : List (Message × Field) :=
  schema.messages.flatMap fun message => message.fields.map fun field => (message, field)

/-- The rows that bear the full name of a message. -/
def Schema.rowsOf (schema : Schema) (fullName : String) : List Row :=
  schema.rows.filter (·.message = fullName)

namespace Invocation

variable {invocation : Invocation} {schema : Schema}

theorem report_eq (invocation : Invocation) (rows : List Row) :
    invocation.report rows = invocation.format.frame (rows.map invocation.format.entry) := by
  unfold report
  cases invocation.format with
  | table => rfl
  | json => cases rows <;> rfl

theorem run_of_loaded {content : Except ReadFault ByteArray}
    (loaded : (Schema.ofFile invocation.schema content).result = .ok schema) :
    invocation.run content =
      invocation.inspect (invocation.shown (Schema.ofFile invocation.schema content).events)
        schema := by
  simp only [run, loaded]

/-- Being strict changes the exit and not the report. -/
theorem stdout_of_selected {messages : List Message}
    (selected : schema.select invocation.message = .ok messages) (warnings : List Event) :
    (invocation.inspect warnings schema).stdout =
      invocation.format.frame ((messages.flatMap Row.ofMessage).map invocation.format.entry) := by
  simp only [inspect, selected]
  split <;> exact report_eq invocation _

theorem inspect_of_missed {error : Error} (missed : schema.select invocation.message = .error error)
    (warnings : List Event) : invocation.inspect warnings schema = failed warnings error := by
  simp only [inspect, missed]

end Invocation

namespace Schema

variable {document : Document} {schema : Schema}

/-- A file that loads holds a document, and loading it is loading the document. -/
theorem ofFile_eq_ofDocument {path : String} {content : Except ReadFault ByteArray}
    (stored : (ofFile path content).result = .ok schema) :
    ∃ document, ofFile path content = ofDocument document := by
  cases content with
  | error fault => cases stored
  | ok bytes =>
    cases decoded : String.fromUTF8? bytes with
    | none =>
      simp only [ofFile, decoded] at stored
      cases stored
    | some text =>
      cases read : Document.ofText text with
      | error fault =>
        simp only [ofFile, decoded, ofText, read] at stored
        cases stored
      | ok document => exact ⟨document, by simp only [ofFile, decoded, ofText, read]⟩

theorem exists_document {path : String} {content : Except ReadFault ByteArray}
    (stored : (ofFile path content).result = .ok schema) :
    ∃ document, (ofDocument document).result = .ok schema := by
  obtain ⟨document, same⟩ := ofFile_eq_ofDocument stored
  exact ⟨document, same ▸ stored⟩

theorem select_absolute (loaded : (ofDocument document).result = .ok schema) {message : Message}
    (member : message ∈ schema.messages) :
    schema.select (some ("." ++ message.fullName)) = .ok [message] := by
  have found := (message?_eq_some_iff loaded).mpr ⟨member, .absolute⟩
  simp only [select, found]

theorem select_missed (loaded : (ofDocument document).result = .ok schema) {name : String}
    (missed : ∀ message ∈ schema.messages, ¬ AsksFor name message.fullName) :
    schema.select (some name) =
      .error (.schema (.messageNotFound name (schema.messages.map Message.fullName))) := by
  have absent : schema.message? name = none := by
    by_contra found
    obtain ⟨message, found⟩ := Option.ne_none_iff_exists'.mp found
    obtain ⟨member, asks⟩ := (message?_eq_some_iff loaded).mp found
    exact missed message member asks
  simp only [select, absent]

theorem message_of_mem_ofMessage {message : Message} {row : Row}
    (member : row ∈ Row.ofMessage message) :
    row.message = message.fullName := by
  obtain ⟨field, _, rfl⟩ := List.mem_map.mp member
  rfl

/-- No other message has rows under the name, since full names do not repeat. -/
theorem rowsOf_fullName (loaded : (ofDocument document).result = .ok schema) {message : Message}
    (member : message ∈ schema.messages) : schema.rowsOf message.fullName = Row.ofMessage message :=
  filter_flatMap_key (fun _ _ => message_of_mem_ofMessage) (messages_nodup loaded) member

theorem flatMap_rowsOf (loaded : (ofDocument document).result = .ok schema) :
    (schema.messages.flatMap fun message => schema.rowsOf message.fullName) = schema.rows :=
  List.flatMap_congr fun _ member => rowsOf_fullName loaded member

theorem rows_eq_map (schema : Schema) :
    schema.rows = schema.places.map fun place => Row.ofField place.1 place.2 := by
  simp only [rows, places, List.map_flatMap, List.map_map, Function.comp_def]
  rfl

theorem rows_isOf (schema : Schema) :
    List.Forall₂ (fun place row => Row.IsOf row place.1 place.2) schema.places schema.rows := by
  rw [rows_eq_map, List.forall₂_map_right_iff]
  exact List.forall₂_same.mpr fun place _ => Row.isOf_ofField place.1 place.2

theorem length_rows (schema : Schema) :
    schema.rows.length = (schema.messages.flatMap Message.fields).length := by
  simp only [rows, Row.ofMessage, List.length_flatMap, List.length_map]

/-- What an invocation prints of the schema, with each filter in place of its own. -/
structure Prints (schema : Schema) (invocation : Invocation) (outcome : Option String → Outcome) :
    Prop where
  whole : invocation.format.Reports schema.rows (outcome none).stdout
  part : ∀ message ∈ schema.messages, invocation.format.Reports (schema.rowsOf message.fullName)
    (outcome (some ("." ++ message.fullName))).stdout
  nothing : ∀ name, (∀ message ∈ schema.messages, ¬ AsksFor name message.fullName) →
    (outcome (some name)).stdout = "" ∧ (outcome (some name)).exit = 1 ∧
      ∃ fault, (outcome (some name)).stderr = (Error.schema fault).report

theorem prints_inspect (loaded : (ofDocument document).result = .ok schema) (invocation : Invocation)
    (warnings : Option String → List Event) :
    schema.Prints invocation fun filter =>
      { invocation with message := filter }.inspect (warnings filter) schema where
  whole := by
    rw [Invocation.stdout_of_selected rfl]
    exact invocation.format.reports_frame schema.rows
  part message member := by
    rw [Invocation.stdout_of_selected (select_absolute loaded member), List.flatMap_singleton,
      rowsOf_fullName loaded member]
    exact invocation.format.reports_frame (Row.ofMessage message)
  nothing name missed := by
    rw [Invocation.inspect_of_missed (select_missed loaded missed)]
    exact ⟨rfl, rfl, _, rfl⟩

/-- How the reports on the messages of a schema relate to the report on all of it. -/
structure ReportedInParts (schema : Schema) : Prop where
  selected : ∀ message ∈ schema.messages,
    schema.select (some ("." ++ message.fullName)) = .ok [message]
  joined : (schema.messages.flatMap fun message => schema.rowsOf message.fullName) = schema.rows
  counted : schema.rows.length = (schema.messages.flatMap Message.fields).length
  /-- There is one row for each field, in the order of the messages and of their fields. -/
  each : List.Forall₂ (fun place row => Row.IsOf row place.1 place.2) schema.places schema.rows
  missed : ∀ name, (∀ message ∈ schema.messages, ¬ AsksFor name message.fullName) →
    ∃ fault, schema.select (some name) = .error (.schema fault)
  printed : ∀ invocation content, (ofFile invocation.schema content).result = .ok schema →
    schema.Prints invocation fun filter => { invocation with message := filter }.run content

end Schema

/-- Filtering a report by message takes a part of it, and the parts for all messages
are the whole. -/
theorem filtered_reports_are_parts {document : Document} {schema : Schema}
    (loaded : (Schema.ofDocument document).result = .ok schema) : schema.ReportedInParts where
  selected _ member := Schema.select_absolute loaded member
  joined := Schema.flatMap_rowsOf loaded
  counted := schema.length_rows
  each := schema.rows_isOf
  missed _ missed := ⟨_, Schema.select_missed loaded missed⟩
  printed invocation content stored := by
    have inspected := Schema.prints_inspect loaded invocation fun filter =>
      { invocation with message := filter }.shown (Schema.ofFile invocation.schema content).events
    have runs (filter : Option String) :
        { invocation with message := filter }.run content =
          { invocation with message := filter }.inspect _ schema := Invocation.run_of_loaded stored
    simpa only [runs] using inspected

/-- A message, one of the same name inside it, and one without fields; each record is an array. -/
def lines : String :=
  "[\"shop\",[],[[\"Line\",[[\"unit\",1,\"optional\",\"Missing\"],[\"size\",2,\"required\"," ++
    "\"int32\"]],[],[[\"Line\",[[\"note\",1,\"repeated\",\"bytes\"]]]]],[\"Empty\"]]]"

theorem lines_reported_in_parts : ∃ document schema,
    (Schema.ofDocument document).result = .ok schema ∧
    (Schema.ofFile "lines.json" (.ok lines.toUTF8)).result = .ok schema ∧ schema.ReportedInParts := by
  have accepted : (Schema.ofFile "lines.json" (.ok lines.toUTF8)).result.isOk = true := by
    decide +kernel
  obtain ⟨schema, stored⟩ := exists_ok_of_isOk accepted
  obtain ⟨document, loaded⟩ := Schema.exists_document stored
  exact ⟨document, schema, loaded, stored, filtered_reports_are_parts loaded⟩

end MessageSchema
