import MessageSchema.Inspect
import MessageSchema.Proofs.DocumentTexts
import MessageSchema.Proofs.Json.Printing

/-! What the text of a report tells of its rows. A line of the table shows some attributes of
a row, each in its column. An object in JSON shows all of them, so that it is the object of
one row only. -/
namespace MessageSchema
open Json

variable {unreadable : Prop}

/-! Lines of a table. -/

namespace Text

/-- A text that stands in a column. -/
structure Cell where
  text : String
  width : Nat
  side : Side
deriving DecidableEq, Repr

/-- The text of a cell on its side, and spaces on the other one up to the width. -/
inductive CellText : Cell → List Char → Prop where
  | left {text : String} {width : Nat} :
      CellText ⟨text, width, .left⟩ (text.toList ++ List.replicate (width - text.length) ' ')
  | right {text : String} {width : Nat} :
      CellText ⟨text, width, .right⟩ (List.replicate (width - text.length) ' ' ++ text.toList)

/-- A line of cells, with a space between two. -/
inductive LineText : List Cell → List Char → Prop where
  | last {cell : Cell} {written : List Char} : CellText cell written →
      LineText [cell] (written ++ ['\n'])
  | more {cell : Cell} {cells : List Cell} {written line : List Char} : CellText cell written →
      LineText cells line → LineText (cell :: cells) (written ++ ' ' :: line)

def Column.cell (column : Column) (text : String) : Cell :=
  ⟨text, column.width, column.side⟩

theorem Column.cellText_fill (column : Column) (text : String) :
    CellText (column.cell text) (column.fill text).toList := by
  obtain ⟨heading, width, side⟩ := column
  cases side with
  | left => simpa [fill, cell, String.length_toList] using CellText.left
  | right => simpa [fill, cell, String.length_toList] using CellText.right

theorem Column.lineText_line (columns : List Column) (texts : List String)
    (each : columns.length = texts.length) (nonempty : columns ≠ []) :
    LineText (List.zipWith cell columns texts) (line columns texts).toList := by
  induction columns generalizing texts with
  | nil => contradiction
  | cons column others ih =>
    cases texts with
    | nil => cases each
    | cons text rest =>
      have written := column.cellText_fill text
      have same : others.length = rest.length := Nat.succ.inj each
      cases others with
      | nil =>
        obtain rfl : rest = [] := List.length_eq_zero_iff.mp same.symm
        simpa [line] using LineText.last written
      | cons next others =>
        have more := LineText.more written (ih rest same (List.cons_ne_nil next others))
        cases rest with
        | nil => cases same
        | cons following rest => simpa [line] using more

end Text

/-- The category that a word spells. -/
def Category.ofKeyword? (word : String) : Option Category :=
  [double, float, int, signedInt, fixed32, fixed64, bool, string].find? (·.keyword = word)

theorem Category.ofKeyword?_keyword (category : Category) :
    ofKeyword? category.keyword = some category := by
  cases category <;> decide

namespace Row
open Text

/-- The headings of the columns. -/
def headings : List Cell := [
  ⟨"MESSAGE", 28, .left⟩, ⟨"NUM", 5, .right⟩, ⟨"FIELD", 20, .left⟩, ⟨"LABEL", 9, .left⟩,
  ⟨"TYPE NAME", 20, .left⟩, ⟨"CATEGORY", 10, .left⟩, ⟨"CONST", 22, .left⟩, ⟨"DEFAULT", 0, .left⟩]

/-- What the columns show of a row whose number has these digits. -/
def cells (row : Row) (number : String) : List Cell := [
  ⟨row.message, 28, .left⟩, ⟨number, 5, .right⟩, ⟨row.name, 20, .left⟩,
  ⟨row.label.keyword, 9, .left⟩, ⟨row.typeName, 20, .left⟩,
  ⟨(row.category.map Category.keyword).getD "-", 10, .left⟩, ⟨row.constantName, 22, .left⟩,
  ⟨row.defaultText.getD "-", 0, .left⟩]

/-- A line of the table tells of the row. -/
def InLine (row : Row) (line : List Char) : Prop :=
  ∃ number : String, NaturalText row.number.toNat number.toList ∧ LineText (row.cells number) line

theorem lineText_headings :
    LineText headings (Column.line columns (columns.map (·.heading))).toList := by
  have shown : headings = List.zipWith Column.cell columns (columns.map (·.heading)) := by
    simp [headings, columns, Column.cell]
  rw [shown]
  exact Column.lineText_line _ _ (List.length_map _).symm (by simp [columns])

theorem inLine_line (row : Row) : row.InLine (Column.line columns row.texts).toList := by
  refine ⟨Numeral.writeInteger row.number.toNat, naturalText_iff.mpr rfl, ?_⟩
  have shown : row.cells (Numeral.writeInteger row.number.toNat) =
      List.zipWith Column.cell columns row.texts := by
    simp [cells, columns, texts, Column.cell]
  rw [shown]
  exact Column.lineText_line _ _ (by simp [columns, texts]) (by simp [columns])

/-! Objects in JSON. -/

/-- The members of an object. -/
def forms : List (Form Row) := [
  ⟨"message", message, TextLiteral, none⟩,
  ⟨"name", name, TextLiteral, none⟩,
  ⟨"number", number, fun n => NaturalText n.toNat, none⟩,
  ⟨"label", label, fun label => TextLiteral label.keyword, none⟩,
  ⟨"type", tag, TextLiteral, none⟩,
  ⟨"type_name", typeName, TextLiteral, none⟩,
  ⟨"declared_type_name", declaredName, NullOr TextLiteral, none⟩,
  ⟨"namespace", scope, NullOr TextLiteral, none⟩,
  ⟨"scalar_category", category, NullOr fun category => TextLiteral category.keyword, none⟩,
  ⟨"resolved", resolved, NullOr TextLiteral, none⟩,
  ⟨"camel_case_name", camelCaseName, TextLiteral, none⟩,
  ⟨"const_name", constantName, TextLiteral, none⟩,
  ⟨"default", defaultText, NullOr TextLiteral, none⟩]

/-- An object in JSON tells of the row. -/
def InObject : Row → List Char → Prop :=
  RecordText 1 forms

theorem nullOr_optionalText (spelling : α → String) (value? : Option α) :
    NullOr (fun value => TextLiteral (spelling value)) value?
      (optionalText (value?.map spelling)).toList := by
  cases value? with
  | none => simpa [optionalText] using NullOr.null
  | some value => exact .some (textLiteral_written (spelling value))

theorem nullOr_text (s? : Option String) : NullOr TextLiteral s? (optionalText s?).toList := by
  simpa using nullOr_optionalText id s?

theorem distinct_forms : (forms.map Form.key).Nodup := by
  simp [forms]

theorem written_members (row : Row) :
    Written forms row (row.members.map fun (key, value) => (key, value.toList)) := by
  apply written_of_forall₂ distinct_forms
  simp [forms, members, textLiteral_written, nullOr_text, nullOr_optionalText, naturalText_iff]

/-- The members of an object as they stand on their lines. -/
def memberTexts (row : Row) : List (List Char) :=
  row.members.map fun (key, value) => (textLiteral key).toList ++ ':' :: ' ' :: value.toList

theorem toList_object (row : Row) :
    ∃ body, Elements row.memberTexts body ∧ row.object.toList = '{' :: (body ++ ['}']) := by
  have nonempty : row.memberTexts ≠ [] := by simp [memberTexts, members]
  have all := elements_lines [' ', ' ', ' ', ' '] ['\n', ' ', ' '] (by simp [Blanks])
    (by simp [Blanks]) nonempty
  refine ⟨_, all, ?_⟩
  simp [object, memberTexts, toList_braced, Function.comp_def]

theorem inObject_object (row : Row) : row.InObject row.object.toList := by
  obtain ⟨body, all, written⟩ := row.toList_object
  refine ⟨by decide, _, ⟨row.memberTexts, body, ?_, all, written⟩, row.written_members⟩
  rw [memberTexts, List.forall₂_map_left_iff, List.forall₂_map_right_iff]
  exact List.forall₂_same.mpr fun member _ => memberText_spaced member.1 member.2.toList

/-- The readers of the members, which take a row from its object. -/
def readers : List (Json.Member Row) := [
  .needed "message" text fun row message => { row with message },
  .needed "name" text fun row name => { row with name },
  .needed "number" (integer (.unsigned 32)) fun row n => { row with number := UInt32.ofNat n.toNat },
  .needed "label" text fun row word => { row with label := (Label.ofText? word).getD .optional },
  .needed "type" text fun row tag => { row with tag },
  .needed "type_name" text fun row typeName => { row with typeName },
  .needed "declared_type_name" (orNull text) fun row declaredName => { row with declaredName },
  .needed "namespace" (orNull text) fun row scope => { row with scope },
  .needed "scalar_category" (orNull text) fun row word? =>
    { row with category := word?.bind Category.ofKeyword? },
  .needed "resolved" (orNull text) fun row resolved => { row with resolved },
  .needed "camel_case_name" text fun row camelCaseName => { row with camelCaseName },
  .needed "const_name" text fun row constantName => { row with constantName },
  .needed "default" (orNull text) fun row defaultText => { row with defaultText }]

def blank : Row :=
  ⟨"", "", 0, .optional, "", "", none, none, none, none, "", "", none⟩

theorem reads_natural {n : UInt32} {written : List Char} (natural : NaturalText n.toNat written) :
    Reads unreadable (integer (.unsigned 32)) n.toNat written := by
  have bound := n.toNat_lt
  have words : Nat.pow 2 32 = 4294967296 := by decide
  have inside : (Numeral.Range.unsigned 32).contains n.toNat = true := by
    simp only [Numeral.Range.contains, Numeral.Range.unsigned, words, Bool.and_eq_true,
      decide_eq_true_eq]
    omega
  exact reads_integer (naturalText_iff.mp natural) inside (by omega) (by omega)

theorem reads_category {category? : Option Category} {written : List Char}
    (nullOr : NullOr (fun category => TextLiteral category.keyword) category? written) :
    Reads unreadable (orNull text) (category?.map Category.keyword) written := by
  apply reads_orNull_text
  cases nullOr with
  | null => exact .null
  | some literal => exact .some literal

theorem stored_nullable {key : String} {get : Row → Option String}
    {store : Row → Option String → Row} (stores : ∀ draft s?, get (store draft s?) = s?)
    (keeps : ∀ draft s?, ∀ other ∈ forms, other.key ≠ key →
      other.get (store draft s?) = other.get draft) :
    Form.Stored unreadable forms ⟨key, get, NullOr TextLiteral, none⟩
      (.needed key (orNull text) store) :=
  stored_needed id (fun _ _ => reads_orNull_text) stores keeps

theorem described : Described unreadable forms readers blank where
  stored :=
    .cons (stored_text (fun _ _ => rfl) (by simp [forms])) <|
    .cons (stored_text (fun _ _ => rfl) (by simp [forms])) <|
    .cons (stored_needed (fun n => (n.toNat : Int)) (fun _ _ => reads_natural) (by simp)
      (by simp [forms])) <|
    .cons (stored_needed Label.keyword (fun _ _ => reads_text)
      (fun _ label => by simp [Label.ofText?_keyword]) (by simp [forms])) <|
    .cons (stored_text (fun _ _ => rfl) (by simp [forms])) <|
    .cons (stored_text (fun _ _ => rfl) (by simp [forms])) <|
    .cons (stored_nullable (fun _ _ => rfl) (by simp [forms])) <|
    .cons (stored_nullable (fun _ _ => rfl) (by simp [forms])) <|
    .cons (stored_needed (Option.map Category.keyword) (fun _ _ => reads_category)
      (fun _ category? => by cases category? <;> simp [Category.ofKeyword?_keyword])
      (by simp [forms])) <|
    .cons (stored_nullable (fun _ _ => rfl) (by simp [forms])) <|
    .cons (stored_text (fun _ _ => rfl) (by simp [forms])) <|
    .cons (stored_text (fun _ _ => rfl) (by simp [forms])) <|
    .cons (stored_nullable (fun _ _ => rfl) (by simp [forms])) .nil
  distinct := distinct_forms
  blank := by simp [forms]
  determined := by
    rintro ⟨⟩ ⟨⟩ same
    simpa [forms] using same

theorem reads_object (row : Row) (written : List Char) (shown : row.InObject written) :
    Reads unreadable (record 1 readers blank) row written :=
  reads_record described shown

end Row

/-! Reports. -/

/-- The entry of a report tells of the row. -/
def Format.EntryText : Format → Row → String → Prop
  | .table, row, entry => row.InLine entry.toList
  | .json, row, entry => ∃ object, row.InObject object ∧ entry.toList = ' ' :: ' ' :: object

/-- The text of a report tells of the rows, one after the other. -/
def Format.ReportText : Format → List Row → String → Prop
  | .table, rows, report => ∃ heading lines, Text.LineText Row.headings heading ∧
      List.Forall₂ Row.InLine rows lines ∧ report.toList = heading ++ lines.flatten
  | .json, rows, report => ∃ array, ListText 2 Row.InObject rows array ∧
      report.toList = array ++ ['\n']

theorem Row.reportText_table (rows : List Row) :
    Format.table.ReportText rows (Row.table rows) := by
  refine ⟨_, rows.map fun row => (Text.Column.line columns row.texts).toList,
    lineText_headings, ?_, ?_⟩
  · rw [List.forall₂_map_right_iff]
    exact List.forall₂_same.mpr fun row _ => row.inLine_line
  · simp [table, List.flatMap_def, Function.comp_def]

theorem Row.reportText_json (rows : List Row) : Format.json.ReportText rows (Row.json rows) := by
  have objects : List.Forall₂ InObject rows (rows.map fun row => row.object.toList) := by
    rw [List.forall₂_map_right_iff]
    exact List.forall₂_same.mpr fun row _ => row.inObject_object
  by_cases none : rows = []
  · subst none
    exact ⟨['[', ']'], ⟨by decide, [], .nil, [], .none blanks_nil, rfl⟩, rfl⟩
  · have nonempty : rows.map (fun row => row.object.toList) ≠ [] := by simpa using none
    have all := elements_lines [' ', ' '] ['\n'] (by simp [Blanks]) (by simp [Blanks]) nonempty
    refine ⟨_, ⟨by decide, _, objects, _, all, rfl⟩, ?_⟩
    simp [json, none, item, Function.comp_def]

/-- An array in JSON is the report on one list of rows only. -/
theorem Format.reportText_unique {rows others : List Row} {report : String}
    (told : Format.json.ReportText rows report) (again : Format.json.ReportText others report) :
    rows = others := by
  obtain ⟨array, listed, written⟩ := told
  obtain ⟨otherArray, also, rewritten⟩ := again
  obtain rfl : array = otherArray := List.append_cancel_right (written.symm.trans rewritten)
  exact (reads_list Row.reads_object listed).unique (reads_list Row.reads_object also)

theorem Format.entryText_unique {row other : Row} {entry : String}
    (told : Format.json.EntryText row entry) (again : Format.json.EntryText other entry) :
    row = other := by
  obtain ⟨object, shown, written⟩ := told
  obtain ⟨otherObject, also, rewritten⟩ := again
  obtain rfl : object = otherObject := by simpa using written.symm.trans rewritten
  exact (Row.reads_object _ _ shown).unique (Row.reads_object _ _ also)

end MessageSchema
