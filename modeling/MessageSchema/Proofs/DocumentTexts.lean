import MessageSchema.Proofs.Json.Numbers
import MessageSchema.Schema.Load

/-! The JSON texts that write a schema document. Keys stand in any order, unknown ones may stand
among them, and what has a default may be left out. -/
namespace MessageSchema
open Json

namespace EnumValue

def forms : List (Form EnumValue) := [
  ⟨"name", name, TextLiteral, none⟩,
  ⟨"number", number, fun n => IntegerText n.toInt, none⟩]

def WrittenAs (levels : Nat) : EnumValue → List Char → Prop :=
  RecordText levels forms

end EnumValue

namespace EnumDef

/-- The members, by how the values are written. -/
def formsOf (listed : List EnumValue → List Char → Prop) : List (Form EnumDef) := [
  ⟨"name", name, TextLiteral, none⟩,
  ⟨"values", values, listed, some []⟩]

def forms (levels : Nat) : List (Form EnumDef) :=
  formsOf (ListText levels (EnumValue.WrittenAs (levels - 1)))

def WrittenAs (levels : Nat) : EnumDef → List Char → Prop :=
  RecordText levels (forms (levels - 1))

end EnumDef

/-- The defaults that a document may state: a text, a truth value or an integer of 64 bits, with or
without a sign. -/
inductive DefaultText : Json.Value → List Char → Prop where
  | text {s : String} {written : List Char} : TextLiteral s written → DefaultText (.text s) written
  | true : DefaultText (.bool true) ['t', 'r', 'u', 'e']
  | false : DefaultText (.bool false) ['f', 'a', 'l', 's', 'e']
  | integer {n : Int} {written : List Char} : -9223372036854775808 ≤ n → n < 18446744073709551616 →
      IntegerText n written → DefaultText (.number (.integer n)) written

namespace FieldDef

/-- The members, by how a default is written. -/
def formsOf (stated : Json.Value → List Char → Prop) : List (Form FieldDef) := [
  ⟨"name", name, TextLiteral, none⟩,
  ⟨"number", number, fun n => IntegerText n.toInt, none⟩,
  ⟨"label", label, TextLiteral, some "optional"⟩,
  ⟨"type", tag, TextLiteral, none⟩,
  ⟨"type_name", typeName, NullOr TextLiteral, some none⟩,
  ⟨"default", default, NullOr stated, some none⟩]

def forms : List (Form FieldDef) :=
  formsOf DefaultText

def WrittenAs (levels : Nat) : FieldDef → List Char → Prop :=
  RecordText levels forms

end FieldDef

namespace MessageDef

/-- The members, by how what stands in the message is written. -/
def formsOf (holding : List FieldDef → List Char → Prop) (listed : List EnumDef → List Char → Prop)
    (nested : List MessageDef → List Char → Prop) : List (Form MessageDef) := [
  ⟨"name", name, TextLiteral, none⟩,
  ⟨"fields", fields, holding, some []⟩,
  ⟨"enums", enums, listed, some []⟩,
  ⟨"messages", messages, nested, some []⟩]

def forms (levels : Nat) (nested : List MessageDef → List Char → Prop) : List (Form MessageDef) :=
  formsOf (ListText levels (FieldDef.WrittenAs (levels - 1)))
    (ListText levels (EnumDef.WrittenAs (levels - 1))) nested

mutual

def WrittenAs : Nat → MessageDef → List Char → Prop
  | 0, _, _ => False
  | levels + 1, definition, written =>
    RecordText (levels + 1) (forms levels (AllWrittenAs levels)) definition written

def AllWrittenAs : Nat → List MessageDef → List Char → Prop
  | 0, _, _ => False
  | levels + 1, definitions, written =>
    ListText (levels + 1) (WrittenAs levels) definitions written

end

end MessageDef

namespace Document

/-- The members, by how what stands in the document is written. -/
def formsOf (listed : List EnumDef → List Char → Prop) (nested : List MessageDef → List Char → Prop) :
    List (Form Document) := [
  ⟨"package", package, NullOr TextLiteral, some none⟩,
  ⟨"enums", enums, listed, some []⟩,
  ⟨"messages", messages, nested, some []⟩]

def forms (levels : Nat) : List (Form Document) :=
  formsOf (ListText levels (EnumDef.WrittenAs (levels - 1))) (MessageDef.AllWrittenAs levels)

/-- The texts of a document, of fewer than 128 levels of brackets. Blanks may stand around it. -/
def WrittenAs (document : Document) (text : String) : Prop :=
  ∃ before after written, Blanks before ∧ Blanks after ∧ RecordText 127 (forms 126) document written ∧
    text.toList = before ++ (written ++ after)

end Document

/-! Each record is described by its forms. -/

variable {unreadable : Prop}

theorem contains_signed {width : Nat} {n : Int} (low : -(Nat.pow 2 (width - 1) : Int) ≤ n)
    (high : n < Nat.pow 2 (width - 1)) : (Numeral.Range.signed width).contains n = true := by
  rw [Numeral.Range.contains, Bool.and_eq_true, decide_eq_true_eq, decide_eq_true_eq]
  exact ⟨low, Int.le_sub_one_of_lt high⟩

theorem reads_int32 {n : Int32} {written : List Char} (decimal : IntegerText n.toInt written) :
    Reads unreadable (integer (.signed 32)) n.toInt written := by
  have low := n.le_toInt
  have high := n.toInt_lt
  exact reads_integer decimal (contains_signed low high) (by omega) (by omega)

theorem reads_int64 {n : Int64} {written : List Char} (decimal : IntegerText n.toInt written) :
    Reads unreadable (integer (.signed 64)) n.toInt written := by
  have low := n.le_toInt
  have high := n.toInt_lt
  exact reads_integer decimal (contains_signed low high) (by omega) (by omega)

theorem reads_orNull_text {s? : Option String} {written : List Char}
    (nullOr : NullOr TextLiteral s? written) : Reads unreadable (orNull text) s? written := by
  refine reads_orNull (fun _ _ => reads_text) ?_ nullOr
  rintro _ _ ⟨body, _, rfl⟩ first
  cases first

theorem DefaultText.opens {value : Json.Value} {written : List Char}
    (writes : DefaultText value written) : Opens written ∧ written.head? ≠ some 'n' := by
  cases writes with
  | text literal =>
    obtain ⟨body, _, rfl⟩ := literal
    exact ⟨⟨'"', _, rfl, rfl, by decide⟩, by simp⟩
  | true => exact ⟨⟨'t', _, rfl, rfl, by decide⟩, by simp⟩
  | false => exact ⟨⟨'f', _, rfl, rfl, by decide⟩, by simp⟩
  | @integer n _ low high decimal =>
    rw [decimal]
    exact (isNumber_writeInteger n).opens

theorem reads_default (levels : Nat) {value : Json.Value} {written : List Char}
    (writes : DefaultText value written) : Reads unreadable (Value.read levels) value written := by
  refine ⟨writes.opens.1, fun {space rest} blanks ends => ?_⟩
  cases writes with
  | text literal =>
    refine .read ?_
    obtain ⟨body, spelled, rfl⟩ := literal
    have read := textBody_spelled spelled rest
    simp [Value.read, skipBlanks_to (c := '"') blanks rfl, Reader.map, read]
  | true =>
    refine .read ?_
    have word := letters_append ['r', 'u', 'e'] rest
    simp only [List.cons_append, List.nil_append] at word ⊢
    simp [Value.read, skipBlanks_to (c := 't') blanks rfl, Reader.map, word]
  | false =>
    refine .read ?_
    have word := letters_append ['a', 'l', 's', 'e'] rest
    simp only [List.cons_append, List.nil_append] at word ⊢
    simp [Value.read, skipBlanks_to (c := 'f') blanks rfl, Reader.map, word]
  | integer low high decimal =>
    rw [decimal]
    exact (reads_writeInteger low high levels).takes blanks ends

theorem EnumValue.described : Described unreadable forms members ⟨"", 0⟩ where
  stored :=
    .cons (stored_text (fun _ _ => rfl) (by simp [forms])) <|
    .cons (stored_needed Int32.toInt (fun _ _ => reads_int32) (fun _ n => n.ofInt_toInt)
      (by simp [forms])) .nil
  distinct := by simp [forms]
  blank := by simp [forms]
  determined := by
    rintro ⟨⟩ ⟨⟩ same
    simpa [forms] using same

theorem EnumValue.reads (levels : Nat) (value : EnumValue) (written : List Char)
    (writes : value.WrittenAs levels written) : Reads unreadable (read levels) value written :=
  reads_record described writes

theorem EnumDef.described (levels : Nat) {listed : List EnumValue → List Char → Prop}
    (values : ∀ values written, listed values written →
      Reads unreadable (list levels (EnumValue.read (levels - 1))) values written) :
    Described unreadable (formsOf listed) (members levels) ⟨"", []⟩ where
  stored :=
    .cons (stored_text (fun _ _ => rfl) (by simp [formsOf])) <|
    .cons (stored_optional [] values (fun _ _ => rfl) (by simp [formsOf])) .nil
  distinct := by simp [formsOf]
  blank := by simp [formsOf]
  determined := by
    rintro ⟨⟩ ⟨⟩ same
    simpa [formsOf] using same

theorem EnumDef.reads (levels : Nat) (definition : EnumDef) (written : List Char)
    (writes : definition.WrittenAs levels written) :
    Reads unreadable (read levels) definition written :=
  reads_record (described (levels - 1) fun _ _ => reads_list (EnumValue.reads (levels - 2))) writes

theorem FieldDef.described (levels : Nat) {stated : Json.Value → List Char → Prop}
    (default : ∀ value written, stated value written →
      Reads unreadable (Value.read levels) value written ∧ written.head? ≠ some 'n') :
    Described unreadable (formsOf stated) (members levels) blank where
  stored :=
    .cons (stored_text (fun _ _ => rfl) (by simp [formsOf])) <|
    .cons (stored_needed Int64.toInt (fun _ _ => reads_int64) (fun _ n => n.ofInt_toInt)
      (by simp [formsOf])) <|
    .cons (stored_optional "optional" (fun _ _ => reads_text) (fun _ _ => rfl) (by simp [formsOf])) <|
    .cons (stored_text (fun _ _ => rfl) (by simp [formsOf])) <|
    .cons (stored_optional none (fun _ _ => reads_orNull_text) (fun _ _ => rfl)
      (by simp [formsOf])) <|
    .cons (stored_optional none
      (fun _ _ => reads_orNull (fun value written writes => (default value written writes).1)
        fun value written writes => (default value written writes).2)
      (fun _ _ => rfl) (by simp [formsOf])) .nil
  distinct := by simp [formsOf]
  blank := by simp [formsOf, FieldDef.blank, Label.keyword]
  determined := by
    rintro ⟨⟩ ⟨⟩ same
    simpa [formsOf] using same

theorem FieldDef.reads (levels : Nat) (definition : FieldDef) (written : List Char)
    (writes : definition.WrittenAs levels written) :
    Reads unreadable (read levels) definition written :=
  reads_record (described (levels - 1) fun _ _ writes =>
    ⟨reads_default (levels - 1) writes, writes.opens.2⟩) writes

theorem MessageDef.described (levels : Nat) {holding : List FieldDef → List Char → Prop}
    {listed : List EnumDef → List Char → Prop} {nested : List MessageDef → List Char → Prop}
    {reader : Reader (List MessageDef)}
    (fields : ∀ definitions written, holding definitions written →
      Reads unreadable (list levels (FieldDef.read (levels - 1))) definitions written)
    (enums : ∀ definitions written, listed definitions written →
      Reads unreadable (list levels (EnumDef.read (levels - 1))) definitions written)
    (messages : ∀ definitions written, nested definitions written →
      Reads unreadable reader definitions written) :
    Described unreadable (formsOf holding listed nested) (members levels reader) blank where
  stored :=
    .cons (stored_text (fun _ _ => rfl) (by simp [formsOf])) <|
    .cons (stored_optional [] fields (fun _ _ => rfl) (by simp [formsOf])) <|
    .cons (stored_optional [] enums (fun _ _ => rfl) (by simp [formsOf])) <|
    .cons (stored_optional [] messages (fun _ _ => rfl) (by simp [formsOf])) .nil
  distinct := by simp [formsOf]
  blank := by simp [formsOf, MessageDef.blank]
  determined := by
    rintro ⟨⟩ ⟨⟩ same
    simpa [formsOf] using same

/-- A record and the list of its nested records take a level each. -/
theorem MessageDef.reads_levels (levels : Nat) :
    (∀ definition written, WrittenAs levels definition written →
      Reads unreadable (read levels) definition written) ∧
    ∀ definitions written, AllWrittenAs levels definitions written →
      Reads unreadable (readAll levels) definitions written := by
  induction levels with
  | zero => exact ⟨fun _ _ never => never.elim, fun _ _ never => never.elim⟩
  | succ levels ih =>
    constructor
    · intro definition written writes
      have described := described levels (fun _ _ => reads_list (FieldDef.reads (levels - 1)))
        (fun _ _ => reads_list (EnumDef.reads (levels - 1))) ih.2
      exact reads_record described writes
    · intro definitions written writes
      exact reads_list ih.1 writes

theorem Document.described (levels : Nat) {listed : List EnumDef → List Char → Prop}
    {nested : List MessageDef → List Char → Prop}
    (enums : ∀ definitions written, listed definitions written →
      Reads unreadable (list levels (EnumDef.read (levels - 1))) definitions written)
    (messages : ∀ definitions written, nested definitions written →
      Reads unreadable (MessageDef.readAll levels) definitions written) :
    Described unreadable (formsOf listed nested) (members levels) ⟨none, [], []⟩ where
  stored :=
    .cons (stored_optional none (fun _ _ => reads_orNull_text) (fun _ _ => rfl)
      (by simp [formsOf])) <|
    .cons (stored_optional [] enums (fun _ _ => rfl) (by simp [formsOf])) <|
    .cons (stored_optional [] messages (fun _ _ => rfl) (by simp [formsOf])) .nil
  distinct := by simp [formsOf]
  blank := by simp [formsOf]
  determined := by
    rintro ⟨⟩ ⟨⟩ same
    simpa [formsOf] using same

/-- Blanks may stand around the record of a document. -/
theorem Document.ofText_yields {document : Document} {text : String}
    {before written after : List Char}
    (reads : Reads unreadable read document written) (blanks : Blanks before)
    (blanksAfter : Blanks after) (split : text.toList = before ++ (written ++ after)) :
    Yields unreadable (ofText text) document := by
  have ends : Ends after := by
    rw [← List.append_nil after]
    exact ends_blanks blanksAfter (by simp [Ends])
  have rest : skipBlanks after = [] := by
    rw [← List.append_nil after, skipBlanks_append blanksAfter]
    rfl
  rw [ofText, split]
  exact (reads.takes blanks ends).bind (.read (by simp [rest]))

/-- Every text of a document is read as that document. -/
theorem Document.ofText_eq {document : Document} {text : String} (writes : document.WrittenAs text) :
    ofText text = .ok document := by
  obtain ⟨before, after, written, blanks, blanksAfter, record, split⟩ := writes
  have described : Described False (forms 126) (members 126) ⟨none, [], []⟩ :=
    described 126 (fun _ _ => reads_list (EnumDef.reads 125)) (MessageDef.reads_levels 126).2
  exact (ofText_yields (reads_record described record) blanks blanksAfter split).ok not_false

/-- Loading a text of a document gives the schema or the error that the document itself gives, and
the same events on the way. -/
theorem written_text_loads {document : Document} {text : String} (writes : document.WrittenAs text) :
    Schema.ofText text = Schema.ofDocument document := by
  simp only [Schema.ofText, Document.ofText_eq writes]

/-! A text with its keys out of order, one of them escaped and one that nobody knows, and without
what may be left out. -/

/-- Characters that stand for themselves between quotes. -/
def Unescaped (characters : List Char) : Prop :=
  ∀ c ∈ characters, ' ' ≤ c ∧ c ≠ '"' ∧ c ≠ '\\'

instance : DecidablePred Unescaped :=
  List.decidableBAll _

theorem Unescaped.spelled {characters : List Char} (unescaped : Unescaped characters) :
    Spelled characters characters := by
  induction characters with
  | nil => exact .nil
  | cons c others ih =>
    obtain ⟨⟨printable, notQuote, notBackslash⟩, later⟩ := List.forall_mem_cons.mp unescaped
    exact .cons (.plain printable notQuote notBackslash) (ih later)

theorem Unescaped.literal {s : String} (unescaped : Unescaped s.toList) :
    TextLiteral s ('"' :: (s.toList ++ ['"'])) :=
  ⟨s.toList, unescaped.spelled, rfl⟩

theorem Unescaped.member {key : String} (unescaped : Unescaped key.toList) (value : List Char) :
    MemberText TextLiteral (key, value) ('"' :: (key.toList ++ ['"']) ++ ':' :: value) :=
  ⟨_, [], [], unescaped.literal, blanks_nil, blanks_nil, rfl⟩

def respelledField : FieldDef :=
  ⟨"f", 1, "optional", "int32", none, some (.number (.integer (-7)))⟩

def respelledMessage : MessageDef :=
  ⟨"M", [respelledField], [], []⟩

def respelled : Document :=
  ⟨none, [], [respelledMessage]⟩

def respelledFieldText : List Char :=
  '{' :: "\"type\":\"int32\",\"default\":-7,\"number\":1,\"n\\u0061me\":\"f\"".toList ++ ['}']

def respelledMessageText : List Char :=
  '{' :: "\"note\":[".toList ++ '{' :: '}' :: "],\"name\":\"M\",\"fields\":[".toList ++
    (respelledFieldText ++ [']', '}'])

def respelledText : String :=
  String.ofList (' ' :: '{' :: "\"messages\":[".toList ++
    (respelledMessageText ++ "],\n\"package\":null".toList ++ ['}']))

theorem respelledField_written : respelledField.WrittenAs 123 respelledFieldText := by
  have escape : Spelling 'a' ['\\', 'u', '0', '0', '6', '1'] :=
    .unit (.mk (k := 0) (l := 0) (m := 6) (n := 1) (.inl rfl) (.inl rfl) (.inl rfl) (.inl rfl))
  have name : TextLiteral "name" "\"n\\u0061me\"".toList :=
    ⟨_, .cons (.plain (by decide) (by decide) (by decide)) <| .cons escape <|
      Unescaped.spelled (by decide), rfl⟩
  let members := [("type", "\"int32\"".toList), ("default", "-7".toList), ("number", "1".toList),
    ("name", "\"f\"".toList)]
  have texts : List.Forall₂ (MemberText TextLiteral) members _ :=
    .cons (Unescaped.member (by decide) _) <| .cons (Unescaped.member (by decide) _) <|
      .cons (Unescaped.member (by decide) _) <|
      .cons ⟨_, [], [], name, blanks_nil, blanks_nil, rfl⟩ .nil
  refine ⟨by decide, members, ⟨_, _, texts, .some blanks_nil <| .more blanks_nil blanks_nil <|
    .more blanks_nil blanks_nil <| .more blanks_nil blanks_nil <| .done blanks_nil, rfl⟩, ?_⟩
  constructor
  case known =>
    have default : NullOr DefaultText respelledField.default "-7".toList :=
      .some (.integer (by decide) (by decide) rfl)
    have f : TextLiteral "f" "\"f\"".toList := Unescaped.literal (by decide)
    have int32 : TextLiteral "int32" "\"int32\"".toList := Unescaped.literal (by decide)
    have one : IntegerText 1 "1".toList := rfl
    simpa [FieldDef.forms, FieldDef.formsOf, members] using ⟨f, one, int32, default⟩
  case unknown => simp [FieldDef.forms, FieldDef.formsOf, members]
  case once => simp [FieldDef.forms, FieldDef.formsOf, members]
  case complete => simp [FieldDef.forms, FieldDef.formsOf, members, respelledField]

theorem respelledMessage_written : respelledMessage.WrittenAs 125 respelledMessageText := by
  let fields := "[".toList ++ (respelledFieldText ++ "]".toList)
  let members := [("note", ['[', '{', '}', ']']), ("name", "\"M\"".toList), ("fields", fields)]
  have texts : List.Forall₂ (MemberText TextLiteral) members _ :=
    .cons (Unescaped.member (by decide) _) <| .cons (Unescaped.member (by decide) _) <|
      .cons (Unescaped.member (by decide) _) .nil
  refine ⟨by decide, members, ⟨_, _, texts, .some blanks_nil <| .more blanks_nil blanks_nil <|
    .more blanks_nil blanks_nil <| .done blanks_nil, rfl⟩, ?_⟩
  constructor
  case known =>
    have m : TextLiteral "M" "\"M\"".toList := Unescaped.literal (by decide)
    have listed : ListText 124 (FieldDef.WrittenAs 123) [respelledField] fields :=
      ⟨by decide, [respelledFieldText], .cons respelledField_written .nil,
        _, .some blanks_nil (.done blanks_nil), by simp [fields]⟩
    simpa [MessageDef.forms, MessageDef.formsOf, members] using ⟨m, listed⟩
  case unknown =>
    have empty : IsValue ['{', '}'] :=
      @IsValue.object [] _ ⟨[], [], .nil, .none blanks_nil, rfl⟩ (by simp)
    have note : IsValue ['[', '{', '}', ']'] :=
      @IsValue.array [['{', '}']] _ ⟨_, .some blanks_nil (.done blanks_nil), rfl⟩
        (by simpa using empty)
    simpa [MessageDef.forms, MessageDef.formsOf, members] using note
  case once => simp [MessageDef.forms, MessageDef.formsOf, members]
  case complete => simp [MessageDef.forms, MessageDef.formsOf, members, respelledMessage]

theorem respelled_written : respelled.WrittenAs respelledText := by
  let messages := "[".toList ++ (respelledMessageText ++ "]".toList)
  let members := [("messages", messages), ("package", "null".toList)]
  have texts : List.Forall₂ (MemberText TextLiteral) members _ :=
    .cons (Unescaped.member (by decide) _) <| .cons (Unescaped.member (by decide) _) .nil
  have blank : Blanks [' '] := by simp [Blanks]
  have line : Blanks ['\n'] := by simp [Blanks]
  refine ⟨[' '], [], _, blank, blanks_nil, ⟨by decide, members, ⟨_, _, texts, .some blanks_nil <|
    .more blanks_nil line <| .done blanks_nil, rfl⟩, ?_⟩, String.toList_ofList⟩
  constructor
  case known =>
    have listed : MessageDef.AllWrittenAs 126 [respelledMessage] messages :=
      ⟨by decide, [respelledMessageText], .cons respelledMessage_written .nil,
        _, .some blanks_nil (.done blanks_nil), by simp [messages]⟩
    have package : NullOr TextLiteral none "null".toList := .null
    simpa [Document.forms, Document.formsOf, members, respelled] using ⟨package, listed⟩
  case unknown => simp [Document.forms, Document.formsOf, members]
  case once => simp [Document.forms, Document.formsOf, members]
  case complete => simp [Document.forms, Document.formsOf, members, respelled]

theorem respelled_loads : respelled.WrittenAs respelledText ∧
    Schema.ofText respelledText = Schema.ofDocument respelled ∧
    (Schema.ofDocument respelled).result.isOk = true :=
  ⟨respelled_written, written_text_loads respelled_written, by decide +kernel⟩

end MessageSchema
