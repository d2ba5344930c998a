import MessageSchema.Proofs.DocumentTexts
import MessageSchema.Proofs.FieldChanges
import MessageSchema.Proofs.Json.Tuples

/-! Documents that leave defaults open, and their texts, which have one literal in all the open
places. Every record of a text is an object or an array, and any number may be the default of
another field. -/
namespace MessageSchema
open Json

/-- The default is left open: it is `null`, which no text gives to a field, since a `null` in its
place means that there is none. -/
def FieldDef.IsOpen (definition : FieldDef) : Prop :=
  definition.default = some .null

/-- A default, or none, in place of one that is left open. -/
def Json.Value.fill (value? : Option Json.Value) : Option Json.Value → Option Json.Value
  | some .null => value?
  | stated? => stated?

def FieldDef.fill (value? : Option Json.Value) (definition : FieldDef) : FieldDef :=
  { definition with default := Json.Value.fill value? definition.default }

def Document.fill (document : Document) (value? : Option Json.Value) : Document :=
  document.mapFields (FieldDef.fill value?)

/-- How defaults are written, where the literal stands for the value. -/
inductive DefaultSpelling (value : Json.Value) (literal : List Char) :
    Json.Value → List Char → Prop where
  | stated {other : Json.Value} {written : List Char} : DefaultText other written →
      DefaultSpelling value literal other written
  | real {x : Float} {written : List Char} : IsNumber written →
      Number.ReadAs written (some (.real x)) →
      DefaultSpelling value literal (.number (.real x)) written
  | literal : DefaultSpelling value literal value literal

def EnumValue.StatedAs (levels : Nat) : EnumValue → List Char → Prop :=
  EitherText levels forms

def EnumDef.StatedAs (levels : Nat) : EnumDef → List Char → Prop :=
  EitherText levels (formsOf (ListText (levels - 1) (EnumValue.StatedAs (levels - 2))))

def FieldDef.StatedAs (stated : Json.Value → List Char → Prop) (levels : Nat) :
    FieldDef → List Char → Prop :=
  EitherText levels (formsOf stated)

mutual

def MessageDef.StatedAs (stated : Json.Value → List Char → Prop) : Nat → MessageDef → List Char → Prop
  | 0, _, _ => False
  | levels + 1, definition, written =>
    EitherText (levels + 1) (formsOf (ListText levels (FieldDef.StatedAs stated (levels - 1)))
      (ListText levels (EnumDef.StatedAs (levels - 1))) (MessageDef.AllStatedAs stated levels))
      definition written

def MessageDef.AllStatedAs (stated : Json.Value → List Char → Prop) :
    Nat → List MessageDef → List Char → Prop
  | 0, _, _ => False
  | levels + 1, definitions, written =>
    ListText (levels + 1) (MessageDef.StatedAs stated levels) definitions written

end

/-- The texts of a document, of fewer than 128 levels of brackets, given how its defaults are
written. Blanks may stand around it. -/
def Document.StatedAs (document : Document) (stated : Json.Value → List Char → Prop) (text : String) :
    Prop :=
  ∃ before after written, Blanks before ∧ Blanks after ∧
    EitherText 127 (formsOf (ListText 126 (EnumDef.StatedAs 125)) (MessageDef.AllStatedAs stated 126))
      document written ∧
    text.toList = before ++ (written ++ after)

/-- The texts that have the literal wherever the document leaves a default open. -/
def Document.StatedWith (document : Document) (literal : List Char) : String → Prop :=
  document.StatedAs (DefaultSpelling .null literal)

/-! The texts are read as their documents, if the defaults are. -/

section
variable {unreadable : Prop} {stated : Json.Value → List Char → Prop}

theorem EnumValue.reads_stated (levels : Nat) (value : EnumValue) (written : List Char)
    (writes : value.StatedAs levels written) : Reads unreadable (read levels) value written :=
  reads_either described writes

theorem EnumDef.reads_stated (levels : Nat) (definition : EnumDef) (written : List Char)
    (writes : definition.StatedAs levels written) :
    Reads unreadable (read levels) definition written :=
  reads_either (described (levels - 1) fun _ _ => reads_list (EnumValue.reads_stated (levels - 2)))
    writes

variable (default : ∀ levels value written, stated value written →
  Reads unreadable (Value.read levels) value written ∧ written.head? ≠ some 'n')
include default

theorem FieldDef.reads_stated (levels : Nat) (definition : FieldDef) (written : List Char)
    (writes : definition.StatedAs stated levels written) :
    Reads unreadable (read levels) definition written :=
  reads_either (described (levels - 1) (default (levels - 1))) writes

theorem MessageDef.reads_stated (levels : Nat) :
    (∀ definition written, StatedAs stated levels definition written →
      Reads unreadable (read levels) definition written) ∧
    ∀ definitions written, AllStatedAs stated levels definitions written →
      Reads unreadable (readAll levels) definitions written := by
  induction levels with
  | zero => exact ⟨fun _ _ never => never.elim, fun _ _ never => never.elim⟩
  | succ levels ih =>
    constructor
    · intro definition written writes
      have described := described levels
        (fun _ _ => reads_list (FieldDef.reads_stated default (levels - 1)))
        (fun _ _ => reads_list (EnumDef.reads_stated (levels - 1))) ih.2
      exact reads_either described writes
    · intro definitions written writes
      exact reads_list ih.1 writes

theorem Document.ofText_stated {document : Document} {text : String}
    (writes : document.StatedAs stated text) : Yields unreadable (ofText text) document := by
  obtain ⟨before, after, written, blanks, blanksAfter, record, split⟩ := writes
  have described := described 126 (fun _ _ => reads_list (EnumDef.reads_stated 125))
    (MessageDef.reads_stated default 126).2
  exact ofText_yields (reads_either described record) blanks blanksAfter split

end

/-! A text with the literal in the open places is one of the document that is filled
with the value. -/

section
variable {value : Json.Value} {literal : List Char}

theorem DefaultSpelling.fill (default? : Option Json.Value) (written : List Char)
    (writes : NullOr (DefaultSpelling .null literal) default? written) :
    NullOr (DefaultSpelling value literal) (Json.Value.fill (some value) default?) written := by
  cases writes with
  | null => exact .null
  | some spelled =>
    cases spelled with
    | stated writes =>
      cases writes with
      | text literal => exact .some (.stated (.text literal))
      | true => exact .some (.stated .true)
      | false => exact .some (.stated .false)
      | integer low high decimal => exact .some (.stated (.integer low high decimal))
    | real number readAs => exact .some (.real number readAs)
    | literal => exact .some .literal

theorem FieldDef.StatedAs.fill (levels : Nat) (definition : FieldDef) (written : List Char)
    (writes : definition.StatedAs (DefaultSpelling .null literal) levels written) :
    (definition.fill (some value)).StatedAs (DefaultSpelling value literal) levels written := by
  apply EitherText.map writes
  exact .cons (Form.maps_kept fun _ => rfl) <| .cons (Form.maps_kept fun _ => rfl) <|
    .cons (Form.maps_kept fun _ => rfl) <| .cons (Form.maps_kept fun _ => rfl) <|
    .cons (Form.maps_kept fun _ => rfl) <|
    .cons (Form.maps_of (fun _ => rfl) DefaultSpelling.fill (by rintro _ ⟨⟩; rfl)) .nil

theorem MessageDef.StatedAs.fill (levels : Nat) :
    (∀ definition written, StatedAs (DefaultSpelling .null literal) levels definition written →
      StatedAs (DefaultSpelling value literal) levels
        (definition.mapFields (FieldDef.fill (some value))) written) ∧
    ∀ definitions written, AllStatedAs (DefaultSpelling .null literal) levels definitions written →
      AllStatedAs (DefaultSpelling value literal) levels
        (mapFieldsAll (FieldDef.fill (some value)) definitions) written := by
  induction levels with
  | zero => exact ⟨fun _ _ never => never.elim, fun _ _ never => never.elim⟩
  | succ levels ih =>
    constructor
    · intro definition written writes
      apply EitherText.map writes
      have fields (definitions : List FieldDef) (text : List Char) :
          ListText levels (FieldDef.StatedAs (DefaultSpelling .null literal) (levels - 1))
              definitions text →
            ListText levels (FieldDef.StatedAs (DefaultSpelling value literal) (levels - 1))
              (definitions.map (FieldDef.fill (some value))) text :=
        ListText.map (FieldDef.StatedAs.fill (levels - 1))
      exact .cons (Form.maps_kept (mapFields_name _)) <|
        .cons (Form.maps_of (mapFields_fields _) fields (by rintro _ ⟨⟩; rfl)) <|
        .cons (Form.maps_kept (mapFields_enums _)) <|
        .cons (Form.maps_of (mapFields_messages _) ih.2 (by rintro _ ⟨⟩; rfl)) .nil
    · intro definitions written writes
      rw [mapFieldsAll_eq]
      exact ListText.map ih.1 writes

theorem Document.StatedWith.fill {document : Document} {text : String}
    (writes : document.StatedWith literal text) :
    (document.fill (some value)).StatedAs (DefaultSpelling value literal) text := by
  obtain ⟨before, after, written, blanks, blanksAfter, record, split⟩ := writes
  have maps : List.Forall₂ (Form.Maps (Document.fill · (some value)))
      (formsOf (ListText 126 (EnumDef.StatedAs 125))
        (MessageDef.AllStatedAs (DefaultSpelling .null literal) 126))
      (formsOf (ListText 126 (EnumDef.StatedAs 125))
        (MessageDef.AllStatedAs (DefaultSpelling value literal) 126)) :=
    .cons (Form.maps_kept fun _ => rfl) <| .cons (Form.maps_kept fun _ => rfl) <|
      .cons (Form.maps_of (fun _ => rfl) (MessageDef.StatedAs.fill 126).2 (by rintro _ ⟨⟩; rfl)) .nil
  exact ⟨before, after, written, blanks, blanksAfter, record.map maps, split⟩

end

theorem DefaultSpelling.reads {unreadable : Prop} {value : Json.Value} {literal : List Char}
    (read : ∀ levels, Reads unreadable (Value.read levels) value literal)
    (first : literal.head? ≠ some 'n') (levels : Nat) (other : Json.Value) (written : List Char)
    (spelled : DefaultSpelling value literal other written) :
    Reads unreadable (Value.read levels) other written ∧ written.head? ≠ some 'n' := by
  cases spelled with
  | stated writes => exact ⟨reads_default levels writes, writes.opens.2⟩
  | real number readAs =>
    exact ⟨reads_number number readAs (by simp) (by simp) levels, number.opens.2⟩
  | literal => exact ⟨read levels, first⟩

/-- A text with the literal in the open places is read as the document filled with what the literal
is read as. -/
theorem Document.StatedWith.yields {document : Document} {unreadable : Prop} {value : Json.Value}
    {literal : List Char} {text : String} (writes : document.StatedWith literal text)
    (read : ∀ levels, Reads unreadable (Value.read levels) value literal)
    (first : literal.head? ≠ some 'n') :
    Yields unreadable (ofText text) (document.fill (some value)) :=
  ofText_stated (DefaultSpelling.reads read first) writes.fill

end MessageSchema
