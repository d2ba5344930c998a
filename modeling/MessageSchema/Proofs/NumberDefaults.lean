import MessageSchema.Proofs.IntegerDefaults
import MessageSchema.Proofs.Json.Printing
import MessageSchema.Proofs.LoadedDefaults
import MessageSchema.Proofs.OpenDefaults
import MessageSchema.Proofs.Outline

/-! Defaults of integer fields that a text states as JSON numbers. The number is read, written
as a literal and read once more by the field, and an integer of the field's kind comes out as
it went in. -/
namespace MessageSchema
open Json Numeral

/-- The kind of the definition's tag, where that is an integer tag. -/
def FieldDef.integerKind? (definition : FieldDef) : Option IntegerKind :=
  (Scalar.ofTag? definition.tag).bind Scalar.integerKind?

/-- Some default is left open, and each that is belongs to a field of the kind. -/
structure Document.LeavesOpen (document : Document) (kind : IntegerKind) : Prop where
  somewhere : ∃ site ∈ document.sites, ∃ definition ∈ site.definition.fields, definition.IsOpen
  integer : ∀ site ∈ document.sites, ∀ definition ∈ site.definition.fields, definition.IsOpen →
    definition.integerKind? = some kind

/-- What becomes of a text that has the literal in the open places of a document. -/
structure Document.LoadsLiteral (document : Document) (kind : IntegerKind) (literal : List Char)
    (text : String) : Prop where
  accepted : ∀ n, PlainInteger literal n →
    ((∃ schema, (Schema.ofText text).result = .ok schema) ↔ kind.low ≤ n ∧ n ≤ kind.high)
  exact : ∀ n schema, PlainInteger literal n → (Schema.ofText text).result = .ok schema →
    schema.EachField document fun _ definition field => definition.IsOpen →
      ∃ value, field.defaultValue = some value ∧ kind.Stores n value
  /-- The same integer as a text in quotes gives the same fields, and the same events. -/
  quoted : ∀ n quotes other, PlainInteger literal n → kind.low ≤ n → n ≤ kind.high →
    TextLiteral (writeInteger n) quotes → document.StatedWith quotes other →
    Schema.ofText text = Schema.ofText other
  refused : (literal = ['-', '0'] ∨ ∃ c ∈ literal, c ∈ ['.', 'e', 'E']) →
    ∃ error, (Schema.ofText text).result = .error error

/-! Which literals a kind accepts. -/

namespace IntegerKind

variable {kind : IntegerKind} {n : Int}

theorem fits_words (least : kind.low ≤ n) (most : n ≤ kind.high) :
    -9223372036854775808 ≤ n ∧ n < 18446744073709551616 := by
  have words := kind.words
  have sign := kind.sign
  split at words
  · omega
  · next unsigned =>
    rw [Bool.not_eq_true] at unsigned
    have nonnegative : ¬ kind.low < 0 := by simpa [unsigned] using sign
    omega

theorem accepts_writeInteger (least : kind.low ≤ n) (most : n ≤ kind.high) :
    kind.Accepts (writeInteger n) n := by
  refine ⟨integerLiteral_writeInteger fun negative => ?_, least, most⟩
  rw [kind.sign, decide_eq_true_eq]
  omega

theorem accepts_writeInteger_iff :
    (∃ k, kind.Accepts (writeInteger n) k) ↔ kind.low ≤ n ∧ n ≤ kind.high := by
  constructor
  · rintro ⟨k, accepted⟩
    have itself : IntegerLiteral true (writeInteger n).toList n :=
      integerLiteral_writeInteger fun _ => rfl
    obtain rfl := accepted.literal.unique itself
    exact ⟨accepted.least, accepted.most⟩
  · rintro ⟨least, most⟩
    exact ⟨n, accepts_writeInteger least most⟩

end IntegerKind

theorem Scalar.isLiteral_iff_accepts {scalar : Scalar} {kind : IntegerKind}
    (integer : scalar.integerKind? = some kind) (text : String) :
    scalar.IsLiteral text ↔ ∃ n, kind.Accepts text n := by
  rw [← ofLiteral_ok_iff, DefaultValue.ofScalarLiteral_integer integer, map_mapError_ok_iff]
  simp only [IntegerKind.readInteger_ok_iff_accepts]

/-! Documents whose open defaults are filled. -/

theorem FieldDef.IsOpen.fill {definition : FieldDef} (isOpen : definition.IsOpen)
    (value? : Option Json.Value) : (definition.fill value?).default = value? := by
  have null : definition.default = some .null := isOpen
  simp only [FieldDef.fill, null, Json.Value.fill]

theorem FieldDef.fill_of_not_open {definition : FieldDef} (stated : ¬ definition.IsOpen)
    (value? : Option Json.Value) : definition.fill value? = definition := by
  obtain ⟨name, number, label, tag, typeName, default⟩ := definition
  cases default with
  | none => rfl
  | some json =>
    cases json with
    | null => exact absurd rfl stated
    | bool | number | text | array | object => rfl

namespace Document

variable {document : Document} {kind : IntegerKind} {scope : String}

theorem fill_defaultFits_iff {definition : FieldDef} (isOpen : definition.IsOpen)
    (integer : definition.integerKind? = some kind) (value : Json.Value) :
    document.DefaultFits scope (definition.fill (some value)) ↔
      ∃ literal, value.HasText literal ∧ ∃ n, kind.Accepts literal n := by
  obtain ⟨scalar, spelled, kinded⟩ := Option.bind_eq_some_iff.mp integer
  have tag : Scalar.ofTag? (definition.fill (some value)).tag = some scalar := spelled
  simp only [DefaultFits, tag, isOpen.fill, Scalar.isLiteral_iff_accepts kinded, Option.some.injEq,
    forall_eq']

/-- Where all else fits, a value in the open places has to be the literal of an integer
of the kind. -/
theorem LeavesOpen.loads_iff (left : document.LeavesOpen kind)
    (valid : ∃ schema, (Schema.ofDocument (document.fill none)).result = .ok schema)
    (value : Json.Value) :
    (∃ schema, (Schema.ofDocument (document.fill (some value))).result = .ok schema) ↔
      ∃ literal, value.HasText literal ∧ ∃ n, kind.Accepts literal n := by
  have fits_iff (value? : Option Json.Value) :
      (document.mapFields (FieldDef.fill value?)).Fits ↔ _ :=
    fits_mapFields_iff (fun _ => rfl) (fun _ => rfl)
  rw [loads_iff_fits, fill, fits_iff] at valid ⊢
  obtain ⟨types, sites⟩ := valid
  constructor
  · rintro ⟨_, fits⟩
    obtain ⟨site, inside, definition, member, isOpen⟩ := left.somewhere
    have integer := left.integer site inside definition member isOpen
    have fit := ((fits site inside).2.2 definition member).default
    exact (fill_defaultFits_iff isOpen integer value).mp fit
  · intro accepted
    refine ⟨types, fun site inside => ?_⟩
    obtain ⟨names, numbers, fits⟩ := sites site inside
    refine ⟨names, numbers, fun definition member => ?_⟩
    have fit := fits definition member
    by_cases isOpen : definition.IsOpen
    · have integer := left.integer site inside definition member isOpen
      exact ⟨fit.number, fit.label, (fill_defaultFits_iff isOpen integer value).mpr accepted⟩
    · rw [FieldDef.fill_of_not_open isOpen] at fit ⊢
      exact fit

/-- A field is built from the literal of its default, whichever value the literal is that of. -/
theorem load_fill_congr {value other : Json.Value} {literal : String}
    (first : value.literal? = some literal) (second : other.literal? = some literal) :
    Schema.ofDocument (document.fill (some other)) = Schema.ofDocument
    (document.fill (some value)) := by
  refine load_mapFields fun registry scope definition => ⟨rfl, rfl, ?_⟩
  by_cases isOpen : definition.IsOpen
  · have given :
        (definition.fill (some other)).giveDefault = (definition.fill (some value)).giveDefault := by
      funext field
      simp only [FieldDef.giveDefault, isOpen.fill, first, second]
    rw [FieldDef.build, FieldDef.build, given]
    rfl
  · rw [FieldDef.fill_of_not_open isOpen, FieldDef.fill_of_not_open isOpen]

/-- The fields of open defaults hold the integer that was filled in. -/
theorem LeavesOpen.stores (left : document.LeavesOpen kind) {n : Int} (least : kind.low ≤ n)
    (most : n ≤ kind.high) {schema : Schema}
    (loaded : (Schema.ofDocument (document.fill (some (.number (.integer n))))).result = .ok schema) :
    schema.EachField document fun _ definition field => definition.IsOpen →
      ∃ value, field.defaultValue = some value ∧ kind.Stores n value := by
  have each : schema.EachField (document.fill (some (.number (.integer n))))
      fun _ definition field =>
        ∃ registry scope, (definition.build registry scope).result = .ok field :=
    Schema.eachField_of_build loaded fun registry _ site _ _ _ _ built =>
      ⟨registry, (document.fill (some (.number (.integer n)))).pathName site.path, built⟩
  refine each.of_mapFields
    fun site inside definition member field ⟨registry, scope, built⟩ isOpen => ?_
  have tag : field.tag = definition.tag := (FieldDef.kept_of_build built).tag
  have integer : field.integerKind? = some kind := by
    rw [Field.integerKind?, tag]
    exact left.integer site inside definition member isOpen
  obtain ⟨held, read⟩ := FieldDef.default_of_build built
  rw [isOpen.fill] at held read
  obtain ⟨value, same⟩ := Option.isSome_iff_exists.mp (held.mpr rfl)
  obtain ⟨json, literal, stated, written, readBack⟩ := read value same
  obtain rfl := Option.some.inj stated
  cases written
  have exact := Field.readDefault_accepted integer (IntegerKind.accepts_writeInteger least most)
  obtain rfl := Except.ok.inj (exact.symm.trans readBack)
  exact ⟨_, same, IntegerKind.stores_value least most⟩

end Document

/-! Texts whose open defaults are number literals. -/

theorem Schema.refused_of_not_loads {document : Document} {text : String} {unreadable : Prop}
    (yields : Yields unreadable (Document.ofText text) document)
    (never : ¬ ∃ schema, (ofDocument document).result = .ok schema) :
    ∃ error, (ofText text).result = .error error := by
  unfold ofText
  cases yields with
  | read same =>
    rw [same]
    cases ends : (ofDocument document).result with
    | ok schema => exact absurd ⟨schema, ends⟩ never
    | error error => exact ⟨error, rfl⟩
  | fault lost same =>
    rw [same]
    exact ⟨_, rfl⟩

/-- A literal that no integer of 64 bits has is refused in every open place: what it is read as, if
it is read at all, is not written as an integer. -/
theorem Document.LoadsLiteral.of_refused {document : Document} {kind : IntegerKind}
    {literal : List Char} {text : String}
    (refused : ∃ error, (Schema.ofText text).result = .error error)
    (outside : ∀ n, PlainInteger literal n →
      ¬ (-9223372036854775808 ≤ n ∧ n < 18446744073709551616)) :
    document.LoadsLiteral kind literal text := by
  obtain ⟨error, refused⟩ := refused
  have never : ¬ ∃ schema, (Schema.ofText text).result = .ok schema := by
    rintro ⟨schema, loaded⟩
    cases refused.symm.trans loaded
  constructor
  case accepted =>
    intro n plain
    have beyond : ¬ (kind.low ≤ n ∧ n ≤ kind.high) := fun ⟨least, most⟩ =>
      outside n plain (IntegerKind.fits_words least most)
    exact iff_of_false never beyond
  case exact =>
    intro n schema _ loaded
    exact absurd ⟨schema, loaded⟩ never
  case quoted =>
    intro n quotes other plain least most
    exact absurd (IntegerKind.fits_words least most) (outside n plain)
  case refused => exact fun _ => ⟨error, refused⟩

/-- An integer of 64 bits in an open place is stored as it is, or out of the range of the field. -/
theorem Document.LoadsLiteral.of_integer {document : Document} {kind : IntegerKind}
    {literal : List Char} {text : String} {n : Int} (left : document.LeavesOpen kind)
    (valid : ∃ schema, (Schema.ofDocument (document.fill none)).result = .ok schema)
    (plain : PlainInteger literal n)
    (same : Schema.ofText text = Schema.ofDocument (document.fill (some (.number (.integer n))))) :
    document.LoadsLiteral kind literal text := by
  have loads : (∃ schema, (Schema.ofText text).result = .ok schema) ↔
      kind.low ≤ n ∧ n ≤ kind.high := by
    rw [same, left.loads_iff valid, ← IntegerKind.accepts_writeInteger_iff]
    constructor
    · rintro ⟨_, ⟨⟩, accepted⟩
      exact accepted
    · intro accepted
      exact ⟨_, .number, accepted⟩
  constructor
  case accepted =>
    intro m other
    obtain rfl := plain.unique other
    exact loads
  case exact =>
    intro m schema other loaded
    obtain rfl := plain.unique other
    obtain ⟨least, most⟩ := loads.mp ⟨schema, loaded⟩
    exact left.stores least most (same ▸ loaded)
  case quoted =>
    intro m quotes other again least most spelled states
    obtain rfl := plain.unique again
    have first : quotes.head? ≠ some 'n' := by
      obtain ⟨body, _, rfl⟩ := spelled
      simp
    have yields : Yields False (ofText other) _ :=
      states.yields (fun levels => reads_default levels (.text spelled)) first
    rw [same, Schema.ofText, yields.ok not_false]
    exact load_fill_congr rfl rfl
  case refused =>
    intro foreign
    obtain ⟨notMinusZero, digits⟩ := plain.plain
    rcases foreign with minusZero | ⟨c, member, never⟩
    · exact absurd minusZero notMinusZero
    · exact absurd never (digits c member)

/-- JSON numbers as defaults of integer fields. A text with an integer literal in the open places
loads exactly if the integer is one of the fields' kind, and then it is stored unchanged. Minus zero
and whatever has a fraction or an exponent is refused. -/
theorem Document.integer_literals_exact {document : Document} {kind : IntegerKind}
    {literal : List Char} {text : String} (left : document.LeavesOpen kind)
    (valid : ∃ schema, (Schema.ofDocument (document.fill none)).result = .ok schema)
    (number : IsNumber literal) (states : document.StatedWith literal text) :
    document.LoadsLiteral kind literal text := by
  obtain ⟨number?, readAs, integer⟩ := number.readAs
  -- A number that is too large is never read, so any value may stand for it.
  obtain ⟨value, stands⟩ : ∃ value, value = (number?.map Value.number).getD .null := ⟨_, rfl⟩
  have read (levels : Nat) : Reads (number? = none) (Value.read levels) value literal :=
    reads_number number readAs (by rintro n rfl; exact stands) id levels
  have yields := states.yields read number.opens.2
  by_cases exact : ∃ n, number? = some (.integer n)
  · obtain ⟨n, rfl⟩ := exact
    obtain rfl : value = .number (.integer n) := stands
    have same := yields.ok (by simp)
    refine .of_integer left valid ((integer n).mp rfl).1 ?_
    rw [Schema.ofText, same]
  · refine .of_refused (Schema.refused_of_not_loads yields ?_) fun n plain inside => ?_
    · rw [left.loads_iff valid]
      rintro ⟨written, text, n, accepted⟩
      cases number? with
      | none =>
        obtain rfl : value = .null := stands
        cases text
      | some found =>
        cases found with
        | integer m => exact exact ⟨m, rfl⟩
        | real x =>
          obtain rfl : value = .number (.real x) := stands
          cases text
          exact text_real_not_integer x accepted.literal
    · exact exact ⟨n, (integer n).mpr ⟨plain, inside⟩⟩

/-! A text without keys, and in it the greatest integer that any field holds. -/

/-- An array without blanks. -/
def bracketed : List (List Char) → List Char
  | [] => ['[', ']']
  | first :: others => '[' :: (first ++ (others.flatMap fun item => ',' :: item) ++ [']'])

theorem arrayText_bracketed (items : List (List Char)) : ArrayText items (bracketed items) := by
  cases items with
  | nil => exact ⟨[], .none blanks_nil, rfl⟩
  | cons first others =>
    have further : Further others (others.flatMap fun item => ',' :: item) := by
      simpa using further_joined blanks_nil blanks_nil others
    exact ⟨_, .some blanks_nil further, rfl⟩

def ceilingField : FieldDef :=
  ⟨"most", 1, "optional", "uint64", none, some .null⟩

def ceilingMessage : MessageDef :=
  ⟨"M", [ceilingField], [], []⟩

def ceiling : Document :=
  ⟨none, [], [ceilingMessage]⟩

def ceilingFieldText (literal : List Char) : List Char :=
  bracketed ["\"most\"".toList, "1".toList, "\"optional\"".toList, "\"uint64\"".toList, "null".toList,
    literal]

def ceilingText (literal : List Char) : String :=
  String.ofList (bracketed ["null".toList, "[]".toList,
    bracketed [bracketed ["\"M\"".toList, bracketed [ceilingFieldText literal]]]])

theorem ceilingField_stated (literal : List Char) :
    ceilingField.StatedAs (DefaultSpelling .null literal) 123 (ceilingFieldText literal) := by
  refine .array ⟨by decide, _, ?_, arrayText_bracketed _⟩
  have most : TextLiteral "most" "\"most\"".toList := Unescaped.literal (by decide)
  have optional : TextLiteral "optional" "\"optional\"".toList := Unescaped.literal (by decide)
  have uint64 : TextLiteral "uint64" "\"uint64\"".toList := Unescaped.literal (by decide)
  exact .next most <| .next rfl <| .next optional <| .next uint64 <| .next .null <|
    .next (.some .literal) <| .rest (by simp)

theorem ceilingMessage_stated (literal : List Char) :
    MessageDef.StatedAs (DefaultSpelling .null literal) 125 ceilingMessage
      (bracketed ["\"M\"".toList, bracketed [ceilingFieldText literal]]) := by
  refine .array ⟨by decide, _, ?_, arrayText_bracketed _⟩
  have name : TextLiteral "M" "\"M\"".toList := Unescaped.literal (by decide)
  have fields : ListText 124 (FieldDef.StatedAs (DefaultSpelling .null literal) 123) [ceilingField]
      (bracketed [ceilingFieldText literal]) :=
    ⟨by decide, _, .cons (ceilingField_stated literal) .nil, arrayText_bracketed _⟩
  exact .next name <| .next fields <| .rest (by simp [ceilingMessage])

theorem ceiling_stated (literal : List Char) : ceiling.StatedWith literal (ceilingText literal) := by
  let messages := bracketed [bracketed ["\"M\"".toList, bracketed [ceilingFieldText literal]]]
  let written := bracketed ["null".toList, "[]".toList, messages]
  have split : (ceilingText literal).toList = [] ++ (written ++ []) := by
    rw [ceilingText, String.toList_ofList, List.append_nil, List.nil_append]
  refine ⟨[], [], written, blanks_nil, blanks_nil,
    .array ⟨by decide, _, ?_, arrayText_bracketed _⟩, split⟩
  have package : NullOr TextLiteral none "null".toList := .null
  have enums : ListText 126 (EnumDef.StatedAs 125) [] "[]".toList :=
    ⟨by decide, [], .nil, arrayText_bracketed []⟩
  have listed :
      MessageDef.AllStatedAs (DefaultSpelling .null literal) 126 [ceilingMessage] messages :=
    ⟨by decide, _, .cons (ceilingMessage_stated literal) .nil, arrayText_bracketed _⟩
  exact .next package <| .next enums <| .next listed <| .rest (by simp)

theorem ceiling_leavesOpen : ceiling.LeavesOpen .unsigned64 where
  somewhere :=
    ⟨⟨[], ceilingMessage⟩, List.mem_singleton_self _, ceilingField, List.mem_singleton_self _, rfl⟩
  integer := by
    intro site inside definition member _
    obtain rfl := List.mem_singleton.mp inside
    obtain rfl := List.mem_singleton.mp member
    rfl

theorem ceiling_exact :
    PlainInteger "18446744073709551615".toList 18446744073709551615 ∧
      ceiling.StatedWith "18446744073709551615".toList (ceilingText "18446744073709551615".toList) ∧
      (∃ schema, (Schema.ofDocument (ceiling.fill none)).result = .ok schema) ∧
      ceiling.LoadsLiteral .unsigned64 "18446744073709551615".toList
        (ceilingText "18446744073709551615".toList) := by
  have isWhole : IsWhole "18446744073709551615".toList :=
    ⟨⟨by decide, List.all_eq_true.mp (by decide)⟩, by decide⟩
  have number : IsNumber ([] ++ ("18446744073709551615".toList ++ ([] ++ []))) :=
    .mk (.inl rfl) isWhole .none .none
  have accepted : (Schema.ofDocument (ceiling.fill none)).result.isOk = true := by decide +kernel
  have valid := exists_ok_of_isOk accepted
  have states := ceiling_stated "18446744073709551615".toList
  exact ⟨.unsigned isWhole, states, valid,
    Document.integer_literals_exact ceiling_leavesOpen valid number states⟩

end MessageSchema
