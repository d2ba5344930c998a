import Mathlib.Data.List.TakeWhile
import MessageSchema.Numeral.Decimal

/-! The grammar of floating point literals, and that exactly its texts are read. -/
namespace MessageSchema.Numeral

/-- Decimal digits, or nothing. -/
def Digits (text : List Char) : Prop :=
  ∀ c ∈ text, c.isDigit

inductive Sign : List Char → Prop where
  | none : Sign []
  | plus : Sign ['+']
  | minus : Sign ['-']

/-- Digits with at most one point, and a digit on one side of it at least. -/
inductive Mantissa : List Char → Prop where
  | whole : Digits whole → whole ≠ [] → Mantissa whole
  | point : Digits whole → Digits fraction → whole ≠ [] ∨ fraction ≠ [] →
      Mantissa (whole ++ '.' :: fraction)

inductive ExponentPart : List Char → Prop where
  | none : ExponentPart []
  | marked : mark = 'e' ∨ mark = 'E' → Sign sign → Digits digits → digits ≠ [] →
      ExponentPart (mark :: (sign ++ digits))

/-- A name of infinity or NaN, in any case. -/
def SpecialName (text : List Char) : Prop :=
  String.ofList (text.map Char.toLower) ∈ ["inf", "infinity", "nan"]

inductive DecimalLiteral : List Char → Prop where
  | number : Sign sign → Mantissa mantissa → ExponentPart exponent →
      DecimalLiteral (sign ++ (mantissa ++ exponent))
  | special : Sign sign → SpecialName name → DecimalLiteral (sign ++ name)

theorem splitDigits_append {digits rest : List Char} (numeral : Digits digits)
    (stop : ∀ c, rest.head? = some c → ¬ c.isDigit) :
    splitDigits (digits ++ rest) = (digits, rest) := by
  have ends : rest.takeWhile Char.isDigit = [] ∧ rest.dropWhile Char.isDigit = rest := by
    cases rest with
    | nil => simp
    | cons c tail => simp [stop c rfl]
  simp [splitDigits, List.takeWhile_append_of_pos numeral, List.dropWhile_append_of_pos numeral, ends]

theorem digits_splitDigits (text : List Char) : Digits (splitDigits text).1 := by
  intro c member
  exact List.mem_takeWhile_imp member

theorem splitDigits_join (text : List Char) : (splitDigits text).1 ++ (splitDigits text).2 = text :=
  List.takeWhile_append_dropWhile

/-- No sign is left at the front. -/
def Unsigned (text : List Char) : Prop :=
  ∀ c, text.head? = some c → c ≠ '+' ∧ c ≠ '-'

theorem splitSign_append {sign body : List Char} (signed : Sign sign) (unsigned : Unsigned body) :
    splitSign (sign ++ body) = (decide (sign = ['-']), body) := by
  cases signed with
  | plus => rfl
  | minus => rfl
  | none =>
    cases body with
    | nil => rfl
    | cons c rest =>
      obtain ⟨notPlus, notMinus⟩ := unsigned c rfl
      simp [splitSign, notPlus, notMinus]

theorem splitSign_join (text : List Char) :
    ∃ sign, Sign sign ∧ text = sign ++ (splitSign text).2 := by
  unfold splitSign
  split
  · exact ⟨['-'], .minus, rfl⟩
  · exact ⟨['+'], .plus, rfl⟩
  · exact ⟨[], .none, rfl⟩

theorem Digits.unsigned {digits rest : List Char} (numeral : Digits digits) (nonempty : digits ≠ []) :
    Unsigned (digits ++ rest) := by
  cases digits with
  | nil => contradiction
  | cons c tail =>
    intro first same
    cases same
    have digit := numeral c List.mem_cons_self
    constructor <;> rintro rfl <;> simp at digit

theorem exponentPart?_isSome_iff {text : List Char} :
    (exponentPart? text).isSome ↔ ExponentPart text := by
  cases text with
  | nil => simp [exponentPart?, ExponentPart.none]
  | cons mark rest =>
    simp only [exponentPart?]
    constructor
    · intro read
      split at read
      · next marked =>
        obtain ⟨sign, signed, restEq⟩ := splitSign_join rest
        split at read
        · next numeral =>
          rw [restEq]
          exact .marked marked signed (by simpa [Digits] using numeral.2) numeral.1
        · cases read
      · cases read
    · intro part
      cases part with
      | @marked _ sign digits marked signed numeral nonempty =>
        have unsigned : Unsigned digits := by
          rw [← List.append_nil digits]
          exact numeral.unsigned nonempty
        have cut := splitSign_append signed unsigned
        have all : digits.all Char.isDigit = true := by simpa [Digits] using numeral
        simp [marked, cut, nonempty, all]

theorem ExponentPart.not_digit {text : List Char} (part : ExponentPart text) {c : Char}
    (first : text.head? = some c) : ¬ c.isDigit := by
  cases part with
  | none => cases first
  | marked marked =>
    cases first
    rcases marked with rfl | rfl <;> decide

theorem ExponentPart.ne_point {text rest : List Char} (part : ExponentPart text) :
    text ≠ '.' :: rest := by
  rintro rfl
  cases part with
  | marked marked => simp at marked

theorem decimal?_whole {text whole rest : List Char} (cut : splitDigits text = (whole, rest))
    (pointless : ∀ tail, rest ≠ '.' :: tail) :
    (decimal? text).isSome ↔ whole ≠ [] ∧ ExponentPart rest := by
  rw [← exponentPart?_isSome_iff]
  by_cases empty : whole = []
  · simp [decimal?, cut, empty]
  · cases read : exponentPart? rest <;> simp [decimal?, cut, empty, read]

theorem decimal?_point {text whole tail fraction rest : List Char}
    (cut : splitDigits text = (whole, '.' :: tail)) (behind : splitDigits tail = (fraction, rest)) :
    (decimal? text).isSome ↔ (whole ≠ [] ∨ fraction ≠ []) ∧ ExponentPart rest := by
  rw [← exponentPart?_isSome_iff]
  by_cases empty : whole = [] ∧ fraction = []
  · simp [decimal?, cut, behind, empty]
  · have digits : whole ≠ [] ∨ fraction ≠ [] := by
      rwa [Ne, Ne, ← not_and_or]
    cases read : exponentPart? rest <;> simp [decimal?, cut, behind, empty, digits, read]

/-- The longest run of digits is the whole part, and behind a point the next one is the fraction. -/
theorem decimal?_isSome_iff {text : List Char} :
    (decimal? text).isSome ↔
      ∃ mantissa exponent, text = mantissa ++ exponent ∧ Mantissa mantissa ∧
        ExponentPart exponent := by
  constructor
  · intro read
    have numeral := digits_splitDigits text
    have joined := splitDigits_join text
    rcases cut : splitDigits text with ⟨whole, after⟩
    rw [cut] at numeral joined
    by_cases pointed : ∃ tail, after = '.' :: tail
    · obtain ⟨tail, rfl⟩ := pointed
      have decimals := digits_splitDigits tail
      have rejoined := splitDigits_join tail
      rcases behind : splitDigits tail with ⟨fraction, rest⟩
      rw [behind] at decimals rejoined
      obtain ⟨nonempty, part⟩ := (decimal?_point cut behind).mp read
      refine ⟨whole ++ '.' :: fraction, rest, ?_, .point numeral decimals nonempty, part⟩
      rw [← joined, ← rejoined, List.append_assoc, List.cons_append]
    · simp only [not_exists] at pointed
      obtain ⟨nonempty, part⟩ := (decimal?_whole cut pointed).mp read
      exact ⟨whole, after, joined.symm, .whole numeral nonempty, part⟩
  · rintro ⟨mantissa, exponent, rfl, number, part⟩
    cases number with
    | whole numeral nonempty =>
      have cut := splitDigits_append numeral fun c => part.not_digit
      exact (decimal?_whole cut fun tail => part.ne_point).mpr ⟨nonempty, part⟩
    | @point whole fraction numeral decimals nonempty =>
      have cut : splitDigits (whole ++ '.' :: fraction ++ exponent) =
          (whole, '.' :: (fraction ++ exponent)) := by
        rw [List.append_assoc]
        refine splitDigits_append numeral fun c first => ?_
        cases first
        decide
      have behind := splitDigits_append decimals fun c => part.not_digit
      exact (decimal?_point cut behind).mpr ⟨nonempty, part⟩

theorem magnitude?_isSome_iff {text : List Char} :
    (magnitude? text).isSome ↔
      (∃ mantissa exponent, text = mantissa ++ exponent ∧ Mantissa mantissa ∧
        ExponentPart exponent) ∨ SpecialName text := by
  rw [← decimal?_isSome_iff, SpecialName]
  unfold magnitude?
  cases decimal? text with
  | some decimal => simp
  | none =>
    simp only [Option.isSome_none, Bool.false_eq_true, false_or, List.mem_cons, List.not_mem_nil,
      or_false]
    split
    · next infinite => rcases infinite with same | same <;> simp [same]
    · next finite =>
      split
      · next same => simp [same]
      · next other =>
        simp only [not_or] at finite
        simp [finite, other]

theorem Mantissa.unsigned {mantissa rest : List Char} (number : Mantissa mantissa) :
    Unsigned (mantissa ++ rest) := by
  cases number with
  | whole numeral nonempty => exact numeral.unsigned nonempty
  | @point whole fraction numeral =>
    by_cases empty : whole = []
    · subst empty
      intro c first
      cases first
      decide
    · rw [List.append_assoc]
      exact numeral.unsigned empty

theorem SpecialName.unsigned {text : List Char} (name : SpecialName text) : Unsigned text := by
  intro c first
  cases text with
  | nil => cases first
  | cons d rest =>
    cases first
    constructor <;>
    · rintro rfl
      revert name
      simp [SpecialName, ← String.toList_inj]

theorem unsigned_of_magnitude {body : List Char} (read : (magnitude? body).isSome) :
    Unsigned body := by
  rcases magnitude?_isSome_iff.mp read with ⟨mantissa, exponent, rfl, number, _⟩ | name
  · exact number.unsigned
  · exact name.unsigned

theorem decimalLiteral_iff {text : List Char} :
    DecimalLiteral text ↔
      ∃ sign body, text = sign ++ body ∧ Sign sign ∧ (magnitude? body).isSome := by
  simp only [magnitude?_isSome_iff]
  constructor
  · intro literal
    cases literal with
    | number signed number part => exact ⟨_, _, rfl, signed, .inl ⟨_, _, rfl, number, part⟩⟩
    | special signed name => exact ⟨_, _, rfl, signed, .inr name⟩
  · rintro ⟨sign, body, rfl, signed, ⟨mantissa, exponent, rfl, number, part⟩ | name⟩
    · exact .number signed number part
    · exact .special signed name

/-- A text is read exactly if it is a literal. -/
theorem readDecimal_ok_iff {text : String} :
    (∃ x, readDecimal text = .ok x) ↔ DecimalLiteral text.toList := by
  have empty : ¬ (magnitude? []).isSome := by
    simp [magnitude?, decimal?, splitDigits]
  rw [decimalLiteral_iff]
  unfold readDecimal
  split
  · next same =>
    simp only [reduceCtorEq, exists_false, false_iff, same]
    rintro ⟨sign, body, split, _, read⟩
    have bodyEq : body = [] := (List.append_eq_nil_iff.mp split.symm).2
    rw [bodyEq] at read
    exact empty read
  · constructor
    · rintro ⟨x, done⟩
      obtain ⟨sign, signed, joined⟩ := splitSign_join text.toList
      cases read : magnitude? (splitSign text.toList).2 with
      | none => simp [read] at done
      | some size => exact ⟨sign, _, joined, signed, by simp [read]⟩
    · rintro ⟨sign, body, split, signed, read⟩
      have unsigned := unsigned_of_magnitude read
      obtain ⟨x, read⟩ := Option.isSome_iff_exists.mp read
      rw [split, splitSign_append signed unsigned]
      exact ⟨_, by simp only [read]; rfl⟩

end MessageSchema.Numeral
