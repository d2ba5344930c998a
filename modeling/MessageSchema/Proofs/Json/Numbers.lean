import MessageSchema.Json.Value
import MessageSchema.Proofs.Json.Records

/-! Number texts and what they are read as. An integer that 64 bits hold is read as itself. Any
other number is a floating point one, or too large to be read, and what a floating point number is
written as is never the text of an integer. -/
namespace MessageSchema.Json
open Reader Numeral

/-- An integer as a number text: neither fraction nor exponent, and no minus in front of a zero. -/
inductive PlainInteger : List Char → Int → Prop where
  | unsigned {whole : List Char} : IsWhole whole → PlainInteger whole (Nat.ofDigitChars 10 whole 0)
  | minus {whole : List Char} : IsWhole whole → whole ≠ ['0'] →
      PlainInteger ('-' :: whole) (-Nat.ofDigitChars 10 whole 0)

/-- What a number text is read as, whatever follows it; nothing where the number is too large. -/
def Number.ReadAs (literal : List Char) (number? : Option Number) : Prop :=
  ∀ rest, Ends rest → Number.read (literal ++ rest) =
    match number? with
    | some number => .ok (number, rest)
    | none => .error .malformed

theorem plainInteger_unsigned_iff {whole : List Char} {n : Int} (isWhole : IsWhole whole) :
    PlainInteger whole n ↔ n = Nat.ofDigitChars 10 whole 0 := by
  constructor
  · intro plain
    cases plain with
    | unsigned => rfl
    | minus => exact absurd isWhole.1.first (by decide)
  · rintro rfl
    exact .unsigned isWhole

theorem plainInteger_minus_iff {whole : List Char} {n : Int} (isWhole : IsWhole whole) :
    PlainInteger ('-' :: whole) n ↔ whole ≠ ['0'] ∧ n = -Nat.ofDigitChars 10 whole 0 := by
  constructor
  · intro plain
    cases plain with
    | unsigned signed => exact absurd signed.1.first (by decide)
    | minus _ nonzero => exact ⟨nonzero, rfl⟩
  · rintro ⟨nonzero, rfl⟩
    exact .minus isWhole nonzero

theorem PlainInteger.unique {literal : List Char} {m n : Int} (first : PlainInteger literal m)
    (second : PlainInteger literal n) : m = n := by
  cases first with
  | unsigned isWhole => exact ((plainInteger_unsigned_iff isWhole).mp second).symm
  | minus isWhole => exact ((plainInteger_minus_iff isWhole).mp second).2.symm

/-- The text of an integer has nothing of what makes a number a floating point one. -/
theorem PlainInteger.plain {literal : List Char} {n : Int} (plain : PlainInteger literal n) :
    literal ≠ ['-', '0'] ∧ ∀ c ∈ literal, c ∉ ['.', 'e', 'E'] := by
  have table : ['.', 'e', 'E'].all fun c => ¬ c.isDigit ∧ c ≠ '-' := by decide
  have digits {whole : List Char} (isWhole : IsWhole whole) : ∀ c ∈ whole, c ∉ ['.', 'e', 'E'] := by
    intro c member foreign
    have never := of_decide_eq_true (List.all_eq_true.mp table c foreign)
    exact never.1 (isWhole.1.2 c member)
  cases plain with
  | unsigned isWhole =>
    refine ⟨?_, digits isWhole⟩
    rintro rfl
    exact absurd isWhole.1.first (by decide)
  | minus isWhole nonzero =>
    refine ⟨by simpa using nonzero, ?_⟩
    rw [List.forall_mem_cons]
    exact ⟨by decide, digits isWhole⟩

theorem IsWhole.size_eq_zero_iff {whole : List Char} (isWhole : IsWhole whole) :
    Nat.ofDigitChars 10 whole 0 = 0 ↔ whole = ['0'] := by
  constructor
  · intro none
    obtain ⟨⟨nonempty, digits⟩, alone⟩ := isWhole
    cases whole with
    | nil => exact absurd rfl nonempty
    | cons c rest =>
      have least := le_ofDigitChars rest (10 * 0 + (c.toNat - '0'.toNat))
      rw [← Nat.ofDigitChars_cons, none] at least
      apply alone
      have digit := digits c List.mem_cons_self
      have above : '0'.toNat ≤ c.toNat := by
        simp only [Char.isDigit, Bool.and_eq_true, decide_eq_true_eq] at digit
        exact digit.1
      have same : c.toNat = '0'.toNat := by omega
      rw [List.head?_cons, Char.toNat_inj.mp same]
  · rintro rfl
    rfl

/-- Without fraction and exponent a number is exact, if 64 bits hold it and it is not minus zero. -/
theorem integer?_whole {sign whole : List Char} (signed : sign = [] ∨ sign = ['-'])
    (isWhole : IsWhole whole) (n : Int) :
    Number.integer? ⟨decide (sign = ['-']), whole, none, none⟩ = some n ↔
      PlainInteger (sign ++ whole) n ∧ -9223372036854775808 ≤ n ∧ n < 18446744073709551616 := by
  have half : Nat.pow 2 63 = 9223372036854775808 := by decide
  have full : Nat.pow 2 64 = 18446744073709551616 := by decide
  have zero := isWhole.size_eq_zero_iff
  rcases signed with rfl | rfl
  · rw [List.nil_append, plainInteger_unsigned_iff isWhole]
    simp only [Number.integer?, Number.significandBound, full]
    constructor
    · intro read
      split at read
      · next negative => simp at negative
      · split at read
        · cases read
          omega
        · cases read
    · rintro ⟨rfl, _, most⟩
      rw [if_neg (by simp), if_pos (by omega)]
  · rw [List.singleton_append, plainInteger_minus_iff isWhole, ne_eq, ← zero]
    simp only [Number.integer?, half, decide_true, ↓reduceIte]
    constructor
    · intro read
      split at read
      · cases read
        omega
      · cases read
    · rintro ⟨⟨nonzero, rfl⟩, least, _⟩
      rw [if_pos (by omega)]

theorem ofText?_integer_iff {parts : NumberText} {n : Int} :
    Number.ofText? parts = some (.integer n) ↔ Number.integer? parts = some n := by
  unfold Number.ofText?
  cases Number.integer? parts with
  | none => simp
  | some m => simp

/-- Every number text is read as one number wherever it stands, and as an integer exactly if it is
the text of one that 64 bits hold. -/
theorem IsNumber.readAs {literal : List Char} (number : IsNumber literal) :
    ∃ number?, Number.ReadAs literal number? ∧ ∀ n, number? = some (.integer n) ↔
      PlainInteger literal n ∧ -9223372036854775808 ≤ n ∧ n < 18446744073709551616 := by
  cases number with
  | @mk sign whole fraction exponent signed isWhole isFraction part =>
    obtain ⟨point, mark, noPoint, noMark, read⟩ :=
      numberText_parts signed isWhole isFraction part .truncated
    refine ⟨Number.ofText? ⟨decide (sign = ['-']), whole, point, mark⟩, ?_, ?_⟩
    · intro rest ends
      rw [Number.read, read rest ends]
      rfl
    · intro n
      rw [ofText?_integer_iff]
      by_cases bare : fraction = [] ∧ exponent = []
      · obtain ⟨rfl, rfl⟩ := bare
        rw [noPoint.mpr rfl, noMark.mpr rfl, List.append_nil, List.append_nil]
        exact integer?_whole signed isWhole n
      · have foreign : ∃ c ∈ fraction ++ exponent, c ∈ ['.', 'e', 'E'] := by
          cases isFraction with
          | point => exact ⟨'.', by simp, by simp⟩
          | none =>
            cases part with
            | none => exact absurd ⟨rfl, rfl⟩ bare
            | @marked mark _ _ marked => exact ⟨mark, by simp, by simp [marked]⟩
        have notInteger : ¬ PlainInteger (sign ++ (whole ++ (fraction ++ exponent))) n := by
          intro plain
          obtain ⟨c, member, never⟩ := foreign
          exact plain.plain.2 c (by simp only [List.mem_append] at member ⊢; tauto) never
        have none : Number.integer? ⟨decide (sign = ['-']), whole, point, mark⟩ = none := by
          unfold Number.integer?
          split
          · next noFraction noExponent =>
            exact absurd ⟨noPoint.mp noFraction, noMark.mp noExponent⟩ bare
          · rfl
        simp [none, notInteger]

/-! Reading a value where a number stands. -/

theorem IsNumber.opens {literal : List Char} (number : IsNumber literal) :
    Opens literal ∧ literal.head? ≠ some 'n' := by
  obtain ⟨c, tail, rfl, starts⟩ := number.starts
  obtain ⟨notBlank, notClosing, notWord⟩ := not_bracket_of_startsNumber starts
  refine ⟨⟨c, tail, rfl, notBlank, notClosing⟩, ?_⟩
  rintro same
  cases same
  simp at notWord

theorem value_of_number {literal space : List Char} (number : IsNumber literal)
    (blanks : Blanks space)
    (levels : Nat) (rest : List Char) :
    Value.read levels (space ++ (literal ++ rest)) = (Number.read.map .number) (literal ++ rest) := by
  obtain ⟨c, tail, rfl, starts⟩ := number.starts
  obtain ⟨notBlank, _, notWord⟩ := not_bracket_of_startsNumber starts
  simp only [List.mem_cons, List.not_mem_nil, or_false, not_or] at notWord
  obtain ⟨notN, notT, notF, notQuote, notBracket, notBrace⟩ := notWord
  simp [Value.read, skipBlanks_to blanks notBlank, starts]

/-- A number is read as a value. One that is too large leaves the value open, as there is none. -/
theorem reads_number {unreadable : Prop} {literal : List Char} {number? : Option Number}
    {value : Value}
    (number : IsNumber literal) (readAs : Number.ReadAs literal number?)
    (same : ∀ n, number? = some n → value = .number n) (lost : number? = none → unreadable)
    (levels : Nat) : Reads unreadable (Value.read levels) value literal := by
  refine ⟨number.opens.1, fun {space rest} blanks ends => ?_⟩
  have read := readAs rest ends
  rw [value_of_number number blanks]
  cases number? with
  | some n =>
    obtain rfl := same n rfl
    exact .read (by simp only [Reader.map, read])
  | none => exact .fault (lost rfl) (by simp only [Reader.map, read]; rfl)

/-! The texts of numbers. -/

theorem isNumber_writeInteger (n : Int) : IsNumber (writeInteger n).toList := by
  have signed : (if n < 0 then ['-'] else []) = [] ∨ (if n < 0 then ['-'] else []) = ['-'] := by
    split <;> simp
  have number := IsNumber.mk signed (isWhole_toDigits n.natAbs) .none .none
  rwa [List.append_nil, List.append_nil, ← writeInteger_toList] at number

theorem reads_writeInteger {unreadable : Prop} {n : Int} (low : -9223372036854775808 ≤ n)
    (high : n < 18446744073709551616) (levels : Nat) :
    Reads unreadable (Value.read levels) (.number (.integer n)) (writeInteger n).toList := by
  have readAs : Number.ReadAs (writeInteger n).toList (some (.integer n)) :=
    fun _ => read_integer low high
  exact reads_number (isNumber_writeInteger n) readAs (by simp) (by simp) levels

theorem integerLiteral_writeInteger {minusAllowed : Bool} {n : Int} (allowed : n < 0 → minusAllowed) :
    IntegerLiteral minusAllowed (writeInteger n).toList n := by
  have size : Nat.ofDigitChars 10 (Nat.toDigits 10 n.natAbs) 0 = n.natAbs :=
    Nat.ofDigitChars_ten_toDigits
  have numeral := (isWhole_toDigits n.natAbs).1
  rw [writeInteger_toList]
  split
  · next negative =>
    have literal : IntegerLiteral minusAllowed ('-' :: Nat.toDigits 10 n.natAbs) _ :=
      .minus (allowed negative) numeral
    rwa [size, show -(n.natAbs : Int) = n by omega] at literal
  · next positive =>
    have literal : IntegerLiteral minusAllowed (Nat.toDigits 10 n.natAbs) _ := .unsigned numeral
    rwa [size, show (n.natAbs : Int) = n by omega] at literal

/-- A finite floating point number is written with a point or an exponent, whatever
its digits are. -/
theorem layout_magnitude_foreign (m : Magnitude) :
    ∃ c ∈ Number.layout.magnitude m, c ∈ ['.', 'e'] := by
  unfold Layout.magnitude
  split
  · exact ⟨'.', by simp [Number.layout], by simp⟩
  · simp only
    split
    · refine ⟨'.', ?_, by simp⟩
      unfold Layout.point
      split
      · simp
      · simp only
        split <;> simp [Number.layout]
    · exact ⟨'e', by simp [Layout.scientific], by simp⟩

theorem mem_signed {negative : Bool} {text : List Char} {c : Char} (member : c ∈ text) :
    c ∈ (Layout.signed negative text).toList := by
  cases negative <;> simp [Layout.signed, member]

theorem text_real_foreign (x : Float) :
    ∃ c ∈ (Number.text (.real x)).toList, c ∈ ['.', 'e', 'N', 'i'] := by
  simp only [Number.text, Layout.text]
  split
  · exact ⟨'N', by decide, by simp⟩
  · exact ⟨'i', mem_signed (by decide), by simp⟩
  · next negative m _ =>
    obtain ⟨c, member, foreign⟩ := layout_magnitude_foreign m
    refine ⟨c, mem_signed member, ?_⟩
    simp only [List.mem_cons, List.not_mem_nil, or_false] at foreign ⊢
    tauto

theorem text_real_not_integer (x : Float) {minusAllowed : Bool} {n : Int} :
    ¬ IntegerLiteral minusAllowed (Number.text (.real x)).toList n := by
  intro literal
  obtain ⟨c, member, foreign⟩ := text_real_foreign x
  have table : ['.', 'e', 'N', 'i'].all fun c => ¬ (c.isDigit ∨ c = '+' ∨ c = '-') := by decide
  have never := of_decide_eq_true (List.all_eq_true.mp table c foreign)
  exact never (literal.characters c member)

end MessageSchema.Json
