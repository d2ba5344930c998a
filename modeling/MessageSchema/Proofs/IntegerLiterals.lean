import Mathlib.Data.List.Infix
import MessageSchema.Numeral.Integer

/-! Integer literals by their grammar and value. The reader watches the range digit by digit; since
every further digit leads away from zero, that is the same as checking the value at the end. -/
namespace MessageSchema.Numeral

/-- One or more decimal digits. -/
def IsNumeral (digits : List Char) : Prop :=
  digits ≠ [] ∧ ∀ c ∈ digits, c.isDigit

/-- A text and the integer that it denotes. A plus sign is always allowed. -/
inductive IntegerLiteral (minusAllowed : Bool) : List Char → Int → Prop where
  | unsigned : IsNumeral digits →
      IntegerLiteral minusAllowed digits (Nat.ofDigitChars 10 digits 0)
  | plus : IsNumeral digits →
      IntegerLiteral minusAllowed ('+' :: digits) (Nat.ofDigitChars 10 digits 0)
  | minus : minusAllowed → IsNumeral digits →
      IntegerLiteral minusAllowed ('-' :: digits) (-Nat.ofDigitChars 10 digits 0)

/-- The integer of a sign and a size. -/
def signedSize (negative : Bool) (size : Nat) : Int :=
  if negative then -size else size

theorem le_ofDigitChars (digits : List Char) (size : Nat) :
    size ≤ Nat.ofDigitChars 10 digits size := by
  induction digits generalizing size with
  | nil => simp
  | cons c rest ih =>
    rw [Nat.ofDigitChars_cons]
    exact Nat.le_trans (by omega) (ih _)

theorem digit?_eq (c : Char) : digit? c = if c.isDigit then some (c.toNat - '0'.toNat) else none :=
  rfl

theorem extend_digit {range : Range} {negative : Bool} {size : Nat} {c : Char} {rest : List Char}
    (digit : c.isDigit) :
    extend range negative (signedSize negative size) (c :: rest) =
      if signedSize negative (10 * size + (c.toNat - '0'.toNat)) < range.low then .error .tooSmall
      else if range.high < signedSize negative (10 * size + (c.toNat - '0'.toNat)) then
        .error .tooLarge
      else extend range negative (signedSize negative (10 * size + (c.toNat - '0'.toNat))) rest := by
  have next : (if negative then signedSize negative size * 10 - (c.toNat - '0'.toNat : Nat)
      else signedSize negative size * 10 + (c.toNat - '0'.toNat : Nat)) =
        signedSize negative (10 * size + (c.toNat - '0'.toNat)) := by
    cases negative <;> simp only [signedSize, ↓reduceIte, Bool.false_eq_true] <;> omega
  simp only [extend, digit?_eq, digit, ↓reduceIte, next]

/-- Leaving the range on the way is leaving it at the end. -/
theorem extend_ok_iff {range : Range} (zero : range.low ≤ 0 ∧ 0 ≤ range.high) {negative : Bool}
    (digits : List Char) {size : Nat} (n : Int) (inside : range.low ≤ signedSize negative size ∧
      signedSize negative size ≤ range.high) :
    extend range negative (signedSize negative size) digits = .ok n ↔
      (∀ c ∈ digits, c.isDigit) ∧ n = signedSize negative (Nat.ofDigitChars 10 digits size) ∧
        range.low ≤ n ∧ n ≤ range.high := by
  induction digits generalizing size with
  | nil =>
    simp only [extend, Except.ok.injEq, Nat.ofDigitChars_nil]
    constructor
    · rintro rfl
      exact ⟨by simp, rfl, inside⟩
    · rintro ⟨_, rfl, _⟩
      rfl
  | cons c rest ih =>
    by_cases digit : c.isDigit
    · -- What is too far from zero after this digit stays so, as the rest only adds to the size.
      have grows := le_ofDigitChars rest (10 * size + (c.toNat - '0'.toNat))
      rw [extend_digit digit, Nat.ofDigitChars_cons]
      simp only [List.forall_mem_cons, digit, true_and]
      split
      · next low =>
        simp only [reduceCtorEq, false_iff, not_and]
        rintro _ rfl above
        cases negative <;> simp only [signedSize, ↓reduceIte, Bool.false_eq_true] at * <;> omega
      · split
        · next high =>
          simp only [reduceCtorEq, false_iff, not_and]
          rintro _ rfl _
          cases negative <;> simp only [signedSize, ↓reduceIte, Bool.false_eq_true] at * <;> omega
        · next low high => exact ih ⟨by omega, by omega⟩
    · simp [extend, digit?_eq, digit]

theorem magnitude_ok_iff {range : Range} (zero : range.low ≤ 0 ∧ 0 ≤ range.high) {negative : Bool}
    {digits : List Char} {n : Int} :
    magnitude range negative digits = .ok n ↔
      IsNumeral digits ∧ n = signedSize negative (Nat.ofDigitChars 10 digits 0) ∧
        range.low ≤ n ∧ n ≤ range.high := by
  cases digits with
  | nil => simp [magnitude, IsNumeral]
  | cons c rest =>
    have start : signedSize negative 0 = 0 := by cases negative <;> rfl
    have inside : range.low ≤ signedSize negative 0 ∧ signedSize negative 0 ≤ range.high := by
      rw [start]
      exact zero
    have read := extend_ok_iff zero (c :: rest) n inside
    rw [start] at read
    simpa [magnitude, IsNumeral] using read

theorem IsNumeral.first {c : Char} {rest : List Char} (numeral : IsNumeral (c :: rest)) :
    c.isDigit :=
  numeral.2 c List.mem_cons_self

theorem integerLiteral_plus_iff {digits : List Char} {n : Int} :
    IntegerLiteral minusAllowed ('+' :: digits) n ↔
      IsNumeral digits ∧ n = signedSize false (Nat.ofDigitChars 10 digits 0) := by
  constructor
  · intro literal
    cases literal with
    | unsigned numeral => exact absurd numeral.first (by decide)
    | plus numeral => exact ⟨numeral, rfl⟩
  · rintro ⟨numeral, rfl⟩
    exact .plus numeral

theorem integerLiteral_minus_iff {digits : List Char} {n : Int} :
    IntegerLiteral minusAllowed ('-' :: digits) n ↔
      minusAllowed ∧ IsNumeral digits ∧ n = signedSize true (Nat.ofDigitChars 10 digits 0) := by
  constructor
  · intro literal
    cases literal with
    | unsigned numeral => exact absurd numeral.first (by decide)
    | minus allowed numeral => exact ⟨allowed, numeral, rfl⟩
  · rintro ⟨allowed, numeral, rfl⟩
    exact .minus allowed numeral

theorem integerLiteral_unsigned_iff {digits : List Char} {n : Int}
    (notPlus : ∀ rest, digits ≠ '+' :: rest) (notMinus : ∀ rest, digits ≠ '-' :: rest) :
    IntegerLiteral minusAllowed digits n ↔
      IsNumeral digits ∧ n = signedSize false (Nat.ofDigitChars 10 digits 0) := by
  constructor
  · intro literal
    cases literal with
    | unsigned numeral => exact ⟨numeral, rfl⟩
    | plus => exact absurd rfl (notPlus _)
    | minus => exact absurd rfl (notMinus _)
  · rintro ⟨numeral, rfl⟩
    exact .unsigned numeral

/-- A text is a literal of one integer at most. -/
theorem IntegerLiteral.unique {allowed permitted : Bool} {text : List Char} {m n : Int}
    (first : IntegerLiteral allowed text m) (second : IntegerLiteral permitted text n) : m = n := by
  cases first with
  | unsigned numeral =>
    cases second with
    | unsigned => rfl
    | plus => exact absurd numeral.first (by decide)
    | minus => exact absurd numeral.first (by decide)
  | plus =>
    obtain ⟨_, same⟩ := integerLiteral_plus_iff.mp second
    exact same.symm
  | minus =>
    obtain ⟨_, _, same⟩ := integerLiteral_minus_iff.mp second
    exact same.symm

theorem IntegerLiteral.characters {minusAllowed : Bool} {text : List Char} {n : Int}
    (literal : IntegerLiteral minusAllowed text n) : ∀ c ∈ text, c.isDigit ∨ c = '+' ∨ c = '-' := by
  have digits {digits : List Char} (numeral : IsNumeral digits) :
      ∀ c ∈ digits, c.isDigit ∨ c = '+' ∨ c = '-' := fun c member => .inl (numeral.2 c member)
  cases literal with
  | unsigned numeral => exact digits numeral
  | plus numeral => exact List.forall_mem_cons.mpr ⟨by simp, digits numeral⟩
  | minus _ numeral => exact List.forall_mem_cons.mpr ⟨by simp, digits numeral⟩

/-- Reading succeeds on the literals whose value lies in the range, and on nothing else. -/
theorem readInteger_ok_iff {range : Range} (zero : range.low ≤ 0 ∧ 0 ≤ range.high) {text : String}
    {n : Int} :
    readInteger range text = .ok n ↔
      IntegerLiteral range.hasNegative text.toList n ∧ range.low ≤ n ∧ n ≤ range.high := by
  unfold readInteger
  split
  · next empty =>
    rw [empty, integerLiteral_unsigned_iff (by simp) (by simp)]
    simp [IsNumeral]
  · next digits written =>
    rw [magnitude_ok_iff zero, written, integerLiteral_plus_iff, and_assoc]
  · next digits written =>
    rw [written, integerLiteral_minus_iff]
    split
    · next allowed => rw [magnitude_ok_iff zero, eq_true allowed, true_and, and_assoc]
    · next refused => simp [refused]
  · next digits _ notPlus notMinus =>
    rw [magnitude_ok_iff zero, integerLiteral_unsigned_iff notPlus notMinus, and_assoc]

end MessageSchema.Numeral
