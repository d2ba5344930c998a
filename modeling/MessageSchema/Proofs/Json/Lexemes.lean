import MessageSchema.Json.Typed
import MessageSchema.Proofs.Json.Grammar

/-! The readers of blanks, texts and numbers take exactly what the grammar writes, whatever stands
behind it that cannot belong to it. -/
namespace MessageSchema.Json
open Reader Numeral

/-- The rest behind a value: its end, a blank, a comma or a closing bracket. -/
def Ends (rest : List Char) : Prop :=
  ∀ c, rest.head? = some c → c ∈ [' ', '\t', '\n', '\r', ',', ']', '}']

/-- The start of a value or member, which is neither a blank nor a closing bracket. -/
def Opens (written : List Char) : Prop :=
  ∃ c tail, written = c :: tail ∧ isBlank c = false ∧ c ∉ [']', '}']

theorem blanks_nil : Blanks [] := by simp [Blanks]

theorem isBlank_iff {c : Char} : isBlank c = true ↔ c ∈ [' ', '\t', '\n', '\r'] := by
  simp [isBlank]
  tauto

theorem skipBlanks_append {space : List Char} (blanks : Blanks space) (rest : List Char) :
    skipBlanks (space ++ rest) = skipBlanks rest :=
  List.dropWhile_append_of_pos fun c member => isBlank_iff.mpr (blanks c member)

theorem skipBlanks_cons {c : Char} (notBlank : isBlank c = false) (rest : List Char) :
    skipBlanks (c :: rest) = c :: rest := by
  simp [skipBlanks, notBlank]

/-- Blanks are skipped up to the first character that is none. -/
theorem skipBlanks_to {space : List Char} {c : Char} (blanks : Blanks space)
    (notBlank : isBlank c = false)
    (rest : List Char) : skipBlanks (space ++ c :: rest) = c :: rest := by
  rw [skipBlanks_append blanks, skipBlanks_cons notBlank]

theorem skipBlanks_opens {written : List Char} (opens : Opens written) (rest : List Char) :
    skipBlanks (written ++ rest) = written ++ rest := by
  obtain ⟨c, tail, rfl, notBlank, _⟩ := opens
  exact skipBlanks_cons notBlank _

theorem Opens.append {written : List Char} (opens : Opens written) (rest : List Char) :
    Opens (written ++ rest) := by
  obtain ⟨c, tail, rfl, plain⟩ := opens
  exact ⟨c, tail ++ rest, rfl, plain⟩

theorem Opens.length_pos {written : List Char} (opens : Opens written) : 0 < written.length := by
  obtain ⟨c, tail, rfl, _⟩ := opens
  exact Nat.succ_pos _

theorem ends_blanks {space rest : List Char} (blanks : Blanks space) (ends : Ends rest) :
    Ends (space ++ rest) := by
  cases space with
  | nil => exact ends
  | cons b space =>
    intro c first
    cases first
    have := blanks b List.mem_cons_self
    simp only [List.mem_cons, List.not_mem_nil, or_false] at this ⊢
    tauto

theorem ends_cons {c : Char} (closing : c ∈ [',', ']', '}']) (rest : List Char) :
    Ends (c :: rest) := by
  intro d first
  cases first
  simp only [List.mem_cons, List.not_mem_nil, or_false] at closing ⊢
  tauto

theorem letters_append (word rest : List Char) : letters word (word ++ rest) = .ok ((), rest) := by
  induction word with
  | nil => rfl
  | cons c others ih => simpa [letters] using ih

/-! Texts. -/

theorem hexDigit?_eq {c : Char} {n : Nat} (digit : HexDigit c n) : hexDigit? c = some n := by
  have table (digits : String) (sixteen : digits.toList.length = 16)
      (each : ∀ k : Fin 16, digits.toList[k.val]?.bind hexDigit? = some k.val)
      (found : digits.toList[n]? = some c) : hexDigit? c = some n := by
    have bound := (List.getElem?_eq_some_iff.mp found).1
    have value := each ⟨n, by omega⟩
    rwa [found] at value
  rcases digit with lower | upper
  · exact table _ (by decide) (by decide) lower
  · exact table _ (by decide) (by decide) upper

theorem fourHexDigits_append {code : List Char} {n : Nat} (four : FourDigits code n)
    (rest : List Char) : fourHexDigits (code ++ rest) = .ok (n, rest) := by
  cases four with
  | mk first second third fourth =>
    simp only [List.cons_append, List.nil_append, fourHexDigits, hexDigit?_eq first,
      hexDigit?_eq second, hexDigit?_eq third, hexDigit?_eq fourth]
    congr 2
    omega

theorem escape_short {letter c : Char} (member : (letter, c) ∈ shortEscapes) (rest : List Char) :
    escape (letter :: rest) = .ok (c, rest) ∧ skippedEscape (letter :: rest) = .ok ((), rest) := by
  simp only [shortEscapes, List.mem_cons, Prod.mk.injEq, List.not_mem_nil, or_false] at member
  rcases member with ⟨rfl, rfl⟩ | ⟨rfl, rfl⟩ | ⟨rfl, rfl⟩ | ⟨rfl, rfl⟩ | ⟨rfl, rfl⟩ | ⟨rfl, rfl⟩ |
    ⟨rfl, rfl⟩ | ⟨rfl, rfl⟩
  all_goals exact ⟨rfl, rfl⟩

theorem not_surrogate (c : Char) : c.toNat < 0xD800 ∨ 0xDFFF < c.toNat :=
  c.valid.imp_right And.left

theorem unicodeEscape_unit {c : Char} {code : List Char} (four : FourDigits code c.toNat)
    (rest : List Char) : unicodeEscape (code ++ rest) = .ok (c, rest) := by
  have trailing : isTrailingSurrogate c.toNat = false := by
    have := not_surrogate c
    simp only [isTrailingSurrogate, Bool.and_eq_false_iff, decide_eq_false_iff_not]
    omega
  have leading : isLeadingSurrogate c.toNat = false := by
    have := not_surrogate c
    simp only [isLeadingSurrogate, Bool.and_eq_false_iff, decide_eq_false_iff_not]
    omega
  simp [unicodeEscape, fourHexDigits_append four, trailing, leading, bind, Except.bind]

theorem unicodeEscape_pair {c : Char} {leading trailing : List Char} {high low : Nat}
    (first : FourDigits leading (0xD800 + high)) (second : FourDigits trailing (0xDC00 + low))
    (highBound : high < 0x400) (lowBound : low < 0x400)
    (code : c.toNat = 0x10000 + 0x400 * high + low) (rest : List Char) :
    unicodeEscape (leading ++ '\\' :: 'u' :: (trailing ++ rest)) = .ok (c, rest) := by
  have notTrailing : isTrailingSurrogate (0xD800 + high) = false := by
    simp only [isTrailingSurrogate, Bool.and_eq_false_iff, decide_eq_false_iff_not]
    omega
  have isLeading : isLeadingSurrogate (0xD800 + high) = true := by
    simp only [isLeadingSurrogate, Bool.and_eq_true, decide_eq_true_eq]
    omega
  have isTrailing : isTrailingSurrogate (0xDC00 + low) = true := by
    simp only [isTrailingSurrogate, Bool.and_eq_true, decide_eq_true_eq]
    omega
  have same : Char.ofNat (0x10000 + high * 0x400 + low) = c := by
    have value : 0x10000 + high * 0x400 + low = c.toNat := by omega
    rw [value, Char.ofNat_toNat]
  simp [unicodeEscape, fourHexDigits_append first, fourHexDigits_append second, notTrailing, isLeading,
    isTrailing, trailingSurrogate, bind, Except.bind, same]

theorem textRound_spelling {c : Char} {spelling : List Char} (spelled : Spelling c spelling)
    (before rest : List Char) :
    textRound before (spelling ++ rest) = .ok (.again (c :: before), rest) := by
  cases spelled with
  | plain printable notQuote notBackslash =>
    have notControl : ¬ c < ' ' := Char.not_lt.mpr printable
    simp [textRound, notControl]
  | short member => simp [textRound, Reader.map, (escape_short member rest).1]
  | unit four => simp [textRound, Reader.map, escape, unicodeEscape_unit four]
  | pair first second highBound lowBound code =>
    have pair := unicodeEscape_pair first second highBound lowBound code rest
    simp [textRound, Reader.map, escape, pair]

theorem Spelling.length_pos {c : Char} {spelling : List Char} (spelled : Spelling c spelling) :
    0 < spelling.length := by
  cases spelled <;> simp

theorem textRounds_spelled {characters body : List Char} (spelled : Spelled characters body)
    (before rest : List Char) :
    loop textRound before (body ++ '"' :: rest) =
      .ok (String.ofList (before.reverse ++ characters), rest) := by
  induction spelled generalizing before with
  | nil => exact loop_done (by simp [textRound])
  | @cons c others spelling body first _ ih =>
    have step := textRound_spelling first before (body ++ '"' :: rest)
    rw [List.append_assoc]
    refine loop_again step ?_ ?_
    · have := first.length_pos
      simp only [List.length_append]
      omega
    · rw [ih]
      simp

theorem textBody_spelled {s : String} {body : List Char} (spelled : Spelled s.toList body)
    (rest : List Char) : textBody (body ++ '"' :: rest) = .ok (s, rest) := by
  simpa [textBody] using textRounds_spelled spelled [] rest

theorem skippedTextRound_piece {piece : List Char} (wellFormed : TextPiece piece) (rest : List Char) :
    skippedTextRound () (piece ++ rest) = .ok (.again (), rest) := by
  cases wellFormed with
  | plain printable notQuote notBackslash =>
    have notControl : ¬ _ < ' ' := Char.not_lt.mpr printable
    simp [skippedTextRound, notControl]
  | short member => simp [skippedTextRound, Reader.map, (escape_short member rest).2]
  | unit four => simp [skippedTextRound, Reader.map, skippedEscape, fourHexDigits_append four]

theorem TextPiece.length_pos {piece : List Char} (wellFormed : TextPiece piece) :
    0 < piece.length := by
  cases wellFormed <;> simp

theorem skippedTextBody_pieces {pieces : List (List Char)} (each : ∀ piece ∈ pieces, TextPiece piece)
    (rest : List Char) : skippedTextBody (pieces.flatten ++ '"' :: rest) = .ok ((), rest) := by
  unfold skippedTextBody
  induction pieces with
  | nil => exact loop_done (by simp [skippedTextRound])
  | cons piece others ih =>
    obtain ⟨first, later⟩ := List.forall_mem_cons.mp each
    rw [List.flatten_cons, List.append_assoc]
    refine loop_again (skippedTextRound_piece first _) ?_ (ih later)
    have := first.length_pos
    simp only [List.length_append]
    omega

/-! Numbers. What stands behind one belongs to none of its parts. -/

theorem Ends.foreign {rest : List Char} (ends : Ends rest) {c : Char} (first : rest.head? = some c) :
    ¬ c.isDigit ∧ c ≠ '.' ∧ ¬ (c = 'e' ∨ c = 'E') := by
  have table : [' ', '\t', '\n', '\r', ',', ']', '}'].all fun d =>
      ¬ d.isDigit ∧ d ≠ '.' ∧ ¬ (d = 'e' ∨ d = 'E') := by decide
  exact of_decide_eq_true (List.all_eq_true.mp table c (ends c first))

theorem digits_append {decimals rest : List Char} (numeral : IsNumeral decimals)
    (stop : ∀ c, rest.head? = some c → ¬ c.isDigit) (atEnd : Fault) :
    digits atEnd (decimals ++ rest) = .ok (decimals, rest) := by
  obtain ⟨taken, left⟩ := Prod.mk.inj (splitDigits_append numeral.2 stop)
  cases decimals with
  | nil => exact absurd rfl numeral.1
  | cons c others =>
    rw [List.cons_append] at taken left ⊢
    simp only [digits, numeral.first, ↓reduceIte, taken, left]

theorem wholeDigits_append {whole rest : List Char} (isWhole : IsWhole whole)
    (stop : ∀ c, rest.head? = some c → ¬ c.isDigit) (atEnd : Fault) :
    wholeDigits atEnd (whole ++ rest) = .ok (whole, rest) := by
  have alone : ¬ (whole.head? = some '0' ∧ whole.length ≠ 1) := by
    rintro ⟨zero, more⟩
    exact more (by rw [isWhole.2 zero]; rfl)
  simp [wholeDigits, digits_append isWhole.1 stop, alone, bind, Except.bind]

theorem IsFraction.not_digit {fraction rest : List Char} (isFraction : IsFraction fraction)
    (stop : ∀ c, rest.head? = some c → ¬ c.isDigit) {c : Char}
    (first : (fraction ++ rest).head? = some c) : ¬ c.isDigit := by
  cases isFraction with
  | none => exact stop c first
  | point =>
    cases first
    decide

theorem fractionPart_pointless {rest : List Char} (pointless : ∀ c, rest.head? = some c → c ≠ '.')
    (atEnd : Fault) : fractionPart atEnd rest = .ok (none, rest) := by
  unfold fractionPart
  split
  · exact absurd rfl (pointless _ rfl)
  · rfl

theorem fractionPart_append {fraction : List Char} (isFraction : IsFraction fraction)
    (atEnd : Fault) :
    ∃ read, (read = none ↔ fraction = []) ∧
      ∀ rest, (∀ c, rest.head? = some c → ¬ c.isDigit ∧ c ≠ '.') →
        fractionPart atEnd (fraction ++ rest) = .ok (read, rest) := by
  cases isFraction with
  | none =>
    exact ⟨none, by simp, fun rest stop =>
      fractionPart_pointless (fun c first => (stop c first).2) atEnd⟩
  | @point decimals numeral =>
    refine ⟨some decimals, by simp, fun rest stop => ?_⟩
    have read := digits_append numeral (fun c first => (stop c first).1) atEnd
    simp [fractionPart, Reader.map, read]

theorem exponentPart_ends {rest : List Char} (ends : Ends rest) (atEnd : Fault) :
    exponentPart atEnd rest = .ok (none, rest) := by
  cases rest with
  | nil => rfl
  | cons c tail => simp [exponentPart, (ends.foreign rfl).2.2]

theorem exponentPart_append {exponent : List Char} (part : ExponentPart exponent) (atEnd : Fault) :
    ∃ read, (read = none ↔ exponent = []) ∧
      ∀ rest, Ends rest → exponentPart atEnd (exponent ++ rest) = .ok (read, rest) := by
  cases part with
  | none => exact ⟨none, by simp, fun rest ends => exponentPart_ends ends atEnd⟩
  | @marked mark sign size marked signed numeral nonempty =>
    refine ⟨some (decide (sign = ['-']), size), by simp, fun rest ends => ?_⟩
    have cut : exponentSign (sign ++ (size ++ rest)) = (decide (sign = ['-']), size ++ rest) :=
      splitSign_append signed (numeral.unsigned nonempty)
    have read := digits_append ⟨nonempty, numeral⟩ (fun c first => (ends.foreign first).1) atEnd
    simp [exponentPart, marked, cut, Reader.map, read]

/-- The parts of a number text are read one by one. -/
theorem numberText_append {sign whole after behind rest : List Char} {atEnd : Fault}
    {fraction : Option (List Char)} {exponent : Option (Bool × List Char)}
    (signed : sign = [] ∨ sign = ['-']) (isWhole : IsWhole whole)
    (stop : ∀ c, after.head? = some c → ¬ c.isDigit)
    (point : fractionPart atEnd after = .ok (fraction, behind))
    (mark : exponentPart atEnd behind = .ok (exponent, rest)) :
    numberText atEnd (sign ++ (whole ++ after)) =
      .ok (⟨decide (sign = ['-']), whole, fraction, exponent⟩, rest) := by
  have read := wholeDigits_append isWhole stop atEnd
  rcases signed with rfl | rfl
  · have unsigned : ∀ tail, whole ++ after ≠ '-' :: tail := by
      intro tail same
      have first : (whole ++ after).head? = some '-' := by rw [same]; rfl
      exact (Digits.unsigned isWhole.1.2 isWhole.1.1 '-' first).2 rfl
    simp [numberText, read, point, mark, bind, Except.bind]
  · simp [numberText, read, point, mark, bind, Except.bind]

/-- What the parts of a number text are does not depend on what stands behind it. -/
theorem numberText_parts {sign whole fraction exponent : List Char}
    (signed : sign = [] ∨ sign = ['-'])
    (isWhole : IsWhole whole) (isFraction : IsFraction fraction) (part : ExponentPart exponent)
    (atEnd : Fault) :
    ∃ point mark, (point = none ↔ fraction = []) ∧ (mark = none ↔ exponent = []) ∧
      ∀ rest, Ends rest → numberText atEnd (sign ++ (whole ++ (fraction ++ exponent)) ++ rest) =
        .ok (⟨decide (sign = ['-']), whole, point, mark⟩, rest) := by
  obtain ⟨point, noPoint, pointRead⟩ := fractionPart_append isFraction atEnd
  obtain ⟨mark, noMark, markRead⟩ := exponentPart_append part atEnd
  refine ⟨point, mark, noPoint, noMark, fun rest ends => ?_⟩
  have behind : ∀ c, (exponent ++ rest).head? = some c → ¬ c.isDigit ∧ c ≠ '.' := by
    intro c first
    cases part with
    | none => exact ⟨(ends.foreign first).1, (ends.foreign first).2.1⟩
    | marked marked =>
      cases first
      rcases marked with rfl | rfl <;> decide
  have read := numberText_append signed isWhole
    (fun c first => isFraction.not_digit (fun d next => (behind d next).1) first)
    (pointRead _ behind) (markRead rest ends)
  simpa only [List.append_assoc] using read

theorem numberText_number {written rest : List Char} (number : IsNumber written) (ends : Ends rest)
    (atEnd : Fault) : ∃ read, numberText atEnd (written ++ rest) = .ok (read, rest) := by
  cases number with
  | mk signed isWhole isFraction part =>
    obtain ⟨point, mark, _, _, read⟩ := numberText_parts signed isWhole isFraction part atEnd
    exact ⟨_, read rest ends⟩

/-! Integers. -/

theorem toDigits_head {n : Nat} (positive : 0 < n) : (Nat.toDigits 10 n).head? ≠ some '0' := by
  induction n using Nat.strongRecOn with
  | ind n ih =>
    rw [Nat.toDigits_eq_if (by decide)]
    split
    · next small =>
      have table : ∀ d : Fin 10, 0 < d.val → [Nat.digitChar d.val].head? ≠ some '0' := by decide
      exact table ⟨n, small⟩ positive
    · next large =>
      have shorter := ih (n / 10) (by omega) (by omega)
      rwa [List.head?_append_of_ne_nil _ Nat.toDigits_ne_nil]

theorem isWhole_toDigits (n : Nat) : IsWhole (Nat.toDigits 10 n) := by
  constructor
  · exact ⟨Nat.toDigits_ne_nil, fun c => Nat.isDigit_of_mem_toDigits (by decide) (by decide)⟩
  · intro zero
    rcases Nat.eq_zero_or_pos n with rfl | positive
    · rfl
    · exact absurd zero (toDigits_head positive)

theorem writeInteger_toList (n : Int) :
    (writeInteger n).toList = (if n < 0 then ['-'] else []) ++ Nat.toDigits 10 n.natAbs := by
  unfold writeInteger
  split <;> simp

theorem numberText_integer (n : Int) {rest : List Char} (ends : Ends rest) (atEnd : Fault) :
    numberText atEnd ((writeInteger n).toList ++ rest) =
      .ok (⟨n < 0, Nat.toDigits 10 n.natAbs, none, none⟩, rest) := by
  have point := fractionPart_pointless (fun c first => (ends.foreign first).2.1) atEnd
  have mark := exponentPart_ends ends atEnd
  have signed : (if n < 0 then ['-'] else []) = [] ∨ (if n < 0 then ['-'] else []) = ['-'] := by
    split <;> simp
  have read := numberText_append signed (isWhole_toDigits n.natAbs)
    (fun c first => (ends.foreign first).1) point mark
  have sign : decide ((if n < 0 then ['-'] else []) = ['-']) = decide (n < 0) := by
    split <;> simp [*]
  rw [writeInteger_toList, List.append_assoc, read, sign]

/-- An integer that 64 bits hold, with or without a sign, is exact. -/
theorem read_integer {n : Int} (low : -9223372036854775808 ≤ n) (high : n < 18446744073709551616)
    {rest : List Char} (ends : Ends rest) :
    Number.read ((writeInteger n).toList ++ rest) = .ok (.integer n, rest) := by
  have size : Nat.ofDigitChars 10 (Nat.toDigits 10 n.natAbs) 0 = n.natAbs :=
    Nat.ofDigitChars_ten_toDigits
  have half : Nat.pow 2 63 = 9223372036854775808 := by decide
  have whole : Nat.pow 2 64 = 18446744073709551616 := by decide
  have exact : Number.integer? ⟨n < 0, Nat.toDigits 10 n.natAbs, none, none⟩ = some n := by
    simp only [Number.integer?, size, Number.significandBound, half, whole, decide_eq_true_eq]
    split
    · next negative =>
      rw [if_pos (by omega)]
      congr 1
      omega
    · next positive =>
      rw [if_pos (by omega)]
      congr 1
      omega
  simp [Number.read, numberText_integer n ends, Number.ofText?, exact, bind, Except.bind]

end MessageSchema.Json
