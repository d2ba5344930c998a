import MessageSchema.Proofs.Json.Lexemes
import MessageSchema.Proofs.Results

/-! Every well-formed value is skipped as a whole. Inside brackets, what is skipped next depends on
the open ones, so the statements go on to the end of the outermost value. -/
namespace MessageSchema.Json
open Reader Numeral

/-- From this state the text is skipped up to `final`. -/
def Skips (state : Awaiting) (text final : List Char) : Prop :=
  loop skipRound state text = .ok ((), final)

/-- Behind a complete value the frames around it are skipped up to `final`. -/
def Closes : List Frame → List Char → List Char → Prop
  | [], rest, final => final = rest
  | frame :: outer, rest, final => Skips (.inside false frame outer) rest final

theorem Closes.skips {outer : List Frame} {state : Awaiting} {text rest final : List Char}
    (closes : Closes outer rest final) (step : skipRound state text = .ok (afterValue outer, rest))
    (shorter : rest.length < text.length) : Skips state text final := by
  cases outer with
  | nil =>
    cases closes
    exact loop_done step
  | cons frame others => exact loop_again step shorter closes

theorem numeral_starts {whole : List Char} (numeral : IsNumeral whole) (rest : List Char) :
    ∃ c tail, whole ++ rest = c :: tail ∧ c.isDigit := by
  cases whole with
  | nil => exact absurd rfl numeral.1
  | cons c others => exact ⟨c, others ++ rest, rfl, numeral.first⟩

theorem not_bracket_of_startsNumber {c : Char} (starts : startsNumber c = true) :
    isBlank c = false ∧ c ∉ [']', '}'] ∧ c ∉ ['n', 't', 'f', '"', '[', '{'] := by
  have foreign : [' ', '\n', '\t', '\r', ']', '}', 'n', 't', 'f', '"', '[', '{'].all
      fun d => startsNumber d = false := by decide
  have other : c ∉ [' ', '\n', '\t', '\r', ']', '}', 'n', 't', 'f', '"', '[', '{'] := by
    intro member
    have never := of_decide_eq_true (List.all_eq_true.mp foreign c member)
    rw [never] at starts
    cases starts
  simp only [List.mem_cons, List.not_mem_nil, or_false, not_or] at other ⊢
  simp [isBlank, other]

theorem IsNumber.starts {written : List Char} (number : IsNumber written) :
    ∃ c tail, written = c :: tail ∧ startsNumber c = true := by
  cases number with
  | @mk sign whole fraction exponent signed isWhole =>
    rcases signed with rfl | rfl
    · obtain ⟨c, tail, start, digit⟩ := numeral_starts isWhole.1 (fraction ++ exponent)
      exact ⟨c, tail, start, by simp [startsNumber, digit]⟩
    · exact ⟨'-', _, rfl, rfl⟩

theorem IsText.opens {written : List Char} (isText : IsText written) : Opens written := by
  obtain ⟨pieces, _, rfl⟩ := isText
  exact ⟨'"', _, rfl, rfl, by decide⟩

theorem IsValue.opens {written : List Char} (value : IsValue written) : Opens written := by
  cases value with
  | null => exact ⟨'n', _, rfl, rfl, by decide⟩
  | true => exact ⟨'t', _, rfl, rfl, by decide⟩
  | false => exact ⟨'f', _, rfl, rfl, by decide⟩
  | number number =>
    obtain ⟨c, tail, start, starts⟩ := number.starts
    obtain ⟨notBlank, notClosing, _⟩ := not_bracket_of_startsNumber starts
    exact ⟨c, tail, start, notBlank, notClosing⟩
  | text isText => exact isText.opens
  | array isArray =>
    obtain ⟨body, _, rfl⟩ := isArray
    exact ⟨'[', _, rfl, rfl, by decide⟩
  | object isObject =>
    obtain ⟨elements, body, _, _, rfl⟩ := isObject
    exact ⟨'{', _, rfl, rfl, by decide⟩

theorem Further.ends {elements : List (List Char)} {body : List Char}
    (further : Further elements body)
    {close : Char} (closing : close ∈ [',', ']', '}']) (rest : List Char) :
    Ends (body ++ close :: rest) := by
  cases further with
  | done blanks => exact ends_blanks blanks (ends_cons closing rest)
  | more blanks =>
    rw [List.append_assoc]
    exact ends_blanks blanks (ends_cons (by decide) _)

/-! The rounds between two brackets. -/

theorem closing_close (frame : Frame) : frame.close ∈ [',', ']', '}'] := by
  cases frame <;> decide

theorem isBlank_close (frame : Frame) : isBlank frame.close = false := by
  cases frame <;> rfl

theorem Opens.ne_close {written : List Char} (opens : Opens written) (frame : Frame) :
    ∃ c tail, written = c :: tail ∧ isBlank c = false ∧ c ≠ frame.close := by
  obtain ⟨c, tail, start, notBlank, notClosing⟩ := opens
  refine ⟨c, tail, start, notBlank, ?_⟩
  rintro rfl
  cases frame <;> simp [Frame.close] at notClosing

theorem skipRound_close {space : List Char} (blanks : Blanks space) (fresh : Bool) (frame : Frame)
    (outer : List Frame) (rest : List Char) :
    skipRound (.inside fresh frame outer) (space ++ frame.close :: rest) =
      .ok (afterValue outer, rest) := by
  simp [skipRound, skipBlanks_to blanks (isBlank_close frame)]

theorem skipRound_first {space element : List Char} (blanks : Blanks space) (opens : Opens element)
    (frame : Frame) (outer : List Frame) (rest : List Char) :
    skipRound (.inside true frame outer) (space ++ (element ++ rest)) =
      skipItem frame outer (element ++ rest) := by
  obtain ⟨c, tail, rfl, notBlank, notClose⟩ := opens.ne_close frame
  simp [skipRound, skipBlanks_to blanks notBlank, notClose]

theorem skipRound_comma {space : List Char} (blanks : Blanks space) (frame : Frame)
    (outer : List Frame) (rest : List Char) :
    skipRound (.inside false frame outer) (space ++ ',' :: rest) = skipItem frame outer rest := by
  have notClose : ',' ≠ frame.close := by cases frame <;> decide
  simp [skipRound, skipBlanks_to (c := ',') blanks rfl, notClose]

/-- An element of a frame is skipped from any state in which it is what comes next. -/
def SkipsElement (frame : Frame) (outer : List Frame) (element : List Char) : Prop :=
  ∀ state text space rest final, Blanks space → Ends rest →
    skipRound state text = skipItem frame outer (space ++ (element ++ rest)) →
    (space ++ (element ++ rest)).length ≤ text.length →
    Skips (.inside false frame outer) rest final → Skips state text final

theorem skips_further {frame : Frame} {outer : List Frame} {elements : List (List Char)}
    {body rest final : List Char} (further : Further elements body)
    (each : ∀ element ∈ elements, SkipsElement frame outer element)
    (closes : Closes outer rest final) :
    Skips (.inside false frame outer) (body ++ frame.close :: rest) final := by
  induction further with
  | done blanks =>
    refine closes.skips (skipRound_close blanks false frame outer rest) ?_
    simp only [List.length_append, List.length_cons]
    omega
  | @more before after element body others blanks spaced further ih =>
    obtain ⟨skipsFirst, later⟩ := List.forall_mem_cons.mp each
    have step := skipRound_comma blanks frame outer
      (after ++ (element ++ (body ++ frame.close :: rest)))
    have joined : before ++ ',' :: (after ++ (element ++ body)) ++ frame.close :: rest =
        before ++ ',' :: (after ++ (element ++ (body ++ frame.close :: rest))) := by simp
    rw [joined]
    have ends := further.ends (closing_close frame) rest
    refine skipsFirst _ _ after _ _ spaced ends step ?_ (ih later)
    simp only [List.length_append, List.length_cons]
    omega

theorem skips_elements {frame : Frame} {outer : List Frame} {elements : List (List Char)}
    {body rest final : List Char} (all : Elements elements body)
    (opens : ∀ element ∈ elements, Opens element)
    (each : ∀ element ∈ elements, SkipsElement frame outer element)
    (closes : Closes outer rest final) :
    Skips (.inside true frame outer) (body ++ frame.close :: rest) final := by
  cases all with
  | none blanks =>
    refine closes.skips (skipRound_close blanks true frame outer rest) ?_
    simp only [List.length_append, List.length_cons]
    omega
  | @some space element body others blanks further =>
    obtain ⟨opensFirst, _⟩ := List.forall_mem_cons.mp opens
    obtain ⟨skipsFirst, later⟩ := List.forall_mem_cons.mp each
    have step := skipRound_first blanks opensFirst frame outer (body ++ frame.close :: rest)
    have remaining := skips_further further later closes
    rw [List.append_assoc, List.append_assoc]
    have ends := further.ends (closing_close frame) rest
    refine skipsFirst _ _ [] _ _ blanks_nil ends step ?_ remaining
    simp only [List.length_append, List.nil_append]
    omega

/-! Values. -/

/-- The value is skipped inside any frames, behind any blanks. -/
def SkipsValue (written : List Char) : Prop :=
  ∀ outer space rest final, Blanks space → Ends rest → Closes outer rest final →
    Skips (.value outer) (space ++ (written ++ rest)) final

theorem SkipsValue.element {item : List Char} (skips : SkipsValue item) (outer : List Frame) :
    SkipsElement .array outer item := by
  intro state text space rest final blanks ends same shorter continues
  have round : skipRound state text =
      skipRound (.value (.array :: outer)) (space ++ (item ++ rest)) := same
  have skipped := skips (.array :: outer) space rest final blanks ends continues
  exact loop_of_same_round round shorter skipped

theorem colon_append {space : List Char} (blanks : Blanks space) (rest : List Char) :
    colon (space ++ ':' :: rest) = .ok ((), rest) := by
  simp [colon, skipBlanks_to (c := ':') blanks rfl]

theorem skipKey_append {space before key : List Char} (blanks : Blanks space) (isText : IsText key)
    (spaced : Blanks before) (rest : List Char) :
    skipKey (space ++ (key ++ (before ++ ':' :: rest))) = .ok ((), rest) := by
  obtain ⟨pieces, each, rfl⟩ := isText
  have body := skippedTextBody_pieces each (before ++ ':' :: rest)
  simp [skipKey, skipBlanks_to (c := '"') blanks rfl, body,
    colon_append spaced, bind, Except.bind]

theorem SkipsValue.member {key value before after : List Char} (skips : SkipsValue value)
    (isText : IsText key) (spaced : Blanks before) (behind : Blanks after) (outer : List Frame) :
    SkipsElement .object outer (key ++ (before ++ ':' :: (after ++ value))) := by
  intro state text space rest final blanks ends same shorter continues
  have read := skipKey_append blanks isText spaced (after ++ (value ++ rest))
  have step : skipRound state text =
      .ok (.again (.value (.object :: outer)), after ++ (value ++ rest)) := by
    simp only [List.append_assoc, List.cons_append] at same
    simp only [same, skipItem, Reader.map, read]
  refine loop_again step ?_ (skips (.object :: outer) after rest final behind ends continues)
  simp only [List.length_append, List.length_cons] at shorter ⊢
  omega

theorem skipStart_append {space : List Char} (blanks : Blanks space) (outer : List Frame)
    (text : List Char) : skipStart outer (space ++ text) = skipStart outer text := by
  simp [skipStart, skipBlanks_append blanks]

theorem skipStart_word {space word : List Char} {c : Char} (blanks : Blanks space)
    (known : (c, word) ∈ [('n', ['u', 'l', 'l']), ('t', ['r', 'u', 'e']), ('f', ['a', 'l', 's', 'e'])])
    (outer : List Frame) (rest : List Char) :
    skipStart outer (space ++ (c :: (word ++ rest))) = .ok (afterValue outer, rest) := by
  rw [skipStart_append blanks]
  simp only [List.mem_cons, Prod.mk.injEq, List.not_mem_nil, or_false] at known
  rcases known with ⟨rfl, rfl⟩ | ⟨rfl, rfl⟩ | ⟨rfl, rfl⟩
  all_goals
    rw [skipStart, skipBlanks_cons rfl]
    simp only [Reader.map, letters_append]

theorem skipStart_number {space written rest : List Char} (blanks : Blanks space)
    (number : IsNumber written) (ends : Ends rest) (outer : List Frame) :
    skipStart outer (space ++ (written ++ rest)) = .ok (afterValue outer, rest) := by
  obtain ⟨read, done⟩ := numberText_number number ends .malformed
  obtain ⟨c, tail, rfl, starts⟩ := number.starts
  obtain ⟨notBlank, _, notWord⟩ := not_bracket_of_startsNumber starts
  simp only [List.mem_cons, List.not_mem_nil, or_false, not_or] at notWord
  obtain ⟨notN, notT, notF, notQuote, notBracket, notBrace⟩ := notWord
  rw [List.cons_append] at done ⊢
  simp [skipStart, skipBlanks_to blanks notBlank, starts, Reader.map, done]

theorem skipStart_text {space written : List Char} (blanks : Blanks space) (isText : IsText written)
    (outer : List Frame) (rest : List Char) :
    skipStart outer (space ++ (written ++ rest)) = .ok (afterValue outer, rest) := by
  obtain ⟨pieces, each, rfl⟩ := isText
  have body := skippedTextBody_pieces each rest
  simp [skipStart, skipBlanks_to (c := '"') blanks rfl, Reader.map, body]

/-- A value without brackets takes one round. -/
theorem skipsValue_of_start {written : List Char} (nonempty : written ≠ [])
    (start : ∀ outer space rest, Blanks space → Ends rest →
      skipStart outer (space ++ (written ++ rest)) = .ok (afterValue outer, rest)) :
    SkipsValue written := by
  intro outer space rest final blanks ends closes
  refine closes.skips (start outer space rest blanks ends) ?_
  have := List.length_pos_iff.mpr nonempty
  simp only [List.length_append]
  omega

/-- A value in brackets takes a round for the opening one, and then what stands behind that one. -/
theorem skipsValue_of_body (frame : Frame) {opening : Char} {body : List Char}
    (start : ∀ outer rest,
      skipStart outer (opening :: rest) = .ok (.again (.inside true frame outer), rest))
    (inside : ∀ outer rest final, Closes outer rest final →
      Skips (.inside true frame outer) (body ++ frame.close :: rest) final) :
    SkipsValue (opening :: (body ++ [frame.close])) := by
  intro outer space rest final blanks ends closes
  have step : skipRound (.value outer) (space ++ (opening :: (body ++ [frame.close]) ++ rest)) =
      .ok (.again (.inside true frame outer), body ++ frame.close :: rest) := by
    simp only [skipRound, skipStart_append blanks, List.cons_append, start, List.append_assoc,
      List.nil_append]
  refine loop_again step ?_ (inside outer rest final closes)
  simp only [List.length_append, List.length_cons, List.length_nil]
  omega

theorem IsValue.skips {written : List Char} (value : IsValue written) : SkipsValue written := by
  induction value with
  | null =>
    exact skipsValue_of_start (by simp) fun outer space rest blanks _ =>
      skipStart_word blanks (by simp) outer rest
  | true =>
    exact skipsValue_of_start (by simp) fun outer space rest blanks _ =>
      skipStart_word blanks (by simp) outer rest
  | false =>
    exact skipsValue_of_start (by simp) fun outer space rest blanks _ =>
      skipStart_word blanks (by simp) outer rest
  | number number =>
    refine skipsValue_of_start ?_ fun outer space rest blanks ends =>
      skipStart_number blanks number ends outer
    obtain ⟨c, tail, rfl, _⟩ := number.starts
    simp
  | text isText =>
    refine skipsValue_of_start ?_ fun outer space rest blanks _ =>
      skipStart_text blanks isText outer rest
    obtain ⟨c, tail, rfl, _⟩ := isText.opens
    simp
  | @array items _ isArray each ih =>
    obtain ⟨body, all, rfl⟩ := isArray
    refine skipsValue_of_body .array (fun outer rest => rfl) fun outer rest final closes => ?_
    exact skips_elements all (fun item member => (each item member).opens)
      (fun item member => (ih item member).element outer) closes
  | @object members _ isObject _ ih =>
    obtain ⟨elements, body, written, all, rfl⟩ := isObject
    refine skipsValue_of_body .object (fun outer rest => rfl) fun outer rest final closes => ?_
    have each : ∀ element ∈ elements, Opens element ∧ SkipsElement .object outer element := by
      intro element inside
      obtain ⟨member, present, key, before, after, isText, spaced, behind, rfl⟩ :=
        forall₂_exists_right written.flip inside
      exact ⟨isText.opens.append _, (ih member present).member isText spaced behind outer⟩
    exact skips_elements all (fun element inside => (each element inside).1)
      (fun element inside => (each element inside).2) closes

/-- Skipping takes the value and nothing behind it. -/
theorem skipValue_append {written space rest : List Char} (value : IsValue written)
    (blanks : Blanks space) (ends : Ends rest) :
    skipValue (space ++ (written ++ rest)) = .ok ((), rest) :=
  value.skips [] space rest rest blanks ends rfl

end MessageSchema.Json
