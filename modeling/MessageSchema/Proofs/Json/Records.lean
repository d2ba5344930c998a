import Mathlib.Data.List.Nodup
import MessageSchema.Json.Record
import MessageSchema.Proofs.Json.Outcomes
import MessageSchema.Proofs.Json.Skipping

/-! The readers of typed values take what the grammar writes, and the reader of a record takes its
members in any order. -/
namespace MessageSchema.Json
open Reader Numeral

variable {unreadable : Prop}

/-- The reader takes what is written, behind any blanks, and leaves what follows. -/
structure Reads (unreadable : Prop) (reader : Reader α) (value : α) (written : List Char) : Prop where
  opens : Opens written
  takes {space rest : List Char} : Blanks space → Ends rest →
    Yields unreadable (reader (space ++ (written ++ rest))) (value, rest)

theorem Reads.takes_here {reader : Reader α} {value : α} {written rest : List Char}
    (reads : Reads unreadable reader value written) (ends : Ends rest) :
    Yields unreadable (reader (written ++ rest)) (value, rest) :=
  reads.takes blanks_nil ends

/-- A text is read as one value. -/
theorem Reads.unique {reader : Reader α} {value other : α} {written : List Char}
    (reads : Reads False reader value written) (again : Reads False reader other written) :
    value = other := by
  have ends : Ends [] := by simp [Ends]
  have first := (reads.takes_here ends).ok not_false
  have second := (again.takes_here ends).ok not_false
  rw [first] at second
  cases second
  rfl

theorem Reads.map {reader : Reader α} {value : α} {written : List Char}
    (reads : Reads unreadable reader value written) (f : α → β) :
    Reads unreadable (reader.map f) (f value) written where
  opens := reads.opens
  takes blanks ends := (reads.takes blanks ends).map f

theorem TextLiteral.opens {s : String} {written : List Char} (literal : TextLiteral s written) :
    Opens written := by
  obtain ⟨body, _, rfl⟩ := literal
  exact ⟨'"', _, rfl, rfl, by decide⟩

theorem reads_text {s : String} {written : List Char} (literal : TextLiteral s written) :
    Reads unreadable text s written where
  opens := literal.opens
  takes {space rest} blanks _ := by
    refine .read ?_
    obtain ⟨body, spelled, rfl⟩ := literal
    have read := textBody_spelled spelled rest
    simp [text, skipBlanks_to (c := '"') blanks rfl, read]

theorem writeInteger_starts (n : Int) :
    ∃ c tail, (writeInteger n).toList = c :: tail ∧ startsNumber c := by
  obtain ⟨c, tail, start, digit⟩ := numeral_starts (isWhole_toDigits n.natAbs).1 []
  rw [List.append_nil] at start
  rw [writeInteger_toList, start]
  split
  · exact ⟨'-', _, rfl, rfl⟩
  · exact ⟨c, tail, rfl, by simp [startsNumber, digit]⟩

theorem reads_integer {range : Range} {n : Int} {written : List Char}
    (decimal : IntegerText n written)
    (inside : range.contains n) (low : -9223372036854775808 ≤ n) (high : n < 18446744073709551616) :
    Reads unreadable (integer range) n written := by
  obtain ⟨c, tail, start, starts⟩ := writeInteger_starts n
  obtain ⟨notBlank, notClosing, _⟩ := not_bracket_of_startsNumber starts
  subst decimal
  refine ⟨⟨c, tail, start, notBlank, notClosing⟩, fun blanks ends => .read ?_⟩
  have read := read_integer low high ends
  rw [start, List.cons_append] at read ⊢
  simp [integer, skipBlanks_to blanks notBlank, starts, read, inside]

theorem reads_orNull {item : α → List Char → Prop} {reader : Reader α}
    (reads : ∀ value written, item value written → Reads unreadable reader value written)
    (notNull : ∀ value written, item value written → written.head? ≠ some 'n')
    {value? : Option α} {written : List Char} (nullOr : NullOr item value? written) :
    Reads unreadable (orNull reader) value? written := by
  cases nullOr with
  | null =>
    refine ⟨⟨'n', _, rfl, rfl, by decide⟩, fun {space rest} blanks _ => .read ?_⟩
    have word := letters_append ['u', 'l', 'l'] rest
    simp only [List.cons_append, List.nil_append] at word ⊢
    simp [orNull, skipBlanks_to (c := 'n') blanks rfl, Reader.map, word]
  | @some value _ writes =>
    have read := reads value written writes
    refine ⟨read.opens, fun {space rest} blanks ends => ?_⟩
    have taken := read.takes_here ends
    obtain ⟨c, tail, rfl, notBlank, _⟩ := read.opens
    have notN : c ≠ 'n' := by
      rintro rfl
      exact notNull _ _ writes rfl
    rw [List.cons_append] at taken ⊢
    simp only [orNull, skipBlanks_to blanks notBlank]
    split
    · next same => exact absurd (List.cons.inj same).1 notN
    · exact taken.map some

/-! Arrays. -/

theorem nextItem_close {space : List Char} (blanks : Blanks space) (fresh : Bool) (rest : List Char) :
    nextItem fresh (space ++ ']' :: rest) = .ok (false, rest) := by
  simp [nextItem, skipBlanks_to (c := ']') blanks rfl]

theorem nextItem_first {space element : List Char} (blanks : Blanks space) (opens : Opens element)
    (rest : List Char) :
    nextItem true (space ++ (element ++ rest)) = .ok (true, element ++ rest) := by
  obtain ⟨c, tail, rfl, notBlank, notClose⟩ := opens.ne_close .array
  have notBracket : c ≠ ']' := notClose
  simp [nextItem, skipBlanks_to blanks notBlank]

theorem nextItem_later {before after element : List Char} (blanks : Blanks before)
    (spaced : Blanks after) (opens : Opens element) (rest : List Char) :
    nextItem false (before ++ ',' :: (after ++ (element ++ rest))) = .ok (true, element ++ rest) := by
  obtain ⟨c, tail, rfl, notBlank, notClose⟩ := opens.ne_close .array
  have comma : skipBlanks (before ++ ',' :: (after ++ (c :: tail ++ rest))) =
      ',' :: (after ++ (c :: tail ++ rest)) := by
    exact skipBlanks_to blanks rfl _
  have ahead : skipBlanks (after ++ (c :: tail ++ rest)) = c :: (tail ++ rest) := by
    exact skipBlanks_to spaced notBlank _
  unfold nextItem
  rw [comma]
  split
  · next same => cases same
  · next same => simp at same
  · next same =>
    obtain ⟨rfl, rfl⟩ := List.cons.inj same
    rw [if_neg Bool.false_ne_true, if_pos rfl, ahead]
    split
    · next none => cases none
    · next bracket => exact absurd (List.cons.inj bracket).1 notClose
    · rfl

section
variable {item : α → List Char → Prop} {reader : Reader α}
  (reads : ∀ value written, item value written → Reads unreadable reader value written)
include reads

theorem items_again {before values : List α} {value : α} {element text rest remaining : List Char}
    (writes : item value element) (ends : Ends rest)
    (next : nextItem before.isEmpty text = .ok (true, element ++ rest))
    (shorter : rest.length < text.length)
    (later : LoopYields unreadable (itemRound reader) (value :: before) rest
      ((value :: before).reverse ++ values, remaining)) :
    LoopYields unreadable (itemRound reader) before text
      (before.reverse ++ value :: values, remaining) := by
  have taken := (reads value element writes).takes_here ends
  have step : Yields unreadable (itemRound reader before text) (.again (value :: before), rest) := by
    simp only [itemRound, next]
    exact taken.map _
  rw [List.reverse_cons, List.append_assoc, List.singleton_append] at later
  exact .again step shorter later

theorem items_further {elements : List (List Char)} {body : List Char}
    (further : Further elements body)
    {values before : List α} (each : List.Forall₂ item values elements) (nonempty : before ≠ [])
    (rest : List Char) :
    LoopYields unreadable (itemRound reader) before (body ++ ']' :: rest)
      (before.reverse ++ values, rest) := by
  induction further generalizing values before with
  | done blanks =>
    cases each
    exact .done (.read (by simp [itemRound, nextItem_close blanks]))
  | @more space spaced element body elements blanks behind further ih =>
    cases each with
    | @cons value _ others _ writes each =>
      have fresh : before.isEmpty = false := by simp [nonempty]
      have opens := (reads value element writes).opens
      have next := nextItem_later blanks behind opens (body ++ ']' :: rest)
      have ends : Ends (body ++ ']' :: rest) := further.ends (by decide) rest
      refine items_again reads writes ends ?_ ?_ (ih each (by simp))
      · simpa [fresh] using next
      · simp only [List.length_append, List.length_cons]
        omega

theorem items_elements {elements : List (List Char)} {body : List Char} (all : Elements elements body)
    {values : List α} (each : List.Forall₂ item values elements) (rest : List Char) :
    Yields unreadable (items reader (body ++ ']' :: rest)) (values, rest) := by
  apply LoopYields.loop
  cases all with
  | none blanks =>
    cases each
    exact .done (.read (by simp [itemRound, nextItem_close blanks]))
  | @some space element body elements blanks further =>
    cases each with
    | @cons value _ others _ writes each =>
      have opens := (reads value element writes).opens
      have next : nextItem true (space ++ (element ++ body) ++ ']' :: rest) =
          .ok (true, element ++ (body ++ ']' :: rest)) := by
        rw [List.append_assoc, List.append_assoc]
        exact nextItem_first blanks opens _
      have ends : Ends (body ++ ']' :: rest) := further.ends (by decide) rest
      have shorter :
          (body ++ ']' :: rest).length < (space ++ (element ++ body) ++ ']' :: rest).length := by
        have := opens.length_pos
        simp only [List.length_append, List.length_cons]
        omega
      have later := items_further reads further each (List.cons_ne_nil value []) rest
      exact items_again reads writes ends next shorter later

theorem reads_list {levels : Nat} {values : List α} {written : List Char}
    (listed : ListText levels item values written) :
    Reads unreadable (list levels reader) values written := by
  obtain ⟨deep, elements, each, body, all, rfl⟩ := listed
  refine ⟨⟨'[', _, rfl, rfl, by decide⟩, fun {space rest} blanks _ => ?_⟩
  have read := items_elements reads all each rest
  simpa [list, skipBlanks_to (c := '[') blanks rfl, Nat.ne_of_gt deep] using read

end

/-! Records. -/

section
variable {σ : Type} {forms : List (Form σ)} {members : List (Member σ)} {blank record : σ}

/-- The member of the reader stores what the form writes, and leaves the other forms alone. -/
structure Form.Stored (unreadable : Prop) (forms : List (Form σ)) (form : Form σ) (m : Member σ) :
    Prop where
  key : m.key = form.key
  required : m.required = true → form.unwritten = none
  stores : ∀ draft value written, form.writes value written → ∃ next,
    Reads unreadable (m.read draft) next written ∧ form.get next = value ∧
      ∀ other ∈ forms, other.key ≠ form.key → other.get next = other.get draft

/-- The members of the reader are those of the forms, and a record is no more than
what they show. -/
structure Described (unreadable : Prop) (forms : List (Form σ)) (members : List (Member σ))
    (blank : σ) : Prop where
  stored : List.Forall₂ (Form.Stored unreadable forms) forms members
  distinct : (forms.map Form.key).Nodup
  blank : ∀ form ∈ forms, ∀ value, form.unwritten = some value → form.get blank = value
  determined : ∀ first second, (∀ form ∈ forms, form.get first = form.get second) → first = second

theorem stored_needed {key : String} {get : σ → α} {writes : α → List Char → Prop} {reader : Reader β}
    {store : σ → β → σ} (encode : α → β)
    (reads : ∀ value written, writes value written → Reads unreadable reader (encode value) written)
    (stores : ∀ draft value, get (store draft (encode value)) = value)
    (keeps : ∀ draft value, ∀ other ∈ forms, other.key ≠ key →
      other.get (store draft value) = other.get draft) :
    Form.Stored unreadable forms ⟨key, get, writes, none⟩ (.needed key reader store) where
  key := rfl
  required _ := rfl
  stores draft value written writes :=
    ⟨store draft (encode value), (reads value written writes).map _, stores draft value,
      keeps draft (encode value)⟩

theorem stored_optional {key : String} {get : σ → α} {writes : α → List Char → Prop}
    {reader : Reader α}
    {store : σ → α → σ} (unwritten : α)
    (reads : ∀ value written, writes value written → Reads unreadable reader value written)
    (stores : ∀ draft value, get (store draft value) = value)
    (keeps : ∀ draft value, ∀ other ∈ forms, other.key ≠ key →
      other.get (store draft value) = other.get draft) :
    Form.Stored unreadable forms ⟨key, get, writes, some unwritten⟩ (.optional key reader store) where
  key := rfl
  required never := by cases never
  stores draft value written writes := ⟨store draft value, (reads value written writes).map _,
    stores draft value, keeps draft value⟩

theorem stored_text {key : String} {get : σ → String} {store : σ → String → σ}
    (stores : ∀ draft s, get (store draft s) = s)
    (keeps : ∀ draft s, ∀ other ∈ forms, other.key ≠ key →
      other.get (store draft s) = other.get draft) :
    Form.Stored unreadable forms ⟨key, get, TextLiteral, none⟩ (.needed key text store) :=
  stored_needed id (fun _ _ => reads_text) stores keeps

/-- The draft holds the record's values for the members written before, and blank ones else. -/
structure Filled (forms : List (Form σ)) (blank record : σ) (before : List (String × List Char))
    (draft : Draft σ) : Prop where
  given : ∀ form ∈ forms, form.key ∈ draft.given ↔ form.key ∈ before.map Prod.fst
  value : ∀ form ∈ forms,
    form.get draft.record = if form.key ∈ draft.given then form.get record else form.get blank

theorem filled_nil : Filled forms blank record [] ⟨blank, []⟩ where
  given := by simp
  value := by simp

theorem Described.form_of_member (described : Described unreadable forms members blank) {m : Member σ}
    (inside : m ∈ members) : ∃ form ∈ forms, form.Stored unreadable forms m :=
  forall₂_exists_right described.stored.flip inside

theorem Described.member_of_form (described : Described unreadable forms members blank)
    {form : Form σ}
    (inside : form ∈ forms) : ∃ m ∈ members, form.Stored unreadable forms m :=
  forall₂_exists_right described.stored inside

/-- A record is complete once all its members are read. -/
theorem Filled.finish (described : Described unreadable forms members blank)
    {written : List (String × List Char)} {draft : Draft σ}
    (filled : Filled forms blank record written draft)
    (writes : Written forms record written) : draft.finish members = .ok record := by
  have complete : members.all (fun m => !m.required || draft.given.contains m.key) = true := by
    simp only [List.all_eq_true, Bool.or_eq_true, Bool.not_eq_true', List.contains_iff_mem]
    intro m inside
    obtain ⟨form, known, stored⟩ := described.form_of_member inside
    by_cases present : form.key ∈ written.map Prod.fst
    · right
      rw [stored.key]
      exact (filled.given form known).mpr present
    · left
      have default := writes.complete form known present
      by_contra needed
      rw [stored.required (by simpa using needed)] at default
      cases default
  have same : draft.record = record := by
    apply described.determined
    intro form known
    rw [filled.value form known]
    split
    · rfl
    · next missing =>
      rw [filled.given form known] at missing
      exact described.blank form known _ (writes.complete form known missing)
  simp only [Draft.finish, complete, ↓reduceIte, same]

/-- What stands behind a key is read into the draft, or skipped where nobody knows the key. -/
theorem Filled.readMember (described : Described unreadable forms members blank)
    {before after : List (String × List Char)} {member : String × List Char} {draft : Draft σ}
    (filled : Filled forms blank record before draft)
    (writes : Written forms record (before ++ member :: after)) {space spaced rest : List Char}
    (blanks : Blanks space) (behind : Blanks spaced) (ends : Ends rest) :
    ∃ next, Filled forms blank record (before ++ [member]) next ∧
      Yields unreadable
        (draft.readMember members member.1 (space ++ ':' :: (spaced ++ (member.2 ++ rest))))
        (next, rest) := by
  have atColon := colon_append blanks (spaced ++ (member.2 ++ rest))
  have present : member ∈ before ++ member :: after := by simp
  cases found : members.find? (·.key = member.1) with
  | none =>
    have unknown : ∀ form ∈ forms, form.key ≠ member.1 := by
      intro form known same
      obtain ⟨m, inside, stored⟩ := described.member_of_form known
      have different := List.find?_eq_none.mp found m inside
      simp [stored.key, same] at different
    have value := writes.unknown member present (by simpa using unknown)
    have skipped := skipValue_append value behind ends
    refine ⟨draft, ⟨?_, filled.value⟩, ?_⟩
    · intro form known
      rw [filled.given form known]
      simp [unknown form known]
    · exact .read (by simp only [Draft.readMember, found, atColon, skipped, bind, Except.bind])
  | some m =>
    obtain ⟨form, known, stored⟩ := described.form_of_member (List.mem_of_find?_eq_some found)
    have key : form.key = member.1 := by
      rw [← stored.key]
      simpa using List.find?_some found
    have value := writes.known form known member.2 (by simp [key])
    obtain ⟨next, reads, stores, keeps⟩ := stored.stores draft.record _ _ value
    have new : form.key ∉ draft.given := by
      intro given
      have earlier := List.one_le_count_iff.mpr ((filled.given form known).mp given)
      have twice := writes.once form known
      simp only [List.map_append, List.map_cons, List.count_append, key, List.count_cons_self]
        at twice earlier
      omega
    have fresh : draft.given.contains member.1 = false := by simpa [key] using new
    refine ⟨⟨next, member.1 :: draft.given⟩, ⟨?_, ?_⟩, ?_⟩
    · intro other known
      simp [filled.given other known, or_comm]
    · intro other also
      by_cases same : other.key = form.key
      · obtain rfl := List.inj_on_of_nodup_map described.distinct also known same
        simp [stores, key]
      · have different : other.key ≠ member.1 := key ▸ same
        rw [keeps other also same, filled.value other also]
        simp [different]
    · simp only [Draft.readMember, found, fresh, Bool.false_eq_true, ↓reduceIte, atColon]
      exact (reads.takes behind ends).bind (.read rfl)

theorem nextKey_close {space : List Char} (blanks : Blanks space) (fresh : Bool) (rest : List Char) :
    nextKey fresh (space ++ '}' :: rest) = .ok (none, rest) := by
  simp [nextKey, skipBlanks_to (c := '}') blanks rfl]

theorem keyAhead_append {key : String} {written : List Char} (literal : TextLiteral key written)
    (rest : List Char) : keyAhead (written ++ rest) = .ok (key, rest) := by
  obtain ⟨body, spelled, rfl⟩ := literal
  have read := textBody_spelled spelled rest
  simpa [keyAhead] using read

theorem nextKey_first {space element : List Char} (blanks : Blanks space) (opens : Opens element)
    (rest : List Char) :
    nextKey true (space ++ (element ++ rest)) = (keyAhead.map some) (element ++ rest) := by
  obtain ⟨c, tail, rfl, notBlank, notClose⟩ := opens.ne_close .object
  have notBrace : c ≠ '}' := notClose
  simp [nextKey, skipBlanks_to blanks notBlank]

theorem nextKey_later {before after element : List Char} (blanks : Blanks before)
    (spaced : Blanks after)
    (opens : Opens element) (rest : List Char) :
    nextKey false (before ++ ',' :: (after ++ (element ++ rest))) =
      (keyAhead.map some) (element ++ rest) := by
  have ahead := skipBlanks_opens opens rest
  simp [nextKey, skipBlanks_to (c := ',') blanks rfl,
    skipBlanks_append spaced, ahead]

theorem MemberText.opens {member : String × List Char} {element : List Char}
    (written : MemberText TextLiteral member element) : Opens element := by
  obtain ⟨key, _, _, literal, _, _, rfl⟩ := written
  exact literal.opens.append _

theorem Filled.again (described : Described unreadable forms members blank)
    {before after : List (String × List Char)} {member : String × List Char} {draft : Draft σ}
    (filled : Filled forms blank record before draft)
    (writes : Written forms record (before ++ member :: after)) {element text rest : List Char}
    (written : MemberText TextLiteral member element) (ends : Ends rest) {fresh : Bool}
    (atKey : nextKey fresh text = (keyAhead.map some) (element ++ rest)) :
    ∃ next, Filled forms blank record (before ++ [member]) next ∧
      Yields unreadable (memberRound members (fresh, draft) text) (.again (false, next), rest) := by
  obtain ⟨key, between, ahead, literal, blanksBetween, blanksAhead, rfl⟩ := written
  obtain ⟨next, refilled, read⟩ := filled.readMember described writes blanksBetween blanksAhead ends
  have keyed := keyAhead_append literal (between ++ ':' :: (ahead ++ (member.2 ++ rest)))
  simp only [List.append_assoc, List.cons_append, Reader.map, keyed] at atKey
  refine ⟨next, refilled, ?_⟩
  simp only [memberRound, atKey]
  exact read.map _

theorem Filled.done (described : Described unreadable forms members blank)
    {written : List (String × List Char)} {draft : Draft σ}
    (filled : Filled forms blank record written draft)
    (writes : Written forms record written) {space : List Char} (blanks : Blanks space) (fresh : Bool)
    (rest : List Char) :
    memberRound members (fresh, draft) (space ++ '}' :: rest) = .ok (.done record, rest) := by
  simp [memberRound, nextKey_close blanks, filled.finish described writes, bind, Except.bind]

theorem members_further (described : Described unreadable forms members blank)
    {elements : List (List Char)}
    {body : List Char} (further : Further elements body)
    {before after : List (String × List Char)} {draft : Draft σ}
    (each : List.Forall₂ (MemberText TextLiteral) after elements)
    (filled : Filled forms blank record before draft)
    (writes : Written forms record (before ++ after)) (rest : List Char) :
    LoopYields unreadable (memberRound members) (false, draft) (body ++ '}' :: rest)
      (record, rest) := by
  -- The members before grow by one per element, and the draft is filled from exactly those.
  induction further generalizing before after draft with
  | done blanks =>
    cases each
    rw [List.append_nil] at writes
    exact .done (.read (filled.done described writes blanks false rest))
  | @more space spaced element body elements blanks behind further ih =>
    cases each with
    | @cons member _ later _ written each =>
      have atKey := nextKey_later blanks behind written.opens (body ++ '}' :: rest)
      have ends : Ends (body ++ '}' :: rest) := further.ends (by decide) rest
      obtain ⟨next, refilled, step⟩ := filled.again described writes written ends atKey
      have joined : space ++ ',' :: (spaced ++ (element ++ body)) ++ '}' :: rest =
          space ++ ',' :: (spaced ++ (element ++ (body ++ '}' :: rest))) := by simp
      rw [joined]
      refine .again step ?_ (ih each refilled (by simpa using writes))
      simp only [List.length_append, List.length_cons]
      omega

theorem objectMembers_elements (described : Described unreadable forms members blank)
    {elements : List (List Char)} {body : List Char} (all : Elements elements body)
    {written : List (String × List Char)}
    (each : List.Forall₂ (MemberText TextLiteral) written elements)
    (writes : Written forms record written) (rest : List Char) :
    Yields unreadable (objectMembers members blank (body ++ '}' :: rest)) (record, rest) := by
  apply LoopYields.loop
  have filled : Filled forms blank record [] ⟨blank, []⟩ := filled_nil
  cases all with
  | none blanks =>
    cases each
    exact .done (.read (filled.done described writes blanks true rest))
  | @some space element body elements blanks further =>
    cases each with
    | @cons member _ later _ written each =>
      have atKey := nextKey_first blanks written.opens (body ++ '}' :: rest)
      have ends : Ends (body ++ '}' :: rest) := further.ends (by decide) rest
      obtain ⟨next, refilled, step⟩ := filled.again described writes written ends atKey
      rw [List.append_assoc, List.append_assoc]
      refine .again step ?_ (members_further described further each refilled writes rest)
      have := written.opens.length_pos
      simp only [List.length_append, List.length_cons]
      omega

theorem reads_record (described : Described unreadable forms members blank) {levels : Nat}
    {written : List Char}
    (writes : RecordText levels forms record written) :
    Reads unreadable (Json.record levels members blank) record written := by
  obtain ⟨deep, given, ⟨elements, body, each, all, rfl⟩, writes⟩ := writes
  refine ⟨⟨'{', _, rfl, rfl, by decide⟩, fun {space rest} blanks _ => ?_⟩
  have read := objectMembers_elements described all each writes rest
  simpa [Json.record, skipBlanks_to (c := '{') blanks rfl, Nat.ne_of_gt deep] using read

end

end MessageSchema.Json
