import MessageSchema.Proofs.Json.Records

/-! Records as arrays, whose members stand in declaration order and without their keys. The array
may end early, where all the members behind its end show what need not be written. -/
namespace MessageSchema.Json
open Reader

/-- The texts of the members of a record, in the order of the forms. -/
inductive InOrder (record : σ) : List (Form σ) → List (List Char) → Prop where
  | rest {forms : List (Form σ)} : (∀ form ∈ forms, form.unwritten = some (form.get record)) →
      InOrder record forms []
  | next {form : Form σ} {forms : List (Form σ)} {written : List Char} {items : List (List Char)} :
      form.writes (form.get record) written → InOrder record forms items →
      InOrder record (form :: forms) (written :: items)

/-- An array of at most so many levels of brackets. -/
def TupleText (levels : Nat) (forms : List (Form σ)) (record : σ) (written : List Char) : Prop :=
  0 < levels ∧ ∃ items, InOrder record forms items ∧ ArrayText items written

/-- A record, with keys or without. -/
inductive EitherText (levels : Nat) (forms : List (Form σ)) (record : σ) (written : List Char) :
    Prop where
  | object : RecordText levels forms record written → EitherText levels forms record written
  | array : TupleText levels forms record written → EitherText levels forms record written

section
variable {unreadable : Prop} {σ : Type} {forms done ahead : List (Form σ)} {members : List (Member σ)}
  {blank record draft : σ} {body rest : List Char} {items : List (List Char)}

/-- The draft holds the record's values for the members read, and blank ones for those ahead. -/
structure Prefilled (done ahead : List (Form σ)) (blank record draft : σ) : Prop where
  done : ∀ form ∈ done, form.get draft = form.get record
  ahead : ∀ form ∈ ahead, form.get draft = form.get blank

theorem Prefilled.finish (described : Described unreadable (done ++ ahead) members blank)
    (filled : Prefilled done ahead blank record draft)
    (rest : ∀ form ∈ ahead, form.unwritten = some (form.get record)) : draft = record := by
  apply described.determined
  intro form known
  rcases List.mem_append.mp known with read | left
  · exact filled.done form read
  · exact (filled.ahead form left).trans (described.blank form known _ (rest form left))

/-- A member is read into the draft, and no other one is touched. -/
theorem Prefilled.store {form : Form σ} {m : Member σ} {written : List Char}
    (distinct : ((done ++ form :: ahead).map Form.key).Nodup)
    (filled : Prefilled done (form :: ahead) blank record draft)
    (stored : Form.Stored unreadable (done ++ form :: ahead) form m)
    (writes : form.writes (form.get record) written) :
    ∃ next, Reads unreadable (m.read draft) next written ∧
      Prefilled (done ++ [form]) ahead blank record next := by
  obtain ⟨next, reads, value, keeps⟩ := stored.stores draft _ _ writes
  rw [List.map_append, List.map_cons, List.nodup_append, List.nodup_cons] at distinct
  obtain ⟨_, ⟨notAhead, _⟩, apart⟩ := distinct
  refine ⟨next, reads, ⟨?_, ?_⟩⟩
  · intro other known
    rcases List.mem_append.mp known with before | same
    · have different : other.key ≠ form.key :=
        apart _ (List.mem_map_of_mem before) _ List.mem_cons_self
      rw [keeps other (by simp [before]) different]
      exact filled.done other before
    · obtain rfl := List.mem_singleton.mp same
      exact value
  · intro other left
    have different : other.key ≠ form.key := by
      intro same
      exact notAhead (same ▸ List.mem_map_of_mem left)
    rw [keeps other (by simp [left]) different]
    exact filled.ahead other (List.mem_cons_of_mem _ left)

theorem arrayMembers_close {space : List Char} (blanks : Blanks space) {left : List (Member σ)}
    (optional : ∀ m ∈ left, m.required = false) (fresh : Bool) :
    arrayMembers left fresh draft (space ++ ']' :: rest) = .ok (draft, rest) := by
  cases left with
  | nil => simp [arrayMembers, Reader.map, arrayEnd, skipBlanks_to (c := ']') blanks rfl]
  | cons m others =>
    have none : (m :: others).any (·.required) = false := by
      simpa using optional
    simp [arrayMembers, nextItem_close blanks, none]

theorem arrayMembers_item {m : Member σ} {others : List (Member σ)} {fresh : Bool} {next : σ}
    {text ahead remaining : List Char} {result : σ × List Char}
    (item : nextItem fresh text = .ok (true, ahead))
    (read : Yields unreadable (m.read draft ahead) (next, remaining))
    (later : Yields unreadable (arrayMembers others false next remaining) result) :
    Yields unreadable (arrayMembers (m :: others) fresh draft text) result := by
  cases read with
  | read same =>
    simp only [arrayMembers, item, same]
    exact later
  | fault lost same => exact .fault lost (by simp only [arrayMembers, item, same]; rfl)

/-- A member ahead of the end of the array is one that may be left out. -/
theorem optional_of_unwritten {left : List (Member σ)}
    (stored : List.Forall₂ (Form.Stored unreadable forms) ahead left)
    (rest : ∀ form ∈ ahead, form.unwritten = some (form.get record)) :
    ∀ m ∈ left, m.required = false := by
  intro m member
  obtain ⟨form, known, stored⟩ := forall₂_exists_right stored.flip member
  by_contra needed
  have never := stored.required (by simpa using needed)
  rw [rest form known] at never
  cases never

theorem arrayMembers_further (described : Described unreadable (done ++ ahead) members blank)
    {left : List (Member σ)}
    (stored : List.Forall₂ (Form.Stored unreadable (done ++ ahead)) ahead left)
    (inOrder : InOrder record ahead items) (further : Further items body)
    (filled : Prefilled done ahead blank record draft) :
    Yields unreadable (arrayMembers left false draft (body ++ ']' :: rest)) (record, rest) := by
  induction inOrder generalizing done left body draft with
  | rest unwritten =>
    cases further with
    | done blanks =>
      obtain rfl := filled.finish described unwritten
      exact .read (arrayMembers_close blanks (optional_of_unwritten stored unwritten) false)
  | @next form ahead written items writes inOrder ih =>
    cases further with
    | @more space spaced _ body _ blanks behind further =>
      cases stored with
      | @cons _ m _ others first stored =>
        obtain ⟨next, reads, refilled⟩ := filled.store described.distinct first writes
        have ends : Ends (body ++ ']' :: rest) := further.ends (by decide) rest
        have item := nextItem_later blanks behind reads.opens (body ++ ']' :: rest)
        have moved : done ++ form :: ahead = done ++ [form] ++ ahead := by simp
        rw [moved] at described stored
        have joined : space ++ ',' :: (spaced ++ (written ++ body)) ++ ']' :: rest =
            space ++ ',' :: (spaced ++ (written ++ (body ++ ']' :: rest))) := by simp
        rw [joined]
        exact arrayMembers_item item (reads.takes_here ends) (ih described stored further refilled)

theorem arrayMembers_elements (described : Described unreadable forms members blank)
    (inOrder : InOrder record forms items) (all : Elements items body) :
    Yields unreadable (arrayMembers members true blank (body ++ ']' :: rest)) (record, rest) := by
  have filled : Prefilled [] forms blank record blank := ⟨by simp, fun _ _ => rfl⟩
  have stored := described.stored
  cases all with
  | none blanks =>
    cases inOrder with
    | rest unwritten =>
      obtain rfl := filled.finish described unwritten
      exact .read (arrayMembers_close blanks (optional_of_unwritten stored unwritten) true)
  | @some space element body items blanks further =>
    cases inOrder with
    | @next form ahead _ _ writes inOrder =>
      cases stored with
      | @cons _ m _ others first stored =>
        obtain ⟨next, reads, refilled⟩ := filled.store described.distinct first writes
        have ends : Ends (body ++ ']' :: rest) := further.ends (by decide) rest
        have item := nextItem_first blanks reads.opens (body ++ ']' :: rest)
        have behind : Described unreadable ([form] ++ ahead) (m :: others) blank := described
        rw [List.append_assoc, List.append_assoc]
        exact arrayMembers_item item (reads.takes_here ends)
          (arrayMembers_further behind stored inOrder further refilled)

theorem reads_tuple (described : Described unreadable forms members blank) {levels : Nat}
    {written : List Char} (writes : TupleText levels forms record written) :
    Reads unreadable (Json.record levels members blank) record written := by
  obtain ⟨deep, items, inOrder, body, all, rfl⟩ := writes
  refine ⟨⟨'[', _, rfl, rfl, by decide⟩, fun {space rest} blanks _ => ?_⟩
  have read :
      Yields unreadable (arrayMembers members true blank (body ++ ']' :: rest)) (record, rest) :=
    arrayMembers_elements described inOrder all
  simpa [Json.record, skipBlanks_to (c := '[') blanks rfl, Nat.ne_of_gt deep] using read

theorem reads_either (described : Described unreadable forms members blank) {levels : Nat}
    {written : List Char} (writes : EitherText levels forms record written) :
    Reads unreadable (Json.record levels members blank) record written := by
  cases writes with
  | object writes => exact reads_record described writes
  | array writes => exact reads_tuple described writes

end

/-! Another type of forms, for records that are changed throughout. -/

section
variable {σ : Type} {forms others : List (Form σ)} {change : σ → σ} {record : σ}

/-- What the form writes of a record, the other one writes of the changed record. -/
structure Form.Maps (change : σ → σ) (form other : Form σ) : Prop where
  key : other.key = form.key
  writes : ∀ record written, form.writes (form.get record) written →
    other.writes (other.get (change record)) written
  unwritten : ∀ record, form.unwritten = some (form.get record) →
    other.unwritten = some (other.get (change record))

/-- A member whose value is changed by itself, and left alone where it need not be written. -/
theorem Form.maps_of {key : String} {get : σ → α} {writes written : α → List Char → Prop}
    {unwritten : Option α} {inner : α → α}
    (changed : ∀ record, get (change record) = inner (get record))
    (maps : ∀ value text, writes value text → written (inner value) text)
    (fixed : ∀ value, unwritten = some value → inner value = value) :
    Form.Maps change ⟨key, get, writes, unwritten⟩ ⟨key, get, written, unwritten⟩ where
  key := rfl
  writes record text writes := by
    have inside := maps (get record) text writes
    rwa [← changed] at inside
  unwritten record same := by
    have same : unwritten = some (get record) := same
    show unwritten = some (get (change record))
    rw [changed, fixed _ same, same]

theorem Form.maps_kept {key : String} {get : σ → α} {writes : α → List Char → Prop}
    {unwritten : Option α} (kept : ∀ record, get (change record) = get record) :
    Form.Maps change ⟨key, get, writes, unwritten⟩ ⟨key, get, writes, unwritten⟩ := by
  have unchanged : ∀ record, get (change record) = id (get record) := kept
  exact Form.maps_of unchanged (fun _ _ writes => writes) fun _ _ => rfl

theorem InOrder.map {items : List (List Char)} (inOrder : InOrder record forms items)
    (maps : List.Forall₂ (Form.Maps change) forms others) : InOrder (change record) others items := by
  induction inOrder generalizing others with
  | rest unwritten =>
    refine .rest fun other known => ?_
    obtain ⟨form, before, maps⟩ := forall₂_exists_right maps.flip known
    exact maps.unwritten record (unwritten form before)
  | next writes _ ih =>
    cases maps with
    | cons first maps => exact .next (first.writes record _ writes) (ih maps)

theorem Written.map {members : List (String × List Char)} (writes : Written forms record members)
    (maps : List.Forall₂ (Form.Maps change) forms others) :
    Written others (change record) members := by
  have keys : others.map Form.key = forms.map Form.key := by
    rw [← List.forall₂_eq_eq_eq, List.forall₂_map_left_iff, List.forall₂_map_right_iff]
    exact .flip (maps.imp fun form other maps => maps.key)
  constructor
  case known =>
    intro other known written member
    obtain ⟨form, before, maps⟩ := forall₂_exists_right maps.flip known
    exact maps.writes record written (writes.known form before written (maps.key ▸ member))
  case unknown =>
    intro member present unknown
    exact writes.unknown member present (keys ▸ unknown)
  case once =>
    intro other known
    obtain ⟨form, before, maps⟩ := forall₂_exists_right maps.flip known
    exact maps.key ▸ writes.once form before
  case complete =>
    intro other known absent
    obtain ⟨form, before, maps⟩ := forall₂_exists_right maps.flip known
    exact maps.unwritten record (writes.complete form before (maps.key ▸ absent))

theorem EitherText.map {levels : Nat} {written : List Char}
    (writes : EitherText levels forms record written)
    (maps : List.Forall₂ (Form.Maps change) forms others) :
    EitherText levels others (change record) written := by
  cases writes with
  | object writes =>
    obtain ⟨deep, members, object, writes⟩ := writes
    exact .object ⟨deep, members, object, writes.map maps⟩
  | array writes =>
    obtain ⟨deep, items, inOrder, array⟩ := writes
    exact .array ⟨deep, items, inOrder.map maps, array⟩

end

theorem ListText.map {levels : Nat} {item other : α → List Char → Prop} {change : α → α}
    (maps : ∀ value written, item value written → other (change value) written) {values : List α}
    {written : List Char} (listed : ListText levels item values written) :
    ListText levels other (values.map change) written := by
  obtain ⟨deep, items, each, array⟩ := listed
  refine ⟨deep, items, ?_, array⟩
  rw [List.forall₂_map_left_iff]
  exact each.imp maps

end MessageSchema.Json
