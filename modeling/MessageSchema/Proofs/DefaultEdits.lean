import MessageSchema.Proofs.Edits
import MessageSchema.Proofs.TypedValues

/-! Defaults of fields under edits, where every default that is set was read by the field itself.
The default is of the type that the field had at that moment. Later edits leave it alone, also those
that change the type, so it need not be of the type that the field has now. -/
namespace MessageSchema.Field

variable {field : Field} {value : DefaultValue}

/-- Edits asked for one by one, of which each default is one that the field reads from some literal
just then. -/
def Reading (field : Field) : List Edit → Prop
  | [] => True
  | edit :: rest =>
    (∀ value, edit = .defaultValue value → ∃ literal, field.readDefault literal = .ok value) ∧
      (field.edited edit).Reading rest

/-- A default that is stored is one of the field's current type. A message and a type that is not
resolved have no values. -/
def DefaultFits (field : Field) : Prop :=
  ∀ value, field.defaultValue = some value → field.Takes value

theorem editedBy_append (field : Field) (first second : List Edit) :
    field.editedBy (first ++ second) = (field.editedBy first).editedBy second :=
  List.foldl_append

theorem reading_append_iff {first second : List Edit} :
    field.Reading (first ++ second) ↔
      field.Reading first ∧ (field.editedBy first).Reading second := by
  induction first generalizing field with
  | nil => simp [Reading, editedBy]
  | cons edit rest ih =>
    simp only [List.cons_append, Reading, ih, and_assoc]
    rfl

theorem takes_congr {other : Field} (tag : Scalar.ofTag? other.tag = Scalar.ofTag? field.tag)
    (target : other.target = field.target) : other.Takes value ↔ field.Takes value := by
  rw [Takes, Takes, tag, target]

/-- No edit but that of the default touches the default. -/
theorem edited_defaultValue (field : Field) (edit : Edit) :
    (∃ value, edit = .defaultValue value ∧ (field.edited edit).defaultValue = some value) ∨
      (∀ value, edit ≠ .defaultValue value) ∧
        (field.edited edit).defaultValue = field.defaultValue := by
  cases edit with
  | defaultValue value => exact .inl ⟨value, rfl, rfl⟩
  | name | number | label | declaredName | scope => exact .inr ⟨by simp, rfl⟩
  | tag tag =>
    refine .inr ⟨by simp, ?_⟩
    change (field.setTag tag).defaultValue = _
    rw [setTag_eq]
  | target type =>
    refine .inr ⟨by simp, ?_⟩
    cases outcome : field.apply (.target type) with
    | error error => rw [edited_error outcome]
    | ok next =>
      obtain ⟨_, _, rfl⟩ := attach_ok_iff.mp outcome
      rw [edited_ok outcome]

/-- The moment at which a stored default was set: the field read it then, and no default was set
after it. -/
structure SetAt (field : Field) (value : DefaultValue) (before after : List Edit) : Prop where
  read : ∃ literal, (field.editedBy before).readDefault literal = .ok value
  last : ∀ edit ∈ after, ∀ other, edit ≠ .defaultValue other

theorem exists_setAt {edits : List Edit} (reading : field.Reading edits)
    (unset : field.defaultValue = none) (stored : (field.editedBy edits).defaultValue = some value) :
    ∃ before after, edits = before ++ .defaultValue value :: after ∧
      field.SetAt value before after := by
  induction edits using List.reverseRecOn with
  | nil => simp [editedBy, unset] at stored
  | append_singleton earlier edit ih =>
    obtain ⟨readEarlier, readEdit, _⟩ := reading_append_iff.mp reading
    rw [editedBy_append] at stored
    change ((field.editedBy earlier).edited edit).defaultValue = _ at stored
    obtain ⟨set, rfl, now⟩ | ⟨other, same⟩ := edited_defaultValue (field.editedBy earlier) edit
    · rw [now, Option.some.injEq] at stored
      subst set
      exact ⟨earlier, [], rfl, readEdit value rfl, by simp⟩
    · rw [same] at stored
      obtain ⟨before, after, rfl, moment⟩ := ih readEarlier stored
      refine ⟨before, after ++ [edit], by simp, moment.read, ?_⟩
      simp only [List.forall_mem_append, List.forall_mem_singleton]
      exact ⟨moment.last, other⟩

/-- A stored default is of the type that the field had when it was set, and so of the current type
as long as that is the same. -/
theorem stored_default_fits_when_set (name : String) (number : UInt32) (label : Label) (tag : String)
    (edits : List Edit) (reading : (bare name number label tag).Reading edits) (value : DefaultValue)
    (stored : ((bare name number label tag).editedBy edits).defaultValue = some value) :
    ∃ before after, edits = before ++ .defaultValue value :: after ∧
      (bare name number label tag).SetAt value before after ∧
      ((bare name number label tag).editedBy before).Takes value ∧
      (Scalar.ofTag? ((bare name number label tag).editedBy edits).tag =
          Scalar.ofTag? ((bare name number label tag).editedBy before).tag →
        ((bare name number label tag).editedBy edits).target =
          ((bare name number label tag).editedBy before).target →
        ((bare name number label tag).editedBy edits).Takes value) := by
  obtain ⟨before, after, split, moment⟩ := exists_setAt reading rfl stored
  obtain ⟨literal, read⟩ := moment.read
  have fitted := takes_of_readDefault read
  exact ⟨before, after, split, moment, fitted, fun tag target => (takes_congr tag target).mpr fitted⟩

/-- The default of an integer field stays when the field's tag becomes the name of a type. -/
theorem default_outlives_type : ¬ ∀ (name : String) (number : UInt32) (label : Label) (tag : String)
    (edits : List Edit), (bare name number label tag).Reading edits →
      ((bare name number label tag).editedBy edits).DefaultFits := by
  intro claim
  have reading : (bare "n" 1 .optional "int32").Reading [.defaultValue (.int 5), .tag "Person"] :=
    ⟨by rintro _ ⟨⟩; exact ⟨"5", rfl⟩, by rintro _ ⟨⟩, trivial⟩
  have fits := claim "n" 1 .optional "int32" _ reading (.int 5) rfl
  have user : Scalar.ofTag? "Person" = none := by decide
  simp [Takes, editedBy, edited, apply, setTag_eq, bare, user] at fits

/-- The default is of an enum that the field lets go of when it changes its scope. -/
def released : List Edit :=
  [.declaredName "Color", .target (.enum ⟨⟨"Color", none⟩, [⟨"RED", 0⟩]⟩),
    .defaultValue (.enum ⟨"RED", 0⟩), .scope "shop"]

theorem released_default_fits_when_set :
    (bare "shade" 1 .optional "Color").Reading released ∧
      ((bare "shade" 1 .optional "Color").editedBy released).target = none ∧
      ∃ before after, released = before ++ .defaultValue (.enum ⟨"RED", 0⟩) :: after ∧
        ((bare "shade" 1 .optional "Color").editedBy before).Takes (.enum ⟨"RED", 0⟩) := by
  have user : Scalar.ofTag? "Color" = none := by decide
  have reading : (bare "shade" 1 .optional "Color").Reading released := by
    refine ⟨by rintro _ ⟨⟩, by rintro _ ⟨⟩, ?_, by rintro _ ⟨⟩, trivial⟩
    rintro _ ⟨⟩
    refine ⟨"RED", ?_⟩
    simp [edited, apply, setDeclaredName, dropStale, attach, bare, isScalar_eq, declares, user,
      UserType.id, readDefault, scalar?, DefaultValue.ofUserLiteral, EnumType.value?, Except.mapError]
  have stored : ((bare "shade" 1 .optional "Color").editedBy released).defaultValue =
      some (.enum ⟨"RED", 0⟩) := by
    simp [released, editedBy, edited, apply, setDeclaredName, setScope, dropStale, attach, bare,
      isScalar_eq, declares, user, UserType.id]
  obtain ⟨before, after, split, _, fitted, _⟩ :=
    stored_default_fits_when_set "shade" 1 .optional "Color" released reading _ stored
  refine ⟨reading, ?_, before, after, split, fitted⟩
  simp [released, editedBy, edited, apply, setDeclaredName, setScope, dropStale, attach, bare,
    isScalar_eq, declares, user, UserType.id]

end MessageSchema.Field
