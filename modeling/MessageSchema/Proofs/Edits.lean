import Mathlib.Logic.ExistsUnique
import MessageSchema.Field

/-! Fields under edits. Whatever is asked for, and in whatever order, a type that is attached stays
the one that the field declares. So each field is of exactly one kind, and all that it answers about
its type follows from the kind. -/
namespace MessageSchema.Field

variable {field next : Field} {type : UserType}

/-- The field after an edit was asked for. A refused edit leaves it as it was. -/
def edited (field : Field) (edit : Edit) : Field :=
  match field.apply edit with
  | .ok next => next
  | .error _ => field

/-- The field after edits were asked for one by one. -/
def editedBy (field : Field) (edits : List Edit) : Field :=
  edits.foldl edited field

theorem edited_ok {edit : Edit} (accepted : field.apply edit = .ok next) :
    field.edited edit = next := by
  simp [edited, accepted]

theorem edited_error {edit : Edit} {error : Error} (refused : field.apply edit = .error error) :
    field.edited edit = field := by
  simp [edited, refused]

theorem declares_iff {id : TypeName} :
    field.declares id = true ↔ field.declaredName = some id.name ∧ field.scope = id.scope := by
  simp [declares]

theorem dropStale_target_iff :
    field.dropStale.target = some type ↔ field.target = some type ∧ field.declares type.id := by
  simp [dropStale, Option.filter_eq_some_iff]

theorem setTag_eq (field : Field) (tag : String) :
    field.setTag tag =
      { field with
        tag := tag
        target := if (Scalar.ofTag? tag).isSome then none else field.target } := by
  cases spelled : Scalar.ofTag? tag <;> simp [setTag, isScalar_eq, spelled]

theorem attach_ok_iff :
    field.attach type = .ok next ↔
      Scalar.ofTag? field.tag = none ∧ field.declares type.id ∧
        next = { field with target := some type } := by
  unfold attach
  cases spelled : Scalar.ofTag? field.tag with
  | some scalar => simp [isScalar_eq, spelled]
  | none =>
    by_cases declared : field.declares type.id <;> simp [isScalar_eq, spelled, declared, eq_comm]

/-- The type is one that the field can refer to and the one that it declares. An absent scope is
declared by an absent scope only, not by an empty one. -/
structure FitFor (field : Field) (type : UserType) : Prop where
  user : Scalar.ofTag? field.tag = none
  name : field.declaredName = some type.id.name
  scope : field.scope = type.id.scope

def Consistent (field : Field) : Prop :=
  ∀ type, field.target = some type → field.FitFor type

theorem consistent_bare (name : String) (number : UInt32) (label : Label) (tag : String) :
    (bare name number label tag).Consistent := by
  intro type attached
  cases attached

/-- A changed declaration keeps an attached type only where it still declares it. -/
theorem consistent_dropStale
    (user : ∀ type, field.target = some type → Scalar.ofTag? field.tag = none) :
    field.dropStale.Consistent := by
  intro type attached
  obtain ⟨attached, declared⟩ := dropStale_target_iff.mp attached
  obtain ⟨name, scope⟩ := declares_iff.mp declared
  exact ⟨user type attached, name, scope⟩

theorem Consistent.setTag (consistent : field.Consistent) (tag : String) :
    (field.setTag tag).Consistent := by
  rw [setTag_eq]
  intro type attached
  cases spelled : Scalar.ofTag? tag with
  | some scalar => simp [spelled] at attached
  | none =>
    have fit := consistent type (by simpa [spelled] using attached)
    exact ⟨spelled, fit.name, fit.scope⟩

theorem consistent_of_attach (attached : field.attach type = .ok next) : next.Consistent := by
  obtain ⟨user, declared, rfl⟩ := attach_ok_iff.mp attached
  obtain ⟨name, scope⟩ := declares_iff.mp declared
  intro other same
  cases same
  exact ⟨user, name, scope⟩

theorem Consistent.edited (consistent : field.Consistent) (edit : Edit) :
    (field.edited edit).Consistent := by
  cases edit with
  | name | number | label | defaultValue =>
    intro type attached
    have fit := consistent type attached
    exact ⟨fit.user, fit.name, fit.scope⟩
  | tag tag => exact consistent.setTag tag
  | declaredName name | scope name =>
    exact consistent_dropStale fun type attached => (consistent type attached).user
  | target type =>
    cases outcome : field.apply (.target type) with
    | ok next =>
      rw [edited_ok outcome]
      exact consistent_of_attach outcome
    | error error =>
      rw [edited_error outcome]
      exact consistent

theorem Consistent.editedBy (consistent : field.Consistent) (edits : List Edit) :
    (field.editedBy edits).Consistent := by
  induction edits generalizing field with
  | nil => exact consistent
  | cons edit rest ih => exact ih (consistent.edited edit)

/-- What the type of a field can turn out to be. -/
inductive Kind where
  | scalar | enum | message | unresolved

/-- Whether the field counts itself to a kind. -/
def HasKind (field : Field) : Kind → Prop
  | .scalar => field.isScalar
  | .enum => field.isEnum
  | .message => field.isMessage
  | .unresolved => ¬ field.isScalar ∧ ¬ field.isResolved

def kind (field : Field) : Kind :=
  match Scalar.ofTag? field.tag, field.target with
  | some _, _ => .scalar
  | none, some (.enum _) => .enum
  | none, some (.message _) => .message
  | none, none => .unresolved

/-- Without consistency a field could count itself to two kinds. -/
theorem Consistent.hasKind_iff (consistent : field.Consistent) (kind : Kind) :
    field.HasKind kind ↔ field.kind = kind := by
  cases attached : field.target with
  | none =>
    cases spelled : Scalar.ofTag? field.tag <;> cases kind <;>
      simp [HasKind, Field.kind, isScalar_eq, isEnum, isMessage, isResolved, attached, spelled]
  | some type =>
    have user := (consistent type attached).user
    cases type <;> cases kind <;>
      simp [HasKind, Field.kind, isScalar_eq, isEnum, isMessage, isResolved, attached, user,
        UserType.asEnum?, UserType.asMessage?]

theorem Consistent.of_enum (consistent : field.Consistent) (enum : field.HasKind .enum) :
    Scalar.ofTag? field.tag = none ∧ ∃ e, field.target = some (.enum e) := by
  have same := (consistent.hasKind_iff .enum).mp enum
  unfold kind at same
  split at same
  case h_2 user attached => exact ⟨user, _, attached⟩
  all_goals cases same

theorem Consistent.of_message (consistent : field.Consistent) (message : field.HasKind .message) :
    Scalar.ofTag? field.tag = none ∧ ∃ id, field.target = some (.message id) := by
  have same := (consistent.hasKind_iff .message).mp message
  unfold kind at same
  split at same
  case h_3 user attached => exact ⟨user, _, attached⟩
  all_goals cases same

theorem of_unresolved (unresolved : field.HasKind .unresolved) :
    Scalar.ofTag? field.tag = none ∧ field.target = none := by
  simpa [HasKind, isScalar_eq, isResolved] using unresolved

/-- The answers of a field about its type agree with its kind. -/
structure Answers (field : Field) : Prop where
  wire : field.scalar?.isSome ↔ field.HasKind .scalar
  primitive : field.hasNative ↔ field.HasKind .scalar
  category : (∃ category, field.category = .ok category) ↔ field.HasKind .scalar
  native : (∃ native, field.native = .ok native) ↔ field.HasKind .scalar
  scalarName : ∀ scalar, field.scalar? = some scalar → field.typeName = scalar.native
  enumName : field.HasKind .enum → field.typeName = "int"
  messageName : field.HasKind .message → field.typeName = field.tag
  unresolvedName : field.HasKind .unresolved → field.typeName = field.tag
  messageDefault : field.HasKind .message → ∀ literal,
    field.readDefault literal = .error (.invalidDefault field.name literal .messageField)
  unresolvedDefault : field.HasKind .unresolved → ∀ literal,
    field.readDefault literal = .error (.invalidDefault field.name literal (.unresolved field.tag))

theorem Consistent.answers (consistent : field.Consistent) : field.Answers where
  wire := by simp [HasKind, scalar?, isScalar_eq]
  primitive := by simp [HasKind, hasNative, Scalar.nativeOf?, isScalar_eq]
  category := by
    cases spelled : Scalar.ofTag? field.tag <;>
      simp [HasKind, Field.category, Scalar.categoryOf?, isScalar_eq, spelled]
  native := by
    cases spelled : Scalar.ofTag? field.tag <;>
      simp [HasKind, Field.native, Scalar.nativeOf?, isScalar_eq, spelled]
  scalarName := by
    intro scalar spelled
    rw [scalar?] at spelled
    simp [typeName, Scalar.nativeOf?, spelled]
  enumName := by
    intro enum
    obtain ⟨user, e, attached⟩ := consistent.of_enum enum
    simp [typeName, Scalar.nativeOf?, isEnum, user, attached, UserType.asEnum?, nativeInt]
  messageName := by
    intro message
    obtain ⟨user, id, attached⟩ := consistent.of_message message
    simp [typeName, Scalar.nativeOf?, isEnum, user, attached, UserType.asEnum?]
  unresolvedName := by
    intro unresolved
    obtain ⟨user, absent⟩ := of_unresolved unresolved
    simp [typeName, Scalar.nativeOf?, isEnum, user, absent]
  messageDefault := by
    intro message literal
    obtain ⟨user, id, attached⟩ := consistent.of_message message
    simp only [readDefault, scalar?, user, attached, DefaultValue.ofUserLiteral]
    rfl
  unresolvedDefault := by
    intro unresolved literal
    obtain ⟨user, absent⟩ := of_unresolved unresolved
    simp only [readDefault, scalar?, user, absent, DefaultValue.ofUserLiteral]
    rfl

/-- Whatever edits are asked for, granted or refused, the field is consistent and of one kind. -/
theorem edited_field_consistent (name : String) (number : UInt32) (label : Label) (tag : String)
    (edits : List Edit) :
    ((bare name number label tag).editedBy edits).Consistent ∧
      (∃! kind, ((bare name number label tag).editedBy edits).HasKind kind) ∧
      ((bare name number label tag).editedBy edits).Answers := by
  have consistent := (consistent_bare name number label tag).editedBy edits
  refine ⟨consistent, ?_, consistent.answers⟩
  simp only [consistent.hasKind_iff]
  exact ⟨_, rfl, fun kind same => same.symm⟩

end MessageSchema.Field
