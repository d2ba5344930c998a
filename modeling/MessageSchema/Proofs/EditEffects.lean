import MessageSchema.Proofs.Edits

/-! What an edit changes: the aspect of the field that it sets, and beyond that at most the attached
type, which goes exactly if the field would no longer fit it. An edit that is refused changes
nothing. -/
namespace MessageSchema

/-- What can be set in a field, and asked for. -/
inductive Aspect where
  | name | number | label | tag | declaredName | scope | defaultValue | target
deriving DecidableEq

abbrev Aspect.Value : Aspect → Type
  | .name => String
  | .number => UInt32
  | .label => Label
  | .tag => String
  | .declaredName => Option String
  | .scope => Option String
  | .defaultValue => Option DefaultValue
  | .target => Option UserType

namespace Edit

/-- What the edit sets. -/
def aspect : Edit → Aspect
  | name _ => .name
  | number _ => .number
  | label _ => .label
  | tag _ => .tag
  | declaredName _ => .declaredName
  | scope _ => .scope
  | defaultValue _ => .defaultValue
  | target _ => .target

/-- What it is set to. -/
def argument : (edit : Edit) → edit.aspect.Value
  | .name value => value
  | .number value => value
  | .label value => value
  | .tag value => value
  | .declaredName value => some value
  | .scope value => some value
  | .defaultValue value => some value
  | .target type => some type

end Edit

namespace Field

variable {field next : Field} {edit : Edit}

def get (field : Field) : (aspect : Aspect) → aspect.Value
  | .name => field.name
  | .number => field.number
  | .label => field.label
  | .tag => field.tag
  | .declaredName => field.declaredName
  | .scope => field.scope
  | .defaultValue => field.defaultValue
  | .target => field.target

theorem ext_get {other : Field} (same : ∀ aspect, field.get aspect = other.get aspect) :
    field = other := by
  have name : field.name = other.name := same .name
  have number : field.number = other.number := same .number
  have label : field.label = other.label := same .label
  have tag : field.tag = other.tag := same .tag
  have declaredName : field.declaredName = other.declaredName := same .declaredName
  have scope : field.scope = other.scope := same .scope
  have defaultValue : field.defaultValue = other.defaultValue := same .defaultValue
  have target : field.target = other.target := same .target
  cases field
  cases other
  simp_all

/-- The edit is granted, and the field becomes this one. -/
structure Granted (field : Field) (edit : Edit) (next : Field) : Prop where
  allowed : ∀ type, edit = .target type → field.FitFor type
  stored : next.get edit.aspect = edit.argument
  others : ∀ aspect, aspect ≠ edit.aspect → aspect ≠ .target → next.get aspect = field.get aspect
  target : edit.aspect ≠ .target → ∀ type,
    next.target = some type ↔ field.target = some type ∧ next.FitFor type

/-- The edit is refused for this. -/
inductive Refused (field : Field) : Edit → Error → Prop where
  | scalar : (Scalar.ofTag? field.tag).isSome →
      Refused field (.target type) (.scalarTarget field.name field.tag)
  | mismatch : Scalar.ofTag? field.tag = none → ¬ field.FitFor type →
      Refused field (.target type) (.targetMismatch field.name field.declaredFullName type.fullName)

theorem fitFor_iff {type : UserType} :
    field.FitFor type ↔ Scalar.ofTag? field.tag = none ∧ field.declares type.id := by
  rw [declares_iff]
  exact ⟨fun fit => ⟨fit.user, fit.name, fit.scope⟩, fun ⟨user, name, scope⟩ => ⟨user, name, scope⟩⟩

theorem attach_error_iff {type : UserType} {error : Error} :
    field.attach type = .error error ↔ field.Refused (.target type) error := by
  unfold attach
  cases spelled : Scalar.ofTag? field.tag with
  | some scalar =>
    simp only [isScalar_eq, spelled, Option.isSome_some, ↓reduceIte, Except.error.injEq]
    constructor
    · rintro rfl
      exact .scalar (by rw [spelled]; rfl)
    · rintro (_ | ⟨user, _⟩)
      · rfl
      · cases spelled.symm.trans user
  | none =>
    have fits : field.FitFor type ↔ field.declares type.id = true := by simp [fitFor_iff, spelled]
    simp only [isScalar_eq, spelled, Option.isSome_none, Bool.false_eq_true, ↓reduceIte]
    split
    · next declared =>
      simp only [reduceCtorEq, false_iff]
      rintro (scalar | ⟨_, unfit⟩)
      · simp [spelled] at scalar
      · exact unfit (fits.mpr declared)
    · next undeclared =>
      rw [Except.error.injEq]
      constructor
      · rintro rfl
        exact .mismatch spelled fun fit => undeclared (fits.mp fit)
      · rintro (scalar | _)
        · simp [spelled] at scalar
        · rfl

theorem apply_error_iff {error : Error} :
    field.apply edit = .error error ↔ field.Refused edit error := by
  cases edit with
  | target type => exact attach_error_iff
  | name | number | label | tag | declaredName | scope | defaultValue =>
    simp only [apply, reduceCtorEq, false_iff]
    intro refused
    cases refused

theorem target_dropStale_iff (declared : Field)
    (user : ∀ type, declared.target = some type → Scalar.ofTag? declared.tag = none)
    (type : UserType) :
    declared.dropStale.target = some type ↔
      declared.target = some type ∧ declared.dropStale.FitFor type := by
  rw [dropStale_target_iff, fitFor_iff]
  exact ⟨fun ⟨attached, declares⟩ => ⟨attached, user type attached, declares⟩,
    fun ⟨attached, _, declares⟩ => ⟨attached, declares⟩⟩

/-- The attached type after an edit that was granted, unless the edit attaches one itself. -/
theorem Consistent.target_iff (consistent : field.Consistent) (done : field.apply edit = .ok next)
    (other : edit.aspect ≠ .target) (type : UserType) :
    next.target = some type ↔ field.target = some type ∧ next.FitFor type := by
  have user (type : UserType) (attached : field.target = some type) :=
    (consistent type attached).user
  cases edit with
  | target => exact absurd rfl other
  | name | number | label | defaultValue =>
    cases done
    refine ⟨fun attached => ?_, And.left⟩
    have fit := consistent type attached
    exact ⟨attached, fit.user, fit.name, fit.scope⟩
  | tag tag =>
    cases done
    rw [setTag_eq]
    cases spelled : Scalar.ofTag? tag with
    | some scalar => simp [fitFor_iff, spelled]
    | none =>
      simp only [Option.isSome_none, Bool.false_eq_true, ↓reduceIte]
      refine ⟨fun attached => ?_, And.left⟩
      have fit := consistent type attached
      exact ⟨attached, spelled, fit.name, fit.scope⟩
  | declaredName name =>
    cases done
    exact target_dropStale_iff { field with declaredName := some name } user type
  | scope scope =>
    cases done
    exact target_dropStale_iff { field with scope := some scope } user type

theorem get_apply (done : field.apply edit = .ok next) :
    next.get edit.aspect = edit.argument ∧
      ∀ aspect, aspect ≠ edit.aspect → aspect ≠ .target → next.get aspect = field.get aspect := by
  cases edit with
  | name | number | label | declaredName | scope | defaultValue =>
    cases done
    refine ⟨rfl, fun aspect other notTarget => ?_⟩
    cases aspect <;> simp_all [Edit.aspect, get, setDeclaredName, setScope, dropStale]
  | tag tag =>
    cases done
    rw [setTag_eq]
    refine ⟨rfl, fun aspect other notTarget => ?_⟩
    cases aspect <;> simp_all [Edit.aspect, get]
  | target type =>
    obtain ⟨_, _, rfl⟩ := attach_ok_iff.mp done
    refine ⟨rfl, fun aspect other _ => ?_⟩
    cases aspect <;> simp_all [Edit.aspect, get]

theorem fitFor_congr {other : Field} (tag : next.tag = other.tag)
    (declaredName : next.declaredName = other.declaredName) (scope : next.scope = other.scope)
    (type : UserType) : next.FitFor type ↔ other.FitFor type := by
  simp only [fitFor_iff, declares_iff, tag, declaredName, scope]

/-- What an edit that is granted may leave behind is settled by the conditions on it. -/
theorem Granted.unique {other : Field} (granted : field.Granted edit next)
    (again : field.Granted edit other) : next = other := by
  have set : next.get edit.aspect = other.get edit.aspect := granted.stored.trans again.stored.symm
  have same : ∀ aspect, aspect ≠ .target → next.get aspect = other.get aspect := by
    intro aspect notTarget
    by_cases own : aspect = edit.aspect
    · rw [own]
      exact set
    · exact (granted.others aspect own notTarget).trans (again.others aspect own notTarget).symm
  -- Which type fits depends on the other aspects, so the target is settled after them.
  have target : next.target = other.target := by
    by_cases attaches : edit.aspect = .target
    · rw [attaches] at set
      exact set
    · refine Option.ext fun type => ?_
      rw [granted.target attaches, again.target attaches, fitFor_congr (same .tag (by decide))
        (same .declaredName (by decide)) (same .scope (by decide))]
  refine ext_get fun aspect => ?_
  by_cases isTarget : aspect = .target
  · subst isTarget
    exact target
  · exact same aspect isTarget

theorem Consistent.apply_ok_iff (consistent : field.Consistent) :
    field.apply edit = .ok next ↔ field.Granted edit next := by
  have grants {result : Field} (done : field.apply edit = .ok result) :
      field.Granted edit result := by
    refine ⟨?_, (get_apply done).1, (get_apply done).2, consistent.target_iff done⟩
    rintro type rfl
    obtain ⟨user, declares, _⟩ := attach_ok_iff.mp done
    exact fitFor_iff.mpr ⟨user, declares⟩
  refine ⟨grants, fun granted => ?_⟩
  cases outcome : field.apply edit with
  | ok result => rw [(grants outcome).unique granted]
  | error error =>
    cases apply_error_iff.mp outcome with
    | scalar scalar => simp [(granted.allowed _ rfl).user] at scalar
    | mismatch _ unfit => exact absurd (granted.allowed _ rfl) unfit

/-- All that an edit can do to a field, and when it does it. -/
structure Effects (field : Field) (edit : Edit) : Prop where
  granted : ∀ next, field.apply edit = .ok next ↔ field.Granted edit next
  refused : ∀ error, field.apply edit = .error error ↔ field.Refused edit error
  unchanged : ∀ error, field.Refused edit error → field.edited edit = field
  attaches : ∀ type, edit = .target type →
    ((∃ next, field.apply edit = .ok next) ↔ field.FitFor type)
  kept : edit.aspect ∉ [.tag, .declaredName, .scope, .target] →
    (field.edited edit).target = field.target

theorem Consistent.effects (consistent : field.Consistent) (edit : Edit) : field.Effects edit where
  granted := fun _ => consistent.apply_ok_iff
  refused := fun _ => apply_error_iff
  unchanged := fun _ refused => edited_error (apply_error_iff.mpr refused)
  attaches := by
    rintro type rfl
    simp [apply, attach_ok_iff, fitFor_iff]
  kept := by
    intro other
    cases edit with
    | name | number | label | defaultValue => rfl
    | tag | declaredName | scope | target => simp [Edit.aspect] at other

/-- Whatever was asked of a field before, the next edit changes what it should and nothing else. -/
theorem edits_confined (name : String) (number : UInt32) (label : Label) (tag : String)
    (edits : List Edit) (edit : Edit) :
    ((bare name number label tag).editedBy edits).Effects edit :=
  ((consistent_bare name number label tag).editedBy edits).effects edit

theorem get_edited_of_ne {aspect : Aspect} (other : edit.aspect ≠ aspect)
    (notTarget : aspect ≠ .target) : (field.edited edit).get aspect = field.get aspect := by
  cases outcome : field.apply edit with
  | ok next =>
    rw [edited_ok outcome]
    exact (get_apply outcome).2 aspect other.symm notTarget
  | error error => rw [edited_error outcome]

theorem get_editedBy_of_ne {aspect : Aspect} {edits : List Edit}
    (others : ∀ edit ∈ edits, edit.aspect ≠ aspect) (notTarget : aspect ≠ .target) :
    (field.editedBy edits).get aspect = field.get aspect := by
  induction edits generalizing field with
  | nil => rfl
  | cons edit rest ih =>
    obtain ⟨other, later⟩ := List.forall_mem_cons.mp others
    exact (ih later).trans (get_edited_of_ne other notTarget)

/-- A field answers with what was set last, whatever else was asked of it. -/
theorem get_editedBy_last (field : Field) {before after : List Edit}
    (notTarget : edit.aspect ≠ .target)
    (last : ∀ later ∈ after, later.aspect ≠ edit.aspect) :
    (field.editedBy (before ++ edit :: after)).get edit.aspect = edit.argument := by
  rw [editedBy, List.foldl_append, List.foldl_cons]
  refine (get_editedBy_of_ne last notTarget).trans ?_
  cases outcome : (field.editedBy before).apply edit with
  | ok next => exact (congrArg (·.get edit.aspect) (edited_ok outcome)).trans (get_apply outcome).1
  | error error => cases apply_error_iff.mp outcome <;> exact absurd rfl notTarget

/-- An empty scope is not an absent one, so it lets go of a type without a scope. -/
example :
    let shade := (bare "shade" 1 .optional "Color").editedBy
      [.declaredName "Color", .target (.message ⟨"Color", none⟩)]
    shade.isResolved = true ∧ (shade.edited (.scope "")).isResolved = false := ⟨rfl, rfl⟩

end Field

end MessageSchema
