import Mathlib.Data.List.Perm.Basic
import MessageSchema.Proofs.EditEffects

/-! Edits of different aspects may be made in any order. Which type stays attached is settled by the
aspects that the field ends up with, since each of them is set by one edit at most. -/
namespace MessageSchema.Field

variable {field : Field} {edits others : List Edit}

/-- Edits that each set an aspect of their own, and that attach nothing. -/
structure Independent (edits : List Edit) : Prop where
  apart : edits.Pairwise fun edit other => edit.aspect ≠ other.aspect
  sets : ∀ edit ∈ edits, edit.aspect ≠ .target

theorem independent_cons_iff {edit : Edit} :
    Independent (edit :: edits) ↔ edit.aspect ≠ .target ∧
      (∀ other ∈ edits, other.aspect ≠ edit.aspect) ∧ Independent edits := by
  constructor
  · rintro ⟨apart, sets⟩
    obtain ⟨first, apart⟩ := List.pairwise_cons.mp apart
    obtain ⟨own, sets⟩ := List.forall_mem_cons.mp sets
    exact ⟨own, fun other member => (first other member).symm, apart, sets⟩
  · rintro ⟨own, first, apart, sets⟩
    exact ⟨List.pairwise_cons.mpr ⟨fun other member => (first other member).symm, apart⟩,
      List.forall_mem_cons.mpr ⟨own, sets⟩⟩

theorem Independent.perm (independent : Independent edits) (perm : edits.Perm others) :
    Independent others where
  apart := perm.pairwise independent.apart Ne.symm
  sets edit member := independent.sets edit (perm.mem_iff.mpr member)

/-- An aspect that the first edit has set is not touched again, and it has touched no other. -/
theorem get_between {edit : Edit} (later : ∀ other ∈ edits, other.aspect ≠ edit.aspect)
    (aspect : Aspect) (notTarget : aspect ≠ .target) :
    (field.edited edit).get aspect = field.get aspect ∨
      (field.edited edit).get aspect = ((field.edited edit).editedBy edits).get aspect := by
  by_cases own : edit.aspect = aspect
  · subst own
    exact .inr (get_editedBy_of_ne later notTarget).symm
  · exact .inl (get_edited_of_ne own notTarget)

/-- A type that fits before and after a run of independent edits fits on the way as well. -/
theorem FitFor.between {edit : Edit} {type : UserType} (before : field.FitFor type)
    (after : ((field.edited edit).editedBy edits).FitFor type)
    (later : ∀ other ∈ edits, other.aspect ≠ edit.aspect) : (field.edited edit).FitFor type := by
  have tag : (field.edited edit).tag = field.tag ∨ (field.edited edit).tag = _ :=
    get_between later .tag (by decide)
  have name : (field.edited edit).declaredName = field.declaredName ∨
      (field.edited edit).declaredName = _ := get_between later .declaredName (by decide)
  have scope : (field.edited edit).scope = field.scope ∨ (field.edited edit).scope = _ :=
    get_between later .scope (by decide)
  constructor
  · rcases tag with same | same <;> rw [same]
    · exact before.user
    · exact after.user
  · rcases name with same | same <;> rw [same]
    · exact before.name
    · exact after.name
  · rcases scope with same | same <;> rw [same]
    · exact before.scope
    · exact after.scope

theorem Consistent.edited_target_iff (consistent : field.Consistent) {edit : Edit}
    (sets : edit.aspect ≠ .target) (type : UserType) :
    (field.edited edit).target = some type ↔
      field.target = some type ∧ (field.edited edit).FitFor type := by
  cases outcome : field.apply edit with
  | ok next =>
    rw [edited_ok outcome]
    exact consistent.target_iff outcome sets type
  | error error =>
    rw [edited_error outcome]
    exact ⟨fun attached => ⟨attached, consistent type attached⟩, And.left⟩

/-- A type stays attached through independent edits exactly if it fits the field at the end. -/
theorem Consistent.target_editedBy_iff (consistent : field.Consistent)
    (independent : Independent edits)
    (type : UserType) :
    (field.editedBy edits).target = some type ↔
      field.target = some type ∧ (field.editedBy edits).FitFor type := by
  induction edits generalizing field with
  | nil => exact ⟨fun attached => ⟨attached, consistent type attached⟩, And.left⟩
  | cons edit rest ih =>
    obtain ⟨sets, later, independent⟩ := independent_cons_iff.mp independent
    have run := ih (consistent.edited edit) independent
    have step := consistent.edited_target_iff sets type
    constructor
    · intro kept
      obtain ⟨attached, fit⟩ := run.mp kept
      exact ⟨(step.mp attached).1, fit⟩
    · rintro ⟨attached, fit⟩
      have between := (consistent type attached).between fit later
      exact run.mpr ⟨step.mpr ⟨attached, between⟩, fit⟩

/-- What an independent run leaves in an aspect depends on the edits in it and not
on their order. -/
theorem get_editedBy_perm (independent : Independent edits) (perm : edits.Perm others)
    {aspect : Aspect} (notTarget : aspect ≠ .target) :
    (field.editedBy edits).get aspect = (field.editedBy others).get aspect := by
  by_cases set : ∃ edit ∈ edits, edit.aspect = aspect
  · obtain ⟨edit, member, rfl⟩ := set
    have last {run : List Edit} (apart : Independent run) (member : edit ∈ run) :
        (field.editedBy run).get edit.aspect = edit.argument := by
      obtain ⟨before, after, rfl⟩ := List.append_of_mem member
      obtain ⟨_, suffix, _⟩ := List.pairwise_append.mp apart.apart
      refine get_editedBy_last field notTarget fun later inside => ?_
      exact ((List.pairwise_cons.mp suffix).1 later inside).symm
    exact (last independent member).trans
      (last (independent.perm perm) (perm.mem_iff.mp member)).symm
  · have untouched : ∀ edit ∈ edits, edit.aspect ≠ aspect := by simpa using set
    rw [get_editedBy_of_ne untouched notTarget, get_editedBy_of_ne _ notTarget]
    exact fun edit member => untouched edit (perm.mem_iff.mpr member)

theorem Consistent.editedBy_perm (consistent : field.Consistent) (independent : Independent edits)
    (perm : edits.Perm others) : field.editedBy edits = field.editedBy others := by
  have same (aspect : Aspect) : aspect ≠ .target →
      (field.editedBy edits).get aspect = (field.editedBy others).get aspect :=
    get_editedBy_perm independent perm
  refine ext_get fun aspect => ?_
  by_cases isTarget : aspect = .target
  · subst isTarget
    refine Option.ext fun type => ?_
    have fits := fitFor_congr (same .tag (by decide)) (same .declaredName (by decide))
      (same .scope (by decide)) type
    have other := consistent.target_editedBy_iff (independent.perm perm) type
    have here := consistent.target_editedBy_iff independent type
    exact here.trans ((and_congr_right' fits).trans other.symm)
  · exact same aspect isTarget

/-- Whatever was asked of a field before, two setters of different aspects may change places. The
type attached before them stays exactly if it fits the field that both leave. -/
theorem setters_commute (name : String) (number : UInt32) (label : Label) (tag : String)
    (edits : List Edit) {first second : Edit} (firstSets : first.aspect ≠ .target)
    (secondSets : second.aspect ≠ .target) (different : first.aspect ≠ second.aspect) :
    let field := (bare name number label tag).editedBy edits
    (field.edited first).edited second = (field.edited second).edited first ∧
      ∀ type, ((field.edited first).edited second).target = some type ↔
        field.target = some type ∧ ((field.edited first).edited second).FitFor type := by
  have consistent := (consistent_bare name number label tag).editedBy edits
  have independent : Independent [first, second] :=
    ⟨by simpa using different, by simpa using ⟨firstSets, secondSets⟩⟩
  exact ⟨consistent.editedBy_perm independent (.swap second first []),
    consistent.target_editedBy_iff independent⟩

/-- The first edit alone would let go of the type, and the second alone would keep it. -/
theorem shade_setters_commute :
    let shade := (bare "shade" 1 .optional "Color").editedBy
      [.declaredName "Color", .scope "shop", .target (.message ⟨"Color", some "shop"⟩)]
    shade.isResolved = true ∧
      (shade.edited (.declaredName "Colour")).isResolved = false ∧
      (shade.edited (.tag "Tint")).isResolved = true ∧
      (shade.edited (.declaredName "Colour")).edited (.tag "Tint") =
        (shade.edited (.tag "Tint")).edited (.declaredName "Colour") ∧
      ∀ type, ((shade.edited (.declaredName "Colour")).edited (.tag "Tint")).target = some type ↔
        shade.target = some type ∧
          ((shade.edited (.declaredName "Colour")).edited (.tag "Tint")).FitFor type :=
  ⟨rfl, rfl, rfl, @setters_commute "shade" 1 .optional "Color"
    [.declaredName "Color", .scope "shop", .target (.message ⟨"Color", some "shop"⟩)]
    (.declaredName "Colour") (.tag "Tint") (by decide) (by decide) (by decide)⟩

end MessageSchema.Field
