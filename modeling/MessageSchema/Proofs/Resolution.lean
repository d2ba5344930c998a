import MessageSchema.Proofs.Registration
import MessageSchema.Proofs.Sites

/-! What a reference denotes, told without a registry: the declared full names of the whole
document, wherever they stand, and for a relative reference the scopes around it in order. -/
namespace MessageSchema

/-- The scopes around a scope, longest first, from itself to the root. -/
def Dotted.around (scope : String) : List String :=
  (Dotted.enclosing scope.toList).map String.ofList

namespace Document

/-- Some enum or message of the document, at any depth, has the full name. -/
def Names (document : Document) (fullName : String) : Prop :=
  ∃ type ∈ document.declared, type.fullName = fullName

inductive Denotes (document : Document) (scope : String) : String → UserType → Prop where
  | absolute : type ∈ document.declared →
      Denotes document scope ("." ++ type.fullName) type
  | relative : (∀ name, reference ≠ "." ++ name) →
      Dotted.around scope = tried ++ outer :: beyond →
      (∀ closer ∈ tried, ¬ document.Names (Dotted.qualify (some closer) reference)) →
      type ∈ document.declared → type.fullName = Dotted.qualify (some outer) reference →
      Denotes document scope reference type

theorem Denotes.declared {document : Document} {scope reference : String} {type : UserType}
    (denotes : document.Denotes scope reference type) : type ∈ document.declared := by
  cases denotes with
  | absolute declared => exact declared
  | relative _ _ _ declared _ => exact declared

/-- One dot at the front takes the rest as a full name; without it the scopes decide. -/
def Reaches (document : Document) (scope reference : String) : Prop :=
  (∃ name, reference = "." ++ name ∧ document.Names name) ∨
    ((∀ name, reference ≠ "." ++ name) ∧
      ∃ outer ∈ Dotted.around scope, document.Names (Dotted.qualify (some outer) reference))

end Document

theorem Dotted.absolute?_eq_none_iff {reference : String} :
    absolute? reference = none ↔ ∀ name, reference ≠ "." ++ name := by
  simp [Option.eq_none_iff_forall_ne_some, absolute?_eq_some_iff]

namespace Registry

variable {document : Document} {registry : Registry}

theorem find?_eq_none_iff_not_names (filled : ofTypes document.declared = .ok registry)
    {fullName : String} : registry.find? fullName = none ↔ ¬ document.Names fullName := by
  simp [find?_ofTypes_eq_none_iff filled, Document.Names]

theorem resolve?_eq_some_iff (filled : ofTypes document.declared = .ok registry)
    {scope reference : String} {type : UserType} :
    registry.resolve? scope reference = some type ↔ document.Denotes scope reference type := by
  unfold resolve?
  cases start : Dotted.absolute? reference with
  | some name =>
    have same := Dotted.absolute?_eq_some_iff.mp start
    simp only [find?_ofTypes filled]
    constructor
    · rintro ⟨declared, rfl⟩
      exact same ▸ .absolute declared
    · intro denotes
      cases denotes with
      | absolute declared =>
        rw [Dotted.absolute?_eq_some_iff.mpr rfl] at start
        exact ⟨declared, Option.some.inj start⟩
      | relative notAbsolute _ _ _ _ => exact absurd same (notAbsolute name)
  | none =>
    have notAbsolute := Dotted.absolute?_eq_none_iff.mp start
    simp only [Dotted.scopes_eq_enclosing, List.findSome?_eq_some_iff, find?_ofTypes filled,
      find?_eq_none_iff_not_names filled]
    constructor
    · rintro ⟨tried, outer, beyond, path, ⟨declared, named⟩, closer⟩
      exact .relative notAbsolute path closer declared named
    · intro denotes
      cases denotes with
      | absolute declared => exact absurd rfl (notAbsolute _)
      | @relative _ tried outer beyond _ _ path closer declared named =>
        exact ⟨tried, outer, beyond, path, ⟨declared, named⟩, closer⟩

theorem resolve?_isSome_iff (filled : ofTypes document.declared = .ok registry)
    {scope reference : String} :
    (registry.resolve? scope reference).isSome ↔ document.Reaches scope reference := by
  unfold resolve? Document.Reaches
  cases start : Dotted.absolute? reference with
  | some name =>
    have same := Dotted.absolute?_eq_some_iff.mp start
    simp [Option.isSome_iff_ne_none, find?_eq_none_iff_not_names filled, same]
  | none =>
    have notAbsolute := Dotted.absolute?_eq_none_iff.mp start
    simp [Option.isSome_iff_ne_none, Dotted.scopes_eq_enclosing, Dotted.around,
      find?_eq_none_iff_not_names filled, notAbsolute]

/-- The search of a relative reference between two turns. -/
inductive Search where
  | trying (scope : List Char)
  | over (found : Option UserType)

/-- One turn tries the current scope and steps outward. -/
def turn (registry : Registry) (reference : String) : Search → Search
  | .trying scope =>
    match registry.find? (Dotted.qualify (some (String.ofList scope)) reference) with
    | some type => .over (some type)
    | none =>
      match Dotted.outer? scope with
      | some outer => .trying outer
      | none => .over none
  | .over found => .over found

theorem turn_found {reference : String} {scope : List Char} {type : UserType}
    (found : registry.find? (Dotted.qualify (some (String.ofList scope)) reference) = some type) :
    registry.turn reference (.trying scope) = .over (some type) := by
  simp [turn, found]

theorem turn_missed {reference : String} {scope outer : List Char}
    (missed : registry.find? (Dotted.qualify (some (String.ofList scope)) reference) = none)
    (step : Dotted.outer? scope = some outer) :
    registry.turn reference (.trying scope) = .trying outer := by
  simp [turn, missed, step]

theorem turn_root (registry : Registry) (reference : String) :
    registry.turn reference (.trying []) =
      .over (registry.find? (Dotted.qualify (some "") reference)) := by
  cases found : registry.find? (Dotted.qualify (some "") reference) <;>
    simp [turn, found, Dotted.outer?, Dotted.splitLast?]

/-- Each dot of the scope costs one turn at most, and the root one more. -/
theorem turns_over (registry : Registry) (reference : String) (scope : List Char) :
    ∃ turns, turns ≤ scope.count '.' + 2 ∧
      (registry.turn reference)^[turns] (.trying scope) =
        .over ((Dotted.outward scope).findSome? fun outer =>
          registry.find? (Dotted.qualify (some (String.ofList outer)) reference)) := by
  -- A miss leaves the search where it would start from the outer scope, so the turns of the outer
  -- search are those left.
  induction scope using Dotted.dottedInduction with
  | dotless scope free =>
    by_cases nonempty : scope = []
    · refine ⟨1, by omega, ?_⟩
      subst scope
      simp [turn_root, Dotted.outward_nil]
    · have step : Dotted.outer? scope = some [] := by simp [Dotted.outer?_dotless free, nonempty]
      rw [Dotted.outward_dotless free nonempty]
      cases found : registry.find? (Dotted.qualify (some (String.ofList scope)) reference) with
      | some type => exact ⟨1, by omega, by simp [turn_found found, found]⟩
      | none => exact ⟨2, by omega, by simp [turn_missed found step, turn_root, found]⟩
  | split outer last free ih =>
    rw [Dotted.outward_append free, List.findSome?_cons]
    cases found : registry.find?
        (Dotted.qualify (some (String.ofList (outer ++ '.' :: last))) reference) with
    | some type => exact ⟨1, by omega, turn_found found⟩
    | none =>
      obtain ⟨turns, bound, ends⟩ := ih
      refine ⟨turns + 1, ?_, ?_⟩
      · simp only [List.count_append, List.count_cons_self]
        omega
      · rw [Function.iterate_succ_apply, turn_missed found (Dotted.outer?_append free outer), ends]

/-- The search ends, whatever is registered, and its end is the resolved type. -/
theorem search_ends (registry : Registry) {scope reference : String}
    (relative : Dotted.absolute? reference = none) :
    ∃ turns, turns ≤ scope.toList.count '.' + 2 ∧
      (registry.turn reference)^[turns] (.trying scope.toList) =
        .over (registry.resolve? scope reference) := by
  obtain ⟨turns, bound, ends⟩ := registry.turns_over reference scope.toList
  refine ⟨turns, bound, ends.trans ?_⟩
  simp [resolve?, relative, Dotted.scopes, List.findSome?_map, Function.comp_def]

end Registry

end MessageSchema
