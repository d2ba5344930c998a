/-! Dotted names. A name is qualified by the scope that declares it, and a relative name is looked
up from a scope outward: each step drops the last component, and the root scope comes last. -/
namespace MessageSchema.Dotted

/-- The name as seen from the root: an absent or empty scope adds nothing. -/
def qualify (scope : Option String) (name : String) : String :=
  match scope with
  | none => name
  | some outer => if outer = "" then name else outer ++ "." ++ name

/-- The parts of a text around its last dot. -/
def splitLast? : List Char → Option (List Char × List Char)
  | [] => none
  | c :: rest =>
    match splitLast? rest with
    | some (outer, last) => some (c :: outer, last)
    | none => if c = '.' then some ([], rest) else none

theorem length_splitLast? {text outer last : List Char} (cut : splitLast? text = some (outer, last)) :
    outer.length + last.length + 1 = text.length := by
  induction text generalizing outer with
  | nil => simp [splitLast?] at cut
  | cons c rest ih =>
    unfold splitLast? at cut
    split at cut
    · next found =>
      cases cut
      have := ih found
      simp only [List.length_cons]
      omega
    · split at cut
      · cases cut
        simp
      · cases cut

/-- The next scope outward. The root scope is the empty name and has none. -/
def outer? (scope : List Char) : Option (List Char) :=
  match splitLast? scope with
  | some (outer, _) => some outer
  | none => if scope = [] then none else some []

theorem length_outer? {scope outer : List Char} (step : outer? scope = some outer) :
    outer.length < scope.length := by
  unfold outer? at step
  split at step
  · next found =>
    cases step
    have := length_splitLast? found
    omega
  · split at step
    · cases step
    · next nonempty =>
      cases step
      exact List.length_pos_iff.mpr nonempty

/-- The scope and every scope around it, innermost first. -/
def outward (scope : List Char) : List (List Char) :=
  match _step : outer? scope with
  | some outer => scope :: outward outer
  | none => [scope]
termination_by scope.length
decreasing_by exact length_outer? _step

/-- The scopes in which a relative reference made inside `scope` is tried, in order. -/
def scopes (scope : String) : List String :=
  (outward scope.toList).map String.ofList

/-- The name behind a leading dot, which makes a reference absolute. -/
def absolute? (reference : String) : Option String :=
  match reference.toList with
  | '.' :: name => some (String.ofList name)
  | _ => none

/-- The reference less all of its leading dots, cut at its last dot into scope and name. -/
def written (reference : String) : Option String × String :=
  let text := reference.toList.dropWhile (· = '.')
  match splitLast? text with
  | some (outer, last) => (some (String.ofList outer), String.ofList last)
  | none => (none, String.ofList text)

end MessageSchema.Dotted
