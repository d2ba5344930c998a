import Mathlib.Data.List.Infix
import MessageSchema.Dotted

/-! The search outward visits exactly the scope, its prefixes that end just before a dot, and the
root, longest first. Scopes are arbitrary texts: dots may lead, trail or follow each other. -/
namespace MessageSchema.Dotted

theorem splitLast?_eq_none {text : List Char} (free : '.' ∉ text) : splitLast? text = none := by
  induction text with
  | nil => rfl
  | cons c rest ih =>
    simp only [List.mem_cons, not_or] at free
    simp [splitLast?, ih free.2, Ne.symm free.1]

theorem splitLast?_append {last : List Char} (free : '.' ∉ last) (outer : List Char) :
    splitLast? (outer ++ '.' :: last) = some (outer, last) := by
  induction outer with
  | nil => simp [splitLast?, splitLast?_eq_none free]
  | cons c outer ih => simp [splitLast?, ih]

/-- Every text either has no dot or is cut at its last one. -/
theorem dotless_or_split (text : List Char) :
    '.' ∉ text ∨ ∃ outer last, text = outer ++ '.' :: last ∧ '.' ∉ last := by
  induction text with
  | nil => exact .inl (by simp)
  | cons c rest ih =>
    rcases ih with free | ⟨outer, last, rfl, free⟩
    · by_cases dot : c = '.'
      · exact .inr ⟨[], rest, by simp [dot], free⟩
      · exact .inl (by simp [Ne.symm dot, free])
    · exact .inr ⟨c :: outer, last, by simp, free⟩

/-- Cutting at the last dot reaches every text from a dotless one. -/
theorem dottedInduction {motive : List Char → Prop}
    (dotless : ∀ text, '.' ∉ text → motive text)
    (split : ∀ outer last, '.' ∉ last → motive outer → motive (outer ++ '.' :: last))
    (text : List Char) : motive text := by
  rcases dotless_or_split text with free | ⟨outer, last, same, free⟩
  · exact dotless text free
  · rw [same]
    exact split outer last free (dottedInduction dotless split outer)
termination_by text.length
decreasing_by
  rw [same]
  simp

theorem outer?_append {last : List Char} (free : '.' ∉ last) (outer : List Char) :
    outer? (outer ++ '.' :: last) = some outer := by
  simp [outer?, splitLast?_append free]

theorem outer?_dotless {scope : List Char} (free : '.' ∉ scope) :
    outer? scope = if scope = [] then none else some [] := by
  simp [outer?, splitLast?_eq_none free]

/-- Whether a text encloses a scope: it is the scope itself, the root, or a prefix that ends just
before a dot. -/
def Encloses (outer scope : List Char) : Prop :=
  outer = scope ∨ outer = [] ∨ outer ++ ['.'] <+: scope

instance (outer scope : List Char) : Decidable (Encloses outer scope) :=
  inferInstanceAs (Decidable (_ ∨ _ ∨ _))

/-- All scopes that enclose a scope, longest first. -/
def enclosing (scope : List Char) : List (List Char) :=
  scope.inits.reverse.filter (Encloses · scope)

theorem enclosing_nil : enclosing [] = [[]] := by
  simp [enclosing, Encloses]

/-- What lies between a dot and the end of a component encloses nothing. -/
theorem not_encloses_inside {outer last inside : List Char} (free : '.' ∉ last)
    (proper : inside ≠ last) : ¬ Encloses (outer ++ '.' :: inside) (outer ++ '.' :: last) := by
  rintro (same | empty | ⟨rest, same⟩)
  · simp at same
    exact proper same
  · simp at empty
  · simp only [List.append_assoc, List.cons_append, List.append_cancel_left_eq, List.cons.injEq,
      true_and, List.nil_append] at same
    rw [← same] at free
    simp at free

theorem encloses_append_iff {outer prior : List Char} (last : List Char) (before : prior <+: outer) :
    Encloses prior (outer ++ '.' :: last) ↔ Encloses prior outer := by
  obtain ⟨rest, rfl⟩ := before
  cases rest with
  | nil => simp [Encloses]
  | cons c rest => simp [Encloses, List.prefix_append_right_inj, List.append_assoc]

theorem filter_inits_self (text : List Char) : text.inits.filter (· = text) = [text] := by
  induction text with
  | nil => rfl
  | cons c rest ih =>
    have inside : (fun p => decide (p = c :: rest)) ∘ (fun t => c :: t) = (decide <| · = rest) := by
      funext t
      simp
    simp [List.filter_map, inside, ih]

theorem enclosing_append {last : List Char} (free : '.' ∉ last) (outer : List Char) :
    enclosing (outer ++ '.' :: last) = (outer ++ '.' :: last) :: enclosing outer := by
  -- Of the prefixes that reach past the last dot, only the whole scope encloses it; the shorter
  -- ones enclose it exactly if they enclose `outer`.
  have inside : (last.inits.reverse.filter fun inside =>
      decide (Encloses (outer ++ '.' :: inside) (outer ++ '.' :: last))) = [last] := by
    rw [List.filter_reverse]
    have only : ∀ inside, Encloses (outer ++ '.' :: inside) (outer ++ '.' :: last) ↔
        inside = last := by
      intro inside
      constructor
      · intro encloses
        by_contra proper
        exact not_encloses_inside free proper encloses
      · rintro rfl
        exact .inl rfl
    simp only [only, filter_inits_self, List.reverse_singleton]
  have before : outer.inits.reverse.filter (Encloses · (outer ++ '.' :: last)) =
      enclosing outer := by
    apply List.filter_congr
    intro prior member
    have := encloses_append_iff last ((List.mem_inits _ _).mp (List.mem_reverse.mp member))
    simp [this]
  simp only [enclosing, List.inits_append, List.inits_cons, List.tail_cons, List.map_map,
    List.reverse_append, List.filter_append, before]
  rw [← List.map_reverse, List.filter_map]
  simp only [Function.comp_def, inside, List.map_cons, List.map_nil, List.singleton_append]

theorem enclosing_dotless {scope : List Char} (free : '.' ∉ scope) (nonempty : scope ≠ []) :
    enclosing scope = [scope, []] := by
  have only : ∀ outer, Encloses outer scope ↔ outer = scope ∨ outer = [] := by
    intro outer
    refine or_congr_right (or_iff_left ?_)
    rintro ⟨rest, rfl⟩
    simp at free
  cases scope with
  | nil => contradiction
  | cons c rest =>
    have inside : (fun p => decide (p = c :: rest) || decide (p = [])) ∘ (fun t => c :: t) =
        (decide <| · = rest) := by
      funext t
      simp
    simp [enclosing, only, List.filter_map, inside, filter_inits_self]

theorem outward_append {last : List Char} (free : '.' ∉ last) (outer : List Char) :
    outward (outer ++ '.' :: last) = (outer ++ '.' :: last) :: outward outer := by
  rw [outward]
  split
  · next step =>
    rw [outer?_append free] at step
    cases step
    rfl
  · next step =>
    rw [outer?_append free] at step
    cases step

theorem outward_nil : outward [] = [[]] := by
  rw [outward]
  rfl

theorem outward_dotless {scope : List Char} (free : '.' ∉ scope) (nonempty : scope ≠ []) :
    outward scope = [scope, []] := by
  rw [outward]
  split
  · next step =>
    rw [outer?_dotless free, if_neg nonempty] at step
    cases step
    rw [outward_nil]
  · next step =>
    rw [outer?_dotless free, if_neg nonempty] at step
    cases step

/-- The search of a scope outward goes through the enclosing scopes in order. -/
theorem outward_eq_enclosing (scope : List Char) : outward scope = enclosing scope := by
  induction scope using dottedInduction with
  | dotless scope free =>
    by_cases nonempty : scope = []
    · rw [nonempty, outward_nil, enclosing_nil]
    · rw [outward_dotless free nonempty, enclosing_dotless free nonempty]
  | split outer last free ih => rw [outward_append free, enclosing_append free, ih]

theorem scopes_eq_enclosing (scope : String) :
    scopes scope = (enclosing scope.toList).map String.ofList := by
  rw [scopes, outward_eq_enclosing]

theorem absolute?_eq_some_iff {reference name : String} :
    absolute? reference = some name ↔ reference = "." ++ name := by
  rw [← String.toList_inj, absolute?]
  split
  · next rest start => simp [start, ← String.toList_inj, eq_comm]
  · next other =>
    simp only [reduceCtorEq, false_iff]
    intro same
    exact other name.toList (by simpa using same)

end MessageSchema.Dotted
