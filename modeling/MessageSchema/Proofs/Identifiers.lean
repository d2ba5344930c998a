import Mathlib
import MessageSchema.Proofs.Chunks

/-! The two identifiers of a name depend on its chunks alone. The constant form keeps the chunks
apart, so it tells names apart by their chunks up to case; the accessor form runs them together. -/
namespace MessageSchema.Identifier

/-! Letters and digits in upper case. -/

theorem isAlphanum_toUpper (c : Char) : c.toUpper.isAlphanum = c.isAlphanum := by
  by_cases lower : c.isLower
  · simp [Char.isAlphanum, show c.isAlpha by simp [Char.isAlpha, lower]]
  · rw [Char.toUpper_eq_of_not_isLower lower]

theorem isUpper_or_isDigit_toUpper {c : Char} (alphanumeric : c.isAlphanum) :
    c.toUpper.isUpper ∨ c.toUpper.isDigit := by
  rw [Char.isUpper_toUpper_eq_isAlpha]
  by_cases alpha : c.isAlpha
  · exact .inl alpha
  · have lower : ¬ c.isLower := fun lower => alpha (by simp [Char.isAlpha, lower])
    rw [Char.toUpper_eq_of_not_isLower lower]
    exact .inr (by simpa [Char.isAlphanum, alpha] using alphanumeric)

/-- A run in upper case. -/
def upper (run : List Char) : List Char :=
  run.map Char.toUpper

theorem upper_upper (run : List Char) : upper (upper run) = upper run := by
  simp [upper]

theorem toList_toUpper (text : String) : text.toUpper.toList = upper text.toList :=
  String.toList_map

theorem IsRun.upper {run : List Char} (isRun : IsRun run) : IsRun (upper run) where
  nonempty := by simpa [Identifier.upper] using isRun.nonempty
  alphanumeric := by simpa [Identifier.upper, isAlphanum_toUpper] using isRun.alphanumeric

/-- Equal but for the case of ASCII letters. -/
def EqIgnoringCase (run other : List Char) : Prop :=
  run.map Char.toLower = other.map Char.toLower

theorem eqIgnoringCase_iff {run other : List Char} :
    EqIgnoringCase run other ↔ upper run = upper other := by
  constructor
  · intro same
    simpa [upper, Function.comp_def] using congrArg (List.map Char.toUpper) same
  · intro same
    simpa [upper, EqIgnoringCase, Function.comp_def] using congrArg (List.map Char.toLower) same

theorem isRun_of_mem_chunks {name chunk : List Char} (member : chunk ∈ chunks name) :
    IsRun chunk where
  nonempty := by simpa using (List.mem_filter.mp member).2
  alphanumeric := isAlphanum_of_mem_chunks member

theorem isRun_of_mem_upper_chunks {name run : List Char} (member : run ∈ (chunks name).map upper) :
    IsRun run := by
  obtain ⟨chunk, found, rfl⟩ := List.mem_map.mp member
  exact (isRun_of_mem_chunks found).upper

theorem chunks_eq_nil_iff {name : List Char} : chunks name = [] ↔ Separates name := by
  rw [← hasRuns_iff]
  constructor
  · intro has
    cases has with
    | blank separates => exact separates
  · exact .blank

/-! The constant form. -/

/-- Runs of capitals and digits with one underscore between two. -/
inductive ConstantText : List Char → Prop where
  | run : run ≠ [] → (∀ c ∈ run, c.isUpper ∨ c.isDigit) → ConstantText run
  | more : run ≠ [] → (∀ c ∈ run, c.isUpper ∨ c.isDigit) → ConstantText rest →
      ConstantText (run ++ '_' :: rest)

theorem join_cons_cons (run next : List Char) (rest : List (List Char)) :
    List.intercalate ['_'] (run :: next :: rest) =
      run ++ '_' :: List.intercalate ['_'] (next :: rest) := by
  rw [List.intercalate_cons_cons, List.append_assoc, List.singleton_append]

/-- Cutting joined runs at the underscores gives the runs back. -/
theorem chunks_join {runs : List (List Char)} (each : ∀ run ∈ runs, IsRun run) :
    chunks (List.intercalate ['_'] runs) = runs := by
  induction runs with
  | nil => rfl
  | cons run rest ih =>
    obtain ⟨isRun, others⟩ := List.forall_mem_cons.mp each
    cases rest with
    | nil => rw [List.intercalate_singleton, isRun.chunks_eq]
    | cons next rest =>
      rw [join_cons_cons, chunks_append_separator (by decide), isRun.chunks_eq, ih others,
        List.singleton_append]

theorem constantText_join {run : List Char} {rest : List (List Char)}
    (each : ∀ other ∈ run :: rest, IsRun other) :
    ConstantText (List.intercalate ['_'] ((run :: rest).map upper)) := by
  have capitals {run : List Char} (isRun : IsRun run) : ∀ c ∈ upper run, c.isUpper ∨ c.isDigit := by
    simpa [upper] using fun c member => isUpper_or_isDigit_toUpper (isRun.alphanumeric c member)
  induction rest generalizing run with
  | nil =>
    have isRun := each run List.mem_cons_self
    rw [List.map_singleton, List.intercalate_singleton]
    exact .run isRun.upper.nonempty (capitals isRun)
  | cons next rest ih =>
    obtain ⟨isRun, others⟩ := List.forall_mem_cons.mp each
    rw [List.map_cons, List.map_cons, join_cons_cons]
    exact .more isRun.upper.nonempty (capitals isRun) (ih others)

theorem toList_constant (name : String) :
    (constant name).toList = List.intercalate ['_'] ((chunks name.toList).map upper) :=
  String.toList_ofList

theorem constantText_constant (name : String) :
    constant name = "" ∨ ConstantText (constant name).toList := by
  have each : ∀ chunk ∈ chunks name.toList, IsRun chunk := fun _ => isRun_of_mem_chunks
  rw [← String.toList_eq_nil_iff, toList_constant]
  cases found : chunks name.toList with
  | nil => exact .inl rfl
  | cons run rest => exact .inr (constantText_join (found ▸ each))

theorem chunks_constant (name : String) :
    chunks (constant name).toList = (chunks name.toList).map upper := by
  rw [toList_constant, chunks_join fun _ => isRun_of_mem_upper_chunks]

theorem constant_constant (name : String) : constant (constant name) = constant name := by
  have same : (constant (constant name)).toList = (constant name).toList := by
    rw [toList_constant, chunks_constant, List.map_map, toList_constant]
    congr 2
    exact funext upper_upper
  exact String.toList_injective same

theorem constant_eq_iff {name other : String} :
    constant name = constant other ↔
      List.Forall₂ EqIgnoringCase (chunks name.toList) (chunks other.toList) := by
  have upperEq : constant name = constant other ↔
      (chunks name.toList).map upper = (chunks other.toList).map upper := by
    constructor
    · intro same
      rw [← chunks_constant, ← chunks_constant, same]
    · intro same
      exact String.toList_injective (by rw [toList_constant, toList_constant, same])
  have runs : EqIgnoringCase = fun run other => upper run = upper other :=
    funext₂ fun _ _ => propext eqIgnoringCase_iff
  rw [upperEq, ← List.forall₂_eq_eq_eq, List.forall₂_map_left_iff, List.forall₂_map_right_iff, runs]

/-- The constant form is canonical, and two names share it exactly if their runs agree but for case.
What stands between the runs does not matter. -/
theorem constant_names_canonical (name : String) :
    (∃! runs, HasRuns name.toList runs) ∧
    (constant name = "" ∨ ConstantText (constant name).toList) ∧
    constant (constant name) = constant name ∧
    ∀ other, (constant name = constant other ↔ ∃ runs others, HasRuns name.toList runs ∧
        HasRuns other.toList others ∧ List.Forall₂ EqIgnoringCase runs others) ∧
      ∀ runs, HasRuns name.toList runs → HasRuns other.toList runs →
        constant name = constant other := by
  refine ⟨?_, constantText_constant name, constant_constant name, fun other => ⟨?_, ?_⟩⟩
  · simp only [hasRuns_iff]
    exact ⟨_, rfl, fun runs same => same.symm⟩
  · simp only [hasRuns_iff, exists_and_left, exists_eq_left', constant_eq_iff]
  · intro runs has otherHas
    rw [constant_eq_iff, has.chunks_eq, otherHas.chunks_eq]
    exact List.forall₂_same.mpr fun run _ => rfl

example : constant "caf\u00e9__menu-2" = "CAF_MENU_2" := by decide

/-! The accessor form. -/

/-- The letters and digits of a text behind `before`, in order. One that stands behind no other is
in upper case. -/
def accessor (before : Option Char) : List Char → List Char
  | [] => []
  | c :: rest =>
    if c.isAlphanum then
      (if before.any Char.isAlphanum then c else c.toUpper) :: accessor (some c) rest
    else accessor (some c) rest

/-- All that counts of what stands before is whether it is a letter or digit. -/
theorem accessor_apart {before : Option Char} (apart : before.any Char.isAlphanum = false)
    (text : List Char) : accessor before text = accessor none text := by
  cases text with
  | nil => rfl
  | cons c rest => simp [accessor, apart]

theorem accessor_stops {rest : List Char} (stops : Stops rest) (before : Option Char) :
    accessor before rest = accessor none rest := by
  cases rest with
  | nil => rfl
  | cons c rest => simp [accessor, stops c rfl]

theorem accessor_gap {gap : List Char} (separates : Separates gap) (text : List Char) :
    accessor none (gap ++ text) = accessor none text := by
  induction gap with
  | nil => rfl
  | cons c gap ih =>
    obtain ⟨separator, others⟩ := List.forall_mem_cons.mp separates
    rw [List.cons_append, accessor, if_neg (by simp [separator]),
      accessor_apart (by simpa using separator), ih others]

theorem accessor_inside {run rest : List Char} (alphanumeric : ∀ c ∈ run, c.isAlphanum)
    (stops : Stops rest) {before : Char} (inside : before.isAlphanum) :
    accessor (some before) (run ++ rest) = run ++ accessor none rest := by
  induction run generalizing before with
  | nil => exact accessor_stops stops _
  | cons c run ih =>
    obtain ⟨first, others⟩ := List.forall_mem_cons.mp alphanumeric
    simp [accessor, first, inside, ih others first]

theorem accessor_run {run rest : List Char} (isRun : IsRun run) (stops : Stops rest) :
    accessor none (run ++ rest) = capitalize run ++ accessor none rest := by
  cases run with
  | nil => exact absurd rfl isRun.nonempty
  | cons c run =>
    obtain ⟨first, others⟩ := List.forall_mem_cons.mp isRun.alphanumeric
    simp [accessor, first, accessor_inside others stops first, capitalize]

theorem HasRuns.accessor_eq {text : List Char} {runs : List (List Char)} (has : HasRuns text runs) :
    accessor none text = runs.flatMap capitalize := by
  induction has with
  | blank separates => simpa [accessor] using accessor_gap separates []
  | run separates isRun stops _ ih =>
    rw [List.append_assoc, accessor_gap separates, accessor_run isRun stops, ih, List.flatMap_cons]

theorem toList_camelCase (name : String) :
    (camelCase name).toList = (chunks name.toList).flatMap capitalize :=
  String.toList_ofList

theorem upper_capitalize (run : List Char) : upper (capitalize run) = upper run := by
  cases run <;> simp [upper, capitalize]

theorem capitalize_upper (run : List Char) : capitalize (upper run) = upper run := by
  cases run <;> simp [upper, capitalize]

theorem upper_camelCase (name : String) :
    upper (camelCase name).toList = (chunks name.toList).flatMap upper := by
  rw [toList_camelCase, upper, List.map_flatMap]
  exact congrArg (List.flatMap · _) (funext upper_capitalize)

theorem isAlphanum_camelCase (name : String) : ∀ c ∈ (camelCase name).toList, c.isAlphanum := by
  have each : ∀ c ∈ upper (camelCase name).toList, c.isAlphanum := by
    rw [upper_camelCase]
    intro c member
    obtain ⟨chunk, found, inside⟩ := List.mem_flatMap.mp member
    exact (isRun_of_mem_chunks found).upper.alphanumeric c inside
  simpa [upper, isAlphanum_toUpper] using each

/-- The first character of the accessor form is that of a chunk and so in upper case already. -/
theorem capitalize_camelCase (name : String) :
    capitalize (camelCase name).toList = (camelCase name).toList := by
  rw [toList_camelCase]
  cases found : chunks name.toList with
  | nil => rfl
  | cons chunk rest =>
    have member : chunk ∈ chunks name.toList := by simp [found]
    have isRun := isRun_of_mem_chunks member
    cases chunk with
    | nil => exact absurd rfl isRun.nonempty
    | cons c chunk => simp [capitalize]

theorem camelCase_camelCase (name : String) : camelCase (camelCase name) = camelCase name := by
  have same : (camelCase (camelCase name)).toList = (camelCase name).toList := by
    rw [toList_camelCase, chunks_alphanumeric (isAlphanum_camelCase name)]
    split
    · next empty => rw [empty, List.flatMap_nil]
    · rw [List.flatMap_singleton, capitalize_camelCase]
  exact String.toList_injective same

theorem constant_camelCase (name : String) :
    constant (camelCase name) = (camelCase name).toUpper := by
  have same : (constant (camelCase name)).toList = upper (camelCase name).toList := by
    rw [toList_constant, chunks_alphanumeric (isAlphanum_camelCase name)]
    split
    · next empty => rw [empty]; rfl
    · rw [List.map_singleton, List.intercalate_singleton]
  exact String.toList_injective (by rw [same, toList_toUpper])

theorem camelCase_constant (name : String) :
    camelCase (constant name) = (camelCase name).toUpper := by
  have same : (camelCase (constant name)).toList = upper (camelCase name).toList := by
    rw [toList_camelCase, chunks_constant, List.flatMap_map, upper_camelCase]
    exact congrArg (List.flatMap · _) (funext capitalize_upper)
  exact String.toList_injective (by rw [same, toList_toUpper])

theorem filter_join {runs : List (List Char)} (each : ∀ run ∈ runs, IsRun run) :
    (List.intercalate ['_'] runs).filter (· ≠ '_') = runs.flatten := by
  induction runs with
  | nil => rfl
  | cons run rest ih =>
    obtain ⟨isRun, others⟩ := List.forall_mem_cons.mp each
    have kept : run.filter (· ≠ '_') = run := by
      rw [List.filter_eq_self]
      intro c member
      have alphanumeric := isRun.alphanumeric c member
      have different : c ≠ '_' := by rintro rfl; exact absurd alphanumeric (by decide)
      simpa using different
    cases rest with
    | nil => rw [List.intercalate_singleton, kept, List.flatten_singleton]
    | cons next rest =>
      rw [join_cons_cons, List.filter_append, kept, List.filter_cons_of_neg (by simp), ih others,
        List.flatten_cons (l := run)]

theorem constant_without_underscores (name : String) :
    String.ofList ((constant name).toList.filter (· ≠ '_')) = (camelCase name).toUpper := by
  have same : (constant name).toList.filter (· ≠ '_') = upper (camelCase name).toList := by
    rw [toList_constant, filter_join fun _ => isRun_of_mem_upper_chunks, upper_camelCase,
      List.flatMap_def]
  exact String.toList_injective (by rw [same, String.toList_ofList, toList_toUpper])

theorem camelCase_eq_empty_iff {name : String} : camelCase name = "" ↔ Separates name.toList := by
  rw [← String.toList_eq_nil_iff, toList_camelCase, List.flatMap_eq_nil_iff, ← chunks_eq_nil_iff]
  constructor
  · intro empty
    rw [List.eq_nil_iff_forall_not_mem]
    intro chunk member
    have isRun := isRun_of_mem_chunks member
    cases chunk with
    | nil => exact isRun.nonempty rfl
    | cons c chunk => cases empty _ member
  · rintro blank chunk member
    rw [blank] at member
    cases member

theorem constant_eq_empty_iff {name : String} : constant name = "" ↔ Separates name.toList := by
  rw [← chunks_eq_nil_iff]
  constructor
  · intro empty
    have blank : (chunks name.toList).map upper = [] := by rw [← chunks_constant, empty]; rfl
    exact List.map_eq_nil_iff.mp blank
  · intro blank
    rw [← String.toList_eq_nil_iff, toList_constant, blank]
    rfl

/-- The accessor form is given character by character, and both forms agree but for case and
underscores. They are empty exactly for a name without ASCII letters and digits. -/
theorem accessor_names_agree (name : String) :
    (camelCase name).toList = accessor none name.toList ∧
    camelCase (camelCase name) = camelCase name ∧
    String.ofList ((constant name).toList.filter (· ≠ '_')) = (camelCase name).toUpper ∧
    constant (camelCase name) = (camelCase name).toUpper ∧
    camelCase (constant name) = (camelCase name).toUpper ∧
    (camelCase name = "" ↔ ∀ c ∈ name.toList, c.isAlphanum = false) ∧
    (constant name = "" ↔ ∀ c ∈ name.toList, c.isAlphanum = false) := by
  refine ⟨?_, camelCase_camelCase name, constant_without_underscores name, constant_camelCase name,
    camelCase_constant name, camelCase_eq_empty_iff, constant_eq_empty_iff⟩
  rw [toList_camelCase, (hasRuns_iff.mpr rfl).accessor_eq]

example : camelCase "caf\u00e9__menu-2" = "CafMenu2" := by decide

end MessageSchema.Identifier
