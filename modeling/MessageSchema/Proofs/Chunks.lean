import MessageSchema.Identifier

/-! The chunks of a name are its maximal runs of ASCII letters and digits. A name is told apart into
runs and the separators around them, which can be done in one way, and the runs are its chunks. -/
namespace MessageSchema.Identifier

/-- Characters that are no ASCII letters or digits, perhaps none at all. -/
def Separates (gap : List Char) : Prop :=
  ∀ c ∈ gap, c.isAlphanum = false

/-- A text that no run can go on with: its end, or a separator. -/
def Stops (rest : List Char) : Prop :=
  ∀ c, rest.head? = some c → c.isAlphanum = false

structure IsRun (run : List Char) : Prop where
  nonempty : run ≠ []
  alphanumeric : ∀ c ∈ run, c.isAlphanum

/-- A text and its maximal runs of ASCII letters and digits, in order. -/
inductive HasRuns : List Char → List (List Char) → Prop where
  | blank : Separates gap → HasRuns gap []
  | run : Separates gap → IsRun run → Stops rest → HasRuns rest runs →
      HasRuns (gap ++ run ++ rest) (run :: runs)

theorem pieces_eq_splitOnP (text : List Char) : pieces text = text.splitOnP (!·.isAlphanum) := by
  induction text with
  | nil => rfl
  | cons c rest ih =>
    rw [List.splitOnP_cons_eq_if_modifyHead, pieces, ih]
    cases c.isAlphanum <;> rfl

theorem chunks_eq (text : List Char) :
    chunks text = (text.splitOnP (!·.isAlphanum)).filter (· ≠ []) := by
  rw [chunks, pieces_eq_splitOnP]

/-- A separator belongs to no chunk and parts those around it. -/
theorem chunks_append_separator {c : Char} (separator : c.isAlphanum = false)
    (front rest : List Char) :
    chunks (front ++ c :: rest) = chunks front ++ chunks rest := by
  simp only [chunks_eq]
  rw [List.splitOnP_append_cons front rest (by simp [separator]), List.filter_append]

theorem chunks_nil : chunks [] = [] := rfl

theorem chunks_separator {c : Char} (separator : c.isAlphanum = false) (rest : List Char) :
    chunks (c :: rest) = chunks rest :=
  chunks_append_separator separator [] rest

theorem chunks_gap {gap : List Char} (separates : Separates gap) (rest : List Char) :
    chunks (gap ++ rest) = chunks rest := by
  induction gap with
  | nil => rfl
  | cons c gap ih =>
    obtain ⟨separator, others⟩ := List.forall_mem_cons.mp separates
    rw [List.cons_append, chunks_separator separator, ih others]

theorem chunks_alphanumeric {run : List Char} (alphanumeric : ∀ c ∈ run, c.isAlphanum) :
    chunks run = if run = [] then [] else [run] := by
  have whole : run.splitOnP (!·.isAlphanum) = [run] :=
    List.splitOnP_eq_singleton fun c member => by simp [alphanumeric c member]
  rw [chunks_eq, whole]
  by_cases empty : run = [] <;> simp [empty]

theorem IsRun.chunks_eq {run : List Char} (isRun : IsRun run) : chunks run = [run] := by
  rw [chunks_alphanumeric isRun.alphanumeric, if_neg isRun.nonempty]

theorem IsRun.chunks_append {run rest : List Char} (isRun : IsRun run) (stops : Stops rest) :
    chunks (run ++ rest) = run :: chunks rest := by
  cases rest with
  | nil => rw [List.append_nil, isRun.chunks_eq, chunks_nil]
  | cons c rest =>
    have separator : c.isAlphanum = false := stops c rfl
    rw [chunks_append_separator separator, chunks_separator separator, isRun.chunks_eq,
      List.singleton_append]

theorem HasRuns.chunks_eq {text : List Char} {runs : List (List Char)} (has : HasRuns text runs) :
    chunks text = runs := by
  induction has with
  | blank separates => simpa [chunks_nil] using chunks_gap separates []
  | run separates isRun stops _ ih =>
    rw [List.append_assoc, chunks_gap separates, isRun.chunks_append stops, ih]

theorem HasRuns.separator {c : Char} {text : List Char} {runs : List (List Char)}
    (separator : c.isAlphanum = false) (has : HasRuns text runs) : HasRuns (c :: text) runs := by
  have longer {gap : List Char} (separates : Separates gap) : Separates (c :: gap) :=
    List.forall_mem_cons.mpr ⟨separator, separates⟩
  cases has with
  | blank separates => exact .blank (longer separates)
  | run separates isRun stops others => exact .run (longer separates) isRun stops others

/-- A letter or digit in front begins a run of its own, or lengthens the run that
starts the text. -/
theorem HasRuns.alphanumeric {c : Char} {text : List Char} {runs : List (List Char)}
    (alphanumeric : c.isAlphanum) (has : HasRuns text runs) :
    ∃ others, HasRuns (c :: text) others := by
  have single : IsRun [c] := ⟨by simp, by simpa using alphanumeric⟩
  have alone (stops : Stops text) : ∃ others, HasRuns (c :: text) others :=
    ⟨_, (.run (by simp [Separates]) single stops has : HasRuns ([] ++ [c] ++ text) _)⟩
  cases has with
  | blank separates => exact alone fun d first => separates d (List.mem_of_mem_head? first)
  | @run gap run rest runs separates isRun stops others =>
    cases gap with
    | nil =>
      have lengthened : IsRun (c :: run) :=
        ⟨by simp, List.forall_mem_cons.mpr ⟨alphanumeric, isRun.alphanumeric⟩⟩
      exact ⟨_, .run separates lengthened stops others⟩
    | cons d gap =>
      refine alone fun first same => ?_
      cases same
      exact separates d List.mem_cons_self

theorem exists_hasRuns (text : List Char) : ∃ runs, HasRuns text runs := by
  induction text with
  | nil => exact ⟨[], .blank (by simp [Separates])⟩
  | cons c rest ih =>
    obtain ⟨runs, has⟩ := ih
    cases kept : c.isAlphanum with
    | false => exact ⟨runs, has.separator kept⟩
    | true => exact has.alphanumeric kept

theorem hasRuns_iff {text : List Char} {runs : List (List Char)} :
    HasRuns text runs ↔ chunks text = runs := by
  constructor
  · exact HasRuns.chunks_eq
  · rintro rfl
    obtain ⟨runs, has⟩ := exists_hasRuns text
    rwa [has.chunks_eq]

end MessageSchema.Identifier
