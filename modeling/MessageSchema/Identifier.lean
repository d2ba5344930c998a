/-! Identifiers derived from a field's name. The name is cut into chunks, its maximal runs of ASCII
letters and digits; everything between chunks is a separator and is dropped. -/
namespace MessageSchema.Identifier

/-- The text cut at every separator, so that adjoining separators leave empty pieces. -/
def pieces : List Char → List (List Char)
  | [] => [[]]
  | c :: rest =>
    if c.isAlphanum then (pieces rest).modifyHead (c :: ·) else [] :: pieces rest

/-- The maximal runs of ASCII letters and digits, in order. -/
def chunks (name : List Char) : List (List Char) :=
  (pieces name).filter (· ≠ [])

/-- A chunk with its first character in upper case and the others unchanged. -/
def capitalize : List Char → List Char
  | [] => []
  | c :: rest => c.toUpper :: rest

/-- The accessor form: capitalised chunks without separators. -/
def camelCase (name : String) : String :=
  String.ofList ((chunks name.toList).flatMap capitalize)

/-- The constant form: upper-case chunks joined by single underscores. -/
def constant (name : String) : String :=
  String.ofList (List.intercalate ['_'] ((chunks name.toList).map (·.map Char.toUpper)))

theorem pieces_ne_nil (text : List Char) : pieces text ≠ [] := by
  cases text with
  | nil => simp [pieces]
  | cons c rest =>
    unfold pieces
    split
    · have := pieces_ne_nil rest
      cases h : pieces rest <;> simp_all
    · simp

theorem isAlphanum_of_mem_pieces {text piece : List Char} (found : piece ∈ pieces text) :
    ∀ c ∈ piece, c.isAlphanum := by
  induction text generalizing piece with
  | nil => simp_all [pieces]
  | cons c rest ih =>
    unfold pieces at found
    split at found
    · next kept =>
      cases h : pieces rest with
      | nil => exact absurd h (pieces_ne_nil rest)
      | cons first others =>
        rw [h] at found ih
        simp only [List.modifyHead_cons, List.mem_cons] at found
        rcases found with rfl | found
        · intro d member
          rcases List.mem_cons.mp member with rfl | member
          · exact kept
          · exact ih List.mem_cons_self d member
        · exact ih (List.mem_cons_of_mem _ found)
    · rcases List.mem_cons.mp found with rfl | found
      · simp
      · exact ih found

/-- A chunk is a run of ASCII letters and digits. -/
theorem isAlphanum_of_mem_chunks {name chunk : List Char} (found : chunk ∈ chunks name) :
    ∀ c ∈ chunk, c.isAlphanum :=
  isAlphanum_of_mem_pieces (List.mem_filter.mp found).1

end MessageSchema.Identifier
