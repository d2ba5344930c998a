/-! Keywords are read without regard to the case of ASCII letters and may carry one marker in
front. Both keyword sets of a schema, scalars and labels, are read by the same lookup. -/
namespace MessageSchema.Keyword

/-- ASCII letters in lower case and every other character as it stands. -/
def fold (text : String) : List Char :=
  text.toList.map Char.toLower

/-- The text behind `marker` where it starts with it, and the whole text otherwise. -/
def dropMarker (marker text : List Char) : List Char :=
  if marker.isPrefixOf text then text.drop marker.length else text

/-- The first choice whose spelling is the folded text less one marker. -/
def find? (marker : String) (spelling : α → String) (choices : List α) (text : String) : Option α :=
  let word := dropMarker marker.toList (fold text)
  choices.find? fun choice => (spelling choice).toList == word

theorem dropMarker_append (marker text : List Char) : dropMarker marker (marker ++ text) = text := by
  simp [dropMarker]

theorem dropMarker_unmarked {marker text : List Char} (other : ¬ marker <+: text) :
    dropMarker marker text = text := by
  simp [dropMarker, other]

end MessageSchema.Keyword
