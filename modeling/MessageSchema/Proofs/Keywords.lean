import Mathlib
import MessageSchema.Label
import MessageSchema.Scalar

/-! Which texts the two keyword readers take. A keyword set is read exactly if its spellings differ,
none of them starts with the marker, and all are made of ASCII letters, digits and underscores. -/
namespace MessageSchema.Keyword

/-- The text is the keyword or the marked keyword, its ASCII letters in whatever case. -/
inductive Spells (marker keyword text : String) : Prop where
  | bare : text.toLower = keyword → Spells marker keyword text
  | marked : text.toLower = marker ++ keyword → Spells marker keyword text

/-- The other text is this one with some of the ASCII letters in another case. -/
def Recased (text other : String) : Prop :=
  List.Forall₂ (fun c d => d = c ∨ d = c.toLower ∨ d = c.toUpper) text.toList other.toList

/-- An ASCII letter or digit, or an underscore. -/
def isWord (c : Char) : Bool :=
  c.isAlphanum || c == '_'

structure ReadsExactly (marker : String) (spelling : α → String) (read : String → Option α) :
    Prop where
  reads : ∀ text choice, read text = some choice ↔ Spells marker (spelling choice) text
  single : ∀ text a b, Spells marker (spelling a) text → Spells marker (spelling b) text → a = b
  /-- One marker is taken off at most. -/
  twice : ∀ text rest, text.toLower = marker ++ (marker ++ rest) → read text = none
  /-- No blank is passed over, and no character beyond ASCII is taken for a letter. -/
  foreign : ∀ text, (∃ c ∈ text.toList, isWord c = false) → read text = none
  recased : ∀ text other, Recased text other → read other = read text

theorem toList_toLower (text : String) : text.toLower.toList = fold text :=
  String.toList_map

theorem dropMarker_eq_iff {marker word text : List Char} (unmarked : ¬ marker <+: word) :
    dropMarker marker text = word ↔ text = word ∨ text = marker ++ word := by
  by_cases starts : marker <+: text
  · obtain ⟨rest, rfl⟩ := starts
    rw [dropMarker_append]
    constructor
    · exact fun same => .inr (congrArg _ same)
    · rintro (rfl | same)
      · exact absurd (List.prefix_append _ _) unmarked
      · exact List.append_cancel_left same
  · rw [dropMarker_unmarked starts]
    constructor
    · exact .inl
    · rintro (same | rfl)
      · exact same
      · exact absurd (List.prefix_append _ _) starts

theorem spells_iff {marker keyword text : String} (unmarked : ¬ marker.toList <+: keyword.toList) :
    Spells marker keyword text ↔ keyword.toList = dropMarker marker.toList (fold text) := by
  rw [eq_comm, dropMarker_eq_iff unmarked, ← toList_toLower, ← String.toList_append, String.toList_inj,
    String.toList_inj]
  constructor
  · rintro (bare | marked)
    · exact .inl bare
    · exact .inr marked
  · rintro (bare | marked)
    · exact .bare bare
    · exact .marked marked

theorem isWord_toLower (c : Char) : isWord c.toLower = isWord c := by
  by_cases upper : c.isUpper
  · have alpha : c.isAlpha := by simp [Char.isAlpha, upper]
    have lower : c.toLower.isLower := by rw [Char.isLower_toLower_eq_isAlpha, alpha]
    simp [isWord, Char.isAlphanum, Char.isAlpha, upper, lower]
  · rw [Char.toLower_eq_of_not_isUpper upper]

theorem Recased.fold_eq {text other : String} (recased : Recased text other) :
    fold other = fold text := by
  rw [fold, fold, ← List.forall₂_eq_eq_eq, List.forall₂_map_left_iff, List.forall₂_map_right_iff]
  refine (recased.imp fun c d changed => ?_).flip
  rcases changed with rfl | rfl | rfl
  · rfl
  · exact Char.toLower_toLower_eq_toLower c
  · exact Char.toLower_toUpper_eq_toLower c

/-- Keywords that are read apart from each other and from the marker. -/
structure Legible (marker : String) (spelling : α → String) : Prop where
  injective : ∀ {a b}, spelling a = spelling b → a = b
  unmarked : ∀ choice, ¬ marker.toList <+: (spelling choice).toList
  words : ∀ choice, (marker.toList ++ (spelling choice).toList).all isWord

namespace Legible

variable {marker : String} {spelling : α → String} {choices : List α}

theorem spells_unique (legible : Legible marker spelling) {text : String} {a b : α}
    (first : Spells marker (spelling a) text) (second : Spells marker (spelling b) text) : a = b := by
  have same := ((spells_iff (legible.unmarked a)).mp first).trans
    ((spells_iff (legible.unmarked b)).mp second).symm
  exact legible.injective (String.toList_injective same)

theorem find?_eq_some_iff (legible : Legible marker spelling) (complete : ∀ choice, choice ∈ choices)
    {text : String} {choice : α} :
    find? marker spelling choices text = some choice ↔ Spells marker (spelling choice) text := by
  have spelled {choice : α} (found : find? marker spelling choices text = some choice) :
      Spells marker (spelling choice) text :=
    (spells_iff (legible.unmarked choice)).mpr (by simpa using List.find?_some found)
  constructor
  · exact spelled
  · intro spells
    cases found : find? marker spelling choices text with
    | some other => rw [legible.spells_unique (spelled found) spells]
    | none =>
      have missed := List.find?_eq_none.mp found choice (complete choice)
      exact absurd ((spells_iff (legible.unmarked choice)).mp spells) (by simpa using missed)

theorem not_spells_of_twice (legible : Legible marker spelling) {text rest : String}
    (twice : text.toLower = marker ++ (marker ++ rest)) (choice : α) :
    ¬ Spells marker (spelling choice) text := by
  intro spells
  refine legible.unmarked choice ?_
  rw [(spells_iff (legible.unmarked choice)).mp spells, ← toList_toLower, twice, String.toList_append,
    dropMarker_append, String.toList_append]
  exact List.prefix_append _ _

theorem isWord_of_spells (legible : Legible marker spelling) {text : String} {choice : α}
    (spells : Spells marker (spelling choice) text) : ∀ c ∈ text.toList, isWord c := by
  intro c member
  have lowered : c.toLower ∈ text.toLower.toList := by
    rw [toList_toLower]
    exact List.mem_map_of_mem member
  rw [← isWord_toLower]
  apply List.all_eq_true.mp (legible.words choice)
  cases spells with
  | bare same => exact List.mem_append_right _ (same ▸ lowered)
  | marked same => rwa [← String.toList_append, ← same]

theorem readsExactly (legible : Legible marker spelling) (complete : ∀ choice, choice ∈ choices) :
    ReadsExactly marker spelling (find? marker spelling choices) where
  reads _ _ := legible.find?_eq_some_iff complete
  single _ _ _ := legible.spells_unique
  twice text rest twice := by
    rw [Option.eq_none_iff_forall_ne_some]
    intro choice found
    exact legible.not_spells_of_twice twice choice ((legible.find?_eq_some_iff complete).mp found)
  foreign text outside := by
    obtain ⟨c, member, foreign⟩ := outside
    rw [Option.eq_none_iff_forall_ne_some]
    intro choice found
    have word := legible.isWord_of_spells ((legible.find?_eq_some_iff complete).mp found) c member
    cases word.symm.trans foreign
  recased text other recased := by rw [find?, find?, recased.fold_eq]

end Legible

end MessageSchema.Keyword

namespace MessageSchema

open Keyword

theorem Scalar.legible : Legible "type_" keyword where
  injective := keyword_injective
  unmarked scalar := by cases scalar <;> decide
  words scalar := by cases scalar <;> decide

theorem Label.legible : Legible "label_" keyword where
  injective := keyword_injective
  unmarked label := by cases label <;> decide
  words label := by cases label <;> decide

/-- Type tags and labels are read exactly if they are spelled, and a label that is refused is named
as it was written. -/
theorem keywords_read_exactly :
    ReadsExactly "type_" Scalar.keyword Scalar.ofTag? ∧
      ReadsExactly "label_" Label.keyword (fun text => (Label.ofText text).toOption) ∧
      ∀ text, (∀ label : Label, Label.ofText text = .ok label ↔ Spells "label_" label.keyword text) ∧
        ∀ error, Label.ofText text = .error error ↔
          (∀ label : Label, ¬ Spells "label_" label.keyword text) ∧ error = .invalidLabel text := by
  have labels : ReadsExactly "label_" Label.keyword Label.ofText? :=
    Label.legible.readsExactly Label.mem_all
  refine ⟨Scalar.legible.readsExactly Scalar.mem_all, ?_, ?_⟩
  · simpa only [Label.toOption_ofText] using labels
  · intro text
    refine ⟨fun label => ?_, fun error => ?_⟩
    · rw [Label.ofText_eq_ok_iff, labels.reads]
    · rw [Label.ofText_eq_error_iff, Option.eq_none_iff_forall_ne_some]
      simp only [ne_eq, labels.reads]

/-- U+017F is the long s, which folds to the letter s in Unicode. -/
example : Scalar.ofTag? "tYPE_sInT32" = some .sint32 ∧ Scalar.ofTag? "type_type_sint32" = none ∧
    Scalar.ofTag? " sint32" = none ∧ Scalar.ofTag? "\u017fint32" = none := by decide

end MessageSchema
