import Mathlib.Data.List.TakeWhile
import MessageSchema.Proofs.Scopes

/-! Dotted names of paths. Qualifying a name by a scope extends the path of the scope, for all names
there are; for names that are no empty text and have no dot, a dotted name has one path, and going
outward from it drops the path's names one by one. -/
namespace MessageSchema.Dotted

/-- The dotted name of a path of names. Empty names at the front leave no trace in it. -/
def join (names : List String) : String :=
  ".".intercalate (names.dropWhile (· = ""))

theorem join_nil : join [] = "" := by
  simp [join]

theorem join_singleton (name : String) : join [name] = name := by
  by_cases empty : name = "" <;> simp [join, empty]

theorem intercalate_ne_empty {name : String} (nonempty : name ≠ "") (rest : List String) :
    ".".intercalate (name :: rest) ≠ "" := by
  cases rest with
  | nil => simpa using nonempty
  | cons next rest => simp [nonempty]

theorem join_eq_empty_iff {names : List String} : join names = "" ↔ ∀ name ∈ names, name = "" := by
  rw [join]
  cases kept : names.dropWhile (· = "") with
  | nil => simpa [List.dropWhile_eq_nil_iff] using kept
  | cons name rest =>
    have nonempty : name ≠ "" := by
      have := List.head_dropWhile_not (· = "") (l := names) (by simp [kept])
      simpa [kept] using this
    have first : name ∈ names := (List.dropWhile_suffix _).mem (kept ▸ List.mem_cons_self)
    simp only [intercalate_ne_empty nonempty rest, false_iff, not_forall]
    exact ⟨name, first, nonempty⟩

/-- The full name of what a scope declares continues the path of the scope. -/
theorem qualify_join (names : List String) (name : String) :
    qualify (some (join names)) name = join (names ++ [name]) := by
  by_cases blank : ∀ name ∈ names, name = ""
  · have root : join names = "" := join_eq_empty_iff.mpr blank
    have dropped : names.dropWhile (· = "") = [] := by
      simpa [List.dropWhile_eq_nil_iff] using blank
    rw [qualify, if_pos root, join, List.dropWhile_append, dropped]
    simpa [join] using (join_singleton name).symm
  · have named : join names ≠ "" := fun root => blank (join_eq_empty_iff.mp root)
    have kept : names.dropWhile (· = "") ≠ [] := by
      simpa [List.dropWhile_eq_nil_iff] using blank
    rw [qualify, if_neg named, join, join, List.dropWhile_append]
    simp only [List.isEmpty_iff, kept, ↓reduceIte]
    rw [String.intercalate_append_of_ne_nil kept (by simp), String.intercalate_singleton]

/-- A dotted name at the front of a path is as good as its own path. -/
theorem join_join_cons (outer more : List String) :
    join (join outer :: more) = join (outer ++ more) := by
  induction more using List.reverseRecOn with
  | nil => rw [join_singleton, List.append_nil]
  | append_singleton more last ih =>
    rw [← List.cons_append, ← qualify_join, ih, qualify_join, List.append_assoc]

/-- A name that can stand between dots and be told from them. -/
def IsName (text : String) : Prop :=
  text ≠ "" ∧ '.' ∉ text.toList

instance (text : String) : Decidable (IsName text) :=
  inferInstanceAs (Decidable (_ ∧ _))

/-- A path of names. -/
def IsPath (names : List String) : Prop :=
  ∀ name ∈ names, IsName name

instance (names : List String) : Decidable (IsPath names) :=
  inferInstanceAs (Decidable (∀ _ ∈ _, _))

theorem IsPath.append {names more : List String} (path : IsPath names) (rest : IsPath more) :
    IsPath (names ++ more) := by
  intro name member
  rcases List.mem_append.mp member with inside | inside
  · exact path name inside
  · exact rest name inside

theorem IsPath.join_eq {names : List String} (path : IsPath names) :
    join names = ".".intercalate names := by
  cases names with
  | nil => rfl
  | cons name rest =>
    have nonempty := (path name List.mem_cons_self).1
    simp [join, nonempty]

theorem IsPath.join_ne_empty {names : List String} (path : IsPath names) (nonempty : names ≠ []) :
    join names ≠ "" := by
  intro root
  obtain ⟨name, member⟩ := List.exists_mem_of_ne_nil names nonempty
  exact (path name member).1 (join_eq_empty_iff.mp root name member)

/-- A dotted name has one path. -/
theorem IsPath.join_injective {names others : List String} (path : IsPath names)
    (other : IsPath others) (same : join names = join others) : names = others := by
  by_cases root : join names = ""
  · have left : names = [] := by_contra fun nonempty => path.join_ne_empty nonempty root
    have right : others = [] := by_contra fun nonempty => other.join_ne_empty nonempty (same ▸ root)
    rw [left, right]
  · have left : names ≠ [] := by rintro rfl; exact root join_nil
    have right : others ≠ [] := by rintro rfl; exact root (same.trans join_nil)
    have texts := congrArg (·.toList.splitOn '.') same
    simp only [path.join_eq, other.join_eq, String.toList_intercalate] at texts
    rw [show ".".toList = ['.'] from rfl, List.splitOn_intercalate _ _ (by simpa using left),
      List.splitOn_intercalate _ _ (by simpa using right)] at texts
    · exact List.map_injective_iff.mpr (fun _ _ => String.toList_injective) texts
    · simpa using fun name member => (other name member).2
    · simpa using fun name member => (path name member).2

theorem IsPath.qualify_append {outer names : List String} (around : IsPath outer)
    (path : IsPath names) (nonempty : names ≠ []) :
    qualify (some (join outer)) (join names) = join (outer ++ names) := by
  by_cases top : outer = []
  · simp [top, join_nil, qualify]
  · rw [qualify, if_neg (around.join_ne_empty top), around.join_eq, path.join_eq,
      (around.append path).join_eq, String.intercalate_append_of_ne_nil top nonempty]

/-- The scopes around a path are its prefixes, the longest first. -/
theorem IsPath.scopes_join {names : List String} (path : IsPath names) :
    scopes (join names) = names.inits.reverse.map join := by
  induction names using List.reverseRecOn with
  | nil => simp [scopes, join_nil, outward_nil]
  | append_singleton outer last ih =>
    have around : IsPath outer := fun name member => path name (List.mem_append_left _ member)
    have name : IsName last := path last (by simp)
    have step : scopes (join (outer ++ [last])) = join (outer ++ [last]) :: scopes (join outer) := by
      rw [← qualify_join]
      by_cases top : outer = []
      · have ends := outward_dotless name.2 (by simpa using name.1)
        simp [scopes, top, join_nil, qualify, ends, outward_nil]
      · have cut := outward_append name.2 (join outer).toList
        simp [scopes, qualify, around.join_ne_empty top, cut, String.append_assoc]
    rw [step, ih around]
    simp [List.inits_append]

theorem IsPath.absolute?_join {names : List String} (path : IsPath names) (nonempty : names ≠ []) :
    absolute? (join names) = none := by
  cases names with
  | nil => contradiction
  | cons name rest =>
    obtain ⟨named, dotless⟩ := path name List.mem_cons_self
    by_contra found
    obtain ⟨tail, found⟩ := Option.ne_none_iff_exists'.mp found
    have start := congrArg String.toList (absolute?_eq_some_iff.mp found)
    rw [path.join_eq] at start
    cases text : name.toList with
    | nil => exact named (by simpa using text)
    | cons c inside =>
      have first : c = '.' := by
        cases rest with
        | nil => simpa [text] using congrArg List.head? start
        | cons next rest => simpa [text] using congrArg List.head? start
      exact dotless (by simp [text, first])

end MessageSchema.Dotted
