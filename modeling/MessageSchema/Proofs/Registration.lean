import Mathlib.Data.List.Nodup
import MessageSchema.Registry
import MessageSchema.Proofs.Results

/-! Filling a registry. Types can be registered exactly if no full name repeats, and then each of
them is found under its own full name and nothing else is found. Otherwise the first that repeats is
the fault. -/
namespace MessageSchema.Registry

/-- The full names of the types differ from each other and from those present. -/
def Fresh (registry : Registry) (types : List UserType) : Prop :=
  (types.map UserType.fullName).Nodup ∧
    ∀ type ∈ types, registry.find? type.fullName = none

theorem insert_ok_iff {registry : Registry} {type : UserType} :
    (∃ next, registry.insert type = .ok next) ↔ registry.find? type.fullName = none := by
  unfold insert
  cases found : registry.find? type.fullName <;> simp

theorem fresh_cons_iff {registry next : Registry} {type : UserType} {types : List UserType}
    (added : registry.insert type = .ok next) :
    registry.Fresh (type :: types) ↔ next.Fresh types := by
  have new := insert_ok_iff.mp ⟨next, added⟩
  simp only [Fresh, List.map_cons, List.nodup_cons, List.forall_mem_cons, find?_insert added]
  constructor
  · rintro ⟨⟨unused, distinct⟩, _, absent⟩
    refine ⟨distinct, fun other member => ?_⟩
    have apart : other.fullName ≠ type.fullName := fun same =>
      unused (List.mem_map.mpr ⟨other, member, same⟩)
    rw [if_neg apart]
    exact absent other member
  · rintro ⟨distinct, absent⟩
    have apart : ∀ other ∈ types, other.fullName ≠ type.fullName := by
      intro other member same
      have := absent other member
      rw [if_pos same] at this
      cases this
    refine ⟨⟨?_, distinct⟩, new, fun other member => ?_⟩
    · rintro member
      obtain ⟨other, member, same⟩ := List.mem_map.mp member
      exact apart other member same
    · simpa [apart other member] using absent other member

theorem fill_ok_iff {registry : Registry} {types : List UserType} :
    (∃ next, types.foldlM insert registry = .ok next) ↔ registry.Fresh types := by
  induction types generalizing registry with
  | nil => simp [Fresh, pure, Except.pure]
  | cons type rest ih =>
    simp only [List.foldlM_cons, bind_ok_iff]
    constructor
    · rintro ⟨filled, next, added, rest⟩
      exact (fresh_cons_iff added).mpr (ih.mp ⟨filled, rest⟩)
    · intro fresh
      obtain ⟨next, added⟩ := insert_ok_iff.mpr (fresh.2 type List.mem_cons_self)
      obtain ⟨filled, rest⟩ := ih.mpr ((fresh_cons_iff added).mp fresh)
      exact ⟨filled, next, added, rest⟩

theorem find?_fill {registry filled : Registry} {types : List UserType}
    (done : types.foldlM insert registry = .ok filled) {fullName : String} {type : UserType} :
    filled.find? fullName = some type ↔
      (type ∈ types ∧ type.fullName = fullName) ∨ registry.find? fullName = some type := by
  induction types generalizing registry with
  | nil =>
    cases done
    simp
  | cons first rest ih =>
    rw [List.foldlM_cons, bind_ok_iff] at done
    obtain ⟨next, added, done⟩ := done
    have new := insert_ok_iff.mp ⟨next, added⟩
    rw [ih done, find?_insert added]
    by_cases same : fullName = first.fullName
    · subst same
      simp only [↓reduceIte, Option.some.injEq, new, List.mem_cons, reduceCtorEq, or_false]
      constructor
      · rintro (⟨member, named⟩ | rfl)
        · exact ⟨.inr member, named⟩
        · exact ⟨.inl rfl, rfl⟩
      · rintro ⟨rfl | member, named⟩
        · exact .inr rfl
        · exact .inl ⟨member, named⟩
    · simp only [same, ↓reduceIte, List.mem_cons]
      refine or_congr_left ⟨fun ⟨member, named⟩ => ⟨.inr member, named⟩, ?_⟩
      rintro ⟨rfl | member, named⟩
      · exact absurd named.symm same
      · exact ⟨member, named⟩

theorem fresh_nil (registry : Registry) : registry.Fresh [] :=
  ⟨.nil, by simp⟩

theorem fresh_singleton_iff {registry : Registry} {type : UserType} :
    registry.Fresh [type] ↔ registry.find? type.fullName = none := by
  simp [Fresh]

theorem insert_error_iff {registry : Registry} {type : UserType} {error : Error} :
    registry.insert type = .error error ↔
      registry.find? type.fullName ≠ none ∧ error = .schema (.repeatedType type.fullName) := by
  unfold insert
  cases registry.find? type.fullName <;> simp [eq_comm]

theorem fill_error_iff {registry : Registry} {types : List UserType} {error : Error} :
    types.foldlM insert registry = .error error ↔
      ∃ before type after, types = before ++ type :: after ∧ registry.Fresh before ∧
        ¬ registry.Fresh (before ++ [type]) ∧ error = .schema (.repeatedType type.fullName) := by
  induction types generalizing registry with
  | nil => simp [pure, Except.pure]
  | cons first rest ih =>
    simp only [List.foldlM_cons, bind_error_iff, insert_error_iff, ih]
    constructor
    · rintro (⟨known, same⟩ | ⟨next, added, before, type, after, rfl, fresh, repeated, same⟩)
      · exact ⟨[], first, rest, rfl, fresh_nil registry,
          fun new => known (fresh_singleton_iff.mp new), same⟩
      · exact ⟨first :: before, type, after, rfl, (fresh_cons_iff added).mpr fresh,
          fun new => repeated ((fresh_cons_iff added).mp new), same⟩
    · rintro ⟨before, type, after, split, fresh, repeated, same⟩
      cases before with
      | nil =>
        cases split
        exact .inl ⟨fun new => repeated (fresh_singleton_iff.mpr new), same⟩
      | cons _ before =>
        cases split
        obtain ⟨next, added⟩ := insert_ok_iff.mpr (fresh.2 first List.mem_cons_self)
        exact .inr ⟨next, added, before, type, after, rfl, (fresh_cons_iff added).mp fresh,
          fun new => repeated ((fresh_cons_iff added).mpr new), same⟩

theorem fresh_empty_iff {types : List UserType} :
    empty.Fresh types ↔ (types.map UserType.fullName).Nodup := by
  simp [Fresh, find?_empty]

theorem ofTypes_ok_iff {types : List UserType} :
    (∃ registry, ofTypes types = .ok registry) ↔ (types.map UserType.fullName).Nodup := by
  rw [ofTypes, fill_ok_iff, fresh_empty_iff]

theorem ofTypes_error_iff {types : List UserType} {error : Error} :
    ofTypes types = .error error ↔
      ∃ before type after, types = before ++ type :: after ∧ (before.map UserType.fullName).Nodup ∧
        type.fullName ∈ before.map UserType.fullName ∧ error = .schema
    (.repeatedType type.fullName) := by
  have known {before : List UserType} {type : UserType}
      (distinct : (before.map UserType.fullName).Nodup) :
      ¬ ((before ++ [type]).map UserType.fullName).Nodup ↔
        type.fullName ∈ before.map UserType.fullName := by
    simp [List.nodup_append, distinct]
  simp only [ofTypes, fill_error_iff, fresh_empty_iff]
  constructor
  · rintro ⟨before, type, after, split, distinct, repeated, same⟩
    exact ⟨before, type, after, split, distinct, (known distinct).mp repeated, same⟩
  · rintro ⟨before, type, after, split, distinct, repeated, same⟩
    exact ⟨before, type, after, split, distinct, (known distinct).mpr repeated, same⟩

theorem find?_ofTypes {types : List UserType} {registry : Registry}
    (done : ofTypes types = .ok registry) {fullName : String} {type : UserType} :
    registry.find? fullName = some type ↔ type ∈ types ∧ type.fullName = fullName := by
  rw [find?_fill done]
  simp [find?_empty]

theorem find?_ofTypes_eq_none_iff {types : List UserType} {registry : Registry}
    (done : ofTypes types = .ok registry) {fullName : String} :
    registry.find? fullName = none ↔ ∀ type ∈ types, type.fullName ≠ fullName := by
  simp [Option.eq_none_iff_forall_ne_some, find?_ofTypes done]

end MessageSchema.Registry
