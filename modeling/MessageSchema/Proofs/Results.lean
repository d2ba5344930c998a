import Mathlib.Data.List.Forall2
import Mathlib.Data.List.Nodup
import MessageSchema.Event

/-! Results of recorded computations, and of computations run over a list. What a computation
returns is the `Except` computation left when its events are forgotten. -/
namespace MessageSchema

theorem bind_ok_iff {first : Except ε α} {next : α → Except ε β} {result : β} :
    (first >>= next) = .ok result ↔ ∃ value, first = .ok value ∧ next value = .ok result := by
  cases first with
  | error error =>
    constructor
    · intro impossible; cases impossible
    · rintro ⟨_, impossible, _⟩; cases impossible
  | ok value =>
    constructor
    · exact fun done => ⟨value, rfl, done⟩
    · rintro ⟨_, same, done⟩
      cases same
      exact done

theorem bind_error_iff {first : Except ε α} {next : α → Except ε β} {error : ε} :
    (first >>= next) = .error error ↔
      first = .error error ∨ ∃ value, first = .ok value ∧ next value = .error error := by
  cases first with
  | error other => simp [bind, Except.bind]
  | ok value => simp [bind, Except.bind]

theorem mapError_eq_error_iff {result : Except ε α} {wrap : ε → ε'} {error : ε'} :
    result.mapError wrap = .error error ↔ ∃ fault, result = .error fault ∧ error = wrap fault := by
  cases result <;> simp [Except.mapError, eq_comm]

theorem exists_ok_of_isOk {result : Except ε α} (done : result.isOk = true) :
    ∃ value, result = .ok value := by
  cases result with
  | error error => cases done
  | ok value => exact ⟨value, rfl⟩

theorem exists_error_of_not_isOk {result : Except ε α} (failed : result.isOk = false) :
    ∃ error, result = .error error := by
  cases result with
  | error error => exact ⟨error, rfl⟩
  | ok value => cases failed

theorem forall₂_imp_left {R S : α → β → Prop} {items : List α} {results : List β}
    (step : ∀ item ∈ items, ∀ result, R item result → S item result)
    (all : List.Forall₂ R items results) : List.Forall₂ S items results := by
  have placed := (List.forall₂_and_left items results).mpr ⟨fun _ member => member, all⟩
  exact placed.imp fun item result ⟨member, related⟩ => step item member result related

theorem forall₂_congr_left {R S : α → β → Prop} {items : List α} {results : List β}
    (same : ∀ item ∈ items, ∀ result, R item result ↔ S item result) :
    List.Forall₂ R items results ↔ List.Forall₂ S items results :=
  ⟨forall₂_imp_left fun item member result => (same item member result).mp,
    forall₂_imp_left fun item member result => (same item member result).mpr⟩

theorem exists_forall₂_iff {R : α → β → Prop} {items : List α} :
    (∃ results, List.Forall₂ R items results) ↔ ∀ item ∈ items, ∃ result, R item result := by
  induction items with
  | nil => simp
  | cons item rest ih =>
    rw [List.forall_mem_cons, ← ih]
    constructor
    · rintro ⟨_, all⟩
      cases all with
      | cons first others => exact ⟨⟨_, first⟩, _, others⟩
    · rintro ⟨⟨_, first⟩, _, others⟩
      exact ⟨_, .cons first others⟩

theorem forall₂_exists_right {R : α → β → Prop} {items : List α} {results : List β}
    (all : List.Forall₂ R items results) {item : α} (member : item ∈ items) :
    ∃ result ∈ results, R item result := by
  induction all with
  | nil => cases member
  | cons first _ ih =>
    rcases List.mem_cons.mp member with rfl | inside
    · exact ⟨_, List.mem_cons_self, first⟩
    · obtain ⟨result, found, related⟩ := ih inside
      exact ⟨result, List.mem_cons_of_mem _ found, related⟩

/-- Under distinct keys the first item of a key is the only one. -/
theorem find?_key_eq_some_iff [DecidableEq κ] {key : α → κ} {items : List α}
    (distinct : (items.map key).Nodup) {k : κ} {item : α} :
    items.find? (fun other => key other = k) = some item ↔ item ∈ items ∧ key item = k := by
  constructor
  · intro found
    exact ⟨List.mem_of_find?_eq_some found, by simpa using List.find?_some found⟩
  · rintro ⟨member, rfl⟩
    cases found : items.find? (fun other => key other = key item) with
    | none => simpa using List.find?_eq_none.mp found item member
    | some other =>
      have same : key other = key item := by simpa using List.find?_some found
      rw [List.inj_on_of_nodup_map distinct (List.mem_of_find?_eq_some found) member same]

/-- Under distinct keys what an item contributes to a list is all of the list that bears its key. -/
theorem filter_flatMap_key [DecidableEq κ] {key : α → κ} {mark : β → κ} {f : α → List β}
    {items : List α} (marked : ∀ item, ∀ entry ∈ f item, mark entry = key item)
    (distinct : (items.map key).Nodup) {item : α} (member : item ∈ items) :
    (items.flatMap f).filter (mark · = key item) = f item := by
  have own : (f item).filter (mark · = key item) = f item :=
    List.filter_eq_self.mpr fun entry inside => by simpa using marked item entry inside
  have foreign {other : α} (differs : key other ≠ key item) :
      (f other).filter (mark · = key item) = [] :=
    List.filter_eq_nil_iff.mpr fun entry inside => by simpa [marked other entry inside] using differs
  induction items with
  | nil => cases member
  | cons first rest ih =>
    obtain ⟨new, others⟩ := List.nodup_cons.mp distinct
    rw [List.flatMap_cons, List.filter_append]
    rcases List.mem_cons.mp member with rfl | inside
    · have none : (rest.flatMap f).filter (mark · = key item) = [] := by
        rw [List.filter_flatMap, List.flatMap_eq_nil_iff]
        exact fun other among => foreign fun same => new (same ▸ List.mem_map_of_mem among)
      rw [own, none, List.append_nil]
    · have other : key first ≠ key item := fun same => new (same ▸ List.mem_map_of_mem inside)
      rw [foreign other, List.nil_append, ih others inside]

theorem flatMap_eq_of_forall₂ {R : α → β → Prop} {f : α → List γ} {g : β → List γ}
    {items : List α} {others : List β} (all : List.Forall₂ R items others)
    (same : ∀ item other, R item other → f item = g other) : items.flatMap f = others.flatMap g := by
  induction all with
  | nil => rfl
  | cons first _ ih => rw [List.flatMap_cons, List.flatMap_cons, same _ _ first, ih]

theorem countP_flatMap_of_forall₂ {R : α → β → Prop} {f : α → List γ} {p : γ → Bool} {q : β → Bool}
    {items : List α} {others : List β} (all : List.Forall₂ R items others)
    (same : ∀ item other, R item other → (f item).countP p = if q other then 1 else 0) :
    (items.flatMap f).countP p = others.countP q := by
  induction all with
  | nil => rfl
  | cons first _ ih =>
    rw [List.flatMap_cons, List.countP_append, ih, same _ _ first, List.countP_cons, Nat.add_comm]

namespace Traced

@[simp]
theorem result_pure (value : α) : (pure value : Traced α).result = .ok value := rfl

@[simp]
theorem result_ofExcept (result : Except Error α) : (ofExcept result).result = result := rfl

@[simp]
theorem result_emit (event : Event) : (emit event).result = .ok () := rfl

@[simp]
theorem result_bind (first : Traced α) (next : α → Traced β) :
    (first >>= next).result = first.result >>= fun value => (next value).result := by
  cases done : first.result with
  | ok value => rw [bind_ok done]; rfl
  | error error => rw [bind_error done]; rfl

theorem bind_congr {first : Traced α} {next other : α → Traced β}
    (same : ∀ value, first.result = .ok value → next value = other value) :
    first >>= next = first >>= other := by
  cases done : first.result with
  | ok value => rw [bind_ok done, bind_ok done, same value done]
  | error error => rw [bind_error done, bind_error done]

end Traced

end MessageSchema
