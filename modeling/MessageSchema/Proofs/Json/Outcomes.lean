import MessageSchema.Json.Reader

/-! Outcomes of reading a text that may hold numbers too large for any value. All in front of such a
number is read as the grammar says, and the number itself is a fault. -/
namespace MessageSchema.Json
open Reader

/-- The outcome is the result, or else a fault, if `unreadable` allows for one. -/
inductive Yields (unreadable : Prop) (outcome : Except Fault α) (result : α) : Prop where
  | read : outcome = .ok result → Yields unreadable outcome result
  | fault {fault : Fault} : unreadable → outcome = .error fault → Yields unreadable outcome result

theorem Yields.ok {unreadable : Prop} {outcome : Except Fault α} {result : α}
    (yields : Yields unreadable outcome result) (readable : ¬ unreadable) : outcome = .ok result := by
  cases yields with
  | read same => exact same
  | fault lost => exact absurd lost readable

theorem Yields.bind {unreadable : Prop} {outcome : Except Fault α} {result : α}
    {next : α → Except Fault β} {final : β} (yields : Yields unreadable outcome result)
    (later : Yields unreadable (next result) final) : Yields unreadable (outcome >>= next) final := by
  cases yields with
  | read same =>
    subst same
    exact later
  | fault lost same =>
    subst same
    exact .fault lost rfl

theorem Yields.map {unreadable : Prop} {reader : Reader α} {value : α} {text rest : List Char}
    (yields : Yields unreadable (reader text) (value, rest)) (f : α → β) :
    Yields unreadable (reader.map f text) (f value, rest) := by
  cases yields with
  | read same => exact .read (by simp only [Reader.map, same])
  | fault lost same => exact .fault lost (by simp only [Reader.map, same]; rfl)

/-- From this state the loop yields the result, as long as no bound ends it. -/
def LoopYields (unreadable : Prop) (round : σ → Reader (Round σ α)) (state : σ) (text : List Char)
    (result : α × List Char) : Prop :=
  ∀ bound, text.length < bound → Yields unreadable (rounds round bound state text) result

section
variable {unreadable : Prop} {round : σ → Reader (Round σ α)} {state : σ} {text rest : List Char}

theorem LoopYields.again {next : σ} {result : α × List Char}
    (step : Yields unreadable (round state text) (.again next, rest))
    (shorter : rest.length < text.length) (later : LoopYields unreadable round next rest result) :
    LoopYields unreadable round state text result := by
  intro bound enough
  obtain ⟨bound, rfl⟩ : ∃ k, bound = k + 1 := ⟨bound - 1, by omega⟩
  cases step with
  | read same =>
    rw [rounds_again same]
    exact later bound (by omega)
  | fault lost same => exact .fault lost (by simp only [rounds, same]; rfl)

theorem LoopYields.done {value : α}
    (step : Yields unreadable (round state text) (.done value, rest)) :
    LoopYields unreadable round state text (value, rest) := by
  intro bound enough
  obtain ⟨bound, rfl⟩ : ∃ k, bound = k + 1 := ⟨bound - 1, by omega⟩
  cases step with
  | read same => exact .read (rounds_done same bound)
  | fault lost same => exact .fault lost (by simp only [rounds, same]; rfl)

theorem LoopYields.loop {result : α × List Char}
    (yields : LoopYields unreadable round state text result) :
    Yields unreadable (loop round state text) result :=
  yields _ (Nat.lt_succ_self _)

end

end MessageSchema.Json
