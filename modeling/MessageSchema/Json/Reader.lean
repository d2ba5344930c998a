/-! Readers of JSON text. A reader takes something off the front of the characters and leaves the
rest. Text is read from left to right and the first fault ends the reading. -/
namespace MessageSchema.Json

inductive Fault where
  /-- The text breaks the grammar. -/
  | malformed
  /-- The text is JSON of another shape than expected. -/
  | mismatched
  | truncated
deriving DecidableEq, Repr

abbrev Reader (α : Type) := List Char → Except Fault (α × List Char)

namespace Reader

/-- The same reader with a function applied to what it takes. -/
def map (f : α → β) (reader : Reader α) : Reader β := fun text =>
  match reader text with
  | .ok (value, rest) => .ok (f value, rest)
  | .error fault => .error fault

/-- What a round of a loop yields: the state for the next round, or the result. -/
inductive Round (σ α : Type) where
  | again (state : σ)
  | done (value : α)

/-- At most `bound` rounds, starting from a state. -/
def rounds (round : σ → Reader (Round σ α)) : Nat → σ → Reader α
  | 0, _, _ => .error .truncated
  | bound + 1, state, text =>
    match round state text with
    | .ok (.again next, rest) => rounds round bound next rest
    | .ok (.done value, rest) => .ok (value, rest)
    | .error fault => .error fault

/-- Rounds until one is done. A round that is not the last takes at least one character, so the
length of the text bounds their number. -/
def loop (round : σ → Reader (Round σ α)) (state : σ) : Reader α := fun text =>
  rounds round (text.length + 1) state text

theorem rounds_again {round : σ → Reader (Round σ α)} {state next : σ} {text rest : List Char}
    (step : round state text = .ok (.again next, rest)) (bound : Nat) :
    rounds round (bound + 1) state text = rounds round bound next rest := by
  simp [rounds, step]

theorem rounds_done {round : σ → Reader (Round σ α)} {state : σ} {value : α} {text rest : List Char}
    (step : round state text = .ok (.done value, rest)) (bound : Nat) :
    rounds round (bound + 1) state text = .ok (value, rest) := by
  simp [rounds, step]

/-- A loop that ends well within some bound does so within every greater one. -/
theorem rounds_ok_mono {round : σ → Reader (Round σ α)} {m n : Nat} {state : σ} {text : List Char}
    {result : α × List Char} (done : rounds round m state text = .ok result) (more : m ≤ n) :
    rounds round n state text = .ok result := by
  induction m generalizing n state text with
  | zero => cases done
  | succ m ih =>
    obtain ⟨n, rfl⟩ : ∃ k, n = k + 1 := ⟨n - 1, by omega⟩
    unfold rounds at done ⊢
    split
    · next step =>
      rw [step] at done
      exact ih done (by omega)
    · next step =>
      rw [step] at done
      exact done
    · next step =>
      rw [step] at done
      cases done

theorem loop_again {round : σ → Reader (Round σ α)} {state next : σ} {text rest : List Char}
    {result : α × List Char} (step : round state text = .ok (.again next, rest))
    (shorter : rest.length < text.length) (done : loop round next rest = .ok result) :
    loop round state text = .ok result := by
  rw [loop, rounds_again step]
  exact rounds_ok_mono done (by omega)

theorem loop_done {round : σ → Reader (Round σ α)} {state : σ} {value : α} {text rest : List Char}
    (step : round state text = .ok (.done value, rest)) :
    loop round state text = .ok (value, rest) :=
  rounds_done step _

/-- A loop goes on as it does from another state with the same next round. -/
theorem loop_of_same_round {round : σ → Reader (Round σ α)} {state other : σ} {text input : List Char}
    {result : α × List Char} (same : round state text = round other input)
    (shorter : input.length ≤ text.length) (done : loop round other input = .ok result) :
    loop round state text = .ok result := by
  have bounded := rounds_ok_mono done (show input.length + 1 ≤ text.length + 1 by omega)
  unfold loop rounds at *
  rw [same]
  exact bounded

end Reader

end MessageSchema.Json
