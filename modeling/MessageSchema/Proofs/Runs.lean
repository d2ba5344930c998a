import MessageSchema.Proofs.Results

/-! Recorded computations run over a list. A run does every item, or it ends at the first that
fails; either way it records what the items that it has come to record, in order. -/
namespace MessageSchema.Traced

theorem pure_bind (value : α) (next : α → Traced β) : pure value >>= next = next value := by
  rw [bind_ok (result_pure value)]
  rfl

theorem bind_assoc (first : Traced α) (next : α → Traced β) (last : β → Traced γ) :
    first >>= next >>= last = first >>= fun value => next value >>= last := by
  cases done : first.result with
  | error error =>
    have failed : (first >>= next).result = .error error := by rw [bind_error done]
    rw [bind_error failed, bind_error done, bind_error done]
  | ok value =>
    rw [bind_ok done, bind_ok done]
    cases later : (next value).result with
    | error error => rw [bind_error later, bind_error rfl]
    | ok result => rw [bind_ok later, bind_ok rfl, List.append_assoc]

/-- The computation with its events and its error, and without its value. -/
def forget (traced : Traced α) : Traced Unit := do
  let _ ← traced
  pure ()

@[simp]
theorem events_forget (traced : Traced α) : traced.forget.events = traced.events := by
  unfold forget
  cases done : traced.result with
  | ok value => rw [bind_ok done]; exact List.append_nil _
  | error error => rw [bind_error done]

theorem forget_ok_iff {traced : Traced α} :
    traced.forget.result = .ok () ↔ ∃ value, traced.result = .ok value := by
  simp [forget, bind_ok_iff]

theorem forget_error_iff {traced : Traced α} {error : Error} :
    traced.forget.result = .error error ↔ traced.result = .error error := by
  simp [forget, bind_error_iff]

theorem eq_of_forget_error {traced : Traced α} {events : List Event} {error : Error}
    (forgotten : traced.forget = ⟨events, .error error⟩) : traced = ⟨events, .error error⟩ := by
  have recorded : traced.events = events := by rw [← events_forget, forgotten]
  have failed : traced.result = .error error := by rw [← forget_error_iff, forgotten]
  rw [← recorded, ← failed]

theorem eq_of_forget_ok {traced : Traced α} {events : List Event}
    (forgotten : traced.forget = ⟨events, .ok ()⟩) : ∃ value, traced = ⟨events, .ok value⟩ := by
  have recorded : traced.events = events := by rw [← events_forget, forgotten]
  obtain ⟨value, done⟩ := forget_ok_iff.mp (by rw [forgotten])
  exact ⟨value, by rw [← recorded, ← done]⟩

theorem forget_bind (first : Traced α) (next : α → Traced β) :
    (first >>= next).forget = first >>= fun value => (next value).forget :=
  bind_assoc first next _

section Run

variable {step : α → Traced Unit}

/-- A step for each item in order, of which the first to fail is the last. -/
def run (step : α → Traced Unit) : List α → Traced Unit
  | [] => pure ()
  | item :: rest => do
    step item
    run step rest

theorem run_append (items others : List α) :
    run step (items ++ others) = run step items >>= fun _ => run step others := by
  induction items with
  | nil => rw [run, pure_bind, List.nil_append]
  | cons item rest ih => rw [List.cons_append, run, run, ih, bind_assoc]

theorem run_done {items : List α} (all : ∀ item ∈ items, (step item).result = .ok ()) :
    run step items = ⟨items.flatMap fun item => (step item).events, .ok ()⟩ := by
  induction items with
  | nil => rfl
  | cons item rest ih =>
    obtain ⟨first, later⟩ := List.forall_mem_cons.mp all
    rw [run, bind_ok first, ih later, List.flatMap_cons]

theorem run_stopped {passed rest : List α} {item : α} {error : Error}
    (before : ∀ prior ∈ passed, (step prior).result = .ok ())
    (failed : (step item).result = .error error) :
    run step (passed ++ item :: rest) =
      ⟨(passed.flatMap fun prior => (step prior).events) ++ (step item).events, .error error⟩ := by
  rw [run_append, run_done before, bind_ok rfl, run, bind_error failed]

end Run

end MessageSchema.Traced
