import MessageSchema.Proofs.Names

/-! Looking up the messages of a loaded schema by name. One dot at the front of the name is always
taken off, so a message whose own full name starts with a dot is found only behind a second one. -/
namespace MessageSchema.Schema

variable {document : Document} {schema : Schema}

/-- The name asks for the full name: itself, or behind a dot. -/
inductive AsksFor : String → String → Prop where
  | absolute {fullName : String} : AsksFor ("." ++ fullName) fullName
  | plain {fullName : String} : (∀ name, fullName ≠ "." ++ name) → AsksFor fullName fullName

theorem asksFor_iff {name fullName : String} :
    AsksFor name fullName ↔ (Dotted.absolute? name).getD name = fullName := by
  cases start : Dotted.absolute? name with
  | some rest =>
    have dotted := Dotted.absolute?_eq_some_iff.mp start
    subst dotted
    constructor
    · intro asks
      generalize written : "." ++ rest = name at asks
      cases asks with
      | absolute => simpa using written
      | plain plain => exact absurd written.symm (plain rest)
    · rintro rfl
      exact .absolute
  | none =>
    have plain := Dotted.absolute?_eq_none_iff.mp start
    constructor
    · intro asks
      cases asks with
      | absolute => exact absurd rfl (plain _)
      | plain _ => rfl
    · rintro rfl
      exact .plain plain

/-- Full names are distinct, so the first message of a name is the only one. -/
theorem message?_eq_some_iff (loaded : (ofDocument document).result = .ok schema) {name : String}
    {message : Message} :
    schema.message? name = some message ↔
      message ∈ schema.messages ∧ AsksFor name message.fullName := by
  rw [message?, asksFor_iff, eq_comm (b := message.fullName)]
  exact find?_key_eq_some_iff (messages_nodup loaded)

end MessageSchema.Schema

namespace MessageSchema

/-- Behind a dot every message is found by its full name, and without one exactly those are whose
full name does not start with a dot. Nothing else is found. -/
theorem messages_found_by_name {document : Document} {schema : Schema}
    (loaded : (Schema.ofDocument document).result = .ok schema) :
    (∀ message ∈ schema.messages, schema.message? ("." ++ message.fullName) = some message ∧
      (schema.message? message.fullName = some message ↔ ∀ name, message.fullName ≠ "." ++ name)) ∧
    ∀ name, (∀ message ∈ schema.messages,
        name ≠ message.fullName ∧ name ≠ "." ++ message.fullName) → schema.message? name = none := by
  refine ⟨fun message member => ⟨?_, ?_⟩, fun name other => ?_⟩
  · exact (Schema.message?_eq_some_iff loaded).mpr ⟨member, .absolute⟩
  · rw [Schema.message?_eq_some_iff loaded]
    constructor
    · rintro ⟨_, asks⟩ name start
      have asked := Schema.asksFor_iff.mp asks
      rw [Dotted.absolute?_eq_some_iff.mpr start, Option.getD_some, start] at asked
      simpa using congrArg String.length asked
    · exact fun plain => ⟨member, .plain plain⟩
  · by_contra found
    obtain ⟨message, found⟩ := Option.ne_none_iff_exists'.mp found
    obtain ⟨member, asks⟩ := (Schema.message?_eq_some_iff loaded).mp found
    obtain ⟨notPlain, notAbsolute⟩ := other message member
    cases asks with
    | absolute => exact notAbsolute rfl
    | plain _ => exact notPlain rfl

/-- A message whose name starts with a dot. -/
def dotted : Document where
  package := none
  enums := []
  messages := [⟨".X", [], [], []⟩]

theorem dotted_found_by_name : ∃ schema, (Schema.ofDocument dotted).result = .ok schema ∧
    (∀ message ∈ schema.messages, schema.message? ("." ++ message.fullName) = some message ∧
      (schema.message? message.fullName = some message ↔ ∀ name, message.fullName ≠ "." ++ name)) ∧
    ∀ name, (∀ message ∈ schema.messages,
        name ≠ message.fullName ∧ name ≠ "." ++ message.fullName) → schema.message? name = none := by
  have accepted : (Schema.ofDocument dotted).result.isOk = true := by decide +kernel
  obtain ⟨schema, loaded⟩ := exists_ok_of_isOk accepted
  exact ⟨schema, loaded, messages_found_by_name loaded⟩

/-- Its own full name does not find it. -/
theorem own_full_name_missed : ¬ ∀ (document : Document) (schema : Schema),
    (Schema.ofDocument document).result = .ok schema →
      ∀ message ∈ schema.messages, schema.message? message.fullName = some message := by
  intro claim
  have loaded : (Schema.ofDocument dotted).result = .ok ⟨none, [], [⟨⟨".X", none⟩, []⟩]⟩ := by rfl
  have found := claim dotted _ loaded ⟨⟨".X", none⟩, []⟩ List.mem_cons_self
  have missed : (⟨none, [], [⟨⟨".X", none⟩, []⟩]⟩ : Schema).message? ".X" = none := by rfl
  cases missed.symm.trans found

end MessageSchema
