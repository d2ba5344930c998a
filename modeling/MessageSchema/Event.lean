import MessageSchema.Error

/-! What loading a schema reports on the way, and computations that record it. Events before an
error are kept. -/
namespace MessageSchema

inductive Event where
  /-- A field's reference was resolved to the type of this full name. -/
  | resolved (field scope target : String)
  /-- A field's reference denotes no type. -/
  | unresolved (field scope reference : String)
  /-- The schema is complete. -/
  | loaded (package : String) (messages enums : Nat)
deriving DecidableEq, Repr

namespace Event

/-- Whether the event is a warning; the others are of interest only when looking for a fault. -/
def isWarning : Event → Bool
  | unresolved .. => true
  | resolved .. | loaded .. => false

def message : Event → String
  | resolved .. => "resolved type reference"
  | unresolved .. => "unresolved type reference, falling back to the raw type name"
  | loaded .. => "schema loaded"

end Event

/-- A result and the events recorded before it. -/
structure Traced (α : Type) where
  events : List Event
  result : Except Error α

namespace Traced

def emit (event : Event) : Traced Unit :=
  ⟨[event], .ok ()⟩

def fail (error : Error) : Traced α :=
  ⟨[], .error error⟩

def ofExcept (result : Except Error α) : Traced α :=
  ⟨[], result⟩

/-- Goes on with the result. The events of both follow each other, and an error ends them. -/
def andThen (first : Traced α) (next : α → Traced β) : Traced β :=
  match first.result with
  | .ok value => ⟨first.events ++ (next value).events, (next value).result⟩
  | .error error => ⟨first.events, .error error⟩

instance : Monad Traced where
  pure value := ⟨[], .ok value⟩
  bind := andThen

theorem bind_ok {first : Traced α} {value : α} (done : first.result = .ok value)
    (next : α → Traced β) :
    first >>= next = ⟨first.events ++ (next value).events, (next value).result⟩ := by
  simp [bind, andThen, done]

theorem bind_error {first : Traced α} {error : Error} (failed : first.result = .error error)
    (next : α → Traced β) : first >>= next = ⟨first.events, .error error⟩ := by
  simp [bind, andThen, failed]

end Traced

end MessageSchema
