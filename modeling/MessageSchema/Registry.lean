import MessageSchema.Error

/-! The user-defined types of a schema by full name, and the resolution of references to them. -/
namespace MessageSchema

/-- Types under their full names. Each name stands for one type. -/
structure Registry where
  entries : List (String × UserType)

namespace Registry

def empty : Registry := ⟨[]⟩

/-- The type of a full name. -/
def find? (registry : Registry) (fullName : String) : Option UserType :=
  registry.entries.lookup fullName

/-- Adds a type under its full name, which must be new. -/
def insert (registry : Registry) (type : UserType) : Except Error Registry :=
  match registry.find? type.fullName with
  | some _ => .error (.schema (.repeatedType type.fullName))
  | none => .ok ⟨(type.fullName, type) :: registry.entries⟩

/-- Adds types in order. The first full name that repeats is the fault. -/
def ofTypes (types : List UserType) : Except Error Registry :=
  types.foldlM insert empty

/-- The type that a reference made inside `scope` denotes. A leading dot makes it absolute; else the
scopes are tried from the innermost outward. -/
def resolve? (registry : Registry) (scope reference : String) : Option UserType :=
  match Dotted.absolute? reference with
  | some fullName => registry.find? fullName
  | none =>
    (Dotted.scopes scope).findSome? fun outer =>
      registry.find? (Dotted.qualify (some outer) reference)

theorem find?_empty (fullName : String) : empty.find? fullName = none := rfl

theorem find?_insert {registry next : Registry} {type : UserType}
    (added : registry.insert type = .ok next) (fullName : String) :
    next.find? fullName =
      if fullName = type.fullName then some type else registry.find? fullName := by
  unfold insert at added
  split at added
  · cases added
  · cases added
    by_cases same : fullName = type.fullName
    · subst same
      simp [find?]
    · have other : (fullName == type.fullName) = false := by simpa using same
      simp [find?, List.lookup_cons, other, same]

end Registry

end MessageSchema
