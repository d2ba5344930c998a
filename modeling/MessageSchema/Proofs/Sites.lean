import MessageSchema.Document
import MessageSchema.Proofs.Paths

/-! The declarations of a document told by paths of names: a definition is known by the names of the
messages around it, and its scope is the dotted name of that path within the package. -/
namespace MessageSchema

/-- A message definition and the names of the messages around it, outermost first. -/
structure Site where
  outer : List String
  definition : MessageDef

def Site.path (site : Site) : List String :=
  site.outer ++ [site.definition.name]

mutual

/-- Pre-order: a message, then the messages nested in it, siblings in declaration order. -/
def MessageDef.sites (outer : List String) : MessageDef → List Site
  | ⟨name, fields, enums, messages⟩ =>
    ⟨outer, ⟨name, fields, enums, messages⟩⟩ :: MessageDef.sitesAll (outer ++ [name]) messages

def MessageDef.sitesAll (outer : List String) : List MessageDef → List Site
  | [] => []
  | definition :: rest => definition.sites outer ++ MessageDef.sitesAll outer rest

end

namespace Document

variable (document : Document)

def sites : List Site :=
  MessageDef.sitesAll [] document.messages

def pathName (path : List String) : String :=
  Dotted.join (document.package.toList ++ path)

/-- The namespace of what stands inside a path of messages. Only the top level of a document without
a package has none. -/
def namespaceOf (outer : List String) : Option String :=
  if outer = [] then document.package.filter (· ≠ "") else some (document.pathName outer)

def enumAt (outer : List String) (definition : EnumDef) : EnumType :=
  ⟨⟨definition.name, document.namespaceOf outer⟩, definition.values⟩

def messageAt (site : Site) : TypeName :=
  ⟨site.definition.name, document.namespaceOf site.outer⟩

/-- All types: the top-level enums, then each message and its own enums. -/
def declared : List UserType :=
  (document.enums.map fun definition => .enum (document.enumAt [] definition)) ++
    document.sites.flatMap fun site =>
      .message (document.messageAt site) ::
        site.definition.enums.map fun definition => .enum (document.enumAt site.path definition)

theorem qualify_namespaceOf (outer : List String) (name : String) :
    Dotted.qualify (document.namespaceOf outer) name = document.pathName (outer ++ [name]) := by
  by_cases top : outer = []
  · subst outer
    cases stated : document.package with
    | none => simp [namespaceOf, pathName, stated, Dotted.qualify, Dotted.join_singleton]
    | some package =>
      have extended := Dotted.qualify_join [package] name
      rw [Dotted.join_singleton] at extended
      by_cases empty : package = ""
      · simpa [namespaceOf, pathName, stated, empty, Option.filter, Dotted.qualify] using extended
      · simpa [namespaceOf, pathName, stated, empty, Option.filter] using extended
  · simp [namespaceOf, top, pathName, Dotted.qualify_join]

theorem pathName_congr {other : Document} (package : other.package = document.package) :
    other.pathName = document.pathName := by
  funext path
  rw [pathName, pathName, package]

theorem scope_congr {other : Document} (package : other.package = document.package) :
    other.scope = document.scope := by
  rw [scope, scope, package]

theorem namespaceOf_congr {other : Document} (package : other.package = document.package) :
    other.namespaceOf = document.namespaceOf := by
  funext outer
  rw [namespaceOf, namespaceOf, pathName_congr document package, package]

theorem messageAt_fullName (site : Site) :
    (document.messageAt site).fullName = document.pathName site.path :=
  document.qualify_namespaceOf site.outer site.definition.name

theorem enumAt_fullName (outer : List String) (definition : EnumDef) :
    (document.enumAt outer definition).id.fullName = document.pathName (outer ++ [definition.name]) :=
  document.qualify_namespaceOf outer definition.name

theorem namespaceOf_snoc (outer : List String) (name : String) :
    document.namespaceOf (outer ++ [name]) =
      some (Dotted.qualify (document.namespaceOf outer) name) := by
  rw [qualify_namespaceOf]
  simp [namespaceOf]

/-- A site with its scope in place of its path. -/
def place (site : Site) : Placed :=
  ⟨document.namespaceOf site.outer, site.definition⟩

mutual

theorem placed_def (outer : List String) (definition : MessageDef) :
    definition.placed (document.namespaceOf outer) = (definition.sites outer).map document.place := by
  cases definition with
  | mk name fields enums messages =>
    simp only [MessageDef.placed, MessageDef.sites, List.map_cons, place]
    rw [← namespaceOf_snoc, placed_defs]

theorem placed_defs (outer : List String) (definitions : List MessageDef) :
    MessageDef.placedAll (document.namespaceOf outer) definitions =
      (MessageDef.sitesAll outer definitions).map document.place := by
  cases definitions with
  | nil => rfl
  | cons definition rest =>
    simp only [MessageDef.placedAll, MessageDef.sitesAll, List.map_append]
    rw [placed_def, placed_defs]

end

theorem placed_eq : document.placed = document.sites.map document.place :=
  document.placed_defs [] document.messages

theorem place_fullName (site : Site) :
    (document.place site).fullName = document.pathName site.path :=
  document.qualify_namespaceOf site.outer site.definition.name

theorem types_eq : document.types = document.declared := by
  have nested (site : Site) :
      document.namespaceOf site.path = some (document.pathName site.path) := by
    simp [namespaceOf, Site.path]
  simp only [types, declared, placed_eq, List.flatMap_map, Placed.types, place_fullName,
    EnumDef.declare, enumAt, nested]
  rfl

end Document

end MessageSchema
