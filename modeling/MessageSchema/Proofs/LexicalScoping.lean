import MessageSchema.Proofs.DeclarationTree
import MessageSchema.Proofs.Loading

/-! Where names have no dots, the search over dotted names is lexical scoping: it walks from the
node of a message up to the root of the declaration tree and takes the first node from which the
names of the reference lead down to a declared type. -/
namespace MessageSchema

/-- The package is the dotted name of its components, none if it is absent, and all names of the
document can stand between dots. -/
structure Document.Plain (document : Document) (components : List String) : Prop where
  package : document.package.getD "" = ".".intercalate components
  components : Dotted.IsPath components
  enums : ∀ definition ∈ document.enums, Dotted.IsName definition.name
  messages : ∀ site ∈ document.sites, Dotted.IsName site.definition.name ∧
    ∀ definition ∈ site.definition.enums, Dotted.IsName definition.name

mutual

theorem MessageDef.isPath_sites {outer : List String} (around : Dotted.IsPath outer)
    {definition : MessageDef} (named : ∀ site ∈ definition.sites outer,
      Dotted.IsName site.definition.name) :
    ∀ site ∈ definition.sites outer, Dotted.IsPath site.path := by
  cases definition with
  | mk name fields enums messages =>
    rw [sites, List.forall_mem_cons] at named ⊢
    have own : Dotted.IsPath (outer ++ [name]) :=
      around.append (by simpa [Dotted.IsPath] using named.1)
    exact ⟨own, isPath_sitesAll own named.2⟩

theorem MessageDef.isPath_sitesAll {outer : List String} (around : Dotted.IsPath outer)
    {definitions : List MessageDef} (named : ∀ site ∈ sitesAll outer definitions,
      Dotted.IsName site.definition.name) :
    ∀ site ∈ sitesAll outer definitions, Dotted.IsPath site.path := by
  cases definitions with
  | nil => simp [sitesAll]
  | cons definition rest =>
    rw [sitesAll, List.forall_mem_append] at named ⊢
    exact ⟨isPath_sites around named.1, isPath_sitesAll around named.2⟩

end

namespace Document

variable {document : Document} {components : List String}

theorem Plain.isPath_site (plain : document.Plain components) {site : Site}
    (member : site ∈ document.sites) : Dotted.IsPath site.path :=
  MessageDef.isPath_sitesAll (by simp [Dotted.IsPath])
    (fun site member => (plain.messages site member).1) site member

theorem Plain.isPath_top (plain : document.Plain components) {path : List String} {node : Node}
    (member : (path, node) ∈ Node.entriesAll document.top) : Dotted.IsPath path := by
  have single {name : String} (named : Dotted.IsName name) : Dotted.IsPath [name] := by
    simpa [Dotted.IsPath] using named
  rw [top_entries, List.mem_append, List.mem_map, List.mem_flatMap] at member
  rcases member with ⟨definition, member, same⟩ | ⟨site, member, inside⟩
  · cases same
    exact single (plain.enums definition member)
  · rcases List.mem_cons.mp inside with same | inside
    · cases same
      exact plain.isPath_site member
    · obtain ⟨definition, nested, same⟩ := List.mem_map.mp inside
      cases same
      have named := (plain.messages site member).2 definition nested
      exact (plain.isPath_site member).append (single named)

theorem Plain.pathName_eq (plain : document.Plain components) (path : List String) :
    document.pathName path = Dotted.join (components ++ path) := by
  have package := plain.package.trans plain.components.join_eq.symm
  cases stated : document.package with
  | none =>
    have root : components = [] := by
      by_contra nonempty
      exact plain.components.join_ne_empty nonempty (by simpa [stated] using package.symm)
    simp [pathName, stated, root]
  | some text =>
    have text_eq : text = Dotted.join components := by simpa [stated] using package
    simp only [pathName, stated, text_eq, Option.toList_some, List.singleton_append,
      Dotted.join_join_cons]

variable {registry : Registry}

theorem top_distinct (filled : Registry.ofTypes document.declared = .ok registry) :
    ((Node.entriesAll document.top).map Prod.fst).Nodup := by
  have names : ((Node.entriesAll document.top).map Prod.fst).map document.pathName =
      document.declared.map UserType.fullName := by
    simpa [Function.comp_def] using congrArg (List.map Prod.snd) document.top_declares
  have distinct := Registry.ofTypes_ok_iff.mp ⟨registry, filled⟩
  rw [← names] at distinct
  exact distinct.of_map

theorem tree_distinct (filled : Registry.ofTypes document.declared = .ok registry)
    (components : List String) : (document.tree components).Distinct :=
  Node.packaged_distinct (top_distinct filled) "" components

theorem mem_tree_iff {path : List String} {node : Node} {type : UserType}
    (declares : node.declares = some type) :
    (path, node) ∈ (document.tree components).entries ↔
      ∃ rest, (rest, node) ∈ Node.entriesAll document.top ∧ components ++ rest = path :=
  Node.mem_packaged_entries_iff type declares

theorem declared_iff_top {type : UserType} {fullName : String} :
    type ∈ document.declared ∧ type.fullName = fullName ↔
      ∃ path node, (path, node) ∈ Node.entriesAll document.top ∧ node.declares = some type ∧
        document.pathName path = fullName := by
  have same := congrArg ((some type, fullName) ∈ ·) document.top_declares
  simpa [eq_comm] using same.symm

theorem Plain.typeAt?_eq_some_iff (plain : document.Plain components)
    (filled : Registry.ofTypes document.declared = .ok registry) {names : List String}
    (path : Dotted.IsPath names) {type : UserType} :
    (document.tree components).typeAt? names = some type ↔
      type ∈ document.declared ∧ type.fullName = Dotted.join names := by
  simp only [Node.typeAt?, Option.bind_eq_some_iff, (tree_distinct filled _).descend?_eq_some_iff,
    declared_iff_top]
  constructor
  · rintro ⟨node, listed, declares⟩
    obtain ⟨rest, inside, rfl⟩ := (mem_tree_iff declares).mp listed
    exact ⟨rest, node, inside, declares, plain.pathName_eq rest⟩
  · rintro ⟨rest, node, listed, declares, same⟩
    rw [plain.pathName_eq] at same
    have below := (plain.components.append (plain.isPath_top listed)).join_injective path same
    exact ⟨node, (mem_tree_iff declares).mpr ⟨rest, listed, below⟩, declares⟩

/-- The search over dotted names is the walk up the declaration tree. -/
theorem Plain.resolve?_eq (plain : document.Plain components)
    (filled : Registry.ofTypes document.declared = .ok registry) {site : Site}
    (member : site ∈ document.sites) {names : List String} (nonempty : names ≠ [])
    (path : Dotted.IsPath names) :
    registry.resolve? (document.pathName site.path) (".".intercalate names) =
      ((document.tree components).walkUp (components ++ site.path)).findSome? (·.typeAt? names) := by
  have around := plain.components.append (plain.isPath_site member)
  have step (outer : List String) (before : outer ∈ (components ++ site.path).inits.reverse) :
      registry.find? (Dotted.qualify (some (Dotted.join outer)) (Dotted.join names)) =
        ((document.tree components).descend? outer).bind (·.typeAt? names) := by
    have outerPath : Dotted.IsPath outer := fun name inside =>
      around name (((List.mem_inits _ _).mp (List.mem_reverse.mp before)).mem inside)
    ext type
    rw [← Node.typeAt?_append, plain.typeAt?_eq_some_iff filled (outerPath.append path),
      outerPath.qualify_append path nonempty, Registry.find?_ofTypes filled]
  rw [← path.join_eq, Registry.resolve?, path.absolute?_join nonempty, plain.pathName_eq,
    around.scopes_join, List.findSome?_map, Node.walkUp_eq, ← List.head?_filterMap,
    ← List.head?_filterMap, List.filterMap_filterMap]
  exact congrArg List.head? (List.filterMap_congr step)

theorem descend?_site (filled : Registry.ofTypes document.declared = .ok registry) {site : Site}
    (member : site ∈ document.sites) (components : List String) :
    (document.tree components).descend? (components ++ site.path) = some
    (document.siteNode site) := by
  have listed : (site.path, document.siteNode site) ∈ Node.entriesAll document.top := by
    rw [top_entries]
    exact List.mem_append_right _ (List.mem_flatMap.mpr ⟨site, member, List.mem_cons_self⟩)
  rw [(tree_distinct filled components).descend?_eq_some_iff]
  exact (mem_tree_iff (document.siteNode_declares site)).mpr ⟨site.path, listed, rfl⟩

/-- A relative reference is attached to the first type found on the way up from its message. -/
structure Lexical (document : Document) (components : List String) (site : Site)
    (definition : FieldDef) (field : Field) : Prop where
  own : (document.tree components).descend? (components ++ site.path) =
    some (document.siteNode site)
  first : Scalar.ofTag? definition.tag = none → ∀ names, names ≠ [] → Dotted.IsPath names →
    definition.reference = ".".intercalate names →
      field.target = ((document.tree components).walkUp (components ++ site.path)).findSome?
        (·.typeAt? names) ∧
      (field.target = none ↔ ∀ node ∈ (document.tree components).walkUp (components ++ site.path),
        node.typeAt? names = none)

end Document

theorem resolution_is_lexical {document : Document} {components : List String} {schema : Schema}
    (plain : document.Plain components) (loaded : (Schema.ofDocument document).result = .ok schema) :
    schema.EachField document (document.Lexical components) := by
  refine Schema.eachField_of_build loaded
    fun registry filled site member definition _ field built => ?_
  refine ⟨document.descend?_site filled member components, fun user names nonempty path written => ?_⟩
  have target := FieldDef.target_of_build built
  rw [FieldDef.target?_user user, written, plain.resolve?_eq filled member nonempty path] at target
  exact ⟨target, by rw [target, List.findSome?_eq_none_iff]⟩

/-- The inner `Order` has no `Kind`, so the reference to one goes past it to the outer `Order`. -/
def nesting : Document where
  package := some "shop.core"
  enums := []
  messages := [⟨"Order", [], [⟨"Kind", [⟨"NEW", 0⟩]⟩],
    [⟨"Line", [⟨"kind", 1, "optional", "Order.Kind", none, none⟩], [],
      [⟨"Order", [⟨"line", 1, "optional", "Line", none, none⟩], [], []⟩]⟩]⟩]

theorem nesting_lexical : nesting.Plain ["shop", "core"] ∧
    (∃ schema, (Schema.ofDocument nesting).result = .ok schema ∧
      schema.EachField nesting (nesting.Lexical ["shop", "core"])) ∧
    ((nesting.tree ["shop", "core"]).walkUp ["shop", "core", "Order", "Line"]).findSome?
      (·.typeAt? ["Order", "Kind"]) = some
    (.enum ⟨⟨"Kind", some "shop.core.Order"⟩, [⟨"NEW", 0⟩]⟩) := by
  have plain : nesting.Plain ["shop", "core"] := by
    constructor <;> decide +kernel
  have accepted : (Schema.ofDocument nesting).result.isOk = true := by decide +kernel
  obtain ⟨schema, loaded⟩ := exists_ok_of_isOk accepted
  exact ⟨plain, ⟨schema, loaded, resolution_is_lexical plain loaded⟩, by decide +kernel⟩

end MessageSchema
