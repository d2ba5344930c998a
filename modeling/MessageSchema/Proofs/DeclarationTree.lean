import MessageSchema.Proofs.Results
import MessageSchema.Proofs.Sites

/-! The declaration tree of a document, with its package components at the top. Where no two nodes
have one path, the walk down from a node finds exactly the nodes of its listing. -/
namespace MessageSchema

/-- A package component, an enum or a message, with what it declares and what stands inside it. -/
inductive Node where
  | mk (name : String) (declares : Option UserType) (inside : List Node)

namespace Node

def name : Node → String
  | ⟨name, _, _⟩ => name

def declares : Node → Option UserType
  | ⟨_, declares, _⟩ => declares

def inside : Node → List Node
  | ⟨_, _, inside⟩ => inside

def child? (node : Node) (name : String) : Option Node :=
  node.inside.find? (·.name = name)

/-- The node to which the names lead downwards. -/
def descend? (node : Node) : List String → Option Node
  | [] => some node
  | name :: rest => (node.child? name).bind (descend? · rest)

/-- The type to which the names lead downwards. -/
def typeAt? (node : Node) (names : List String) : Option UserType :=
  (node.descend? names).bind declares

/-- The nodes on the way up from the node of a path to this one, both included. -/
def walkUp (node : Node) : List String → List Node
  | [] => [node]
  | name :: rest =>
    match node.child? name with
    | some child => child.walkUp rest ++ [node]
    | none => [node]

mutual

/-- All nodes with their paths from this one. -/
def entries : Node → List (List String × Node)
  | ⟨name, declares, inside⟩ => ([], ⟨name, declares, inside⟩) :: entriesAll inside

def entriesAll : List Node → List (List String × Node)
  | [] => []
  | child :: rest =>
    (child.entries.map fun (path, node) => (child.name :: path, node)) ++ entriesAll rest

end

theorem descend?_append (node : Node) (names more : List String) :
    node.descend? (names ++ more) = (node.descend? names).bind (descend? · more) := by
  induction names generalizing node with
  | nil => rfl
  | cons name rest ih =>
    simp only [List.cons_append, descend?, Option.bind_assoc, ih]

theorem typeAt?_append (node : Node) (names more : List String) :
    node.typeAt? (names ++ more) = (node.descend? names).bind (typeAt? · more) := by
  simp only [typeAt?, descend?_append, Option.bind_assoc]

/-- The walk up visits the nodes of the prefixes, the longest first. -/
theorem walkUp_eq (node : Node) (path : List String) :
    node.walkUp path = path.inits.reverse.filterMap node.descend? := by
  induction path generalizing node with
  | nil => rfl
  | cons name rest ih =>
    rw [walkUp]
    cases below : node.child? name with
    | some child =>
      simp only [List.inits_cons, List.reverse_cons, List.filterMap_append, ← List.map_reverse,
        List.filterMap_map]
      simp [Function.comp_def, descend?, below, ih, List.filterMap]
    | none => simp [Function.comp_def, descend?, below]

theorem entries_eq (node : Node) : node.entries = ([], node) :: entriesAll node.inside := by
  cases node
  rw [entries]
  rfl

theorem entriesAll_eq (nodes : List Node) :
    entriesAll nodes =
      nodes.flatMap fun child => child.entries.map fun (path, node) =>
        (child.name :: path, node) := by
  induction nodes with
  | nil => rfl
  | cons child rest ih => rw [entriesAll, ih, List.flatMap_cons]

theorem entriesAll_append (nodes more : List Node) :
    entriesAll (nodes ++ more) = entriesAll nodes ++ entriesAll more := by
  simp only [entriesAll_eq, List.flatMap_append]

theorem mem_entriesAll_iff {nodes : List Node} {path : List String} {found : Node} :
    (path, found) ∈ entriesAll nodes ↔
      ∃ child ∈ nodes, ∃ rest, (rest, found) ∈ child.entries ∧ child.name :: rest = path := by
  simp [entriesAll_eq]

theorem mem_entries_nil_iff {node found : Node} : ([], found) ∈ node.entries ↔ found = node := by
  rw [entries_eq, List.mem_cons, mem_entriesAll_iff]
  simp

theorem mem_entries_cons_iff {node found : Node} {name : String} {rest : List String} :
    (name :: rest, found) ∈ node.entries ↔
      ∃ child, (child ∈ node.inside ∧ child.name = name) ∧ (rest, found) ∈ child.entries := by
  rw [entries_eq, List.mem_cons, mem_entriesAll_iff]
  constructor
  · rintro (impossible | ⟨child, member, _, below, same⟩)
    · cases impossible
    · cases same
      exact ⟨child, ⟨member, rfl⟩, below⟩
  · rintro ⟨child, ⟨member, rfl⟩, below⟩
    exact .inr ⟨child, member, rest, below, rfl⟩

/-- No two nodes, this one or below it, have one path. -/
def Distinct (node : Node) : Prop :=
  (node.entries.map Prod.fst).Nodup

theorem Distinct.inside {node : Node} (distinct : node.Distinct) :
    (node.inside.map name).Nodup ∧ ∀ child ∈ node.inside, child.Distinct := by
  rw [Distinct, entries_eq, List.map_cons, List.nodup_cons, entriesAll_eq, List.map_flatMap,
    List.nodup_flatMap] at distinct
  obtain ⟨-, each, apart⟩ := distinct
  constructor
  · refine List.pairwise_map.mpr (apart.imp fun {first second} disjoint same => ?_)
    have head (child : Node) : [child.name] ∈
        (child.entries.map fun (path, node) => (child.name :: path, node)).map Prod.fst := by
      simp [entries_eq]
    exact disjoint (head first) (same ▸ head second)
  · intro child member
    have below := each child member
    rw [List.map_map] at below
    exact List.Nodup.of_map (child.name :: ·) (by simpa [Function.comp_def] using below)

theorem Distinct.child?_eq_some_iff {node child : Node} (distinct : node.Distinct) {name : String} :
    node.child? name = some child ↔ child ∈ node.inside ∧ child.name = name :=
  find?_key_eq_some_iff distinct.inside.1

theorem Distinct.descend?_eq_some_iff {node found : Node} (distinct : node.Distinct)
    {path : List String} : node.descend? path = some found ↔ (path, found) ∈ node.entries := by
  induction path generalizing node with
  | nil => simp [descend?, mem_entries_nil_iff, eq_comm]
  | cons name rest ih =>
    simp only [descend?, Option.bind_eq_some_iff, distinct.child?_eq_some_iff, mem_entries_cons_iff]
    refine exists_congr fun child => and_congr_right fun ⟨member, _⟩ => ?_
    exact ih (distinct.inside.2 child member)

/-- Package components, each inside the one before. They declare nothing themselves. -/
def packaged (inside : List Node) (name : String) : List String → Node
  | [] => ⟨name, none, inside⟩
  | component :: rest => ⟨name, none, [packaged inside component rest]⟩

theorem packaged_name (inside : List Node) (name : String) (components : List String) :
    (packaged inside name components).name = name := by
  cases components <;> rfl

theorem packaged_distinct {inside : List Node} (distinct : ((entriesAll inside).map Prod.fst).Nodup)
    (name : String) (components : List String) : (packaged inside name components).Distinct := by
  have above (nodes : List Node) : [] ∉ (entriesAll nodes).map Prod.fst := by
    simp [mem_entriesAll_iff]
  induction components generalizing name with
  | nil => exact List.nodup_cons.mpr ⟨above inside, distinct⟩
  | cons component rest ih =>
    refine List.nodup_cons.mpr ⟨above _, ?_⟩
    have below : (entriesAll [packaged inside component rest]).map Prod.fst =
        ((packaged inside component rest).entries.map Prod.fst).map (component :: ·) := by
      simp [entriesAll, packaged_name, Function.comp_def]
    rw [below]
    exact (ih component).map List.cons_injective

/-- Below the package components stands what is inside the package, and nothing else is declared. -/
theorem mem_packaged_entries_iff {inside : List Node} {name : String} {components path : List String}
    {found : Node} (type : UserType) (declared : found.declares = some type) :
    (path, found) ∈ (packaged inside name components).entries ↔
      ∃ rest, (rest, found) ∈ entriesAll inside ∧ components ++ rest = path := by
  have proper (name : String) (nodes : List Node) : found ≠ ⟨name, none, nodes⟩ := by
    rintro rfl
    cases declared
  induction components generalizing name path with
  | nil => simp [packaged, entries, proper]
  | cons component rest ih =>
    rw [packaged, entries, List.mem_cons, mem_entriesAll_iff]
    simp [proper, packaged_name, ih]

end Node

namespace Document

variable (document : Document)

def enumNode (outer : List String) (definition : EnumDef) : Node :=
  ⟨definition.name, some (.enum (document.enumAt outer definition)), []⟩

mutual

/-- A message with its enums and its nested messages inside. -/
def messageNode (outer : List String) : MessageDef → Node
  | ⟨name, fields, enums, messages⟩ =>
    ⟨name, some (.message (document.messageAt ⟨outer, ⟨name, fields, enums, messages⟩⟩)),
      enums.map (document.enumNode (outer ++ [name])) ++ messageNodes (outer ++ [name]) messages⟩

def messageNodes (outer : List String) : List MessageDef → List Node
  | [] => []
  | definition :: rest => messageNode outer definition :: messageNodes outer rest

end

/-- What stands in the package. -/
def top : List Node :=
  document.enums.map (document.enumNode []) ++ document.messageNodes [] document.messages

def tree (components : List String) : Node :=
  .packaged document.top "" components

def siteNode (site : Site) : Node :=
  document.messageNode site.outer site.definition

/-- The message of a site and its enums, each with its path. -/
def nodesAt (site : Site) : List (List String × Node) :=
  (site.path, document.siteNode site) ::
    site.definition.enums.map fun definition =>
      (site.path ++ [definition.name], document.enumNode site.path definition)

theorem entriesAll_enums (outer : List String) (enums : List EnumDef) :
    Node.entriesAll (enums.map (document.enumNode outer)) =
      enums.map fun definition => ([definition.name], document.enumNode outer definition) := by
  rw [Node.entriesAll_eq, List.flatMap_map, List.map_eq_flatMap]
  rfl

theorem messageNode_name (outer : List String) (definition : MessageDef) :
    (document.messageNode outer definition).name = definition.name := by
  cases definition
  rw [messageNode]
  rfl

/-- The path of a node from further out. -/
def within (outer : List String) (entry : List String × Node) : List String × Node :=
  (outer ++ entry.1, entry.2)

mutual

theorem entries_messageNode (outer : List String) (definition : MessageDef) :
    (document.messageNode outer definition).entries.map (within (outer ++ [definition.name])) =
      (definition.sites outer).flatMap document.nodesAt := by
  cases definition with
  | mk name fields enums messages =>
    rw [MessageDef.sites, List.flatMap_cons, ← entries_messageNodes, nodesAt, siteNode, messageNode,
      Node.entries, Node.entriesAll_append, entriesAll_enums]
    simp [within, Site.path, Function.comp_def]

theorem entries_messageNodes (outer : List String) (definitions : List MessageDef) :
    (Node.entriesAll (document.messageNodes outer definitions)).map (within outer) =
      (MessageDef.sitesAll outer definitions).flatMap document.nodesAt := by
  cases definitions with
  | nil => rfl
  | cons definition rest =>
    rw [messageNodes, Node.entriesAll, MessageDef.sitesAll, List.map_append, List.flatMap_append,
      entries_messageNodes, ← entries_messageNode, List.map_map, messageNode_name]
    simp [within, Function.comp_def]

end

/-- The tree declares the types of the document in their order. -/
theorem top_entries : Node.entriesAll document.top =
    (document.enums.map fun definition => ([definition.name], document.enumNode [] definition)) ++
      document.sites.flatMap document.nodesAt := by
  have same : within [] = id := by
    funext entry
    rfl
  rw [top, Node.entriesAll_append, entriesAll_enums, sites, ← entries_messageNodes, same, List.map_id]

theorem siteNode_declares (site : Site) :
    (document.siteNode site).declares = some (.message (document.messageAt site)) := by
  rcases site with ⟨outer, ⟨name, fields, enums, messages⟩⟩
  rw [siteNode, messageNode]
  rfl

theorem top_declares :
    (Node.entriesAll document.top).map (fun (path, node) => (node.declares, document.pathName path)) =
      document.declared.map fun type => (some type, type.fullName) := by
  have enum (outer : List String) (definition : EnumDef) :
      (document.enumNode outer definition).declares =
        some (.enum (document.enumAt outer definition)) := rfl
  simp [top_entries, declared, List.map_flatMap, nodesAt, Function.comp_def, siteNode_declares, enum,
    UserType.fullName, UserType.id, messageAt_fullName, enumAt_fullName]

end Document

end MessageSchema
