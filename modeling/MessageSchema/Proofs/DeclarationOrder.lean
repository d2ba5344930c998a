import Mathlib.Data.List.Perm.Basic
import MessageSchema.Proofs.Names

/-! The order of declarations has no meaning. Where enums, messages and fields are declared in
another order, at any depth, the document loads or fails as before, and the schemas differ in order
alone. -/
namespace MessageSchema

/-- Related one to one, in whatever order. -/
def UpToOrder (R : α → β → Prop) (items : List α) (others : List β) : Prop :=
  ∃ middle, List.Forall₂ R items middle ∧ middle.Perm others

/-- A message with the fields, enums and messages in it declared in another order, and so on inside
the nested messages. -/
inductive MessageDef.Reordered : MessageDef → MessageDef → Prop where
  | mk {name : String} {fields moved : List FieldDef} {enums others : List EnumDef}
      {messages middle nested : List MessageDef} :
      fields.Perm moved → enums.Perm others →
      List.Forall₂ MessageDef.Reordered messages middle → middle.Perm nested →
      MessageDef.Reordered ⟨name, fields, enums, messages⟩ ⟨name, moved, others, nested⟩

structure Document.Reordered (document other : Document) : Prop where
  package : other.package = document.package
  enums : document.enums.Perm other.enums
  messages : UpToOrder MessageDef.Reordered document.messages other.messages

namespace UpToOrder

variable {R : α → β → Prop} {items : List α} {others : List β}

theorem trans_perm {final : List β} (some : UpToOrder R items others) (moved : others.Perm final) :
    UpToOrder R items final := by
  obtain ⟨middle, all, perm⟩ := some
  exact ⟨middle, all, perm.trans moved⟩

theorem cons {item : α} {other : β} (first : R item other) (rest : UpToOrder R items others) :
    UpToOrder R (item :: items) (other :: others) := by
  obtain ⟨middle, all, perm⟩ := rest
  exact ⟨other :: middle, .cons first all, perm.cons other⟩

theorem append {more : List α} {further : List β} (first : UpToOrder R items others)
    (rest : UpToOrder R more further) : UpToOrder R (items ++ more) (others ++ further) := by
  obtain ⟨middle, all, perm⟩ := first
  obtain ⟨tail, allTail, permTail⟩ := rest
  exact ⟨middle ++ tail, List.rel_append all allTail, perm.append permTail⟩

theorem symm {S : β → α → Prop} (flip : ∀ item other, R item other → S other item)
    (some : UpToOrder R items others) : UpToOrder S others items := by
  obtain ⟨middle, all, perm⟩ := some
  have back : List.Forall₂ S middle items := .flip (all.imp flip)
  exact List.perm_comp_forall₂ perm.symm back

theorem exists_right (some : UpToOrder R items others) {item : α} (member : item ∈ items) :
    ∃ other ∈ others, R item other := by
  obtain ⟨middle, all, perm⟩ := some
  obtain ⟨other, found, related⟩ := forall₂_exists_right all member
  exact ⟨other, perm.mem_iff.mp found, related⟩

theorem flatMap_perm {f : α → List γ} {g : β → List γ} (some : UpToOrder R items others)
    (each : ∀ item other, R item other → (f item).Perm (g other)) :
    (items.flatMap f).Perm (others.flatMap g) := by
  obtain ⟨middle, all, perm⟩ := some
  refine .trans ?_ (perm.flatMap_right g)
  clear perm
  induction all with
  | nil => exact .nil
  | cons first _ ih => exact (each _ _ first).append ih

/-- What is related to the items one by one is carried over to the others. -/
theorem carry {B : α → γ → Prop} {C : β → δ → Prop} {S : γ → δ → Prop} {results : List γ}
    (some : UpToOrder R items others) (built : List.Forall₂ B items results)
    (step : ∀ item other result, R item other → B item result →
      ∃ moved, C other moved ∧ S result moved) :
    ∃ moved, List.Forall₂ C others moved ∧ UpToOrder S results moved := by
  obtain ⟨middle, all, perm⟩ := some
  have inPlace : ∃ kept, List.Forall₂ C middle kept ∧ List.Forall₂ S results kept := by
    clear perm
    induction all generalizing results with
    | nil =>
      cases built
      exact ⟨[], .nil, .nil⟩
    | cons first _ ih =>
      cases built with
      | cons here rest =>
        obtain ⟨result, fits, same⟩ := step _ _ _ first here
        obtain ⟨kept, allFit, allSame⟩ := ih rest
        exact ⟨result :: kept, .cons fits allFit, .cons same allSame⟩
  obtain ⟨kept, fits, same⟩ := inPlace
  obtain ⟨moved, allFit, order⟩ := List.perm_comp_forall₂ perm.symm fits
  exact ⟨moved, allFit, kept, same, order.symm⟩

end UpToOrder

/-- The message of a site with its fields and enums in another order. -/
structure Site.Reordered (site other : Site) : Prop where
  outer : other.outer = site.outer
  name : other.definition.name = site.definition.name
  fields : site.definition.fields.Perm other.definition.fields
  enums : site.definition.enums.Perm other.definition.enums

theorem Site.Reordered.symm {site other : Site} (reordered : site.Reordered other) :
    other.Reordered site :=
  ⟨reordered.outer.symm, reordered.name.symm, reordered.fields.symm, reordered.enums.symm⟩

theorem Site.Reordered.path_eq {site other : Site} (reordered : site.Reordered other) :
    other.path = site.path := by
  rw [path, path, reordered.outer, reordered.name]

theorem Site.Reordered.messageAt_eq {document other : Document} {site moved : Site}
    (reordered : site.Reordered moved) (package : other.package = document.package) :
    other.messageAt moved = document.messageAt site := by
  rw [Document.messageAt, Document.messageAt, document.namespaceOf_congr package, reordered.outer,
    reordered.name]

namespace MessageDef

theorem sitesAll_eq (outer : List String) (definitions : List MessageDef) :
    sitesAll outer definitions = definitions.flatMap (sites outer) := by
  induction definitions with
  | nil => rfl
  | cons definition rest ih => rw [sitesAll, ih, List.flatMap_cons]

theorem sitesAll_perm (outer : List String) {definitions others : List MessageDef}
    (moved : definitions.Perm others) :
    (sitesAll outer definitions).Perm (sitesAll outer others) := by
  rw [sitesAll_eq, sitesAll_eq]
  exact moved.flatMap_right (sites outer)

mutual

theorem reordered_sites (outer : List String) {definition other : MessageDef} :
    definition.Reordered other →
      UpToOrder Site.Reordered (definition.sites outer) (other.sites outer)
  | .mk fields enums messages moved => by
    rw [sites, sites]
    refine .cons ⟨rfl, rfl, fields, enums⟩ ?_
    exact (reordered_sitesAll _ messages).trans_perm (sitesAll_perm _ moved)

theorem reordered_sitesAll (outer : List String) {definitions others : List MessageDef} :
    List.Forall₂ MessageDef.Reordered definitions others →
      UpToOrder Site.Reordered (sitesAll outer definitions) (sitesAll outer others)
  | .nil => ⟨[], .nil, .nil⟩
  | .cons first rest => by
    rw [sitesAll, sitesAll]
    exact (reordered_sites outer first).append (reordered_sitesAll outer rest)

end

end MessageDef

namespace Document

variable {document other : Document}

/-- The documents declare the same, whatever the order in which a search would come upon it. -/
structure SameContent (document other : Document) : Prop where
  package : other.package = document.package
  declared : document.declared.Perm other.declared
  sites : UpToOrder Site.Reordered document.sites other.sites

theorem SameContent.symm (same : document.SameContent other) : other.SameContent document :=
  ⟨same.package.symm, same.declared.symm, same.sites.symm fun _ _ reordered => reordered.symm⟩

theorem Reordered.sameContent (reordered : document.Reordered other) :
    document.SameContent other := by
  have sites : UpToOrder Site.Reordered document.sites other.sites := by
    obtain ⟨middle, all, moved⟩ := reordered.messages
    exact (MessageDef.reordered_sitesAll [] all).trans_perm (MessageDef.sitesAll_perm [] moved)
  have enumAt : other.enumAt = document.enumAt := by
    funext outer definition
    rw [Document.enumAt, Document.enumAt, namespaceOf_congr document reordered.package]
  refine ⟨reordered.package, ?_, sites⟩
  rw [declared, declared, enumAt]
  refine (reordered.enums.map _).append (sites.flatMap_perm fun site moved same => ?_)
  rw [same.messageAt_eq reordered.package, same.path_eq]
  exact (same.enums.map _).cons _

end Document

namespace Registry

variable {registry other : Registry} {types moved : List UserType}

/-- A full name finds the same, in whatever order the types were registered. -/
theorem find?_perm (filled : ofTypes types = .ok registry) (refilled : ofTypes moved = .ok other)
    (perm : types.Perm moved) (fullName : String) :
    other.find? fullName = registry.find? fullName := by
  ext type
  rw [find?_ofTypes filled, find?_ofTypes refilled, perm.mem_iff]

theorem resolve?_congr (same : ∀ fullName, other.find? fullName = registry.find? fullName)
    (scope reference : String) :
    other.resolve? scope reference = registry.resolve? scope reference := by
  simp only [resolve?, same]

end Registry

namespace FieldDef

theorem build_congr {registry other : Registry}
    (same : ∀ fullName, other.find? fullName = registry.find? fullName) (scope : String)
    (definition : FieldDef) : definition.build other scope = definition.build registry scope := by
  simp only [build, refer, Registry.resolve?_congr same]

theorem new_perm {definitions moved : List FieldDef} (perm : definitions.Perm moved)
    (new : New [] definitions) : New [] moved :=
  ⟨(perm.map FieldDef.name).nodup_iff.mp new.names,
    (perm.map FieldDef.number).nodup_iff.mp new.numbers, by simp⟩

end FieldDef

/-- The same message with its fields in another order. -/
structure Message.Reordered (message other : Message) : Prop where
  id : other.id = message.id
  fields : message.fields.Perm other.fields

theorem Message.Reordered.symm {message other : Message} (reordered : message.Reordered other) :
    other.Reordered message :=
  ⟨reordered.id.symm, reordered.fields.symm⟩

theorem Message.Reordered.fullName_eq {message other : Message}
    (reordered : message.Reordered other) :
    other.fullName = message.fullName := by
  rw [fullName, fullName, reordered.id]

namespace Document

variable {document other : Document} {registry refilled : Registry}

theorem Built.reordered {site moved : Site} {message : Message}
    (package : other.package = document.package)
    (same : ∀ fullName, refilled.find? fullName = registry.find? fullName)
    (reordered : site.Reordered moved) (built : document.Built registry site message) :
    ∃ result, other.Built refilled moved result ∧ message.Reordered result := by
  obtain ⟨fields, builtFields, perm⟩ := List.perm_comp_forall₂ reordered.fields.symm built.fields
  have new := FieldDef.new_perm reordered.fields built.new
  refine ⟨⟨other.messageAt moved, fields⟩, ⟨rfl, new, ?_⟩, ?_, ?_⟩
  · rw [pathName_congr document package, reordered.path_eq]
    simpa only [FieldDef.build_congr same] using builtFields
  · exact (reordered.messageAt_eq package).trans built.id.symm
  · exact perm.symm

end Document

/-- The two schemas differ at most in the order of enums, of messages and of fields. -/
structure Schema.Agrees (schema other : Schema) : Prop where
  package : other.package = schema.package
  unresolved : other.unresolvedCount = schema.unresolvedCount
  enumNames : ∀ fullName, (∃ e ∈ other.enums, e.id.fullName = fullName) ↔
    ∃ e ∈ schema.enums, e.id.fullName = fullName
  messageNames : ∀ fullName, (∃ message ∈ other.messages, message.fullName = fullName) ↔
    ∃ message ∈ schema.messages, message.fullName = fullName
  enums : ∀ e ∈ schema.enums, ∀ moved ∈ other.enums, e.id.fullName = moved.id.fullName → e = moved
  fields : ∀ message ∈ schema.messages, ∀ moved ∈ other.messages,
    message.fullName = moved.fullName → message.Reordered moved

namespace Document

variable {document other : Document}

theorem SameContent.loads {schema : Schema} (same : document.SameContent other)
    (loaded : (Schema.ofDocument document).result = .ok schema) :
    ∃ moved, (Schema.ofDocument other).result = .ok moved ∧
      UpToOrder Message.Reordered schema.messages moved.messages := by
  obtain ⟨registry, filled, _, _, built⟩ := load_ok_iff.mp loaded
  have distinct := (same.declared.map UserType.fullName).nodup_iff.mp (Schema.declared_nodup loaded)
  obtain ⟨refilled, done⟩ := Registry.ofTypes_ok_iff.mpr distinct
  have found := Registry.find?_perm filled done same.declared
  obtain ⟨messages, rebuilt, order⟩ :=
    same.sites.carry built fun site moved message reordered built =>
      built.reordered same.package found reordered
  exact ⟨⟨other.scope, other.declared.filterMap UserType.asEnum?, messages⟩,
    load_ok_iff.mpr ⟨refilled, done, rfl, rfl, rebuilt⟩, order⟩

theorem SameContent.agrees {schema moved : Schema} (same : document.SameContent other)
    (loaded : (Schema.ofDocument document).result = .ok schema)
    (reloaded : (Schema.ofDocument other).result = .ok moved) : schema.Agrees moved := by
  obtain ⟨result, done, order⟩ := same.loads loaded
  cases Except.ok.inj (done.symm.trans reloaded)
  have back := order.symm fun _ _ reordered => reordered.symm
  have enums : schema.enums.Perm moved.enums := by
    rw [Schema.enums_eq loaded, Schema.enums_eq reloaded]
    exact same.declared.filterMap _
  constructor
  case package =>
    obtain ⟨_, _, package, _⟩ := load_ok_iff.mp loaded
    obtain ⟨_, _, movedPackage, _⟩ := load_ok_iff.mp reloaded
    rw [package, movedPackage, scope_congr document same.package]
  case unresolved =>
    exact (order.flatMap_perm fun message moved reordered => reordered.fields).symm.countP_eq _
  case enumNames =>
    intro fullName
    simp only [enums.mem_iff]
  case messageNames =>
    intro fullName
    constructor
    · rintro ⟨message, member, named⟩
      obtain ⟨before, found, reordered⟩ := back.exists_right member
      exact ⟨before, found, reordered.fullName_eq.trans named⟩
    · rintro ⟨message, member, named⟩
      obtain ⟨after, found, reordered⟩ := order.exists_right member
      exact ⟨after, found, reordered.fullName_eq.trans named⟩
  case enums =>
    intro e member other found same
    exact Schema.enum_unique loaded member (enums.mem_iff.mpr found) same
  case fields =>
    intro message member other found same
    obtain ⟨partner, partnerFound, reordered⟩ := order.exists_right member
    have partner_eq := Schema.message_unique reloaded partnerFound found
      (reordered.fullName_eq.trans same)
    exact partner_eq ▸ reordered

end Document

/-- Documents that differ only in the order of declarations load alike or not at all. -/
theorem declaration_order_is_immaterial {document other : Document}
    (reordered : document.Reordered other) :
    ((∃ schema, (Schema.ofDocument document).result = .ok schema) ↔
      ∃ schema, (Schema.ofDocument other).result = .ok schema) ∧
    ∀ schema moved, (Schema.ofDocument document).result = .ok schema →
      (Schema.ofDocument other).result = .ok moved → schema.Agrees moved := by
  have same := reordered.sameContent
  refine ⟨⟨?_, ?_⟩, fun schema moved loaded reloaded => same.agrees loaded reloaded⟩
  · rintro ⟨schema, loaded⟩
    obtain ⟨moved, reloaded, _⟩ := same.loads loaded
    exact ⟨moved, reloaded⟩
  · rintro ⟨moved, reloaded⟩
    obtain ⟨schema, loaded, _⟩ := same.symm.loads reloaded
    exact ⟨schema, loaded⟩

/-- Fields that refer forward and backward, to a nested message and to a nested enum. -/
def listed : Document where
  package := some "shop"
  enums := [⟨"Unit", [⟨"PIECE", 0⟩]⟩, ⟨"State", [⟨"OPEN", 0⟩, ⟨"PAID", 1⟩]⟩]
  messages := [
    ⟨"Order", [⟨"line", 1, "repeated", "Line", none, none⟩,
        ⟨"state", 2, "optional", "State", none, some (.text "PAID")⟩], [],
      [⟨"Line", [⟨"unit", 1, "optional", "Unit", none, none⟩], [⟨"Kind", []⟩], []⟩,
        ⟨"Note", [⟨"of", 1, "optional", "Line", none, none⟩], [], []⟩]⟩,
    ⟨"Cart", [⟨"kind", 1, "optional", "Order.Line.Kind", none, none⟩], [], []⟩]

/-- The same with every list that has two items turned round. -/
def shuffled : Document where
  package := some "shop"
  enums := [⟨"State", [⟨"OPEN", 0⟩, ⟨"PAID", 1⟩]⟩, ⟨"Unit", [⟨"PIECE", 0⟩]⟩]
  messages := [
    ⟨"Cart", [⟨"kind", 1, "optional", "Order.Line.Kind", none, none⟩], [], []⟩,
    ⟨"Order", [⟨"state", 2, "optional", "State", none, some (.text "PAID")⟩,
        ⟨"line", 1, "repeated", "Line", none, none⟩], [],
      [⟨"Note", [⟨"of", 1, "optional", "Line", none, none⟩], [], []⟩,
        ⟨"Line", [⟨"unit", 1, "optional", "Unit", none, none⟩], [⟨"Kind", []⟩], []⟩]⟩]

theorem shuffled_agrees : listed.Reordered shuffled ∧ ∃ schema moved,
    (Schema.ofDocument listed).result = .ok schema ∧
      (Schema.ofDocument shuffled).result = .ok moved ∧ schema.Agrees moved := by
  have leaf {name : String} {fields : List FieldDef} {enums : List EnumDef} :
      MessageDef.Reordered ⟨name, fields, enums, []⟩ ⟨name, fields, enums, []⟩ :=
    .mk (.refl _) (.refl _) .nil .nil
  have reordered : listed.Reordered shuffled := by
    refine ⟨rfl, .swap _ _ [], _, .cons ?order (.cons leaf .nil), .swap _ _ []⟩
    exact .mk (.swap _ _ []) (.refl []) (.cons leaf (.cons leaf .nil)) (.swap _ _ [])
  have accepted : (Schema.ofDocument listed).result.isOk = true := by decide +kernel
  obtain ⟨schema, loaded⟩ := exists_ok_of_isOk accepted
  obtain ⟨both, agrees⟩ := declaration_order_is_immaterial reordered
  obtain ⟨moved, reloaded⟩ := both.mp ⟨schema, loaded⟩
  exact ⟨reordered, schema, moved, loaded, reloaded, agrees schema moved loaded reloaded⟩

end MessageSchema
