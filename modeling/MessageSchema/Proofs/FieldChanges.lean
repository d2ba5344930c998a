import MessageSchema.Proofs.AbsoluteReferences
import MessageSchema.Proofs.Acceptance

/-! Documents whose field definitions are changed throughout. The names and paths of a document do
not depend on its fields, so whether the changed one loads, and how, is a matter of each field
alone. -/
namespace MessageSchema

mutual

/-- The message with every field definition changed, in the messages nested in it too. -/
def MessageDef.mapFields (change : FieldDef → FieldDef) : MessageDef → MessageDef
  | ⟨name, fields, enums, messages⟩ =>
    ⟨name, fields.map change, enums, MessageDef.mapFieldsAll change messages⟩

def MessageDef.mapFieldsAll (change : FieldDef → FieldDef) : List MessageDef → List MessageDef
  | [] => []
  | definition :: rest => definition.mapFields change :: MessageDef.mapFieldsAll change rest

end

def Document.mapFields (document : Document) (change : FieldDef → FieldDef) : Document :=
  { document with messages := MessageDef.mapFieldsAll change document.messages }

def Site.mapFields (change : FieldDef → FieldDef) (site : Site) : Site :=
  ⟨site.outer, site.definition.mapFields change⟩

section
variable (change : FieldDef → FieldDef)

@[simp]
theorem MessageDef.mapFields_name (definition : MessageDef) :
    (definition.mapFields change).name = definition.name := by
  cases definition
  rfl

@[simp]
theorem MessageDef.mapFields_fields (definition : MessageDef) :
    (definition.mapFields change).fields = definition.fields.map change := by
  cases definition
  rfl

@[simp]
theorem MessageDef.mapFields_enums (definition : MessageDef) :
    (definition.mapFields change).enums = definition.enums := by
  cases definition
  rfl

@[simp]
theorem MessageDef.mapFields_messages (definition : MessageDef) :
    (definition.mapFields change).messages = MessageDef.mapFieldsAll change definition.messages := by
  cases definition
  rfl

theorem MessageDef.mapFieldsAll_eq (definitions : List MessageDef) :
    MessageDef.mapFieldsAll change definitions = definitions.map (MessageDef.mapFields change) := by
  induction definitions with
  | nil => rfl
  | cons definition rest ih => rw [MessageDef.mapFieldsAll, ih, List.map_cons]

@[simp]
theorem Site.mapFields_path (site : Site) : (site.mapFields change).path = site.path := by
  simp [Site.mapFields, Site.path]

mutual

theorem MessageDef.sites_mapFields (outer : List String) (definition : MessageDef) :
    (definition.mapFields change).sites outer =
      (definition.sites outer).map (Site.mapFields change) := by
  cases definition with
  | mk name fields enums messages =>
    simp only [MessageDef.mapFields, MessageDef.sites, List.map_cons, Site.mapFields]
    rw [MessageDef.sitesAll_mapFields]

theorem MessageDef.sitesAll_mapFields (outer : List String) (definitions : List MessageDef) :
    MessageDef.sitesAll outer (MessageDef.mapFieldsAll change definitions) =
      (MessageDef.sitesAll outer definitions).map (Site.mapFields change) := by
  cases definitions with
  | nil => rfl
  | cons definition rest =>
    simp only [MessageDef.mapFieldsAll, MessageDef.sitesAll, List.map_append]
    rw [MessageDef.sites_mapFields, MessageDef.sitesAll_mapFields]

end

end

namespace Document

section
variable (document : Document) (change : FieldDef → FieldDef)

theorem sites_mapFields :
    (document.mapFields change).sites = document.sites.map (Site.mapFields change) :=
  MessageDef.sitesAll_mapFields change [] document.messages

theorem declared_mapFields : (document.mapFields change).declared = document.declared := by
  rw [declared, declared, sites_mapFields, List.flatMap_map]
  simp only [Site.mapFields_path]
  simp only [Site.mapFields, messageAt, MessageDef.mapFields_name, MessageDef.mapFields_enums]
  rfl

end

variable {document other : Document}

/-- References see nothing of a document but what it declares. -/
theorem Denotes.transport (same : other.declared = document.declared) {scope reference : String}
    {type : UserType} (denotes : document.Denotes scope reference type) :
    other.Denotes scope reference type := by
  have names (fullName : String) : other.Names fullName ↔ document.Names fullName := by
    rw [Names, Names, same]
  cases denotes with
  | absolute declared => exact .absolute (same ▸ declared)
  | relative noDot around closer declared reached =>
    refine .relative noDot around (fun outer tried => ?_) (same ▸ declared) reached
    rw [names]
    exact closer outer tried

theorem denotes_congr (same : other.declared = document.declared) {scope reference : String}
    {type : UserType} :
    other.Denotes scope reference type ↔ document.Denotes scope reference type :=
  ⟨Denotes.transport same.symm, Denotes.transport same⟩

theorem fieldFits_congr (same : other.declared = document.declared) {scope : String}
    {definition : FieldDef} :
    other.FieldFits scope definition ↔ document.FieldFits scope definition := by
  have default : other.DefaultFits scope definition ↔ document.DefaultFits scope definition := by
    simp only [DefaultFits, denotes_congr same]
  exact ⟨fun ⟨number, label, fits⟩ => ⟨number, label, default.mp fits⟩,
    fun ⟨number, label, fits⟩ => ⟨number, label, default.mpr fits⟩⟩

/-- A change of two documents that keeps names and numbers leaves the fields alone to fit. -/
theorem fits_mapFields_iff {change : FieldDef → FieldDef}
    (names : ∀ definition, (change definition).name = definition.name)
    (numbers : ∀ definition, (change definition).number = definition.number) :
    (document.mapFields change).Fits ↔ (document.declared.map UserType.fullName).Nodup ∧
      ∀ site ∈ document.sites, (site.definition.fields.map FieldDef.name).Nodup ∧
        (site.definition.fields.map FieldDef.number).Nodup ∧
        ∀ definition ∈ site.definition.fields,
          document.FieldFits (document.pathName site.path) (change definition) := by
  have same := document.declared_mapFields change
  have site (site : Site) : (document.mapFields change).SiteFits (site.mapFields change) ↔
      (site.definition.fields.map FieldDef.name).Nodup ∧
        (site.definition.fields.map FieldDef.number).Nodup ∧
        ∀ definition ∈ site.definition.fields,
          document.FieldFits (document.pathName site.path) (change definition) := by
    have path : (document.mapFields change).pathName = document.pathName :=
      pathName_congr document rfl
    have fields : (site.mapFields change).definition.fields = site.definition.fields.map change :=
      MessageDef.mapFields_fields change _
    constructor
    · rintro ⟨distinct, numbered, fits⟩
      rw [fields] at distinct numbered fits
      rw [List.map_map] at distinct numbered
      simp only [Function.comp_def, names, numbers] at distinct numbered
      refine ⟨distinct, numbered, fun definition member => ?_⟩
      have fit := fits _ (List.mem_map_of_mem member)
      rwa [path, Site.mapFields_path, fieldFits_congr same] at fit
    · rintro ⟨distinct, numbered, fits⟩
      constructor
      · rw [fields, List.map_map]
        simpa only [Function.comp_def, names] using distinct
      · rw [fields, List.map_map]
        simpa only [Function.comp_def, numbers] using numbered
      · rw [fields, path, Site.mapFields_path, List.forall_mem_map]
        intro definition member
        rw [fieldFits_congr same]
        exact fits definition member
  constructor
  · rintro ⟨types, sites⟩
    rw [same] at types
    rw [sites_mapFields, List.forall_mem_map] at sites
    exact ⟨types, fun place member => (site place).mp (sites place member)⟩
  · rintro ⟨types, sites⟩
    constructor
    · rwa [same]
    · rw [sites_mapFields, List.forall_mem_map]
      exact fun place member => (site place).mpr (sites place member)

end Document

/-- Two changes under which every field is built alike. -/
theorem Document.load_mapFields {document : Document} {change other : FieldDef → FieldDef}
    (alike : ∀ registry scope definition,
      FieldDef.BuiltAlike registry scope (change definition) (other definition)) :
    Schema.ofDocument (document.mapFields other) = Schema.ofDocument (document.mapFields change) := by
  have types (change : FieldDef → FieldDef) :
      (document.mapFields change).types = document.declared := by
    rw [types_eq, declared_mapFields]
  have placed (change : FieldDef → FieldDef) : (document.mapFields change).placed =
      document.sites.map fun site =>
        ⟨document.namespaceOf site.outer, site.definition.mapFields change⟩ := by
    rw [placed_eq, sites_mapFields, List.map_map]
    rfl
  have built (registry : Registry) (sites : List Site) :
      Placed.buildAll registry (sites.map fun site =>
          ⟨document.namespaceOf site.outer, site.definition.mapFields other⟩) =
        Placed.buildAll registry (sites.map fun site =>
          ⟨document.namespaceOf site.outer, site.definition.mapFields change⟩) := by
    induction sites with
    | nil => rfl
    | cons site rest ih =>
      have fields (scope : String) : List.Forall₂ (FieldDef.BuiltAlike registry scope)
          (site.definition.fields.map change) (site.definition.fields.map other) := by
        rw [List.forall₂_map_left_iff, List.forall₂_map_right_iff, List.forall₂_same]
        exact fun definition _ => alike registry scope definition
      simp only [List.map_cons, Placed.buildAll, Placed.build, Placed.registered, Placed.fullName,
        Placed.id, MessageDef.mapFields_name, MessageDef.mapFields_fields, ih,
        FieldDef.BuiltAlike.buildAll_eq (fields _) rfl rfl]
  have scope (change : FieldDef → FieldDef) :
      (document.mapFields change).scope = document.scope := rfl
  simp only [Schema.ofDocument, types, placed, scope, built]

theorem Schema.EachField.of_mapFields {schema : Schema} {document : Document}
    {change : FieldDef → FieldDef} {changed related : Site → FieldDef → Field → Prop}
    (each : schema.EachField (document.mapFields change) changed)
    (back : ∀ site ∈ document.sites, ∀ definition ∈ site.definition.fields, ∀ field,
      changed (site.mapFields change) (change definition) field → related site definition field) :
    schema.EachField document related := by
  unfold Schema.EachField at each
  rw [Document.sites_mapFields, List.forall₂_map_left_iff] at each
  refine forall₂_imp_left (fun site member message ⟨name, fields⟩ => ⟨?_, ?_⟩) each
  · rwa [Site.mapFields_path] at name
  · have same : (site.mapFields change).definition.fields = site.definition.fields.map change :=
      MessageDef.mapFields_fields change _
    rw [same, List.forall₂_map_left_iff] at fields
    exact forall₂_imp_left (back site member) fields

end MessageSchema
