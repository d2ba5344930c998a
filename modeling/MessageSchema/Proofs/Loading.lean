import MessageSchema.Schema.Load
import MessageSchema.Proofs.Resolution

/-! What a successful load has built, field by field. A field keeps the facts of its definition; its
declared type and its target come from the reference alone, and its default is set last. -/
namespace MessageSchema

/-- Every field number of the wire format fits 32 bits, and stays what it is there. -/
theorem wireNumber?_eq_some {number : Int64}
    (inRange : 1 ≤ number.toInt ∧ number.toInt ≤ maxFieldNumber) :
    ∃ wire, wireNumber? number = some wire ∧ (wire.toNat : Int) = number.toInt := by
  have most := inRange.2
  simp only [maxFieldNumber] at most
  have fits : (Numeral.Range.unsigned 32).contains number.toInt = true := by
    rw [Numeral.Range.contains, Bool.and_eq_true, decide_eq_true_eq, decide_eq_true_eq]
    exact ⟨show 0 ≤ number.toInt by omega, show number.toInt ≤ 4294967295 by omega⟩
  have small : number.toInt.toNat < 4294967296 := by omega
  refine ⟨number.toInt.toNat.toUInt32, by simp [wireNumber?, fits], ?_⟩
  rw [Nat.toUInt32, UInt32.toNat_ofNat_of_lt' small]
  omega

namespace FieldDef

variable {registry : Registry} {scope : String}

/-- The type attached to the field of a definition. A scalar has none. -/
def target? (registry : Registry) (scope : String) (definition : FieldDef) : Option UserType :=
  match Scalar.ofTag? definition.tag with
  | some _ => none
  | none => registry.resolve? scope definition.reference

theorem target?_scalar {definition : FieldDef} (scalar : (Scalar.ofTag? definition.tag).isSome) :
    definition.target? registry scope = none := by
  obtain ⟨_, tagged⟩ := Option.isSome_iff_exists.mp scalar
  rw [target?, tagged]

theorem target?_user {definition : FieldDef} (user : Scalar.ofTag? definition.tag = none) :
    definition.target? registry scope = registry.resolve? scope definition.reference := by
  rw [target?, user]

/-- The scope and the name that the field declares: those of its target, else those it writes. -/
def declaration (definition : FieldDef) (target : Option UserType) :
    Option String × Option String :=
  match Scalar.ofTag? definition.tag, target with
  | some _, _ => (none, definition.typeName)
  | none, some type => (type.id.scope, some type.id.name)
  | none, none =>
    ((Dotted.written definition.reference).1, some (Dotted.written definition.reference).2)

/-- The field before its default. -/
def linked (registry : Registry) (scope : String) (definition : FieldDef) (number : UInt32)
    (label : Label) : Field where
  name := definition.name
  number := number
  label := label
  tag := definition.tag
  declaredName := (definition.declaration (definition.target? registry scope)).2
  scope := (definition.declaration (definition.target? registry scope)).1
  target := definition.target? registry scope
  defaultValue := none

/-- Declaring a type first makes it fit to be attached. -/
theorem attach_bare {name tag : String} {number : UInt32} {label : Label} (type : UserType)
    (user : Scalar.ofTag? tag = none) :
    attach (.bare name number label tag) type =
      .ok ⟨name, number, label, tag, some type.id.name, type.id.scope, some type, none⟩ := by
  cases placed : type.id.scope <;>
    simp [attach, placed, Field.attach, Field.setDeclaredName, Field.setScope, Field.dropStale,
      Field.bare, Field.isScalar_eq, user, Field.declares]

theorem refer_result (definition : FieldDef) (number : UInt32) (label : Label) :
    (definition.refer registry scope (.bare definition.name number label definition.tag)).result =
      .ok (definition.linked registry scope number label) := by
  unfold refer linked declaration target?
  cases tagged : Scalar.ofTag? definition.tag with
  | some scalar =>
    cases written : definition.typeName <;>
      simp [Field.isScalar_eq, Field.bare, tagged, Field.setDeclaredName, Field.dropStale]
  | none =>
    cases found : registry.resolve? scope definition.reference with
    | some type =>
      simp only [Field.isScalar_eq, Field.bare, tagged, Option.isSome_none, Bool.false_eq_true,
        ↓reduceIte, Traced.result_bind, Traced.result_emit, Traced.result_ofExcept]
      exact attach_bare type tagged
    | none =>
      simp only [Field.isScalar_eq, Field.bare, tagged, Option.isSome_none, Bool.false_eq_true,
        ↓reduceIte, Traced.result_bind, Traced.result_emit, Traced.result_pure]
      cases written : (Dotted.written definition.reference).1 <;>
        simp [declareWritten, written, Field.setDeclaredName, Field.setScope, Field.dropStale, bind,
          Except.bind]

/-- The number of a definition is one of the wire format, and this is it. -/
structure HasNumber (definition : FieldDef) (number : UInt32) : Prop where
  inRange : 1 ≤ definition.number.toInt ∧ definition.number.toInt ≤ maxFieldNumber
  same : (number.toNat : Int) = definition.number.toInt

theorem wireNumber_ok_iff {definition : FieldDef} {number : UInt32} :
    definition.wireNumber scope = .ok number ↔ definition.HasNumber number := by
  unfold wireNumber
  split
  · next inRange =>
    obtain ⟨wire, fits, same⟩ := wireNumber?_eq_some inRange
    simp only [fits, Except.ok.injEq]
    constructor
    · rintro rfl
      exact ⟨inRange, same⟩
    · intro numbered
      have equal := same.trans numbered.same.symm
      exact UInt32.toNat_inj.mp (Int.ofNat.inj equal)
  · next outside =>
    simp only [reduceCtorEq, false_iff]
    exact fun numbered => outside numbered.inRange

theorem exists_hasNumber_iff {definition : FieldDef} :
    (∃ number, definition.HasNumber number) ↔
      1 ≤ definition.number.toInt ∧ definition.number.toInt ≤ maxFieldNumber := by
  constructor
  · exact fun ⟨_, numbered⟩ => numbered.inRange
  · intro inRange
    obtain ⟨wire, _, same⟩ := wireNumber?_eq_some inRange
    exact ⟨wire, inRange, same⟩

theorem start_ok_iff {definition : FieldDef} {field : Field} :
    definition.start scope = .ok field ↔
      ∃ number label, definition.HasNumber number ∧ Label.ofText? definition.label = some label ∧
        field = .bare definition.name number label definition.tag := by
  simp only [start, bind_ok_iff, wireNumber_ok_iff, Label.ofText_eq_ok_iff]
  constructor
  · rintro ⟨number, numbered, label, labelled, started⟩
    cases started
    exact ⟨number, label, numbered, labelled, rfl⟩
  · rintro ⟨number, label, numbered, labelled, rfl⟩
    exact ⟨number, numbered, label, labelled, rfl⟩

/-- The default of a definition is read by a field as this value; there may be none of both. -/
def Defaults (definition : FieldDef) (field : Field) : Option DefaultValue → Prop
  | none => definition.default = none
  | some value => ∃ json literal, definition.default = some json ∧ json.literal? = some literal ∧
      field.readDefault literal = .ok value

theorem giveDefault_ok_iff {definition : FieldDef} {field next : Field}
    (unset : field.defaultValue = none) :
    definition.giveDefault field = .ok next ↔
      ∃ value?, definition.Defaults field value? ∧ next = { field with defaultValue := value? } := by
  have same : { field with defaultValue := none } = field := by rw [← unset]
  unfold giveDefault
  constructor
  · intro given
    split at given
    · next absent =>
      cases given
      exact ⟨none, absent, same.symm⟩
    · next json stated =>
      split at given
      · cases given
      · next literal written =>
        obtain ⟨value, read, given⟩ := bind_ok_iff.mp given
        cases given
        exact ⟨some value, ⟨json, literal, stated, written, read⟩, rfl⟩
  · rintro ⟨value?, defaults, rfl⟩
    cases value? with
    | none => rw [show definition.default = none from defaults, same]
    | some value =>
      obtain ⟨json, literal, stated, written, read⟩ := defaults
      simp only [stated, written]
      exact bind_ok_iff.mpr ⟨value, read, rfl⟩

/-- A field is built exactly if its number, its label and its default pass their checks. -/
theorem build_ok_iff {definition : FieldDef} {field : Field} :
    (definition.build registry scope).result = .ok field ↔
      ∃ number label value?, definition.HasNumber number ∧
        Label.ofText? definition.label = some label ∧
        definition.Defaults (definition.linked registry scope number label) value? ∧
        field = { definition.linked registry scope number label with defaultValue := value? } := by
  simp only [build, Traced.result_bind, Traced.result_ofExcept, bind_ok_iff, start_ok_iff]
  constructor
  · rintro ⟨_, ⟨number, label, numbered, labelled, rfl⟩, linked, referred, given⟩
    have linkedEq := Except.ok.inj (referred.symm.trans (refer_result definition number label))
    subst linkedEq
    obtain ⟨value?, defaults, same⟩ := (giveDefault_ok_iff rfl).mp given
    exact ⟨number, label, value?, numbered, labelled, defaults, same⟩
  · rintro ⟨number, label, value?, numbered, labelled, defaults, same⟩
    exact ⟨_, ⟨number, label, numbered, labelled, rfl⟩, _, refer_result definition number label,
      (giveDefault_ok_iff rfl).mpr ⟨value?, defaults, same⟩⟩

theorem target_of_build {definition : FieldDef} {field : Field}
    (built : (definition.build registry scope).result = .ok field) :
    field.target = definition.target? registry scope := by
  obtain ⟨_, _, _, _, _, _, rfl⟩ := build_ok_iff.mp built
  rfl

/-- No definition repeats a name or a number, its own or one of an earlier definition. -/
structure New (earlier definitions : List FieldDef) : Prop where
  names : (definitions.map FieldDef.name).Nodup
  numbers : (definitions.map FieldDef.number).Nodup
  apart : ∀ definition ∈ definitions, ∀ other ∈ earlier,
    other.name ≠ definition.name ∧ other.number ≠ definition.number

theorem checkNew_ok_iff {earlier : List FieldDef} {definition : FieldDef} :
    definition.checkNew scope earlier = .ok () ↔
      ∀ other ∈ earlier, other.name ≠ definition.name ∧ other.number ≠ definition.number := by
  unfold checkNew
  split
  · next repeated =>
    simp only [List.any_eq_true, decide_eq_true_eq] at repeated
    obtain ⟨other, member, same⟩ := repeated
    simp only [reduceCtorEq, false_iff]
    exact fun apart => (apart other member).1 same
  · next named =>
    split
    · next repeated =>
      simp only [List.any_eq_true, decide_eq_true_eq] at repeated
      obtain ⟨other, member, same⟩ := repeated
      simp only [reduceCtorEq, false_iff]
      exact fun apart => (apart other member).2 same
    · next numbered =>
      simp only [List.any_eq_true, decide_eq_true_eq, not_exists, not_and] at named numbered
      simp only [true_iff]
      exact fun other member => ⟨named other member, numbered other member⟩

theorem new_cons_iff {earlier definitions : List FieldDef} {definition : FieldDef} :
    New earlier (definition :: definitions) ↔
      (∀ other ∈ earlier, other.name ≠ definition.name ∧ other.number ≠ definition.number) ∧
        New (definition :: earlier) definitions := by
  constructor
  · rintro ⟨names, numbers, apart⟩
    simp only [List.map_cons, List.nodup_cons, List.mem_map, not_exists, not_and] at names numbers
    refine ⟨apart definition List.mem_cons_self, names.2, numbers.2, ?_⟩
    intro next member other before
    rcases List.mem_cons.mp before with rfl | before
    · exact ⟨fun same => names.1 next member same.symm, fun same => numbers.1 next member same.symm⟩
    · exact apart next (List.mem_cons_of_mem _ member) other before
  · rintro ⟨first, names, numbers, apart⟩
    have distinct := fun next member => apart next member definition List.mem_cons_self
    refine ⟨?_, ?_, ?_⟩
    · simp only [List.map_cons, List.nodup_cons, List.mem_map, not_exists, not_and]
      exact ⟨fun next member same => (distinct next member).1 same.symm, names⟩
    · simp only [List.map_cons, List.nodup_cons, List.mem_map, not_exists, not_and]
      exact ⟨fun next member same => (distinct next member).2 same.symm, numbers⟩
    · intro next member other before
      rcases List.mem_cons.mp member with rfl | member
      · exact first other before
      · exact apart next member other (List.mem_cons_of_mem _ before)

theorem buildAll_ok_iff {earlier definitions : List FieldDef} {fields : List Field} :
    (buildAll registry scope earlier definitions).result = .ok fields ↔
      New earlier definitions ∧
        List.Forall₂ (fun definition field => (definition.build registry scope).result = .ok field)
          definitions fields := by
  induction definitions generalizing earlier fields with
  | nil =>
    rw [List.forall₂_nil_left_iff]
    constructor
    · intro done
      cases done
      exact ⟨⟨.nil, .nil, by simp⟩, rfl⟩
    · rintro ⟨_, rfl⟩
      rfl
  | cons definition rest ih =>
    simp only [buildAll, Traced.result_bind, Traced.result_ofExcept, Traced.result_pure, bind_ok_iff,
      ih, new_cons_iff, List.forall₂_cons_left_iff]
    constructor
    · rintro ⟨_, new, field, built, later, ⟨others, all⟩, done⟩
      cases done
      exact ⟨⟨checkNew_ok_iff.mp new, others⟩, field, later, built, all, rfl⟩
    · rintro ⟨⟨new, others⟩, field, later, built, all, rfl⟩
      exact ⟨(), checkNew_ok_iff.mpr new, field, built, later, ⟨others, all⟩, rfl⟩

end FieldDef

namespace Placed

theorem build_ok_iff {registry : Registry} {placed : Placed} {message : Message} :
    (placed.build registry).result = .ok message ↔
      placed.registered registry = .ok message.id ∧ FieldDef.New [] placed.definition.fields ∧
        List.Forall₂ (fun definition field =>
            (definition.build registry placed.fullName).result = .ok field)
          placed.definition.fields message.fields := by
  simp only [build, Traced.result_bind, Traced.result_ofExcept, Traced.result_pure, bind_ok_iff,
    FieldDef.buildAll_ok_iff]
  constructor
  · rintro ⟨id, registered, fields, built, done⟩
    cases done
    exact ⟨registered, built⟩
  · rintro ⟨registered, built⟩
    exact ⟨_, registered, _, built, rfl⟩

theorem buildAll_ok_iff {registry : Registry} {placed : List Placed} {messages : List Message} :
    (buildAll registry placed).result = .ok messages ↔
      List.Forall₂ (fun place message => (place.build registry).result = .ok message)
        placed messages := by
  induction placed generalizing messages with
  | nil =>
    rw [List.forall₂_nil_left_iff]
    exact ⟨fun done => (Except.ok.inj done).symm, fun none => none ▸ rfl⟩
  | cons first rest ih =>
    simp only [buildAll, Traced.result_bind, Traced.result_pure, bind_ok_iff, ih,
      List.forall₂_cons_left_iff]
    constructor
    · rintro ⟨message, built, later, all, done⟩
      cases done
      exact ⟨message, later, built, all, rfl⟩
    · rintro ⟨message, later, built, all, rfl⟩
      exact ⟨message, built, later, all, rfl⟩

end Placed

namespace Document

variable {document : Document} {registry : Registry}

theorem message_mem_declared {site : Site} (member : site ∈ document.sites) :
    .message (document.messageAt site) ∈ document.declared :=
  List.mem_append_right _ (List.mem_flatMap.mpr ⟨site, member, List.mem_cons_self⟩)

theorem registered_eq (filled : Registry.ofTypes document.declared = .ok registry) {site : Site}
    (member : site ∈ document.sites) :
    (document.place site).registered registry = .ok (document.messageAt site) := by
  have found := (Registry.find?_ofTypes filled).mpr ⟨message_mem_declared member, rfl⟩
  rw [UserType.fullName, UserType.id, messageAt_fullName] at found
  simp [Placed.registered, place_fullName, found]

/-- What the loader makes of a message definition: it keeps its identity and builds its fields. -/
structure Built (document : Document) (registry : Registry) (site : Site) (message : Message) :
    Prop where
  id : message.id = document.messageAt site
  new : FieldDef.New [] site.definition.fields
  fields : List.Forall₂ (fun definition field =>
      (definition.build registry (document.pathName site.path)).result = .ok field)
    site.definition.fields message.fields

theorem build_ok_iff_built (filled : Registry.ofTypes document.declared = .ok registry)
    {site : Site} (member : site ∈ document.sites) (message : Message) :
    ((document.place site).build registry).result = .ok message ↔
      document.Built registry site message := by
  rw [Placed.build_ok_iff, registered_eq filled member, place_fullName, Except.ok.injEq]
  constructor
  · rintro ⟨id, new, fields⟩
    exact ⟨id.symm, new, fields⟩
  · rintro ⟨id, new, fields⟩
    exact ⟨id.symm, new, fields⟩

/-- A document loads exactly if its types can be registered and all of its messages can be built. -/
theorem load_ok_iff {schema : Schema} :
    (Schema.ofDocument document).result = .ok schema ↔
      ∃ registry, Registry.ofTypes document.declared = .ok registry ∧
        schema.package = document.scope ∧
        schema.enums = document.declared.filterMap UserType.asEnum? ∧
        List.Forall₂ (document.Built registry) document.sites schema.messages := by
  simp only [Schema.ofDocument, types_eq, placed_eq, Traced.result_bind, Traced.result_ofExcept,
    Traced.result_emit, Traced.result_pure, bind_ok_iff, Placed.buildAll_ok_iff,
    List.forall₂_map_left_iff]
  constructor
  · rintro ⟨registry, filled, messages, built, _, _, done⟩
    cases done
    exact ⟨registry, filled, rfl, rfl,
      (forall₂_congr_left fun site member => build_ok_iff_built filled member).mp built⟩
  · rintro ⟨registry, filled, package, enums, built⟩
    refine ⟨registry, filled, schema.messages,
      (forall₂_congr_left fun site member => build_ok_iff_built filled member).mpr built,
      (), trivial, ?_⟩
    cases schema
    simp_all

end Document

namespace Schema

/-- Every field definition of the document is related to the field that the schema holds for it. -/
def EachField (schema : Schema) (document : Document)
    (related : Site → FieldDef → Field → Prop) : Prop :=
  List.Forall₂ (fun site message => message.fullName = document.pathName site.path ∧
      List.Forall₂ (related site) site.definition.fields message.fields)
    document.sites schema.messages

theorem eachField_of_build {schema : Schema} {document : Document}
    {related : Site → FieldDef → Field → Prop} (loaded : (ofDocument document).result = .ok schema)
    (each : ∀ registry, Registry.ofTypes document.declared = .ok registry →
      ∀ site ∈ document.sites, ∀ definition ∈ site.definition.fields, ∀ field,
        (definition.build registry (document.pathName site.path)).result = .ok field →
          related site definition field) : schema.EachField document related := by
  obtain ⟨registry, filled, _, _, built⟩ := Document.load_ok_iff.mp loaded
  refine forall₂_imp_left (fun site member message ⟨id, _, fields⟩ => ⟨?_, ?_⟩) built
  · rw [Message.fullName, id, Document.messageAt_fullName]
  · exact forall₂_imp_left (each registry filled site member) fields

end Schema

end MessageSchema
