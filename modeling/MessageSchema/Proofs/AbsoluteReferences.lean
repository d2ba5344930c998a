import MessageSchema.Proofs.Loading

/-! A reference may as well be written as a dot and the full name of what it denotes. However many
references of a document are written so, loading it reports the same and ends the same. -/
namespace MessageSchema

/-- A definition, or the same with an absolute reference to what its own reference denotes. -/
inductive FieldDef.Absolute (document : Document) (scope : String) : FieldDef → FieldDef → Prop where
  | kept : FieldDef.Absolute document scope definition definition
  | absolute {definition : FieldDef} {type : UserType} {written : String} :
      Scalar.ofTag? definition.tag = none → document.Denotes scope definition.reference type →
      written = "." ++ type.fullName →
      FieldDef.Absolute document scope definition { definition with typeName := some written }

mutual

/-- A message with any references made absolute, in its own fields and in those of the messages
nested in it. What a reference denotes is seen from inside its message. -/
inductive MessageDef.Absolute (document : Document) :
    List String → MessageDef → MessageDef → Prop where
  | mk {outer : List String} {name : String} {fields others : List FieldDef} {enums : List EnumDef}
      {messages nested : List MessageDef} :
      List.Forall₂ (FieldDef.Absolute document (document.pathName (outer ++ [name]))) fields others →
      MessageDef.AbsoluteAll document (outer ++ [name]) messages nested →
      MessageDef.Absolute document outer ⟨name, fields, enums, messages⟩ ⟨name, others, enums, nested⟩

inductive MessageDef.AbsoluteAll (document : Document) :
    List String → List MessageDef → List MessageDef → Prop where
  | nil : MessageDef.AbsoluteAll document outer [] []
  | cons : MessageDef.Absolute document outer definition other →
      MessageDef.AbsoluteAll document outer rest others →
      MessageDef.AbsoluteAll document outer (definition :: rest) (other :: others)

end

/-- A document with any of its references made absolute. -/
structure Document.Absolute (document other : Document) : Prop where
  package : other.package = document.package
  enums : other.enums = document.enums
  messages : MessageDef.AbsoluteAll document [] document.messages other.messages

namespace FieldDef

variable {document : Document} {registry : Registry} {scope : String}

theorem resolve?_absolute (filled : Registry.ofTypes document.declared = .ok registry)
    {reference : String} {type : UserType} (denotes : document.Denotes scope reference type) :
    registry.resolve? scope ("." ++ type.fullName) = some type :=
  (Registry.resolve?_eq_some_iff filled).mpr (.absolute denotes.declared)

/-- A field of a resolved type does not remember how the reference was written. -/
theorem refer_congr {definition other : FieldDef} {field : Field} {type : UserType}
    (user : Scalar.ofTag? field.tag = none) (name : other.name = definition.name)
    (found : registry.resolve? scope definition.reference = some type)
    (same : registry.resolve? scope other.reference = some type) :
    other.refer registry scope field = definition.refer registry scope field := by
  simp [refer, Field.isScalar_eq, user, found, same, name]

theorem Absolute.build_eq {definition other : FieldDef}
    (filled : Registry.ofTypes document.declared = .ok registry)
    (absolute : definition.Absolute document scope other) :
    other.build registry scope = definition.build registry scope := by
  cases absolute with
  | kept => rfl
  | @absolute type _ user denotes written =>
    subst written
    have found := (Registry.resolve?_eq_some_iff filled).mpr denotes
    rw [build, build]
    refine Traced.bind_congr fun field started => ?_
    obtain ⟨number, label, -, -, rfl⟩ := start_ok_iff.mp started
    have referred : FieldDef.refer registry scope
          { definition with typeName := some ("." ++ type.fullName) }
          (.bare definition.name number label definition.tag) =
        definition.refer registry scope (.bare definition.name number label definition.tag) :=
      refer_congr user rfl found (resolve?_absolute filled denotes)
    rw [referred]
    rfl

theorem Absolute.same_key {definition other : FieldDef}
    (absolute : definition.Absolute document scope other) :
    other.name = definition.name ∧ other.number = definition.number := by
  cases absolute with
  | kept => exact ⟨rfl, rfl⟩
  | absolute => exact ⟨rfl, rfl⟩

theorem checkNew_congr {earlier others : List FieldDef} {definition other : FieldDef}
    (names : others.map FieldDef.name = earlier.map FieldDef.name)
    (numbers : others.map FieldDef.number = earlier.map FieldDef.number)
    (name : other.name = definition.name) (number : other.number = definition.number) :
    other.checkNew scope others = definition.checkNew scope earlier := by
  have named : others.any (·.name = definition.name) = earlier.any (·.name = definition.name) := by
    simpa [List.any_map, Function.comp_def] using congrArg (·.any (· = definition.name)) names
  have numbered : others.any (·.number = definition.number) =
      earlier.any (·.number = definition.number) := by
    simpa [List.any_map, Function.comp_def] using congrArg (·.any (· = definition.number)) numbers
  simp only [checkNew, name, number, named, numbered]

/-- Two definitions that are checked against earlier fields and built in the same way. -/
structure BuiltAlike (registry : Registry) (scope : String) (definition other : FieldDef) : Prop where
  name : other.name = definition.name
  number : other.number = definition.number
  build : other.build registry scope = definition.build registry scope

theorem BuiltAlike.buildAll_eq {definitions rewritten earlier others : List FieldDef}
    (alike : List.Forall₂ (BuiltAlike registry scope) definitions rewritten)
    (names : others.map FieldDef.name = earlier.map FieldDef.name)
    (numbers : others.map FieldDef.number = earlier.map FieldDef.number) :
    buildAll registry scope others rewritten = buildAll registry scope earlier definitions := by
  induction alike generalizing earlier others with
  | nil => rfl
  | @cons definition other _ _ first _ ih =>
    have nextNames :
        (other :: others).map FieldDef.name = (definition :: earlier).map FieldDef.name := by
      simp [first.name, names]
    have nextNumbers :
        (other :: others).map FieldDef.number = (definition :: earlier).map FieldDef.number := by
      simp [first.number, numbers]
    rw [buildAll, buildAll, checkNew_congr names numbers first.name first.number, first.build,
      ih nextNames nextNumbers]

theorem Absolute.builtAlike {definition other : FieldDef}
    (filled : Registry.ofTypes document.declared = .ok registry)
    (absolute : definition.Absolute document scope other) :
    BuiltAlike registry scope definition other :=
  ⟨absolute.same_key.1, absolute.same_key.2, absolute.build_eq filled⟩

end FieldDef

namespace Document

variable {document other : Document} {registry : Registry}

/-- Of the messages of a document with absolute references, each stands where it stood. -/
structure AbsoluteAt (document : Document) (site other : Site) : Prop where
  outer : other.outer = site.outer
  name : other.definition.name = site.definition.name
  enums : other.definition.enums = site.definition.enums
  fields : List.Forall₂ (FieldDef.Absolute document (document.pathName site.path))
    site.definition.fields other.definition.fields

mutual

theorem absolute_sites {outer : List String} {definition other : MessageDef} :
    MessageDef.Absolute document outer definition other →
      List.Forall₂ document.AbsoluteAt (definition.sites outer) (other.sites outer)
  | .mk fields messages => by
    rw [MessageDef.sites, MessageDef.sites]
    exact .cons ⟨rfl, rfl, rfl, fields⟩ (absolute_sitesAll messages)

theorem absolute_sitesAll {outer : List String} {definitions others : List MessageDef} :
    MessageDef.AbsoluteAll document outer definitions others →
      List.Forall₂ document.AbsoluteAt (MessageDef.sitesAll outer definitions)
        (MessageDef.sitesAll outer others)
  | .nil => .nil
  | .cons first rest => by
    rw [MessageDef.sitesAll, MessageDef.sitesAll]
    exact List.rel_append (absolute_sites first) (absolute_sitesAll rest)

end

theorem AbsoluteAt.place_fullName_eq {site moved : Site} (package : other.package = document.package)
    (absolute : document.AbsoluteAt site moved) :
    (other.place moved).fullName = (document.place site).fullName := by
  simp only [Placed.fullName, Placed.id, place, absolute.outer, absolute.name,
    document.namespaceOf_congr package]

theorem AbsoluteAt.types_eq {site moved : Site} (package : other.package = document.package)
    (absolute : document.AbsoluteAt site moved) :
    (other.place moved).types = (document.place site).types := by
  rw [Placed.types, Placed.types, absolute.place_fullName_eq package]
  simp only [Placed.id, place, absolute.outer, absolute.name, absolute.enums,
    document.namespaceOf_congr package]

theorem AbsoluteAt.build_eq {site moved : Site}
    (filled : Registry.ofTypes document.declared = .ok registry)
    (package : other.package = document.package) (absolute : document.AbsoluteAt site moved) :
    (other.place moved).build registry = (document.place site).build registry := by
  have fullName := absolute.place_fullName_eq package
  have fields := absolute.fields
  rw [← document.place_fullName] at fields
  have registered :
      (other.place moved).registered registry = (document.place site).registered registry := by
    simp only [Placed.registered, fullName]
  have built : FieldDef.buildAll registry (document.place site).fullName []
        (other.place moved).definition.fields =
      FieldDef.buildAll registry (document.place site).fullName []
        (document.place site).definition.fields :=
    FieldDef.BuiltAlike.buildAll_eq (fields.imp fun _ _ same => same.builtAlike filled) rfl rfl
  rw [Placed.build, Placed.build, registered, fullName, built]

theorem AbsoluteAt.buildAll_eq {sites moved : List Site}
    (filled : Registry.ofTypes document.declared = .ok registry)
    (package : other.package = document.package)
    (absolute : List.Forall₂ document.AbsoluteAt sites moved) :
    Placed.buildAll registry (moved.map other.place) =
      Placed.buildAll registry (sites.map document.place) := by
  induction absolute with
  | nil => rfl
  | cons first _ ih =>
    rw [List.map_cons, List.map_cons, Placed.buildAll, Placed.buildAll,
      first.build_eq filled package, ih]

theorem Absolute.types_eq (absolute : document.Absolute other) : other.types = document.types := by
  have nested := flatMap_eq_of_forall₂ (absolute_sitesAll absolute.messages) fun site moved same =>
    (same.types_eq absolute.package).symm
  rw [types, types, scope_congr document absolute.package, absolute.enums, placed_eq, placed_eq,
    List.flatMap_map, List.flatMap_map]
  exact congrArg _ nested.symm

end Document

/-- A document with any of its references made absolute gives the same schema or the same error, and
reports the same on the way. -/
theorem absolute_references_change_nothing {document other : Document}
    (absolute : document.Absolute other) :
    Schema.ofDocument other = Schema.ofDocument document := by
  rw [Schema.ofDocument, Schema.ofDocument, absolute.types_eq,
    document.scope_congr absolute.package]
  refine Traced.bind_congr fun registry filled => ?_
  rw [Traced.result_ofExcept, Document.types_eq] at filled
  have built := Document.AbsoluteAt.buildAll_eq filled absolute.package
    (Document.absolute_sitesAll absolute.messages)
  rw [← Document.sites, ← Document.sites, ← Document.placed_eq, ← Document.placed_eq] at built
  rw [built]

/-- A type with the empty name, a shadowed enum, and references to both. -/
def abbreviated : Document where
  package := none
  enums := [⟨"Kind", [⟨"OLD", 0⟩]⟩]
  messages := [⟨"", [⟨"self", 1, "optional", "", none, none⟩], [],
    [⟨"Line", [⟨"kind", 1, "optional", "Kind", none, some (.text "NEW")⟩,
      ⟨"next", 2, "optional", "Line", none, none⟩], [⟨"Kind", [⟨"NEW", 0⟩]⟩], []⟩]⟩]

/-- The same with all but the last of its references made absolute. -/
def spelledOut : Document where
  package := none
  enums := [⟨"Kind", [⟨"OLD", 0⟩]⟩]
  messages := [⟨"", [⟨"self", 1, "optional", "", some ".", none⟩], [],
    [⟨"Line", [⟨"kind", 1, "optional", "Kind", some ".Line.Kind", some (.text "NEW")⟩,
      ⟨"next", 2, "optional", "Line", none, none⟩], [⟨"Kind", [⟨"NEW", 0⟩]⟩], []⟩]⟩]

theorem spelledOut_changes_nothing : abbreviated.Absolute spelledOut ∧
    Schema.ofDocument spelledOut = Schema.ofDocument abbreviated ∧
    (Schema.ofDocument abbreviated).result.isOk = true := by
  have filled : Registry.ofTypes abbreviated.declared = .ok ⟨[
      ("Line.Kind", .enum ⟨⟨"Kind", some "Line"⟩, [⟨"NEW", 0⟩]⟩),
      ("Line", .message ⟨"Line", some ""⟩), ("", .message ⟨"", none⟩),
      ("Kind", .enum ⟨⟨"Kind", none⟩, [⟨"OLD", 0⟩]⟩)]⟩ := rfl
  have self : abbreviated.Denotes "" "" (.message ⟨"", none⟩) :=
    (Registry.resolve?_eq_some_iff filled).mp (by decide +kernel)
  have kind : abbreviated.Denotes "Line" "Kind" (.enum ⟨⟨"Kind", some "Line"⟩, [⟨"NEW", 0⟩]⟩) :=
    (Registry.resolve?_eq_some_iff filled).mp (by decide +kernel)
  have absolute : abbreviated.Absolute spelledOut :=
    ⟨rfl, rfl, .cons (.mk (.cons (.absolute (by decide) self rfl) .nil)
      (.cons (.mk (.cons (.absolute (by decide) kind rfl) (.cons .kept .nil)) .nil) .nil)) .nil⟩
  exact ⟨absolute, absolute_references_change_nothing absolute, by decide +kernel⟩

end MessageSchema
