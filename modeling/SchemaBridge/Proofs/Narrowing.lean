import Mathlib
import SchemaBridge.Proofs.Emission
import SchemaBridge.Proofs.Extension
import SchemaBridge.Proofs.Refinement

/-!
# What is enforced only narrows

A document without unions allows fewer values the more of it is enforced. The directives on its
fields add keywords to the schemas of properties, and what they add stands under keys of their own,
never under those of the types: so without the directives, every value is still allowed that was
allowed with them. The further keywords that a registry may read take away values too.

* `Document.undirected`: a document without the directives on its fields.
* `Field.narrows`, `Definition.refines`: properties and definitions say no less with directives.
* `Document.exists_schema_undirected`: without the directives there is a schema document too.
* `Registry.layers_only_narrow`: each layer allows only what the one below it allows.
* `Registry.layers_narrow_of_parse?`: the same for a document that is read from a text.
-/

namespace SchemaBridge

open Schema

/-! ## Documents with other fields -/

/-- The field without its directives. -/
def Field.undirected (field : Field) : Field := { field with directives := [] }

namespace Definition

/-- The definition with its fields changed. -/
def mapFields (change : Field → Field) : Definition → Definition
  | object name interfaces directives fields =>
    object name interfaces directives (fields.map change)
  | interface name interfaces directives fields =>
    interface name interfaces directives (fields.map change)
  | inputObject name directives fields => inputObject name directives (fields.map change)
  | definition => definition

variable {change : Field → Field}

theorem mapFields_id (definition : Definition) : definition.mapFields id = definition := by
  cases definition <;> simp [mapFields]

theorem typeName?_mapFields (definition : Definition) :
    (definition.mapFields change).typeName? = definition.typeName? := by
  cases definition <;> rfl

theorem isIgnored_mapFields (definition : Definition) :
    (definition.mapFields change).isIgnored = definition.isIgnored := by
  cases definition <;> rfl

theorem types_mapFields (hchange : ∀ field, (change field).type = field.type)
    (definition : Definition) : (definition.mapFields change).types = definition.types := by
  cases definition <;> simp [mapFields, types, fields, members, hchange]

theorem isUnion_mapFields (definition : Definition) :
    (definition.mapFields change).isUnion = definition.isUnion := by
  cases definition <;> rfl

end Definition

namespace Document

/-- The document with the fields of its definitions changed. -/
def mapFields (change : Field → Field) (document : Document) : Document :=
  document.map (·.mapFields change)

/-- The document without the directives on its fields. -/
def undirected (document : Document) : Document := document.mapFields Field.undirected

variable {change : Field → Field} {document : Document}

theorem mapFields_id (document : Document) : document.mapFields id = document := by
  rw [mapFields, List.map_congr_left fun definition _ => definition.mapFields_id, List.map_id']

theorem kept_mapFields (change : Field → Field) (document : Document) :
    (document.mapFields change).kept = document.kept.map (·.mapFields change) := by
  rw [kept, kept, mapFields, List.filter_map]
  simp only [Function.comp_def, Definition.isIgnored_mapFields]

theorem inForce_mapFields (document : Document) (name : String) :
    (document.mapFields change).inForce name
      = (document.inForce name).map (·.mapFields change) := by
  have hkept := document.kept_mapFields change
  rw [kept, kept] at hkept
  rw [inForce, inForce, hkept, List.filter_map, List.getLast?_map]
  simp only [Function.comp_def, Definition.typeName?_mapFields]

theorem isPlain_mapFields (hchange : ∀ field, (change field).type = field.type)
    (h : document.IsPlain) : (document.mapFields change).IsPlain := by
  refine List.forall_mem_map.mpr fun definition hmem => ?_
  rw [Definition.types_mapFields hchange]
  exact h definition hmem

/-- Without unions, nothing contains itself. -/
theorem acyclic_of_no_unions (h : ∀ definition ∈ document, definition.isUnion = false)
    (name : String) : ¬Relation.TransGen document.Contains name name := by
  refine acyclic_of_flat (fun name other hcontains => ?_) name
  obtain ⟨definition, hforce, member, hmember, -⟩ := hcontains
  have hunion := h definition (typeName?_of_inForce hforce).1
  cases definition with
  | «union» => cases hunion
  | _ => cases hmember

end Document

/-! ## Types -/

/-- The schema of a type says no less than itself, for it has no branches. -/
theorem TypeRef.refines {type : TypeRef} {inList : Bool} {resolved : TypeSchema}
    (h : type.resolve inList = .ok resolved)
    (hplain : ∀ name ∈ type.name?, Reference.IsPlain name) :
    Refines (.object resolved.schema) (.object resolved.schema) := by
  induction type generalizing inList resolved with
  | named name =>
    cases h
    cases hbuiltin : isBuiltin name with
    | true => exact .of_plain ((hasOnly_nameSchema hbuiltin inList).mono (by decide))
    | false =>
      rw [nameSchema_of_reference hbuiltin]
      exact .reference rfl rfl (hplain name rfl)
  | list item ih =>
    obtain ⟨type, hitem, rfl⟩ := resolve_eq_ok_list h
    have hrefines := ih hitem hplain
    have honly : HasOnly generatedKeywords
        [(.text "type", .text "array"), (.text "items", .object type.schema)] :=
      hasOnly_cons.mpr ⟨⟨"type", by decide, rfl⟩, hasOnly_singleton (by decide) _⟩
    refine .keywords honly honly (fun _ _ _ _ => id) ?_ ?_ ?_ ?_ ?_
    all_goals simp
    exact hrefines
  | nonNull inner ih =>
    obtain ⟨type, hinner, rfl⟩ := resolve_eq_ok_nonNull h
    have hrefines := ih hinner hplain
    exact hrefines
  | other kind => cases h

/-! ## Fields -/

namespace Field

/-- The other field has the same name and type, and the same directives or none. -/
structure Keeps (field field' : Field) : Prop where
  name : field'.name = field.name
  type : field'.type = field.type
  directives : field'.directives = field.directives ∨ field'.directives = []

theorem keeps_id (field : Field) : field.Keeps (id field) := ⟨rfl, rfl, .inl rfl⟩

theorem keeps_undirected (field : Field) : field.Keeps field.undirected := ⟨rfl, rfl, .inr rfl⟩

end Field

/-- The other property has the same name, is required alike, and says no more. -/
structure Property.Narrows (property property' : Property) : Prop where
  name : property.name = property'.name
  required : property.required = property'.required
  refines : Refines (Definition.propertySchema property) (Definition.propertySchema property')

/-- Nothing of what the type says is lost when directives contribute. -/
theorem Field.mem_merge_of_type {field : Field} {type : TypeSchema} {keywords : Members}
    (htype : field.type.resolve false = .ok type) (hkeywords : HasOnly Keyword.keys keywords)
    {keyword : String} (hrule : HasRule keyword) {value : Datum}
    (hmem : (.text keyword, value) ∈ Entries.insert type.schema "title" (.text field.name)) :
    (.text keyword, value)
      ∈ Entries.merge (Entries.insert type.schema "title" (.text field.name)) keywords := by
  have honly : HasOnly ["title", "$ref", "type", "format", "items"]
      (Entries.insert type.schema "title" (.text field.name)) :=
    ((TypeRef.hasOnly_resolve htype).mono (by decide)).insert (by decide) _
  refine hkeywords.mem_merge_of_mem ?_ hmem
  obtain ⟨name, hname, heq⟩ := honly _ hmem
  cases heq
  simp only [List.mem_cons, List.not_mem_nil, or_false] at hname
  -- Only a format can be written over, and there is no rule for it.
  rcases hname with rfl | rfl | rfl | rfl | rfl
  case inr.inr.inr.inl => exact absurd rfl hrule
  all_goals decide

/-- A property says no less with the directives of its field. -/
theorem Field.narrows {field field' : Field} (hkeeps : field.Keeps field')
    (hplain : ∀ name ∈ field.type.name?, Reference.IsPlain name) {property property' : Property}
    (h : (field.property []).result = .ok property)
    (h' : (field'.property []).result = .ok property') : property.Narrows property' := by
  have heq := propertySchema_eq h
  have heq' := propertySchema_eq h'
  obtain ⟨type, keywords, htype, hkeywords, rfl⟩ := property_eq_ok h
  obtain ⟨type', keywords', htype', hkeywords', rfl⟩ := property_eq_ok h'
  rw [hkeeps.type, htype] at htype'
  cases htype'
  refine ⟨hkeeps.name.symm, rfl, ?_⟩
  rw [heq, heq', hkeeps.name]
  have hkeys := hasOnly_directiveKeywords hkeywords
  have htitle : HasOnly plainKeywords [(.text "title", Datum.text field.name)] :=
    hasOnly_singleton (by decide) _
  have hbase : Refines (.object (Entries.insert type.schema "title" (.text field.name)))
      (.object (Entries.insert type.schema "title" (.text field.name))) :=
    (TypeRef.refines htype hplain).merge htitle htitle fun _ _ _ => id
  have hadded := hkeys.mono Keyword.keys_subset
  rcases hkeeps.directives with hsame | hnone
  · rw [hsame, hkeywords] at hkeywords'
    cases hkeywords'
    exact hbase.merge hadded hadded fun _ _ _ => id
  · rw [hnone] at hkeywords'
    cases hkeywords'
    exact hbase.merge hadded (hasOnly_nil _) fun _ _ hrule => mem_merge_of_type htype hkeys hrule

/-! ## Definitions -/

namespace Definition

/-- The schemas of properties that say no less, under their names. -/
theorem beside_propertySchemas {properties properties' : List Property}
    (h : List.Forall₂ Property.Narrows properties properties') :
    Entries.Beside Refines
      (Entries.ofPairs (properties.map fun property =>
        (Key.text property.name, propertySchema property)))
      (Entries.ofPairs (properties'.map fun property =>
        (Key.text property.name, propertySchema property))) := by
  have hnil : Entries.Beside Refines ([] : Members) ([] : Members) := .nil
  refine hnil.merge ?_
  rw [Entries.Beside, List.forall₂_map_left_iff, List.forall₂_map_right_iff]
  exact h.imp fun property property' hnarrows => ⟨by rw [hnarrows.name], hnarrows.refines⟩

/-- The same names are required. -/
theorem map_name_filter_required {properties properties' : List Property}
    (h : List.Forall₂ Property.Narrows properties properties') :
    (properties.filter (·.required)).map (·.name)
      = (properties'.filter (·.required)).map (·.name) :=
  map_filter_of_forall₂ (fun _ _ hnarrows => hnarrows.required) (fun _ _ hnarrows => hnarrows.name) h

/-- An object schema says no less if its properties do not. -/
theorem refines_objectEntries {properties properties' : List Property}
    (h : List.Forall₂ Property.Narrows properties properties') (name : String) (isInput : Bool) :
    Refines (.object (objectEntries name properties isInput))
      (.object (objectEntries name properties' isInput)) := by
  have honly := hasOnly_objectEntries name properties isInput
  have honly' := hasOnly_objectEntries name properties' isInput
  have hbeside := beside_propertySchemas h
  refine .keywords (honly.mono (by decide)) (honly'.mono (by decide))
    (fun keyword hkeyword _ value hmem => ?_)
    (fun value hmem => absurd hmem (honly'.not_mem (by decide) value))
    (fun value _ hmem => absurd hmem (honly.not_mem (by decide) value))
    (fun value hmem => ?_) (fun schemas schemas' hmem hmem' => ?_)
    fun value => honly'.not_mem (by decide) value
  · have hne : keyword ≠ "properties" := by
      rintro rfl
      exact absurd hkeyword (by decide)
    rw [objectEntries_eq, ← map_name_filter_required h] at hmem
    rw [objectEntries_eq]
    simpa [hne] using hmem
  · exact ⟨_, _, eq_of_mem_objectEntries hmem, mem_objectEntries name properties isInput,
      hbeside.keys_eq⟩
  · cases eq_of_mem_objectEntries hmem
    cases eq_of_mem_objectEntries hmem'
    exact fun pair => hbeside.of_mem_zip

variable {change : Field → Field}

theorem forall₂_narrows (hchange : ∀ field : Field, field.Keeps (change field)) {fields : List Field}
    (hplain : ∀ field ∈ fields, ∀ name ∈ field.type.name?, Reference.IsPlain name)
    {properties properties' : List Property}
    (h : List.Forall₂ (fun field property => (field.property []).result = .ok property) fields
      properties)
    (h' : List.Forall₂ (fun field property => ((change field).property []).result = .ok property)
      fields properties') : List.Forall₂ Property.Narrows properties properties' := by
  induction h generalizing properties' with
  | nil =>
    cases h'
    exact .nil
  | @cons field property _ _ hproperty _ ih =>
    cases h' with
    | cons hproperty' hrest' =>
      obtain ⟨hfield, hfields⟩ := List.forall_mem_cons.mp hplain
      exact .cons (Field.narrows (hchange field) hfield hproperty hproperty') (ih hfields hrest')

/-- A definition other than a union says no less with the directives of its fields. -/
theorem refines (hchange : ∀ field : Field, field.Keeps (change field)) {definition : Definition}
    (hunion : definition.isUnion = false)
    (hplain : ∀ type ∈ definition.types, ∀ name ∈ type.name?, Reference.IsPlain name)
    {body body' : Members} (h : (definition.schema []).result = .ok body)
    (h' : ((definition.mapFields change).schema []).result = .ok body') :
    Refines (.object body) (.object body') := by
  cases definition with
  | scalar | «enum» =>
    cases h
    cases h'
    refine .of_plain ?_
    simp only [hasOnly_cons, hasOnly_nil, and_true, Key.text.injEq]
    decide
  | «union» => cases hunion
  | object name _ _ fields | «interface» name _ _ fields | inputObject name _ fields =>
    obtain ⟨properties, hproperties, rfl⟩ := objectSchema_eq_ok h
    obtain ⟨properties', hproperties', rfl⟩ := objectSchema_eq_ok h'
    have hfields := Conversion.forall₂_of_mapM hproperties'
    rw [List.forall₂_map_left_iff] at hfields
    refine refines_objectEntries (forall₂_narrows hchange (fun field hfield => ?_)
      (Conversion.forall₂_of_mapM hproperties) hfields) name _
    exact hplain field.type (List.mem_append_left _ (List.mem_map_of_mem hfield))
  | directive | other => cases h

/-- What has a schema has one without the directives of its fields. -/
theorem exists_schema_undirected {handlers : Handlers} {definition : Definition} {body : Members}
    (h : (definition.schema handlers).result = .ok body) :
    ∃ bare, ((definition.mapFields Field.undirected).schema handlers).result = .ok bare := by
  have hobject {name : String} {fields : List Field} {isInput : Bool}
      (h : (objectSchema name fields isInput handlers).result = .ok body) :
      ∃ bare, (objectSchema name (fields.map Field.undirected) isInput handlers).result
        = .ok bare := by
    obtain ⟨properties, hproperties, -⟩ := objectSchema_eq_ok h
    have hbare : ∀ field ∈ fields.map Field.undirected, ∃ property,
        (field.property handlers).result = .ok property := by
      refine List.forall_mem_map.mpr fun field hfield => ?_
      obtain ⟨property, -, hproperty⟩ :=
        exists_mem_of_forall₂ (Conversion.forall₂_of_mapM hproperties).flip hfield
      obtain ⟨type, keywords, htype, -, -⟩ := Field.property_eq_ok hproperty
      have hdirectives : field.undirected.directives = [] := rfl
      exact ⟨_, Field.property_eq hdirectives htype handlers⟩
    obtain ⟨bare, hbare⟩ := Conversion.exists_mapM hbare
    exact ⟨_, Conversion.result_bind_eq_ok.mpr ⟨bare, hbare, rfl⟩⟩
  cases definition with
  | object | «interface» | inputObject => exact hobject h
  | _ => exact ⟨body, h⟩

end Definition

/-! ## Documents -/

namespace Document

variable {document : Document} {change : Field → Field}

/-- What has a schema document has one without the directives of its fields. -/
theorem exists_schema_undirected {options : Options} {schema : Members}
    (h : (document.schema options).result = .ok schema) :
    ∃ bare, (document.undirected.schema options).result = .ok bare := by
  obtain ⟨bodies, hbodies, -⟩ := schema_eq_ok_iff.mp h
  have hbare : ∀ definition ∈ document.undirected.kept, ∃ bare,
      (definition.schema options.handlers).result = .ok bare := by
    rw [undirected, kept_mapFields]
    refine List.forall_mem_map.mpr fun definition hmem => ?_
    obtain ⟨body, -, hbody⟩ := exists_mem_of_forall₂ hbodies.flip hmem
    exact Definition.exists_schema_undirected hbody
  obtain ⟨bare, hbare⟩ := Conversion.exists_mapM hbare
  exact ⟨_, schema_eq_ok_iff.mpr ⟨bare, Conversion.forall₂_of_mapM hbare, rfl⟩⟩

theorem definitionsRefine (hchange : ∀ field : Field, field.Keeps (change field))
    (hunion : ∀ definition ∈ document, definition.isUnion = false) (hplain : document.IsPlain)
    {definitions definitions' : Members} (hrenders : document.Renders [] definitions)
    (hrenders' : (document.mapFields change).Renders [] definitions') :
    DefinitionsRefine definitions definitions' := by
  intro name contents hfind
  obtain ⟨definition, body, hforce, rfl, hbody⟩ := hrenders.find?_eq_some hfind
  have hforce' : (document.mapFields change).inForce name = some (definition.mapFields change) := by
    rw [inForce_mapFields, hforce, Option.map_some]
  obtain ⟨body', hbody', hfind'⟩ := hrenders'.find?_of_inForce hforce'
  have hmem := (typeName?_of_inForce hforce).1
  exact ⟨_, hfind',
    Definition.refines hchange (hunion definition hmem) (hplain definition hmem) hbody hbody'⟩

end Document

/-! ## Layers -/

namespace Registry

variable {registry : Registry} {checks : Table Check} {document : Document}
  {schemaUri : Option String} {schema schema' : Members} {title : String} {data : Datum}

/-- A registry gives answers by definitions only. -/
theorem exists_definition_of_answer {α : Type} {answer : Validator → Except Fault α} {value : α}
    (h : (registry.validatorFor (.object schema) title).1.bind answer = .ok value) :
    ∃ definitions contents, Entries.find? schema "definitions" = some (.object definitions)
      ∧ Entries.find? definitions title = some contents := by
  unfold validatorFor at h
  cases hattached : definitionSchema (.object schema) title with
  | error fault =>
    rw [hattached] at h
    cases h
  | ok attached =>
    obtain ⟨definitions, contents, -, hdefinitions, hfind, -⟩ := definitionSchema_eq_ok hattached
    exact ⟨definitions, contents, hdefinitions, hfind⟩

/-- What a registry allows by a definition is allowed by one without keywords, also if the fields
lose their directives. -/
theorem isValid_mapFields {change : Field → Field}
    (hchange : ∀ field : Field, field.Keeps (change field)) (hreads : registry.Reads checks)
    (hunion : ∀ definition ∈ document, definition.isUnion = false) (hplain : document.IsPlain)
    (hschema : (document.schema { schemaUri }).result = .ok schema)
    (hschema' : ((document.mapFields change).schema { schemaUri }).result = .ok schema')
    (h : (registry.validatorFor (.object schema) title).1.bind (·.isValid data) = .ok true) :
    (({} : Registry).validatorFor (.object schema') title).1.bind (·.isValid data) = .ok true := by
  obtain ⟨definitions, contents, hdefinitions, hfind⟩ := exists_definition_of_answer h
  have hrenders := Document.renders_of_find? hschema hdefinitions
  obtain ⟨definition, body, hforce, rfl, hbody⟩ := hrenders.find?_eq_some hfind
  have hforce' : (document.mapFields change).inForce title = some (definition.mapFields change) := by
    rw [Document.inForce_mapFields, hforce, Option.map_some]
  obtain ⟨definitions', hdefinitions', hrenders'⟩ := Document.renders_of_schema hschema' hforce'
  have hrefine := Document.definitionsRefine hchange hunion hplain hrenders hrenders'
  obtain ⟨contents', hfind', hrefines⟩ := hrefine title _ hfind
  obtain ⟨definition', body', -, rfl, hbody'⟩ := hrenders'.find?_eq_some hfind'
  obtain ⟨level, top, hlayered, htop, hlevel⟩ :=
    Document.exists_layered hrenders hplain (Document.acyclic_of_no_unions hunion)
  obtain ⟨level', top', hlayered', htop', hlevel'⟩ :=
    Document.exists_layered hrenders' (Document.isPlain_mapFields (fun field => (hchange field).type)
      hplain) (Document.acyclic_of_no_unions (List.forall_mem_map.mpr fun definition hmem => by
        rw [Definition.isUnion_mapFields, hunion definition hmem]))
  rw [isValid_eq_report hreads hdefinitions hfind (Definition.hasOnly_schema hbody) hlayered htop
    (hlevel title).le, Outcome.verdict_eq_true_iff] at h
  rw [isValid_eq_report reads_empty hdefinitions' hfind' (Definition.hasOnly_schema hbody')
    hlayered' htop' (hlevel' title).le, Outcome.verdict_eq_true_iff]
  exact report_valid_of_refines hlayered htop hlayered' htop' hlevel' hreads.silent hrefine hrefines
    (hlayered title _ hfind) (hlevel title).le (hlayered' title _ hfind') (hlevel' title).le h

/-- A registry that has been extended allows no more than one without keywords. -/
theorem isValid_of_extended {operations : List Operation} (honly : OnlyExtends operations)
    (hschema : (document.schema { schemaUri }).result = .ok schema) (hplain : document.IsPlain)
    (hunion : ∀ definition ∈ document, definition.isUnion = false)
    (h : ((runAll {} operations).validatorFor (.object schema) title).1.bind (·.isValid data)
      = .ok true) :
    (({} : Registry).validatorFor (.object schema) title).1.bind (·.isValid data) = .ok true := by
  obtain ⟨checks, hreads⟩ := exists_reads_runAll honly
  have hsame : ((document.mapFields id).schema { schemaUri }).result = .ok schema := by
    rw [Document.mapFields_id, hschema]
  exact isValid_mapFields Field.keeps_id hreads hunion hplain hschema hsame h

/-- A document allows no more than it does when its fields lose their directives. -/
theorem isValid_undirected (hschema : (document.schema { schemaUri }).result = .ok schema)
    (hplain : document.IsPlain) (hunion : ∀ definition ∈ document, definition.isUnion = false)
    (hbare : (document.undirected.schema { schemaUri }).result = .ok schema')
    (h : (({} : Registry).validatorFor (.object schema) title).1.bind (·.isValid data) = .ok true) :
    (({} : Registry).validatorFor (.object schema') title).1.bind (·.isValid data) = .ok true :=
  isValid_mapFields Field.keeps_undirected reads_empty hunion hplain hschema hbare h

/-- For a document that is read from a text and has no unions: what an extended registry allows by
a definition is allowed by one without keywords, and then also without the directives of fields. -/
theorem layers_narrow_of_parse? {text : String} {operations : List Operation}
    (hparse : Document.parse? text = some document)
    (hschema : (document.schema { schemaUri }).result = .ok schema)
    (hunion : ∀ definition ∈ document, definition.isUnion = false)
    (honly : OnlyExtends operations) :
    ∃ bare, (document.undirected.schema { schemaUri }).result = .ok bare ∧ ∀ title data,
      ((runAll {} operations).validatorFor (.object schema) title).1.bind (·.isValid data)
          = .ok true →
        (({} : Registry).validatorFor (.object schema) title).1.bind (·.isValid data) = .ok true
          ∧ (({} : Registry).validatorFor (.object bare) title).1.bind (·.isValid data)
            = .ok true := by
  have hplain := Document.isPlain_of_parse? hparse
  obtain ⟨bare, hbare⟩ := Document.exists_schema_undirected hschema
  refine ⟨bare, hbare, fun title data hextended => ?_⟩
  have hallowed := isValid_of_extended honly hschema hplain hunion hextended
  exact ⟨hallowed, isValid_undirected hschema hplain hunion hbare hallowed⟩

/-- For a document without handlers and without unions, whose names are those of the language: every
value that an extended registry allows by a definition is allowed by one without keywords, and every
value that this one allows is still allowed if the fields of the document lose their directives. What
is left has a schema document. -/
theorem layers_only_narrow {operations : List Operation}
    (hschema : (document.schema { schemaUri }).result = .ok schema) (hplain : document.IsPlain)
    (hunion : ∀ definition ∈ document, definition.isUnion = false)
    (honly : OnlyExtends operations) :
    ∃ bare, (document.undirected.schema { schemaUri }).result = .ok bare ∧ ∀ title data,
      ((((runAll {} operations).validatorFor (.object schema) title).1.bind (·.isValid data)
          = .ok true →
        (({} : Registry).validatorFor (.object schema) title).1.bind (·.isValid data) = .ok true)
      ∧ ((({} : Registry).validatorFor (.object schema) title).1.bind (·.isValid data) = .ok true →
        (({} : Registry).validatorFor (.object bare) title).1.bind (·.isValid data) = .ok true)) := by
  obtain ⟨bare, hbare⟩ := Document.exists_schema_undirected hschema
  exact ⟨bare, hbare, fun title data =>
    ⟨isValid_of_extended honly hschema hplain hunion,
      isValid_undirected hschema hplain hunion hbare⟩⟩

/-- A value with another one inside of it that is allowed with an expression is allowed without. -/
theorem value_allowed_without_pattern :
    let value : Datum := .object [("a", .text "ab"), ("b", .list [.object []])]
    (Document.ofText anchoredSource {}).result = .ok (patternSchema (.text "^a"))
      ∧ ((runAll {} [.extend true]).validatorFor (.object (patternSchema (.text "^a"))) "A").1.bind
          (·.isValid value) = .ok true
      ∧ ∃ bare, ((patternDocument (.text "^a")).undirected.schema {}).result = .ok bare
        ∧ (({} : Registry).validatorFor (.object bare) "A").1.bind (·.isValid value) = .ok true := by
  intro value
  have hschema : ((patternDocument (.text "^a")).schema {}).result
      = .ok (patternSchema (.text "^a")) := rfl
  have hunion : ∀ definition ∈ patternDocument (.text "^a"), definition.isUnion = false :=
    List.forall_mem_singleton.mpr rfl
  have honly : OnlyExtends [.extend true] := by simp [OnlyExtends]
  have hallowed : ((runAll {} [.extend true]).validatorFor (.object (patternSchema (.text "^a")))
      "A").1.bind (·.isValid value) = .ok true := eq_ok_of_toOption (by decide +kernel)
  obtain ⟨bare, hbare, hlayers⟩ := layers_only_narrow hschema
    (Document.isPlain_of_parse? parse?_anchoredSource) hunion honly
  obtain ⟨hextended, hundirected⟩ := hlayers "A" value
  refine ⟨?_, hallowed, bare, hbare, hundirected (hextended hallowed)⟩
  rw [Document.ofText_of_parse? parse?_anchoredSource, hschema]

end Registry

end SchemaBridge
