import Mathlib
import SchemaBridge.Proofs.Contents
import SchemaBridge.Proofs.Extension

/-!
# References and their targets

References are made from the types of fields, at any depth of lists, and from the members of unions.
What counts is what is left of a document: the last field of each name, in the last definition of
each name. No directive makes a reference, for the constants in its arguments have names for their
keys. Targets are the definitions that are not ignored. So the references of a schema document lead
somewhere just if the names that are left are those of such definitions.

* `Literal.IsConstant.lacks_ref`: there are no references in constants.
* `TypeRef.hasEntry_iff`, `Field.hasEntry_iff`, `Definition.hasEntry_iff`: the references of parts.
* `Document.hasEntry_iff`: the references of a schema document.
* `Document.references_resolve_iff`: when all of them lead to definitions.
-/

namespace SchemaBridge

open Datum

/-! ## Values without references -/

variable {reference : Datum}

theorem Datum.HasEntry.standsUnder {name : String} {value whole : Datum}
    (h : HasEntry name value whole) : StandsUnder name value whole := by
  induction h with
  | here hmem => exact ⟨_, .refl _, hmem⟩
  | entry hmem _ ih =>
    obtain ⟨entries, hpart, hentry⟩ := ih
    exact ⟨entries, .entry hmem hpart, hentry⟩
  | item hmem _ ih =>
    obtain ⟨entries, hpart, hentry⟩ := ih
    exact ⟨entries, .item hmem hpart, hentry⟩

theorem Datum.Lacks.not_hasEntry {name : String} {value whole : Datum} (h : Lacks name whole) :
    ¬HasEntry name value whole := fun hentry => h value hentry.standsUnder

theorem Datum.hasEntry_list {name : String} {value : Datum} {items : List Datum} :
    HasEntry name value (.list items) ↔ ∃ item ∈ items, HasEntry name value item := by
  constructor
  · intro hentry
    cases hentry with
    | item hmem h => exact ⟨_, hmem, h⟩
  · rintro ⟨item, hmem, h⟩
    exact .item hmem h

/-- A dollar sign stands in no name. -/
theorem Token.IsName.ne_ref {name : String} (h : IsName name) : name ≠ "$ref" := by
  rintro rfl
  exact absurd (h '$' (by decide)) (by decide)

namespace Literal

/-- The fields in a constant have names. -/
theorem IsConstant.isName_of_hasField {literal : Literal} (h : literal.IsConstant) {name : String}
    (hfield : HasField name literal) : Token.IsName name := by
  induction hfield with
  | here hmem =>
    cases h with
    | object hnames => exact hnames _ hmem
  | field hmem _ ih =>
    cases h with
    | object _ hvalues => exact ih (hvalues _ hmem)
  | item hmem _ ih =>
    cases h with
    | list hitems => exact ih (hitems _ hmem)

/-- There are no references in constants. -/
theorem IsConstant.lacks_ref {literal : Literal} (h : literal.IsConstant) :
    Lacks "$ref" literal.value :=
  lacks_value literal fun hfield => (h.isName_of_hasField hfield).ne_ref rfl

end Literal

/-! ## Types and fields -/

namespace TypeRef

/-- The name in a type reference, if it has to be defined. -/
def base? (type : TypeRef) : Option String := type.name?.filter (!isBuiltin ·)

theorem base?_eq_some {type : TypeRef} {name : String} :
    type.base? = some name ↔ type.name? = some name ∧ isBuiltin name = false := by
  simp [base?, Option.filter_eq_some_iff]

/-- The schema of a builtin type is no reference. -/
theorem lacks_nameSchema {name : String} (h : isBuiltin name = true) (inList : Bool) :
    Lacks "$ref" (.object (nameSchema name inList)) :=
  lacks_of_hasOnly (hasOnly_nameSchema h inList) (by decide) lacks_of_mem_nameSchema

variable {type : TypeRef} {inList : Bool} {resolved : TypeSchema}

/-- The schema of a type refers to the name in the type, and to nothing else. -/
theorem hasEntry_iff (h : type.resolve inList = .ok resolved) :
    HasEntry "$ref" reference (.object resolved.schema) ↔
      ∃ name, type.base? = some name ∧ reference = Reference.toDefinition name := by
  constructor
  · intro hentry
    induction type generalizing inList resolved with
    | named name =>
      cases h
      cases hbuiltin : isBuiltin name with
      | true =>
        exact absurd hentry (lacks_nameSchema hbuiltin inList).not_hasEntry
      | false =>
        rw [nameSchema_of_reference hbuiltin, hasEntry_object] at hentry
        simp only [List.mem_singleton, Prod.mk.injEq, true_and, exists_eq_left] at hentry
        rcases hentry with rfl | hentry
        · exact ⟨name, base?_eq_some.mpr ⟨rfl, hbuiltin⟩, rfl⟩
        · exact absurd hentry not_hasEntry_text
    | list item ih =>
      obtain ⟨type, hitem, rfl⟩ := resolve_eq_ok_list h
      rw [hasEntry_object] at hentry
      simp only [List.mem_cons, Prod.mk.injEq, Key.text.injEq, String.reduceEq, false_and,
        List.not_mem_nil, or_false, exists_eq_or_imp, exists_eq_left, not_hasEntry_text,
        false_or] at hentry
      exact ih hitem hentry
    | nonNull inner ih =>
      obtain ⟨type, hinner, rfl⟩ := resolve_eq_ok_nonNull h
      exact ih hinner hentry
    | other kind => cases h
  · rintro ⟨name, hbase, rfl⟩
    obtain ⟨hname, hbuiltin⟩ := base?_eq_some.mp hbase
    exact hasEntry_of_name? h hname hbuiltin (hasOnly_nil _)

end TypeRef

namespace Field

variable {field : Field} {property : Property}

/-- A property refers to the name in the type of the field, and to nothing else. -/
theorem hasEntry_iff (h : (field.property []).result = .ok property)
    (hconstants : ∀ directive ∈ field.directives, directive.IsConstant) :
    HasEntry "$ref" reference (.object property.schema) ↔
      ∃ name, field.type.base? = some name ∧ reference = Reference.toDefinition name := by
  obtain ⟨type, keywords, htype, hkeywords, honly, heq⟩ := exists_keywords h
  rw [heq]
  constructor
  · intro hentry
    rw [← TypeRef.hasEntry_iff htype]
    have hlacks : ∀ entry ∈ (.text "title", .text field.name) :: keywords,
        Lacks "$ref" entry.2 := by
      refine List.forall_mem_cons.mpr ⟨lacks_text _, fun entry hentry => ?_⟩
      rcases mem_directiveKeywords hkeywords hentry with hnil | ⟨directive, hmem, -, hentry⟩
      · cases hnil
      obtain ⟨argument, hargument, hkeyword⟩ := Directive.exists_argument hentry
      obtain ⟨key, taken, -, hcast, rfl⟩ := Argument.keyword_eq_ok hkeyword
      exact Keyword.lacks_settle
        (Keyword.lacks_cast (hconstants directive hmem argument hargument).lacks_ref hcast) _
    rcases hasEntry_object.mp hentry with hhere | ⟨entry, hmem, hinside⟩
    · rcases honly.mem_merge hhere with hmem | hmem
      · exact .here hmem
      · exact absurd hmem (honly.not_mem (by decide) reference)
    · rcases honly.mem_merge hmem with hmem | hmem
      · exact .entry hmem hinside
      · exact absurd hinside (hlacks entry hmem).not_hasEntry
  · rintro ⟨name, hbase, rfl⟩
    obtain ⟨hname, hbuiltin⟩ := TypeRef.base?_eq_some.mp hbase
    exact TypeRef.hasEntry_of_name? htype hname hbuiltin honly

end Field

/-! ## Definitions -/

namespace Definition

variable {definition : Definition} {body : Members}

/-- The name is the base of the type of the last field of some name, or that of a member, and it has
to be defined. -/
def Mentions (definition : Definition) (name : String) : Prop :=
  (∃ title field, definition.field? title = some field ∧ field.type.base? = some name) ∨
    ∃ member ∈ definition.members, member.base? = some name

/-- An object schema refers to what its properties do. -/
theorem hasEntry_objectEntries {name : String} {properties : List Property} {isInput : Bool} :
    HasEntry "$ref" reference (.object (objectEntries name properties isInput)) ↔
      HasEntry "$ref" reference (.object (Entries.ofPairs (properties.map fun property =>
        (Key.text property.name, propertySchema property)))) := by
  constructor
  · intro hentry
    rcases hasEntry_object.mp hentry with hhere | ⟨entry, hmem, hinside⟩
    · exact absurd hhere ((hasOnly_objectEntries _ _ _).not_mem (by decide) reference)
    · rw [objectEntries_eq] at hmem
      simp only [List.mem_append, List.mem_cons, List.not_mem_nil, or_false] at hmem
      rcases hmem with ((rfl | rfl | rfl) | hmem) | hmem
      · exact absurd hinside not_hasEntry_text
      · exact absurd hinside not_hasEntry_text
      · exact hinside
      · split_ifs at hmem
        · cases hmem
        · obtain rfl := List.mem_singleton.mp hmem
          obtain ⟨item, hitem, hinside⟩ := hasEntry_list.mp hinside
          obtain ⟨title, -, rfl⟩ := List.mem_map.mp hitem
          exact absurd hinside not_hasEntry_text
      · split_ifs at hmem
        · obtain rfl := List.mem_singleton.mp hmem
          cases hinside
        · cases hmem
  · exact fun hentry => .entry (mem_objectEntries name properties isInput) hentry

theorem hasEntry_objectSchema_iff {name : String} {fields : List Field} {isInput : Bool}
    (h : (objectSchema name fields isInput []).result = .ok body)
    (hnames : ∀ field ∈ fields, Token.IsName field.name)
    (hconstants : ∀ field ∈ fields, ∀ directive ∈ field.directives, directive.IsConstant) :
    HasEntry "$ref" reference (.object body) ↔
      ∃ name, (∃ title field, (fields.filter (·.name == title)).getLast? = some field ∧
        field.type.base? = some name) ∧ reference = Reference.toDefinition name := by
  obtain ⟨properties, hproperties, hbody⟩ := objectSchema_eq_ok h
  have hschemas := mem_objectEntries name properties isInput
  rw [← hbody] at hschemas
  have hmem := mem_properties_of_objectSchema h hschemas
  have hfield {title : String} {field : Field}
      (hlast : (fields.filter (·.name == title)).getLast? = some field) :
      field ∈ fields := List.mem_of_mem_filter (List.mem_of_getLast? hlast)
  rw [hbody, hasEntry_objectEntries, hasEntry_object]
  constructor
  · rintro (hhere | ⟨⟨key, value⟩, hentry, hinside⟩)
    · obtain ⟨field, hmem, property, hproperty, heq⟩ :=
        exists_field_of_objectSchema h hschemas hhere
      obtain ⟨type, keywords, -, -, rfl⟩ := Field.property_eq_ok hproperty
      exact absurd (Key.text.inj (Prod.mk.inj heq).1).symm (hnames field hmem).ne_ref
    · obtain ⟨field, -, property, -, heq⟩ := exists_field_of_objectSchema h hschemas hentry
      cases heq
      obtain ⟨field, hlast, property, hproperty, heq⟩ := (hmem _ _).mp hentry
      rw [heq, Field.hasEntry_iff hproperty (hconstants field (hfield hlast))] at hinside
      obtain ⟨name, hbase, href⟩ := hinside
      exact ⟨name, ⟨_, field, hlast, hbase⟩, href⟩
  · rintro ⟨name, ⟨title, field, hlast, hbase⟩, rfl⟩
    obtain ⟨property, -, hproperty⟩ := exists_mem_of_forall₂
      (Conversion.forall₂_of_mapM hproperties).flip (hfield hlast)
    exact .inr ⟨_, (hmem title _).mpr ⟨field, hlast, property, hproperty, rfl⟩,
      (Field.hasEntry_iff hproperty (hconstants field (hfield hlast))).mpr ⟨name, hbase, rfl⟩⟩

theorem hasEntry_union_iff {name : String} {directives : List Directive} {members : List TypeRef}
    (h : ((union name directives members).schema []).result = .ok body) :
    HasEntry "$ref" reference (.object body) ↔
      ∃ other, (union name directives members).Mentions other ∧
        reference = Reference.toDefinition other := by
  obtain ⟨types, htypes, rfl⟩ := unionSchema_eq_ok h
  have hbeside := forall₂_of_mapM htypes
  constructor
  · intro hentry
    rcases hasEntry_object.mp hentry with hhere | ⟨entry, hmem, hinside⟩
    · exact absurd hhere ((hasOnly_unionEntries name types).not_mem (by decide) reference)
    · simp only [unionEntries, List.mem_cons, List.not_mem_nil, or_false] at hmem
      rcases hmem with rfl | rfl | rfl
      · exact absurd hinside not_hasEntry_text
      · exact absurd hinside not_hasEntry_text
      · obtain ⟨item, hitem, hinside⟩ := hasEntry_list.mp hinside
        obtain ⟨type, htype, rfl⟩ := List.mem_map.mp hitem
        obtain ⟨member, hmember, hresolve⟩ := exists_mem_of_forall₂ hbeside htype
        obtain ⟨other, hbase, href⟩ := (TypeRef.hasEntry_iff hresolve).mp hinside
        exact ⟨other, .inr ⟨member, hmember, hbase⟩, href⟩
  · rintro ⟨other, ⟨title, field, hlast, -⟩ | ⟨member, hmember, hbase⟩, rfl⟩
    · cases hlast
    · obtain ⟨type, htype, hresolve⟩ := exists_mem_of_forall₂ hbeside.flip hmember
      have hinside := (TypeRef.hasEntry_iff hresolve).mpr ⟨other, hbase, rfl⟩
      have hbranches : (Key.text "oneOf", Datum.list (types.map fun type => .object type.schema))
          ∈ unionEntries name types := by simp [unionEntries]
      exact .entry hbranches (hasEntry_list.mpr ⟨_, List.mem_map.mpr ⟨type, htype, rfl⟩, hinside⟩)

/-- A definition refers to what it mentions, and to nothing else. -/
theorem hasEntry_iff (h : (definition.schema []).result = .ok body)
    (hspelled : Parser.IsSpelled definition) :
    HasEntry "$ref" reference (.object body) ↔
      ∃ name, definition.Mentions name ∧ reference = Reference.toDefinition name := by
  have hnames : ∀ field ∈ definition.fields, Token.IsName field.name := fun field hfield =>
    (hspelled.fields field hfield).own
  have hconstants : ∀ field ∈ definition.fields, ∀ directive ∈ field.directives,
      directive.IsConstant := fun field hfield => (hspelled.fields field hfield).directives
  have hnothing (hfields : definition.fields = []) (hmembers : definition.members = [])
      (hlacks : Lacks "$ref" (.object body)) :
      HasEntry "$ref" reference (.object body) ↔
        ∃ name, definition.Mentions name ∧ reference = Reference.toDefinition name := by
    refine iff_of_false hlacks.not_hasEntry ?_
    rintro ⟨name, ⟨title, field, hlast, -⟩ | ⟨member, hmember, -⟩, -⟩
    · rw [field?, hfields] at hlast
      cases hlast
    · rw [hmembers] at hmember
      cases hmember
  cases definition with
  | scalar =>
    cases h
    exact hnothing rfl rfl (lacks_object.mpr (by simp [lacks_text]))
  | «enum» name directives values =>
    cases h
    exact hnothing rfl rfl (lacks_object.mpr (by simp [lacks_text, lacks_list]))
  | «union» name directives members =>
    exact hasEntry_union_iff h
  | object | «interface» | inputObject =>
    rw [hasEntry_objectSchema_iff h hnames hconstants]
    simp [Mentions, field?, fields, members]
  | directive | other => cases h

end Definition

/-! ## Documents -/

namespace Document

variable {document : Document} {schemaUri : Option String} {schema : Members}

/-- Some definition in force mentions the name. -/
def Mentions (document : Document) (name : String) : Prop :=
  ∃ title definition, document.inForce title = some definition ∧ definition.Mentions name

/-- The name is that of a definition that is not ignored. -/
def Defines (document : Document) (name : String) : Prop :=
  ∃ definition ∈ document, definition.isIgnored = false ∧ definition.typeName? = some name

/-- The keys of a schema document's definitions are the names of the definitions that are not
ignored. -/
theorem defines_iff (h : (document.schema { schemaUri }).result = .ok schema) {name : String} :
    document.Defines name ↔
      ∃ contents, Entries.find? (definitionsOf schema) (.text name) = some contents := by
  have hnames : document.Defines name ↔ name ∈ document.names := by
    simp [Defines, names, kept, List.mem_eraseDups, and_assoc]
  rw [hnames, ← Option.ne_none_iff_exists', ne_eq, Entries.find?_eq_none, keys_definitionsOf h,
    Bool.not_eq_false, List.any_eq_true]
  simp [Key.beq_text]

/-- A schema document refers to what its definitions in force mention, and to nothing else. -/
theorem hasEntry_iff {source : String} (hparse : parse? source = some document)
    (h : (document.schema { schemaUri }).result = .ok schema) (hne : schema ≠ []) :
    HasEntry "$ref" reference (.object schema) ↔
      ∃ name, document.Mentions name ∧ reference = Reference.toDefinition name := by
  have hspelled := isSpelled_of_parse? hparse
  obtain ⟨definitions, rfl, htext, hmem⟩ := exists_envelope h hne
  have hbody {title : String} {definition : Definition} {body : Members}
      (hforce : document.inForce title = some definition)
      (hbody : (definition.schema []).result = .ok body) :
      HasEntry "$ref" reference (.object body) ↔
        ∃ name, definition.Mentions name ∧ reference = Reference.toDefinition name :=
    Definition.hasEntry_iff hbody (hspelled definition (typeName?_of_inForce hforce).1)
  constructor
  · intro hentry
    -- The identifier of the dialect is no reference, and no definition is named like one.
    rcases hasEntry_object.mp hentry with hhere | ⟨entry, hmem', hinside⟩
    · simp [envelope] at hhere
    simp only [envelope, List.mem_cons, List.not_mem_nil, or_false] at hmem'
    rcases hmem' with rfl | rfl
    · cases schemaUri <;> cases hinside
    rcases hasEntry_object.mp hinside with hhere | ⟨⟨key, value⟩, hentry, hinside⟩
    · obtain ⟨definition, body, hforce, hschema, -⟩ := (hmem _ _).mp hhere
      have hname := (hspelled definition (typeName?_of_inForce hforce).1).own "$ref"
        (typeName?_of_inForce hforce).2
      exact absurd rfl hname.ne_ref
    · obtain ⟨title, hkey⟩ := htext _ hentry
      cases hkey
      obtain ⟨definition, body, hforce, hschema, rfl⟩ := (hmem title value).mp hentry
      obtain ⟨name, hmentions, href⟩ := (hbody hforce hschema).mp hinside
      exact ⟨name, ⟨title, definition, hforce, hmentions⟩, href⟩
  · rintro ⟨name, ⟨title, definition, hforce, hmentions⟩, rfl⟩
    obtain ⟨definitions', -, hrenders⟩ := renders_of_schema h hforce
    obtain ⟨body, hschema, -⟩ := hrenders.find?_of_inForce hforce
    have hinside := (hbody hforce hschema).mpr ⟨name, hmentions, rfl⟩
    have hdefinitions : (Key.text "definitions", Datum.object definitions)
        ∈ envelope schemaUri definitions := by simp [envelope]
    exact .entry hdefinitions
      (.entry ((hmem title _).mpr ⟨definition, body, hforce, hschema, rfl⟩) hinside)

theorem Mentions.isBuiltin_eq_false {name : String} (h : document.Mentions name) :
    TypeRef.isBuiltin name = false := by
  obtain ⟨title, definition, -, ⟨_, field, -, hbase⟩ | ⟨member, -, hbase⟩⟩ := h
  · exact (TypeRef.base?_eq_some.mp hbase).2
  · exact (TypeRef.base?_eq_some.mp hbase).2

/-- The references in the schema document of a parsed document are those to definitions of names
that are not builtin. All of them lead to definitions just if every name that is mentioned is
defined: mentioned as the base of the type of a field, in the last definition of its name and there
as the last field of its name, or as a member of a union, in the last definition of its name; and
defined by a definition that is not ignored. -/
theorem references_resolve_iff {source : String} (hparse : parse? source = some document)
    (h : (document.schema { schemaUri }).result = .ok schema) (hne : schema ≠ []) :
    (∀ reference, HasEntry "$ref" reference (.object schema) → ∃ name,
      reference = .text ("#/definitions/" ++ name) ∧ TypeRef.isBuiltin name = false) ∧
    (∀ name, (∃ contents, Entries.find? (definitionsOf schema) (.text name) = some contents) ↔
      document.Defines name) ∧
    ((∀ name, HasEntry "$ref" (.text ("#/definitions/" ++ name)) (.object schema) →
        ∃ contents, Entries.find? (definitionsOf schema) (.text name) = some contents) ↔
      ∀ name, document.Mentions name → document.Defines name) := by
  refine ⟨fun reference href => ?_, fun name => (defines_iff h).symm, fun hresolves name hname => ?_,
    fun hdefined name href => ?_⟩
  · obtain ⟨name, hmentions, rfl⟩ := (hasEntry_iff hparse h hne).mp href
    exact ⟨name, rfl, hmentions.isBuiltin_eq_false⟩
  · exact (defines_iff h).mpr
      (hresolves name ((hasEntry_iff hparse h hne).mpr ⟨name, hname, rfl⟩))
  · obtain ⟨other, hmentions, heq⟩ := (hasEntry_iff hparse h hne).mp href
    obtain rfl : name = other := Schema.toDefinition_inj heq
    exact (defines_iff h).mp (hdefined name hmentions)

/-- A field whose type was replaced: the type that is left counts, and it is not defined. -/
theorem unresolved_reference_of_last_field :
    ∃ document schema, parse? "type A { b: A b: B }" = some document ∧
      (document.schema {}).result = .ok schema ∧
      ¬∀ name, HasEntry "$ref" (.text ("#/definitions/" ++ name)) (.object schema) →
        ∃ contents, Entries.find? (definitionsOf schema) (.text name) = some contents := by
  let document : Document := [.object "A" [] []
    [⟨⟨"b", .named "A", none, []⟩, []⟩, ⟨⟨"b", .named "B", none, []⟩, []⟩]]
  have hparse : parse? "type A { b: A b: B }" = some document := by cbv
  refine ⟨document, _, hparse, rfl, fun hresolves => ?_⟩
  have hdefined := (references_resolve_iff hparse rfl (by simp)).2.2.mp hresolves "B"
    ⟨"A", _, rfl, .inl ⟨"b", _, rfl, rfl⟩⟩
  obtain ⟨definition, hmem, -, hname⟩ := hdefined
  obtain rfl := List.mem_singleton.mp hmem
  exact absurd (Option.some.inj hname) (by decide)

end Document

end SchemaBridge
