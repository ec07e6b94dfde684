import Mathlib
import SchemaBridge.Proofs.Contents
import SchemaBridge.Proofs.Rounding

/-!
# Schema documents as plain JSON

JSON has no infinities, no numbers that stand nowhere, and no mark for an absent value. Keywords
whose values are numbers or booleans never get one of these, whatever the argument of a directive
is. Other keywords take the value of an argument as it stands, and so a schema document is plain
JSON just if these values are.

* `Datum.isJson`: a test for plain JSON.
* `Keyword.isJson_of_cast`: what is cast to a number or a boolean is plain JSON.
* `Field.isJson_property_iff`, `Definition.isJson_schema_iff`: properties and definitions.
* `Document.isJson_iff_given`: schema documents.
* `Document.isJson_fails_for_infinity`: an infinity under a keyword for expressions is emitted.
-/

namespace SchemaBridge

/-! ## Plain JSON -/

namespace Datum

mutual

/-- The value is made of null, booleans, finite numbers, texts, lists, and objects with texts as
keys. -/
def isJson : Datum → Bool
  | .null | .bool _ | .text _ => true
  | .number value => value.isFinite
  | .list items => areJson items
  | .object entries => holdJson entries
  | .tuple _ | .bytes _ | .undefined => false

/-- All the items are plain JSON. -/
def areJson : List Datum → Bool
  | [] => true
  | item :: items => isJson item && areJson items

/-- All the entries have texts as keys and values that are plain JSON. -/
def holdJson : List (Key × Datum) → Bool
  | [] => true
  | (.text _, value) :: entries => isJson value && holdJson entries
  | _ :: _ => false

end

variable {items : List Datum} {entries added : Members} {name : String} {value : Datum}

@[simp] theorem isJson_text (text : String) : isJson (.text text) = true := by rw [isJson]

@[simp] theorem isJson_bool (value : Bool) : isJson (.bool value) = true := by rw [isJson]

@[simp] theorem isJson_null : isJson .null = true := by rw [isJson]

@[simp] theorem isJson_list : isJson (.list items) = true ↔ ∀ item ∈ items, isJson item = true := by
  rw [isJson]
  induction items with
  | nil => simp [areJson]
  | cons item items ih => simp [areJson, ih]

theorem isJson_object : isJson (.object entries) = true ↔
    ∀ entry ∈ entries, (∃ name, entry.1 = .text name) ∧ isJson entry.2 = true := by
  rw [isJson]
  induction entries with
  | nil => simp [holdJson]
  | cons entry entries ih =>
    obtain ⟨key, value⟩ := entry
    cases key <;> simp [holdJson, ih]

/-- An object with texts as keys. -/
theorem isJson_object_of_text (htext : ∀ entry ∈ entries, ∃ name, entry.1 = .text name) :
    isJson (.object entries) = true ↔
      ∀ name value, (.text name, value) ∈ entries → isJson value = true := by
  rw [isJson_object]
  constructor
  · exact fun h name value hmem => (h _ hmem).2
  · rintro h ⟨key, value⟩ hmem
    obtain ⟨name, hkey⟩ := htext _ hmem
    cases hkey
    exact ⟨⟨name, rfl⟩, h name value hmem⟩

theorem isJson_insert (h : isJson (.object entries) = true) (name : String)
    (hvalue : isJson value = true) :
    isJson (.object (Entries.insert entries (.text name) value)) = true := by
  rw [isJson_object] at h ⊢
  intro entry hentry
  rcases Entries.mem_insert hentry with hmem | ⟨hnew, hkey⟩
  · exact h entry hmem
  · rw [Key.beq_text, or_self] at hkey
    exact ⟨⟨name, hkey⟩, hnew ▸ hvalue⟩

/-- After a merge, an object is plain JSON if it was before and what was written last is. -/
theorem isJson_merge (h : isJson (.object entries) = true)
    (htext : ∀ entry ∈ added, ∃ name, entry.1 = .text name)
    (hadded : ∀ name value, Entries.find? added.reverse (.text name) = some value →
      isJson value = true) :
    isJson (.object (Entries.merge entries added)) = true := by
  rw [isJson_object] at h ⊢
  rintro ⟨key, value⟩ hentry
  rw [← Entries.merge_ofPairs] at hentry
  have hkeys : ∀ entry ∈ Entries.ofPairs added, ∃ name, entry.1 = .text name := by
    intro entry hentry
    rcases Entries.mem_merge hentry with hnil | ⟨pair, hpair, -, hkey⟩
    · cases hnil
    · obtain ⟨name, hname⟩ := htext pair hpair
      rw [hname, Key.beq_text, or_self] at hkey
      exact ⟨name, hkey⟩
  rcases Entries.mem_merge hentry with hmem | ⟨⟨key', value'⟩, hpair, rfl, hkey⟩
  · exact h _ hmem
  · obtain ⟨name, hname⟩ := hkeys _ hpair
    cases hname
    rw [Key.beq_text, or_self] at hkey
    exact ⟨⟨name, hkey⟩, hadded name _ (Entries.mem_ofPairs_iff.mp hpair)⟩

end Datum

open Datum

/-! ## Keywords -/

theorem Number.isFinite_normal {number : Number} (h : number.isFinite = true) :
    number.normal.isFinite = true := by
  cases number with
  | int => exact h
  | float value =>
    cases value with
    | finite x =>
      rw [normal]
      split_ifs <;> rfl
    | _ => exact h

namespace Keyword

variable {jsonType keyword key : String} {value taken : Datum}

/-- Every other keyword has numbers or booleans as values. -/
theorem of_not_given (h : key? jsonType keyword = some key) (hgiven : key ∉ given) :
    keyword ∈ numeric ∨ keyword ∈ boolean := by
  have hstandard : ∀ row ∈ standard, ∀ name ∈ row.2, name ∉ given →
      name ∈ numeric ∨ name ∈ boolean := by decide
  have hextended : ∀ row ∈ extended, ∀ name ∈ row.2, extendedPrefix ++ name ∈ given := by decide
  rcases exists_row_of_key? h with ⟨row, hrow, hmem, rfl⟩ | ⟨row, hrow, hmem, rfl⟩
  · exact hstandard row hrow _ hmem hgiven
  · exact absurd (hextended row hrow _ hmem) hgiven

theorem isJson_settle (h : isJson taken = true) : isJson (settle jsonType taken) = true := by
  unfold settle
  split
  · split_ifs
    · rw [Datum.int, isJson]
      rfl
    · exact h
  · exact h

/-- What is cast to a number or a boolean is plain JSON. -/
theorem isJson_of_cast (hkeyword : keyword ∈ numeric ∨ keyword ∈ boolean)
    (h : cast keyword value = .ok taken) : isJson taken = true := by
  rcases hkeyword with hnumeric | hboolean
  · obtain ⟨number, hfinite, rfl⟩ := cast_numeric hnumeric h
    rw [isJson]
    exact Number.isFinite_normal hfinite
  · obtain ⟨choice, rfl⟩ := cast_boolean hboolean h
    exact isJson_bool choice

end Keyword

/-! ## Types and fields -/

theorem TypeRef.isJson_resolve {type : TypeRef} {inList : Bool} {resolved : TypeSchema}
    (h : type.resolve inList = .ok resolved) : isJson (.object resolved.schema) = true := by
  induction type generalizing inList resolved with
  | named name =>
    cases h
    rw [nameSchema, isJson_object]
    split
    · simp
    · split
      · simp
      · cases inList <;> simp
  | list item ih =>
    obtain ⟨type, hitem, rfl⟩ := resolve_eq_ok_list h
    rw [isJson_object]
    simp [ih hitem]
  | nonNull inner ih =>
    obtain ⟨type, hinner, rfl⟩ := resolve_eq_ok_nonNull h
    have hjson := ih hinner
    exact hjson
  | other kind => cases h

namespace Field

variable {field : Field} {property : Property}

/-- The values that a field is given are plain JSON, where they are taken as they stand. -/
def GivesJson (field : Field) : Prop :=
  ∀ key ∈ Keyword.given, ∀ argument, field.given? key = some argument →
    isJson argument.value.value = true

/-- A property is plain JSON just if the values are that its field is given. -/
theorem isJson_property_iff (h : (field.property []).result = .ok property)
    (hconstants : ∀ directive ∈ field.directives, directive.IsConstant) :
    isJson (.object property.schema) = true ↔ field.GivesJson := by
  obtain ⟨type, htype, rfl⟩ := property_eq_written h
  dsimp only
  constructor
  · intro hjson key hgiven argument hargument
    have hfind : Entries.find? (Entries.merge (Entries.insert type.schema "title" (.text field.name))
        field.contributions) (.text key) = some argument.value.value := by
      rw [Entries.find?_merge, find?_contributions hconstants hgiven, hargument]
      rfl
    exact (isJson_object.mp hjson _ (Schema.mem_of_find?_text hfind)).2
  · intro hgives
    have hcontributed : ∀ entry ∈ field.contributions, ∃ argument : Argument, ∃ key taken,
        argument.key? field.jsonType? = some key ∧
        Keyword.cast (Keyword.meant (field.jsonType?.getD "") argument.name) argument.value.value
          = .ok taken ∧
        entry = (.text key, Keyword.settle (field.jsonType?.getD "") taken) := by
      intro entry hentry
      obtain ⟨argument, -, hkeyword⟩ := exists_argument hentry
      exact ⟨argument, Argument.keyword_eq_ok hkeyword⟩
    refine isJson_merge (isJson_insert (TypeRef.isJson_resolve htype) "title" (isJson_text _))
      (fun entry hentry => ?_) fun key value hfind => ?_
    · obtain ⟨argument, key, taken, -, -, rfl⟩ := hcontributed entry hentry
      exact ⟨key, rfl⟩
    · by_cases hgiven : key ∈ Keyword.given
      · rw [find?_contributions hconstants hgiven] at hfind
        obtain ⟨argument, hargument, rfl⟩ := Option.map_eq_some_iff.mp hfind
        exact hgives key hgiven argument hargument
      · obtain ⟨argument, key', taken, hkey, hcast, heq⟩ := hcontributed _
          (List.mem_reverse.mp (Schema.mem_of_find?_text hfind))
        cases heq
        exact Keyword.isJson_settle
          (Keyword.isJson_of_cast (Keyword.of_not_given hkey hgiven) hcast)

end Field

/-! ## Definitions and documents -/

namespace Definition

variable {definition : Definition} {body : Members}

theorem isJson_objectEntries (name : String) (properties : List Property) (isInput : Bool) :
    isJson (.object (objectEntries name properties isInput)) = true ↔
      isJson (.object (Entries.ofPairs (properties.map fun property =>
        (Key.text property.name, propertySchema property)))) = true := by
  have hrequired : isJson (.list (((properties.filter (·.required)).map (·.name)).map .text))
      = true := isJson_list.mpr (List.forall_mem_map.mpr fun name _ => isJson_text name)
  rw [objectEntries_eq, isJson_object]
  simp only [List.forall_mem_append]
  constructor
  · rintro ⟨⟨h, -⟩, -⟩
    exact (h (Key.text "properties", _) (by simp)).2
  · intro h
    refine ⟨⟨by simp [h], ?_⟩, ?_⟩
    · split_ifs
      · exact fun _ h => absurd h List.not_mem_nil
      · exact List.forall_mem_singleton.mpr ⟨⟨_, rfl⟩, hrequired⟩
    · split_ifs <;> simp

theorem isJson_objectSchema_iff {name : String} {fields : List Field} {isInput : Bool}
    (h : (objectSchema name fields isInput []).result = .ok body)
    (hconstants : ∀ field ∈ fields, ∀ directive ∈ field.directives, directive.IsConstant) :
    isJson (.object body) = true ↔
      ∀ title field, (fields.filter (·.name == title)).getLast? = some field →
        field.GivesJson := by
  obtain ⟨properties, hproperties, hbody⟩ := objectSchema_eq_ok h
  have hschemas := mem_objectEntries name properties isInput
  rw [← hbody] at hschemas
  have hmem := mem_properties_of_objectSchema h hschemas
  have htext : ∀ entry ∈ Entries.ofPairs (properties.map fun property =>
      (Key.text property.name, propertySchema property)), ∃ name, entry.1 = .text name := by
    intro entry hentry
    obtain ⟨field, -, property, -, rfl⟩ := exists_field_of_objectSchema h hschemas hentry
    exact ⟨property.name, rfl⟩
  have hconstant {title : String} {field : Field}
      (hlast : (fields.filter (·.name == title)).getLast? = some field) :
      field ∈ fields := List.mem_of_mem_filter (List.mem_of_getLast? hlast)
  rw [hbody, isJson_objectEntries, isJson_object_of_text htext]
  constructor
  · intro hjson title field hlast
    obtain ⟨property, -, hproperty⟩ := exists_mem_of_forall₂
      (Conversion.forall₂_of_mapM hproperties).flip (hconstant hlast)
    exact (Field.isJson_property_iff hproperty (hconstants field (hconstant hlast))).mp
      (hjson title _ ((hmem title _).mpr ⟨field, hlast, property, hproperty, rfl⟩))
  · intro hgives title value hentry
    obtain ⟨field, hlast, property, hproperty, rfl⟩ := (hmem _ _).mp hentry
    exact (Field.isJson_property_iff hproperty (hconstants field (hconstant hlast))).mpr
      (hgives title field hlast)

/-- The schema of a definition is plain JSON just if the values are that the last field of each name
is given. -/
theorem isJson_schema_iff (h : (definition.schema []).result = .ok body)
    (hconstants : ∀ field ∈ definition.fields, ∀ directive ∈ field.directives,
      directive.IsConstant) :
    isJson (.object body) = true ↔
      ∀ title field, definition.field? title = some field → field.GivesJson := by
  have hfieldless (hfields : definition.fields = []) (hjson : isJson (.object body) = true) :
      isJson (.object body) = true ↔
        ∀ title field, definition.field? title = some field → field.GivesJson := by
    refine iff_of_true hjson fun title field hlast => ?_
    rw [field?, hfields] at hlast
    cases hlast
  cases definition with
  | scalar =>
    cases h
    exact hfieldless rfl (by rw [isJson_object]; simp)
  | «enum» name directives values =>
    cases h
    exact hfieldless rfl (by rw [isJson_object]; simp)
  | «union» name directives members =>
    obtain ⟨types, htypes, rfl⟩ := unionSchema_eq_ok h
    have hmembers : isJson (.list (types.map fun type => .object type.schema)) = true := by
      refine isJson_list.mpr (List.forall_mem_map.mpr fun type htype => ?_)
      obtain ⟨member, -, hmember⟩ := exists_mem_of_forall₂ (forall₂_of_mapM htypes) htype
      exact TypeRef.isJson_resolve hmember
    exact hfieldless rfl (by rw [unionEntries, isJson_object]; simp [hmembers])
  | object | «interface» | inputObject => exact isJson_objectSchema_iff h hconstants
  | directive | other => cases h

end Definition

namespace Document

/-- The schema document of a document that was parsed is plain JSON just if the values are that its
directives give for patterns and formats, where they count: in the definitions in force, on the last
field of each name, in the last argument for a keyword. -/
theorem isJson_iff_given {source : String} {document : Document} {schemaUri : Option String}
    {schema : Members} (hparse : parse? source = some document)
    (hschema : (document.schema { schemaUri }).result = .ok schema) :
    isJson (.object schema) = true ↔
      ∀ name definition, document.inForce name = some definition →
        ∀ title field, definition.field? title = some field →
          ∀ key ∈ Keyword.given, ∀ argument, field.given? key = some argument →
            isJson argument.value.value = true := by
  have hspelled := isSpelled_of_parse? hparse
  by_cases hnil : schema = []
  · subst hnil
    refine iff_of_true (by rw [isJson_object]; simp) fun name definition hforce => ?_
    obtain ⟨definitions, hdefinitions, -⟩ := renders_of_schema hschema hforce
    cases hdefinitions
  obtain ⟨definitions, rfl, htext, hmem⟩ := exists_envelope hschema hnil
  have huri : isJson (schemaUri.elim Datum.null Datum.text) = true := by
    cases schemaUri <;> simp
  have hbody {name : String} {definition : Definition} {body : Members}
      (hforce : document.inForce name = some definition)
      (hbody : (definition.schema []).result = .ok body) :
      isJson (.object body) = true ↔
        ∀ title field, definition.field? title = some field → field.GivesJson := by
    have hdefinition := hspelled definition (typeName?_of_inForce hforce).1
    exact Definition.isJson_schema_iff hbody fun field hfield =>
      (hdefinition.fields field hfield).directives
  have henvelope : isJson (.object (envelope schemaUri definitions)) = true ↔
      isJson (.object definitions) = true := by
    rw [envelope, isJson_object]
    simp [huri]
  rw [henvelope, isJson_object_of_text htext]
  constructor
  · intro hjson name definition hforce
    obtain ⟨definitions', -, hrenders⟩ := renders_of_schema hschema hforce
    obtain ⟨body, hschema', -⟩ := hrenders.find?_of_inForce hforce
    exact (hbody hforce hschema').mp
      (hjson name _ ((hmem name _).mpr ⟨definition, body, hforce, hschema', rfl⟩))
  · intro hgives name value hentry
    obtain ⟨definition, body, hforce, hschema', rfl⟩ := (hmem name value).mp hentry
    exact (hbody hforce hschema').mpr (hgives name definition hforce)

/-- An infinity that is given for a bound is left out. -/
theorem isJson_with_infinite_bound :
    ∃ document schema,
      parse? "type T { a: String @validate(pattern: a, max: 1e999) }" = some document ∧
      (document.schema {}).result = .ok schema ∧ isJson (.object schema) = true := by
  let field : Field := ⟨⟨"a", .named "String", none,
    [⟨"validate", [⟨"pattern", .enum "a"⟩, ⟨"max", .float "1e999"⟩]⟩]⟩, []⟩
  have hparse : parse? "type T { a: String @validate(pattern: a, max: 1e999) }"
      = some [.object "T" [] [] [field]] := by cbv
  refine ⟨_, _, hparse, rfl, (isJson_iff_given hparse rfl).mpr ?_⟩
  intro name definition hforce title field' hfield key hgiven argument hargument
  obtain rfl := List.mem_singleton.mp (typeName?_of_inForce hforce).1
  obtain rfl := List.mem_singleton.mp (Definition.field?_mem hfield).1
  obtain ⟨hmem, hkey⟩ := List.mem_filter.mp (List.mem_of_getLast? hargument)
  have hcases : argument = ⟨"pattern", .enum "a"⟩ ∨ argument = ⟨"max", .float "1e999"⟩ := by
    simpa [Field.validations, field, Directive.validate] using hmem
  rcases hcases with rfl | rfl
  · rfl
  · have hbound : Argument.key? ⟨"max", .float "1e999"⟩ field.jsonType? = some "maxLength" := by
      decide
    rw [hbound, beq_iff_eq, Option.some.injEq] at hkey
    subst hkey
    exact absurd hgiven (by decide)

/-- Not every document becomes plain JSON: an infinity is emitted where a pattern is wanted. -/
theorem isJson_fails_for_infinity :
    ¬∀ (source : String) (document : Document) (schema : Members),
      parse? source = some document → (document.schema {}).result = .ok schema →
        isJson (.object schema) = true := by
  intro h
  let document : Document := [.object "T" [] [] [⟨⟨"a", .named "String", none,
    [⟨"validate", [⟨"pattern", .float "1e999"⟩]⟩]⟩, []⟩]]
  have hparse : parse? "type T { a: String @validate(pattern: 1e999) }" = some document := by cbv
  have hschema : (document.schema {}).result = .ok [("$schema", .text Dialect.draft04),
      ("definitions", .object [("T", .object [("title", .text "T"), ("type", .text "object"),
        ("properties", .object [("a", .object [("type", .text "string"), ("title", .text "a"),
          ("pattern", .number (.float (.infinite false)))])])])])] := by rfl
  have hjson := h _ _ _ hparse hschema
  revert hjson
  decide

end Document

end SchemaBridge
