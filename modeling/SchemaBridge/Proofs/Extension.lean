import Mathlib
import SchemaBridge.Proofs.Definitions
import SchemaBridge.Proofs.Envelope
import SchemaBridge.Proofs.Strictness

/-!
# Extending is conservative

The keyword for formats of list items is the only one that an extended registry reads and a registry
without keywords does not. So the two answer alike for every schema in which nothing stands under
that keyword. A document has it only if something in the document is named so, or if the builtin
directive gives a list a format.

* `Registry.exists_reads_runAll`: what a registry reads that has only been extended.
* `Registry.answers_of_lacks`: the two registries answer alike if the keyword is not there.
* `Keyword.key?_eq_extended`: which arguments mean the keyword.
* `Document.lacks_of_schema`: where the schema document of a document does not have it.
* `Registry.extending_is_conservative`: extending a registry changes no other answers.
-/

namespace SchemaBridge

open Datum

/-! ## Registries that have only been extended -/

namespace Registry

open Schema

/-- No keyword is added by hand. -/
def OnlyExtends (operations : List Operation) : Prop :=
  ∀ name definition, Operation.addKeyword name definition ∉ operations

variable {operations : List Operation} {registry : Registry} {checks : Table Check}

theorem eq_extendedFormat_of_mem (h : OnlyExtends operations)
    {entry : String × KeywordDefinition} (hentry : entry ∈ registrations operations) :
    ∃ strict, entry = (ExtendedFormat.keyword, .extendedFormat strict) := by
  obtain ⟨operation, hmem, hregistered⟩ := List.mem_filterMap.mp hentry
  cases operation with
  | addKeyword name definition => exact absurd hmem (h name definition)
  | extend strict =>
    cases hregistered
    exact ⟨strict, rfl⟩
  | _ => cases hregistered

/-- Writing the keyword again and again leaves one definition of it. -/
theorem merge_registrations (h : OnlyExtends operations) :
    Entries.merge [] (registrations operations) = [] ∨ ∃ strict,
      Entries.merge [] (registrations operations)
        = [(ExtendedFormat.keyword, .extendedFormat strict)] := by
  have hmem (entry : String × KeywordDefinition) :
      entry ∈ registrations operations → ∃ strict,
        entry = (ExtendedFormat.keyword, .extendedFormat strict) := eq_extendedFormat_of_mem h
  generalize registrations operations = found at hmem
  induction found using List.reverseRecOn with
  | nil => exact .inl rfl
  | append_singleton before entry ih =>
    obtain ⟨strict, rfl⟩ := hmem entry (List.mem_append_right _ List.mem_cons_self)
    rw [Entries.merge_append]
    rcases ih fun entry hentry => hmem entry (List.mem_append_left _ hentry) with
      hnil | ⟨strict', hsingle⟩
    · rw [hnil]
      exact .inr ⟨strict, rfl⟩
    · rw [hsingle]
      exact .inr ⟨strict, by simp [Entries.merge, Entries.insert]⟩

/-- A registry that has only been extended reads the further keyword, if that. -/
theorem exists_reads_runAll (h : OnlyExtends operations) :
    ∃ checks, (runAll {} operations).Reads checks := by
  have hcoherent := coherent_runAll_empty operations
  have hmade {found : Table Check} (hfound : Registry.checks (runAll {} operations).keywords = .ok found) :
      ∃ made, (runAll {} operations).validatorClass.1 = .ok made ∧ made.checks = found := by
    have hmap := hcoherent.map_validatorClass
    rw [hfound] at hmap
    cases hclass : (runAll {} operations).validatorClass.1 with
    | error fault =>
      rw [hclass] at hmap
      cases hmap
    | ok made =>
      rw [hclass] at hmap
      cases hmap
      exact ⟨made, rfl, rfl⟩
  have hkeywords := keywords_runAll {} operations
  rcases merge_registrations h with hnil | ⟨strict, hsingle⟩
  · exact ⟨_, hmade (by rw [hkeywords, hnil]; rfl), fun _ _ => rfl⟩
  · refine ⟨_, hmade (by rw [hkeywords, hsingle]; rfl), fun name hname => ?_⟩
    simp [Entries.find?, Ne.symm hname]

theorem Reads.validator_fst (hreads : registry.Reads checks) (schema : Datum) :
    (registry.validator schema).1
      = (Library.ofRoot schema).map fun library => ⟨checks, library⟩ := by
  obtain ⟨⟨made, hmade, rfl⟩, -⟩ := hreads
  have hclass : registry.validatorClass = (.ok made, registry.validatorClass.2) :=
    Prod.ext hmade rfl
  rw [Registry.validator, hclass]

/-! ## Schemas without the keyword -/

/-- For a schema without the keyword, the two registries make validators that answer alike. -/
theorem Reads.answers_of_lacks (hreads : registry.Reads checks) {schema : Datum}
    (hlacks : Lacks ExtendedFormat.keyword schema) :
    answers (registry.validator schema).1 = answers (({} : Registry).validator schema).1 := by
  rw [hreads.validator_fst, reads_empty.validator_fst]
  cases hlibrary : Library.ofRoot schema with
  | error fault => rfl
  | ok library =>
    have halike : ChecksAlike (fun _ => False) ExtendedFormat.keyword schema
        ⟨checks, library⟩ ⟨[], library⟩ := by
      refine ⟨rfl, Library.isConfined_ofRoot hlibrary, fun keyword value hstands => ?_⟩
      by_cases hkeyword : keyword = ExtendedFormat.keyword
      · exact absurd (hstands hkeyword) (hlacks value)
      · dsimp only
        rw [hreads.silent keyword hkeyword]
        exact .none
    have hroot := Library.root_ofRoot hlibrary
    have hisValid : Validator.isValid ⟨checks, library⟩ = Validator.isValid ⟨[], library⟩ :=
      funext fun data => (Validator.isValid_sameUnless halike hroot data).eq_of_not_excused
        fun _ => id
    have hviolations : Validator.violations ⟨checks, library⟩ = Validator.violations ⟨[], library⟩ :=
      funext fun data => (Validator.violations_sameUnless halike hroot data).eq_of_not_excused
        fun _ => id
    rw [Except.map, Except.map, answers, answers, Except.map, Except.map, hisValid, hviolations]

end Registry

/-! ## Constants -/

namespace Literal

/-- In some object in the literal, a field has the name. -/
inductive HasField (name : String) : Literal → Prop
  | here {value : Literal} {fields : List (String × Literal)} (hmem : (name, value) ∈ fields) :
      HasField name (.object fields)
  | field {key : String} {value : Literal} {fields : List (String × Literal)}
      (hmem : (key, value) ∈ fields) (h : HasField name value) : HasField name (.object fields)
  | item {value : Literal} {items : List Literal} (hmem : value ∈ items)
      (h : HasField name value) : HasField name (.list items)

variable {name : String}

mutual

/-- What a literal stands for has no other names than those of its fields. -/
theorem lacks_value (literal : Literal) (h : ¬HasField name literal) :
    Lacks name literal.value := by
  match literal with
  | .list items =>
    rw [value]
    exact lacks_list.mpr (lacks_values items fun item hitem hfield => h (.item hitem hfield))
  | .object fields =>
    rw [value]
    refine lacks_ofPairs (lacks_object.mpr (lacks_fieldValues fields fun field hfield => ⟨?_, ?_⟩))
    · rintro rfl
      exact h (.here hfield)
    · exact fun hinside => h (.field hfield hinside)
  | .int spelling =>
    rw [value]
    split <;> exact lacks_of_flat fun _ h => by cases h
  | .variableUse _ | .other _ | .float _ | .text _ | .boolean _ | .null | .enum _ =>
    rw [value]
    exact lacks_of_flat fun _ h => by cases h

theorem lacks_values (items : List Literal) (h : ∀ item ∈ items, ¬HasField name item) :
    ∀ value ∈ values items, Lacks name value := by
  match items with
  | [] =>
    rw [values]
    exact fun _ h => absurd h List.not_mem_nil
  | item :: rest =>
    rw [values]
    obtain ⟨hitem, hrest⟩ := List.forall_mem_cons.mp h
    exact List.forall_mem_cons.mpr ⟨lacks_value item hitem, lacks_values rest hrest⟩

theorem lacks_fieldValues (fields : List (String × Literal))
    (h : ∀ field ∈ fields, field.1 ≠ name ∧ ¬HasField name field.2) :
    ∀ entry ∈ fieldValues fields, entry.1 ≠ .text name ∧ Lacks name entry.2 := by
  match fields with
  | [] =>
    rw [fieldValues]
    exact fun _ h => absurd h List.not_mem_nil
  | (key, field) :: rest =>
    rw [fieldValues]
    obtain ⟨⟨hkey, hfield⟩, hrest⟩ := List.forall_mem_cons.mp h
    refine List.forall_mem_cons.mpr ⟨⟨fun heq => hkey ?_, lacks_value field hfield⟩,
      lacks_fieldValues rest hrest⟩
    cases heq
    rfl

end

end Literal

/-! ## Keywords -/

/-- Only a format of a list means the further keyword. -/
theorem Keyword.key?_eq_extended {jsonType keyword : String}
    (h : key? jsonType keyword = some ExtendedFormat.keyword) :
    jsonType = "array" ∧ keyword = "format" := by
  have hstandard : ∀ row ∈ standard, ExtendedFormat.keyword ∉ row.2 := by decide
  unfold key? at h
  split_ifs at h with hkeyword hextended
  · cases h
    cases hfind : Entries.find? standard jsonType with
    | none => simp [hfind] at hkeyword
    | some keywords =>
      obtain ⟨name, hrow, -⟩ := Entries.mem_of_find? hfind
      exact absurd (by simpa [hfind] using hkeyword) (hstandard _ hrow)
  · simp only [extended, Entries.find?] at hextended
    split_ifs at hextended with hjson
    · exact ⟨(eq_of_beq hjson).symm, by simpa using hextended⟩
    · simp at hextended

theorem Keyword.eq_format_of_meant {argument : String} (h : meant "array" argument = "format") :
    argument = "format" := by
  have haliases : Entries.find? aliases "array" = some [("min", "minItems"), ("max", "maxItems")] :=
    rfl
  simp only [meant, haliases, Option.bind_some, Entries.find?] at h
  split_ifs at h
  · rw [Option.getD_some] at h
    exact absurd h (by decide)
  · rw [Option.getD_some] at h
    exact absurd h (by decide)
  · exact h

namespace Keyword

theorem lacks_cast {name keyword : String} {value taken : Datum} (h : Lacks name value)
    (hcast : cast keyword value = .ok taken) : Lacks name taken := by
  unfold cast at hcast
  split_ifs at hcast
  · cases hnumber : toNumber value with
    | error fault =>
      rw [hnumber] at hcast
      cases hcast
    | ok number =>
      rw [hnumber] at hcast
      cases hcast
      exact lacks_of_flat fun _ h => by cases h
  · cases hcast
    exact lacks_of_flat fun _ h => by cases h
  · cases hcast
    exact h

theorem lacks_settle {name : String} {value : Datum} (h : Lacks name value) (jsonType : String) :
    Lacks name (settle jsonType value) := by
  unfold settle
  split
  · split_ifs
    · exact lacks_of_flat fun _ h => by cases h
    · exact h
  · exact h

end Keyword

/-! ## Documents without the keyword -/

/-- Nothing in the document is named like the further keyword, and no list is given a format by the
builtin directive. -/
structure Document.Avoids (document : Document) : Prop where
  types : ∀ definition ∈ document, definition.typeName? ≠ some ExtendedFormat.keyword
  fields : ∀ definition ∈ document, ∀ field ∈ definition.fields,
    field.name ≠ ExtendedFormat.keyword
  constants : ∀ definition ∈ document, ∀ field ∈ definition.fields,
    ∀ directive ∈ field.directives, ∀ argument ∈ directive.arguments,
      ¬argument.value.HasField ExtendedFormat.keyword
  formats : ∀ definition ∈ document, ∀ field ∈ definition.fields, ∀ type,
    field.type.resolve false = .ok type → type.jsonType? = some "array" →
      ∀ directive ∈ field.directives, directive.name = Directive.validate →
        ∀ argument ∈ directive.arguments, argument.name ≠ "format"

/-- Entries do not have a name if none is under it and their values do not have it. -/
theorem lacks_of_hasOnly {names : List String} {name : String} {entries : Members}
    (honly : HasOnly names entries) (hname : name ∉ names)
    (hvalues : ∀ entry ∈ entries, Lacks name entry.2) : Lacks name (.object entries) := by
  refine lacks_object.mpr fun entry hentry => ⟨fun heq => ?_, hvalues entry hentry⟩
  obtain ⟨key, hkey, hsame⟩ := honly entry hentry
  rw [hsame] at heq
  exact hname (Key.text.inj heq ▸ hkey)

theorem TypeRef.lacks_of_mem_nameSchema {name : String} {inList : Bool} {word : String} :
    ∀ entry ∈ nameSchema name inList, Lacks word entry.2 := by
  simp only [nameSchema]
  split
  · simp [lacks_text]
  · split
    · simp [lacks_text]
    · cases inList <;> simp [lacks_list, lacks_text]

theorem TypeRef.lacks_resolve {type : TypeRef} {inList : Bool} {resolved : TypeSchema}
    (h : type.resolve inList = .ok resolved) :
    Lacks ExtendedFormat.keyword (.object resolved.schema) := by
  refine lacks_of_hasOnly (hasOnly_resolve h) (by decide) ?_
  induction type generalizing inList resolved with
  | named name =>
    cases h
    exact lacks_of_mem_nameSchema
  | list item ih =>
    obtain ⟨type, hitem, rfl⟩ := resolve_eq_ok_list h
    have hinner := lacks_of_hasOnly (hasOnly_resolve hitem) (by decide) (ih hitem)
    simp [hinner, lacks_text]
  | nonNull inner ih =>
    obtain ⟨type, hinner, rfl⟩ := resolve_eq_ok_nonNull h
    have hvalues := ih hinner
    exact hvalues
  | other kind => cases h

namespace Field

variable {field : Field} {property : Property}

/-- A property does not have the keyword if the directives of its field do not give it. -/
theorem lacks_property (h : (field.property []).result = .ok property)
    (hconstants : ∀ directive ∈ field.directives, ∀ argument ∈ directive.arguments,
      ¬argument.value.HasField ExtendedFormat.keyword)
    (hformats : ∀ type, field.type.resolve false = .ok type → type.jsonType? = some "array" →
      ∀ directive ∈ field.directives, directive.name = Directive.validate →
        ∀ argument ∈ directive.arguments, argument.name ≠ "format") :
    Lacks ExtendedFormat.keyword (.object property.schema) := by
  obtain ⟨type, keywords, htype, hkeywords, rfl⟩ := property_eq_ok h
  have htitle : Key.text "title" ≠ .text ExtendedFormat.keyword := by
    rw [ne_eq, Key.text.injEq]
    decide
  refine lacks_merge (lacks_insert (TypeRef.lacks_resolve htype) htitle (lacks_text _))
    (lacks_object.mpr fun entry hentry => ?_)
  rcases mem_directiveKeywords hkeywords hentry with hnil | ⟨directive, hdirective, hname, hentry⟩
  · cases hnil
  obtain ⟨argument, hargument, hkeyword⟩ := Directive.exists_argument hentry
  obtain ⟨key, taken, hkey, hcast, rfl⟩ := Argument.keyword_eq_ok hkeyword
  refine ⟨fun heq => ?_, ?_⟩
  · rw [Key.text.injEq] at heq
    rw [heq] at hkey
    obtain ⟨hjson, hmeant⟩ := Keyword.key?_eq_extended hkey
    rw [hjson] at hmeant
    have hjsonType : type.jsonType? = some "array" := by
      cases hfound : type.jsonType? with
      | none =>
        rw [hfound] at hjson
        exact absurd hjson (by decide)
      | some name =>
        rw [hfound] at hjson
        exact congrArg some hjson
    exact hformats type htype hjsonType directive hdirective hname argument hargument
      (Keyword.eq_format_of_meant hmeant)
  · have hvalue := Literal.lacks_value _ (hconstants directive hdirective argument hargument)
    exact Keyword.lacks_settle (Keyword.lacks_cast hvalue hcast) _

end Field

namespace Definition

variable {definition : Definition} {body : Members}

theorem lacks_objectEntries {name : String} {properties : List Property} {isInput : Bool}
    (h : ∀ property ∈ properties, property.name ≠ ExtendedFormat.keyword
      ∧ Lacks ExtendedFormat.keyword (propertySchema property)) :
    ∀ entry ∈ objectEntries name properties isInput, Lacks ExtendedFormat.keyword entry.2 := by
  have hschemas : Lacks ExtendedFormat.keyword (.object (Entries.ofPairs (properties.map
      fun property => (Key.text property.name, propertySchema property)))) := by
    refine lacks_ofPairs (lacks_object.mpr (List.forall_mem_map.mpr fun property hproperty => ?_))
    obtain ⟨hname, hlacks⟩ := h property hproperty
    exact ⟨fun heq => hname (Key.text.inj heq), hlacks⟩
  have hrequired : Lacks ExtendedFormat.keyword
      (.list (((properties.filter (·.required)).map (·.name)).map .text)) :=
    lacks_list.mpr (List.forall_mem_map.mpr fun name _ => lacks_text name)
  have hinput : Lacks ExtendedFormat.keyword (.bool true) := lacks_of_flat fun _ h => by cases h
  rw [objectEntries_eq]
  simp only [List.forall_mem_append]
  refine ⟨⟨?_, ?_⟩, ?_⟩
  · simp [hschemas, lacks_text]
  · split_ifs
    · simp
    · exact List.forall_mem_singleton.mpr hrequired
  · split_ifs
    · exact List.forall_mem_singleton.mpr hinput
    · simp

/-- The schema of a definition does not have the keyword if its properties do not. -/
theorem lacks_schema (h : (definition.schema []).result = .ok body)
    (hfields : ∀ field ∈ definition.fields, field.name ≠ ExtendedFormat.keyword)
    (hproperties : ∀ field ∈ definition.fields, ∀ property,
      (field.property []).result = .ok property →
        Lacks ExtendedFormat.keyword (.object property.schema)) :
    Lacks ExtendedFormat.keyword (.object body) := by
  refine lacks_of_hasOnly (hasOnly_schema h) (by decide) ?_
  have hobject {name : String} {fields : List Field} {isInput : Bool}
      (h : (objectSchema name fields isInput []).result = .ok body)
      (hsame : definition.fields = fields) :
      ∀ entry ∈ body, Lacks ExtendedFormat.keyword entry.2 := by
    obtain ⟨properties, hproperties', rfl⟩ := objectSchema_eq_ok h
    refine lacks_objectEntries fun property hproperty => ?_
    obtain ⟨field, hfield, heq⟩ :=
      exists_mem_of_forall₂ (Conversion.forall₂_of_mapM hproperties') hproperty
    rw [← hsame] at hfield
    rw [Field.propertySchema_eq heq]
    refine ⟨?_, hproperties field hfield property heq⟩
    obtain ⟨type, keywords, -, -, rfl⟩ := Field.property_eq_ok heq
    exact hfields field hfield
  cases definition with
  | scalar =>
    cases h
    simp [lacks_text]
  | «enum» name directives values =>
    cases h
    have hvalues : Lacks ExtendedFormat.keyword
        (.list (values.map fun value => .text value.name)) :=
      lacks_list.mpr (List.forall_mem_map.mpr fun value _ => lacks_text value.name)
    simp [hvalues, lacks_text]
  | «union» name directives members =>
    obtain ⟨types, htypes, rfl⟩ := unionSchema_eq_ok h
    have hmembers : Lacks ExtendedFormat.keyword
        (.list (types.map fun type => .object type.schema)) := by
      refine lacks_list.mpr (List.forall_mem_map.mpr fun type htype => ?_)
      obtain ⟨member, -, hmember⟩ := exists_mem_of_forall₂ (forall₂_of_mapM htypes) htype
      exact TypeRef.lacks_resolve hmember
    simp [unionEntries, hmembers, lacks_text]
  | object | «interface» | inputObject => exact hobject h rfl
  | directive | other => cases h

end Definition

namespace Document

/-- The schema document does not have the keyword if nothing in the document leads to it. -/
theorem lacks_of_schema {document : Document} {schemaUri : Option String} {schema : Members}
    (havoids : document.Avoids) (h : (document.schema { schemaUri }).result = .ok schema) :
    Lacks ExtendedFormat.keyword (.object schema) := by
  obtain ⟨bodies, hbodies, rfl⟩ := schema_eq_ok_iff.mp h
  split_ifs
  · exact lacks_object.mpr fun _ h => absurd h List.not_mem_nil
  have hentries : ∀ body ∈ bodies, (entry body).1 ≠ .text ExtendedFormat.keyword
      ∧ Lacks ExtendedFormat.keyword (entry body).2 := by
    intro body hbody
    obtain ⟨definition, hdefinition, heq⟩ := exists_mem_of_forall₂ hbodies hbody
    have hmem : definition ∈ document := List.mem_of_mem_filter hdefinition
    refine ⟨fun hkey => havoids.types definition hmem ?_, ?_⟩
    · rw [Definition.typeName?_of_schema heq, Key.text.inj hkey]
    · refine Definition.lacks_schema heq (havoids.fields definition hmem)
        fun field hfield property hproperty => ?_
      exact Field.lacks_property hproperty (havoids.constants definition hmem field hfield)
        (havoids.formats definition hmem field hfield)
  have hdefinitions : Lacks ExtendedFormat.keyword
      (.object (Entries.ofPairs (bodies.map entry))) :=
    lacks_ofPairs (lacks_object.mpr (List.forall_mem_map.mpr hentries))
  have huri : Lacks ExtendedFormat.keyword (schemaUri.elim Datum.null Datum.text) := by
    cases schemaUri <;> exact lacks_of_flat fun _ h => by cases h
  have honly : HasOnly ["$schema", "definitions"]
      (envelope schemaUri (Entries.ofPairs (bodies.map entry))) :=
    hasOnly_cons.mpr ⟨⟨"$schema", by decide, rfl⟩,
      hasOnly_cons.mpr ⟨⟨"definitions", by decide, rfl⟩, hasOnly_nil _⟩⟩
  refine lacks_of_hasOnly honly (by decide) ?_
  simp [envelope, huri, hdefinitions]

end Document

/-! ## Conservativity -/

namespace Registry

theorem valueAt_eq_ok {key : String} {whole value : Datum} (h : valueAt key whole = .ok value) :
    ∃ entries, whole = .object entries ∧ Entries.find? entries key = some value := by
  unfold valueAt at h
  split at h
  · next entries =>
    split at h
    · next hfind =>
      cases h
      exact ⟨entries, rfl, hfind⟩
    · cases h
  · cases h

/-- A definition that has a schema is there, and all the definitions are attached to it. -/
theorem definitionSchema_eq_ok {document : Members} {title : String} {attached : Datum}
    (h : definitionSchema (.object document) title = .ok attached) :
    ∃ definitions contents entries,
      Entries.find? document "definitions" = some (.object definitions)
        ∧ Entries.find? definitions title = some contents ∧ contents.entries? = .ok entries
        ∧ attached = .object (Entries.insert entries "definitions" (.object definitions)) := by
  unfold definitionSchema at h
  cases hvalue : valueAt "definitions" (.object document) with
  | error fault => simp [hvalue, bind, Except.bind] at h
  | ok definitions =>
    cases hcontents : valueAt title definitions with
    | error fault => simp [hvalue, hcontents, bind, Except.bind] at h
    | ok contents =>
      obtain ⟨outer, heq, hdefinitions⟩ := valueAt_eq_ok hvalue
      cases heq
      obtain ⟨inner, rfl, hfind⟩ := valueAt_eq_ok hcontents
      cases hentries : contents.entries? with
      | error fault => simp [hvalue, hcontents, hentries, bind, Except.bind] at h
      | ok entries =>
        simp only [hvalue, hcontents, hentries, bind, Except.bind, pure, Except.pure,
          Except.ok.injEq] at h
        exact ⟨inner, contents, entries, hdefinitions, hfind, hentries, h.symm⟩

/-- The schema for a definition of a document is made of parts of the schema document. -/
theorem lacks_definitionSchema {document : Document} {schemaUri : Option String}
    {schema : Members} (hschema : (document.schema { schemaUri }).result = .ok schema)
    (hlacks : Lacks ExtendedFormat.keyword (.object schema)) {title : String} {attached : Datum}
    (h : definitionSchema (.object schema) title = .ok attached) :
    Lacks ExtendedFormat.keyword attached := by
  obtain ⟨definitions, contents, entries, hdefinitions, hfind, hentries, rfl⟩ :=
    definitionSchema_eq_ok h
  obtain ⟨definition, body, -, rfl, -⟩ :=
    (Document.renders_of_find? hschema hdefinitions).find?_eq_some hfind
  cases hentries
  have hinner := hlacks.find? hdefinitions
  refine lacks_insert (hinner.find? hfind) (fun heq => ?_) hinner
  exact absurd (Key.text.inj heq) (by decide)

/-- However often a registry is extended, strictly or not, it answers as one without keywords for
every schema in which nothing stands under the further keyword. So it does for the definitions of a
document in which nothing is named like that keyword and no list is given a format. -/
theorem extending_is_conservative {operations : List Operation} (h : OnlyExtends operations) :
    let extended := runAll {} operations
    (∀ schema, Lacks ExtendedFormat.keyword schema → ∀ data,
        (extended.isValid schema data).1 = (({} : Registry).isValid schema data).1
          ∧ (extended.violations schema data).1 = (({} : Registry).violations schema data).1)
      ∧ ∀ (document : Document) (schemaUri : Option String) (schema : Members),
          document.Avoids → (document.schema { schemaUri }).result = .ok schema → ∀ title,
            answers (extended.validatorFor (.object schema) title).1
              = answers (({} : Registry).validatorFor (.object schema) title).1 := by
  intro extended
  obtain ⟨checks, hreads⟩ := exists_reads_runAll h
  refine ⟨fun schema hlacks data => ?_, fun document schemaUri schema havoids hschema title => ?_⟩
  · have hanswers := hreads.answers_of_lacks hlacks
    have hisValid (made : Except Fault Validator) :
        made.bind (·.isValid data) = (answers made).bind (·.1 data) := by cases made <;> rfl
    have hviolations (made : Except Fault Validator) :
        made.bind (·.violations data) = (answers made).bind (·.2 data) := by cases made <;> rfl
    rw [isValid_fst, isValid_fst, violations_fst, violations_fst, hisValid, hisValid, hviolations,
      hviolations, hanswers]
    exact ⟨rfl, rfl⟩
  · unfold validatorFor
    cases hattached : definitionSchema (.object schema) title with
    | error fault => rfl
    | ok attached =>
      exact hreads.answers_of_lacks
        (lacks_definitionSchema hschema (Document.lacks_of_schema havoids hschema) hattached)

/-- A type with a list that has a bound and no format. -/
def boundedList : Document :=
  [.object "A" [] [] [{
    name := "a"
    type := .list (.named "Int")
    fallback := none
    directives := [⟨"validate", [⟨"min", .int "1"⟩]⟩]
    arguments := [] }]]

/-- A registry that is extended in both ways answers as a fresh one for such a type, and for a
schema that gives a bound itself. -/
theorem extended_answers_for_bounded_list :
    let operations : List Operation := [.extend true, .validatorClass, .extend false]
    let schema : Datum := .object [("minItems", .int 1), ("format", .text "email")]
    OnlyExtends operations ∧ Lacks ExtendedFormat.keyword schema ∧ boundedList.Avoids
      ∧ (∀ data, ((runAll {} operations).violations schema data).1
          = (({} : Registry).violations schema data).1)
      ∧ ∃ document, (boundedList.schema {}).result = .ok document ∧
          answers ((runAll {} operations).validatorFor (.object document) "A").1
            = answers (({} : Registry).validatorFor (.object document) "A").1 := by
  intro operations schema
  have honly : OnlyExtends operations := by simp [OnlyExtends, operations]
  have hlacks : Lacks ExtendedFormat.keyword schema := lacks_of_hasName (by decide)
  have havoids : boundedList.Avoids := by
    have hconstant : ¬(Literal.int "1").HasField ExtendedFormat.keyword := fun h => by cases h
    refine ⟨?_, ?_, ?_, ?_⟩ <;> refine List.forall_mem_singleton.mpr ?_
    · decide
    · exact List.forall_mem_singleton.mpr (by decide)
    · simpa [Definition.fields] using hconstant
    · simp [Definition.fields]
  obtain ⟨hschemas, hdocuments⟩ := extending_is_conservative honly
  exact ⟨honly, hlacks, havoids, fun data => (hschemas schema hlacks data).2, _, rfl,
    hdocuments boundedList _ _ havoids rfl "A"⟩

end Registry

end SchemaBridge
