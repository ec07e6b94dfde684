import Mathlib
import SchemaBridge.Schema.Document

/-!
# Which definitions become schemas

A later definition of a name replaces an earlier one, and some are ignored. So for every name there
is at most one definition in force, and the schema document has its schema under the name, and no
other.

* `typeName?_of_schema`: what has a schema has a name, which is the title of the schema.
* `find?_schemas`: the schemas of definitions that are written one after another.
* `renders_of_schema`: the definitions of a schema document are those in force.
-/

namespace SchemaBridge

/-! ## Titles -/

namespace Definition

variable {definition : Definition} {handlers : Handlers} {body : Members}

/-- The schema that properties make up. -/
def objectEntries (name : String) (properties : List Property) (isInput : Bool) : Members :=
  let required := (properties.filter (·.required)).map fun property => Datum.text property.name
  let schemas : Members := properties.map fun property => (property.name, propertySchema property)
  let shape : Members :=
    [("title", .text name), ("type", .text "object"),
     ("properties", .object (Entries.ofPairs schemas))]
  let needed : Members := if required.isEmpty then [] else [("required", .list required)]
  let mark : Members := if isInput then [("input", .bool true)] else []
  shape ++ needed ++ mark

theorem objectSchema_eq_ok {name : String} {fields : List Field} {isInput : Bool}
    (h : (objectSchema name fields isInput handlers).result = .ok body) :
    ∃ properties : List Property,
      (fields.mapM fun field => Field.property field handlers).result = .ok properties ∧
      body = objectEntries name properties isInput := by
  obtain ⟨properties, hproperties, h⟩ := Conversion.result_bind_eq_ok.mp h
  cases h
  exact ⟨properties, hproperties, rfl⟩

/-- The schema that the types of members make up. -/
def unionEntries (name : String) (types : List TypeSchema) : Members :=
  [("title", .text name), ("type", .text unionType),
   ("oneOf", .list (types.map fun type => .object type.schema))]

theorem unionSchema_eq_ok {name : String} {directives : List Directive} {members : List TypeRef}
    (h : ((union name directives members).schema handlers).result = .ok body) :
    ∃ types, members.mapM (TypeRef.resolve false) = .ok types ∧
      body = unionEntries name types := by
  obtain ⟨types, htypes, h⟩ := Conversion.result_bind_eq_ok.mp h
  cases h
  exact ⟨types, htypes, rfl⟩

/-- The title of a schema is the name of its definition. -/
theorem typeName?_of_schema (h : (definition.schema handlers).result = .ok body) :
    definition.typeName? = some (Document.title body) := by
  cases definition with
  | scalar | «enum» =>
    cases h
    rfl
  | «union» name directives members =>
    obtain ⟨types, -, rfl⟩ := unionSchema_eq_ok h
    rfl
  | object name _ _ fields | «interface» name _ _ fields | inputObject name _ fields =>
    obtain ⟨properties, -, rfl⟩ := objectSchema_eq_ok h
    rfl
  | directive | other => cases h

end Definition

/-! ## Documents -/

namespace Document

/-- The definition of a name that counts: the last one that is not ignored. -/
def inForce (document : Document) (name : String) : Option Definition :=
  ((document.filter (!·.isIgnored)).filter (·.typeName? == some name)).getLast?

theorem typeName?_of_inForce {document : Document} {name : String} {definition : Definition}
    (h : document.inForce name = some definition) :
    definition ∈ document ∧ definition.typeName? = some name := by
  have hmem := List.mem_of_getLast? h
  simp only [List.mem_filter, beq_iff_eq] at hmem
  exact ⟨hmem.1.1, hmem.2⟩

/-- There is the schema of a definition, or what was there before if there is no definition. -/
def RendersAt (handlers : Handlers) (before found : Option Datum) : Option Definition → Prop
  | some definition => ∃ body, (definition.schema handlers).result = .ok body
      ∧ found = some (.object body)
  | none => found = before

/-- Every name has the schema of its definition that is in force, and other names have none. -/
def Renders (document : Document) (handlers : Handlers) (definitions : Members) : Prop :=
  ∀ name : String,
    RendersAt handlers none (Entries.find? definitions name) (document.inForce name)

/-- The schemas that are written later count, and those that were there if none is. -/
theorem find?_schemas {handlers : Handlers} {definitions : List Definition}
    {built result : Members} (h : (schemas handlers built definitions).result = .ok result)
    (name : String) :
    RendersAt handlers (Entries.find? built name) (Entries.find? result name)
      (definitions.filter (·.typeName? == some name)).getLast? := by
  induction definitions generalizing built with
  | nil =>
    cases h
    rfl
  | cons definition rest ih =>
    obtain ⟨body, hbody, h⟩ := Conversion.result_bind_eq_ok.mp h
    have htitle := Definition.typeName?_of_schema hbody
    have hrest : (schemas handlers (Entries.insert built (title body) (.object body)) rest).result
        = .ok result := by
      dsimp only at h
      split_ifs at h
      · obtain ⟨-, -, h⟩ := Conversion.result_bind_eq_ok.mp h
        exact h
      · exact h
    have hfind := ih hrest
    simp only [Entries.find?_insert, Key.beq_text, Key.text.injEq] at hfind
    by_cases hname : title body = name
    · rw [if_pos hname] at hfind
      rw [List.filter_cons_of_pos (by simp [htitle, hname]), List.getLast?_cons]
      cases hlast : (rest.filter (·.typeName? == some name)).getLast? with
      | some later =>
        rw [hlast] at hfind
        exact hfind
      | none =>
        rw [hlast] at hfind
        exact ⟨body, hbody, hfind⟩
    · rw [if_neg hname] at hfind
      rwa [List.filter_cons_of_neg (by simp [htitle, hname])]

/-- The definitions of a schema document are those in force. -/
theorem renders_of_find? {document : Document} {options : Options} {schema definitions : Members}
    (h : (document.schema options).result = .ok schema)
    (hdefinitions : Entries.find? schema "definitions" = some (.object definitions)) :
    document.Renders options.handlers definitions := by
  unfold Document.schema at h
  split at h
  · cases h
    cases hdefinitions
  · obtain ⟨built, hbuilt, h⟩ := Conversion.result_bind_eq_ok.mp h
    cases h
    cases hdefinitions
    exact find?_schemas hbuilt

/-- If there is a definition in force, the schema document has definitions. -/
theorem renders_of_schema {document : Document} {options : Options} {schema : Members}
    (h : (document.schema options).result = .ok schema) {name : String} {definition : Definition}
    (hforce : document.inForce name = some definition) :
    ∃ definitions, Entries.find? schema "definitions" = some (.object definitions) ∧
      document.Renders options.handlers definitions := by
  have hfound : ∃ definitions, Entries.find? schema "definitions" = some (.object definitions) := by
    unfold Document.schema at h
    split at h
    · next hnil =>
      rw [inForce, hnil] at hforce
      cases hforce
    · obtain ⟨built, -, h⟩ := Conversion.result_bind_eq_ok.mp h
      cases h
      exact ⟨built, rfl⟩
  obtain ⟨definitions, hdefinitions⟩ := hfound
  exact ⟨definitions, hdefinitions, renders_of_find? h hdefinitions⟩

theorem Renders.find?_eq_some {document : Document} {handlers : Handlers} {definitions : Members}
    (h : document.Renders handlers definitions) {name : String} {contents : Datum}
    (hfind : Entries.find? definitions name = some contents) :
    ∃ definition body, document.inForce name = some definition ∧ contents = .object body ∧
      (definition.schema handlers).result = .ok body := by
  have hat := h name
  cases hforce : document.inForce name with
  | none =>
    rw [hforce, RendersAt, hfind] at hat
    cases hat
  | some definition =>
    rw [hforce] at hat
    obtain ⟨body, hbody, heq⟩ := hat
    rw [hfind] at heq
    cases heq
    exact ⟨definition, body, rfl, rfl, hbody⟩

theorem Renders.find?_of_inForce {document : Document} {handlers : Handlers}
    {definitions : Members} (h : document.Renders handlers definitions) {name : String}
    {definition : Definition} (hforce : document.inForce name = some definition) :
    ∃ body, (definition.schema handlers).result = .ok body ∧
      Entries.find? definitions name = some (.object body) := by
  have hat := h name
  rwa [hforce] at hat

end Document

end SchemaBridge
