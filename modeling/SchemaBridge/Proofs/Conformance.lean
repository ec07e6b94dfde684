import Mathlib
import SchemaBridge.Proofs.Definitions

/-!
# What definitions mean

A value conforms to a definition, or to a type reference, by what a document says and without any
schema. Every value conforms to a custom scalar, and a union has a value if exactly one of its
members does, which are no unions themselves. What a field may hold is told where the value has an
entry for it, and a field whose type is non-null at the outermost has to be there.

* `Definition.Conforms`, `TypeRef.Conforms`: conforming values.
* `Document.IsClosed`: the documents whose definitions can be told apart, and refer to each other.
-/

namespace SchemaBridge

/-! ## Conforming values -/

/-- A value of a builtin scalar. Only integers are of type `Int`, and booleans are no numbers. -/
def TypeRef.IsScalar (name : String) (data : Datum) : Prop :=
  if name = "Int" then ∃ value, data = .int value
  else if name = "Float" then ∃ value, data = .number value
  else if name = "Boolean" then ∃ value, data = .bool value
  else ∃ value, data = .text value

mutual

/-- The value conforms to the definition; to a union only if `deep` says so. -/
def Definition.Conforms (document : Document) (deep : Bool) (definition : Definition)
    (data : Datum) : Prop :=
  match definition, deep with
  | .scalar .., _ => True
  | .enum _ _ values, _ => ∃ value ∈ values, data = .text value.name
  | .union _ _ members, true =>
    ∃! position : Nat, ∃ member, members[position]? = some member ∧
      TypeRef.Conforms document false false member data
  | .union .., false => False
  | .object _ _ _ fields, _ | .interface _ _ _ fields, _ | .inputObject _ _ fields, _ =>
    match data with
    | .object entries => ∀ field ∈ fields,
        (field.type.isRequired = true → Entries.has entries field.name = true) ∧
        ∀ value, Entries.find? entries (.text field.name) = some value →
          TypeRef.Conforms document true false field.type value
    | _ => False
  | .directive .., _ | .other _, _ => False
termination_by (data.depth, deep.toNat, 0)
decreasing_by
  · exact .right _ (.left _ _ (by decide))
  all_goals exact .left _ _ (Datum.depth_lt_of_find? ‹_›)

/-- The value conforms to the type. In a list, it may also be null if the type is a builtin scalar;
`DateTime` is none of them. -/
def TypeRef.Conforms (document : Document) (deep inList : Bool) (type : TypeRef) (data : Datum) :
    Prop :=
  match type with
  | .nonNull inner => inner.Conforms document deep inList data
  | .list item =>
    match data with
    | .list items => ∀ element ∈ items, item.Conforms document true true element
    | _ => False
  | .named name =>
    if TypeRef.isBuiltin name then
      TypeRef.IsScalar name data ∨ (inList = true ∧ name ≠ Keyword.dateTime ∧ data = .null)
    else ∃ definition, document.inForce name = some definition ∧
      definition.Conforms document deep data
  | .other _ => False
termination_by (data.depth, deep.toNat, 1 + sizeOf type)
decreasing_by
  · exact .right _ (.right _ (by simp))
  · exact .left _ _ (Datum.depth_lt_of_mem_list ‹_›)
  · exact .right _ (.right _ (by omega))

end

/-- An object with the fields, as far as they are required, and with values that conform. -/
def HasFields (document : Document) (fields : List Field) (data : Datum) : Prop :=
  ∃ entries, data = .object entries ∧ ∀ field ∈ fields,
    (field.type.isRequired = true → Entries.has entries field.name = true) ∧
    ∀ value, Entries.find? entries (.text field.name) = some value →
      TypeRef.Conforms document true false field.type value

/-- The definition is that of a type with fields. -/
def Definition.hasFields : Definition → Bool
  | object .. | interface .. | inputObject .. => true
  | _ => false

section

variable {document : Document} {deep inList : Bool} {data : Datum}

theorem TypeRef.conforms_nonNull {inner : TypeRef} :
    (nonNull inner).Conforms document deep inList data
      ↔ inner.Conforms document deep inList data := by
  rw [TypeRef.Conforms]

theorem TypeRef.conforms_list {item : TypeRef} :
    (list item).Conforms document deep inList data ↔
      ∃ items, data = .list items ∧ ∀ element ∈ items, item.Conforms document true true element := by
  rw [TypeRef.Conforms.eq_def]
  cases data <;> simp

theorem TypeRef.conforms_builtin {name : String} (h : isBuiltin name = true) :
    (named name).Conforms document deep inList data ↔
      IsScalar name data ∨ (inList = true ∧ name ≠ Keyword.dateTime ∧ data = .null) := by
  rw [TypeRef.Conforms, if_pos h]

theorem TypeRef.conforms_named {name : String} (h : isBuiltin name = false) :
    (named name).Conforms document deep inList data ↔
      ∃ definition, document.inForce name = some definition ∧
        definition.Conforms document deep data := by
  rw [TypeRef.Conforms, if_neg (by simp [h])]

theorem Definition.conforms_scalar {name : String} {directives : List Directive} :
    (scalar name directives).Conforms document deep data := by
  rw [Definition.Conforms.eq_def]
  trivial

theorem Definition.conforms_enum {name : String} {directives : List Directive}
    {values : List EnumValue} :
    (enum name directives values).Conforms document deep data ↔
      ∃ value ∈ values, data = .text value.name := by
  rw [Definition.Conforms.eq_def]

theorem Definition.conforms_fields {definition : Definition} (h : definition.hasFields = true) :
    definition.Conforms document deep data ↔ HasFields document definition.fields data := by
  cases definition with
  | object | «interface» | inputObject =>
    rw [Definition.Conforms.eq_def]
    cases data <;> simp [HasFields, fields]
  | _ => cases h

theorem Definition.conforms_union {name : String} {directives : List Directive}
    {members : List TypeRef} :
    (union name directives members).Conforms document true data ↔
      ∃! position : Nat, ∃ member, members[position]? = some member ∧
        TypeRef.Conforms document false false member data := by
  rw [Definition.Conforms.eq_def]

end

/-! ## Documents -/

namespace Definition

/-- The definition is a union. -/
def isUnion : Definition → Bool
  | union .. => true
  | _ => false

end Definition

/-- The name stands for a type: for a builtin one, or for one that the document defines. -/
def Document.Knows (document : Document) (name : String) : Prop :=
  TypeRef.isBuiltin name = true ∨ some name ∈ document.map (·.typeName?)

/-- A type whose innermost name stands for a type, and for itself in a pointer. -/
def Document.Admits (document : Document) (type : TypeRef) : Prop :=
  ∃ name ∈ type.name?, document.Knows name ∧ Reference.IsPlain name

/-- Every definition is that of a type, under a name of its own that is not reserved, and every name
that is referred to is defined or builtin. Fields have names of their own and no directives, and the
members of unions are no unions. -/
@[mk_iff]
structure Document.IsClosed (document : Document) : Prop where
  named : ∀ definition ∈ document, ∃ name ∈ definition.typeName?,
    name ∉ Definition.reservedNames
  distinct : (document.map (·.typeName?)).Nodup
  distinctFields : ∀ definition ∈ document, (definition.fields.map (·.name)).Nodup
  undirected : ∀ definition ∈ document, ∀ field ∈ definition.fields, field.directives = []
  known : ∀ definition ∈ document, ∀ type ∈ definition.types, ∃ name ∈ type.name?,
    document.Knows name
  flat : ∀ definition ∈ document, ∀ member ∈ definition.members, ∀ name ∈ member.reference?,
    ∀ other ∈ document, other.typeName? = some name → other.isUnion = false
  plain : document.IsPlain

namespace Document

instance (document : Document) (name : String) : Decidable (document.Knows name) := by
  unfold Knows
  infer_instance

instance (document : Document) : Decidable document.IsClosed :=
  decidable_of_iff' _ (isClosed_iff document)

end Document

namespace Document.IsClosed

variable {document : Document} {definition : Definition} {name : String}

theorem isIgnored_eq_false (h : document.IsClosed) (hmem : definition ∈ document) :
    definition.isIgnored = false := by
  obtain ⟨name, hname, hreserved⟩ := h.named definition hmem
  cases definition with
  | directive | other => cases hname
  | _ =>
    cases hname
    simpa [Definition.isIgnored, Definition.typeName?] using hreserved

theorem admits (h : document.IsClosed) (hmem : definition ∈ document) {type : TypeRef}
    (htype : type ∈ definition.types) : document.Admits type := by
  obtain ⟨name, hname, hknows⟩ := h.known definition hmem type htype
  exact ⟨name, hname, hknows, h.plain definition hmem type htype name hname⟩

/-- A definition of a closed document is in force under its name. -/
theorem inForce_eq (h : document.IsClosed) (hmem : definition ∈ document)
    (hname : definition.typeName? = some name) : document.inForce name = some definition := by
  have hfilter : document.filter (!·.isIgnored) = document :=
    List.filter_eq_self.mpr fun definition hmem => by simp [h.isIgnored_eq_false hmem]
  have hdistinct := h.distinct
  rw [Document.inForce, hfilter]
  clear h hfilter
  induction document with
  | nil => cases hmem
  | cons first rest ih =>
    rw [List.map_cons, List.nodup_cons] at hdistinct
    rcases List.mem_cons.mp hmem with rfl | hmem
    · have hrest : rest.filter (·.typeName? == some name) = [] := by
        rw [List.filter_eq_nil_iff]
        intro other hother hsame
        rw [beq_iff_eq] at hsame
        exact hdistinct.1 (List.mem_map.mpr ⟨other, hother, hsame.trans hname.symm⟩)
      rw [List.filter_cons_of_pos (by simp [hname]), hrest]
      rfl
    · have hne : ¬(first.typeName? == some name) = true := by
        rw [beq_iff_eq]
        intro hsame
        exact hdistinct.1 (List.mem_map.mpr ⟨definition, hmem, hname.trans hsame.symm⟩)
      rw [List.filter_cons_of_neg (by simpa using hne)]
      exact ih hmem hdistinct.2

theorem exists_inForce (h : document.IsClosed) (hbuiltin : TypeRef.isBuiltin name = false)
    (hknows : document.Knows name) : ∃ definition, document.inForce name = some definition := by
  rcases hknows with hknows | hknows
  · rw [hbuiltin] at hknows
    cases hknows
  · obtain ⟨definition, hmem, hname⟩ := List.mem_map.mp hknows
    exact ⟨definition, h.inForce_eq hmem hname⟩

/-- No union of a closed document contains itself. -/
theorem acyclic (h : document.IsClosed) (name : String) :
    ¬Relation.TransGen document.Contains name name := by
  refine acyclic_of_flat (fun name other hcontains inner hinner => ?_) name
  obtain ⟨definition, hforce, member, hmember, href⟩ := hcontains
  obtain ⟨definition', hforce', member', hmember', -⟩ := hinner
  obtain ⟨hmem, -⟩ := typeName?_of_inForce hforce
  obtain ⟨hmem', hname'⟩ := typeName?_of_inForce hforce'
  have hunion := h.flat definition hmem member hmember other href definition' hmem' hname'
  cases definition' with
  | «union» => cases hunion
  | _ => cases hmember'

end Document.IsClosed

/-! ## Schemas -/

theorem TypeRef.exists_resolve {type : TypeRef} {name : String} (h : name ∈ type.name?)
    (inList : Bool) : ∃ resolved, type.resolve inList = .ok resolved := by
  induction type generalizing inList with
  | named => exact ⟨_, rfl⟩
  | list item ih =>
    obtain ⟨resolved, hresolved⟩ := ih h true
    exact ⟨_, by rw [resolve, hresolved]; rfl⟩
  | nonNull inner ih =>
    obtain ⟨resolved, hresolved⟩ := ih h inList
    exact ⟨_, by rw [resolve, hresolved]; rfl⟩
  | other => cases h

theorem exists_mapM {α β : Type} {items : List α} {step : α → Except Fault β}
    (h : ∀ item ∈ items, ∃ value, step item = .ok value) :
    ∃ values, items.mapM step = .ok values := by
  induction items with
  | nil => exact ⟨[], rfl⟩
  | cons item rest ih =>
    obtain ⟨value, hvalue⟩ := h item List.mem_cons_self
    obtain ⟨values, hvalues⟩ := ih fun item hitem => h item (List.mem_cons_of_mem _ hitem)
    exact ⟨value :: values, by rw [List.mapM_cons, hvalue, hvalues]; rfl⟩

theorem Conversion.exists_mapM {α β : Type} {items : List α} {step : α → Conversion β}
    (h : ∀ item ∈ items, ∃ value, (step item).result = .ok value) :
    ∃ values, (items.mapM step).result = .ok values := by
  induction items with
  | nil => exact ⟨[], rfl⟩
  | cons item rest ih =>
    obtain ⟨value, hvalue⟩ := h item List.mem_cons_self
    obtain ⟨values, hvalues⟩ := ih fun item hitem => h item (List.mem_cons_of_mem _ hitem)
    refine ⟨value :: values, ?_⟩
    rw [List.mapM_cons, result_bind_eq_ok]
    exact ⟨value, hvalue, result_bind_eq_ok.mpr ⟨values, hvalues, rfl⟩⟩

/-- A field without directives becomes the schema of its type, with a title. -/
theorem Field.property_eq {field : Field} (hdirectives : field.directives = [])
    {resolved : TypeSchema} (hresolved : field.type.resolve false = .ok resolved)
    (handlers : Handlers) :
    (field.property handlers).result = .ok {
      name := field.name
      schema := Entries.insert resolved.schema "title" (.text field.name)
      required := resolved.required } := by
  rw [Field.property, Conversion.result_bind_eq_ok]
  refine ⟨resolved, hresolved, Conversion.result_bind_eq_ok.mpr ⟨[], ?_, rfl⟩⟩
  rw [hdirectives]
  rfl

/-- A type definition has a schema if its fields become properties and its members are types. -/
theorem Definition.exists_schema_of_parts {definition : Definition} {name : String}
    (hname : definition.typeName? = some name) {handlers : Handlers}
    (hfields : ∀ field ∈ definition.fields, ∃ property,
      (field.property handlers).result = .ok property)
    (hmembers : ∀ member ∈ definition.members, ∃ resolved, member.resolve false = .ok resolved) :
    ∃ body, (definition.schema handlers).result = .ok body := by
  have hobject (name : String) (isInput : Bool) :
      ∃ body, (objectSchema name definition.fields isInput handlers).result = .ok body := by
    obtain ⟨properties, hproperties⟩ := Conversion.exists_mapM hfields
    exact ⟨_, Conversion.result_bind_eq_ok.mpr ⟨properties, hproperties, rfl⟩⟩
  cases definition with
  | scalar | «enum» => exact ⟨_, rfl⟩
  | «union» name directives members =>
    obtain ⟨types, htypes⟩ := exists_mapM hmembers
    exact ⟨_, Conversion.result_bind_eq_ok.mpr ⟨types, htypes, rfl⟩⟩
  | object name _ _ fields | «interface» name _ _ fields => exact hobject name false
  | inputObject name _ fields => exact hobject name true
  | directive | other => cases hname

theorem Document.exists_schemas {handlers : Handlers} {definitions : List Definition}
    (h : ∀ definition ∈ definitions, ∃ body, (definition.schema handlers).result = .ok body)
    (built : Members) : ∃ result, (schemas handlers built definitions).result = .ok result := by
  induction definitions generalizing built with
  | nil => exact ⟨built, rfl⟩
  | cons definition rest ih =>
    obtain ⟨body, hbody⟩ := h definition List.mem_cons_self
    obtain ⟨result, hresult⟩ := ih (fun definition hmem => h definition (List.mem_cons_of_mem _ hmem))
      (Entries.insert built (title body) (.object body))
    refine ⟨result, Conversion.result_bind_eq_ok.mpr ⟨body, hbody, ?_⟩⟩
    dsimp only
    split_ifs
    · exact Conversion.result_bind_eq_ok.mpr ⟨(), rfl, hresult⟩
    · exact hresult

namespace Document.IsClosed

variable {document : Document} {definition : Definition}

theorem exists_schema (h : document.IsClosed) (hmem : definition ∈ document)
    (handlers : Handlers) : ∃ body, (definition.schema handlers).result = .ok body := by
  obtain ⟨name, hname, -⟩ := h.named definition hmem
  refine Definition.exists_schema_of_parts hname (fun field hfield => ?_) fun member hmember => ?_
  · obtain ⟨inner, hinner, -⟩ := h.known definition hmem field.type
      (List.mem_append_left _ (List.mem_map_of_mem hfield))
    obtain ⟨resolved, hresolved⟩ := TypeRef.exists_resolve hinner false
    exact ⟨_, Field.property_eq (h.undirected definition hmem field hfield) hresolved handlers⟩
  · obtain ⟨inner, hinner, -⟩ := h.known definition hmem member (List.mem_append_right _ hmember)
    exact TypeRef.exists_resolve hinner false

/-- A closed document has a schema document. -/
theorem exists_document_schema (h : document.IsClosed) (options : Options) :
    ∃ schema, (document.schema options).result = .ok schema := by
  obtain ⟨built, hbuilt⟩ := exists_schemas
    (fun definition hmem => h.exists_schema (List.mem_filter.mp hmem).1 options.handlers) []
  unfold Document.schema
  split
  · exact ⟨_, rfl⟩
  · exact ⟨_, Conversion.result_bind_eq_ok.mpr ⟨built, hbuilt, rfl⟩⟩

end Document.IsClosed

end SchemaBridge
