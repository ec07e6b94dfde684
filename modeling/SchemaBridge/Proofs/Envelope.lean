import SchemaBridge.Proofs.Merging
import SchemaBridge.Proofs.Transformation

/-!
# The shape of schema documents

A schema document has its definitions under the names of the types, in the order in which these
come first, and under each name the schema of the last definition of it. A definition that stands
in the place of an earlier one is noticed, each time. So the definitions of two documents together
are those of the first, into which those of the second are written.

* `Document.schemas_cons`: what one definition adds.
* `Document.schemas_eq_ok_iff`, `Document.overwritings_schemas`: what all of them add.
* `Document.keys_written`: the names, in the order in which they come first.
* `Handlers.AreQuiet.schema`: notices about definitions come from documents only.
* `Document.schema_shape`: the shape of a schema document, and that of two documents together.
-/

namespace SchemaBridge

/-! ## Notices about definitions -/

/-- The number of notices about definitions. -/
def overwritings (notices : List Notice) : Nat :=
  notices.countP fun notice => notice.subject = .definition

namespace Conversion

variable {α β : Type}

/-- No notice is about a definition. -/
def IsQuiet (conversion : Conversion α) : Prop :=
  ∀ notice ∈ conversion.notices, notice.subject ≠ .definition

theorem IsQuiet.overwritings {conversion : Conversion α} (h : conversion.IsQuiet) :
    overwritings conversion.notices = 0 := by
  rw [SchemaBridge.overwritings, List.countP_eq_zero]
  intro notice hnotice
  simpa using h notice hnotice

theorem isQuiet_pure (value : α) : (pure value : Conversion α).IsQuiet := by
  intro notice hnotice
  cases hnotice

theorem isQuiet_ofExcept (result : Except Fault α) : (ofExcept result).IsQuiet := by
  intro notice hnotice
  cases hnotice

theorem IsQuiet.bind {first : Conversion α} {next : α → Conversion β} (h : first.IsQuiet)
    (hnext : ∀ value, (next value).IsQuiet) : (first >>= next).IsQuiet := by
  cases hresult : first.result with
  | error fault =>
    rw [bind_error hresult]
    exact h
  | ok value =>
    rw [bind_ok hresult]
    intro notice hnotice
    rcases List.mem_append.mp hnotice with hnotice | hnotice
    · exact h notice hnotice
    · exact hnext value notice hnotice

theorem isQuiet_mapM {step : α → Conversion β} (h : ∀ item, (step item).IsQuiet)
    (items : List α) : (items.mapM step).IsQuiet := by
  induction items with
  | nil => exact isQuiet_pure _
  | cons item rest ih =>
    rw [List.mapM_cons]
    exact (h item).bind fun _ => ih.bind fun _ => isQuiet_pure _

end Conversion

open Conversion

/-- The builtin handler gives notice of arguments only. -/
theorem Directive.isQuiet_notices (directive : Directive) (jsonType : Option String) :
    ∀ notice ∈ directive.notices jsonType, notice.subject ≠ .definition := by
  intro notice hnotice
  obtain ⟨argument, -, hargument⟩ := List.mem_filterMap.mp hnotice
  unfold Argument.keyword at hargument
  grind [Notice.subject]

theorem Handler.isQuiet_validate (directive : Directive) (jsonType : Option String) :
    (Handler.validate directive jsonType).IsQuiet := by
  unfold Handler.validate
  split <;> exact Directive.isQuiet_notices _ jsonType

/-- No given handler gives notice of definitions. -/
def Handlers.AreQuiet (handlers : Handlers) : Prop :=
  ∀ name handler, Entries.find? handlers name = some (some handler) →
    ∀ directive jsonType, (handler directive jsonType).IsQuiet

namespace Handlers.AreQuiet

variable {handlers : Handlers}

theorem nil : AreQuiet [] := by
  intro name handler hfind
  cases hfind

theorem find? (h : handlers.AreQuiet) {name : String} {handler : Handler}
    (hfind : Handlers.find? handlers name = some handler) (directive : Directive)
    (jsonType : Option String) : (handler directive jsonType).IsQuiet := by
  unfold Handlers.find? at hfind
  rcases Option.or_eq_some_iff.mp hfind with hgiven | ⟨-, hbuiltin⟩
  · exact h name handler (Option.join_eq_some_iff.mp hgiven) directive jsonType
  · have hvalidate : handler = Handler.validate := by
      simp only [Handlers.builtin, Entries.find?] at hbuiltin
      split_ifs at hbuiltin
      · exact (Option.some.inj hbuiltin).symm
      · cases hbuiltin
    rw [hvalidate]
    exact Handler.isQuiet_validate directive jsonType

theorem apply (h : handlers.AreQuiet) (directive : Directive) (jsonType : Option String) :
    (directive.apply jsonType handlers).IsQuiet := by
  unfold Directive.apply
  split
  · exact isQuiet_pure _
  · next handler hfind =>
    exact (h.find? hfind directive jsonType).bind fun _ => isQuiet_ofExcept _

theorem directiveKeywords (h : handlers.AreQuiet) (jsonType : Option String) (keywords : Members)
    (directives : List Directive) :
    (Field.directiveKeywords jsonType handlers keywords directives).IsQuiet := by
  induction directives generalizing keywords with
  | nil => exact isQuiet_pure _
  | cons directive rest ih => exact (h.apply directive jsonType).bind fun added => ih _

theorem objectSchema (h : handlers.AreQuiet) (name : String) (fields : List Field)
    (isInput : Bool) : (Definition.objectSchema name fields isInput handlers).IsQuiet := by
  have hproperty (field : Field) : (field.property handlers).IsQuiet :=
    (isQuiet_ofExcept _).bind fun _ =>
      (h.directiveKeywords _ _ _).bind fun _ => isQuiet_pure _
  exact (isQuiet_mapM hproperty fields).bind fun _ => isQuiet_pure _

/-- The schema of a definition gives no notice about definitions. -/
theorem schema (h : handlers.AreQuiet) (definition : Definition) :
    (definition.schema handlers).IsQuiet := by
  cases definition with
  | scalar | «enum» => exact isQuiet_pure _
  | «union» => exact (isQuiet_ofExcept _).bind fun _ => isQuiet_pure _
  | object name _ _ fields | «interface» name _ _ fields | inputObject name _ fields =>
    exact h.objectSchema name fields _
  | directive | other => exact isQuiet_ofExcept _

end Handlers.AreQuiet

namespace Document

variable {handlers : Handlers} {built result : Members} {definitions : List Definition}

/-! ## What definitions add -/

/-- The entry of a schema among the definitions. -/
def entry (body : Members) : Key × Datum := (title body, .object body)

/-- What a definition that has a schema adds. -/
theorem schemas_cons {definition : Definition} {body : Members}
    (h : (definition.schema handlers).result = .ok body) (built : Members)
    (rest : List Definition) :
    schemas handlers built (definition :: rest)
      = ⟨(schemas handlers (Entries.insert built (title body) (.object body)) rest).result,
          (definition.schema handlers).notices
            ++ ((if Entries.has built (title body) then [.overwritten (title body)] else [])
              ++ (schemas handlers (Entries.insert built (title body) (.object body))
                  rest).notices)⟩ := by
  rw [schemas, bind_ok h]
  split_ifs
  · rfl
  · rfl

theorem schemas_cons_eq_ok_iff {definition : Definition} {rest : List Definition} :
    (schemas handlers built (definition :: rest)).result = .ok result
      ↔ ∃ body, (definition.schema handlers).result = .ok body
          ∧ (schemas handlers (Entries.insert built (title body) (.object body)) rest).result
              = .ok result := by
  constructor
  · intro h
    obtain ⟨body, hbody, -⟩ := result_bind_eq_ok.mp h
    rw [schemas_cons hbody] at h
    exact ⟨body, hbody, h⟩
  · rintro ⟨body, hbody, h⟩
    rw [schemas_cons hbody]
    exact h

/-- The schemas of definitions are written one after another. -/
theorem schemas_eq_ok_iff :
    (schemas handlers built definitions).result = .ok result
      ↔ ∃ bodies,
        List.Forall₂ (fun definition body => (definition.schema handlers).result = .ok body)
            definitions bodies
          ∧ result = Entries.merge built (bodies.map entry) := by
  induction definitions generalizing built with
  | nil =>
    constructor
    · intro h
      cases h
      exact ⟨[], .nil, rfl⟩
    · rintro ⟨bodies, hbodies, rfl⟩
      cases hbodies
      rfl
  | cons definition rest ih =>
    rw [schemas_cons_eq_ok_iff]
    constructor
    · rintro ⟨body, hbody, h⟩
      obtain ⟨bodies, hbodies, hresult⟩ := ih.mp h
      exact ⟨body :: bodies, .cons hbody hbodies, hresult⟩
    · rintro ⟨bodies, hbodies, hresult⟩
      cases hbodies with
      | cons hbody hbodies => exact ⟨_, hbody, ih.mpr ⟨_, hbodies, hresult⟩⟩

/-- Each definition adds an entry or is noticed to replace one. -/
theorem overwritings_schemas (h : (schemas handlers built definitions).result = .ok result) :
    overwritings (schemas handlers built definitions).notices + result.length
      = built.length + definitions.length
          + (definitions.map fun definition =>
              overwritings (definition.schema handlers).notices).sum := by
  induction definitions generalizing built with
  | nil =>
    cases h
    simp [schemas, overwritings, pure]
  | cons definition rest ih =>
    obtain ⟨body, hbody, hrest⟩ := schemas_cons_eq_ok_iff.mp h
    have hcount := ih hrest
    have hlength := Entries.length_keys_insert built (title body) (.object body)
    simp only [Entries.keys, List.length_map] at hlength
    have hown : overwritings
        (if Entries.has built (title body) then [.overwritten (title body)] else [])
          = if Entries.has built (title body) then 1 else 0 := by
      split_ifs <;> rfl
    rw [schemas_cons hbody]
    simp only [overwritings, List.countP_append, List.length_cons, List.map_cons,
      List.sum_cons] at hcount hown ⊢
    rw [hown]
    omega

/-- A name is kept at its first place. -/
theorem eraseDups_concat (names : List String) (name : String) :
    (names ++ [name]).eraseDups
      = if name ∈ names then names.eraseDups else names.eraseDups ++ [name] := by
  rw [List.eraseDups_append]
  split_ifs with hmem
  · simp [List.removeAll, hmem]
  · simp [List.removeAll, hmem, List.eraseDups_cons]

/-- The names under which schemas are written, in the order in which they come first. -/
theorem keys_written (bodies : List Members) :
    Entries.keys (Entries.ofPairs (bodies.map entry))
      = (bodies.map title).eraseDups.map Key.text := by
  induction bodies using List.reverseRecOn with
  | nil => rfl
  | append_singleton rest body ih =>
    have hlast : Entries.ofPairs ((rest ++ [body]).map entry)
        = Entries.insert (Entries.ofPairs (rest.map entry)) (title body) (.object body) := by
      rw [List.map_append]
      exact Entries.merge_append [] (rest.map entry) [entry body]
    have hany : ((rest.map title).eraseDups.map Key.text).any (· == Key.text (title body)) = true
        ↔ title body ∈ rest.map title := by
      simp [List.any_map, Key.beq_text]
    rw [hlast, Entries.keys_insert, ih, List.map_append, List.map_singleton, eraseDups_concat]
    by_cases hmem : title body ∈ rest.map title
    · rw [if_pos (hany.mpr hmem), if_pos hmem]
    · rw [if_neg (hany.not.mpr hmem), if_neg hmem, List.map_append, List.map_singleton]

/-! ## The shape of a schema document -/

/-- The definitions that count. -/
def kept (document : Document) : List Definition := document.filter (!·.isIgnored)

/-- The names of the definitions that count, each at its first place. -/
def names (document : Document) : List String := (document.kept.filterMap (·.typeName?)).eraseDups

/-- A schema document that gives an identifier for its dialect, and definitions. -/
def envelope (schemaUri : Option String) (definitions : Members) : Members :=
  [("$schema", schemaUri.elim Datum.null Datum.text), ("definitions", .object definitions)]

/-- The definitions of a schema document, if it has any. -/
def definitionsOf (schema : Members) : Members :=
  match Entries.find? schema "definitions" with
  | some (.object definitions) => definitions
  | _ => []

theorem kept_eq_nil_iff {document : Document} :
    document.kept = [] ↔ ∀ definition ∈ document, definition.isIgnored = true := by
  simp [kept, List.filter_eq_nil_iff]

theorem schema_eq {document : Document} (options : Options) (h : document.kept ≠ []) :
    document.schema options = do
      return envelope options.schemaUri (← schemas options.handlers [] document.kept) := by
  unfold Document.schema
  split
  · next hnil => exact absurd hnil h
  · rfl

/-- The notices of a document are those of its definitions. -/
theorem notices_schema (document : Document) (options : Options) :
    (document.schema options).notices = (schemas options.handlers [] document.kept).notices := by
  by_cases hnil : document.kept = []
  · rw [schema_of_ignored (kept_eq_nil_iff.mp hnil), hnil]
    rfl
  · rw [schema_eq options hnil]
    cases hresult : (schemas options.handlers [] document.kept).result with
    | error fault => rw [bind_error hresult]
    | ok built =>
      rw [bind_ok hresult]
      exact List.append_nil _

/-- A document has a schema document just if its definitions that count have schemas. -/
theorem schema_eq_ok_iff {document : Document} {options : Options} {schema : Members} :
    (document.schema options).result = .ok schema
      ↔ ∃ bodies, List.Forall₂
            (fun definition body => (definition.schema options.handlers).result = .ok body)
            document.kept bodies
          ∧ schema = if document.kept = [] then [] else
              envelope options.schemaUri (Entries.ofPairs (bodies.map entry)) := by
  by_cases hnil : document.kept = []
  · rw [schema_of_ignored (kept_eq_nil_iff.mp hnil), result_pure, hnil]
    simp [eq_comm]
  · rw [schema_eq options hnil, result_bind_eq_ok]
    simp only [if_neg hnil]
    constructor
    · rintro ⟨built, hbuilt, h⟩
      obtain ⟨bodies, hbodies, rfl⟩ := schemas_eq_ok_iff.mp hbuilt
      cases h
      exact ⟨bodies, hbodies, rfl⟩
    · rintro ⟨bodies, hbodies, rfl⟩
      exact ⟨_, schemas_eq_ok_iff.mpr ⟨bodies, hbodies, rfl⟩, rfl⟩

/-- What definitions have been written is what a schema document has, be there none or some. -/
theorem definitionsOf_written {definitions : List Definition} {bodies : List Members}
    (h : List.Forall₂ (fun definition body => (definition.schema handlers).result = .ok body)
      definitions bodies) (schemaUri : Option String) :
    definitionsOf (if definitions = [] then [] else
        envelope schemaUri (Entries.ofPairs (bodies.map entry)))
      = Entries.ofPairs (bodies.map entry) := by
  cases h with
  | nil => rfl
  | cons => rfl

/-- The schemas of definitions have the names of these as titles. -/
theorem map_title_of_forall₂ {definitions : List Definition} {bodies : List Members}
    (h : List.Forall₂ (fun definition body => (definition.schema handlers).result = .ok body)
      definitions bodies) : bodies.map title = definitions.filterMap (·.typeName?) := by
  induction h with
  | nil => rfl
  | cons hbody _ ih =>
    rw [List.filterMap_cons_some (Definition.typeName?_of_schema hbody), List.map_cons, ih]

/-- Documents one after another have the definitions of the first one, into which those of the
second one are written. -/
theorem definitionsOf_append {first second : Document} {options : Options}
    {schema later : Members} (h : (first.schema options).result = .ok schema)
    (hlater : (second.schema options).result = .ok later) :
    ∃ joint, (Document.schema (first ++ second) options).result = .ok joint
      ∧ definitionsOf joint = Entries.merge (definitionsOf schema) (definitionsOf later) := by
  obtain ⟨bodies, hbodies, rfl⟩ := schema_eq_ok_iff.mp h
  obtain ⟨bodies', hbodies', rfl⟩ := schema_eq_ok_iff.mp hlater
  have hboth : List.Forall₂
      (fun definition body => (definition.schema options.handlers).result = .ok body)
      (kept (first ++ second)) (bodies ++ bodies') := by
    rw [kept, List.filter_append]
    exact List.rel_append hbodies hbodies'
  refine ⟨_, schema_eq_ok_iff.mpr ⟨_, hboth, rfl⟩, ?_⟩
  rw [definitionsOf_written hboth, definitionsOf_written hbodies, definitionsOf_written hbodies',
    Entries.merge_ofPairs, List.map_append]
  exact Entries.merge_append [] _ _

end Document

/-- The title of a schema is a text. -/
theorem Definition.find?_title {definition : Definition} {handlers : Handlers} {body : Members}
    (h : (definition.schema handlers).result = .ok body) :
    Entries.find? body "title" = some (.text (Document.title body)) := by
  cases definition with
  | scalar | «enum» =>
    cases h
    rfl
  | «union» =>
    obtain ⟨types, -, rfl⟩ := unionSchema_eq_ok h
    rfl
  | object | «interface» | inputObject =>
    obtain ⟨properties, -, rfl⟩ := objectSchema_eq_ok h
    rfl
  | directive | other => cases h

namespace Document

/-- A name of a definition that counts has a definition in force. -/
theorem exists_inForce {document : Document} {name : String} (h : name ∈ document.names) :
    ∃ definition, document.inForce name = some definition := by
  obtain ⟨definition, hmem, hname⟩ := List.mem_filterMap.mp (List.mem_eraseDups.mp h)
  have hnamed : definition ∈ document.kept.filter (·.typeName? == some name) :=
    List.mem_filter.mpr ⟨hmem, by simp [hname]⟩
  exact ⟨_, List.getLast?_eq_some_getLast (List.ne_nil_of_mem hnamed)⟩

/-- Under each name there is the schema of the last definition of it, with the name as title. -/
theorem find?_definitionsOf {document : Document} {options : Options} {schema : Members}
    (h : (document.schema options).result = .ok schema) {name : String}
    (hname : name ∈ document.names) :
    ∃ definition body, document.inForce name = some definition
      ∧ (definition.schema options.handlers).result = .ok body
      ∧ Entries.find? (definitionsOf schema) name = some (.object body)
      ∧ Entries.find? body "title" = some (.text name) := by
  obtain ⟨definition, hforce⟩ := exists_inForce hname
  obtain ⟨definitions, hdefinitions, hrenders⟩ := renders_of_schema h hforce
  obtain ⟨body, hbody, hfind⟩ := hrenders.find?_of_inForce hforce
  have htitle := Definition.typeName?_of_schema hbody
  rw [(typeName?_of_inForce hforce).2] at htitle
  refine ⟨definition, body, hforce, hbody, ?_, ?_⟩
  · rw [definitionsOf, hdefinitions]
    exact hfind
  · rw [Definition.find?_title hbody, ← Option.some.inj htitle]

theorem keys_definitionsOf {document : Document} {options : Options} {schema : Members}
    (h : (document.schema options).result = .ok schema) :
    Entries.keys (definitionsOf schema) = document.names.map Key.text := by
  obtain ⟨bodies, hbodies, rfl⟩ := schema_eq_ok_iff.mp h
  rw [definitionsOf_written hbodies, keys_written, map_title_of_forall₂ hbodies, names]

/-- Of the definitions that count, each has an entry of its own or is noticed to replace one. -/
theorem overwritings_schema {document : Document} {options : Options} {schema : Members}
    (h : (document.schema options).result = .ok schema) :
    overwritings (document.schema options).notices + (definitionsOf schema).length
      = document.kept.length + (document.kept.map fun definition =>
          overwritings (definition.schema options.handlers).notices).sum := by
  obtain ⟨bodies, hbodies, rfl⟩ := schema_eq_ok_iff.mp h
  have hschemas : (schemas options.handlers [] document.kept).result
      = .ok (Entries.ofPairs (bodies.map entry)) :=
    schemas_eq_ok_iff.mpr ⟨bodies, hbodies, rfl⟩
  rw [notices_schema, definitionsOf_written hbodies]
  simpa using overwritings_schemas hschemas

/-- The shape of a schema document. It is empty just if all definitions are ignored. Otherwise it
has the given identifier and the definitions, which are under the names of those that count, in the
order in which these come first; each is the schema of the last definition of its name, which is
its title. Every definition that counts and has no entry of its own is noticed, apart from the
notices that handlers give. The definitions of two documents together are those of the first one,
updated by those of the second one. -/
theorem schema_shape {document : Document} {options : Options} {schema : Members}
    (h : (document.schema options).result = .ok schema) :
    (schema = [] ↔ ∀ definition ∈ document, definition.isIgnored = true)
      ∧ (schema ≠ [] → schema = envelope options.schemaUri (definitionsOf schema))
      ∧ Entries.keys (definitionsOf schema) = document.names.map Key.text
      ∧ (∀ name ∈ document.names, ∃ definition body, document.inForce name = some definition
          ∧ (definition.schema options.handlers).result = .ok body
          ∧ Entries.find? (definitionsOf schema) name = some (.object body)
          ∧ Entries.find? body "title" = some (.text name))
      ∧ overwritings (document.schema options).notices + (definitionsOf schema).length
          = document.kept.length + (document.kept.map fun definition =>
              overwritings (definition.schema options.handlers).notices).sum
      ∧ (options.handlers.AreQuiet →
          overwritings (document.schema options).notices + (definitionsOf schema).length
            = document.kept.length)
      ∧ ∀ (second : Document) (later : Members), (second.schema options).result = .ok later →
          ∃ joint, (Document.schema (document ++ second) options).result = .ok joint
            ∧ definitionsOf joint
                = Entries.merge (definitionsOf schema) (definitionsOf later) := by
  have hempty : schema = [] ↔ document.kept = [] := by
    obtain ⟨bodies, -, rfl⟩ := schema_eq_ok_iff.mp h
    split_ifs with hnil <;> simp [envelope, hnil]
  refine ⟨hempty.trans kept_eq_nil_iff, fun hne => ?_, keys_definitionsOf h,
    fun name hname => find?_definitionsOf h hname, overwritings_schema h, fun hquiet => ?_,
    fun second later hlater => definitionsOf_append h hlater⟩
  · obtain ⟨bodies, hbodies, rfl⟩ := schema_eq_ok_iff.mp h
    rw [definitionsOf_written hbodies, if_neg (hempty.not.mp hne)]
  · have hcount := overwritings_schema h
    have hown : (document.kept.map fun definition =>
        overwritings (definition.schema options.handlers).notices).sum = 0 := by
      refine List.sum_eq_zero fun count hcount => ?_
      obtain ⟨definition, -, rfl⟩ := List.mem_map.mp hcount
      exact (hquiet.schema definition).overwritings
    omega

/-- A name that comes twice keeps its place, and the second definition is noticed. -/
theorem schema_shape_of_repeated :
    let document : Document :=
      [.scalar "A" [], .directive "d" [] false [], .union "B" [] [.named "A"],
        .scalar "StringValidationFormat" [], .enum "A" [] []]
    ∃ schema, (document.schema {}).result = .ok schema ∧ schema ≠ []
      ∧ Entries.keys (definitionsOf schema) = ["A", "B"].map Key.text
      ∧ overwritings (document.schema {}).notices + (definitionsOf schema).length = 3 := by
  intro document
  have hresult : (document.schema {}).result = .ok (envelope (some Dialect.draft04)
      [("A", .object [("title", .text "A"), ("type", .text Definition.enumType),
          ("enum", .list [])]),
        ("B", .object (Definition.unionEntries "B"
          [⟨[("$ref", .text (Keyword.referencePrefix ++ "A"))], false⟩]))]) := rfl
  obtain ⟨hempty, -, hkeys, -, -, hcount, -⟩ := schema_shape hresult
  refine ⟨_, hresult, fun hnil => ?_, hkeys, hcount Handlers.AreQuiet.nil⟩
  exact absurd (hempty.mp hnil (.scalar "A" []) List.mem_cons_self) (by decide)

end Document

end SchemaBridge
