import Mathlib
import SchemaBridge.Proofs.Emission
import SchemaBridge.Proofs.Envelope

/-!
# What a schema document is made of

Whatever is written into a map can be replaced later: definitions by others of the same name, fields
too, and the keywords of directives. So what is left in a schema document is what was written last
under each name, and nothing else.

* `Entries.find?_ofPairs`, `find?_reverse_map`: what is left of entries that are written in turn.
* `Field.result_property`: what a property is made of, or why there is none.
* `Argument.find?_last`: the last argument for a key counts, if it has a value for it.
* `Field.find?_contributions`: the last argument under a key counts, if its value is taken as it
  stands.
* `Definition.mem_properties_of_objectSchema`: the last field of a name counts.
* `Document.exists_envelope`: the last definition of a name counts.
-/

namespace SchemaBridge

/-! ## Entries that are written in turn -/

namespace Entries

theorem pairwise_ofPairs {κ α : Type} [BEq κ] [PartialEquivBEq κ] (pairs : Entries κ α) :
    (keys (ofPairs pairs)).Pairwise fun key key' => (key' == key) = false := by
  induction pairs using List.reverseRecOn with
  | nil => exact List.Pairwise.nil
  | append_singleton rest entry ih =>
    have hlast : ofPairs (rest ++ [entry]) = insert (ofPairs rest) entry.1 entry.2 :=
      merge_append [] rest [entry]
    exact hlast ▸ pairwise_insert ih

/-- An entry under a text is found there, if the keys are different. -/
theorem find?_of_mem {entries : Members}
    (h : (keys entries).Pairwise fun key key' => (key' == key) = false) {name : String}
    {value : Datum} (hmem : (.text name, value) ∈ entries) :
    find? entries (.text name) = some value := by
  induction entries with
  | nil => cases hmem
  | cons entry rest ih =>
    obtain ⟨key, first⟩ := entry
    obtain ⟨hdifferent, hrest⟩ := List.pairwise_cons.mp h
    rcases List.mem_cons.mp hmem with heq | hmem
    · cases heq
      rw [find?, if_pos (Key.beq_text.mpr rfl)]
    · have hne : ¬(key == .text name) = true := fun hkey => by
        have hsame := hdifferent (.text name) (List.mem_map.mpr ⟨_, hmem, rfl⟩)
        rw [Key.beq_text.mp hkey, Key.beq_text.mpr rfl] at hsame
        cases hsame
      rw [find?, if_neg hne]
      exact ih hrest hmem

/-- Of pairs that are written in turn, the last one of each name is left. -/
theorem find?_ofPairs (pairs : Members) (key : Key) :
    find? (ofPairs pairs) key = find? pairs.reverse key := by
  rw [ofPairs, find?_merge, find?, Option.or_none]

theorem mem_ofPairs_iff {pairs : Members} {name : String} {value : Datum} :
    (.text name, value) ∈ ofPairs pairs ↔ find? pairs.reverse (.text name) = some value := by
  rw [← find?_ofPairs]
  exact ⟨find?_of_mem (pairwise_ofPairs pairs), Schema.mem_of_find?_text⟩

/-- What is found from behind stands for the last item of the name. -/
theorem find?_reverse_map {α : Type} (items : List α) (label : α → String) (value : α → Datum)
    (name : String) :
    find? (items.map fun item => (Key.text (label item), value item)).reverse (.text name)
      = ((items.filter (label · == name)).getLast?).map value := by
  induction items using List.reverseRecOn with
  | nil => rfl
  | append_singleton rest last ih =>
    rw [List.map_append, List.map_singleton, List.reverse_append, List.reverse_singleton,
      List.singleton_append, find?, List.filter_append]
    by_cases hlast : label last = name
    · rw [if_pos (by rw [Key.beq_text, hlast]), List.filter_cons_of_pos (by simp [hlast])]
      simp
    · rw [if_neg (by rw [Key.beq_text, Key.text.injEq]; exact hlast), ih,
        List.filter_cons_of_neg (by simpa using hlast)]
      simp

end Entries

/-! ## Keywords of directives -/

/-- The keys under which the value of an argument stands as it is. -/
def Keyword.given : List String := ["pattern", "format", "ext_format"]

namespace Field

/-- The arguments of the builtin directives on a field, one directive after another. -/
def validations (field : Field) : List Argument :=
  (field.directives.filter (·.name == Directive.validate)).flatMap (·.arguments)

/-- The JSON type of the values of a field, if there is a single one. -/
def jsonType? (field : Field) : Option String :=
  (field.type.resolve false).toOption.bind (·.jsonType?)

/-- The last argument of the builtin directives that means a key. -/
def given? (field : Field) (key : String) : Option Argument :=
  (field.validations.filter (·.key? field.jsonType? == some key)).getLast?

/-- What the arguments of the builtin directives contribute, in order. -/
def contributions (field : Field) : Members :=
  field.validations.filterMap fun argument =>
    (argument.keyword Directive.validate field.jsonType?).toOption

end Field

/-- The arguments of the builtin directives among others, in order. -/
def Directive.validations (directives : List Directive) : List Argument :=
  (directives.filter (·.name == Directive.validate)).flatMap (·.arguments)

/-- What arguments of the builtin directive contribute in turn, if all of them can be read. -/
def Argument.contributed? (jsonType : Option String) (arguments : List Argument) : Option Members :=
  if arguments.all (·.isReadable jsonType) then
    some (arguments.filterMap fun argument =>
      (argument.keyword Directive.validate jsonType).toOption)
  else none

theorem Argument.contributed?_append (jsonType : Option String) (first second : List Argument) :
    contributed? jsonType (first ++ second)
      = (contributed? jsonType first).bind fun members =>
          (contributed? jsonType second).map (members ++ ·) := by
  rw [contributed?, contributed?, contributed?, List.all_append, List.filterMap_append]
  cases first.all (·.isReadable jsonType) <;> cases second.all (·.isReadable jsonType) <;> rfl

/-- Without handlers, only a builtin directive adds keywords. -/
theorem Directive.result_apply (directive : Directive) (jsonType : Option String) :
    (directive.apply jsonType []).result =
      if directive.name = Directive.validate then
        (Argument.contributed? jsonType directive.arguments).elim (.error .wrongKind) fun added =>
          .ok (Entries.ofPairs added)
      else .ok [] := by
  rw [Directive.apply, Handlers.find?_nil]
  split_ifs with hname
  · dsimp only
    rw [Handler.validate, Argument.contributed?]
    split_ifs
    · rw [Directive.keywords, Directive.contributions, hname]
      rfl
    · rfl
  · rfl

/-- Without handlers, directives add what the arguments of the builtin ones contribute. -/
theorem Field.result_directiveKeywords (jsonType : Option String) (directives : List Directive)
    (keywords : Members) :
    (directiveKeywords jsonType [] keywords directives).result =
      (Argument.contributed? jsonType (Directive.validations directives)).elim (.error .wrongKind)
        fun added => .ok (Entries.merge keywords added) := by
  induction directives generalizing keywords with
  | nil => rfl
  | cons directive rest ih =>
    have happly := directive.result_apply jsonType
    rw [directiveKeywords]
    by_cases hname : directive.name = Directive.validate
    · rw [if_pos hname] at happly
      rw [Directive.validations, List.filter_cons_of_pos (by simpa using hname), List.flatMap_cons,
        Argument.contributed?_append]
      cases hfirst : Argument.contributed? jsonType directive.arguments with
      | none =>
        rw [hfirst] at happly
        rw [Conversion.bind_error happly]
        rfl
      | some first =>
        rw [hfirst] at happly
        rw [Conversion.bind_ok happly]
        dsimp only
        rw [ih, Entries.merge_ofPairs, Option.bind_some, Directive.validations]
        cases Argument.contributed? jsonType _ with
        | none => rfl
        | some others => exact congrArg Except.ok (Entries.merge_append keywords first others).symm
    · rw [if_neg hname] at happly
      rw [Conversion.bind_ok happly, Directive.validations,
        List.filter_cons_of_neg (by simpa using hname)]
      exact ih keywords

theorem Field.jsonType?_of_resolve {field : Field} {type : TypeSchema}
    (h : field.type.resolve false = .ok type) : field.jsonType? = type.jsonType? := by
  rw [jsonType?, h]
  rfl

/-- A property is the schema of the type with a title, into which the contributions are written. -/
theorem Field.result_property (field : Field) :
    (field.property []).result = (field.type.resolve false).bind fun type =>
      (Argument.contributed? field.jsonType? field.validations).elim (.error .wrongKind)
        fun added => .ok {
          name := field.name
          schema := Entries.merge (Entries.insert type.schema "title" (.text field.name)) added
          required := type.required } := by
  rw [property]
  cases htype : field.type.resolve false with
  | error fault => rfl
  | ok type =>
    have hkeywords := result_directiveKeywords type.jsonType? field.directives []
    rw [← jsonType?_of_resolve htype] at hkeywords
    rw [Conversion.bind_ok rfl]
    dsimp only
    rw [← jsonType?_of_resolve htype]
    change _ = (Argument.contributed? field.jsonType? (Directive.validations _)).elim _ _
    cases hadded : Argument.contributed? field.jsonType?
        (Directive.validations field.directives) with
    | none =>
      rw [hadded] at hkeywords
      rw [Conversion.bind_error hkeywords]
      rfl
    | some added =>
      rw [hadded] at hkeywords
      rw [Conversion.bind_ok hkeywords]
      exact congrArg (fun schema => Except.ok (Property.mk field.name schema type.required))
        (Entries.merge_ofPairs _ added)

theorem Field.property_eq_written {field : Field} {property : Property}
    (h : (field.property []).result = .ok property) :
    ∃ type, field.type.resolve false = .ok type ∧ property = {
      name := field.name
      schema := Entries.merge (Entries.insert type.schema "title" (.text field.name))
        field.contributions
      required := type.required } := by
  rw [result_property] at h
  cases htype : field.type.resolve false with
  | error fault =>
    rw [htype] at h
    cases h
  | ok type =>
    rw [htype, Argument.contributed?] at h
    split_ifs at h
    · cases h
      exact ⟨type, rfl, rfl⟩
    · cases h

/-- A contribution comes from an argument of a builtin directive. -/
theorem Field.exists_argument {field : Field} {entry : Key × Datum}
    (h : entry ∈ field.contributions) :
    ∃ argument ∈ field.validations,
      argument.keyword Directive.validate field.jsonType? = .ok entry := by
  obtain ⟨argument, hargument, hkeyword⟩ := List.mem_filterMap.mp h
  exact ⟨argument, hargument, eq_ok_of_toOption hkeyword⟩

section

variable {argument : Argument} {jsonType : Option String} {key : String}

/-- Values that stand as they are belong to keywords that are neither numbers nor booleans, and to
types other than the integers. -/
theorem Keyword.of_given {jsonType keyword : String} (h : key? jsonType keyword = some key)
    (hgiven : key ∈ given) : keyword ∉ numeric ∧ keyword ∉ boolean ∧ jsonType ≠ "integer" := by
  have hstandard : ∀ row ∈ standard, ∀ name ∈ row.2, name ∈ given →
      name ∉ numeric ∧ name ∉ boolean := by decide
  have hextended : ∀ row ∈ extended, ∀ name ∈ row.2, name ∉ numeric ∧ name ∉ boolean := by decide
  have hkeyword : keyword ∉ numeric ∧ keyword ∉ boolean := by
    rcases exists_row_of_key? h with ⟨row, hrow, hmem, rfl⟩ | ⟨row, hrow, hmem, -⟩
    · exact hstandard row hrow _ hmem hgiven
    · exact hextended row hrow _ hmem
  refine ⟨hkeyword.1, hkeyword.2, ?_⟩
  rintro rfl
  have hinteger : Entries.find? standard "integer" = some ["minimum", "maximum"] := rfl
  have hnone : Entries.find? extended "integer" = none := rfl
  have hbounds : ∀ name ∈ ["minimum", "maximum"], name ∈ numeric := by decide
  rw [key?, hinteger, hnone] at h
  split_ifs at h with hmem hmem
  · exact hkeyword.1 (hbounds keyword (by simpa using hmem))
  · simp at hmem

/-- Under some keys, a value stands as it is. -/
theorem Argument.keyword_of_given (hkey : argument.key? jsonType = some key)
    (hgiven : key ∈ Keyword.given) (hvalue : argument.value.value ≠ .undefined)
    (directive : String) :
    argument.keyword directive jsonType = .ok (.text key, argument.value.value) := by
  obtain ⟨hnumeric, hboolean, hinteger⟩ := Keyword.of_given hkey hgiven
  have hcast : Keyword.cast (Keyword.meant (jsonType.getD "") argument.name) argument.value.value
      = .ok argument.value.value := by
    rw [Keyword.cast, if_neg (by simpa using hnumeric), if_neg (by simpa using hboolean)]
  have hsettle : Keyword.settle (jsonType.getD "") argument.value.value
      = argument.value.value := by
    unfold Keyword.settle
    split
    · next hnumber => rw [if_neg hinteger, hnumber]
    · rfl
  rw [keyword, hkey]
  dsimp only
  split
  · next hundefined => exact absurd hundefined hvalue
  · rw [hcast]
    dsimp only
    rw [hsettle]

/-- A constant is no absent value. -/
theorem Literal.IsConstant.value_ne {literal : Literal} (h : literal.IsConstant) :
    literal.value ≠ .undefined := by
  cases h with
  | int spelling =>
    rw [value]
    split <;> exact Datum.noConfusion
  | _ =>
    rw [value]
    exact Datum.noConfusion

/-- The last argument for a key counts, if it has a value for it. -/
theorem Argument.find?_last {arguments : List Argument} {directive : String}
    (h : ∀ argument, (arguments.filter (·.key? jsonType == some key)).getLast? = some argument →
      ∃ value, argument.keyword directive jsonType = .ok (.text key, value)) :
    Entries.find? (arguments.filterMap fun argument =>
        (argument.keyword directive jsonType).toOption).reverse (.text key)
      = ((arguments.filter (·.key? jsonType == some key)).getLast?).bind fun argument =>
          (argument.keyword directive jsonType).toOption.map (·.2) := by
  induction arguments using List.reverseRecOn with
  | nil => rfl
  | append_singleton rest last ih =>
    rw [List.filter_append] at h
    rw [List.filterMap_append, List.reverse_append, Entries.find?_append, List.filter_append]
    by_cases hkey : last.key? jsonType = some key
    · rw [List.filter_cons_of_pos (by simp [hkey])] at h ⊢
      obtain ⟨value, hvalue⟩ := h last (by simp)
      rw [List.filterMap_cons, hvalue]
      simp [Except.toOption, Entries.find?, Key.beq_text, hvalue]
    · rw [List.filter_cons_of_neg (by simpa using hkey), List.filter_nil, List.append_nil] at h ⊢
      have hnone : Entries.find? ([last].filterMap fun argument =>
          (argument.keyword directive jsonType).toOption).reverse (.text key) = none := by
        rw [List.filterMap_cons]
        cases hkeyword : last.keyword directive jsonType with
        | error notice => rfl
        | ok entry =>
          obtain ⟨key', taken, hkey', -, rfl⟩ := keyword_eq_ok hkeyword
          have hne : key' ≠ key := fun heq => hkey (heq ▸ hkey')
          simp [Except.toOption, Entries.find?, Key.beq_text, hne]
      rw [hnone, Option.none_or, ih h]

/-- Under such a key, the last argument for it counts. -/
theorem Argument.find?_contributed {arguments : List Argument}
    (hconstants : ∀ argument ∈ arguments, argument.value.IsConstant)
    (hgiven : key ∈ Keyword.given) (directive : String) :
    Entries.find? (arguments.filterMap fun argument =>
        (argument.keyword directive jsonType).toOption).reverse (.text key)
      = ((arguments.filter (·.key? jsonType == some key)).getLast?).map fun argument =>
          argument.value.value := by
  have hlast (argument : Argument)
      (h : (arguments.filter (·.key? jsonType == some key)).getLast? = some argument) :
      argument.keyword directive jsonType = .ok (.text key, argument.value.value) := by
    obtain ⟨hmem, hkey⟩ := List.mem_filter.mp (List.mem_of_getLast? h)
    have hvalue := (hconstants argument hmem).value_ne
    exact keyword_of_given (by simpa using hkey) hgiven hvalue directive
  rw [find?_last fun argument h => ⟨_, hlast argument h⟩]
  cases h : (arguments.filter (·.key? jsonType == some key)).getLast? with
  | none => rfl
  | some argument => simp [hlast argument h, Except.toOption]

end

namespace Field

variable {field : Field}

theorem isConstant_of_mem_validations
    (hconstants : ∀ directive ∈ field.directives, directive.IsConstant) :
    ∀ argument ∈ field.validations, argument.value.IsConstant := by
  intro argument hargument
  obtain ⟨directive, hdirective, hmem⟩ := List.mem_flatMap.mp hargument
  exact hconstants directive (List.mem_of_mem_filter hdirective) argument hmem

theorem find?_contributions {key : String}
    (hconstants : ∀ directive ∈ field.directives, directive.IsConstant)
    (hgiven : key ∈ Keyword.given) :
    Entries.find? field.contributions.reverse (.text key)
      = (field.given? key).map fun argument => argument.value.value :=
  Argument.find?_contributed (isConstant_of_mem_validations hconstants) hgiven _

end Field

/-! ## Properties of definitions -/

namespace Definition

variable {definition : Definition} {body schemas : Members}

/-- The last field of a name. -/
def field? (definition : Definition) (name : String) : Option Field :=
  (definition.fields.filter (·.name == name)).getLast?

/-- The schemas of the properties, by name. -/
def propertySchemas (body : Members) : Members :=
  match Entries.find? body "properties" with
  | some (.object schemas) => schemas
  | _ => []

theorem getLast?_of_forall₂ {α β : Type} {relation : α → β → Prop} {items : List α}
    {values : List β} (h : List.Forall₂ relation items values) :
    Option.Rel relation items.getLast? values.getLast? := by
  have hreverse := List.rel_reverse h
  rw [← List.head?_reverse, ← List.head?_reverse]
  generalize items.reverse = backwards at hreverse ⊢
  generalize values.reverse = backwards' at hreverse ⊢
  cases hreverse with
  | nil => exact .none
  | cons hfirst _ => exact .some hfirst

/-- Under the name of a property there is what the last field of the name becomes. -/
theorem mem_properties_of_objectSchema {name : String} {fields : List Field} {isInput : Bool}
    (h : (objectSchema name fields isInput []).result = .ok body)
    (hschemas : (.text "properties", .object schemas) ∈ body) (title : String) (value : Datum) :
    (.text title, value) ∈ schemas ↔
      ∃ field, (fields.filter (·.name == title)).getLast? = some field ∧
        ∃ property, (field.property []).result = .ok property ∧ value = .object property.schema := by
  obtain ⟨properties, hproperties, rfl⟩ := objectSchema_eq_ok h
  cases eq_of_mem_objectEntries hschemas
  have hbeside := Conversion.forall₂_of_mapM hproperties
  have hnames (field : Field) (property : Property)
      (hproperty : (field.property []).result = .ok property) :
      (field.name == title) = true ↔ (property.name == title) = true := by
    obtain ⟨type, keywords, -, -, rfl⟩ := Field.property_eq_ok hproperty
    exact Iff.rfl
  have hlast := getLast?_of_forall₂ (List.rel_filter hnames hbeside)
  rw [Entries.mem_ofPairs_iff, Entries.find?_reverse_map properties (·.name) propertySchema]
  generalize (fields.filter (·.name == title)).getLast? = last at hlast ⊢
  generalize (properties.filter (·.name == title)).getLast? = last' at hlast ⊢
  cases hlast with
  | none => simp
  | some hproperty => simp [hproperty, Field.propertySchema_eq hproperty, eq_comm]

theorem field?_mem {name : String} {field : Field} (h : definition.field? name = some field) :
    field ∈ definition.fields ∧ field.name = name := by
  have hmem := List.mem_filter.mp (List.mem_of_getLast? h)
  exact ⟨hmem.1, by simpa using hmem.2⟩

end Definition

/-! ## Definitions of documents -/

namespace Document

/-- A schema document that is not empty has under each name the schema of the definition that is in
force, and nothing else. -/
theorem exists_envelope {document : Document} {schemaUri : Option String} {schema : Members}
    (h : (document.schema { schemaUri }).result = .ok schema) (hne : schema ≠ []) :
    ∃ definitions, schema = envelope schemaUri definitions ∧
      (∀ entry ∈ definitions, ∃ name, entry.1 = .text name) ∧
      ∀ name value, (.text name, value) ∈ definitions ↔
        ∃ definition body, document.inForce name = some definition ∧
          (definition.schema []).result = .ok body ∧ value = .object body := by
  obtain ⟨bodies, hbodies, hschema⟩ := schema_eq_ok_iff.mp h
  rw [if_neg fun hnil => hne (by rw [hschema, if_pos hnil])] at hschema
  have hrenders : document.Renders [] (Entries.ofPairs (bodies.map entry)) :=
    renders_of_find? h (by rw [hschema]; rfl)
  refine ⟨_, hschema, fun pair hpair => ?_, fun name value => ?_⟩
  · rcases Entries.mem_merge hpair with hnil | ⟨written, hwritten, -, hkey⟩
    · cases hnil
    · obtain ⟨body, -, rfl⟩ := List.mem_map.mp hwritten
      rw [entry, Key.beq_text, or_self] at hkey
      exact ⟨_, hkey⟩
  · constructor
    · intro hmem
      obtain ⟨definition, body, hforce, hvalue, hbody⟩ := hrenders.find?_eq_some
        (Entries.find?_of_mem (Entries.pairwise_ofPairs _) hmem)
      exact ⟨definition, body, hforce, hbody, hvalue⟩
    · rintro ⟨definition, body, hforce, hbody, rfl⟩
      obtain ⟨body', hbody', hfind⟩ := hrenders.find?_of_inForce hforce
      rw [hbody] at hbody'
      cases hbody'
      exact Schema.mem_of_find?_text hfind

end Document

end SchemaBridge
