import Mathlib
import SchemaBridge.Proofs.Meaning
import SchemaBridge.Proofs.Transformation

/-!
# Definitions as generated schemas

The schemas of a document's definitions are generated schemas: a reference in the schema of a field
stands below a step into the value, and one in the schema of a union leads to a member. So if no
union contains itself, in however many turns, the definitions have levels.

* `TypeRef.generated`: the schema of a type reference.
* `Field.mem_directiveKeywords`: where the keywords of a field's directives come from.
* `Field.generated`: the schema of a property, whatever directives there are.
* `Definition.generated`: the schema of a definition.
* `Document.exists_layered`: the levels of the definitions of a document.
-/

namespace SchemaBridge

/-! ## Type references -/

namespace TypeRef

/-- The name at the innermost of a type reference. -/
def name? : TypeRef → Option String
  | named name => some name
  | list item => item.name?
  | nonNull inner => inner.name?
  | other _ => none

/-- A name with a schema of its own: that of a builtin scalar, or `DateTime`. -/
def isBuiltin (name : String) : Bool :=
  name = Keyword.dateTime || (Entries.find? Keyword.primitives name).isSome

/-- The definition that a type reference leads to at the same value. -/
def reference? : TypeRef → Option String
  | named name => if isBuiltin name then none else some name
  | nonNull inner => inner.reference?
  | list _ | other _ => none

theorem nameSchema_of_reference {name : String} (h : isBuiltin name = false) (inList : Bool) :
    nameSchema name inList = [(.text "$ref", Reference.toDefinition name)] := by
  rw [isBuiltin, Bool.or_eq_false_iff, decide_eq_false_iff_not, Option.isSome_eq_false_iff,
    Option.isNone_iff_eq_none] at h
  unfold nameSchema
  rw [if_neg h.1, h.2]
  rfl

theorem hasOnly_nameSchema {name : String} (h : isBuiltin name = true) (inList : Bool) :
    HasOnly ["type", "format"] (nameSchema name inList) := by
  rw [isBuiltin, Bool.or_eq_true, decide_eq_true_iff, Option.isSome_iff_exists] at h
  unfold nameSchema
  by_cases hdate : name = Keyword.dateTime
  · rw [if_pos hdate]
    exact hasOnly_cons.mpr ⟨⟨"type", by decide, rfl⟩,
      hasOnly_cons.mpr ⟨⟨"format", by decide, rfl⟩, hasOnly_nil _⟩⟩
  · obtain ⟨jsonType, hprimitive⟩ := h.resolve_left hdate
    rw [if_neg hdate, hprimitive]
    exact hasOnly_cons.mpr ⟨⟨"type", by decide, rfl⟩, hasOnly_nil _⟩

theorem resolve_eq_ok_nonNull {inner : TypeRef} {inList : Bool} {resolved : TypeSchema}
    (h : (nonNull inner).resolve inList = .ok resolved) :
    ∃ type, inner.resolve inList = .ok type ∧ resolved = ⟨type.schema, !inList⟩ := by
  rw [resolve_nonNull] at h
  cases hinner : inner.resolve inList with
  | error fault => rw [hinner] at h; cases h
  | ok type =>
    rw [hinner] at h
    cases h
    exact ⟨type, rfl, rfl⟩

theorem resolve_eq_ok_list {item : TypeRef} {inList : Bool} {resolved : TypeSchema}
    (h : (list item).resolve inList = .ok resolved) :
    ∃ type, item.resolve true = .ok type ∧
      resolved = ⟨[("type", .text "array"), ("items", .object type.schema)], false⟩ := by
  rw [resolve] at h
  cases hitem : item.resolve true with
  | error fault => rw [hitem] at h; cases h
  | ok type =>
    rw [hitem] at h
    cases h
    exact ⟨type, rfl, rfl⟩

variable {level : String → Nat} {top bound : Nat} {type : TypeRef} {inList : Bool}
  {resolved : TypeSchema}

theorem generated (h : type.resolve inList = .ok resolved)
    (hplain : ∀ name ∈ type.name?, Reference.IsPlain name)
    (htop : ∀ name, level name < top) (hpos : 0 < bound)
    (hlevel : ∀ name, type.reference? = some name → level name < bound) :
    Schema.Generated level top bound (.object resolved.schema) := by
  induction type generalizing inList resolved bound with
  | named name =>
    cases h
    cases hbuiltin : isBuiltin name with
    | true =>
      exact .of_plain ((hasOnly_nameSchema hbuiltin inList).mono (by decide)) hpos
    | false =>
      rw [nameSchema_of_reference hbuiltin]
      exact .reference rfl rfl (hplain name rfl) (hlevel name (by simp [reference?, hbuiltin]))
  | list item ih =>
    obtain ⟨type, hitem, rfl⟩ := resolve_eq_ok_list h
    have hgen : Schema.Generated level top top (.object type.schema) :=
      ih hitem hplain (Nat.zero_lt_of_lt (htop "")) fun name _ => htop name
    refine .keywords hpos ?_ ?_ ?_ ?_
    · exact hasOnly_cons.mpr ⟨⟨"type", by decide, rfl⟩,
        hasOnly_cons.mpr ⟨⟨"items", by decide, rfl⟩, hasOnly_nil _⟩⟩
    all_goals simp
    exact hgen
  | nonNull inner ih =>
    obtain ⟨type, hinner, rfl⟩ := resolve_eq_ok_nonNull h
    have hgen := ih hinner hplain hpos hlevel
    exact hgen
  | other kind => cases h

theorem hasOnly_resolve (h : type.resolve inList = .ok resolved) :
    HasOnly ["$ref", "type", "format", "items"] resolved.schema := by
  induction type generalizing inList resolved with
  | named name =>
    cases h
    cases hbuiltin : isBuiltin name with
    | true => exact (hasOnly_nameSchema hbuiltin inList).mono (by decide)
    | false =>
      rw [nameSchema_of_reference hbuiltin]
      exact hasOnly_cons.mpr ⟨⟨"$ref", by decide, rfl⟩, hasOnly_nil _⟩
  | list item =>
    obtain ⟨type, -, rfl⟩ := resolve_eq_ok_list h
    exact hasOnly_cons.mpr ⟨⟨"type", by decide, rfl⟩,
      hasOnly_cons.mpr ⟨⟨"items", by decide, rfl⟩, hasOnly_nil _⟩⟩
  | nonNull inner ih =>
    obtain ⟨type, hinner, rfl⟩ := resolve_eq_ok_nonNull h
    have honly := ih hinner
    exact honly
  | other kind => cases h

end TypeRef

/-- A type is required if it is non-null at the outermost. -/
def TypeRef.isRequired : TypeRef → Bool
  | .nonNull _ => true
  | _ => false

theorem TypeRef.required_eq {type : TypeRef} {resolved : TypeSchema}
    (h : type.resolve false = .ok resolved) : resolved.required = type.isRequired := by
  cases type with
  | named =>
    cases h
    rfl
  | list item =>
    obtain ⟨inner, -, rfl⟩ := resolve_eq_ok_list h
    rfl
  | nonNull inner =>
    obtain ⟨type, -, rfl⟩ := resolve_eq_ok_nonNull h
    rfl
  | other => cases h

/-! ## Properties -/

section

variable {keyword jsonType key : String}

/-- A keyword for a type stands in a row of the table. -/
theorem exists_row_of_mem {table : Table (List String)}
    (h : keyword ∈ (Entries.find? table jsonType).getD []) : ∃ row ∈ table, keyword ∈ row.2 := by
  cases hfind : Entries.find? table jsonType with
  | none => simp [hfind] at h
  | some keywords =>
    obtain ⟨name, hrow, -⟩ := Entries.mem_of_find? hfind
    exact ⟨_, hrow, by simpa [hfind] using h⟩

/-- A key is a keyword of one of the tables, with what stands before those of the table. -/
theorem exists_row_of_key? (h : Keyword.key? jsonType keyword = some key) :
    (∃ row ∈ Keyword.standard, keyword ∈ row.2 ∧ key = keyword) ∨
      ∃ row ∈ Keyword.extended, keyword ∈ row.2 ∧ key = Keyword.extendedPrefix ++ keyword := by
  unfold Keyword.key? at h
  split_ifs at h with hkeyword hprefixed
  · cases h
    obtain ⟨row, hrow, hmem⟩ := exists_row_of_mem (List.contains_iff_mem.mp hkeyword)
    exact .inl ⟨row, hrow, hmem, rfl⟩
  · cases h
    obtain ⟨row, hrow, hmem⟩ := exists_row_of_mem (List.contains_iff_mem.mp hprefixed)
    exact .inr ⟨row, hrow, hmem, rfl⟩

/-- The keys under which directives can contribute. -/
def Keyword.keys : List String :=
  standard.flatMap (·.2) ++ extended.flatMap fun row => row.2.map (extendedPrefix ++ ·)

theorem Keyword.mem_keys_of_key? (h : Keyword.key? jsonType keyword = some key) : key ∈ keys := by
  rcases exists_row_of_key? h with ⟨row, hrow, hmem, rfl⟩ | ⟨row, hrow, hmem, rfl⟩
  · exact List.mem_append_left _ (List.mem_flatMap.mpr ⟨row, hrow, hmem⟩)
  · exact List.mem_append_right _ (List.mem_flatMap.mpr ⟨row, hrow, List.mem_map_of_mem hmem⟩)

/-- Directives contribute keywords about the value itself. -/
theorem Keyword.keys_subset : keys ⊆ Schema.plainKeywords := by decide

end

section

variable {jsonType : Option String} {added : Members} {entry : Key × Datum}

/-- What an argument contributes: a value that was cast, under the key of its keyword. -/
theorem Argument.keyword_eq_ok {argument : Argument} {directive : String}
    (h : argument.keyword directive jsonType = .ok entry) :
    ∃ key taken, argument.key? jsonType = some key ∧
      Keyword.cast (Keyword.meant (jsonType.getD "") argument.name) argument.value.value
        = .ok taken ∧
      entry = (.text key, Keyword.settle (jsonType.getD "") taken) := by
  rw [keyword] at h
  cases hkey : argument.key? jsonType with
  | none => simp [hkey] at h
  | some key =>
    rw [hkey] at h
    dsimp only at h
    split at h
    · cases h
    · split at h
      · cases h
      · next hcast =>
        cases h
        exact ⟨key, _, rfl, hcast, rfl⟩

theorem Directive.exists_argument {directive : Directive}
    (h : entry ∈ directive.contributions jsonType) :
    ∃ argument ∈ directive.arguments, argument.keyword directive.name jsonType = .ok entry := by
  obtain ⟨argument, hmem, hkeyword⟩ := List.mem_filterMap.mp h
  cases hargument : argument.keyword directive.name jsonType with
  | error notice => simp [hargument, Except.toOption] at hkeyword
  | ok entry' =>
    rw [hargument] at hkeyword
    cases hkeyword
    exact ⟨argument, hmem, hargument⟩

theorem Directive.hasOnly_contributions (directive : Directive) (jsonType : Option String) :
    HasOnly Keyword.keys (directive.contributions jsonType) := by
  intro entry hentry
  obtain ⟨argument, -, hargument⟩ := exists_argument hentry
  obtain ⟨key, taken, hkey, -, rfl⟩ := Argument.keyword_eq_ok hargument
  exact ⟨key, Keyword.mem_keys_of_key? hkey, rfl⟩

/-- If no handlers are given, there is the builtin one. -/
theorem Handlers.find?_nil (name : String) :
    Handlers.find? [] name = if name = Directive.validate then some Handler.validate else none := by
  simp only [Handlers.find?, Handlers.builtin, Entries.find?, beq_iff_eq, @eq_comm String name]
  split_ifs <;> rfl

/-- Without handlers, what a directive adds are contributions of its arguments, and the directive is
the builtin one. -/
theorem Directive.mem_of_apply {directive : Directive}
    (h : (directive.apply jsonType []).result = .ok added) (hentry : entry ∈ added) :
    directive.name = validate ∧ entry ∈ directive.contributions jsonType := by
  rw [Directive.apply, Handlers.find?_nil] at h
  split_ifs at h with hname
  · obtain ⟨value, hvalue, h⟩ := Conversion.result_bind_eq_ok.mp h
    rw [Handler.validate] at hvalue
    split_ifs at hvalue
    cases hvalue
    cases h
    exact ⟨hname, ((directive.hasOnly_contributions jsonType).mem_merge hentry).resolve_left
      List.not_mem_nil⟩
  · cases h
    exact absurd hentry List.not_mem_nil

/-- Without handlers, the keywords of a field's directives are contributions of arguments of the
builtin one. -/
theorem Field.mem_directiveKeywords {directives : List Directive} {keywords result : Members}
    (h : (directiveKeywords jsonType [] keywords directives).result = .ok result)
    (hentry : entry ∈ result) :
    entry ∈ keywords ∨ ∃ directive ∈ directives, directive.name = Directive.validate
      ∧ entry ∈ directive.contributions jsonType := by
  induction directives generalizing keywords with
  | nil =>
    cases h
    exact .inl hentry
  | cons directive rest ih =>
    obtain ⟨added, hadded, h⟩ := Conversion.result_bind_eq_ok.mp h
    have honly : HasOnly Keyword.keys added := fun entry hentry =>
      directive.hasOnly_contributions jsonType entry (Directive.mem_of_apply hadded hentry).2
    rcases ih h with hentry | ⟨later, hlater, hentry⟩
    · exact (honly.mem_merge hentry).imp_right fun hentry =>
        ⟨directive, List.mem_cons_self, Directive.mem_of_apply hadded hentry⟩
    · exact .inr ⟨later, List.mem_cons_of_mem _ hlater, hentry⟩

theorem Field.hasOnly_directiveKeywords {directives : List Directive} {keywords : Members}
    (h : (directiveKeywords jsonType [] [] directives).result = .ok keywords) :
    HasOnly Keyword.keys keywords := by
  intro entry hentry
  rcases mem_directiveKeywords h hentry with hnil | ⟨directive, -, -, hentry⟩
  · cases hnil
  · exact directive.hasOnly_contributions jsonType entry hentry

end

theorem Field.property_eq_ok {field : Field} {handlers : Handlers} {property : Property}
    (h : (field.property handlers).result = .ok property) :
    ∃ type keywords, field.type.resolve false = .ok type ∧
      (directiveKeywords type.jsonType? handlers [] field.directives).result = .ok keywords ∧
      property = {
        name := field.name
        schema := Entries.merge (Entries.insert type.schema "title" (.text field.name)) keywords
        required := type.required } := by
  obtain ⟨type, htype, h⟩ := Conversion.result_bind_eq_ok.mp h
  obtain ⟨keywords, hkeywords, h⟩ := Conversion.result_bind_eq_ok.mp h
  cases h
  exact ⟨type, keywords, htype, hkeywords, rfl⟩

/-- A property is not composed of others, if no handlers are given. -/
theorem Field.propertySchema_eq {field : Field} {property : Property}
    (h : (field.property []).result = .ok property) :
    Definition.propertySchema property = .object property.schema := by
  obtain ⟨type, keywords, htype, hkeywords, rfl⟩ := property_eq_ok h
  have hadded := hasOnly_directiveKeywords hkeywords
  have honly : HasOnly ("$ref" :: "items" :: Schema.plainKeywords)
      (Entries.merge (Entries.insert type.schema "title" (.text field.name)) keywords) :=
    (((TypeRef.hasOnly_resolve htype).mono (by decide)).insert (by decide) _).merge
      (hadded.mono (by decide))
  rw [Definition.propertySchema, honly.find?_eq_none (by decide)]

section

variable {level : String → Nat} {top bound : Nat}

theorem Field.generated {field : Field} {property : Property}
    (h : (field.property []).result = .ok property)
    (hplain : ∀ name ∈ field.type.name?, Reference.IsPlain name)
    (htop : ∀ name, level name < top) :
    Schema.Generated level top top (Definition.propertySchema property) := by
  rw [propertySchema_eq h]
  obtain ⟨type, keywords, htype, hkeywords, rfl⟩ := property_eq_ok h
  exact ((TypeRef.generated htype hplain htop (Nat.zero_lt_of_lt (htop ""))
    fun name _ => htop name).insert (by decide) _).merge
      ((hasOnly_directiveKeywords hkeywords).mono Keyword.keys_subset)

end

/-! ## Definitions -/

namespace Definition

/-- The fields of a definition. -/
def fields : Definition → List Field
  | object _ _ _ fields | interface _ _ _ fields | inputObject _ _ fields => fields
  | _ => []

/-- The members of a union. -/
def members : Definition → List TypeRef
  | union _ _ members => members
  | _ => []

/-- The type references in a definition. -/
def types (definition : Definition) : List TypeRef :=
  definition.fields.map (·.type) ++ definition.members

end Definition

theorem Conversion.forall₂_of_mapM {α β : Type} {step : α → Conversion β} {items : List α}
    {values : List β} (h : (items.mapM step).result = .ok values) :
    List.Forall₂ (fun item value => (step item).result = .ok value) items values := by
  induction items generalizing values with
  | nil =>
    cases h
    exact .nil
  | cons item rest ih =>
    rw [List.mapM_cons] at h
    obtain ⟨value, hvalue, h⟩ := Conversion.result_bind_eq_ok.mp h
    obtain ⟨later, hlater, h⟩ := Conversion.result_bind_eq_ok.mp h
    cases h
    exact .cons hvalue (ih hlater)

theorem forall₂_of_mapM {α β : Type} {step : α → Except Fault β} {items : List α}
    {values : List β} (h : items.mapM step = .ok values) :
    List.Forall₂ (fun item value => step item = .ok value) items values := by
  induction items generalizing values with
  | nil =>
    cases h
    exact .nil
  | cons item rest ih =>
    rw [List.mapM_cons] at h
    cases hitem : step item with
    | error fault => simp [hitem, bind, Except.bind] at h
    | ok value =>
      cases hrest : rest.mapM step with
      | error fault => simp [hitem, hrest, bind, Except.bind] at h
      | ok later =>
        simp only [hitem, hrest, bind, Except.bind, pure, Except.pure, Except.ok.injEq] at h
        subst h
        exact .cons hitem (ih hrest)

/-- Properties of different names are written one behind the other. -/
theorem ofPairs_properties {properties : List Property}
    (h : (properties.map (·.name)).Nodup) :
    Entries.ofPairs (properties.map fun property =>
        (Key.text property.name, Definition.propertySchema property))
      = properties.map fun property =>
        (Key.text property.name, Definition.propertySchema property) := by
  refine Entries.merge_of_pairwise ?_
  rw [List.nil_append, Entries.keys, List.map_map, List.pairwise_map]
  rw [List.Nodup, List.pairwise_map] at h
  refine h.imp fun hne => ?_
  rw [Function.comp_apply, Function.comp_apply, Bool.eq_false_iff, ne_eq, Key.beq_text,
    Key.text.injEq]
  exact hne

theorem objectEntries_eq (name : String) (properties : List Property) (isInput : Bool) :
    Definition.objectEntries name properties isInput
      = [(Key.text "title", .text name), (Key.text "type", .text "object"),
         (Key.text "properties", .object (Entries.ofPairs (properties.map fun property =>
           (Key.text property.name, Definition.propertySchema property))))]
        ++ (if ((properties.filter (·.required)).map (·.name)).isEmpty then []
            else [(Key.text "required",
              Datum.list (((properties.filter (·.required)).map (·.name)).map .text))])
        ++ (if isInput then [(Key.text "input", Datum.bool true)] else []) := by
  rw [Definition.objectEntries, List.map_map]
  simp only [List.isEmpty_map]
  rfl

theorem mem_objectEntries (name : String) (properties : List Property) (isInput : Bool) :
    (Key.text "properties", Datum.object (Entries.ofPairs (properties.map fun property =>
      (Key.text property.name, Definition.propertySchema property))))
      ∈ Definition.objectEntries name properties isInput := by
  simp [objectEntries_eq]

theorem hasOnly_objectEntries (name : String) (properties : List Property) (isInput : Bool) :
    HasOnly ["title", "type", "properties", "required", "input"]
      (Definition.objectEntries name properties isInput) := by
  unfold Definition.objectEntries
  intro entry hentry
  simp only [List.mem_append, List.mem_cons, List.not_mem_nil, or_false] at hentry
  rcases hentry with (((rfl | rfl | rfl) | hentry) | hentry)
  · exact ⟨"title", by decide, rfl⟩
  · exact ⟨"type", by decide, rfl⟩
  · exact ⟨"properties", by decide, rfl⟩
  · split_ifs at hentry
    · cases hentry
    · rw [List.mem_singleton] at hentry
      exact ⟨"required", by decide, by rw [hentry]⟩
  · split_ifs at hentry
    · rw [List.mem_singleton] at hentry
      exact ⟨"input", by decide, by rw [hentry]⟩
    · cases hentry

theorem hasOnly_unionEntries (name : String) (types : List TypeSchema) :
    HasOnly ["title", "type", "oneOf"] (Definition.unionEntries name types) := by
  simp only [Definition.unionEntries, hasOnly_cons, hasOnly_nil, and_true, Key.text.injEq]
  decide

theorem exists_mem_of_forall₂ {α β : Type} {relation : α → β → Prop} {items : List α}
    {values : List β} (h : List.Forall₂ relation items values) {value : β} (hvalue : value ∈ values) :
    ∃ item ∈ items, relation item value := by
  induction h with
  | nil => cases hvalue
  | cons hfirst _ ih =>
    rcases List.mem_cons.mp hvalue with rfl | hvalue
    · exact ⟨_, List.mem_cons_self, hfirst⟩
    · obtain ⟨item, hitem, hrelation⟩ := ih hvalue
      exact ⟨item, List.mem_cons_of_mem _ hitem, hrelation⟩

/-- Lists side by side have the same labels, where what stands beside each other is kept alike. -/
theorem map_filter_of_forall₂ {α β γ : Type} {relation : α → β → Prop} {keep : α → Bool}
    {keep' : β → Bool} {label : α → γ} {label' : β → γ}
    (hkeep : ∀ item value, relation item value → keep item = keep' value)
    (hlabel : ∀ item value, relation item value → label item = label' value) {items : List α}
    {values : List β} (h : List.Forall₂ relation items values) :
    (items.filter keep).map label = (values.filter keep').map label' := by
  induction h with
  | nil => rfl
  | @cons item value _ _ hfirst _ ih =>
    rw [List.filter_cons, List.filter_cons, hkeep item value hfirst]
    split
    · rw [List.map_cons, List.map_cons, hlabel item value hfirst, ih]
    · exact ih

namespace Definition

variable {level : String → Nat} {top bound inner : Nat} {definition : Definition} {body : Members}

/-- The entry of an object schema under `properties`. -/
theorem eq_of_mem_objectEntries {name : String} {properties : List Property} {isInput : Bool}
    {value : Datum} (h : (.text "properties", value) ∈ objectEntries name properties isInput) :
    value = .object (Entries.ofPairs (properties.map fun property =>
      (Key.text property.name, propertySchema property))) := by
  unfold objectEntries at h
  simp only [List.mem_append, List.mem_cons, List.not_mem_nil, or_false, Prod.mk.injEq,
    Key.text.injEq] at h
  rcases h with ((h | h | h) | h) | h
  · exact absurd h.1 (by decide)
  · exact absurd h.1 (by decide)
  · exact h.2
  · split_ifs at h
    · cases h
    · simp at h
  · split_ifs at h
    · simp at h
    · cases h

theorem hasOnly_schema (h : (definition.schema []).result = .ok body) :
    HasOnly Schema.definitionKeywords body := by
  cases definition with
  | scalar | «enum» =>
    cases h
    simp only [hasOnly_cons, hasOnly_nil, and_true, Key.text.injEq]
    decide
  | «union» name directives members =>
    obtain ⟨types, -, rfl⟩ := unionSchema_eq_ok h
    exact (hasOnly_unionEntries name types).mono (by decide)
  | object name _ _ fields | «interface» name _ _ fields | inputObject name _ fields =>
    obtain ⟨properties, -, rfl⟩ := objectSchema_eq_ok h
    exact (hasOnly_objectEntries _ _ _).mono (by decide)
  | directive | other => cases h

theorem exists_field_of_objectSchema {name : String} {fields : List Field} {isInput : Bool}
    (h : (objectSchema name fields isInput []).result = .ok body) {schemas : Members}
    (hschemas : (.text "properties", .object schemas) ∈ body) {entry : Key × Datum}
    (hentry : entry ∈ schemas) :
    ∃ field ∈ fields, ∃ property, (field.property []).result = .ok property ∧
      entry = (.text property.name, propertySchema property) := by
  obtain ⟨properties, hproperties, rfl⟩ := objectSchema_eq_ok h
  cases eq_of_mem_objectEntries hschemas
  rcases Entries.mem_merge hentry with hnil | ⟨pair, hpair, hvalue, hkey⟩
  · cases hnil
  · obtain ⟨property, hproperty, rfl⟩ := List.mem_map.mp hpair
    obtain ⟨field, hfield, heq⟩ :=
      exists_mem_of_forall₂ (Conversion.forall₂_of_mapM hproperties) hproperty
    rw [Key.beq_text, or_self] at hkey
    exact ⟨field, hfield, property, heq, Prod.ext hkey hvalue⟩

/-- A property in the schema of a definition comes from a field. -/
theorem exists_field (h : (definition.schema []).result = .ok body) {schemas : Members}
    (hschemas : (.text "properties", .object schemas) ∈ body) {entry : Key × Datum}
    (hentry : entry ∈ schemas) :
    ∃ field ∈ definition.fields, ∃ property, (field.property []).result = .ok property ∧
      entry = (.text property.name, propertySchema property) := by
  cases definition with
  | scalar | «enum» =>
    cases h
    simp at hschemas
  | «union» name directives members =>
    obtain ⟨types, -, rfl⟩ := unionSchema_eq_ok h
    simp [unionEntries] at hschemas
  | object | «interface» | inputObject => exact exists_field_of_objectSchema h hschemas hentry
  | directive | other => cases h

/-- A type with fields says something of its parts only. -/
theorem generated_object {name : String} {fields : List Field} {isInput : Bool}
    (h : (objectSchema name fields isInput []).result = .ok body)
    (hplain : ∀ field ∈ fields, ∀ name ∈ field.type.name?, Reference.IsPlain name)
    (htop : ∀ name, level name < top) (hpos : 0 < bound) :
    Schema.Generated level top bound (.object body) := by
  have hparts {schemas : Members} (hschemas : (.text "properties", .object schemas) ∈ body) :
      ∀ entry ∈ schemas, Schema.Generated level top top entry.2 := by
    intro entry hentry
    obtain ⟨field, hfield, property, hproperty, rfl⟩ :=
      exists_field_of_objectSchema h hschemas hentry
    exact Field.generated hproperty (hplain field hfield) htop
  obtain ⟨properties, -, rfl⟩ := objectSchema_eq_ok h
  have honly := hasOnly_objectEntries name properties isInput
  exact .keywords hpos (honly.mono (by decide))
    (fun value h => (honly.not_mem (by decide) value h).elim)
    (fun schemas hschemas => hparts hschemas)
    fun value _ h => (honly.not_mem (by decide) value h).elim

/-- The schema of a definition, whose members stand below it. -/
theorem generated (h : (definition.schema []).result = .ok body)
    (hplain : ∀ type ∈ definition.types, ∀ name ∈ type.name?, Reference.IsPlain name)
    (htop : ∀ name, level name < top) (hinner : inner < bound) (hpos : 0 < inner)
    (hlevel : ∀ member ∈ definition.members, ∀ name, member.reference? = some name →
      level name < inner) :
    Schema.Generated level top bound (.object body) := by
  have hbound : 0 < bound := Nat.zero_lt_of_lt hinner
  cases definition with
  | scalar | «enum» =>
    cases h
    refine .of_plain ?_ hbound
    simp only [hasOnly_cons, hasOnly_nil, and_true, Key.text.injEq]
    decide
  | «union» name directives members =>
    obtain ⟨types, htypes, rfl⟩ := unionSchema_eq_ok h
    refine .keywords hinner ?_ ?_ ?_ ?_
    · exact (hasOnly_unionEntries name types).mono (by decide)
    · simp [unionEntries]
    · simp [unionEntries]
    · intro value branches hentry hbranches branch hbranch
      have hvalue : value = .list (types.map fun type => .object type.schema) := by
        simpa [unionEntries] using hentry
      rw [hvalue, Datum.items?, Option.some.injEq] at hbranches
      rw [← hbranches, List.mem_map] at hbranch
      obtain ⟨type, htype, rfl⟩ := hbranch
      obtain ⟨member, hmember, hresolve⟩ :=
        exists_mem_of_forall₂ (forall₂_of_mapM htypes) htype
      exact TypeRef.generated hresolve (hplain member (List.mem_append_right _ hmember)) htop hpos
        (hlevel member hmember)
  | object name _ _ fields | «interface» name _ _ fields | inputObject name _ fields =>
    refine generated_object h (fun field hfield => ?_) htop hbound
    exact hplain field.type (List.mem_append_left _ (List.mem_map_of_mem hfield))
  | directive | other => cases h

end Definition

/-! ## Levels -/

/-- In a relation that does not go round in circles, things can be ranked: above each stand more of
finitely many nodes than above what it leads to. -/
theorem exists_rank {α : Type} {edge : α → α → Prop}
    (hacyclic : ∀ a, ¬ Relation.TransGen edge a a) (nodes : Finset α) :
    ∃ rank : α → Nat, (∀ a, rank a ≤ nodes.card) ∧
      ∀ a b, edge a b → b ∈ nodes → rank b < rank a := by
  classical
  refine ⟨fun a => (nodes.filter (Relation.TransGen edge a)).card,
    fun a => Finset.card_filter_le _ _, fun a b hedge hb => Finset.card_lt_card ?_⟩
  refine Finset.ssubset_iff_of_subset (fun c hc => ?_) |>.mpr ⟨b, ?_, ?_⟩
  · rw [Finset.mem_filter] at hc ⊢
    exact ⟨hc.1, .head hedge hc.2⟩
  · exact Finset.mem_filter.mpr ⟨hb, .single hedge⟩
  · exact fun h => hacyclic b (Finset.mem_filter.mp h).2

namespace Document

/-- All names that are referred to stand for themselves in a pointer. -/
def IsPlain (document : Document) : Prop :=
  ∀ definition ∈ document, ∀ type ∈ definition.types, ∀ name ∈ type.name?, Reference.IsPlain name

instance (document : Document) : Decidable document.IsPlain := by
  unfold IsPlain
  infer_instance

/-- One definition is a union, and the other one a member of it. -/
def Contains (document : Document) (name other : String) : Prop :=
  ∃ definition, document.inForce name = some definition ∧
    ∃ member ∈ definition.members, member.reference? = some other

/-- If members have no members themselves, no union contains itself. -/
theorem acyclic_of_flat {document : Document}
    (h : ∀ name other, document.Contains name other → ∀ inner, ¬document.Contains other inner)
    (name : String) : ¬Relation.TransGen document.Contains name name := by
  intro hcycle
  obtain ⟨other, hother, hback⟩ := Relation.TransGen.head'_iff.mp hcycle
  rcases Relation.ReflTransGen.cases_head hback with rfl | ⟨inner, hinner, -⟩
  · exact h _ _ hother _ hother
  · exact h _ _ hother _ hinner

/-- The names that definitions stand under. -/
def definedNames (definitions : Members) : List String :=
  (Entries.keys definitions).filterMap fun
    | .text name => some name
    | _ => none

theorem length_definedNames_le (definitions : Members) :
    (definedNames definitions).length ≤ definitions.length :=
  (List.length_filterMap_le _ _).trans (by simp [Entries.keys])

theorem mem_definedNames {definitions : Members} {name : String} {contents : Datum}
    (hfind : Entries.find? definitions name = some contents) : name ∈ definedNames definitions := by
  obtain ⟨key, hkey, heq⟩ := Entries.mem_of_find? hfind
  rw [Key.beq_text] at heq
  subst heq
  exact List.mem_filterMap.mpr ⟨.text name, List.mem_map.mpr ⟨_, hkey, rfl⟩, rfl⟩

/-- If no union contains itself, the definitions of a document have levels. -/
theorem exists_layered {document : Document} {definitions : Members}
    (hrenders : document.Renders [] definitions) (hplain : document.IsPlain)
    (hacyclic : ∀ name, ¬ Relation.TransGen document.Contains name name) :
    ∃ level top, Schema.Layered level top definitions ∧ top ≤ 2 * definitions.length + 3 ∧
      ∀ name, level name < top := by
  classical
  let names := definedNames definitions
  have hlength : names.toFinset.card ≤ definitions.length :=
    (List.toFinset_card_le _).trans (length_definedNames_le definitions)
  have hdefined {name : String} {contents : Datum}
      (hfind : Entries.find? definitions name = some contents) : name ∈ names.toFinset :=
    List.mem_toFinset.mpr (mem_definedNames hfind)
  obtain ⟨rank, hrank, hedge⟩ := exists_rank hacyclic names.toFinset
  refine ⟨fun name => if name ∈ names.toFinset then 2 * rank name + 2 else 0,
    2 * definitions.length + 3, fun name contents hfind => ?_, le_rfl, fun name => ?_⟩
  · obtain ⟨definition, body, hforce, rfl, hbody⟩ := hrenders.find?_eq_some hfind
    dsimp only
    rw [if_pos (hdefined hfind)]
    refine Definition.generated hbody (hplain definition (typeName?_of_inForce hforce).1)
      (fun other => ?_) (Nat.lt_succ_self _) (Nat.succ_pos _) fun member hmember other href => ?_
    · have := hrank other
      split_ifs <;> omega
    · split_ifs with hother
      · have := hedge name other ⟨definition, hforce, member, hmember, href⟩ hother
        omega
      · exact Nat.succ_pos _
  · have := hrank name
    dsimp only
    split_ifs <;> omega

end Document

end SchemaBridge
