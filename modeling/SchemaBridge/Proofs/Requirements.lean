import Mathlib
import SchemaBridge.Proofs.Contents
import SchemaBridge.Proofs.Totality

/-!
# Required names and properties

An object schema is made from the fields of a definition in two ways. The properties are written
one after another, so of the fields of one name the last one is left; the list of required names is
collected from all the fields. The two agree exactly if no required field has a later field of its
name, and nothing refuses other definitions.

* `Field.agree_iff_areLastIfRequired`: collected names against the last fields of names.
* `Definition.requiredNames_eq`: the required names are those of the required fields, in order.
* `Definition.mem_propertySchemas_iff`: a property comes from the last field of its name.
* `Definition.required_agrees_iff`: when the list agrees with the properties.
* `Definition.required_lists_name_twice`: a name that is required twice is listed twice.
-/

namespace SchemaBridge

/-! ## Fields in a row -/

namespace Field

/-- The names of the required fields, in order. -/
def neededNames (fields : List Field) : List String :=
  (fields.filter (·.type.isRequired)).map (·.name)

/-- The last field of a name. -/
def lastOf? (fields : List Field) (name : String) : Option Field :=
  (fields.filter (·.name == name)).getLast?

/-- No required field has a later field of its name. -/
def AreLastIfRequired (fields : List Field) : Prop :=
  fields.Pairwise fun field later => field.type.isRequired = true → later.name ≠ field.name

variable {fields : List Field} {last : Field}

theorem mem_neededNames {name : String} :
    name ∈ neededNames fields ↔
      ∃ field ∈ fields, field.type.isRequired = true ∧ field.name = name := by
  simp [neededNames, and_assoc]

theorem neededNames_concat : neededNames (fields ++ [last])
    = neededNames fields ++ if last.type.isRequired = true then [last.name] else [] := by
  rw [neededNames, List.filter_append, List.map_append, List.filter_singleton]
  cases last.type.isRequired <;> rfl

theorem nodup_neededNames_concat : (neededNames (fields ++ [last])).Nodup ↔
    (neededNames fields).Nodup ∧
      (last.type.isRequired = true → last.name ∉ neededNames fields) := by
  rw [neededNames_concat]
  split_ifs with hrequired
  · simp only [hrequired, true_implies, ← List.concat_eq_append, List.nodup_concat, and_comm]
  · simp [hrequired]

theorem lastOf?_nil (name : String) : lastOf? [] name = none := rfl

theorem lastOf?_concat (name : String) : lastOf? (fields ++ [last]) name
    = if last.name = name then some last else lastOf? fields name := by
  rw [lastOf?, List.filter_append]
  split_ifs with hname
  · rw [List.filter_cons_of_pos (by simpa using hname)]
    simp
  · rw [List.filter_cons_of_neg (by simpa using hname)]
    simp [lastOf?]

theorem mem_of_lastOf? {name : String} {field : Field} (h : lastOf? fields name = some field) :
    field ∈ fields ∧ field.name = name := by
  simpa using List.mem_filter.mp (List.mem_of_getLast? h)

theorem areLastIfRequired_concat : AreLastIfRequired (fields ++ [last]) ↔
    AreLastIfRequired fields ∧ last.name ∉ neededNames fields := by
  rw [AreLastIfRequired, List.pairwise_append, AreLastIfRequired, mem_neededNames]
  refine and_congr_right fun _ => ⟨fun h => ?_, fun h => ⟨List.pairwise_singleton _ _, ?_⟩⟩
  · rintro ⟨field, hfield, hrequired, hname⟩
    exact h.2 field hfield last List.mem_cons_self hrequired hname.symm
  · intro field hfield later hlater hrequired hname
    obtain rfl := List.mem_singleton.mp hlater
    exact h ⟨field, hfield, hrequired, hname.symm⟩

/-- The names that are collected from the required fields are all different, and they are those
whose last field is required, just if no required field has a later field of its name. -/
theorem agree_iff_areLastIfRequired (fields : List Field) :
    ((neededNames fields).Nodup ∧ ∀ name, name ∈ neededNames fields ↔
        ∃ field, lastOf? fields name = some field ∧ field.type.isRequired = true) ↔
      AreLastIfRequired fields := by
  induction fields using List.reverseRecOn with
  | nil => simp [neededNames, lastOf?, AreLastIfRequired]
  | append_singleton fields last ih =>
    have hmem (name : String) : name ∈ neededNames (fields ++ [last]) ↔
        name ∈ neededNames fields ∨ last.type.isRequired = true ∧ last.name = name := by
      simp only [mem_neededNames, List.mem_append, List.mem_singleton, or_and_right, exists_or,
        exists_eq_left]
    rw [nodup_neededNames_concat, areLastIfRequired_concat, ← ih]
    constructor
    · rintro ⟨⟨hnodup, hnew⟩, hiff⟩
      -- If the last name was collected before, its last field is required, and it comes again.
      have hlast : last.name ∉ neededNames fields := by
        intro hbefore
        obtain ⟨field, hfield, hrequired⟩ := (hiff last.name).mp ((hmem _).mpr (.inl hbefore))
        rw [lastOf?_concat, if_pos rfl] at hfield
        cases hfield
        exact hnew hrequired hbefore
      refine ⟨⟨hnodup, fun name => ?_⟩, hlast⟩
      have h := hiff name
      rw [hmem, lastOf?_concat] at h
      split_ifs at h with hname
      · subst hname
        refine ⟨fun hbefore => absurd hbefore hlast, fun ⟨field, hfield, hrequired⟩ => ?_⟩
        obtain ⟨hbefore, hname⟩ := mem_of_lastOf? hfield
        exact mem_neededNames.mpr ⟨field, hbefore, hrequired, hname⟩
      · simpa only [hname, and_false, or_false] using h
    · rintro ⟨⟨hnodup, hiff⟩, hlast⟩
      refine ⟨⟨hnodup, fun _ => hlast⟩, fun name => ?_⟩
      rw [hmem, lastOf?_concat]
      split_ifs with hname
      · subst hname
        simp [hlast]
      · simp only [hname, and_false, or_false]
        exact hiff name

end Field

/-! ## Object schemas -/

namespace Definition

/-- The names that a schema lists as required; without a list there are none. -/
def requiredNames (body : Members) : List Datum :=
  match Entries.find? body "required" with
  | some (.list names) => names
  | _ => []

variable {definition : Definition} {body : Members}

/-- The schema of a property under a name comes from a field: the last one of the name. -/
structure Shows (definition : Definition) (name : String) (field : Field) (schema : Datum) :
    Prop where
  last : definition.field? name = some field
  property : ∃ property, (field.property []).result = .ok property ∧
    schema = .object property.schema

/-- The list of required names holds each name once, and just those of the properties whose schemas
come from required fields. -/
structure Agrees (definition : Definition) (body : Members) : Prop where
  nodup : (requiredNames body).Nodup
  mem_iff : ∀ entry, entry ∈ requiredNames body ↔ ∃ name schema field,
    entry = .text name ∧ (.text name, schema) ∈ propertySchemas body ∧
      definition.Shows name field schema ∧ field.type.isRequired = true

theorem requiredNames_objectEntries (name : String) (properties : List Property) (isInput : Bool) :
    requiredNames (objectEntries name properties isInput)
      = ((properties.filter (·.required)).map (·.name)).map .text := by
  rw [requiredNames, objectEntries_eq]
  generalize (properties.filter (·.required)).map (·.name) = names
  cases names <;> cases isInput <;> rfl

theorem propertySchemas_objectEntries (name : String) (properties : List Property)
    (isInput : Bool) :
    propertySchemas (objectEntries name properties isInput)
      = Entries.ofPairs (properties.map fun property =>
          (Key.text property.name, propertySchema property)) := by
  rw [propertySchemas, objectEntries_eq]
  rfl

/-- Properties have the names of their fields, and are required where these are. -/
theorem map_name_filter_isRequired {fields : List Field} {properties : List Property}
    (h : List.Forall₂ (fun field property => (Field.property field []).result = .ok property)
      fields properties) :
    Field.neededNames fields = (properties.filter (·.required)).map (·.name) := by
  refine map_filter_of_forall₂ (fun field property hproperty => ?_)
    (fun field property hproperty => ?_) h
  · obtain ⟨type, keywords, htype, -, rfl⟩ := Field.property_eq_ok hproperty
    exact (TypeRef.required_eq htype).symm
  · obtain ⟨type, keywords, -, -, rfl⟩ := Field.property_eq_ok hproperty
    rfl

/-- The required names are those of the required fields, in their order. -/
theorem requiredNames_eq (h : (definition.schema []).result = .ok body) :
    requiredNames body = (Field.neededNames definition.fields).map .text := by
  cases definition with
  | scalar | «enum» =>
    cases h
    rfl
  | «union» name directives members =>
    obtain ⟨types, -, rfl⟩ := unionSchema_eq_ok h
    rfl
  | object name _ _ fields | «interface» name _ _ fields | inputObject name _ fields =>
    obtain ⟨properties, hproperties, rfl⟩ := objectSchema_eq_ok h
    rw [requiredNames_objectEntries,
      ← map_name_filter_isRequired (Conversion.forall₂_of_mapM hproperties)]
    rfl
  | directive | other => cases h

/-- What stands under a name in the properties comes from the last field of the name. -/
theorem mem_propertySchemas_iff (h : (definition.schema []).result = .ok body) (name : String)
    (schema : Datum) :
    (.text name, schema) ∈ propertySchemas body ↔
      ∃ field, definition.Shows name field schema := by
  have hshows : (∃ field, definition.Shows name field schema) ↔
      ∃ field, Field.lastOf? definition.fields name = some field ∧
        ∃ property, (field.property []).result = .ok property ∧
          schema = .object property.schema :=
    ⟨fun ⟨field, hshows⟩ => ⟨field, hshows.last, hshows.property⟩,
      fun ⟨field, hlast, hproperty⟩ => ⟨field, hlast, hproperty⟩⟩
  rw [hshows]
  cases definition with
  | scalar | «enum» =>
    cases h
    simp [propertySchemas, fields, Field.lastOf?_nil, Entries.find?, Key.beq_eq, Key.same]
  | «union» name directives members =>
    obtain ⟨types, -, rfl⟩ := unionSchema_eq_ok h
    simp [propertySchemas, fields, Field.lastOf?_nil, unionEntries, Entries.find?, Key.beq_eq,
      Key.same]
  | object _ _ _ fields | «interface» _ _ _ fields | inputObject _ _ fields =>
    obtain ⟨properties, -, hbody⟩ := objectSchema_eq_ok h
    rw [hbody, propertySchemas_objectEntries]
    exact mem_properties_of_objectSchema h (hbody ▸ mem_objectEntries _ properties _) name schema
  | directive | other => cases h

/-- The last field of a name has its schema among the properties. -/
theorem exists_shows (h : (definition.schema []).result = .ok body) {name : String} {field : Field}
    (hlast : Field.lastOf? definition.fields name = some field) :
    ∃ schema, definition.Shows name field schema := by
  have hmem := (Field.mem_of_lastOf? hlast).1
  suffices hproperty : ∃ property, (field.property []).result = .ok property by
    obtain ⟨property, hproperty⟩ := hproperty
    exact ⟨_, hlast, property, hproperty, rfl⟩
  cases definition with
  | object | «interface» | inputObject =>
    obtain ⟨properties, hproperties, -⟩ := objectSchema_eq_ok h
    obtain ⟨property, -, hproperty⟩ :=
      exists_mem_of_forall₂ (Conversion.forall₂_of_mapM hproperties).flip hmem
    exact ⟨property, hproperty⟩
  | _ => cases hmem

/-- Agreement, said of the names of the fields alone. -/
theorem agrees_iff_neededNames (h : (definition.schema []).result = .ok body) :
    definition.Agrees body ↔
      (Field.neededNames definition.fields).Nodup ∧
        ∀ name, name ∈ Field.neededNames definition.fields ↔
          ∃ field, Field.lastOf? definition.fields name = some field ∧
            field.type.isRequired = true := by
  have hinjective : Function.Injective Datum.text := fun _ _ => Datum.text.inj
  have hshown (name : String) : (∃ schema field, (.text name, schema) ∈ propertySchemas body ∧
        definition.Shows name field schema ∧ field.type.isRequired = true) ↔
      ∃ field, Field.lastOf? definition.fields name = some field ∧
        field.type.isRequired = true := by
    constructor
    · rintro ⟨schema, field, -, hshows, hrequired⟩
      exact ⟨field, hshows.last, hrequired⟩
    · rintro ⟨field, hlast, hrequired⟩
      obtain ⟨schema, hshows⟩ := exists_shows h hlast
      exact ⟨schema, field, (mem_propertySchemas_iff h name schema).mpr ⟨field, hshows⟩, hshows,
        hrequired⟩
  constructor
  · rintro ⟨hnodup, hmem⟩
    rw [requiredNames_eq h] at hnodup hmem
    refine ⟨hnodup.of_map _, fun name => ?_⟩
    rw [← hshown, ← List.mem_map_of_injective hinjective, hmem]
    constructor
    · rintro ⟨_, schema, field, ⟨⟩, hshows⟩
      exact ⟨schema, field, hshows⟩
    · rintro ⟨schema, field, hshows⟩
      exact ⟨name, schema, field, rfl, hshows⟩
  · rintro ⟨hnodup, hmem⟩
    refine ⟨requiredNames_eq h ▸ hnodup.map hinjective, fun entry => ?_⟩
    rw [requiredNames_eq h, List.mem_map]
    constructor
    · rintro ⟨name, hname, rfl⟩
      obtain ⟨schema, field, hshows⟩ := (hshown name).mpr ((hmem name).mp hname)
      exact ⟨name, schema, field, rfl, hshows⟩
    · rintro ⟨name, schema, field, rfl, hshows⟩
      exact ⟨name, (hmem name).mpr ((hshown name).mp ⟨schema, field, hshows⟩), rfl⟩

/-- A definition with types and values in their places has a schema if it is a type definition. The
list of required names agrees with the properties just if no required field has a later field of its
name. -/
theorem required_agrees_iff (definition : Definition) :
    (definition.isSupported = true → Document.IsWellFormed [definition] →
        ∃ body, (definition.schema []).result = .ok body) ∧
      ∀ body, (definition.schema []).result = .ok body →
        (∀ name schema, (.text name, schema) ∈ propertySchemas body ↔
            ∃ field, definition.Shows name field schema) ∧
          (definition.Agrees body ↔ Field.AreLastIfRequired definition.fields) := by
  refine ⟨fun hsupported hwell => hwell.exists_schema List.mem_cons_self hsupported,
    fun body hbody => ⟨mem_propertySchemas_iff hbody, ?_⟩⟩
  rw [agrees_iff_neededNames hbody]
  exact Field.agree_iff_areLastIfRequired definition.fields

/-- A field without arguments and directives. -/
def plainField (name : String) (type : TypeRef) : Field :=
  { name, type, fallback := none, directives := [], arguments := [] }

/-- A name that is repeated and required by its last field is listed once. -/
theorem required_agrees_for_last :
    let definition := object "T" [] [] [plainField "a" (.named "Int"),
      plainField "b" (.named "Int"), plainField "a" (.nonNull (.named "String"))]
    ∃ body, (definition.schema []).result = .ok body ∧ requiredNames body = [.text "a"] ∧
      definition.Agrees body := by
  intro definition
  have hwell : Document.IsWellFormed [definition] := by
    constructor
    · simp only [definition, types, fields, members, plainField]
      decide
    · simp [definition, fields, plainField]
  obtain ⟨body, hbody⟩ := (required_agrees_iff definition).1 rfl hwell
  have hlast : Field.AreLastIfRequired definition.fields := by
    simp [Field.AreLastIfRequired, definition, fields, plainField, TypeRef.isRequired]
  refine ⟨body, hbody, ?_, (((required_agrees_iff definition).2 body hbody).2).mpr hlast⟩
  rw [requiredNames_eq hbody]
  rfl

/-- A field that is written twice and required both times is listed twice. -/
theorem required_lists_name_twice :
    ¬ ∀ (definition : Definition) (body : Members),
      (definition.schema []).result = .ok body → definition.Agrees body := by
  intro h
  have hagrees := h (object "T" [] [] [plainField "a" (.nonNull (.named "Int")),
    plainField "a" (.nonNull (.named "Int"))]) _ rfl
  have hnames : [Datum.text "a", Datum.text "a"].Nodup := hagrees.nodup
  simp at hnames

end Definition

end SchemaBridge
