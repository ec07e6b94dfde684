import Mathlib
import SchemaBridge.Proofs.Contents
import SchemaBridge.Proofs.PlainData
import SchemaBridge.Proofs.Totality

/-!
# What directives add to the schema of a type

A property has the schema of its field's type and more. What directives add stands under keywords
that the tables allow for the JSON type, and those leave alone what makes the schema one of a type:
its name, its items, and the definition that it refers to. Numeric keywords get numbers that data
can be compared with, and boolean ones get booleans.

* `Keyword.mem_allowed`: an argument writes under a key that is allowed for the type.
* `Argument.fits`: what an argument contributes fits its key.
* `Argument.keyword_of_toNumber`: what an argument contributes under a numeric key.
* `TypeRef.hasOnly_allowed`: a type has a format only where formats are allowed.
* `Field.property_extends`: what a property has in common with its type, and what it adds.
-/

namespace SchemaBridge

/-! ## Values that fit their keywords -/

/-- A number that bounds are compared with: an integer, or a finite number with a fraction. -/
def Datum.IsBound : Datum → Prop
  | .number (.int _) => True
  | .number (.float (.finite x)) => x.isIntegral = false
  | _ => False

namespace Keyword

/-- The keywords that the tables allow for a type, as they stand in a schema. -/
def allowed (jsonType : Option String) : List String :=
  (Entries.find? standard (jsonType.getD "")).getD []
    ++ ((Entries.find? extended (jsonType.getD "")).getD []).map (extendedPrefix ++ ·)

/-- The value is of the kind that a schema of the type has under the key. -/
structure Fits (jsonType : Option String) (key : String) (value : Datum) : Prop where
  bound : key ∈ numeric → value.IsBound
  whole : key ∈ numeric → jsonType = some "integer" → ∃ number, value = .int number
  boolean : key ∈ boolean → ∃ choice, value = .bool choice

variable {jsonType : Option String} {keyword key : String}

/-- A key that is neither numeric nor boolean may have any value. -/
theorem Fits.of_not_mem (h : key ∉ numeric ++ Keyword.boolean) (value : Datum) :
    Fits jsonType key value := by
  simp only [List.mem_append, not_or] at h
  exact ⟨fun hmem => absurd hmem h.1, fun hmem => absurd hmem h.1, fun hmem => absurd hmem h.2⟩

theorem Fits.of_boolean (h : key ∈ Keyword.boolean) (choice : Bool) :
    Fits jsonType key (.bool choice) := by
  have hnumeric := not_mem_numeric h
  exact ⟨fun hmem => absurd hmem hnumeric, fun hmem => absurd hmem hnumeric, fun _ => ⟨choice, rfl⟩⟩

theorem mem_allowed (h : key? (jsonType.getD "") keyword = some key) : key ∈ allowed jsonType := by
  unfold key? at h
  rw [allowed, List.mem_append]
  split_ifs at h with hstandard hextended
  · cases h
    exact .inl (List.contains_iff_mem.mp hstandard)
  · cases h
    exact .inr (List.mem_map_of_mem (List.contains_iff_mem.mp hextended))

/-- What is allowed for some type stands under one of the keys of directives. -/
theorem allowed_subset_keys (jsonType : Option String) : allowed jsonType ⊆ keys := by
  intro key hkey
  rcases List.mem_append.mp hkey with hmem | hmem
  · obtain ⟨row, hrow, hname⟩ := exists_row_of_mem hmem
    exact List.mem_append_left _ (List.mem_flatMap.mpr ⟨row, hrow, hname⟩)
  · obtain ⟨name, hname, rfl⟩ := List.mem_map.mp hmem
    obtain ⟨row, hrow, hname⟩ := exists_row_of_mem hname
    exact List.mem_append_right _
      (List.mem_flatMap.mpr ⟨row, hrow, List.mem_map_of_mem hname⟩)

/-- A key with numbers or booleans as values is the keyword itself. -/
theorem eq_of_key? {jsonType : String} (h : key? jsonType keyword = some key)
    (hkey : key ∈ numeric ++ Keyword.boolean) : keyword = key := by
  have hextended : ∀ row ∈ extended, ∀ name ∈ row.2,
      extendedPrefix ++ name ∉ numeric ++ Keyword.boolean := by decide
  rcases exists_row_of_key? h with ⟨-, -, -, rfl⟩ | ⟨row, hrow, hmem, rfl⟩
  · rfl
  · exact absurd hkey (hextended row hrow keyword hmem)

theorem isBound_normal {number : Number} (h : number.isFinite = true) :
    (Datum.number number.normal).IsBound := by
  match number with
  | .int _ => trivial
  | .float (.finite x) =>
    rw [Number.normal]
    split_ifs with hintegral
    · trivial
    · simpa [Datum.IsBound] using hintegral
  | .float (.infinite _) | .float .nan => cases h

/-- A finite number fits a numeric key, and is rounded where integers are bounded. -/
theorem fits_settle (hkey : key ∈ numeric) {number : Number} (hfinite : number.isFinite = true) :
    Fits jsonType key (settle (jsonType.getD "") (.number number.normal)) := by
  have hboolean : key ∉ Keyword.boolean := fun hmem => not_mem_numeric hmem hkey
  rw [settle]
  split_ifs with hinteger
  · exact ⟨fun _ => trivial, fun _ _ => ⟨_, rfl⟩, fun hmem => absurd hmem hboolean⟩
  · refine ⟨fun _ => isBound_normal hfinite, fun _ hjson => ?_, fun hmem => absurd hmem hboolean⟩
    rw [hjson, Option.getD_some] at hinteger
    exact absurd rfl hinteger

end Keyword

open Keyword

/-- What an argument contributes fits the key under which it stands. -/
theorem Argument.fits {argument : Argument} {directive : String} {jsonType : Option String}
    {entry : Key × Datum} (h : argument.keyword directive jsonType = .ok entry) :
    ∃ key, entry.1 = .text key ∧ key ∈ allowed jsonType ∧ Fits jsonType key entry.2 := by
  obtain ⟨key, taken, hkey, hcast, rfl⟩ := keyword_eq_ok h
  refine ⟨key, rfl, mem_allowed hkey, ?_⟩
  by_cases hother : key ∈ numeric ++ Keyword.boolean
  · rw [eq_of_key? hkey hother] at hcast
    rcases List.mem_append.mp hother with hnumeric | hboolean
    · obtain ⟨number, hfinite, rfl⟩ := cast_numeric hnumeric hcast
      exact fits_settle hnumeric hfinite
    · obtain ⟨choice, rfl⟩ := cast_boolean hboolean hcast
      exact .of_boolean hboolean choice
  · exact .of_not_mem hother _

/-- Under a numeric key there is the number that the argument's value is read as. -/
theorem Argument.keyword_of_toNumber {argument : Argument} {jsonType : Option String}
    {key : String} (hkey : argument.key? jsonType = some key) (hnumeric : key ∈ numeric)
    {number : Number} (h : toNumber argument.value.value = .ok number) (directive : String) :
    argument.keyword directive jsonType
      = .ok (.text key, settle (jsonType.getD "") (.number number)) := by
  have hmeant : meant (jsonType.getD "") argument.name = key :=
    eq_of_key? hkey (List.mem_append_left _ hnumeric)
  have hcast : Keyword.cast key argument.value.value = .ok (.number number) := by
    rw [Keyword.cast, if_pos (by simpa using hnumeric), h]
    rfl
  rw [keyword, hkey, hmeant]
  dsimp only
  split
  · next hundefined =>
      rw [hundefined] at h
      cases h
  · rw [hcast]

/-! ## Schemas of types -/

/-- The keys that make a schema the one of a type. -/
def TypeSchema.ownKeys : List String := ["type", "items", "$ref"]

/-- No directive writes over them, nor over the title. -/
theorem Keyword.not_mem_allowed {jsonType : Option String} {key : String}
    (h : key ∈ "title" :: TypeSchema.ownKeys) : key ∉ allowed jsonType := by
  have hdisjoint : ∀ key ∈ "title" :: TypeSchema.ownKeys, key ∉ Keyword.keys := by decide
  exact fun hallowed => hdisjoint key h (allowed_subset_keys jsonType hallowed)

/-- A type has a format only where formats are allowed. -/
theorem TypeRef.hasOnly_allowed {type : TypeRef} {inList : Bool} {resolved : TypeSchema}
    (h : type.resolve inList = .ok resolved) :
    HasOnly (TypeSchema.ownKeys ++ allowed resolved.jsonType?) resolved.schema := by
  induction type generalizing inList resolved with
  | named name =>
    cases h
    by_cases hdate : name = dateTime
    · have hname : nameSchema name inList
          = ([("type", .text "string"), ("format", .text "date-time")] : Members) := if_pos hdate
      dsimp only
      rw [hname]
      exact hasOnly_cons.mpr ⟨⟨"type", by decide, rfl⟩, hasOnly_singleton (by decide) _⟩
    · have honly : HasOnly TypeSchema.ownKeys (nameSchema name inList) := by
        rw [nameSchema, if_neg hdate]
        split
        · exact hasOnly_singleton (by decide) _
        · exact hasOnly_singleton (by decide) _
      exact honly.mono (List.subset_append_left _ _)
  | list item =>
    obtain ⟨type, -, rfl⟩ := resolve_eq_ok_list h
    have honly : HasOnly TypeSchema.ownKeys
        [("type", .text "array"), ("items", .object type.schema)] :=
      hasOnly_cons.mpr ⟨⟨"type", by decide, rfl⟩, hasOnly_singleton (by decide) _⟩
    exact honly.mono (List.subset_append_left _ _)
  | nonNull inner ih =>
    obtain ⟨type, hinner, rfl⟩ := resolve_eq_ok_nonNull h
    have honly := ih hinner
    exact honly
  | other kind => cases h

/-! ## Properties -/

/-- A property is the schema of a type, with a title and what the tables allow for the type. -/
structure Property.Extends (property : Property) (name : String) (type : TypeSchema) : Prop where
  name_eq : property.name = name
  required_eq : property.required = type.required
  kept : ∀ key ∈ TypeSchema.ownKeys,
    Entries.find? property.schema (.text key) = Entries.find? type.schema (.text key)
  title : Entries.find? property.schema "title" = some (.text name)
  keys : HasOnly ("title" :: (TypeSchema.ownKeys ++ allowed type.jsonType?)) property.schema
  bare : type.jsonType? = none ∨ type.jsonType? = some "boolean" →
    property.schema = type.schema ++ ([("title", .text name)] : Members)
  fits : ∀ key value, (.text key, value) ∈ property.schema → Fits type.jsonType? key value

namespace Field

variable {field : Field}

theorem hasOnly_contributions (field : Field) :
    HasOnly (allowed field.jsonType?) field.contributions := by
  intro entry hentry
  obtain ⟨argument, -, hargument⟩ := exists_argument hentry
  obtain ⟨key, hkey, hallowed, -⟩ := argument.fits hargument
  exact ⟨key, hallowed, hkey⟩

theorem contributions_eq_nil (h : field.jsonType? = none ∨ field.jsonType? = some "boolean") :
    field.contributions = [] := by
  have hallowed : allowed field.jsonType? = [] := by
    rcases h with h | h
    · rw [h]
      rfl
    · rw [h]
      rfl
  rw [List.eq_nil_iff_forall_not_mem]
  intro entry hentry
  obtain ⟨key, hkey, -⟩ := field.hasOnly_contributions entry hentry
  rw [hallowed] at hkey
  cases hkey

/-- What stands in the schema of a property is part of the type's, the title, or a contribution. -/
theorem fits_of_mem {type : TypeSchema} (htype : field.type.resolve false = .ok type)
    {key : String} {value : Datum}
    (h : (.text key, value) ∈ Entries.merge
      (Entries.insert type.schema "title" (.text field.name)) field.contributions) :
    Fits field.jsonType? key value := by
  rcases field.hasOnly_contributions.mem_merge h with hentry | hentry
  · have hplain : HasOnly ["$ref", "type", "format", "items", "title"]
        (Entries.insert type.schema "title" (.text field.name)) :=
      ((TypeRef.hasOnly_resolve htype).mono (by decide)).insert (by decide) _
    obtain ⟨_, hkey, ⟨⟩⟩ := hplain _ hentry
    have hother : ∀ key ∈ ["$ref", "type", "format", "items", "title"],
        key ∉ numeric ++ Keyword.boolean := by decide
    exact .of_not_mem (hother key hkey) value
  · obtain ⟨argument, -, hargument⟩ := exists_argument hentry
    obtain ⟨_, ⟨⟩, -, hfits⟩ := argument.fits hargument
    exact hfits

/-- A field whose type is a type, and whose arguments are values, becomes a property. Whatever its
directives are, the property is the schema of the type with a title, and besides there are only
keywords that are allowed for the type, with values that fit them. -/
theorem property_extends (field : Field) :
    (field.type.name?.isSome = true → (∀ directive ∈ field.directives,
        ∀ argument ∈ directive.arguments, argument.value.isValue = true) →
      ∃ property, (field.property []).result = .ok property) ∧
    ∀ property, (field.property []).result = .ok property →
      ∃ type, field.type.resolve false = .ok type ∧ property.Extends field.name type := by
  refine ⟨exists_property, fun property h => ?_⟩
  obtain ⟨type, htype, rfl⟩ := property_eq_written h
  have hjson := jsonType?_of_resolve htype
  have hadded : HasOnly (allowed type.jsonType?) field.contributions :=
    hjson ▸ field.hasOnly_contributions
  refine ⟨type, htype, {
    name_eq := rfl
    required_eq := rfl
    kept := fun key hkey => ?kept
    title := ?title
    keys := ?keys
    bare := fun hbare => ?bare
    fits := fun key value hentry => hjson ▸ fits_of_mem htype hentry }⟩
  case kept =>
    have hother : "title" ≠ key := by
      rintro rfl
      exact absurd hkey (by decide)
    rw [hadded.find?_merge (not_mem_allowed (List.mem_cons_of_mem _ hkey)), Entries.find?_insert,
      if_neg (by simpa [Key.beq_text] using hother)]
  case title =>
    rw [hadded.find?_merge (not_mem_allowed List.mem_cons_self), Entries.find?_insert,
      if_pos (Key.beq_text.mpr rfl)]
  case keys =>
    exact (((TypeRef.hasOnly_allowed htype).mono (List.subset_cons_self _ _)).insert
      List.mem_cons_self _).merge
        (hadded.mono fun _ hmem => List.mem_cons_of_mem _ (List.mem_append_right _ hmem))
  case bare =>
    have hnone : Entries.find? type.schema "title" = none :=
      (TypeRef.hasOnly_resolve htype).find?_eq_none (by decide)
    dsimp only
    rw [contributions_eq_nil (hjson ▸ hbare), Entries.merge_nil,
      Entries.insert_of_find?_eq_none hnone]

/-- A required integer with a bound, and with arguments that mean other keys of schemas. -/
def withBound : Field where
  name := "a"
  type := .nonNull (.named "Int")
  fallback := none
  directives := [⟨Directive.validate,
    [⟨"min", .float "0.5"⟩, ⟨"type", .text "string"⟩, ⟨"title", .text "b"⟩]⟩]
  arguments := []

theorem property_extends_with_bound :
    ∃ property, (withBound.property []).result = .ok property ∧
      property.Extends "a" ⟨[("type", .text "integer")], true⟩ := by
  have hvalues : ∀ directive ∈ withBound.directives, ∀ argument ∈ directive.arguments,
      argument.value.isValue = true := by
    simp [withBound, Literal.isValue]
  obtain ⟨property, hproperty⟩ := (property_extends withBound).1 rfl hvalues
  obtain ⟨type, htype, hextends⟩ := (property_extends withBound).2 property hproperty
  cases htype
  exact ⟨property, hproperty, hextends⟩

end Field

end SchemaBridge
