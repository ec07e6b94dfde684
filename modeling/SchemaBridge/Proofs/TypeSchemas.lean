import Mathlib
import SchemaBridge.Proofs.Definitions

/-!
# What the schema of a type tells

The schema of a type reference tells how many lists there are, one inside of another, and the name
in the innermost. It forgets every non-null mark, and it does not tell an `ID` from a `String`. All
other types have different schemas, also up to the order of keys.

* `TypeRef.resolve_eq`: what a type resolves to depends on its lists and its name.
* `TypeRef.nameSchema_same_iff`: the schemas of two names.
* `TypeRef.nestedSchema_same_iff`: the schemas of two names inside of lists.
* `TypeRef.schema_same_iff`: the schemas of two types, and which values are required.
-/

namespace SchemaBridge

/-! ## Objects that differ -/

namespace Datum

variable {entries entries' : Members} {key : Key} {value : Datum}

theorem not_sameEntries_of_missing (h : (key, value) ∈ entries)
    (hnone : Entries.find? entries' key = none) : ¬sameEntries entries entries' = true := by
  induction entries with
  | nil => cases h
  | cons entry rest ih =>
    obtain ⟨first, inner⟩ := entry
    rw [sameEntries, Bool.and_eq_true]
    rintro ⟨hfirst, hrest⟩
    rcases List.mem_cons.mp h with heq | hmem
    · cases heq
      rw [hnone] at hfirst
      cases hfirst
    · exact ih hmem hrest

/-- An object differs from one that lacks a key of it. -/
theorem not_same_of_missing (h : (key, value) ∈ entries)
    (hnone : Entries.find? entries' key = none) :
    ¬same (.object entries) (.object entries') = true := by
  rw [same, Bool.and_eq_true]
  exact fun hsame => not_sameEntries_of_missing h hnone hsame.2

end Datum

namespace TypeRef

/-! ## Lists and names -/

/-- The number of lists in a type, one inside of another. -/
def levels : TypeRef → Nat
  | named _ | other _ => 0
  | list item => item.levels + 1
  | nonNull inner => inner.levels

/-- The name by which the schemas of names are told apart: an `ID` is a text like any other. -/
def canonicalName (name : String) : String := if name = "ID" then "String" else name

/-- The schema of a name inside of a number of lists. -/
def nestedSchema (name : String) (inList : Bool) : Nat → Members
  | 0 => nameSchema name inList
  | depth + 1 =>
    [("type", .text "array"), ("items", .object (nestedSchema name true depth))]

/-- What a type resolves to depends on its lists and its name, and on a mark at the outermost. -/
theorem resolve_eq {type : TypeRef} {name : String} (h : type.name? = some name)
    (inList : Bool) : type.resolve inList
      = .ok ⟨nestedSchema name inList type.levels, type.isRequired && !inList⟩ := by
  induction type generalizing inList with
  | named _ =>
    cases h
    rfl
  | list item ih =>
    rw [resolve, ih h true]
    rfl
  | nonNull inner ih =>
    rw [resolve, ih h inList]
    rfl
  | other _ => cases h

/-! ## Schemas of names -/

/-- The names that have schemas of their own. -/
def builtinNames : List String := Keyword.dateTime :: Entries.keys Keyword.primitives

variable {name name' : String}

theorem isBuiltin_iff : isBuiltin name = true ↔ name ∈ builtinNames := by
  rw [isBuiltin, Bool.or_eq_true, decide_eq_true_iff, builtinNames, List.mem_cons,
    Option.isSome_iff_ne_none, ne_eq, Entries.find?_eq_none, Bool.not_eq_false, List.any_eq_true]
  simp

theorem isBuiltin_canonicalName (name : String) :
    isBuiltin (canonicalName name) = isBuiltin name := by
  rw [canonicalName]
  split_ifs with hname
  · rw [hname]
    rfl
  · rfl

/-- A name that is not builtin is told by itself. -/
theorem canonicalName_of_not_builtin (h : isBuiltin name = false) : canonicalName name = name := by
  rw [canonicalName, if_neg]
  rintro rfl
  cases h

/-- The schema of a builtin name has its type in front. -/
theorem nameSchema_of_builtin (h : isBuiltin name = true) (inList : Bool) :
    ∃ value rest, nameSchema name inList = (.text "type", value) :: rest := by
  unfold nameSchema
  by_cases hdate : name = Keyword.dateTime
  · rw [if_pos hdate]
    exact ⟨_, _, rfl⟩
  · rw [if_neg hdate]
    cases hfind : Entries.find? Keyword.primitives name with
    | none => simp [isBuiltin, hdate, hfind] at h
    | some jsonType => exact ⟨_, _, rfl⟩

/-- The schemas of a builtin name and of one that is not are different. -/
theorem nameSchema_not_same (h : isBuiltin name = true) (h' : isBuiltin name' = false)
    (inList : Bool) :
    ¬Datum.same (.object (nameSchema name inList)) (.object (nameSchema name' inList)) = true
      ∧ ¬Datum.same (.object (nameSchema name' inList)) (.object (nameSchema name inList))
        = true := by
  have hnone : Entries.find? (nameSchema name inList) (.text "$ref") = none :=
    (hasOnly_nameSchema h inList).find?_eq_none (by decide)
  obtain ⟨value, rest, hshape⟩ := nameSchema_of_builtin h inList
  rw [nameSchema_of_reference h' inList]
  refine ⟨?_, Datum.not_same_of_missing List.mem_cons_self hnone⟩
  rw [hshape]
  exact Datum.not_same_of_missing List.mem_cons_self rfl

/-- Of the builtin names, only `ID` and `String` have one schema. -/
theorem nameSchema_same_iff_of_builtin : ∀ name ∈ builtinNames, ∀ name' ∈ builtinNames,
    ∀ inList, Datum.same (.object (nameSchema name inList)) (.object (nameSchema name' inList))
      = true ↔ canonicalName name = canonicalName name' := by
  decide

theorem nameSchema_same_iff (name name' : String) (inList : Bool) :
    Datum.same (.object (nameSchema name inList)) (.object (nameSchema name' inList)) = true
      ↔ canonicalName name = canonicalName name' := by
  have hdifferent (h : isBuiltin name ≠ isBuiltin name') :
      canonicalName name ≠ canonicalName name' := by
    intro heq
    rw [← isBuiltin_canonicalName name, heq, isBuiltin_canonicalName] at h
    exact h rfl
  cases h : isBuiltin name with
  | true =>
    cases h' : isBuiltin name' with
    | true =>
      exact nameSchema_same_iff_of_builtin _ (isBuiltin_iff.mp h) _ (isBuiltin_iff.mp h') inList
    | false =>
      exact iff_of_false (nameSchema_not_same h h' inList).1 (hdifferent (by simp [h, h']))
  | false =>
    cases h' : isBuiltin name' with
    | true =>
      exact iff_of_false (nameSchema_not_same h' h inList).2 (hdifferent (by simp [h, h']))
    | false =>
      -- Two references are the same just if the names behind their prefix are.
      rw [nameSchema_of_reference h, nameSchema_of_reference h', canonicalName_of_not_builtin h,
        canonicalName_of_not_builtin h']
      simp [Datum.same, Datum.sameEntries, Entries.find?, Key.beq_text, Reference.toDefinition]

/-- The schema of a name is that of the canonical name. -/
theorem nameSchema_canonicalName (name : String) (inList : Bool) :
    nameSchema (canonicalName name) inList = nameSchema name inList := by
  rw [canonicalName]
  split_ifs with hname
  · rw [hname]
    rfl
  · rfl

/-! ## Schemas of lists -/

theorem list_same_iff (items items' : Members) :
    Datum.same (.object [("type", .text "array"), ("items", .object items)])
        (.object [("type", .text "array"), ("items", .object items')]) = true
      ↔ Datum.same (.object items) (.object items') = true := by
  simp [Datum.same, Datum.sameEntries, Entries.find?, Key.beq_text]

/-- The schema of a list is that of no name. -/
theorem list_not_same (items : Members) (name : String) (inList : Bool) :
    ¬Datum.same (.object [("type", .text "array"), ("items", .object items)])
        (.object (nameSchema name inList)) = true
      ∧ ¬Datum.same (.object (nameSchema name inList))
        (.object [("type", .text "array"), ("items", .object items)]) = true := by
  have hitems : Entries.find? (nameSchema name inList) (.text "items") = none := by
    cases h : isBuiltin name with
    | true => exact (hasOnly_nameSchema h inList).find?_eq_none (by decide)
    | false =>
      rw [nameSchema_of_reference h]
      rfl
  constructor
  · exact Datum.not_same_of_missing (List.mem_cons_of_mem _ List.mem_cons_self) hitems
  · by_cases hdate : name = Keyword.dateTime
    · simp [nameSchema, hdate, Datum.same, Datum.sameEntries, Entries.find?, Key.beq_text]
    · have hsingle : ∃ entry, nameSchema name inList = [entry] := by
        rw [nameSchema, if_neg hdate]
        split <;> exact ⟨_, rfl⟩
      obtain ⟨entry, hentry⟩ := hsingle
      simp [hentry, Datum.same]

theorem nestedSchema_same_iff (inList : Bool) (depth depth' : Nat) :
    Datum.same (.object (nestedSchema name inList depth))
        (.object (nestedSchema name' inList depth')) = true
      ↔ depth = depth' ∧ canonicalName name = canonicalName name' := by
  induction depth generalizing inList depth' with
  | zero =>
    cases depth' with
    | zero => simp [nestedSchema, nameSchema_same_iff]
    | succ depth' => exact iff_of_false (list_not_same _ name inList).2 (by simp)
  | succ depth ih =>
    cases depth' with
    | zero => exact iff_of_false (list_not_same _ name' inList).1 (by simp)
    | succ depth' => rw [nestedSchema, nestedSchema, list_same_iff, ih, Nat.succ_inj]

theorem nestedSchema_canonicalName (name : String) (inList : Bool) (depth : Nat) :
    nestedSchema (canonicalName name) inList depth = nestedSchema name inList depth := by
  induction depth generalizing inList with
  | zero => exact nameSchema_canonicalName name inList
  | succ depth ih => rw [nestedSchema, nestedSchema, ih]

/-! ## Schemas of types -/

/-- In a list or not, two types have one schema, and also the same schema up to the order of keys,
just if they have equally many lists around the same name, where an `ID` is a `String`. A value is
required just if the type is non-null at the outermost and stands in no list. -/
theorem schema_same_iff {first second : TypeRef} (hfirst : first.name? = some name)
    (hsecond : second.name? = some name') (inList : Bool) :
    ∃ type type', first.resolve inList = .ok type ∧ second.resolve inList = .ok type' ∧
      (Datum.same (.object type.schema) (.object type'.schema) = true ↔
        first.levels = second.levels ∧ canonicalName name = canonicalName name') ∧
      (type.schema = type'.schema ↔
        first.levels = second.levels ∧ canonicalName name = canonicalName name') ∧
      (type.required = true ↔ (∃ inner, first = nonNull inner) ∧ inList = false) := by
  refine ⟨_, _, resolve_eq hfirst inList, resolve_eq hsecond inList,
    nestedSchema_same_iff inList _ _, ⟨fun heq => ?_, fun ⟨hlevels, hname⟩ => ?_⟩, ?_⟩
  · dsimp only at heq
    rw [← nestedSchema_same_iff inList, ← heq, nestedSchema_same_iff]
    exact ⟨rfl, rfl⟩
  · dsimp only
    rw [hlevels, ← nestedSchema_canonicalName name, hname, nestedSchema_canonicalName]
  · cases first <;> simp [isRequired]

/-- Marks count for nothing, on the items of a list and on the list, nor does it that an `ID` stands
for a `String`. -/
theorem schema_same_of_marked :
    let marked := nonNull (list (nonNull (list (nonNull (named "ID")))))
    let bare := list (list (named "String"))
    ∃ type type', marked.resolve false = .ok type ∧ bare.resolve false = .ok type' ∧
      Datum.same (.object type.schema) (.object type'.schema) = true ∧ type.required = true := by
  intro marked bare
  have hmarked : marked.name? = some "ID" := rfl
  have hbare : bare.name? = some "String" := rfl
  obtain ⟨type, type', hfirst, hsecond, hsame, -, hrequired⟩ := schema_same_iff hmarked hbare false
  exact ⟨type, type', hfirst, hsecond, hsame.mpr (by decide), hrequired.mpr ⟨⟨_, rfl⟩, rfl⟩⟩

end TypeRef

end SchemaBridge
