import SchemaBridge.Schema.Document
import SchemaBridge.Validation.ExtendedFormat

/-!
# Keyword registries

A registry collects definitions of keywords by name and makes a validator class of them, which it
keeps until a keyword is added. A definition without a check spoils the class: it cannot be made,
and nothing is kept. Definitions of a document validate together with the document, so that their
references lead somewhere.

* `Registry.validatorClass_twice`: a class that could be made is given again.
-/

namespace SchemaBridge

/-- The definition of a keyword: its check, if it has one, and whether the check reports errors of
its own. -/
structure KeywordDefinition where
  validate : Option Check
  errors : Option Bool

namespace KeywordDefinition

/-- The names of the fields that are given, in order. -/
def fields (definition : KeywordDefinition) : List String :=
  (if definition.errors.isSome then ["errors"] else [])
    ++ (if definition.validate.isSome then ["validate"] else [])

/-- The definition of the keyword for formats of list items. -/
def extendedFormat (strict : Bool) : KeywordDefinition :=
  ⟨some (ExtendedFormat.check strict), some false⟩

end KeywordDefinition

/-- Anything that keyword definitions may be added to: a way of adding one, if it has one. -/
abbrev KeywordSink (σ : Type) := Option (String → KeywordDefinition → σ → σ)

/-- Register the further keywords, and tell whether they could be registered. -/
def KeywordSink.extend {σ : Type} (sink : KeywordSink σ) (strict : Bool) (target : σ) : Bool × σ :=
  match sink with
  | none => (false, target)
  | some add => (true, add ExtendedFormat.keyword (.extendedFormat strict) target)

/-- The checks that validators apply, and the number of the class they were made into. -/
structure ValidatorClass where
  serial : Nat
  checks : Table Check

/-- Keyword definitions, and the validator class made of them. -/
structure Registry where
  keywords : Table KeywordDefinition := []
  cached : Option ValidatorClass := none
  /-- The number of classes made so far. -/
  made : Nat := 0

namespace Registry

/-- Add a keyword, or replace its definition. -/
def addKeyword (name : String) (definition : KeywordDefinition) (registry : Registry) :
    Registry :=
  { registry with keywords := Entries.insert registry.keywords name definition, cached := none }

/-- A registry takes definitions. -/
def sink : KeywordSink Registry := some addKeyword

/-- Register the further keywords. -/
def extend (strict : Bool) (registry : Registry) : Bool × Registry := sink.extend strict registry

/-- The checks of keyword definitions, all of which need one. -/
def checks : Table KeywordDefinition → Except Fault (Table Check)
  | [] => .ok []
  | (name, definition) :: rest =>
    match definition.validate with
    | none => .error (.missingKey "validate")
    | some check => (checks rest).map ((name, check) :: ·)

/-- The validator class: the one that is there, or a new one, which is kept. -/
def validatorClass (registry : Registry) : Except Fault ValidatorClass × Registry :=
  match registry.cached with
  | some made => (.ok made, registry)
  | none =>
    match checks registry.keywords with
    | .error fault => (.error fault, registry)
    | .ok found =>
      let made := ⟨registry.made, found⟩
      (.ok made, { registry with cached := some made, made := registry.made + 1 })

/-- A validator for a schema. -/
def validator (schema : Datum) (registry : Registry) : Except Fault Validator × Registry :=
  match registry.validatorClass with
  | (.error fault, registry) => (.error fault, registry)
  | (.ok made, registry) =>
    ((Library.ofRoot schema).map fun library => ⟨made.checks, library⟩, registry)

/-- The value under a key. -/
def valueAt (key : String) : Datum → Except Fault Datum
  | .object entries =>
    match Entries.find? entries key with
    | some value => .ok value
    | none => .error (.missingKey key)
  | _ => .error .wrongKind

/-- The schema of a definition in a document, with all definitions attached. -/
def definitionSchema (document : Datum) (title : String) : Except Fault Datum := do
  let definitions ← valueAt "definitions" document
  let schema ← valueAt title definitions
  return .object (Entries.insert (← schema.entries?) "definitions" definitions)

/-- A validator for a definition of a document. -/
def validatorFor (document : Datum) (title : String) (registry : Registry) :
    Except Fault Validator × Registry :=
  match definitionSchema document title with
  | .error fault => (.error fault, registry)
  | .ok schema => registry.validator schema

/-- Whether a schema allows a value. -/
def isValid (schema data : Datum) (registry : Registry) :
    Except Fault Bool × Registry :=
  let (made, registry) := registry.validator schema
  (made.bind (·.isValid data), registry)

/-- The same under another name. -/
def validate (schema data : Datum) (registry : Registry) : Except Fault Bool × Registry :=
  registry.isValid schema data

/-- The violations of a schema by a value. -/
def violations (schema data : Datum) (registry : Registry) :
    Except Fault (List Violation) × Registry :=
  let (made, registry) := registry.validator schema
  (made.bind (·.violations data), registry)

theorem validatorClass_of_cached {registry : Registry} {made : ValidatorClass}
    (h : registry.cached = some made) : registry.validatorClass = (.ok made, registry) := by
  simp [validatorClass, h]

theorem validatorClass_twice {registry later : Registry} {made : ValidatorClass}
    (h : registry.validatorClass = (.ok made, later)) :
    later.validatorClass = (.ok made, later) := by
  unfold validatorClass at h
  split at h
  · next heq =>
    cases h
    exact validatorClass_of_cached heq
  · split at h
    · cases h
    · cases h
      exact validatorClass_of_cached rfl

end Registry

end SchemaBridge
