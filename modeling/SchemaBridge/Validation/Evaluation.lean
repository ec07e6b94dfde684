import SchemaBridge.Datum.Depth
import SchemaBridge.Validation.Vocabulary

/-!
# Applying schemas to data

A schema is applied keyword by keyword, in the order in which it gives them. Keywords that are
registered are applied by their own checks and go before the builtin ones of the same name; keywords
that are neither do nothing. A schema that gives itself a dialect is a matter of that dialect alone,
to which nothing is registered.

`apply1` applies a schema once, given a way of applying schemas to what comes next: parts of the
schema at the same value, the target of a reference, or a part of the value. `applyUpTo` repeats it.
A reference that is followed again and again at the same value, with no step into the value between,
would be followed for ever, so it is a fault. Therefore the number of repetitions has a bound, and
`Validator.apply` stays within it.

* `applyUpTo_succ`: one repetition more is one application before the others.
* `effective_of_reference`: a reference that stands alone is all that counts.
-/

namespace SchemaBridge

/-- A check of a registered keyword, given the keyword's value in the schema and then the data:
does the data satisfy the keyword? -/
abbrev Check := Datum → Datum → Except Fault Bool

/-- A validator: the registered checks, and the whole schema, in which references lead about. -/
structure Validator where
  checks : Table Check
  library : Library

namespace Schema

/-- The check of a registered keyword. -/
def checkOutcome (name : String) (check : Check) (value data : Datum) : Outcome :=
  .ofExcept (check value data) fun holds =>
    .require name holds (Wording.unchecked name data value)

/-- The check that is registered for a keyword. -/
def registered? (validator : Validator) (rules : Rules) (name : String) : Option Check :=
  if rules = .registered then Entries.find? validator.checks name else none

/-- A keyword with its value in a schema. -/
def keywordOutcome (validator : Validator) (name : String) : Rule := fun task value =>
  match registered? validator task.setting.rules name with
  | some check => checkOutcome name check value task.data
  | none =>
    match Vocabulary.rule? task.setting.rules.dialect name with
    | some rule => rule task value
    | none => .valid

/-- The entries of a schema that count: a reference alone, where it stands alone. -/
def effective (alone : Bool) (entries : Members) : Members :=
  match alone, Entries.find? entries "$ref" with
  | false, _ | true, none | true, some .null => entries
  | true, some reference => [("$ref", reference)]

/-- Keywords that leave no step in the path of the schema. -/
def unmarked : List String := ["if", "$ref"]

/-- The step that a keyword leaves in the path of the schema. -/
def schemaStep (name : String) : List PathStep :=
  if unmarked.contains name then [] else [.key name]

/-- An entry of a schema; only texts are keywords. -/
def entryOutcome (validator : Validator) (task : Task) (key : Key) (value : Datum) : Outcome :=
  match key with
  | .text name => (keywordOutcome validator name task value).inside [] (schemaStep name)
  | _ => .valid

/-- A schema applied once; `budget` bounds the steps from schema to schema that come next. -/
def apply1 (validator : Validator) (budget : Nat) (next : Applier) : Applier :=
  fun extent setting schema data =>
    match schema with
    | .bool true => .valid
    | .bool false => .refused data
    | .object entries =>
      .each extent (effective setting.alone entries) fun (key, value) =>
        entryOutcome validator
          { library := validator.library, next, budget, extent, setting, entries, data } key value
    | _ => .stopped .notASchema

/-- A schema applied with at most the given number of steps from one schema to the next. -/
def applyUpTo (validator : Validator) : Nat → Applier
  | 0 => fun _ _ _ _ => .stopped .endless
  | steps + 1 => apply1 validator steps (applyUpTo validator steps)

theorem applyUpTo_succ (validator : Validator) (steps : Nat) :
    applyUpTo validator (steps + 1) = apply1 validator steps (applyUpTo validator steps) := rfl

theorem effective_of_reference {entries : Members} {reference : String}
    (h : Entries.find? entries "$ref" = some (.text reference)) :
    effective true entries = [(.text "$ref", .text reference)] := by
  simp [effective, h]

end Schema

namespace Validator

/-- A bound on the steps from one schema to the next. At each level of the data a reference is
followed for an address, a fragment, a number of addresses passed through, a set of rules and a
purpose at most as often as there are addresses, before the schema is explored and after it. There
are not more addresses, nor more fragments, than the schema and the metaschemas have parts, apart
from those of the whole; and from one reference to the next the schema becomes less deep. -/
def stepBound (validator : Validator) (data : Datum) : Nat :=
  let root := validator.library.root
  let addresses := root.size + Metaschema.size + 2
  let depth := max root.depth Metaschema.depth
  let visits := 56 * addresses * addresses * (addresses * addresses)
  (data.depth + 1) * ((visits + 1) * (depth + 1))

/-- The whole schema applied to a value. -/
def apply (validator : Validator) (extent : Extent) (data : Datum) : Outcome :=
  Schema.applyUpTo validator (validator.stepBound data) extent
    { place := { base := validator.library.address } } validator.library.root data

/-- Whether the schema allows a value; the first violation decides. -/
def isValid (validator : Validator) (data : Datum) : Except Fault Bool :=
  (validator.apply .first data).verdict

/-- All the violations of the schema by a value. -/
def violations (validator : Validator) (data : Datum) : Except Fault (List Violation) :=
  (validator.apply .all data).listing

end Validator

end SchemaBridge
