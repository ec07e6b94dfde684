import SchemaBridge.Datum.Repeat
import SchemaBridge.Regex
import SchemaBridge.Validation.Outcome
import SchemaBridge.Validation.Resource
import SchemaBridge.Validation.TypeName

/-!
# Keywords about one value

Keywords that say something of a value without looking into its parts by other schemas. A value of a
kind that a keyword says nothing of is valid under it.

* `atLeast_int`: the sides of a bound, on integers.
-/

namespace SchemaBridge.Schema

/-- A keyword that bounds values of some kind. -/
structure Bound where
  keyword : String
  /-- What is bounded of a value, if it is of the kind. -/
  measure : Datum → Option Number
  /-- What is measured stays within the bound. -/
  holds : Number → Number → Bool
  /-- What is said of a value that does not. -/
  words : Datum → Datum → String

/-- A bound with its number in the schema. -/
def Bound.outcome (bound : Bound) (limit data : Datum) : Outcome :=
  match bound.measure data with
  | none => .valid
  | some number =>
    match limit.asNumber? with
    | some most => .require bound.keyword (bound.holds number most) (bound.words data limit)
    | none => .stopped .wrongKind

/-- The value as a number; a boolean is none. -/
def numberOf? : Datum → Option Number
  | .number value => some value
  | _ => none

/-- The number of characters of a text. -/
def lengthOf? : Datum → Option Number
  | .text value => some (.int value.length)
  | _ => none

/-- The number of items of a list. -/
def sizeOf? : Datum → Option Number
  | .list items => some (.int items.length)
  | _ => none

/-- The number of entries of an object. -/
def countOf? : Datum → Option Number
  | .object entries => some (.int entries.length)
  | _ => none

/-- The first number is not below the second; nor equal to it, if the bound is exclusive. -/
def atLeast (exclusive : Bool) (number bound : Number) : Bool :=
  !(number.less bound || (exclusive && number.same bound))

/-- The first number is not above the second; nor equal to it, if the bound is exclusive. -/
def atMost (exclusive : Bool) (number bound : Number) : Bool := atLeast exclusive bound number

/-- The schema has a keyword with a value that counts as true. -/
def isSet (entries : Members) (keyword : String) : Bool :=
  (Entries.find? entries keyword).any Datum.isTruthy

/-- The keyword `multipleOf`, by whatever name. -/
def multipleOutcome (keyword : String) (value data : Datum) : Outcome :=
  match numberOf? data with
  | none => .valid
  | some number =>
    match value.asNumber? with
    | none => .stopped .wrongKind
    | some divisor =>
      .ofExcept ((number.isMultiple divisor).mapError .notDivided) fun holds =>
        .require keyword holds (Wording.notMultiple data value)

/-- The keyword `type`. -/
def typeOutcome (rules : Rules) (value data : Datum) : Outcome :=
  match TypeName.names? value with
  | none => .stopped .wrongKind
  | some names =>
    .ofExcept (TypeName.isOfAny rules data names) fun holds =>
      .require "type" holds (Wording.notOfType data names)

/-- Something is found or not, or the search fails. -/
def found : Regex.Finding → Except Fault Bool
  | .found => .ok true
  | .absent => .ok false
  | .reversed => .error .reversedGroup

/-- A regular expression is found in a text. One for bytes is read, but no text is searched for
it. -/
def matchesPart (pattern subject : Datum) : Except Fault Bool :=
  match pattern with
  | .text spelling =>
    match Regex.read spelling, subject with
    | .error flaw, _ => .error (.badPattern flaw)
    | .ok regex, .text text => found (regex.search text.toList)
    | .ok _, _ => .error .wrongKind
  | .bytes bytes =>
    match Regex.readBytes bytes with
    | .error flaw => .error (.badPattern flaw)
    | .ok _ => .error .wrongKind
  | _ => .error .wrongKind

/-- The keyword `pattern`: some part of a text matches. -/
def patternOutcome (value data : Datum) : Outcome :=
  match data with
  | .text _ =>
    .ofExcept (matchesPart value data) fun holds =>
      .require "pattern" holds (Wording.noMatch data value)
  | _ => .valid

/-- The keyword `enum`: the value is one of those listed. -/
def enumOutcome (value data : Datum) : Outcome :=
  match value.items? with
  | some items =>
    .require "enum" (items.any (Datum.jsonEqual · data)) (Wording.notAmong data value)
  | none => .stopped .wrongKind

/-- The keyword `const`: the value is the one given. -/
def constOutcome (value data : Datum) : Outcome :=
  .require "const" (Datum.jsonEqual data value) (Wording.expected value)

/-- The keyword `uniqueItems`: no two items of a list are equal. -/
def uniqueOutcome (value data : Datum) : Outcome :=
  match data with
  | .list items =>
    .require "uniqueItems" (!(value.isTruthy && Datum.hasRepeat items)) (Wording.repeated data)
  | _ => .valid

/-- A name under a keyword: an object has to have an entry of that name. -/
def requiredName (keyword : String) (words : Datum → String) (entries : Members) (name : Datum) :
    Outcome :=
  match name.key? with
  | none => .stopped .wrongKind
  | some key => .require keyword (Entries.has entries key) (words name)

/-- Names under a keyword. -/
def requiredNames (keyword : String) (words : Datum → String) (extent : Extent)
    (entries : Members) (names : Datum) : Outcome :=
  match names.items? with
  | some names => .each extent names (requiredName keyword words entries)
  | none => .stopped .wrongKind

/-- The keyword `required`. -/
def requiredOutcome (extent : Extent) (value data : Datum) : Outcome :=
  match data with
  | .object entries => requiredNames "required" Wording.required extent entries value
  | _ => .valid

theorem atLeast_int (exclusive : Bool) (number bound : Int) :
    atLeast exclusive (.int number) (.int bound) = true
      ↔ bound < number ∨ (bound = number ∧ exclusive = false) := by
  have hless : Number.less (.int number) (.int bound) = decide (number < bound) := by
    rw [Bool.eq_iff_iff, Number.less_int, decide_eq_true_iff]
  have hsame : Number.same (.int number) (.int bound) = decide (number = bound) := by
    rw [Bool.eq_iff_iff, Number.same_int, decide_eq_true_iff]
  cases exclusive <;> simp [atLeast, hless, hsame] <;> omega

end SchemaBridge.Schema
