import SchemaBridge.Datum.Written

/-!
# Wording

What is said of violations. A value is named as it is written, and so is what the schema wants of
it.
-/

namespace SchemaBridge.Wording

open Datum (written separated)

/-- Values as they are written, with commas between them. -/
def listed (values : List Datum) : String := separated (values.map written)

/-! ## Bounds -/

/-- Of a number below a bound that it may reach. -/
def below (data bound : Datum) : String :=
  data.written ++ " is less than the minimum of " ++ bound.written

/-- Of a number that is not above a bound that it may not reach. -/
def notAbove (data bound : Datum) : String :=
  data.written ++ " is less than or equal to the minimum of " ++ bound.written

/-- Of a number above a bound that it may reach. -/
def above (data bound : Datum) : String :=
  data.written ++ " is greater than the maximum of " ++ bound.written

/-- Of a number that is not below a bound that it may not reach. -/
def notBelow (data bound : Datum) : String :=
  data.written ++ " is greater than or equal to the maximum of " ++ bound.written

/-- Of a number that is no multiple of another one. -/
def notMultiple (data divisor : Datum) : String :=
  data.written ++ " is not a multiple of " ++ divisor.written

/-- Of something that has less than the least size. -/
def lessThan (fault : String) (data least : Datum) : String :=
  data.written ++ if least.same (.int 1) then " should be non-empty" else fault

/-- Of something that has more than the greatest size. -/
def moreThan (fault : String) (data most : Datum) : String :=
  data.written ++ if most.same (.int 0) then " is expected to be empty" else fault

/-- Of a text or a list that is too short. -/
def tooShort : Datum → Datum → String := lessThan " is too short"

/-- Of a text or a list that is too long. -/
def tooLong : Datum → Datum → String := moreThan " is too long"

/-- Of an object that has too few entries. -/
def tooFew : Datum → Datum → String := lessThan " does not have enough properties"

/-- Of an object that has too many entries. -/
def tooMany : Datum → Datum → String := moreThan " has too many properties"

/-! ## Single values -/

/-- Of a value that should be another one. -/
def expected (wanted : Datum) : String := wanted.written ++ " was expected"

/-- Of a value that is none of those listed. -/
def notAmong (data values : Datum) : String := data.written ++ " is not one of " ++ values.written

/-- Of a value that is of none of the types that are named. -/
def notOfType (data : Datum) (types : List Datum) : String :=
  data.written ++ " is not of type " ++ listed types

/-- Of a value of one of the types that it should not be of. -/
def disallowed (data type : Datum) : String :=
  type.written ++ " is disallowed for " ++ data.written

/-- Of a text in which a regular expression is not found. -/
def noMatch (data pattern : Datum) : String :=
  data.written ++ " does not match " ++ pattern.written

/-- Of a list with an item that is repeated. -/
def repeated (data : Datum) : String := data.written ++ " has non-unique elements"

/-! ## Parts -/

/-- Of a key that has to be there. -/
def required (name : Datum) : String := name.written ++ " is a required property"

/-- Of a key that has to be there because another one is. -/
def dependent (key : Key) (name : Datum) : String :=
  name.written ++ " is a dependency of " ++ Datum.writtenKey key

/-- Of parts that are not allowed. -/
def unexpected (kind : String) (parts : List Datum) : String :=
  kind ++ " are not allowed (" ++ listed parts ++ (if parts.length = 1 then " was" else " were")
    ++ " unexpected)"

/-- Of entries that their schema does not allow. -/
def unevaluated (keys : List Datum) : String :=
  "Unevaluated properties are not valid under the given schema (" ++ listed keys
    ++ (if keys.length = 1 then " was" else " were") ++ " unexpected)"

/-- Of keys in which no expression is found. -/
def unmatched (keys patterns : List Datum) : String :=
  listed keys ++ (if keys.length = 1 then " does" else " do")
    ++ " not match any of the regexes: " ++ listed patterns

/-- Of items after those that have schemas of their own. -/
def surplus (count : Nat) (rest : List Datum) : String :=
  "Expected at most " ++ toString count ++ (if count = 1 then " item" else " items")
    ++ " but found " ++ toString rest.length ++ " extra: "
    ++ match rest with
      | [single] => single.written
      | rest => (Datum.list rest).written

/-- Of a list without an item that its schema allows, in drafts 6 and 7. -/
def noneContained (data : Datum) : String :=
  "None of " ++ data.written ++ " are valid under the given schema"

/-- Of a list without an item that its schema allows. -/
def notContained (data : Datum) : String :=
  data.written ++ " does not contain items matching the given schema"

/-- Of a list with too many items that its schema allows. -/
def tooManyContained (most : Datum) : String :=
  "Too many items match the given schema (expected at most " ++ most.written ++ ")"

/-- Of a list with too few items that its schema allows. -/
def tooFewContained (least : Datum) (count : Nat) : String :=
  "Too few items match the given schema (expected at least " ++ least.written ++ " but only "
    ++ toString count ++ " matched)"

/-! ## Schemas -/

/-- Of a value where nothing is allowed. -/
def refused (data : Datum) : String := "False schema does not allow " ++ data.written

/-- Of a value that no branch allows. -/
def noBranch (data : Datum) : String :=
  data.written ++ " is not valid under any of the given schemas"

/-- Of a value that several branches allow. -/
def severalBranches (data : Datum) (branches : List Datum) : String :=
  data.written ++ " is valid under each of " ++ listed branches

/-- Of a value that a schema allows and should not. -/
def forbidden (data schema : Datum) : String :=
  data.written ++ " should not be valid under " ++ schema.written

/-- Of a value that a registered check does not accept. -/
def unchecked (keyword : String) (data value : Datum) : String :=
  data.written ++ " is not valid under " ++ keyword ++ " " ++ value.written

end SchemaBridge.Wording
