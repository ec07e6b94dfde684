import SchemaBridge.Fault
import SchemaBridge.Number.Numeral

/-!
# Schema keywords

The tables that connect the names of a GraphQL document with those of a JSON schema: the types of
builtin scalars, and for each JSON type the keywords that may restrict it, under their own names or
under short ones. `cast` gives the value of a directive argument the form that a keyword wants.

* `toNumber_int`: integers stay as they are.
-/

namespace SchemaBridge.Keyword

/-! ## Tables -/

/-- The JSON types of the builtin scalars. -/
def primitives : Table String :=
  [("Int", "integer"), ("Float", "number"), ("String", "string"), ("Boolean", "boolean"),
   ("ID", "string")]

/-- The scalar that is always a text in `date-time` format. -/
def dateTime : String := "DateTime"

/-- What stands before the name of a definition in a reference to it. -/
def referencePrefix : String := "#/definitions/"

/-- The keywords that JSON schema has for values of a type. -/
def standard : Table (List String) :=
  [("integer", ["minimum", "maximum"]),
   ("number", ["minimum", "maximum"]),
   ("string", ["maxLength", "minLength", "pattern", "format"]),
   ("array", ["maxItems", "minItems", "uniqueItems"])]

/-- Further keywords for values of a type, which only a validator that knows them applies. -/
def extended : Table (List String) := [("array", ["format"])]

/-- What stands before the name of a further keyword. -/
def extendedPrefix : String := "ext_"

/-- Short names of keywords, by type. -/
def aliases : Table (Table String) :=
  [("integer", [("min", "minimum"), ("max", "maximum")]),
   ("number", [("min", "minimum"), ("max", "maximum")]),
   ("string", [("min", "minLength"), ("max", "maxLength")]),
   ("array", [("min", "minItems"), ("max", "maxItems")])]

/-- The keywords whose values are numbers. -/
def numeric : List String :=
  ["minimum", "maximum", "maxLength", "minLength", "maxItems", "minItems", "minProperties",
   "maxProperties"]

/-- The keywords whose values are booleans. -/
def boolean : List String := ["uniqueItems"]

/-! ## Look-up -/

/-- The keyword that an argument of the given name means for a type. -/
def meant (jsonType argument : String) : String :=
  ((Entries.find? aliases jsonType).bind (Entries.find? · argument)).getD argument

/-- The key under which a keyword stands in the schema of a type, if it applies to the type. -/
def key? (jsonType keyword : String) : Option String :=
  if ((Entries.find? standard jsonType).getD []).contains keyword then some keyword
  else if ((Entries.find? extended jsonType).getD []).contains keyword then
    some (extendedPrefix ++ keyword)
  else none

/-! ## Values -/

/-- The finite number that a value stands for; an integral one is an integer. -/
def toNumber : Datum → Except Fault Number
  | .bool value => .ok (.int (if value then 1 else 0))
  | .number value =>
    if value.isFinite then .ok value.normal else .error (.notFinite (.number value))
  | .text value =>
    match Numeral.readBinary64? value with
    | none => .error (.notANumber (.text value))
    | some number =>
      if (Number.float number).isFinite then .ok (Number.float number).normal
      else .error (.notFinite (.text value))
  | value => .error (.notANumber value)

/-- The value of an argument as the keyword wants it. -/
def cast (keyword : String) (value : Datum) : Except Fault Datum :=
  if numeric.contains keyword then (toNumber value).map .number
  else if boolean.contains keyword then .ok (.bool value.isTruthy)
  else .ok value

/-- A bound as an integer: whole numbers and booleans as they are, others rounded with halves going
up. -/
def roundHalfUp : Datum → Except Fault Datum
  | .bool value => .ok (.bool value)
  | .number value =>
    match value.roundHalfUp? with
    | some rounded => .ok (.int rounded)
    | none => .error (if value = .float .nan then .undefinedInteger else .infiniteInteger)
  | _ => .error .wrongKind

theorem toNumber_int (n : Int) : toNumber (.int n) = .ok (.int n) := rfl

end SchemaBridge.Keyword
