import SchemaBridge.Dialect
import SchemaBridge.Fault
import SchemaBridge.Schema.Definition

/-!
# Types in schemas

The names that the keyword `type` may give. A boolean is no number, and only lists are arrays. An
integral binary64 number is an integer in some dialects and none in others. The types of custom
scalars, unions and enumerations accept every value; no dialect knows them, they are registered.

* `isOf_registered`: where those three are registered everything is of them, and elsewhere they are
  unknown.
-/

namespace SchemaBridge

/-- The types that are known by name. -/
inductive TypeName where
  | array | boolean | integer | null | number | object | string
  /-- Integers, and the binary64 numbers that are integral. -/
  | whole
  | anything
deriving DecidableEq

namespace TypeName

/-- The type with a given name. -/
def ofName? (rules : Rules) (name : String) : Option TypeName :=
  if name = "array" then some array
  else if name = "boolean" then some boolean
  else if name = "integer" then some (if rules.dialect.hasWholeFloats then whole else integer)
  else if name = "null" then some null
  else if name = "number" then some number
  else if name = "object" then some object
  else if name = "string" then some string
  else if rules = .registered
      && [Definition.scalarType, Definition.unionType, Definition.enumType].contains name then
    some anything
  else none

/-- The value is of the type. -/
def accepts : TypeName → Datum → Bool
  | array, .list _ => true
  | boolean, .bool _ => true
  | integer, .number (.int _) => true
  | null, .null => true
  | number, .number _ => true
  | object, .object _ => true
  | string, .text _ => true
  | whole, .number value => value.isIntegral
  | anything, _ => true
  | _, _ => false

/-- The value is of the type that is named. What can be looked up without being a type is an unknown
one. -/
def isOf (rules : Rules) (name value : Datum) : Except Fault Bool :=
  match name with
  | .text text =>
    match ofName? rules text with
    | some type => .ok (type.accepts value)
    | none => .error (.unknownType name)
  | name => .error (if name.isFixed then .unknownType name else .wrongKind)

/-- The value is of one of the types that are named, which are tried in order up to the first that
it is of. -/
def isOfAny (rules : Rules) (value : Datum) : List Datum → Except Fault Bool
  | [] => .ok false
  | name :: rest =>
    match isOf rules name value with
    | .ok true => .ok true
    | .ok false => isOfAny rules value rest
    | .error fault => .error fault

/-- The names that the keyword `type` gives: one, or several. -/
def names? : Datum → Option (List Datum)
  | .text name => some [.text name]
  | value => value.items?

theorem isOf_registered {name : String}
    (h : name ∈ [Definition.scalarType, Definition.unionType, Definition.enumType]) (rules : Rules)
    (value : Datum) :
    isOf rules (.text name) value
      = if rules = .registered then .ok true else .error (.unknownType (.text name)) := by
  simp only [List.mem_cons, List.not_mem_nil, or_false] at h
  rcases h with rfl | rfl | rfl <;> cases rules <;> rfl

end TypeName

end SchemaBridge
