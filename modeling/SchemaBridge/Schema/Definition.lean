import SchemaBridge.Schema.Property

/-!
# Schemas from definitions

Each of the six kinds of type definitions becomes a schema. Scalars, unions and enumerations carry
a type of their own that validators accept for every value; objects, interfaces and input objects
become object schemas with a property for each field name.
-/

namespace SchemaBridge

namespace Definition

/-- The type of schemas of custom scalars. -/
def scalarType : String := "GRAPHQL_SCALAR"

/-- The type of schemas of unions. -/
def unionType : String := "GRAPHQL_UNION"

/-- The type of schemas of enumerations. -/
def enumType : String := "GRAPHQL_ENUM"

/-- A property as it stands in an object schema: if it is composed of others, only those. -/
def propertySchema (property : Property) : Datum :=
  match Entries.find? property.schema "allOf" with
  | some parts => .object [("allOf", parts)]
  | none => .object property.schema

/-- The schema of a type with fields. -/
def objectSchema (name : String) (fields : List Field) (isInput : Bool) (handlers : Handlers) :
    Conversion Members := do
  let properties ← fields.mapM fun field => field.property handlers
  let required := (properties.filter (·.required)).map fun property => Datum.text property.name
  let schemas : Members := properties.map fun property => (property.name, propertySchema property)
  let shape : Members :=
    [("title", .text name), ("type", .text "object"),
     ("properties", .object (Entries.ofPairs schemas))]
  let needed : Members := if required.isEmpty then [] else [("required", .list required)]
  let mark : Members := if isInput then [("input", .bool true)] else []
  return shape ++ needed ++ mark

/-- The schema of a definition. -/
def schema (definition : Definition) (handlers : Handlers) : Conversion Members :=
  match definition with
  | .scalar name _ => pure [("title", .text name), ("type", .text scalarType)]
  | .union name _ members => do
    let types ← Conversion.ofExcept (members.mapM (·.resolve false))
    return [("title", .text name), ("type", .text unionType),
      ("oneOf", .list (types.map fun type => .object type.schema))]
  | .enum name _ values =>
    pure [("title", .text name), ("type", .text enumType),
      ("enum", .list (values.map fun value => .text value.name))]
  | .object name _ _ fields | .interface name _ _ fields =>
    objectSchema name fields false handlers
  | .inputObject name _ fields => objectSchema name fields true handlers
  | .directive .. | .other _ =>
    Conversion.ofExcept (.error (.unsupportedDefinition definition.kind.title))

end Definition

end SchemaBridge
