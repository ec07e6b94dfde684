import SchemaBridge.Validation.Metaschema.Piece

/-!
# The schema of draft 4

What schemas of draft 4 look like, in draft 4 itself.
-/

namespace SchemaBridge.Metaschema.Draft4

/-- The schemas to which the others refer. -/
def definitions : Datum :=
  object [
    ("schemaArray",
      object [("type", .text "array"), ("minItems", .int 1), ("items", reference "#")]),
    ("positiveInteger", object [("type", .text "integer"), ("minimum", .int 0)]),
    ("positiveIntegerDefault0",
      object [
        ("allOf",
          .list [reference "#/definitions/positiveInteger", object [("default", .int 0)]])]),
    ("simpleTypes",
      object [
        ("enum", names ["array", "boolean", "integer", "null", "number", "object", "string"])]),
    ("stringArray",
      object [
        ("type", .text "array"), ("items", ofType "string"), ("minItems", .int 1),
        ("uniqueItems", .bool true)])]

/-- The schema of each keyword. -/
def properties : Datum :=
  object [
    ("id", ofType "string"), ("$schema", ofType "string"), ("title", ofType "string"),
    ("description", ofType "string"), ("default", object []),
    ("multipleOf",
      object [("type", .text "number"), ("minimum", .int 0), ("exclusiveMinimum", .bool true)]),
    ("maximum", ofType "number"), ("exclusiveMaximum", ofType "boolean"),
    ("minimum", ofType "number"), ("exclusiveMinimum", ofType "boolean"),
    ("maxLength", reference "#/definitions/positiveInteger"),
    ("minLength", reference "#/definitions/positiveIntegerDefault0"),
    ("pattern", ofFormat "regex"),
    ("additionalItems",
      object [("anyOf", .list [ofType "boolean", reference "#"]), ("default", object [])]),
    ("items",
      object [
        ("anyOf", .list [reference "#", reference "#/definitions/schemaArray"]),
        ("default", object [])]),
    ("maxItems", reference "#/definitions/positiveInteger"),
    ("minItems", reference "#/definitions/positiveIntegerDefault0"), ("uniqueItems", flag),
    ("maxProperties", reference "#/definitions/positiveInteger"),
    ("minProperties", reference "#/definitions/positiveIntegerDefault0"),
    ("required", reference "#/definitions/stringArray"),
    ("additionalProperties",
      object [("anyOf", .list [ofType "boolean", reference "#"]), ("default", object [])]),
    ("definitions", namedBy (reference "#")), ("properties", namedBy (reference "#")),
    ("patternProperties", namedBy (reference "#")),
    ("dependencies",
      object [
        ("type", .text "object"),
        ("additionalProperties",
          object [("anyOf", .list [reference "#", reference "#/definitions/stringArray"])])]),
    ("enum",
      object [("type", .text "array"), ("minItems", .int 1), ("uniqueItems", .bool true)]),
    ("type",
      object [
        ("anyOf",
          .list [
            reference "#/definitions/simpleTypes",
            object [
              ("type", .text "array"), ("items", reference "#/definitions/simpleTypes"),
              ("minItems", .int 1), ("uniqueItems", .bool true)]])]),
    ("format", ofType "string"), ("allOf", reference "#/definitions/schemaArray"),
    ("anyOf", reference "#/definitions/schemaArray"),
    ("oneOf", reference "#/definitions/schemaArray"), ("not", reference "#")]

/-- The schema of the dialect. -/
def schema : Datum :=
  object [
    ("id", identity .draft4),
    ("$schema", identity .draft4),
    ("description", .text "Core schema meta-schema"),
    ("definitions", definitions),
    ("type", .text "object"),
    ("properties", properties),
    ("dependencies",
      object [("exclusiveMaximum", names ["maximum"]), ("exclusiveMinimum", names ["minimum"])]),
    ("default", object [])]

end SchemaBridge.Metaschema.Draft4
