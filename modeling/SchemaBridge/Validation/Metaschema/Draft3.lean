import SchemaBridge.Validation.Metaschema.Piece

/-!
# The schema of draft 3

What schemas of draft 3 look like, in draft 3 itself.
-/

namespace SchemaBridge.Metaschema.Draft3

/-- The schema of each keyword. -/
def properties : Datum :=
  object [
    ("type",
      object [
        ("type", names ["string", "array"]),
        ("items", object [("type", .list [.text "string", reference "#"])]),
        ("uniqueItems", .bool true), ("default", .text "any")]),
    ("properties",
      object [
        ("type", .text "object"),
        ("additionalProperties", object [("$ref", .text "#"), ("type", .text "object")]),
        ("default", object [])]),
    ("patternProperties", namedBy (reference "#")),
    ("additionalProperties",
      object [("type", .list [reference "#", .text "boolean"]), ("default", object [])]),
    ("items",
      object [
        ("type", .list [reference "#", .text "array"]), ("items", reference "#"),
        ("default", object [])]),
    ("additionalItems",
      object [("type", .list [reference "#", .text "boolean"]), ("default", object [])]),
    ("required", flag),
    ("dependencies",
      object [
        ("type", .text "object"),
        ("additionalProperties",
          object [
            ("type", .list [.text "string", .text "array", reference "#"]),
            ("items", ofType "string")]),
        ("default", object [])]),
    ("minimum", ofType "number"), ("maximum", ofType "number"), ("exclusiveMinimum", flag),
    ("exclusiveMaximum", flag),
    ("minItems", object [("type", .text "integer"), ("minimum", .int 0), ("default", .int 0)]),
    ("maxItems", object [("type", .text "integer"), ("minimum", .int 0)]), ("uniqueItems", flag),
    ("pattern", ofFormat "regex"),
    ("minLength", object [("type", .text "integer"), ("minimum", .int 0), ("default", .int 0)]),
    ("maxLength", ofType "integer"),
    ("enum",
      object [("type", .text "array"), ("minItems", .int 1), ("uniqueItems", .bool true)]),
    ("default", ofType "any"), ("title", ofType "string"), ("description", ofType "string"),
    ("format", ofType "string"),
    ("divisibleBy",
      object [
        ("type", .text "number"), ("minimum", .int 0), ("exclusiveMinimum", .bool true),
        ("default", .int 1)]),
    ("disallow",
      object [
        ("type", names ["string", "array"]),
        ("items", object [("type", .list [.text "string", reference "#"])]),
        ("uniqueItems", .bool true)]),
    ("extends",
      object [
        ("type", .list [reference "#", .text "array"]), ("items", reference "#"),
        ("default", object [])]),
    ("id", ofType "string"), ("$ref", ofType "string"), ("$schema", ofFormat "uri")]

/-- The schema of the dialect. -/
def schema : Datum :=
  object [
    ("$schema", identity .draft3),
    ("id", identity .draft3),
    ("type", .text "object"),
    ("properties", properties),
    ("dependencies",
      object [("exclusiveMinimum", .text "minimum"), ("exclusiveMaximum", .text "maximum")]),
    ("default", object [])]

end SchemaBridge.Metaschema.Draft3
