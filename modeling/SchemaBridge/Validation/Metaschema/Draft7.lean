import SchemaBridge.Validation.Metaschema.Piece

/-!
# The schema of draft 7

What schemas of draft 7 look like, in draft 7 itself.
-/

namespace SchemaBridge.Metaschema.Draft7

/-- The schemas to which the others refer. -/
def definitions : Datum :=
  object [
    ("schemaArray",
      object [("type", .text "array"), ("minItems", .int 1), ("items", reference "#")]),
    ("nonNegativeInteger", object [("type", .text "integer"), ("minimum", .int 0)]),
    ("nonNegativeIntegerDefault0",
      object [
        ("allOf",
          .list [reference "#/definitions/nonNegativeInteger", object [("default", .int 0)]])]),
    ("simpleTypes",
      object [
        ("enum", names ["array", "boolean", "integer", "null", "number", "object", "string"])]),
    ("stringArray",
      object [
        ("type", .text "array"), ("items", ofType "string"), ("uniqueItems", .bool true),
        ("default", .list [])])]

/-- The schema of each keyword. -/
def properties : Datum :=
  object [
    ("$id", ofFormat "uri-reference"), ("$schema", ofFormat "uri"),
    ("$ref", ofFormat "uri-reference"), ("$comment", ofType "string"), ("title", ofType "string"),
    ("description", ofType "string"), ("default", .bool true), ("readOnly", flag),
    ("examples", object [("type", .text "array"), ("items", .bool true)]),
    ("multipleOf", object [("type", .text "number"), ("exclusiveMinimum", .int 0)]),
    ("maximum", ofType "number"), ("exclusiveMaximum", ofType "number"),
    ("minimum", ofType "number"), ("exclusiveMinimum", ofType "number"),
    ("maxLength", reference "#/definitions/nonNegativeInteger"),
    ("minLength", reference "#/definitions/nonNegativeIntegerDefault0"),
    ("pattern", ofFormat "regex"), ("additionalItems", reference "#"),
    ("items",
      object [
        ("anyOf", .list [reference "#", reference "#/definitions/schemaArray"]),
        ("default", .bool true)]),
    ("maxItems", reference "#/definitions/nonNegativeInteger"),
    ("minItems", reference "#/definitions/nonNegativeIntegerDefault0"), ("uniqueItems", flag),
    ("contains", reference "#"), ("maxProperties", reference "#/definitions/nonNegativeInteger"),
    ("minProperties", reference "#/definitions/nonNegativeIntegerDefault0"),
    ("required", reference "#/definitions/stringArray"), ("additionalProperties", reference "#"),
    ("definitions", namedBy (reference "#")), ("properties", namedBy (reference "#")),
    ("patternProperties",
      object [
        ("type", .text "object"), ("additionalProperties", reference "#"),
        ("propertyNames", object [("format", .text "regex")]), ("default", object [])]),
    ("dependencies",
      object [
        ("type", .text "object"),
        ("additionalProperties",
          object [("anyOf", .list [reference "#", reference "#/definitions/stringArray"])])]),
    ("propertyNames", reference "#"), ("const", .bool true),
    ("enum", object [("type", .text "array"), ("items", .bool true)]),
    ("type",
      object [
        ("anyOf",
          .list [
            reference "#/definitions/simpleTypes",
            object [
              ("type", .text "array"), ("items", reference "#/definitions/simpleTypes"),
              ("minItems", .int 1), ("uniqueItems", .bool true)]])]),
    ("format", ofType "string"), ("contentMediaType", ofType "string"),
    ("contentEncoding", ofType "string"), ("if", reference "#"), ("then", reference "#"),
    ("else", reference "#"), ("allOf", reference "#/definitions/schemaArray"),
    ("anyOf", reference "#/definitions/schemaArray"),
    ("oneOf", reference "#/definitions/schemaArray"), ("not", reference "#")]

/-- The schema of the dialect. -/
def schema : Datum :=
  object [
    ("$schema", identity .draft7),
    ("$id", identity .draft7),
    ("title", .text "Core schema meta-schema"),
    ("definitions", definitions),
    ("type", names ["object", "boolean"]),
    ("properties", properties),
    ("default", .bool true)]

end SchemaBridge.Metaschema.Draft7
