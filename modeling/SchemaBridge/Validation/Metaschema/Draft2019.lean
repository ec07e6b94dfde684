import SchemaBridge.Validation.Metaschema.Piece

/-!
# The schemas of draft 2019-09

What schemas of draft 2019-09 look like, in that draft itself. There is one schema for each
vocabulary of keywords, and one that takes them together. As all of them have a recursive anchor,
a reference back to whole schemas goes to the outermost of them.
-/

namespace SchemaBridge.Metaschema.Draft2019

/-- A schema of the dialect, which stands under the given name and uses vocabularies. -/
def part (name title : String) (used : List (String × Bool)) (entries : List (String × Datum)) :
    Datum :=
  object ([("$schema", .text (Dialect.identifier .draft2019)),
    ("$id", .text (Dialect.address .draft2019 name)),
    ("$vocabulary", vocabularies .draft2019 used),
    ("$recursiveAnchor", .bool true),
    ("title", .text title)] ++ entries)

/-- A schema for one vocabulary. -/
def vocabulary (name title : String) (entries : List (String × Datum)) : Datum :=
  part ("meta/" ++ name) title [(name, true)] (("type", names ["object", "boolean"]) :: entries)

/-- Keywords that say what a schema is and where it is. -/
def core : Datum :=
  vocabulary "core" "Core vocabulary meta-schema" [
    ("properties",
      object [
        ("$id",
          object [
            ("type", .text "string"), ("format", .text "uri-reference"),
            ("$comment", .text "Non-empty fragments not allowed."),
            ("pattern", .text "^[^#]*#?$")]),
        ("$schema", ofFormat "uri"),
        ("$anchor",
          object [("type", .text "string"), ("pattern", .text "^[A-Za-z][-A-Za-z0-9.:_]*$")]),
        ("$ref", ofFormat "uri-reference"), ("$recursiveRef", ofFormat "uri-reference"),
        ("$recursiveAnchor", flag),
        ("$vocabulary",
          object [
            ("type", .text "object"), ("propertyNames", ofFormat "uri"),
            ("additionalProperties", ofType "boolean")]),
        ("$comment", ofType "string"), ("$defs", namedBy recursive)])]

/-- Keywords that apply other schemas. -/
def applicator : Datum :=
  vocabulary "applicator" "Applicator vocabulary meta-schema" [
    ("properties",
      object [
        ("additionalItems", recursive), ("unevaluatedItems", recursive),
        ("items", object [("anyOf", .list [recursive, reference "#/$defs/schemaArray"])]),
        ("contains", recursive), ("additionalProperties", recursive),
        ("unevaluatedProperties", recursive), ("properties", namedBy recursive),
        ("patternProperties",
          object [
            ("type", .text "object"), ("additionalProperties", recursive),
            ("propertyNames", object [("format", .text "regex")]), ("default", object [])]),
        ("dependentSchemas",
          object [("type", .text "object"), ("additionalProperties", recursive)]),
        ("propertyNames", recursive), ("if", recursive), ("then", recursive), ("else", recursive),
        ("allOf", reference "#/$defs/schemaArray"), ("anyOf", reference "#/$defs/schemaArray"),
        ("oneOf", reference "#/$defs/schemaArray"), ("not", recursive)]),
    ("$defs",
      object [
        ("schemaArray",
          object [("type", .text "array"), ("minItems", .int 1), ("items", recursive)])])]

/-- Keywords about a value alone. -/
def validation : Datum :=
  vocabulary "validation" "Validation vocabulary meta-schema" [
    ("properties", object (measures ++ values ++ typing)), ("$defs", measureSchemas)]

/-- Keywords that describe. -/
def metaData : Datum :=
  vocabulary "meta-data" "Meta-data vocabulary meta-schema" [
    ("properties", descriptions)]

/-- The keyword for formats. -/
def format : Datum :=
  vocabulary "format" "Format vocabulary meta-schema" [
    ("properties", object [("format", ofType "string")])]

/-- Keywords for texts that hold something else. -/
def content : Datum :=
  vocabulary "content" "Content vocabulary meta-schema" [
    ("properties",
      object [
        ("contentMediaType", ofType "string"), ("contentEncoding", ofType "string"),
        ("contentSchema", recursive)])]

/-- The vocabularies of the dialect, and whether one has to know them. -/
def used : List (String × Bool) :=
  [("core", true), ("applicator", true), ("validation", true), ("meta-data", true),
   ("format", false), ("content", true)]

/-- The schema of the dialect. -/
def schema : Datum :=
  part "schema" "Core and Validation specifications meta-schema" used [
    ("allOf",
      .list [
        reference "meta/core",
        reference "meta/applicator",
        reference "meta/validation",
        reference "meta/meta-data",
        reference "meta/format",
        reference "meta/content"]),
    ("type", names ["object", "boolean"]),
    ("properties",
      object [
        ("definitions", namedBy recursive),
        ("dependencies",
          object [
            ("type", .text "object"),
            ("additionalProperties",
              object [
                ("anyOf", .list [recursive, reference "meta/validation#/$defs/stringArray"])])])])]

/-- All the schemas of the dialect. -/
def schemas : List Datum :=
  [schema, core, applicator, validation, metaData, format, content]

end SchemaBridge.Metaschema.Draft2019
