import SchemaBridge.Validation.Metaschema.Piece

/-!
# The schemas of draft 2020-12

What schemas of draft 2020-12 look like, in that draft itself. There is one schema for each
vocabulary of keywords, and one that takes them together. As all of them have the same
dynamic anchor, a reference back to whole schemas goes to the outermost of them.
-/

namespace SchemaBridge.Metaschema.Draft2020

/-- A schema of the dialect, which stands under the given name and uses vocabularies. -/
def part (name title : String) (used : List (String × Bool)) (entries : List (String × Datum)) :
    Datum :=
  object ([("$schema", .text (Dialect.identifier .draft2020)),
    ("$id", .text (Dialect.address .draft2020 name)),
    ("$vocabulary", vocabularies .draft2020 used),
    ("$dynamicAnchor", .text "meta"),
    ("title", .text title)] ++ entries)

/-- A schema for one vocabulary. -/
def vocabulary (name title : String) (entries : List (String × Datum)) : Datum :=
  part ("meta/" ++ name) title [(name, true)] (("type", names ["object", "boolean"]) :: entries)

/-- Keywords that say what a schema is and where it is. -/
def core : Datum :=
  vocabulary "core" "Core vocabulary meta-schema" [
    ("properties",
      object [
        ("$id",
          object [
            ("$ref", .text "#/$defs/uriReferenceString"),
            ("$comment", .text "Non-empty fragments not allowed."),
            ("pattern", .text "^[^#]*#?$")]),
        ("$schema", reference "#/$defs/uriString"),
        ("$ref", reference "#/$defs/uriReferenceString"),
        ("$anchor", reference "#/$defs/anchorString"),
        ("$dynamicRef", reference "#/$defs/uriReferenceString"),
        ("$dynamicAnchor", reference "#/$defs/anchorString"),
        ("$vocabulary",
          object [
            ("type", .text "object"), ("propertyNames", reference "#/$defs/uriString"),
            ("additionalProperties", ofType "boolean")]),
        ("$comment", ofType "string"),
        ("$defs", object [("type", .text "object"), ("additionalProperties", dynamic)])]),
    ("$defs",
      object [
        ("anchorString",
          object [("type", .text "string"), ("pattern", .text "^[A-Za-z_][-A-Za-z0-9._]*$")]),
        ("uriString", ofFormat "uri"), ("uriReferenceString", ofFormat "uri-reference")])]

/-- Keywords that apply other schemas. -/
def applicator : Datum :=
  vocabulary "applicator" "Applicator vocabulary meta-schema" [
    ("properties",
      object [
        ("prefixItems", reference "#/$defs/schemaArray"), ("items", dynamic),
        ("contains", dynamic), ("additionalProperties", dynamic), ("properties", namedBy dynamic),
        ("patternProperties",
          object [
            ("type", .text "object"), ("additionalProperties", dynamic),
            ("propertyNames", object [("format", .text "regex")]), ("default", object [])]),
        ("dependentSchemas", namedBy dynamic), ("propertyNames", dynamic), ("if", dynamic),
        ("then", dynamic), ("else", dynamic), ("allOf", reference "#/$defs/schemaArray"),
        ("anyOf", reference "#/$defs/schemaArray"), ("oneOf", reference "#/$defs/schemaArray"),
        ("not", dynamic)]),
    ("$defs",
      object [
        ("schemaArray",
          object [("type", .text "array"), ("minItems", .int 1), ("items", dynamic)])])]

/-- Keywords for what no other keyword has looked at. -/
def unevaluated : Datum :=
  vocabulary "unevaluated" "Unevaluated applicator vocabulary meta-schema" [
    ("properties", object [("unevaluatedItems", dynamic), ("unevaluatedProperties", dynamic)])]

/-- Keywords about a value alone. -/
def validation : Datum :=
  vocabulary "validation" "Validation vocabulary meta-schema" [
    ("properties", object (typing ++ values ++ measures)), ("$defs", measureSchemas)]

/-- Keywords that describe. -/
def metaData : Datum :=
  vocabulary "meta-data" "Meta-data vocabulary meta-schema" [
    ("properties", descriptions)]

/-- The keyword for formats, as a description. -/
def formatAnnotation : Datum :=
  vocabulary "format-annotation" "Format vocabulary meta-schema for annotation results" [
    ("properties", object [("format", ofType "string")])]

/-- The keyword for formats, as a demand. -/
def formatAssertion : Datum :=
  vocabulary "format-assertion" "Format vocabulary meta-schema for assertion results" [
    ("properties", object [("format", ofType "string")])]

/-- Keywords for texts that hold something else. -/
def content : Datum :=
  vocabulary "content" "Content vocabulary meta-schema" [
    ("properties",
      object [
        ("contentEncoding", ofType "string"), ("contentMediaType", ofType "string"),
        ("contentSchema", dynamic)])]

/-- The vocabularies of the dialect, and whether one has to know them. -/
def used : List (String × Bool) :=
  [("core", true), ("applicator", true), ("unevaluated", true), ("validation", true),
   ("meta-data", true), ("format-annotation", true), ("content", true)]

/-- The schema of the dialect. -/
def schema : Datum :=
  part "schema" "Core and Validation specifications meta-schema" used [
    ("allOf",
      .list [
        reference "meta/core",
        reference "meta/applicator",
        reference "meta/unevaluated",
        reference "meta/validation",
        reference "meta/meta-data",
        reference "meta/format-annotation",
        reference "meta/content"]),
    ("type", names ["object", "boolean"]),
    ("properties",
      object [
        ("definitions",
          object [
            ("type", .text "object"), ("additionalProperties", dynamic),
            ("deprecated", .bool true), ("default", object [])]),
        ("dependencies",
          object [
            ("type", .text "object"),
            ("additionalProperties",
              object [
                ("anyOf", .list [dynamic, reference "meta/validation#/$defs/stringArray"])]),
            ("deprecated", .bool true), ("default", object [])]),
        ("$recursiveAnchor",
          object [("$ref", .text "meta/core#/$defs/anchorString"), ("deprecated", .bool true)]),
        ("$recursiveRef",
          object [
            ("$ref", .text "meta/core#/$defs/uriReferenceString"), ("deprecated", .bool true)])])]

/-- All the schemas of the dialect. -/
def schemas : List Datum :=
  [schema, core, applicator, unevaluated, validation, metaData, formatAnnotation, formatAssertion,
   content]

end SchemaBridge.Metaschema.Draft2020
