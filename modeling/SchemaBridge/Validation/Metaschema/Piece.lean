import SchemaBridge.Validation.Resource

/-!
# Pieces of metaschemas

What the schemas of several dialects are made of: schemas of a few kinds, and the keywords about
values that the later dialects have in common.
-/

namespace SchemaBridge.Metaschema

/-! ## Kinds of schemas -/

/-- An object with the given entries. -/
def object (entries : List (String × Datum)) : Datum :=
  .object (entries.map fun (name, value) => (.text name, value))

/-- A list of texts. -/
def names (texts : List String) : Datum := .list (texts.map .text)

/-- Values of a type. -/
def ofType (name : String) : Datum := object [("type", .text name)]

/-- Texts of a format. -/
def ofFormat (name : String) : Datum := object [("type", .text "string"), ("format", .text name)]

/-- A boolean that is false if it is not given. -/
def flag : Datum := object [("type", .text "boolean"), ("default", .bool false)]

/-- What a reference leads to. -/
def reference (target : String) : Datum := object [("$ref", .text target)]

/-- Any schema, where the outermost resource with a recursive anchor says what that is. -/
def recursive : Datum := object [("$recursiveRef", .text "#")]

/-- Any schema, where the outermost resource with a dynamic anchor says what that is. -/
def dynamic : Datum := object [("$dynamicRef", .text "#meta")]

/-- Any number of schemas, each under a name; none if they are not given. -/
def namedBy (schema : Datum) : Datum :=
  object [("type", .text "object"), ("additionalProperties", schema), ("default", object [])]

/-- The identifier of a dialect as the earlier ones write it. -/
def identity (dialect : Dialect) : Datum := .text (dialect.identifier ++ "#")

/-- Vocabularies of a dialect, and whether one has to know them. -/
def vocabularies (dialect : Dialect) (used : List (String × Bool)) : Datum :=
  object (used.map fun (name, isNeeded) => (dialect.address ("vocab/" ++ name), .bool isNeeded))

/-! ## Keywords about values -/

/-- Keywords that measure a value. -/
def measures : List (String × Datum) :=
  [("multipleOf", object [("type", .text "number"), ("exclusiveMinimum", .int 0)]),
   ("maximum", ofType "number"), ("exclusiveMaximum", ofType "number"),
   ("minimum", ofType "number"), ("exclusiveMinimum", ofType "number"),
   ("maxLength", reference "#/$defs/nonNegativeInteger"),
   ("minLength", reference "#/$defs/nonNegativeIntegerDefault0"), ("pattern", ofFormat "regex"),
   ("maxItems", reference "#/$defs/nonNegativeInteger"),
   ("minItems", reference "#/$defs/nonNegativeIntegerDefault0"), ("uniqueItems", flag),
   ("maxContains", reference "#/$defs/nonNegativeInteger"),
   ("minContains", object [("$ref", .text "#/$defs/nonNegativeInteger"), ("default", .int 1)]),
   ("maxProperties", reference "#/$defs/nonNegativeInteger"),
   ("minProperties", reference "#/$defs/nonNegativeIntegerDefault0"),
   ("required", reference "#/$defs/stringArray"),
   ("dependentRequired",
     object [
       ("type", .text "object"), ("additionalProperties", reference "#/$defs/stringArray")])]

/-- Keywords that list values. -/
def values : List (String × Datum) :=
  [("const", .bool true), ("enum", object [("type", .text "array"), ("items", .bool true)])]

/-- The keyword that gives types. -/
def typing : List (String × Datum) :=
  [("type",
     object [
       ("anyOf",
         .list [
           reference "#/$defs/simpleTypes",
           object [
             ("type", .text "array"), ("items", reference "#/$defs/simpleTypes"),
             ("minItems", .int 1), ("uniqueItems", .bool true)]])])]

/-- The schemas to which those of the keywords about values refer. -/
def measureSchemas : Datum :=
  object [
    ("nonNegativeInteger", object [("type", .text "integer"), ("minimum", .int 0)]),
    ("nonNegativeIntegerDefault0",
      object [("$ref", .text "#/$defs/nonNegativeInteger"), ("default", .int 0)]),
    ("simpleTypes",
      object [
        ("enum", names ["array", "boolean", "integer", "null", "number", "object", "string"])]),
    ("stringArray",
      object [
        ("type", .text "array"), ("items", ofType "string"), ("uniqueItems", .bool true),
        ("default", .list [])])]

/-- The schemas of the keywords that describe. -/
def descriptions : Datum :=
  object [
    ("title", ofType "string"), ("description", ofType "string"), ("default", .bool true),
    ("deprecated", flag), ("readOnly", flag), ("writeOnly", flag),
    ("examples", object [("type", .text "array"), ("items", .bool true)])]

end SchemaBridge.Metaschema
