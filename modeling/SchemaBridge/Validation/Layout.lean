import SchemaBridge.Dialect

/-!
# Where schemas stand

In a schema, other schemas stand under certain keywords: one, or several in a list, or several by
name. Which keywords these are depends on the dialect.
-/

namespace SchemaBridge

/-- The keywords of a dialect under which schemas stand. -/
structure Layout where
  /-- There is one schema under each of these keywords. -/
  single : List String := []
  /-- There is one under each of these, unless something else than an object stands there. -/
  optional : List String := []
  /-- There are several, one after another. -/
  listed : List String
  /-- There are several, each under a name. -/
  named : List String
  /-- Under `items` there are one or several. -/
  variesItems : Bool := true
  /-- Under `dependencies` there may be several, each under a name. -/
  variesDependencies : Bool := true

namespace Layout

/-- The layout of a dialect. -/
def ofDialect : Dialect → Layout
  | .draft3 => {
      optional := ["additionalItems", "additionalProperties"]
      listed := ["extends"]
      named := ["definitions", "patternProperties", "properties"] }
  | .draft4 => {
      single := ["not"]
      optional := ["additionalItems", "additionalProperties"]
      listed := ["allOf", "anyOf", "oneOf"]
      named := ["definitions", "patternProperties", "properties"] }
  | .draft6 => {
      single := ["additionalItems", "additionalProperties", "contains", "not", "propertyNames"]
      listed := ["allOf", "anyOf", "oneOf"]
      named := ["definitions", "patternProperties", "properties"] }
  | .draft7 => {
      single := ["additionalItems", "additionalProperties", "contains", "else", "if", "not",
        "propertyNames", "then"]
      listed := ["allOf", "anyOf", "oneOf"]
      named := ["definitions", "patternProperties", "properties"] }
  | .draft2019 => {
      single := ["additionalItems", "additionalProperties", "contains", "contentSchema", "else",
        "if", "not", "propertyNames", "then", "unevaluatedItems", "unevaluatedProperties"]
      listed := ["allOf", "anyOf", "oneOf"]
      named := ["$defs", "definitions", "dependentSchemas", "patternProperties", "properties"]
      variesDependencies := false }
  | .draft2020 => {
      single := ["additionalProperties", "contains", "contentSchema", "else", "if", "items", "not",
        "propertyNames", "then", "unevaluatedItems", "unevaluatedProperties"]
      listed := ["allOf", "anyOf", "oneOf", "prefixItems"]
      named := ["$defs", "definitions", "dependentSchemas", "patternProperties", "properties"]
      variesItems := false
      variesDependencies := false }

/-- What stands under a keyword is a schema or holds some, as it happens. -/
def varies (layout : Layout) (keyword : String) : Bool :=
  (layout.variesItems && keyword == "items")
    || (layout.variesDependencies && keyword == "dependencies")

/-- The segments of a pointer lead to a schema: under a keyword that has one, or to one of those
under a keyword that has several. What they lead to is an object if `object` says so. -/
def isPlace (layout : Layout) (object : Bool) : List String → Bool
  | [] => true
  | [segment] =>
    (object && layout.varies segment) || (layout.single ++ layout.optional).contains segment
  | segment :: position :: rest =>
    if object && layout.varies segment then true
    else if (layout.single ++ layout.optional).contains segment then
      layout.isPlace object (position :: rest)
    else if (layout.listed ++ layout.named).contains segment then layout.isPlace object rest
    else false

end Layout

end SchemaBridge
