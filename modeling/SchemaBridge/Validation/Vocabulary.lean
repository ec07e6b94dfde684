import SchemaBridge.Validation.Application
import SchemaBridge.Validation.Evaluated
import SchemaBridge.Validation.Items
import SchemaBridge.Validation.Properties

/-!
# Vocabularies

The keywords of each dialect, and the rules for them. Some keywords have the same rule in every
dialect and some belong to a few only; others have changed their meaning and have several.

* `rule?_ref`: references are in every dialect.
-/

namespace SchemaBridge.Vocabulary

open Schema

/-- A keyword that bounds values of some kind. -/
def bound (bound : Bound) : String × Rule :=
  (bound.keyword, fun task value => bound.outcome value task.data)

/-- A keyword that bounds numbers from below, which may reach the bound or not. -/
def least (keyword : String) (exclusive : Bool) : Bound :=
  ⟨keyword, numberOf?, atLeast exclusive, if exclusive then Wording.notAbove else Wording.below⟩

/-- A keyword that bounds numbers from above, which may reach the bound or not. -/
def greatest (keyword : String) (exclusive : Bool) : Bound :=
  ⟨keyword, numberOf?, atMost exclusive, if exclusive then Wording.notBelow else Wording.above⟩

/-- A bound that numbers may not reach if the keyword beside it says so. -/
def modifiedBound (keyword modifier : String) (bound : String → Bool → Bound) : String × Rule :=
  (keyword, fun task value =>
    (bound keyword (isSet task.entries modifier)).outcome value task.data)

/-- The keywords of all dialects with the same rules. -/
def shared : Table Rule := [
  ("$ref", referenceOutcome),
  ("additionalProperties", additionalPropertiesOutcome),
  ("enum", fun task value => enumOutcome value task.data),
  ("pattern", fun task value => patternOutcome value task.data),
  ("patternProperties", patternPropertiesOutcome),
  ("uniqueItems", fun task value => uniqueOutcome value task.data),
  bound ⟨"maxItems", sizeOf?, atMost false, Wording.tooLong⟩,
  bound ⟨"maxLength", lengthOf?, atMost false, Wording.tooLong⟩,
  bound ⟨"minItems", sizeOf?, atLeast false, Wording.tooShort⟩,
  bound ⟨"minLength", lengthOf?, atLeast false, Wording.tooShort⟩]

/-- The keywords of all dialects since draft 4. -/
def sinceDraft4 : Table Rule := [
  ("allOf", allOfOutcome),
  ("anyOf", anyOfOutcome),
  ("multipleOf", fun task value => multipleOutcome "multipleOf" value task.data),
  ("not", notOutcome),
  ("oneOf", oneOfOutcome),
  ("properties", propertiesOutcome),
  ("required", fun task value => requiredOutcome task.extent value task.data),
  ("type", fun task value => typeOutcome task.setting.rules value task.data),
  bound ⟨"maxProperties", countOf?, atMost false, Wording.tooMany⟩,
  bound ⟨"minProperties", countOf?, atLeast false, Wording.tooFew⟩]

/-- The keywords of all dialects since draft 6. -/
def sinceDraft6 : Table Rule := [
  ("const", fun task value => constOutcome value task.data),
  ("propertyNames", propertyNamesOutcome),
  bound (greatest "exclusiveMaximum" true),
  bound (greatest "maximum" false),
  bound (least "exclusiveMinimum" true),
  bound (least "minimum" false)]

/-- The keywords of all dialects since that of 2019. -/
def since2019 : Table Rule := [
  ("contains", countedContainsOutcome),
  ("dependentRequired", dependentRequiredOutcome),
  ("dependentSchemas", dependentSchemasOutcome),
  ("if", ifOutcome)]

/-- The keywords that drafts 3 and 4 have in common. -/
def upToDraft4 : Table Rule := [
  ("additionalItems", additionalItemsOutcome),
  ("items", itemsOutcome),
  modifiedBound "maximum" "exclusiveMaximum" greatest,
  modifiedBound "minimum" "exclusiveMinimum" least]

/-- The keywords of draft 3 alone. -/
def ofDraft3 : Table Rule := [
  ("dependencies", ownDependenciesOutcome),
  ("disallow", disallowOutcome),
  ("divisibleBy", fun task value => multipleOutcome "divisibleBy" value task.data),
  ("extends", extendsOutcome),
  ("properties", ownPropertiesOutcome),
  ("type", ownTypeOutcome)]

/-- The keywords that drafts 6 and 7 have in common. -/
def ofDrafts6And7 : Table Rule := [
  ("additionalItems", additionalItemsOutcome),
  ("contains", containsOutcome),
  ("dependencies", dependenciesOutcome),
  ("items", boolItemsOutcome)]

/-- The keywords of the draft of 2019 alone. -/
def of2019 : Table Rule := [
  ("$recursiveRef", recursiveOutcome),
  ("additionalItems", additionalItemsOutcome),
  ("items", boolItemsOutcome),
  ("unevaluatedItems", unevaluatedItemsOutcome true),
  ("unevaluatedProperties", unevaluatedPropertiesOutcome true)]

/-- The keywords of the draft of 2020 alone. -/
def of2020 : Table Rule := [
  ("$dynamicRef", referenceOutcome),
  ("items", furtherItemsOutcome),
  ("prefixItems", prefixItemsOutcome),
  ("unevaluatedItems", unevaluatedItemsOutcome false),
  ("unevaluatedProperties", unevaluatedPropertiesOutcome false)]

/-- The keywords of a dialect. -/
def ofDialect : Dialect → Table Rule
  | .draft3 => shared ++ upToDraft4 ++ ofDraft3
  | .draft4 => shared ++ sinceDraft4 ++ upToDraft4 ++ [("dependencies", dependenciesOutcome)]
  | .draft6 => shared ++ sinceDraft4 ++ sinceDraft6 ++ ofDrafts6And7
  | .draft7 => shared ++ sinceDraft4 ++ sinceDraft6 ++ ofDrafts6And7 ++ [("if", ifOutcome)]
  | .draft2019 => shared ++ sinceDraft4 ++ sinceDraft6 ++ since2019 ++ of2019
  | .draft2020 => shared ++ sinceDraft4 ++ sinceDraft6 ++ since2019 ++ of2020

/-- The rule for a keyword in a dialect. -/
def rule? (dialect : Dialect) (keyword : String) : Option Rule :=
  Entries.find? (ofDialect dialect) keyword

theorem rule?_ref (dialect : Dialect) : rule? dialect "$ref" = some referenceOutcome := by
  cases dialect <;> rfl

end SchemaBridge.Vocabulary
