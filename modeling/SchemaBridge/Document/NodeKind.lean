/-!
# Kinds of syntax nodes

Every node of a GraphQL syntax tree has a kind. Most nodes have types of their own in
`SchemaBridge.Document.Tree`; where any node may stand and only its kind is told, the kind is all
that is kept.

* `ofTag?_tag`: every kind is found by its tag.
-/

namespace SchemaBridge

/-- The kinds of nodes of a GraphQL document. -/
inductive NodeKind where
  | name | document
  | operationDefinition | variableDefinition | selectionSet | field | argument
  | fragmentSpread | inlineFragment | fragmentDefinition
  | variableUse | intValue | floatValue | stringValue | booleanValue | nullValue | enumValue
  | listValue | objectValue | objectField
  | directive
  | namedType | listType | nonNullType
  | schemaDefinition | operationTypeDefinition
  | scalarTypeDefinition | objectTypeDefinition | fieldDefinition | inputValueDefinition
  | interfaceTypeDefinition | unionTypeDefinition | enumTypeDefinition | enumValueDefinition
  | inputObjectTypeDefinition | directiveDefinition
  | schemaExtension | scalarTypeExtension | objectTypeExtension | interfaceTypeExtension
  | unionTypeExtension | enumTypeExtension | inputObjectTypeExtension | directiveExtension
deriving DecidableEq

namespace NodeKind

/-- The words of a kind's name. -/
def words : NodeKind → List String
  | name => ["name"]
  | document => ["document"]
  | operationDefinition => ["operation", "definition"]
  | variableDefinition => ["variable", "definition"]
  | selectionSet => ["selection", "set"]
  | field => ["field"]
  | argument => ["argument"]
  | fragmentSpread => ["fragment", "spread"]
  | inlineFragment => ["inline", "fragment"]
  | fragmentDefinition => ["fragment", "definition"]
  | variableUse => ["variable"]
  | intValue => ["int", "value"]
  | floatValue => ["float", "value"]
  | stringValue => ["string", "value"]
  | booleanValue => ["boolean", "value"]
  | nullValue => ["null", "value"]
  | enumValue => ["enum", "value"]
  | listValue => ["list", "value"]
  | objectValue => ["object", "value"]
  | objectField => ["object", "field"]
  | directive => ["directive"]
  | namedType => ["named", "type"]
  | listType => ["list", "type"]
  | nonNullType => ["non", "null", "type"]
  | schemaDefinition => ["schema", "definition"]
  | operationTypeDefinition => ["operation", "type", "definition"]
  | scalarTypeDefinition => ["scalar", "type", "definition"]
  | objectTypeDefinition => ["object", "type", "definition"]
  | fieldDefinition => ["field", "definition"]
  | inputValueDefinition => ["input", "value", "definition"]
  | interfaceTypeDefinition => ["interface", "type", "definition"]
  | unionTypeDefinition => ["union", "type", "definition"]
  | enumTypeDefinition => ["enum", "type", "definition"]
  | enumValueDefinition => ["enum", "value", "definition"]
  | inputObjectTypeDefinition => ["input", "object", "type", "definition"]
  | directiveDefinition => ["directive", "definition"]
  | schemaExtension => ["schema", "extension"]
  | scalarTypeExtension => ["scalar", "type", "extension"]
  | objectTypeExtension => ["object", "type", "extension"]
  | interfaceTypeExtension => ["interface", "type", "extension"]
  | unionTypeExtension => ["union", "type", "extension"]
  | enumTypeExtension => ["enum", "type", "extension"]
  | inputObjectTypeExtension => ["input", "object", "type", "extension"]
  | directiveExtension => ["directive", "extension"]

/-- All kinds, in the order of their declaration. -/
def all : List NodeKind :=
  [name, document, operationDefinition, variableDefinition, selectionSet, field, argument,
   fragmentSpread, inlineFragment, fragmentDefinition, variableUse, intValue, floatValue,
   stringValue, booleanValue, nullValue, enumValue, listValue, objectValue, objectField, directive,
   namedType, listType, nonNullType, schemaDefinition, operationTypeDefinition,
   scalarTypeDefinition, objectTypeDefinition, fieldDefinition, inputValueDefinition,
   interfaceTypeDefinition,
   unionTypeDefinition, enumTypeDefinition, enumValueDefinition, inputObjectTypeDefinition,
   directiveDefinition, schemaExtension, scalarTypeExtension, objectTypeExtension,
   interfaceTypeExtension, unionTypeExtension, enumTypeExtension, inputObjectTypeExtension,
   directiveExtension]

/-- The kind's name in lower case, as trees are tagged. -/
def tag (kind : NodeKind) : String := String.intercalate "_" kind.words

/-- The kind with a given tag. -/
def ofTag? (tag : String) : Option NodeKind := all.find? fun kind => kind.tag == tag

/-- The kind's name as messages write it, `NamedTypeNode` for a named type. -/
def title (kind : NodeKind) : String :=
  String.join (kind.words.map String.capitalize) ++ "Node"

theorem ofTag?_tag (kind : NodeKind) : ofTag? kind.tag = some kind := by
  cases kind <;> decide

end NodeKind

end SchemaBridge
