import SchemaBridge.Document.NodeKind

/-!
# Syntax trees of GraphQL documents

What a document says, as far as schemas depend on it: the type system definitions with their
fields, types and directives. A definition that has no schema form, such as an extension or an
operation, is kept by its kind only. Trees are not restricted to what text can spell: names are
arbitrary texts, non-null marks may be repeated, and any node may stand where a type or a value is
wanted.
-/

namespace SchemaBridge

/-- A reference to a type. -/
inductive TypeRef where
  | named (name : String)
  | list (item : TypeRef)
  | nonNull (inner : TypeRef)
  /-- A node of another kind in the place of a type. -/
  | other (kind : NodeKind)
deriving DecidableEq, Inhabited

/-- A value as it is written: numbers keep their spelling, variables their names. -/
inductive Literal where
  | variableUse (name : String)
  | int (spelling : String)
  | float (spelling : String)
  | text (value : String)
  | boolean (value : Bool)
  | null
  | enum (name : String)
  | list (items : List Literal)
  | object (fields : List (String × Literal))
  /-- A node of another kind in the place of a value. -/
  | other (kind : NodeKind)
deriving Inhabited

/-- An argument of a directive. -/
structure Argument where
  name : String
  value : Literal

/-- A directive with its arguments in order. -/
structure Directive where
  name : String
  arguments : List Argument

/-- An argument of a field, or a field of an input object. -/
structure InputValue where
  name : String
  type : TypeRef
  fallback : Option Literal
  directives : List Directive

/-- A field of an object, an interface or an input object. Fields of input objects have no
arguments, and only they may have a fallback value. -/
structure Field extends InputValue where
  arguments : List InputValue

/-- A value of an enumeration. -/
structure EnumValue where
  name : String
  directives : List Directive

/-- A definition in a document. -/
inductive Definition where
  | scalar (name : String) (directives : List Directive)
  | object (name : String) (interfaces : List String) (directives : List Directive)
      (fields : List Field)
  | interface (name : String) (interfaces : List String) (directives : List Directive)
      (fields : List Field)
  | inputObject (name : String) (directives : List Directive) (fields : List Field)
  | enum (name : String) (directives : List Directive) (values : List EnumValue)
  | union (name : String) (directives : List Directive) (members : List TypeRef)
  | directive (name : String) (arguments : List InputValue) (repeatable : Bool)
      (locations : List String)
  /-- A definition of another kind, or another node in the place of a definition. -/
  | other (kind : NodeKind)

namespace Definition

/-- The kind of a definition. -/
def kind : Definition → NodeKind
  | scalar .. => .scalarTypeDefinition
  | object .. => .objectTypeDefinition
  | interface .. => .interfaceTypeDefinition
  | inputObject .. => .inputObjectTypeDefinition
  | enum .. => .enumTypeDefinition
  | union .. => .unionTypeDefinition
  | directive .. => .directiveDefinition
  | other kind => kind

/-- The name of the type that is defined, if it is a type. -/
def typeName? : Definition → Option String
  | scalar name .. | object name .. | interface name .. | inputObject name .. | enum name ..
  | union name .. => some name
  | directive .. | other _ => none

end Definition

/-- A document: its definitions in order. -/
abbrev Document := List Definition

end SchemaBridge
