import SchemaBridge.Document.Tree
import SchemaBridge.Keyword

/-!
# Schemas of type references

`TypeRef.resolve` gives the schema of a type reference, and apart from it whether a value is
required. A builtin scalar has its JSON type, with null as an alternative inside of a list;
`DateTime` is a text with a format; any other name is a reference to the definition of that name. A
non-null mark changes no schema.

* `resolve_nonNull`: the schema under a non-null mark is that of the type without the mark.
-/

namespace SchemaBridge

/-- The schema of a type reference, and whether a value is required. -/
structure TypeSchema where
  schema : Members
  required : Bool

namespace TypeSchema

/-- The JSON type of the values, if the schema gives a single one. -/
def jsonType? (type : TypeSchema) : Option String :=
  match Entries.find? type.schema "type" with
  | some (.text name) => some name
  | _ => none

/-- Equal schemas, required alike. -/
def same (first second : TypeSchema) : Bool :=
  Datum.same (.object first.schema) (.object second.schema) && first.required == second.required

/-- The text of a resolved type. -/
def written (type : TypeSchema) : String :=
  "ResolvedType(" ++ (Datum.object type.schema).written ++ ", required="
    ++ Datum.writtenBool type.required ++ ")"

end TypeSchema

/-- The schema of a named type. -/
def TypeRef.nameSchema (name : String) (inList : Bool) : Members :=
  if name = Keyword.dateTime then [("type", .text "string"), ("format", .text "date-time")]
  else
    match Entries.find? Keyword.primitives name with
    | none => [("$ref", .text (Keyword.referencePrefix ++ name))]
    | some jsonType =>
      [("type", if inList then .list [.text jsonType, .text "null"] else .text jsonType)]

/-- The schema of a type reference. A non-null mark on the items of a list does not make anything
required. -/
def TypeRef.resolve (inList : Bool) : TypeRef → Except Fault TypeSchema
  | .nonNull inner => (inner.resolve inList).map fun type => ⟨type.schema, !inList⟩
  | .list item =>
    (item.resolve true).map fun type =>
      ⟨[("type", .text "array"), ("items", .object type.schema)], false⟩
  | .named name => .ok ⟨nameSchema name inList, false⟩
  | .other kind => .error (.notATypeReference kind)

theorem TypeRef.resolve_nonNull (inner : TypeRef) (inList : Bool) :
    (TypeRef.nonNull inner).resolve inList
      = (inner.resolve inList).map fun type => ⟨type.schema, !inList⟩ := rfl

end SchemaBridge
