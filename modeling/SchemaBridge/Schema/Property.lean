import SchemaBridge.Schema.Directive
import SchemaBridge.Schema.TypeSchema

/-!
# Properties from fields

A field becomes a property: the schema of its type, its name as the title, and then the keywords
of its directives, in the order in which they stand, a later one replacing an earlier one.

* `directiveKeywords_append`: the directives of a field contribute one after another.
-/

namespace SchemaBridge

/-- The property of an object schema that a field becomes. -/
structure Property where
  name : String
  schema : Members
  required : Bool

/-- The text of a property. -/
def Property.written (property : Property) : String :=
  "ProjectedField(" ++ Text.quoted property.name ++ ", " ++ (Datum.object property.schema).written
    ++ ", required=" ++ Datum.writtenBool property.required ++ ")"

namespace Field

/-- The keywords of directives, written one after another into those that are there. -/
def directiveKeywords (jsonType : Option String) (handlers : Handlers) (keywords : Members) :
    List Directive → Conversion Members
  | [] => pure keywords
  | directive :: rest => do
    let added ← directive.apply jsonType handlers
    directiveKeywords jsonType handlers (Entries.merge keywords added) rest

/-- The property that a field becomes. -/
def property (field : Field) (handlers : Handlers) : Conversion Property := do
  let type ← Conversion.ofExcept (field.type.resolve false)
  let keywords ← directiveKeywords type.jsonType? handlers [] field.directives
  return {
    name := field.name
    schema := Entries.merge (Entries.insert type.schema "title" (.text field.name)) keywords
    required := type.required }

theorem directiveKeywords_append (jsonType : Option String) (handlers : Handlers)
    (keywords : Members) (first second : List Directive) :
    directiveKeywords jsonType handlers keywords (first ++ second)
      = directiveKeywords jsonType handlers keywords first >>= fun keywords =>
          directiveKeywords jsonType handlers keywords second := by
  induction first generalizing keywords with
  | nil => simp [directiveKeywords]
  | cons directive rest ih => simp [directiveKeywords, ih]

end Field

end SchemaBridge
