import SchemaBridge.Dialect
import SchemaBridge.Document.Cleaning
import SchemaBridge.Document.Parser
import SchemaBridge.Schema.Definition

/-!
# Schemas from documents

A document becomes a schema document with one entry per type name; a later definition replaces an
earlier one of the same name, at its place. Directive definitions are left out, and so are types of
a reserved name, which only carry options. A document in which nothing is left becomes the empty
object. A source text is cleaned before it is parsed.

* `schema_of_ignored`: a document of left-out definitions becomes the empty object.
-/

namespace SchemaBridge

namespace Definition

/-- Names of types that only carry options. -/
def reservedNames : List String := ["StringValidationFormat"]

/-- The definition has no part in the schema document. -/
def isIgnored : Definition → Bool
  | .directive .. => true
  | definition => definition.typeName?.any reservedNames.contains

end Definition

namespace Document

/-- How documents are converted: handlers for directives, and the identifier that the schema
document gives for its dialect. -/
structure Options where
  handlers : Handlers := []
  schemaUri : Option String := some Dialect.draft04

/-- The title of a schema. -/
def title (schema : Members) : String :=
  match Entries.find? schema "title" with
  | some (.text name) => name
  | _ => ""

/-- The schemas of definitions by title, written one after another into those that are there. -/
def schemas (handlers : Handlers) (built : Members) :
    List Definition → Conversion Members
  | [] => pure built
  | definition :: rest => do
    let schema ← definition.schema handlers
    if Entries.has built (title schema) then Conversion.notify (.overwritten (title schema))
    schemas handlers (Entries.insert built (title schema) (.object schema)) rest

/-- The schema document of a document. -/
def schema (document : Document) (options : Options) : Conversion Members :=
  match document.filter (!·.isIgnored) with
  | [] => pure []
  | definitions => do
    let built ← schemas options.handlers [] definitions
    let uri := options.schemaUri.elim Datum.null Datum.text
    return [("$schema", uri), ("definitions", .object built)]

/-- The schema document of a source text. -/
def ofText (source : String) (options : Options) : Conversion Members :=
  let cleaned := Cleaning.cleanText source
  if cleaned = "" then pure []
  else
    match parse? cleaned with
    | some document => document.schema options
    | none => Conversion.ofExcept (.error .notParsed)

/-- The schema document of a source, which has to be a text. -/
def ofSource (source : Datum) (options : Options) : Conversion Members :=
  match source with
  | .text text => ofText text options
  | _ => Conversion.ofExcept (.error .sourceNotText)

theorem schema_of_ignored {document : Document} {options : Options}
    (h : ∀ definition ∈ document, definition.isIgnored = true) :
    document.schema options = pure [] := by
  have : document.filter (!·.isIgnored) = [] := by simpa [List.filter_eq_nil_iff] using h
  simp [schema, this]

end Document

end SchemaBridge
