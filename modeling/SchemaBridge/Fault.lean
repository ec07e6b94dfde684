import SchemaBridge.Datum.Written
import SchemaBridge.Document.NodeKind
import SchemaBridge.Number.Division
import SchemaBridge.Regex.Expression

/-!
# Faults

Why an operation has no result, by cause. The wording of the causes that are told in words is in
`Fault.message`, and nowhere else.
-/

namespace SchemaBridge

/-- The cause for which an operation stops. -/
inductive Fault where
  /-- The text is no GraphQL document. -/
  | notParsed
  /-- The source to be converted is no text. -/
  | sourceNotText
  /-- A node of another kind stands where a type reference is wanted. -/
  | notATypeReference (kind : NodeKind)
  /-- A definition that has no schema form; `title` names its kind. -/
  | unsupportedDefinition (title : String)
  /-- The value cannot be read as a number. -/
  | notANumber (value : Datum)
  /-- The value reads as an infinity, or as what is not a number. -/
  | notFinite (value : Datum)
  /-- An infinity has no integer part. -/
  | infiniteInteger
  /-- What is not a number has no integer part. -/
  | undefinedInteger
  /-- A number cannot be divided by another one. -/
  | notDivided (flaw : Number.DivisionFlaw)
  /-- A named format that does not exist. -/
  | unknownFormat (name : Datum)
  /-- There is no entry under the key. -/
  | missingKey (key : String)
  /-- A reference that leads nowhere. -/
  | unresolved (reference : Datum)
  /-- A resource whose anchors are looked for is not there. -/
  | notInLibrary
  /-- A step of a reference into a sequence that gives no position. -/
  | noPosition (segment : String)
  /-- A type that schemas do not know. -/
  | unknownType (name : Datum)
  /-- A directive handler refused, in its own words. -/
  | refused (words : String)
  /-- A value of a kind that the operation cannot use. -/
  | wrongKind
  /-- A sequence of a length that the operation cannot use. -/
  | wrongLength
  /-- Something that is no schema stands where one is wanted. -/
  | notASchema
  /-- A regular expression that cannot be read. -/
  | badPattern (flaw : Regex.Flaw)
  /-- A group of a regular expression was found to end before it begins. -/
  | reversedGroup
  /-- Bytes that should be a URI, and are not all ASCII. -/
  | notAscii
  /-- A text that should be a URI, and whose authority names no host. -/
  | notAUri
  /-- References that lead back to themselves without an end. -/
  | endless

namespace Fault

/-- The words for a definition that has no schema form. -/
def unsupportedWords (title : String) : String :=
  "Cannot convert " ++ title ++ " to a JSON schema definition"

/-- The words for an unknown format. -/
def unknownFormatWords (name : Datum) : String := "Unknown format " ++ name.written

/-- What is said of a fault, for the causes that are told in words. -/
def message : Fault → Option String
  | sourceNotText => some "GraphQL schema must be a string"
  | notATypeReference kind =>
    some ("Unexpected type node <class 'graphql.language.ast." ++ kind.title ++ "'>")
  | unsupportedDefinition title => some (unsupportedWords title)
  | notANumber value => some ("Cannot convert " ++ value.written ++ " to a number")
  | notFinite value => some ("Cannot convert " ++ value.written ++ " to a finite number")
  | unknownFormat name => some (unknownFormatWords name)
  | missingKey key => some (Text.quoted key)
  | refused words => some words
  | _ => none

end Fault

end SchemaBridge
