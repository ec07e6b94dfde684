import SchemaBridge.Datum.Basic
import SchemaBridge.Number.Written
import SchemaBridge.Text.Quoted

/-!
# Data in writing

How messages write a value: numbers and quoted text in their own notations, lists in square
brackets, fixed sequences in round ones with a comma after a single item, objects in braces.

* `written_ofKey`: a key is written as the value that it is.
-/

namespace SchemaBridge.Datum

/-- The texts of the items with a comma and a space between them. -/
def separated (texts : List String) : String := String.intercalate ", " texts

/-- The text of a boolean. -/
def writtenBool (value : Bool) : String := if value then "True" else "False"

/-- The texts of the items of a fixed sequence as one. -/
def inParentheses : List String → String
  | [single] => "(" ++ single ++ ",)"
  | texts => "(" ++ separated texts ++ ")"

mutual

/-- The text of a key. -/
def writtenKey : Key → String
  | .text name => Text.quoted name
  | .null => "None"
  | .bool value => writtenBool value
  | .number value => value.written
  | .bytes value => Text.quotedBytes value
  | .undefined => "Undefined"
  | .tuple items => inParentheses (writtenKeys items)

/-- The texts of keys. -/
def writtenKeys : List Key → List String
  | [] => []
  | item :: items => writtenKey item :: writtenKeys items

end

mutual

/-- The text of a value. -/
def written : Datum → String
  | .null => "None"
  | .bool value => writtenBool value
  | .number value => value.written
  | .text value => Text.quoted value
  | .list items => "[" ++ separated (writtenItems items) ++ "]"
  | .tuple items => inParentheses (writtenItems items)
  | .object entries => "\x7b" ++ separated (writtenEntries entries) ++ "\x7d"
  | .bytes value => Text.quotedBytes value
  | .undefined => "Undefined"

/-- The texts of the items of a sequence. -/
def writtenItems : List Datum → List String
  | [] => []
  | item :: items => written item :: writtenItems items

/-- The texts of the entries of an object. -/
def writtenEntries : List (Key × Datum) → List String
  | [] => []
  | (key, value) :: rest => (writtenKey key ++ ": " ++ written value) :: writtenEntries rest

end

mutual

theorem written_ofKey (key : Key) : written (ofKey key) = writtenKey key := by
  cases key with
  | tuple items => rw [ofKey, written, writtenKey, writtenItems_ofKeys items]
  | _ => rw [ofKey, written, writtenKey]

theorem writtenItems_ofKeys (items : List Key) : writtenItems (ofKeys items) = writtenKeys items := by
  match items with
  | [] => rw [ofKeys, writtenItems, writtenKeys]
  | item :: items =>
    rw [ofKeys, writtenItems, writtenKeys, written_ofKey item, writtenItems_ofKeys items]

end

end SchemaBridge.Datum
