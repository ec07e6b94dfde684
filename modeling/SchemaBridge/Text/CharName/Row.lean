import SchemaBridge.Entries
import SchemaBridge.Text.Parts

/-!
# Rows of character names

Neighbouring characters often have names that begin with the same words. A row gives the names of
characters without a gap between them, as spellings with slashes between them: the digit at the
beginning of a spelling is the number of words that the name shares with the one before it.

* `length_namesOf`: each spelling gives a name, so that the codes follow one another.
-/

namespace SchemaBridge.Text.CharName

/-- The code of the first character, and the spellings of the names. -/
abbrev Row := Nat × List String

/-- The words of a text, of which there are none if it is empty. -/
def words (text : List Char) : List (List Char) := if text.isEmpty then [] else parts ' ' text

/-- The words of the name of a spelling, given those of the name before it. -/
def wordsOf (before : List (List Char)) : List Char → List (List Char)
  | [] => []
  | c :: rest => if c.isDigit then before.take (c.toNat - '0'.toNat) ++ words rest else words (c :: rest)

/-- The names of spellings, given the words of the name before them. -/
def namesOf (before : List (List Char)) : List (List Char) → List String
  | [] => []
  | spelling :: rest =>
    let name := wordsOf before spelling
    String.ofList (joined ' ' name) :: namesOf name rest

/-- The names in a row with the codes of their characters. -/
def Row.names (row : Row) : Table Nat :=
  let names := namesOf [] (row.2.flatMap fun spellings => parts '/' spellings.toList)
  (names.zipIdx row.1)

theorem length_namesOf (before : List (List Char)) (spellings : List (List Char)) :
    (namesOf before spellings).length = spellings.length := by
  induction spellings generalizing before with
  | nil => rfl
  | cons spelling rest ih => rw [namesOf, List.length_cons, List.length_cons, ih]

end SchemaBridge.Text.CharName
