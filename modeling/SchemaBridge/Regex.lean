import SchemaBridge.Regex.Opening
import SchemaBridge.Regex.Reader
import SchemaBridge.Regex.Search

/-!
# Regular expressions, read and searched for

`read` gives the regular expression that a text denotes, and `search` looks for a part of a text
that it matches, from the left.
-/

namespace SchemaBridge

/-- A regular expression, ready to be searched for. -/
structure Regex where
  program : Regex.Program
  /-- It takes so many characters at least. -/
  least : Nat
  /-- The characters with which it begins, if these are certain and it takes something. -/
  opening : Option CharSet
  /-- The number of its groups. -/
  groups : Nat

namespace Regex

/-- What came of a search. -/
inductive Finding where
  | found
  | absent
  /-- There is a match, in which a group ends before it begins. -/
  | reversed
deriving DecidableEq

/-- The expression that items make up, after they were read. -/
def ofItems (items : List Item) (reading : Reading) : Except Flaw Regex := do
  let switches := Switches.change {} reading.switches []
  let (program, _) ← assembleAll reading.closed switches .elsewhere items
  let least := (widthOf reading.closed items).least
  return { program, least, groups := reading.begun,
           opening := if least = 0 then none else openingOf switches items }

/-- The expression that characters denote, for texts or for bytes. -/
def readChars (isText : Bool) (spelling : List Char) : Except Flaw Regex := do
  let (items, reading) ← Reader.expression.run { rest := spelling, isText }
  ofItems items reading

/-- The expression that a text denotes. -/
def read (spelling : String) : Except Flaw Regex := readChars true spelling.toList

/-- The expression for bytes that the characters with the given codes denote. -/
def readBytes (spelling : List UInt8) : Except Flaw Regex :=
  readChars false (spelling.map fun byte => Char.ofNat byte.toNat)

/-- Some group ends before it begins. -/
def anyReversed (groups : Nat) (registers : Registers) : Bool :=
  (List.range groups).any fun group =>
    (registers.span? group).any fun (start, finish) => finish < start

/-- What a match from a place is worth; none is worth nothing. -/
def attempt (regex : Regex) (text : Chars) (place : Nat) : Finding :=
  let outcome := regex.program.run text false place { pointer := place } stop
  if !outcome.found then .absent
  else if anyReversed regex.groups outcome.registers then .reversed
  else .found

/-- The first match from one of `n` places on. -/
def searchFrom (regex : Regex) (text : Chars) : Nat → Nat → Finding
  | 0, _ => .absent
  | n + 1, place =>
    if regex.opening.all (isNext text · place) then
      match attempt regex text place with
      | .absent => searchFrom regex text n (place + 1)
      | finding => finding
    else searchFrom regex text n (place + 1)

/-- The number of places at which a match may begin. -/
def placeCount (regex : Regex) (size : Nat) : Nat :=
  if regex.opening.isSome then size else size - (regex.least - 1) + 1

/-- Whether the expression matches some part of a text. -/
def search (regex : Regex) (text : List Char) : Finding :=
  let text := text.toArray
  if text.size < regex.least then .absent
  else regex.searchFrom text (regex.placeCount text.size) 0

end Regex

end SchemaBridge
