import SchemaBridge.Number.Numeral
import SchemaBridge.Regex.Reading
import SchemaBridge.Text.Identifier

/-!
# Reading regular expressions

The usual notation: alternatives, sets in square brackets, classes and other escapes, conditions,
repetition that is greedy, reluctant or possessive, groups with numbers and names, references back
to them and conditions on them, looking ahead and looking back, and switches, which stand at the
beginning or hold for one group.

Rules that nest take the number of levels that may still follow, and loops an amount of fuel that is
larger than the number of characters left, of which each turn takes one at least.
-/

namespace SchemaBridge.Regex

namespace Reader

/-! ## Repetition -/

/-- The bounds that have no place in an expression begin here. -/
def hugeBound : Nat := 4294967295

/-- A bound in digits. -/
def count (digits : List Char) : Reader Nat := do
  if Numeral.maxDigits < digits.length then throw .longBound
  let bound := numberOf 10 digits
  if hugeBound ≤ bound then throw .hugeBound
  return bound

/-- The digits of the bounds between braces, after the opening one; nothing is taken if these are no
bounds. -/
def boundDigits? : Reader (Option (List Char × List Char)) := do
  let start := (← get).rest
  let least ← takeAll Char.isDigit
  let most ← (do if ← accept ',' then takeAll Char.isDigit else return least)
  if (start.head?.any (· ≠ '\x7d')) && (← accept '\x7d') then return some (least, most)
  else
    modify ({ · with rest := start })
    return none

/-- The bounds between braces. -/
def bounds? : Reader (Option (Nat × Option Nat)) := do
  let some (least, most) ← boundDigits? | return none
  let least ← (do if least.isEmpty then return 0 else count least)
  if most.isEmpty then return some (least, none)
  else
    let most ← count most
    if most < least then malformed
    return some (least, some most)

/-- How often the item before a sign may stand; a brace that begins no bounds is no sign. -/
def repetition? : Char → Reader (Option (Nat × Option Nat))
  | '*' => return some (0, none)
  | '+' => return some (1, none)
  | '?' => return some (0, some 1)
  | '\x7b' => bounds?
  | _ => return none

/-- The mark after a sign of repetition. -/
def manner : Reader Manner := do
  if ← accept '?' then return .reluctant
  else if ← accept '+' then return .possessive
  else return .greedy

/-- The items before a sign of repetition, newest first, with the last of them repeated. -/
def repeatLast (least : Nat) (most : Option Nat) : List Item → Reader (List Item)
  | [] => malformed
  | item :: before => do
    if item.isCondition || item.isTimes then malformed
    modify ({ · with repeats := true })
    return .times (← manner) least most item.unpacked :: before

/-! ## Switches -/

/-- The letters of the switches. -/
def isSwitch (c : Char) : Bool := "imsxautL".toList.contains c

/-- The letters of switches that choose an alphabet. -/
def isAlphabet (c : Char) : Bool := "auL".toList.contains c

/-- The letters of switches up to a character that is none. -/
def switchLetters : Reader (List Char) := takeAll isSwitch

/-- Switches can be turned on together: they choose one alphabet at most, and one that there is. -/
def areOn (on : List Char) : Reader Bool := do
  let absent := if (← get).isText then 'L' else 'u'
  let alphabets := (on.filter isAlphabet).eraseDups
  return !on.contains absent && alphabets.length ≤ 1

/-- What switches are turned on and off in a group; some stand for the whole expression only, and
some cannot be turned off. -/
def areChanged (on off : List Char) : Bool :=
  !on.contains 't' && !off.any (fun c => isAlphabet c || c = 't') && !off.any on.contains

/-! ## Groups -/

/-- The number of the group of that name. -/
def namedGroup (name : String) : Reader Nat := do
  let some number := Entries.find? (← get).names name | malformed
  return number

/-- Begin a group, which may have a name that no other one has. -/
def openGroup (name : Option String) : Reader Nat := do
  let reading ← get
  let number := reading.begun + 1
  if let some name := name then
    if Entries.has reading.names name then malformed
    modify fun reading => { reading with names := Entries.insert reading.names name number }
  modify fun reading => { reading with begun := number }
  return number

/-- End a group. -/
def closeGroup (number : Nat) (body : List Item) : Reader Item := do
  modify fun reading =>
    { reading with closed := Entries.insert reading.closed number (widthOf reading.closed body) }
  return .group number body

/-- The groups have numbers below this. -/
def groupLimit : Int := 1073741823

/-- The group that a condition asks for, by name or by number. -/
def conditionGroup (name : String) : Reader Nat := do
  let number ← (do
    if Text.isIdentifier name then namedGroup name
    else
      let some value := Numeral.readInt? name | malformed
      if value ≤ 0 || groupLimit ≤ value then malformed
      modify fun reading => { reading with promised := value.toNat :: reading.promised }
      return value.toNat)
  let reading ← get
  if reading.behind.isSome && !isKnown number reading then malformed
  return number

/-- How a part of an expression is read: with all its alternatives, or only one of them. -/
inductive Part where
  | whole | branch

/-- A reader of the parts of groups; blanks and comments between the items count or do not. -/
abbrev Inner := Part → Bool → Reader (List Item)

/-- The body of a group up to its closing bracket. -/
def body (inner : Inner) (spaced : Bool) : Reader (List Item) := do
  let items ← inner .whole spaced
  expect ')'
  return items

/-- A body whose place is remembered. -/
def captured (inner : Inner) (spaced : Bool) (name : Option String) : Reader Item := do
  let number ← openGroup name
  closeGroup number (← body inner spaced)

/-- What is looked back for. -/
def lookBehind (inner : Inner) (spaced wanted : Bool) : Reader Item := do
  let outer := (← get).behind
  modify fun reading => { reading with behind := outer.or (some (reading.begun + 1)) }
  let items ← inner .whole spaced
  modify ({ · with behind := outer })
  expect ')'
  return .look true wanted items

/-- Something for the case that a group took something, and something for the case that it did
not. -/
def conditional (inner : Inner) (spaced : Bool) : Reader Item := do
  let number ← conditionGroup (← nameUntil ')')
  let yes ← inner .branch spaced
  let no ← (do if ← accept '|' then inner .branch spaced else return [])
  expect ')'
  return .ifTaken number yes no

/-- Take the signs of a comment up to the character that ends it; without it, the comment goes on
to the end of the text. -/
def skipComment (last : Char) : Nat → Reader Bool
  | 0 => return false
  | fuel + 1 => do
    match ← take? with
    | none => return false
    | some sign => if sign = .plain last then return true else skipComment last fuel

/-- A name that is an identifier. -/
def groupName (close : Char) : Reader String := do
  let name ← nameUntil close
  if Text.isIdentifier name then return name else malformed

/-- A group with a name, or a reference to one, after the letter for that. -/
def named (inner : Inner) (spaced : Bool) : Reader Item := do
  if ← accept '<' then captured inner spaced (some (← groupName '>'))
  else
    expect '='
    backReference (← namedGroup (← groupName ')'))

/-- A group with switches after the opening bracket and the question mark: one that has them to
itself, or none if they are for the whole expression, where they have to come first. -/
def switchGroup (inner : Inner) (spaced atStart : Bool) : Reader (Option Item) := do
  let on ← switchLetters
  if !(← areOn on) then malformed
  if !on.isEmpty && (← accept ')') then
    if !atStart then malformed
    modify fun reading => { reading with switches := reading.switches ++ on }
    return none
  else
    let off ← (do
      if ← accept '-' then
        let off ← switchLetters
        if off.isEmpty then malformed else return off
      else return [])
    expect ':'
    if !areChanged on off then malformed
    let spaced := (spaced || on.contains 'x') && !off.contains 'x'
    return some (.switched on off (← body inner spaced))

/-- What stands in brackets, after the opening one: an item, unless it is a comment or sets
switches. -/
def bracket (inner : Inner) (spaced atStart : Bool) : Reader (Option Item) := do
  if !(← accept '?') then some <$> captured inner spaced none
  else if ← accept ':' then (some <| .switched [] [] ·) <$> body inner spaced
  else if ← accept '>' then (some <| .committed ·) <$> body inner spaced
  else if ← accept '=' then (some <| .look false true ·) <$> body inner spaced
  else if ← accept '!' then (some <| .look false false ·) <$> body inner spaced
  else if ← accept '(' then some <$> conditional inner spaced
  else if ← accept 'P' then some <$> named inner spaced
  else if ← accept '<' then
    if ← accept '=' then some <$> lookBehind inner spaced true
    else
      expect '!'
      some <$> lookBehind inner spaced false
  else if ← accept '#' then
    if ← skipComment ')' ((← get).rest.length + 1) then return none else malformed
  else switchGroup inner spaced atStart

/-! ## Alternatives -/

/-- A plain sign that begins no group, as items added to those before, newest first. -/
def plainItem (c : Char) (items : List Item) : Reader (List Item) := do
  if c = '[' then return .leaf (← set) :: items
  else if c = '.' then return .leaf .any :: items
  else if c = '^' then return .condition .start :: items
  else if c = '$' then return .condition .finish :: items
  else if let some (least, most) ← repetition? c then repeatLast least most items
  else return .leaf (.code c.toNat) :: items

/-- The items up to the end of an alternative, added to those before, newest first. Blanks and
comments between them count or do not, and switches for the whole expression can change that. -/
def itemsUpTo (inner : Inner) (outermost : Bool) :
    Nat → Bool → List Item → Reader (List Item × Bool)
  | 0, _, _ => malformed
  | fuel + 1, spaced, items => do
    match ← peek with
    | none | some '|' | some ')' => return (items, spaced)
    | some _ =>
      match ← take with
      | .escaped c => itemsUpTo inner outermost fuel spaced ((← escapedItem c) :: items)
      | .plain c =>
        if spaced && CharSet.asciiBlank.contains c then itemsUpTo inner outermost fuel spaced items
        else if spaced && c = '#' then
          discard (skipComment '\n' ((← get).rest.length + 1))
          itemsUpTo inner outermost fuel spaced items
        else if c = '(' then
          match ← bracket inner spaced (outermost && items.isEmpty) with
          | some item => itemsUpTo inner outermost fuel spaced (item :: items)
          | none =>
            let spaced := spaced || (outermost && (← get).switches.contains 'x')
            itemsUpTo inner outermost fuel spaced items
        else itemsUpTo inner outermost fuel spaced (← plainItem c items)

/-- One alternative, and whether blanks count after it. -/
def branch (inner : Inner) (outermost spaced : Bool) : Reader (List Item × Bool) := do
  let (items, spaced) ← itemsUpTo inner outermost ((← get).rest.length + 1) spaced []
  return (items.reverse.flatMap Item.unpacked, spaced)

/-- The alternatives after those before; only the first of all may set switches. -/
def alternativesUpTo (inner : Inner) (outermost : Bool) :
    Nat → Bool → List (List Item) → Reader (List Item)
  | 0, _, _ => malformed
  | fuel + 1, spaced, before => do
    let (items, spaced) ← branch inner (outermost && before.isEmpty) spaced
    if ← accept '|' then alternativesUpTo inner outermost fuel spaced (before ++ [items])
    else return Item.ofAlternatives (before ++ [items])

/-- A part of an expression in which groups stand in each other at most so deep. -/
def partUpTo : Nat → Bool → Inner
  | 0, _, _, _ => throw .deep
  | depth + 1, outermost, part, spaced => do
    let inner := partUpTo depth false
    match part with
    | .whole => alternativesUpTo inner outermost ((← get).rest.length + 1) spaced []
    | .branch => return (← branch inner false spaced).1

/-- Groups may stand in each other at most so deep. -/
def depthLimit : Nat := 490

/-- A whole expression. -/
def expression : Reader (List Item) := do
  goTo (← get).rest
  let items ← partUpTo (depthLimit + 1) true .whole false
  let reading ← get
  if (reading.switches.filter isAlphabet).eraseDups.length > 1 then throw .contrary
  if !reading.rest.isEmpty || reading.promised.any (reading.begun < ·)
      || (reading.switches.contains 't' && reading.repeats) then
    malformed
  return items

end Reader

end SchemaBridge.Regex
