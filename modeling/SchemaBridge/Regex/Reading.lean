import SchemaBridge.Regex.Width
import SchemaBridge.Text.CharName

/-!
# Reading characters and sets

The state of reading an expression, and the readers of its smallest pieces. The text is read in
signs: a character, or a backslash with the character after it. An escaped character stands for a
character, a class of characters, a condition on the place, or a group that was matched before.

* `numberOf_toDigits`: a number in decimal digits is read as it is meant.
-/

namespace SchemaBridge.Regex

/-- A sign of the notation. -/
inductive Sign where
  | plain (c : Char)
  /-- The character stands after a backslash. -/
  | escaped (c : Char)
deriving DecidableEq

/-- How far an expression has been read. -/
structure Reading where
  rest : List Char
  /-- The expression is for texts, and not for bytes. -/
  isText : Bool := true
  /-- The number of groups that have begun. -/
  begun : Nat := 0
  /-- The groups that have ended, and how much they take. -/
  closed : Entries Nat Width := []
  /-- The numbers of the groups that have names. -/
  names : Table Nat := []
  /-- The number of the first group inside of what is looked back for, if that is being read. -/
  behind : Option Nat := none
  /-- Numbers of groups that conditions ask for before they are known. -/
  promised : List Nat := []
  /-- The switches set for the whole expression, by their letters; under `t` nothing is
  repeated. -/
  switches : List Char := []
  /-- Something is repeated. -/
  repeats : Bool := false

/-- A reader of part of an expression. -/
abbrev Reader := StateT Reading (Except Flaw)

namespace Reader

/-! ## Signs -/

/-- The text is no expression. -/
def malformed {α : Type} : Reader α := throw .malformed

/-- Go on to a text. A backslash at its end escapes nothing, and that shows as soon as it is
next. -/
def goTo (rest : List Char) : Reader Unit :=
  if rest = ['\\'] then malformed else modify ({ · with rest })

/-- The first sign of a text, and what follows it. -/
def head? : List Char → Option (Sign × List Char)
  | [] => none
  | '\\' :: c :: rest => some (.escaped c, rest)
  | c :: rest => some (.plain c, rest)

/-- The next sign, taken. -/
def take? : Reader (Option Sign) := do
  match head? (← get).rest with
  | none => return none
  | some (sign, rest) =>
    goTo rest
    return some sign

/-- The next sign, taken; there has to be one. -/
def take : Reader Sign := do
  let some sign ← take? | malformed
  return sign

/-- The next character, without taking it. -/
def peek : Reader (Option Char) := do return (← get).rest.head?

/-- Take the given character if it is next. -/
def accept (c : Char) : Reader Bool := do
  match (← get).rest with
  | d :: rest =>
    if c = d then
      goTo rest
      return true
    else return false
  | [] => return false

/-- Take the given character. -/
def expect (c : Char) : Reader Unit := do
  if ← accept c then return else malformed

/-- Take at most so many characters of a kind that no backslash is of. -/
def takeUpTo (kind : Char → Bool) : Nat → Reader (List Char)
  | 0 => return []
  | most + 1 => do
    match (← get).rest with
    | c :: rest =>
      if kind c then
        goTo rest
        return c :: (← takeUpTo kind most)
      else return []
    | [] => return []

/-- All characters of a kind that are next. -/
def takeAll (kind : Char → Bool) : Reader (List Char) := do
  takeUpTo kind (← get).rest.length

/-- The signs up to a closing character, spelled as they are; a backslash hides the character after
it. -/
def nameWithin (close : Char) : Nat → Reader (List Char)
  | 0 => malformed
  | fuel + 1 => do
    match ← take with
    | .plain c => if c = close then return [] else return c :: (← nameWithin close fuel)
    | .escaped c => return '\\' :: c :: (← nameWithin close fuel)

/-- The name up to a closing character, which is taken too; it is not empty. -/
def nameUntil (close : Char) : Reader String := do
  let name ← nameWithin close ((← get).rest.length + 1)
  if name.isEmpty then malformed else return String.ofList name

/-! ## Escapes -/

/-- The number that digits of a base spell. -/
def numberOf (base : Nat) (digits : List Char) : Nat :=
  Text.ofDigitValues base (digits.filterMap Text.hexValue?)

theorem numberOf_eq_ofDigitChars {digits : List Char} (h : ∀ c ∈ digits, c.isDigit = true) :
    numberOf 10 digits = Nat.ofDigitChars 10 digits 0 := by
  have hvalues (digits : List Char) (h : ∀ c ∈ digits, c.isDigit = true) :
      digits.filterMap Text.hexValue? = digits.map fun c => c.toNat - '0'.toNat := by
    induction digits with
    | nil => rfl
    | cons c rest ih =>
      rw [List.filterMap_cons_some (Text.hexValue?_of_isDigit (h c List.mem_cons_self)),
        ih fun d hd => h d (List.mem_cons_of_mem _ hd), List.map_cons]
  rw [numberOf, hvalues digits h, Text.ofDigitValues, List.foldl_map, Nat.ofDigitChars]

theorem numberOf_toDigits (n : Nat) : numberOf 10 (Nat.toDigits 10 n) = n := by
  rw [numberOf_eq_ofDigitChars fun c hc => Nat.isDigit_of_mem_toDigits (by decide) (by decide) hc]
  exact Nat.ofDigitChars_toDigits (by decide) (by decide)

/-- The code that exactly so many hexadecimal digits give. -/
def hexCode (width : Nat) : Reader Nat := do
  let digits ← takeUpTo (fun c => (Text.hexValue? c).isSome) width
  if digits.length < width then malformed else return numberOf 16 digits

/-- An octal code, which one byte has to hold. -/
def octalCode (digits : List Char) : Reader Nat :=
  if numberOf 8 digits ≤ 0xFF then pure (numberOf 8 digits) else malformed

/-- The code of the character that has a name. -/
def namedCode : Reader Nat := do
  expect '{'
  match Text.CharName.ofName? (← nameUntil '}') with
  | some code => return code
  | none => malformed

/-- The code of the control character that a letter stands for. -/
def controlCode? : Char → Option Nat
  | 'a' => some 0x07
  | 'f' => some 0x0C
  | 'n' => some 0x0A
  | 'r' => some 0x0D
  | 't' => some 0x09
  | 'v' => some 0x0B
  | _ => none

/-- The code of a character that stands for itself after a backslash; letters and digits do
not. -/
def plainCode (c : Char) : Reader Nat := if c.isAlphanum then malformed else pure c.toNat

/-- The code for an escaped character: a control character, a number or a name, or the character
itself. Only expressions for texts know the longer numbers and the names. -/
def escapedCode (c : Char) : Reader Nat := do
  if let some code := controlCode? c then return code
  else if c = 'x' then hexCode 2
  else if !(← get).isText then plainCode c
  else if c = 'u' then hexCode 4
  else if c = 'U' then
    let code ← hexCode 8
    if code < 0x110000 then return code else malformed
  else if c = 'N' then namedCode
  else plainCode c

/-- The class of characters that a letter stands for, and whether what is not in it is meant. -/
def classOf? : Char → Option (Kind × Bool)
  | 'd' => some (.digit, false)
  | 'D' => some (.digit, true)
  | 's' => some (.blank, false)
  | 'S' => some (.blank, true)
  | 'w' => some (.word, false)
  | 'W' => some (.word, true)
  | _ => none

/-! ## Sets -/

/-- An escaped character as a member of a set. -/
def escapedMember (c : Char) : Reader Member := do
  if c = 'b' then return .code 0x08
  else if let some (kind, negated) := classOf? c then return .kind kind negated
  else if Text.isOctalDigit c then
    return .code (← octalCode (c :: (← takeUpTo Text.isOctalDigit 2)))
  else return .code (← escapedCode c)

/-- A sign as a member of a set. -/
def memberOf : Sign → Reader Member
  | .plain c => pure (.code c.toNat)
  | .escaped c => escapedMember c

/-- The members between two signs joined by a hyphen. -/
def between : Member → Member → Reader Member
  | .code low, .code high => if high < low then malformed else pure (.codes low high)
  | _, _ => malformed

/-- The members of a set up to its closing bracket; as the first member a bracket stands for
itself. -/
def membersUpTo : Nat → Bool → Reader (List Member)
  | 0, _ => malformed
  | fuel + 1, first => do
    let sign ← take
    if !first && sign = .plain ']' then return []
    let member ← memberOf sign
    if ← accept '-' then
      let sign ← take
      if sign = .plain ']' then return [member, .code '-'.toNat]
      let member ← between member (← memberOf sign)
      return member :: (← membersUpTo fuel false)
    else return member :: (← membersUpTo fuel false)

/-- A set after its opening bracket. -/
def set : Reader Leaf := do
  let negated ← accept '^'
  let members ← membersUpTo ((← get).rest.length + 1) true
  match negated, members.eraseDups with
  | false, [.code code] => return .code code
  | true, [.code code] => return .otherThan code
  | _, members => return .oneOf negated members

/-! ## Escapes outside of sets -/

/-- The group may be referred to: it has ended, and outside of what is being looked back for. -/
def isKnown (number : Nat) (reading : Reading) : Bool :=
  Entries.has reading.closed number && reading.behind.all (number < ·)

/-- A reference back to a group. -/
def backReference (number : Nat) : Reader Item := do
  if isKnown number (← get) then return .again number else malformed

/-- What an escaped digit begins: three octal digits are a code, one or two digits the number of a
group. -/
def numberEscape (first : Char) : Reader Item := do
  match ← takeUpTo Char.isDigit 1 with
  | [second] =>
    if Text.isOctalDigit first && Text.isOctalDigit second then
      if let [third] ← takeUpTo Text.isOctalDigit 1 then
        return .leaf (.code (← octalCode [first, second, third]))
    backReference (numberOf 10 [first, second])
  | _ => backReference (numberOf 10 [first])

/-- The condition that a letter stands for. -/
def conditionOf? : Char → Option Condition
  | 'A' => some .textStart
  | 'Z' => some .textFinish
  | 'b' => some .edge
  | 'B' => some .noEdge
  | _ => none

/-- An escaped character as an item. -/
def escapedItem (c : Char) : Reader Item := do
  if let some condition := conditionOf? c then return .condition condition
  else if let some (kind, negated) := classOf? c then
    return .leaf (.oneOf false [.kind kind negated])
  else if c = '0' then
    return .leaf (.code (← octalCode (c :: (← takeUpTo Text.isOctalDigit 2))))
  else if c.isDigit then numberEscape c
  else return .leaf (.code (← escapedCode c))

end Reader

end SchemaBridge.Regex
