import SchemaBridge.Number.Shortest
import SchemaBridge.Text.Blank
import SchemaBridge.Text.Digit

/-!
# Numerals

Numbers in text. Blanks around a numeral do not count, decimal digits of every script are digits,
and a single underscore may separate two digits. `readInt?` reads a whole number of at most
`maxDigits` digits, `readBinary64?` a decimal fraction with an optional power of ten, rounded to
the nearest binary64 number, or the name of an infinity or of what is not a number.
-/

namespace SchemaBridge.Numeral

/-- The longest whole number that is read. -/
def maxDigits : Nat := 4300

/-- Blanks that may surround a numeral once every character is ASCII. -/
def isMargin (c : Char) : Bool := (9 ≤ c.toNat && c.toNat ≤ 13) || c == ' '

/-- The ASCII character that `c` stands for in a numeral: a digit for a digit of any script, a
space for a blank beyond ASCII, and `?`, which no numeral holds, for anything else beyond ASCII. -/
def asciiForm (c : Char) : Char :=
  if c.toNat < 0x80 then c
  else if Text.isBlank c then ' '
  else match Text.decimalDigit? c with
    | some value => Text.asciiDigit value
    | none => '?'

/-- The text without the margins at its two ends. -/
def trim (text : List Char) : List Char :=
  ((text.dropWhile isMargin).reverse.dropWhile isMargin).reverse

/-- The text without its underscores, each of which has to stand between two digits. `afterDigit`
tells whether a digit stands before. -/
def dropSeparators (afterDigit : Bool) : List Char → Option (List Char)
  | [] => some []
  | '_' :: d :: rest =>
    if afterDigit && d.isDigit then (dropSeparators true rest).map (d :: ·) else none
  | c :: rest => if c = '_' then none else (dropSeparators c.isDigit rest).map (c :: ·)

/-- The characters of a numeral: ASCII, without margins and separators. -/
def characters (text : String) : Option (List Char) :=
  dropSeparators false (trim (text.toList.map asciiForm))

/-- A sign, if there is one, and what follows; `true` is minus. -/
def sign : List Char → Bool × List Char
  | '-' :: rest => (true, rest)
  | '+' :: rest => (false, rest)
  | text => (false, text)

/-- The value of decimal digits. -/
def ofDigits (digits : List Char) : Nat :=
  digits.foldl (fun value c => 10 * value + (c.toNat - '0'.toNat)) 0

/-- The whole number that a text spells. -/
def readInt? (text : String) : Option Int := do
  let (negative, digits) := sign (← characters text)
  guard (!digits.isEmpty && digits.all Char.isDigit && digits.length ≤ maxDigits)
  return if negative then -(ofDigits digits : Int) else ofDigits digits

/-- `digits * 10 ^ exponent` as a binary64 number, found without large powers when the result is
certain to be zero or infinite. -/
def scaled (negative : Bool) (digits : Nat) (exponent : Int) : Binary64 :=
  let order := Binary64.decimalWidth digits + exponent
  if digits = 0 || order < -330 then .finite (.zero negative)
  else if 310 < order then .infinite negative
  else Binary64.ofDecimal negative digits exponent

/-- A power of ten: nothing, or `e` with a signed whole number. -/
def power? : List Char → Option Int
  | [] => some 0
  | e :: rest =>
    let (negative, digits) := sign rest
    if (e = 'e' || e = 'E') && !digits.isEmpty && digits.all Char.isDigit then
      some (if negative then -(ofDigits digits : Int) else ofDigits digits)
    else none

/-- The digits after a point, if one stands first, and what follows them. -/
def fraction : List Char → List Char × List Char
  | '.' :: rest => rest.span Char.isDigit
  | text => ([], text)

/-- The binary64 number nearest to the one that a text spells. -/
def readBinary64? (text : String) : Option Binary64 := do
  let (negative, body) := sign (← characters text)
  let name := body.map Char.toLower
  if name = "inf".toList || name = "infinity".toList then return .infinite negative
  if name = "nan".toList then return .nan
  let (whole, rest) := body.span Char.isDigit
  let (parts, rest) := fraction rest
  guard !(whole ++ parts).isEmpty
  let exponent ← power? rest
  return scaled negative (ofDigits (whole ++ parts)) (exponent - parts.length)

end SchemaBridge.Numeral
