import SchemaBridge.Text.Printable

/-!
# Quoted text

How a message writes a text or a run of bytes: between single quotes, or between double quotes if
the text holds a single quote and no double one. The quote in use and the backslash are escaped,
tab, line feed and carriage return have short escapes, and every other character that cannot be
printed is written by its code.
-/

namespace SchemaBridge.Text

/-- The hexadecimal digits of `n`, with zeros in front up to `width`. -/
def hex (width n : Nat) : List Char :=
  let digits := Nat.toDigits 16 n
  List.replicate (width - digits.length) '0' ++ digits

/-- The quote that needs the fewest escapes: single, unless only single ones occur inside. -/
def quoteFor (text : List Char) : Char :=
  if text.contains '\'' && !text.contains '"' then '"' else '\''

/-- The escape of a character that cannot stand for itself: `\x41`, `\u2028` or `\U000e0001`. -/
def codeEscape (c : Char) : List Char :=
  if c.toNat < 0x100 then '\\' :: 'x' :: hex 2 c.toNat
  else if c.toNat < 0x10000 then '\\' :: 'u' :: hex 4 c.toNat
  else '\\' :: 'U' :: hex 8 c.toNat

/-- One character between quotes `quote`, where `plain` tells which characters are printed. -/
def escaped (plain : Char → Bool) (quote c : Char) : List Char :=
  if c = quote || c = '\\' then ['\\', c]
  else if c = '\t' then ['\\', 't']
  else if c = '\n' then ['\\', 'n']
  else if c = '\r' then ['\\', 'r']
  else if plain c then [c]
  else codeEscape c

/-- The text between quotes. -/
def quoted (text : String) : String :=
  let chars := text.toList
  let quote := quoteFor chars
  String.ofList (quote :: chars.flatMap (escaped isPrintable quote) ++ [quote])

/-- The bytes between quotes after a `b`; only printable ASCII stands for itself. -/
def quotedBytes (bytes : List UInt8) : String :=
  let chars := bytes.map fun b => Char.ofNat b.toNat
  let quote := quoteFor chars
  let plain := fun c => ' ' ≤ c && c ≤ '~'
  String.ofList ('b' :: quote :: chars.flatMap (escaped plain quote) ++ [quote])

end SchemaBridge.Text
