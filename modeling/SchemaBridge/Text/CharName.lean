import SchemaBridge.Text.CharName.Alias
import SchemaBridge.Text.CharName.Alphabets
import SchemaBridge.Text.CharName.Ancient
import SchemaBridge.Text.CharName.EastAsian
import SchemaBridge.Text.CharName.Forms
import SchemaBridge.Text.CharName.Letters
import SchemaBridge.Text.CharName.Notation
import SchemaBridge.Text.CharName.Operators
import SchemaBridge.Text.CharName.Pictographs
import SchemaBridge.Text.CharName.Signs
import SchemaBridge.Text.CharName.Syllables
import SchemaBridge.Text.CharName.Symbols
import SchemaBridge.Text.CharName.Systematic

/-!
# Names of characters

Each character that is assigned has a name. Most names are listed in rows, and the others are made by
rule; some characters have other names beside it. Case counts only in the names of syllables and of
unified ideographs.
-/

namespace SchemaBridge.Text.CharName

/-- All the rows. -/
def rows : List Row :=
  alphabets ++ syllables ++ letters ++ symbols ++ operators ++ eastAsian ++ forms ++ ancient ++ signs
    ++ notations ++ pictographs

/-- The names that are listed, and the other names, with their codes. -/
def listed : Table Nat := rows.flatMap Row.names ++ aliases

/-- The code of the character with a given name, in which case does not count. -/
def ofUpper? (name : List Char) : Option Nat :=
  let name := name.map Char.toUpper
  (Entries.find? listed (String.ofList name)).or (families.findSome? (·.find? name))

/-- The code of the character with a given name. -/
def ofName? (name : String) : Option Nat :=
  match "HANGUL SYLLABLE ".toList.isPrefixOf? name.toList with
  | some sounds => syllable? sounds
  | none =>
    match "CJK UNIFIED IDEOGRAPH-".toList.isPrefixOf? name.toList with
    | some digits => ideograph? digits
    | none => ofUpper? name.toList

end SchemaBridge.Text.CharName
