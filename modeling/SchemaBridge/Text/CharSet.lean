import SchemaBridge.Text.Blank
import SchemaBridge.Text.Digit
import SchemaBridge.Text.Fold
import SchemaBridge.Text.Word

/-!
# Sets of characters

The sets that patterns are made of: ranges, the classes of decimal digits, blanks and word
characters, and what unions, complements and disregard of case make of them.

* `contains_range`: membership in a range, by codes.
* `contains_anyOf`: membership in a union of several sets.
-/

namespace SchemaBridge

/-- A set of characters. -/
inductive CharSet where
  | nothing
  | range (low high : Char)
  | digit
  | blank
  | word
  | union (first second : CharSet)
  | compl (set : CharSet)
  /-- The characters that stand, case disregarded, for one in the set. -/
  | caseless (set : CharSet)
deriving DecidableEq

namespace CharSet

/-- Membership. -/
def contains : CharSet → Char → Bool
  | nothing, _ => false
  | range low high, c => low ≤ c && c ≤ high
  | digit, c => Text.isDecimalDigit c
  | blank, c => Text.isBlank c
  | word, c => Text.isWord c
  | union first second, c => first.contains c || second.contains c
  | compl set, c => !set.contains c
  | caseless set, c => set.contains (Text.fold c)

/-- One character. -/
def one (c : Char) : CharSet := range c c

/-- The union of several sets. -/
def anyOf (sets : List CharSet) : CharSet := sets.foldr union nothing

/-- The characters of a text. -/
def oneOf (text : String) : CharSet := anyOf (text.toList.map one)

/-- All characters. -/
def everything : CharSet := compl nothing

/-- Everything but a line feed. -/
def visible : CharSet := compl (one '\n')

/-! ## The ASCII part of the classes -/

/-- The ten ASCII digits. -/
def asciiDigit : CharSet := range '0' '9'

/-- The blanks of ASCII text. -/
def asciiBlank : CharSet := oneOf " \t\n\r\x0b\x0c"

/-- ASCII letters and digits, and the underscore. -/
def asciiWord : CharSet := anyOf [range 'a' 'z', range 'A' 'Z', asciiDigit, one '_']

/-! ## Ranges of codes -/

/-- The characters with codes from `low` to `high`. The codes U+D800 to U+DFFF belong to no
character. -/
def ofCodes (low high : Nat) : CharSet :=
  let low := if 0xD800 ≤ low && low ≤ 0xDFFF then 0xE000 else low
  let high := if 0xD800 ≤ high && high ≤ 0xDFFF then 0xD7FF else high
  if low ≤ high then range (Char.ofNat low) (Char.ofNat high) else nothing

/-- What those characters of a run that have codes from `low` to `high` stand for, if there are
any. -/
def images? (low high : Nat) (run : Text.Folding) : Option CharSet :=
  let first := max low run.first
  let last := min high run.last
  if first ≤ last then
    some (ofCodes (run.image + (first - run.first)) (run.image + (last - run.first)))
  else none

/-- The characters that differ at most in case from one with a code from `low` to `high`. -/
def anyCase (low high : Nat) : CharSet :=
  caseless (anyOf (ofCodes low high ::
    (Text.asciiFoldings ++ Text.foldings).filterMap (images? low high)))

/-- The characters with codes from `low` to `high`, and the other case of the ASCII letters among
them. -/
def anyAsciiCase (low high : Nat) : CharSet :=
  anyOf (ofCodes low high ::
    [⟨0x41, 0x5A, 1, 0x61⟩, ⟨0x61, 0x7A, 1, 0x41⟩].filterMap (images? low high))

theorem contains_range {low high c : Char} :
    (range low high).contains c = true ↔ low.toNat ≤ c.toNat ∧ c.toNat ≤ high.toNat := by
  simp only [contains, Bool.and_eq_true, decide_eq_true_eq]
  exact Iff.rfl

theorem contains_one {c d : Char} : (one c).contains d = true ↔ d = c := by
  simp only [one, contains, Bool.and_eq_true, decide_eq_true_eq]
  exact ⟨fun h => Char.le_antisymm h.2 h.1, fun h => h ▸ ⟨Char.le_refl _, Char.le_refl _⟩⟩

theorem contains_anyOf {sets : List CharSet} {c : Char} :
    (anyOf sets).contains c = true ↔ ∃ set ∈ sets, set.contains c = true := by
  induction sets with
  | nil => simp [anyOf, contains]
  | cons set rest ih => simpa [anyOf, contains] using or_congr_right ih

end CharSet

end SchemaBridge
