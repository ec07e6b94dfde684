/-!
# Blank characters

`isBlank` is white space as text cleaning and patterns see it: the ASCII blanks and separators,
the Latin-1 ones, and the spaces and line ends of general punctuation. Zero width characters and
the byte order mark are not blank. `strip` removes blanks at both ends of a text.

* `strip_eq_nil`: only a text of blanks strips to nothing.
-/

namespace SchemaBridge.Text

/-- White space: U+0009–000D, U+001C–0020, U+0085, U+00A0, and the Unicode space and line
separators. -/
def isBlank (c : Char) : Bool :=
  let n := c.toNat
  (0x09 ≤ n && n ≤ 0x0D) || (0x1C ≤ n && n ≤ 0x20) || n == 0x85 || n == 0xA0 || n == 0x1680 ||
    (0x2000 ≤ n && n ≤ 0x200A) || n == 0x2028 || n == 0x2029 || n == 0x202F || n == 0x205F ||
    n == 0x3000

/-- The text without the blanks at its two ends. -/
def strip (text : List Char) : List Char :=
  ((text.dropWhile isBlank).reverse.dropWhile isBlank).reverse

theorem strip_eq_nil {text : List Char} : strip text = [] ↔ ∀ c ∈ text, isBlank c = true := by
  induction text with
  | nil => simp [strip]
  | cons c rest ih =>
    by_cases h : isBlank c = true
    · simpa [strip, List.dropWhile_cons_of_pos h, h] using ih
    · have hc : ∀ p : List Char, (p ++ [c]).dropWhile isBlank ≠ [] := by
        intro p
        induction p with
        | nil => simp [h]
        | cons d p ihp => by_cases hd : isBlank d = true <;> simp [hd, ihp]
      simp [strip, h, hc]

end SchemaBridge.Text
