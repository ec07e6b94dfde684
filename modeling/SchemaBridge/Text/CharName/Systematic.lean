import SchemaBridge.Text.Digit

/-!
# Names by rule

The syllables of Hangul are named by their sounds, and some large sets of characters by their code or
by a number. A syllable is a beginning, a vowel and an end, where the beginning and the end may be
silent; each sound goes as far as it can. The names of syllables and of unified ideographs are the
only ones in which case counts.

* `syllable?_bounds`: what is named by sounds is one of the syllables.
-/

namespace SchemaBridge.Text.CharName

/-! ## Syllables -/

/-- The sounds at the beginning of a syllable. -/
def beginnings : List String :=
  ["G", "GG", "N", "D", "DD", "R", "M", "B", "BB", "S", "SS", "", "J", "JJ", "C", "K", "T", "P", "H"]

/-- The vowels of a syllable. -/
def vowels : List String :=
  ["A", "AE", "YA", "YAE", "EO", "E", "YEO", "YE", "O", "WA", "WAE", "OE", "YO", "U", "WEO", "WE",
   "WI", "YU", "EU", "YI", "I"]

/-- The sounds at the end of a syllable. -/
def endings : List String :=
  ["", "G", "GG", "GS", "N", "NJ", "NH", "D", "L", "LG", "LM", "LB", "LS", "LT", "LP", "LH", "M", "B",
   "BS", "S", "SS", "NG", "J", "C", "K", "T", "P", "H"]

/-- The longest of the sounds with which a text begins: its position, and the text after it. -/
def sound? (sounds : List String) (text : List Char) : Option (Nat × List Char) :=
  let found := sounds.zipIdx.filterMap fun (sound, position) =>
    (sound.toList.isPrefixOf? text).map (position, ·)
  found.foldl
    (fun best next =>
      if best.all fun (_, rest) => next.2.length < rest.length then some next else best)
    none

/-- The code of the syllable that is made up of the sounds in a text. -/
def syllable? (text : List Char) : Option Nat := do
  let (first, text) ← sound? beginnings text
  let (vowel, text) ← sound? vowels text
  let (last, text) ← sound? endings text
  if text.isEmpty then
    some (0xAC00 + (first * vowels.length + vowel) * endings.length + last)
  else none

theorem sound?_lt {sounds : List String} {text rest : List Char} {position : Nat}
    (h : sound? sounds text = some (position, rest)) : position < sounds.length := by
  -- What is left in the end is one of the sounds that were found, or what there was before.
  have hfold (next : Option (Nat × List Char) → Nat × List Char → Option (Nat × List Char))
      (hnext : ∀ best found, next best found = some found ∨ next best found = best)
      (found : List (Nat × List Char)) (best : Option (Nat × List Char)) :
      ∀ result, found.foldl next best = some result → some result = best ∨ result ∈ found := by
    induction found generalizing best with
    | nil => exact fun result hresult => .inl hresult.symm
    | cons first others ih =>
      intro result hresult
      rcases ih _ result hresult with hbest | hmem
      · rcases hnext best first with hfirst | hsame
        · exact .inr (Option.some.inj (hbest.trans hfirst) ▸ List.mem_cons_self)
        · exact .inl (hbest.trans hsame)
      · exact .inr (List.mem_cons_of_mem _ hmem)
  rcases hfold _ (fun best found => by dsimp only; split <;> simp) _ _ _ h with hnone | hmem
  · cases hnone
  · obtain ⟨⟨sound, place⟩, hsound, hrest⟩ := List.mem_filterMap.mp hmem
    obtain ⟨rest', -, heq⟩ := Option.map_eq_some_iff.mp hrest
    cases heq
    have := List.snd_lt_of_mem_zipIdx hsound
    omega

theorem syllable?_bounds {text : List Char} {code : Nat} (h : syllable? text = some code) :
    0xAC00 ≤ code ∧ code ≤ 0xD7A3 := by
  obtain ⟨⟨first, text₁⟩, hfirst, h⟩ := Option.bind_eq_some_iff.mp h
  obtain ⟨⟨vowel, text₂⟩, hvowel, h⟩ := Option.bind_eq_some_iff.mp h
  obtain ⟨⟨last, text₃⟩, hlast, h⟩ := Option.bind_eq_some_iff.mp h
  have hfirst : first < 19 := sound?_lt hfirst
  have hvowel : vowel < 21 := sound?_lt hvowel
  have hlast : last < 28 := sound?_lt hlast
  have hvowels : vowels.length = 21 := rfl
  have hendings : endings.length = 28 := rfl
  dsimp only at h
  rw [hvowels, hendings] at h
  split at h
  · cases h
    omega
  · cases h

example : syllable? "HAN".toList = some 0xD55C := by decide

/-! ## Unified ideographs -/

/-- The first and the last codes of the unified ideographs, range by range. -/
def ideographs : List (Nat × Nat) :=
  [(0x3400, 0x4DBF), (0x4E00, 0x9FFF), (0x20000, 0x2A6DF), (0x2A700, 0x2B738), (0x2B740, 0x2B81D),
   (0x2B820, 0x2CEA1), (0x2CEB0, 0x2EBE0), (0x30000, 0x3134A)]

/-- The unified ideograph of a code in four or five digits. -/
def ideograph? (digits : List Char) : Option Nat :=
  let code := ofDigitValues 16 (digits.filterMap hexValue?)
  if (digits.length = 4 || digits.length = 5)
      && (digits.all fun c => c.isDigit || ('A' ≤ c && c ≤ 'F'))
      && (ideographs.any fun (first, last) => first ≤ code && code ≤ last) then
    some code
  else none

/-! ## Families -/

/-- What the names of a family end in: the code of the character, or a number of so many digits at
least, counted from that of the first character. -/
inductive Suffix where
  | code
  | number (width start : Nat)

/-- Characters with names that differ only in the suffix. -/
structure Family where
  stem : String
  suffix : Suffix
  first : Nat
  last : Nat

/-- The families of characters. -/
def families : List Family :=
  [⟨"CJK COMPATIBILITY IDEOGRAPH-", .code, 0xF900, 0xFA6D⟩,
   ⟨"CJK COMPATIBILITY IDEOGRAPH-", .code, 0xFA70, 0xFAD9⟩,
   ⟨"CJK COMPATIBILITY IDEOGRAPH-", .code, 0x2F800, 0x2FA1D⟩,
   ⟨"KHITAN SMALL SCRIPT CHARACTER-", .code, 0x18B00, 0x18CD5⟩,
   ⟨"NUSHU CHARACTER-", .code, 0x1B170, 0x1B2FB⟩,
   ⟨"TANGUT COMPONENT-", .number 3 1, 0x18800, 0x18AFF⟩,
   ⟨"VARIATION SELECTOR-", .number 1 17, 0xE0100, 0xE01EF⟩,
   ⟨"VS", .number 1 1, 0xFE00, 0xFE0F⟩,
   ⟨"VS", .number 1 17, 0xE0100, 0xE01EF⟩]

/-- The text of a suffix. -/
def suffixText (suffix : Suffix) (first code : Nat) : List Char :=
  match suffix with
  | .code => (Nat.toDigits 16 code).map Char.toUpper
  | .number width start => (Nat.toDigits 10 (start + (code - first))).leftpad width '0'

/-- The code of the character of a family that has a given name. -/
def Family.find? (family : Family) (name : List Char) : Option Nat :=
  (family.stem.toList.isPrefixOf? name).bind fun suffix =>
    (List.range' family.first (family.last + 1 - family.first)).find? fun code =>
      suffixText family.suffix family.first code = suffix

end SchemaBridge.Text.CharName
