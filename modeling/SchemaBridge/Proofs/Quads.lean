import Mathlib
import SchemaBridge.Format
import SchemaBridge.Proofs.Languages

/-!
# Dotted quads

A dotted quad is four numbers below 256 with points between them. The pattern for one of the numbers
gives a range of ASCII digits where a limit hangs on a digit, and takes a digit of any script
elsewhere. So what it takes has the digits of such a number without leading zeros, but some of them
may be of another script. In ASCII, these are exactly the decimal numerals.

* `Quad.mem_octetPattern_iff`: the numbers of a quad.
* `Quad.mem_quadPattern_iff`: what the pattern for a quad takes.
* `Quad.isCanonical_iff`: the dotted quads among that.
* `Format.ipv4_agrees_iff`: when the format takes a text just if it is a dotted quad.
* `Format.ipv4_takes_foreign_digit`: it takes others.
-/

namespace SchemaBridge

open Pattern

namespace Quad

variable {word text : List Char} {c : Char} {a b d n : Nat}

/-! ## Digits -/

/-- The characters of a range of ASCII digits. -/
theorem contains_range_iff (low high : Nat) (hlow : low ≤ high) (hhigh : high < 10) :
    (CharSet.range low.digitChar high.digitChar).contains c = true
      ↔ ∃ d, low ≤ d ∧ d ≤ high ∧ c = d.digitChar := by
  rw [CharSet.contains_range, Nat.toNat_digitChar_of_lt_ten (by omega),
    Nat.toNat_digitChar_of_lt_ten hhigh]
  constructor
  · rintro ⟨hge, hle⟩
    refine ⟨c.toNat - 48, by omega, by omega, ?_⟩
    rw [← Char.toNat_inj, Nat.toNat_digitChar_of_lt_ten (by omega)]
    omega
  · rintro ⟨d, hge, hle, rfl⟩
    rw [Nat.toNat_digitChar_of_lt_ten (by omega)]
    omega

theorem decimalDigit?_digitChar (h : d < 10) : Text.decimalDigit? d.digitChar = some d := by
  interval_cases d <;> decide

theorem lt_ten_of_decimalDigit? (h : Text.decimalDigit? c = some d) : d < 10 := by
  obtain ⟨start, hfind, rfl⟩ := Option.map_eq_some_iff.mp h
  have hrange := List.find?_some hfind
  simp only [Bool.and_eq_true, decide_eq_true_eq] at hrange
  omega

theorem contains_digit_iff :
    CharSet.digit.contains c = true ↔ ∃ d, Text.decimalDigit? c = some d :=
  Option.isSome_iff_exists

/-- In ASCII there is one digit of each value. -/
theorem eq_digitChar_of_ascii (hascii : c.toNat < 0x80) (h : Text.decimalDigit? c = some d) :
    c = d.digitChar := by
  obtain ⟨start, hfind, rfl⟩ := Option.map_eq_some_iff.mp h
  have hrange := List.find?_some hfind
  simp only [Bool.and_eq_true, decide_eq_true_eq] at hrange
  have hstart : start = 0x30 ∨ 0x80 ≤ start := by
    have hzeros : ∀ start ∈ Text.zeros, start = 0x30 ∨ 0x80 ≤ start := by decide
    exact hzeros start (List.mem_of_find?_eq_some hfind)
  obtain rfl : start = 0x30 := by omega
  rw [← Char.toNat_inj, Nat.toNat_digitChar_of_lt_ten (by omega)]
  omega

theorem exists_digitChar_of_isDigit (h : c.isDigit = true) : ∃ d < 10, c = d.digitChar := by
  obtain ⟨hge, hle⟩ : 48 ≤ c.toNat ∧ c.toNat ≤ 57 := Char.isDigit_iff_toNat.mp h
  refine ⟨c.toNat - 48, by omega, ?_⟩
  rw [← Char.toNat_inj, Nat.toNat_digitChar_of_lt_ten (by omega)]
  omega

/-- In ASCII, a word is known from the values of its digits. -/
theorem eq_of_values {digits : List Char} (hword : ∀ c ∈ word, c.toNat < 0x80)
    (hdigits : ∀ c ∈ digits, c.isDigit = true)
    (h : word.map Text.decimalDigit? = digits.map Text.decimalDigit?) : word = digits := by
  induction digits generalizing word with
  | nil => simpa using h
  | cons digit rest ih =>
    obtain ⟨c, tail, rfl, hc, htail⟩ := List.map_eq_cons_iff.mp h
    obtain ⟨hascii, hword⟩ := List.forall_mem_cons.mp hword
    obtain ⟨hdigit, hrest⟩ := List.forall_mem_cons.mp hdigits
    obtain ⟨d, hd, rfl⟩ := exists_digitChar_of_isDigit hdigit
    rw [decimalDigit?_digitChar hd] at hc
    rw [eq_digitChar_of_ascii hascii hc, ih hword hrest htail]

/-! ## Numbers below 256 -/

/-- How many of the first digits of a number below 256 are fixed, because a limit hangs on them. -/
def fixedCount (n : Nat) : Nat :=
  if n < 10 then 0 else if n < 200 then 1 else if n < 250 then 2 else 3

/-- The word has the digits of the number: first those that are fixed, and then digits of any script
that have the values of the others. -/
def Spells (n : Nat) (word : List Char) : Prop :=
  ∃ rest, word = (Nat.toDigits 10 n).take (fixedCount n) ++ rest ∧
    rest.map Text.decimalDigit?
      = ((Nat.toDigits 10 n).drop (fixedCount n)).map Text.decimalDigit?

theorem spells_toDigits (n : Nat) : Spells n (Nat.toDigits 10 n) :=
  ⟨_, (List.take_append_drop _ _).symm, rfl⟩

theorem toDigits_two (ha : 0 < a) (ha' : a < 10) (hb : b < 10) :
    Nat.toDigits 10 (10 * a + b) = [a.digitChar, b.digitChar] := by
  rw [← Nat.toDigits_append_toDigits (by decide) ha hb, Nat.toDigits_of_lt_base ha',
    Nat.toDigits_of_lt_base hb]
  rfl

theorem toDigits_three (ha : 0 < a) (ha' : a < 10) (hb : b < 10) (hd : d < 10) :
    Nat.toDigits 10 (10 * (10 * a + b) + d) = [a.digitChar, b.digitChar, d.digitChar] := by
  rw [← Nat.toDigits_append_toDigits (by decide) (by omega) hd, toDigits_two ha ha' hb,
    Nat.toDigits_of_lt_base hd]
  rfl

/-- A number whose digits have the given values, as many of them fixed as given. -/
theorem spells_iff (digits : List Nat) {fixed : Nat}
    (h : Nat.toDigits 10 n = digits.map Nat.digitChar) (hlt : ∀ d ∈ digits, d < 10)
    (hfixed : fixedCount n = fixed) :
    Spells n word ↔ ∃ rest, word = (digits.take fixed).map Nat.digitChar ++ rest ∧
      rest.map Text.decimalDigit? = (digits.drop fixed).map some := by
  have hvalues : ((Nat.toDigits 10 n).drop fixed).map Text.decimalDigit?
      = (digits.drop fixed).map some := by
    rw [h, ← List.map_drop, List.map_map]
    exact List.map_congr_left fun d hd => decimalDigit?_digitChar (hlt d (List.mem_of_mem_drop hd))
  rw [Spells, hfixed, hvalues, h, List.map_take]

theorem spells_one_iff (hd : d < 10) :
    Spells d word ↔ ∃ c, word = [c] ∧ Text.decimalDigit? c = some d := by
  rw [spells_iff [d] (Nat.toDigits_of_lt_base hd) (by simpa using hd) (if_pos hd)]
  simp [List.map_eq_cons_iff]

theorem spells_two_iff (ha : 0 < a) (ha' : a < 10) (hd : d < 10) :
    Spells (10 * a + d) word ↔ ∃ c, word = [a.digitChar, c] ∧ Text.decimalDigit? c = some d := by
  have hfixed : fixedCount (10 * a + d) = 1 := by
    rw [fixedCount]
    split_ifs <;> omega
  rw [spells_iff [a, d] (toDigits_two ha ha' hd) (by simp [ha', hd]) hfixed]
  simp [List.map_eq_cons_iff]

theorem spells_hundreds_iff (hb : b < 10) (hd : d < 10) :
    Spells (10 * (10 * 1 + b) + d) word ↔ ∃ c c', word = ['1', c, c'] ∧
      Text.decimalDigit? c = some b ∧ Text.decimalDigit? c' = some d := by
  have hfixed : fixedCount (10 * (10 * 1 + b) + d) = 1 := by
    rw [fixedCount]
    split_ifs <;> omega
  have hone : Nat.digitChar 1 = '1' := rfl
  rw [spells_iff [1, b, d] (toDigits_three (by decide) (by decide) hb hd)
    (by simp [hb, hd]) hfixed]
  simp [List.map_eq_cons_iff, hone]

theorem spells_twoHundreds_iff (hb : b < 5) (hd : d < 10) :
    Spells (10 * (10 * 2 + b) + d) word
      ↔ ∃ c, word = ['2', b.digitChar, c] ∧ Text.decimalDigit? c = some d := by
  have hfixed : fixedCount (10 * (10 * 2 + b) + d) = 2 := by
    rw [fixedCount]
    split_ifs <;> omega
  have htwo : Nat.digitChar 2 = '2' := rfl
  rw [spells_iff [2, b, d] (toDigits_three (by decide) (by decide) (by omega) hd)
    (by simp; omega) hfixed]
  simp [List.map_eq_cons_iff, htwo]

theorem spells_last_iff (hd : d < 6) :
    Spells (10 * (10 * 2 + 5) + d) word ↔ word = ['2', '5', d.digitChar] := by
  have hfixed : fixedCount (10 * (10 * 2 + 5) + d) = 3 := by
    rw [fixedCount]
    split_ifs <;> omega
  have htwo : Nat.digitChar 2 = '2' := rfl
  have hfive : Nat.digitChar 5 = '5' := rfl
  rw [spells_iff [2, 5, d] (toDigits_three (by decide) (by decide) (by decide)
    (by omega)) (by simp; omega) hfixed]
  simp [htwo, hfive]

/-- What the alternatives for a number take, from the last ones to a single digit. -/
theorem mem_octetPattern :
    word ∈ Format.octetPattern.language ↔
      (∃ d ≤ 5, word = ['2', '5', d.digitChar]) ∨
      (∃ b c, (b ≤ 4 ∧ ∃ d, Text.decimalDigit? c = some d) ∧ word = ['2', b.digitChar, c]) ∨
      (∃ c c', ((∃ b, Text.decimalDigit? c = some b) ∧ ∃ d, Text.decimalDigit? c' = some d) ∧
        word = ['1', c, c']) ∨
      (∃ c, (∃ d, Text.decimalDigit? c = some d) ∧ word = [c]) ∨
      ∃ a, (1 ≤ a ∧ a ≤ 9) ∧
        ∃ c, (∃ d, Text.decimalDigit? c = some d) ∧ word = [a.digitChar, c] := by
  have hfive : ∀ c, (CharSet.range '0' '5').contains c = true ↔ _ :=
    fun c => contains_range_iff 0 5 (by decide) (by decide)
  have hfour : ∀ c, (CharSet.range '0' '4').contains c = true ↔ _ :=
    fun c => contains_range_iff 0 4 (by decide) (by decide)
  have hnine : ∀ c, (CharSet.range '1' '9').contains c = true ↔ _ :=
    fun c => contains_range_iff 1 9 (by decide) (by decide)
  simp [Format.octetPattern, Format.between, Format.digit, hfive, hfour, hnine, contains_digit_iff]

/-- The numbers below 256 by their digits. -/
theorem digits_of_le (h : n ≤ 255) :
    n < 10 ∨ (∃ a d, 0 < a ∧ a < 10 ∧ d < 10 ∧ n = 10 * a + d) ∨
      (∃ b d, b < 10 ∧ d < 10 ∧ n = 10 * (10 * 1 + b) + d) ∨
      (∃ b d, b < 5 ∧ d < 10 ∧ n = 10 * (10 * 2 + b) + d) ∨
      ∃ d < 6, n = 10 * (10 * 2 + 5) + d := by
  rcases (by omega : n < 10 ∨ (10 ≤ n ∧ n < 100) ∨ (100 ≤ n ∧ n < 200) ∨ (200 ≤ n ∧ n < 250) ∨
    250 ≤ n) with hlt | hrange | hrange | hrange | hge
  · exact .inl hlt
  · exact .inr (.inl ⟨n / 10, n % 10, by omega⟩)
  · exact .inr (.inr (.inl ⟨(n - 100) / 10, n % 10, by omega⟩))
  · exact .inr (.inr (.inr (.inl ⟨(n - 200) / 10, n % 10, by omega⟩)))
  · exact .inr (.inr (.inr (.inr ⟨n - 250, by omega⟩)))

/-- The pattern takes the numbers below 256. -/
theorem mem_octetPattern_iff : word ∈ Format.octetPattern.language ↔ ∃ n ≤ 255, Spells n word := by
  rw [mem_octetPattern]
  constructor
  · rintro (⟨d, hd, hword⟩ | ⟨b, c, ⟨hb, d, hc⟩, hword⟩ | ⟨c, c', ⟨⟨b, hc⟩, d, hc'⟩, hword⟩ |
      ⟨c, ⟨d, hc⟩, hword⟩ | ⟨a, ⟨hpos, ha⟩, c, ⟨d, hc⟩, hword⟩)
    · exact ⟨_, by omega, (spells_last_iff (by omega)).mpr hword⟩
    · have hd := lt_ten_of_decimalDigit? hc
      exact ⟨_, by omega, (spells_twoHundreds_iff (by omega) hd).mpr ⟨c, hword, hc⟩⟩
    · have hb := lt_ten_of_decimalDigit? hc
      have hd := lt_ten_of_decimalDigit? hc'
      exact ⟨_, by omega, (spells_hundreds_iff hb hd).mpr ⟨c, c', hword, hc, hc'⟩⟩
    · have hd := lt_ten_of_decimalDigit? hc
      exact ⟨_, by omega, (spells_one_iff hd).mpr ⟨c, hword, hc⟩⟩
    · have hd := lt_ten_of_decimalDigit? hc
      exact ⟨_, by omega, (spells_two_iff hpos (by omega) hd).mpr ⟨c, hword, hc⟩⟩
  · rintro ⟨n, hn, hspells⟩
    rcases digits_of_le hn with hlt | ⟨a, d, hpos, ha, hd, rfl⟩ | ⟨b, d, hb, hd, rfl⟩ |
      ⟨b, d, hb, hd, rfl⟩ | ⟨d, hd, rfl⟩
    · obtain ⟨c, hword, hc⟩ := (spells_one_iff hlt).mp hspells
      exact .inr (.inr (.inr (.inl ⟨c, ⟨n, hc⟩, hword⟩)))
    · obtain ⟨c, hword, hc⟩ := (spells_two_iff hpos ha hd).mp hspells
      exact .inr (.inr (.inr (.inr ⟨a, ⟨hpos, by omega⟩, c, ⟨d, hc⟩, hword⟩)))
    · obtain ⟨c, c', hword, hc, hc'⟩ := (spells_hundreds_iff hb hd).mp hspells
      exact .inr (.inr (.inl ⟨c, c', ⟨⟨b, hc⟩, d, hc'⟩, hword⟩))
    · obtain ⟨c, hword, hc⟩ := (spells_twoHundreds_iff hb hd).mp hspells
      exact .inr (.inl ⟨b, c, ⟨by omega, d, hc⟩, hword⟩)
    · exact .inl ⟨d, by omega, (spells_last_iff hd).mp hspells⟩

/-! ## Quads -/

/-- Four words for numbers below 256, with points between them. -/
def IsSpelled (text : List Char) : Prop :=
  ∃ words : List (List Char), words.length = 4 ∧ (∀ word ∈ words, ∃ n ≤ 255, Spells n word) ∧
    text = ['.'].intercalate words

/-- Four decimal numerals of numbers below 256, with points between them. -/
def IsCanonical (text : List Char) : Prop :=
  ∃ numbers : List Nat, numbers.length = 4 ∧ (∀ n ∈ numbers, n ≤ 255) ∧
    text = ['.'].intercalate (numbers.map (Nat.toDigits 10))

theorem mem_quadPattern_iff : text ∈ Format.quadPattern.language ↔ IsSpelled text := by
  rw [Format.quadPattern, mem_language_exact_separated]
  simp only [mem_octetPattern_iff, IsSpelled]
  rfl

theorem Spells.isDecimalDigit (h : Spells n word) (hc : c ∈ word) :
    Text.isDecimalDigit c = true := by
  obtain ⟨rest, rfl, hrest⟩ := h
  have hdigit {c : Char} (hc : c ∈ Nat.toDigits 10 n) : Text.isDecimalDigit c = true := by
    obtain ⟨d, hd, rfl⟩ :=
      exists_digitChar_of_isDigit (Nat.isDigit_of_mem_toDigits (by decide) (by decide) hc)
    exact Option.isSome_of_eq_some (decimalDigit?_digitChar hd)
  rcases List.mem_append.mp hc with hc | hc
  · exact hdigit (List.mem_of_mem_take hc)
  · obtain ⟨digit, hmem, heq⟩ := List.mem_map.mp (hrest ▸ List.mem_map_of_mem hc)
    have hsome := hdigit (List.mem_of_mem_drop hmem)
    rwa [Text.isDecimalDigit, heq] at hsome

/-- A quad has points, and digits between them. -/
theorem IsSpelled.point_mem (h : IsSpelled text) : '.' ∈ text := by
  obtain ⟨words, hlength, -, rfl⟩ := h
  obtain ⟨first, second, rest, rfl⟩ : ∃ first second rest, words = first :: second :: rest := by
    match words, hlength with
    | first :: second :: rest, _ => exact ⟨first, second, rest, rfl⟩
  simp [List.intercalate_cons_cons]

theorem IsSpelled.of_mem (h : IsSpelled text) :
    ∀ c ∈ text, c = '.' ∨ Text.isDecimalDigit c = true := by
  obtain ⟨words, -, hwords, rfl⟩ := h
  rw [forall_mem_intercalate (by simp)]
  intro word hword c hc
  obtain ⟨n, -, hspells⟩ := hwords word hword
  exact .inr (hspells.isDecimalDigit hc)

theorem IsSpelled.not_mem (h : IsSpelled text) (hc : c ≠ '.')
    (hdigit : Text.isDecimalDigit c = false) : c ∉ text := by
  intro hmem
  rcases h.of_mem c hmem with rfl | hdigit'
  · exact hc rfl
  · exact Bool.false_ne_true (hdigit.symm.trans hdigit')

/-- In ASCII, a number is spelled as its numeral only. -/
theorem Spells.eq_toDigits (h : Spells n word) (hascii : ∀ c ∈ word, c.toNat < 0x80) :
    word = Nat.toDigits 10 n := by
  obtain ⟨rest, rfl, hrest⟩ := h
  have hdigits : ∀ c ∈ (Nat.toDigits 10 n).drop (fixedCount n), c.isDigit = true :=
    fun c hc => Nat.isDigit_of_mem_toDigits (by decide) (by decide) (List.mem_of_mem_drop hc)
  rw [eq_of_values (fun c hc => hascii c (List.mem_append_right _ hc)) hdigits hrest,
    List.take_append_drop]

theorem toNat_lt_of_mem_toDigits (h : c ∈ Nat.toDigits 10 n) : c.toNat < 0x80 := by
  obtain ⟨d, hd, rfl⟩ :=
    exists_digitChar_of_isDigit (Nat.isDigit_of_mem_toDigits (by decide) (by decide) h)
  rw [Nat.toNat_digitChar_of_lt_ten hd]
  omega

/-- What is spelled in ASCII is a dotted quad. -/
theorem isCanonical_iff : IsCanonical text ↔ IsSpelled text ∧ ∀ c ∈ text, c.toNat < 0x80 := by
  have hpoint : ∀ c ∈ ['.'], c.toNat < 0x80 := by simp
  constructor
  · rintro ⟨numbers, hlength, hnumbers, rfl⟩
    refine ⟨⟨numbers.map (Nat.toDigits 10), by simpa using hlength, ?_, rfl⟩,
      (forall_mem_intercalate hpoint).mpr ?_⟩
    · intro word hword
      obtain ⟨n, hn, rfl⟩ := List.mem_map.mp hword
      exact ⟨n, hnumbers n hn, spells_toDigits n⟩
    · intro word hword c hc
      obtain ⟨n, -, rfl⟩ := List.mem_map.mp hword
      exact toNat_lt_of_mem_toDigits hc
  · rintro ⟨⟨words, hlength, hwords, rfl⟩, hascii⟩
    rw [forall_mem_intercalate hpoint] at hascii
    have hnumerals : ∀ word ∈ words, ∃ n ≤ 255, word = Nat.toDigits 10 n := by
      intro word hword
      obtain ⟨n, hn, hspells⟩ := hwords word hword
      exact ⟨n, hn, hspells.eq_toDigits (hascii word hword)⟩
    obtain ⟨numbers, rfl, hnumbers⟩ := exists_eq_map hnumerals
    exact ⟨numbers, by simpa using hlength, hnumbers, rfl⟩

end Quad

/-- The format takes what is spelled with digits of any script in some places. So it agrees with the
dotted quads on a text just if the text, where it is spelled like that, is in ASCII. -/
theorem Format.ipv4_agrees_iff (text : String) :
    (Format.ipv4.matches? text = true ↔ Quad.IsSpelled text.toList) ∧
    ((Format.ipv4.matches? text = true ↔ Quad.IsCanonical text.toList) ↔
      (Quad.IsSpelled text.toList → ∀ c ∈ text.toList, c.toNat < 0x80)) := by
  have htakes : Format.ipv4.matches? text = true ↔ Quad.IsSpelled text.toList := by
    rw [matches?_iff, pattern, matches_nil_iff (by decide), Quad.mem_quadPattern_iff]
  rw [htakes, Quad.isCanonical_iff]
  exact ⟨Iff.rfl, by tauto⟩

/-- A three in Arabic script may stand for a number, but no dotted quad is written with it. -/
theorem Format.ipv4_takes_foreign_digit :
    ¬∀ text : String, Format.ipv4.matches? text = true ↔ Quad.IsCanonical text.toList := by
  intro h
  have htakes : Format.ipv4.matches? "1.1.1.\u0663" = true := by decide +kernel
  have hascii := (Quad.isCanonical_iff.mp ((h _).mp htakes)).2
  exact absurd (hascii '\u0663' (by decide)) (by decide)

end SchemaBridge
