import SchemaBridge.Text.Fold

/-!
# Letters that have case

A letter has case if its small form or its capital is another letter, or if its capital is written
as several letters.

* `anyAsciiLetter_iff`: a range of codes holds an ASCII letter if one of the codes is one.
-/

namespace SchemaBridge.Text

/-- The codes of small letters whose capitals are written as several letters. -/
def composedCapitals : List Nat :=
  [0x149, 0x1F0, 0x587, 0x1E96, 0x1E97, 0x1E98, 0x1E99, 0x1E9A, 0x1F50, 0x1F52, 0x1F54, 0x1F56,
   0x1FB2, 0x1FB4, 0x1FB6, 0x1FB7, 0x1FC2, 0x1FC4, 0x1FC6, 0x1FC7, 0x1FD2, 0x1FD6, 0x1FD7, 0x1FE2,
   0x1FE4, 0x1FE6, 0x1FE7, 0x1FF2, 0x1FF4, 0x1FF6, 0x1FF7, 0xFB00, 0xFB01, 0xFB02, 0xFB03, 0xFB04,
   0xFB13, 0xFB14, 0xFB15, 0xFB16, 0xFB17]

/-- One of the codes from `low` to `high` belongs to a run of codes with the given first and last
one, or to those at a distance from them. -/
def Folding.touches (run : Folding) (low high : Nat) (start : Nat) : Bool :=
  let first := max low start
  let steps := (first - start + run.step - 1) / run.step
  start + steps * run.step ≤ min high (start + (run.last - run.first))

/-- One of the codes from `low` to `high` is that of a letter that has case. -/
def anyHasCase (low high : Nat) : Bool :=
  composedCapitals.any (fun code => low ≤ code && code ≤ high)
    || (asciiFoldings ++ foldings).any fun run =>
      run.touches low high run.first || run.touches low high run.image

/-- The code is that of a letter that has case. -/
def hasCase (code : Nat) : Bool := anyHasCase code code

/-- The code is that of an ASCII letter. -/
def isAsciiLetter (code : Nat) : Bool :=
  (0x41 ≤ code && code ≤ 0x5A) || (0x61 ≤ code && code ≤ 0x7A)

/-- One of the codes from `low` to `high` is that of an ASCII letter. -/
def anyAsciiLetter (low high : Nat) : Bool :=
  (low ≤ 0x5A && 0x41 ≤ high && low ≤ high) || (low ≤ 0x7A && 0x61 ≤ high && low ≤ high)

/-- The code is that of a letter with more than one small form. -/
def hasVariants (code : Nat) : Bool :=
  variantCodes.any fun variant => fold (Char.ofNat variant) == fold (Char.ofNat code)

theorem anyAsciiLetter_iff (low high : Nat) :
    anyAsciiLetter low high = true
      ↔ ∃ code, low ≤ code ∧ code ≤ high ∧ isAsciiLetter code = true := by
  simp only [anyAsciiLetter, isAsciiLetter, Bool.or_eq_true, Bool.and_eq_true, decide_eq_true_eq]
  constructor
  · rintro (⟨⟨hlow, hhigh⟩, hle⟩ | ⟨⟨hlow, hhigh⟩, hle⟩)
    · exact ⟨max low 0x41, by omega, by omega, by omega⟩
    · exact ⟨max low 0x61, by omega, by omega, by omega⟩
  · rintro ⟨code, hlow, hhigh, hcode⟩
    omega

end SchemaBridge.Text
