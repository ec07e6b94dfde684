import SchemaBridge.Text.Digit

/-!
# Percent encoding

In a reference, a percent sign and two hexadecimal digits stand for a byte. The bytes of a run of
ASCII characters are read as UTF-8, where whatever is not well formed becomes the replacement
character; other characters stand for themselves.

* `percentDecoded_of_not_mem`: a text without percent signs stands for itself.
-/

namespace SchemaBridge.Text

/-- The number of continuation bytes after a leading byte, and the bounds of the first of them. -/
def continuation? (lead : Nat) : Option (Nat × Nat × Nat) :=
  if 0xC2 ≤ lead && lead ≤ 0xDF then some (1, 0x80, 0xBF)
  else if lead = 0xE0 then some (2, 0xA0, 0xBF)
  else if lead = 0xED then some (2, 0x80, 0x9F)
  else if 0xE1 ≤ lead && lead ≤ 0xEF then some (2, 0x80, 0xBF)
  else if lead = 0xF0 then some (3, 0x90, 0xBF)
  else if 0xF1 ≤ lead && lead ≤ 0xF3 then some (3, 0x80, 0xBF)
  else if lead = 0xF4 then some (3, 0x80, 0x8F)
  else none

/-- The character in progress: its bits so far, the number of bytes that are still to come, and
the bounds of the next one. -/
structure Partial where
  bits : Nat
  missing : Nat
  low : Nat
  high : Nat

/-- The character that stands for bytes that are not well formed. -/
def replacement : Char := '\ufffd'

/-- A byte at the beginning of a character. -/
def leadByte (byte : Nat) : List Char × Option Partial :=
  if byte < 0x80 then ([Char.ofNat byte], none)
  else
    match continuation? byte with
    | none => ([replacement], none)
    | some (missing, low, high) =>
      ([], some ⟨byte % (1 <<< (6 - missing)), missing, low, high⟩)

/-- The characters of UTF-8 bytes after a character in progress. -/
def decodeBytes : Option Partial → List Nat → List Char
  | none, [] => []
  | some _, [] => [replacement]
  | none, byte :: rest =>
    let (chars, next) := leadByte byte
    chars ++ decodeBytes next rest
  | some character, byte :: rest =>
    if character.low ≤ byte && byte ≤ character.high then
      let bits := character.bits * 64 + byte % 64
      if character.missing = 1 then Char.ofNat bits :: decodeBytes none rest
      else decodeBytes (some ⟨bits, character.missing - 1, 0x80, 0xBF⟩) rest
    else
      let (chars, next) := leadByte byte
      replacement :: chars ++ decodeBytes next rest

/-- The bytes of a run of ASCII characters. -/
def percentBytes : List Char → List Nat
  | [] => []
  | '%' :: a :: b :: rest =>
    match hexValue? a, hexValue? b with
    | some high, some low => (16 * high + low) :: percentBytes rest
    | _, _ => '%'.toNat :: percentBytes (a :: b :: rest)
  | c :: rest => c.toNat :: percentBytes rest

/-- The text that a percent-encoded text stands for; `run` is the ASCII text just read, newest
character first. -/
def decodeFrom (run : List Char) : List Char → List Char
  | [] => decodeBytes none (percentBytes run.reverse)
  | c :: rest =>
    if c.toNat < 0x80 then decodeFrom (c :: run) rest
    else decodeBytes none (percentBytes run.reverse) ++ c :: decodeFrom [] rest

/-- The text that a percent-encoded text stands for. -/
def percentDecoded (text : List Char) : List Char := decodeFrom [] text

theorem percentBytes_of_not_mem {text : List Char} (h : '%' ∉ text) :
    percentBytes text = text.map Char.toNat := by
  induction text with
  | nil => rfl
  | cons c rest ih =>
    simp only [List.mem_cons, not_or] at h
    rw [percentBytes, ih h.2, List.map_cons]
    rintro a b rest' rfl
    exact absurd rfl h.1

theorem decodeBytes_ascii {text : List Char} (h : ∀ c ∈ text, c.toNat < 0x80) :
    decodeBytes none (text.map Char.toNat) = text := by
  induction text with
  | nil => rfl
  | cons c rest ih =>
    have hc : c.toNat < 0x80 := h c List.mem_cons_self
    have hrest := ih fun c hc => h c (List.mem_cons_of_mem _ hc)
    simp [decodeBytes, leadByte, hc, hrest]

theorem decodeFrom_of_not_mem {text : List Char} (h : '%' ∉ text) {run : List Char}
    (hrun : '%' ∉ run) (hascii : ∀ c ∈ run, c.toNat < 0x80) :
    decodeFrom run text = run.reverse ++ text := by
  induction text generalizing run with
  | nil =>
    rw [decodeFrom, percentBytes_of_not_mem (by simpa using hrun),
      decodeBytes_ascii (by simpa using hascii), List.append_nil]
  | cons c rest ih =>
    simp only [List.mem_cons, not_or] at h
    rw [decodeFrom]
    by_cases hc : c.toNat < 0x80
    · rw [if_pos hc, ih h.2 (by simpa using ⟨h.1, hrun⟩) (by simpa using ⟨hc, hascii⟩)]
      simp
    · rw [if_neg hc, percentBytes_of_not_mem (by simpa using hrun),
        decodeBytes_ascii (by simpa using hascii), ih h.2 List.not_mem_nil (by simp)]
      rfl

theorem percentDecoded_of_not_mem {text : List Char} (h : '%' ∉ text) :
    percentDecoded text = text :=
  decodeFrom_of_not_mem h List.not_mem_nil (by simp)

end SchemaBridge.Text
