import Mathlib
import SchemaBridge.Number.Written
import SchemaBridge.Proofs.Halves

/-!
# Integers in decimal text

An integer is kept exact where it is written as a number. Where its decimal text is written instead,
it is read as a binary64 number, and only after that it becomes an integer again. So both ways lead
to the same integer just if the integer is a binary64 number itself. Others are replaced by one next
to them, and those past the largest binary64 number are refused.

* `Numeral.characters_eq_self`: nothing is dropped from the decimal text of an integer.
* `Numeral.readInt?_written`, `Numeral.readBinary64?_written`: what the text is read as.
* `Binary64.isIntegral_of_ofRatio_one`, `Binary64.IsValue.exists_ofRatio_one`: integers are rounded
  to integers, and some of them to themselves.
* `Keyword.toNumber_written`: the integer that the text stands for.
* `Handler.written_agrees_iff`: when a text and a number add the same keyword.
* `Keyword.toNumber_written_ne`: they do not always.
-/

namespace SchemaBridge

/-! ## Reading what is written -/

namespace Numeral

variable {text : List Char} {c : Char} {n : Int}

theorem toNat_lt_of_isDigit (h : c.isDigit = true) : 0x30 ≤ c.toNat ∧ c.toNat < 0x3A := by
  obtain ⟨hge, hle⟩ := Char.isDigit_iff_toNat.mp h
  exact ⟨hge, Nat.lt_succ_of_le hle⟩

theorem asciiForm_of_isDigit (h : c.isDigit = true) : asciiForm c = c := by
  have hbounds := toNat_lt_of_isDigit h
  rw [asciiForm, if_pos (by omega)]

theorem isMargin_of_isDigit (h : c.isDigit = true) : isMargin c = false := by
  have hbounds := toNat_lt_of_isDigit h
  have hspace : c ≠ ' ' := by
    rintro rfl
    cases h
  simp only [isMargin, Bool.or_eq_false_iff, beq_eq_false_iff_ne, Bool.and_eq_false_iff,
    decide_eq_false_iff_not]
  exact ⟨.inr (by omega), hspace⟩

theorem trim_eq_self (h : ∀ c ∈ text, isMargin c = false) : trim text = text := by
  have hkeeps (chars : List Char) (hchars : ∀ c ∈ chars, isMargin c = false) :
      chars.dropWhile isMargin = chars := by
    refine List.dropWhile_eq_self_iff.mpr fun hlength => ?_
    rw [hchars _ (List.getElem_mem hlength)]
    exact Bool.false_ne_true
  rw [trim, hkeeps text h, hkeeps _ fun c hc => h c (List.mem_reverse.mp hc), List.reverse_reverse]

theorem dropSeparators_eq_self (h : '_' ∉ text) (afterDigit : Bool) :
    dropSeparators afterDigit text = some text := by
  induction text generalizing afterDigit with
  | nil => rw [dropSeparators]
  | cons c rest ih =>
    obtain ⟨hc, hrest⟩ := List.ne_and_not_mem_of_not_mem_cons h
    rw [dropSeparators, if_neg (Ne.symm hc), ih hrest, Option.map_some]
    exact fun _ _ heq _ => absurd heq.symm hc

/-- Nothing is dropped from a text that has digits and a minus sign only. -/
theorem characters_eq_self {source : String}
    (h : ∀ c ∈ source.toList, c = '-' ∨ c.isDigit = true) :
    characters source = some source.toList := by
  have hascii : source.toList.map asciiForm = source.toList := by
    refine (List.map_congr_left fun c hc => ?_).trans (List.map_id _)
    rcases h c hc with rfl | hdigit
    · rfl
    · exact asciiForm_of_isDigit hdigit
  have hmargin : ∀ c ∈ source.toList, isMargin c = false := by
    intro c hc
    rcases h c hc with rfl | hdigit
    · rfl
    · exact isMargin_of_isDigit hdigit
  have hseparator : '_' ∉ source.toList := by
    intro hmem
    rcases h _ hmem with heq | hdigit
    · cases heq
    · cases hdigit
  rw [characters, hascii, trim_eq_self hmargin, dropSeparators_eq_self hseparator]

/-- An integer is written as its digits, after a minus sign if it is negative. -/
theorem toList_written (n : Int) : (Number.int n).written.toList
    = if n < 0 then '-' :: Nat.toDigits 10 n.natAbs else Nat.toDigits 10 n.natAbs := by
  rw [Number.written, Int.toString_eq_repr, Int.repr_eq_if]
  split_ifs with hnonneg hneg hneg
  · omega
  · rw [Nat.toList_repr, ← Int.natAbs_of_nonneg hnonneg]
    rfl
  · rw [String.toList_append, Nat.toList_repr]
    have hnat : (-n).toNat = n.natAbs := by omega
    rw [hnat]
    rfl
  · omega

theorem isDigit_of_mem_toDigits {n : Nat} (h : c ∈ Nat.toDigits 10 n) : c.isDigit = true :=
  Nat.isDigit_of_mem_toDigits (by decide) (by decide) h

/-- Digits alone have no sign. -/
theorem sign_of_isDigit (h : ∀ c ∈ text, c.isDigit = true) : sign text = (false, text) := by
  unfold sign
  split
  · next => cases h '-' List.mem_cons_self
  · next => cases h '+' List.mem_cons_self
  · rfl

/-- Of the text of an integer the sign and the digits are read. -/
theorem sign_characters_written (n : Int) : (characters (Number.int n).written).map sign
    = some (decide (n < 0), Nat.toDigits 10 n.natAbs) := by
  have hplain : ∀ c ∈ (Number.int n).written.toList, c = '-' ∨ c.isDigit = true := by
    intro c hc
    rw [toList_written] at hc
    split_ifs at hc
    · exact (List.mem_cons.mp hc).imp_right isDigit_of_mem_toDigits
    · exact .inr (isDigit_of_mem_toDigits hc)
  rw [characters_eq_self hplain, toList_written, Option.map_some]
  split_ifs with hneg
  · rw [sign, decide_eq_true hneg]
  · rw [sign_of_isDigit fun c => isDigit_of_mem_toDigits, decide_eq_false hneg]

/-- Digits are read as what they are written for. -/
theorem ofDigits_toDigits (n : Nat) : ofDigits (Nat.toDigits 10 n) = n :=
  Nat.ofDigitChars_toDigits (by decide) (by decide)

/-- The text of an integer is read as the integer, if it is not too long. -/
theorem readInt?_written (n : Int) : readInt? (Number.int n).written
    = if (Nat.toDigits 10 n.natAbs).length ≤ maxDigits then some n else none := by
  obtain ⟨chars, hchars, hsign⟩ := Option.map_eq_some_iff.mp (sign_characters_written n)
  have hdigits : (Nat.toDigits 10 n.natAbs).all Char.isDigit = true :=
    List.all_eq_true.mpr fun c => isDigit_of_mem_toDigits
  have hsigned : (if n < 0 then -|n| else |n|) = n := by
    split_ifs with hneg
    · rw [abs_of_neg hneg, neg_neg]
    · exact abs_of_nonneg (not_lt.mp hneg)
  have hnonempty : (Nat.toDigits 10 n.natAbs).isEmpty = false := by
    simp [Nat.toDigits_ne_nil]
  rw [readInt?, hchars, Option.bind_eq_bind, Option.bind_some, hsign]
  dsimp only
  by_cases hlength : (Nat.toDigits 10 n.natAbs).length ≤ maxDigits
  · simp [hdigits, hnonempty, hlength, ofDigits_toDigits, hsigned]
  · simp [hlength]

/-- With so many digits, a number is past every binary64 number. -/
theorem ofMagnitude_of_long {digits : Nat} (h : 310 < (Nat.toDigits 10 digits).length)
    (negative : Bool) : Binary64.ofMagnitude negative digits 1 = .infinite negative := by
  have hlarge : 10 ^ 310 ≤ digits := by
    by_contra hlt
    have hle := (Nat.length_toDigits_le_iff (by decide) (by decide)).mpr (not_le.mp hlt)
    omega
  have hpower : 2 ^ 1024 ≤ 10 ^ 310 := by decide +kernel
  refine Binary64.ofMagnitude_eq_infinite Nat.one_pos ?_ negative
  rw [Nat.cast_one, mul_one]
  exact_mod_cast hpower.trans hlarge

/-- Digits without a point and a power of ten are a whole number, which is rounded. -/
theorem scaled_zero (negative : Bool) (digits : Nat) :
    scaled negative digits 0 = Binary64.ofMagnitude negative digits 1 := by
  have hdecimal :
      Binary64.ofDecimal negative digits 0 = Binary64.ofMagnitude negative digits 1 := by
    rw [Binary64.ofDecimal, neg_zero]
    exact congrArg (Binary64.ofMagnitude negative · 1) (Nat.mul_one digits)
  rw [scaled, hdecimal]
  rcases eq_or_ne digits 0 with rfl | hdigits
  · rw [if_pos (by simp), Binary64.ofMagnitude_zero]
  · rw [if_neg (by simp [hdigits])]
    split_ifs with hwidth
    · rw [Binary64.decimalWidth] at hwidth
      exact (ofMagnitude_of_long (by omega) negative).symm
    · rfl

/-- Digits are not the name of a number. -/
theorem map_toLower_ne {name : List Char} (hname : ∃ c ∈ name, c.isDigit = false)
    (h : ∀ c ∈ text, c.isDigit = true) : text.map Char.toLower ≠ name := by
  rintro rfl
  obtain ⟨c, hc, hother⟩ := hname
  obtain ⟨digit, hdigit, rfl⟩ := List.mem_map.mp hc
  have hsame : digit.toLower = digit := by
    have hbounds := toNat_lt_of_isDigit (h digit hdigit)
    rw [Char.toLower, dif_neg]
    rintro ⟨hge, -⟩
    have hupper : 0x41 ≤ digit.toNat := hge
    omega
  rw [hsame, h digit hdigit] at hother
  cases hother

/-- The text of an integer is read as the binary64 number that the integer is rounded to. -/
theorem readBinary64?_written (n : Int) :
    readBinary64? (Number.int n).written = some (Binary64.ofRatio n 1) := by
  obtain ⟨chars, hchars, hsign⟩ := Option.map_eq_some_iff.mp (sign_characters_written n)
  have hdigits : ∀ c ∈ Nat.toDigits 10 n.natAbs, c.isDigit = true :=
    fun c => isDigit_of_mem_toDigits
  have hinf : (Nat.toDigits 10 n.natAbs).map Char.toLower ≠ "inf".toList :=
    map_toLower_ne ⟨'i', by decide, rfl⟩ hdigits
  have hinfinity : (Nat.toDigits 10 n.natAbs).map Char.toLower ≠ "infinity".toList :=
    map_toLower_ne ⟨'i', by decide, rfl⟩ hdigits
  have hnan : (Nat.toDigits 10 n.natAbs).map Char.toLower ≠ "nan".toList :=
    map_toLower_ne ⟨'n', by decide, rfl⟩ hdigits
  have hspan : (Nat.toDigits 10 n.natAbs).span Char.isDigit = (Nat.toDigits 10 n.natAbs, []) := by
    rw [List.span_eq_takeWhile_dropWhile, List.takeWhile_eq_self_iff.mpr hdigits,
      List.dropWhile_eq_nil_iff.mpr hdigits]
  have hfraction : fraction [] = ([], []) := rfl
  have hpower : power? [] = some 0 := rfl
  rw [readBinary64?, hchars, Option.bind_eq_bind, Option.bind_some, hsign]
  generalize "inf".toList = inf at hinf ⊢
  generalize "infinity".toList = infinity at hinfinity ⊢
  generalize "nan".toList = nan at hnan ⊢
  dsimp only
  rw [if_neg (by simp [hinf, hinfinity]), if_neg hnan, hspan]
  simp [hfraction, hpower, Nat.toDigits_ne_nil, ofDigits_toDigits, scaled_zero, Binary64.ofRatio]

end Numeral

/-! ## Integers among the binary64 numbers -/

namespace Binary64

variable {n : Int} {x : Finite}

/-- The integer is the value of a binary64 number. -/
def IsValue (n : Int) : Prop := ∃ x : Finite, x.value = n

theorem Finite.value_eq_intCast_iff : x.value = n ↔ x.numerator = n * x.denominator := by
  have hdenominator : (x.denominator : ℚ) ≠ 0 := by exact_mod_cast x.denominator_pos.ne'
  rw [value, div_eq_iff hdenominator]
  exact_mod_cast Iff.rfl

/-- The value of an integral number is its integer part. -/
theorem Finite.value_eq_floor (h : x.isIntegral = true) : x.value = x.floor :=
  value_eq_intCast_iff.mpr (floor_mul_denominator h).symm

theorem Finite.isIntegral_of_value_eq (h : x.value = n) : x.isIntegral = true := by
  rw [isIntegral, value_eq_intCast_iff.mp h, Int.mul_emod_left]
  rfl

/-- A number that has a fraction has at most 53 digits before the point. -/
theorem Finite.abs_value_lt (h : x.isIntegral = false) : |x.value| < (2 ^ 53 : Int) := by
  have hmantissa : x.mantissa < 2 ^ 53 := x.mantissa_lt
  have hpow : (2 : ℚ) ^ x.exponent ≤ 1 :=
    zpow_le_one_of_nonpos₀ (by norm_num) (exponent_neg h).le
  calc |x.value| = x.mantissa * (2 : ℚ) ^ x.exponent := x.abs_value
    _ ≤ x.mantissa * 1 := by gcongr
    _ < (2 ^ 53 : Int) := by
      rw [mul_one]
      exact_mod_cast hmantissa

theorem rounds_of_ofRatio_one (h : ofRatio n 1 = .finite x) : Rounds n x := by
  have hrounds := rounds_ofRatio Nat.one_pos h
  rwa [Nat.cast_one, div_one] at hrounds

/-- An integer is rounded to an integer: small ones to themselves, and large numbers have no
fractions. -/
theorem isIntegral_of_ofRatio_one (h : ofRatio n 1 = .finite x) : x.isIntegral = true := by
  have hrounds := rounds_of_ofRatio_one h
  rcases le_or_gt n.natAbs (2 ^ 53) with hsmall | hlarge
  · exact Finite.isIntegral_of_value_eq (hrounds.value_eq (representable_intCast hsmall))
  · by_contra hfraction
    have hless := Finite.abs_value_lt (Bool.eq_false_iff.mpr hfraction)
    have hpower : Representable ((2 ^ 53 : Int) : ℚ) := representable_intCast (by decide)
    rcases le_or_gt 0 n with hpos | hneg
    · have hge : (2 ^ 53 : Int) ≤ n := by omega
      have hle := hrounds.le_value hpower (Int.cast_le.mpr hge)
      exact absurd (hle.trans (le_abs_self _)) hless.not_ge
    · have hle : n ≤ -2 ^ 53 := by omega
      have hge := hrounds.value_le hpower.neg (by exact_mod_cast hle)
      exact absurd (le_abs.mpr (.inr (le_neg.mpr hge))) hless.not_ge

/-- An integer that is the value of a binary64 number is rounded to it. -/
theorem IsValue.exists_ofRatio_one (h : IsValue n) :
    ∃ y, ofRatio n 1 = .finite y ∧ y.value = n := by
  obtain ⟨x, hx⟩ := h
  have hle : (n.natAbs / (1 : Nat) : ℚ) ≤ x.mantissa * (2 : ℚ) ^ x.exponent := by
    rw [Nat.cast_one, div_one, ← x.abs_value, hx, Nat.cast_natAbs, Int.cast_abs]
  obtain ⟨y, hy⟩ := exists_ofMagnitude Nat.one_pos x.mantissa_lt x.min_exponent_le
    x.canonical.2.2.1 hle (decide (n < 0))
  exact ⟨y, hy, (rounds_of_ofRatio_one hy).value_eq (hx ▸ representable_value x)⟩

end Binary64

/-! ## Text and number as arguments -/

namespace Keyword

/-- The text of an integer stands for the integer that it is rounded to, if there is one. -/
theorem toNumber_written (n : Int) : toNumber (.text (Number.int n).written) =
    match Binary64.ofRatio n 1 with
    | .finite x => .ok (.int x.floor)
    | _ => .error (.notFinite (.text (Number.int n).written)) := by
  rw [toNumber, Numeral.readBinary64?_written]
  dsimp only
  cases hrounded : Binary64.ofRatio n 1 with
  | finite x =>
    have hnormal : (Number.float (.finite x)).normal = .int x.floor := by
      rw [Number.normal, if_pos (Binary64.isIntegral_of_ofRatio_one hrounded)]
    have hfinite : (Number.float (.finite x)).isFinite = true := rfl
    dsimp only
    rw [if_pos hfinite, hnormal]
  | infinite | nan => rfl

/-- The text stands for the same integer just if that is the value of a binary64 number. -/
theorem toNumber_written_eq_iff (n : Int) :
    toNumber (.text (Number.int n).written) = .ok (.int n) ↔ Binary64.IsValue n := by
  rw [toNumber_written]
  constructor
  · intro h
    cases hrounded : Binary64.ofRatio n 1 with
    | finite x =>
      rw [hrounded] at h
      cases h
      exact ⟨x, Binary64.Finite.value_eq_floor (Binary64.isIntegral_of_ofRatio_one hrounded)⟩
    | infinite | nan =>
      rw [hrounded] at h
      cases h
  · intro h
    obtain ⟨x, hrounded, hvalue⟩ := h.exists_ofRatio_one
    rw [hrounded]
    dsimp only
    rw [x.floor_eq, hvalue, Int.floor_intCast]

/-- An integer stands as it is, whether or not it bounds integers. -/
theorem settle_int (jsonType : String) (n : Int) :
    settle jsonType (.number (.int n)) = .int n :=
  ite_self _

end Keyword

open Keyword

/-- The builtin directive with one argument. -/
def Directive.single (argument : Argument) : Directive := ⟨validate, [argument]⟩

section

variable {jsonType : Option String} {argument : Argument} {key : String}

/-- Under a numeric key, an argument whose value is no number contributes nothing. -/
theorem Argument.toOption_keyword_of_error (hkey : argument.key? jsonType = some key)
    (hnumeric : key ∈ numeric) {cause : Fault} (h : toNumber argument.value.value = .error cause)
    (directive : String) : (argument.keyword directive jsonType).toOption = none := by
  cases hkeyword : argument.keyword directive jsonType with
  | error notice => rfl
  | ok entry =>
    obtain ⟨key', taken, -, hcast, -⟩ := keyword_eq_ok hkeyword
    rw [eq_of_key? hkey (List.mem_append_left _ hnumeric), Keyword.cast,
      if_pos (by simpa using hnumeric), h] at hcast
    cases hcast

/-- A single argument for a numeric key adds the number that it stands for, if there is one. -/
theorem Handler.result_validate_single (hkey : argument.key? jsonType = some key)
    (hnumeric : key ∈ numeric) (hvalue : argument.value.isValue = true) :
    (Handler.validate (.single argument) jsonType).result =
      match toNumber argument.value.value with
      | .ok number =>
        .ok (.object [(.text key, settle (jsonType.getD "") (.number number))])
      | .error _ => .ok (.object []) := by
  have hreadable : ∀ argument' ∈ (Directive.single argument).arguments,
      argument'.isReadable jsonType = true := by
    intro argument' hmem
    rw [List.mem_singleton.mp hmem, Argument.isReadable, hvalue, Bool.or_true]
  rw [validate_of_readable hreadable, Directive.keywords, Directive.contributions,
    Directive.single, List.filterMap_cons]
  cases hnumber : toNumber argument.value.value with
  | ok number =>
    rw [Argument.keyword_of_toNumber hkey hnumeric hnumber]
    rfl
  | error cause =>
    rw [Argument.toOption_keyword_of_error hkey hnumeric hnumber]
    rfl

end

/-- An integer that is too long to be read stands for what is not a number. -/
theorem Literal.value_written (n : Int) : (Literal.int (Number.int n).written).value =
    if (Nat.toDigits 10 n.natAbs).length ≤ Numeral.maxDigits then .int n
    else .number (.float .nan) := by
  rw [value, Numeral.readInt?_written]
  split_ifs <;> rfl

/-- The decimal text of an integer stands for the integer just if that is the value of a binary64
number. Then, and if the integer is too long to be taken in either form, the text and the integer
itself add the same under every numeric keyword of every type. -/
theorem Handler.written_agrees_iff (n : Int) :
    (toNumber (.text (Number.int n).written) = .ok (.int n) ↔ Binary64.IsValue n) ∧
    ∀ (jsonType : Option String) (name key : String),
      key? (jsonType.getD "") (meant (jsonType.getD "") name) = some key → key ∈ numeric →
      ((Handler.validate (.single ⟨name, .text (Number.int n).written⟩) jsonType).result
          = (Handler.validate (.single ⟨name, .int (Number.int n).written⟩) jsonType).result
        ↔ Binary64.IsValue n ∨ Numeral.maxDigits < (Nat.toDigits 10 n.natAbs).length) := by
  refine ⟨toNumber_written_eq_iff n, fun jsonType name key hkey hnumeric => ?_⟩
  have hargument (value : Literal) : Argument.key? ⟨name, value⟩ jsonType = some key := hkey
  have htext (spelling : String) : (Literal.text spelling).value = .text spelling := by
    rw [Literal.value]
  rw [result_validate_single (hargument _) hnumeric rfl,
    result_validate_single (hargument _) hnumeric rfl]
  dsimp only
  rw [htext, Literal.value_written, toNumber_written]
  split_ifs with hlength
  · have hnumber : toNumber (.int n) = .ok (.int n) := toNumber_int n
    rw [or_iff_left (not_lt.mpr hlength), ← toNumber_written_eq_iff, toNumber_written, hnumber]
    cases Binary64.ofRatio n 1 with
    | finite x =>
      dsimp only
      rw [settle_int, settle_int]
      simp [Datum.int]
    | infinite | nan => simp
  · have hlong : 310 < (Nat.toDigits 10 n.natAbs).length := by
      rw [Numeral.maxDigits] at hlength
      omega
    have hinfinite : Binary64.ofRatio n 1 = .infinite (decide (n < 0)) :=
      Numeral.ofMagnitude_of_long hlong _
    have hnan : toNumber (.number (.float .nan))
        = .error (.notFinite (.number (.float .nan))) := rfl
    rw [hinfinite, hnan]
    exact iff_of_true rfl (.inr (not_le.mp hlength))

/-- A power of ten that has too many binary digits, but for the zeros at its end. -/
theorem Handler.written_agrees_of_power :
    toNumber (.text "10000000000000000000000") = .ok (.int (10 ^ 22)) ∧
      (Handler.validate (.single ⟨"max", .text "10000000000000000000000"⟩) (some "integer")).result
        = (Handler.validate (.single ⟨"max", .int "10000000000000000000000"⟩)
            (some "integer")).result := by
  have hspelling : (Number.int (10 ^ 22)).written = "10000000000000000000000" := by decide +kernel
  have hvalue : Binary64.IsValue (10 ^ 22) := by
    refine ⟨⟨false, 2 * 5 ^ 22, 21, by decide⟩, ?_⟩
    rw [Binary64.Finite.value_eq]
    norm_num [Binary64.Finite.coefficient]
  obtain ⟨htext, hkeywords⟩ := written_agrees_iff (10 ^ 22)
  rw [hspelling] at htext hkeywords
  exact ⟨htext.mpr hvalue,
    (hkeywords (some "integer") "max" "maximum" rfl (by decide)).mpr (.inl hvalue)⟩

/-- The text of the least positive integer that is not the value of a binary64 number stands for the
one before it. -/
theorem Keyword.toNumber_written_ne :
    ¬∀ n : Int, toNumber (.text (Number.int n).written) = .ok (.int n) := by
  intro h
  have hrounded : Binary64.ofRatio 9007199254740993 1
      = .finite ⟨false, 2 ^ 52, 1, by decide⟩ := by decide +kernel
  have hnumber := h 9007199254740993
  rw [toNumber_written, hrounded] at hnumber
  cases hnumber

end SchemaBridge
