import Mathlib
import SchemaBridge.Proofs.Nearest
import SchemaBridge.Schema.Directive

/-!
# Rounding always has a result

A ratio that is not too large has a binary64 number nearest to it, so a half may be added to any
number that has a fraction. Therefore a bound for integers can be rounded, whatever number it is
that a keyword takes.

* `Binary64.exists_addHalf`: to a number that has a fraction, a half may be added.
* `Number.exists_roundHalfUp`: a finite number in normal form can be rounded.
* `Keyword.cast_numeric`, `Keyword.cast_boolean`: what keywords with numbers and booleans take.
* `Keyword.roundHalfUp_cast`: every number that a bound for integers is cast to can be rounded.
-/

namespace SchemaBridge

namespace Binary64

/-- A number that has a fraction has digits behind the point. -/
theorem Finite.exponent_neg {x : Finite} (h : x.isIntegral = false) : x.exponent < 0 := by
  by_contra hexponent
  have hdenominator : x.denominator = 1 := by
    rw [denominator, Int.toNat_of_nonpos (by omega)]
    rfl
  rw [isIntegral, hdenominator] at h
  simp at h

/-- To a number that has a fraction, a half may be added. -/
theorem exists_addHalf {x : Finite} (h : x.isIntegral = false) :
    ∃ y, addHalf x = .finite y := by
  have hmagnitude : x.magnitude < 2 ^ 53 := by
    rw [Finite.magnitude, Int.toNat_of_nonpos (Finite.exponent_neg h).le]
    exact x.mantissa_lt
  have hnumerator : x.numerator.natAbs = x.magnitude := by
    unfold Finite.numerator
    split_ifs <;> simp
  have hpos := x.denominator_pos
  have hdouble : 0 < 2 * x.denominator := by omega
  have hratio : (2 * x.numerator + x.denominator).natAbs ≤ 2 ^ 55 * (2 * x.denominator) := by
    omega
  have hle : ((2 * x.numerator + x.denominator).natAbs / (2 * x.denominator : Nat) : ℚ)
      ≤ (1 : Nat) * (2 : ℚ) ^ (55 : Int) := by
    rw [div_le_iff₀ (by exact_mod_cast hdouble), Nat.cast_one, one_mul]
    exact_mod_cast hratio
  exact exists_ofMagnitude hdouble (by decide) (by decide) (by decide) hle _

end Binary64

namespace Number

/-- A finite number in normal form is an integer, or has a fraction and can be rounded. -/
theorem exists_roundHalfUp {number : Number} (h : number.isFinite = true) :
    ∃ rounded, number.normal.roundHalfUp? = some rounded := by
  cases number with
  | int value => exact ⟨value, rfl⟩
  | float value =>
    cases value with
    | finite x =>
      rw [normal]
      split_ifs with hintegral
      · exact ⟨x.floor, rfl⟩
      · obtain ⟨y, hy⟩ := Binary64.exists_addHalf (Bool.eq_false_iff.mpr hintegral)
        exact ⟨y.floor, by rw [roundHalfUp?, hy, floor?]⟩
    | infinite | nan => cases h

end Number

namespace Keyword

/-- A numeric keyword takes finite numbers in normal form, or fails because it cannot. -/
theorem toNumber_spec (value : Datum) :
    (∃ number : Number, number.isFinite = true ∧ toNumber value = .ok number.normal)
      ∨ ∃ cause, toNumber value = .error (.notANumber cause)
          ∨ toNumber value = .error (.notFinite cause) := by
  unfold toNumber
  cases value with
  | bool value => exact .inl ⟨.int (if value then 1 else 0), rfl, rfl⟩
  | number number =>
    dsimp only
    split_ifs with hfinite
    · exact .inl ⟨number, hfinite, rfl⟩
    · exact .inr ⟨_, .inr rfl⟩
  | text spelling =>
    dsimp only
    split
    · exact .inr ⟨_, .inl rfl⟩
    · split_ifs with hfinite
      · exact .inl ⟨_, hfinite, rfl⟩
      · exact .inr ⟨_, .inr rfl⟩
  | _ => exact .inr ⟨_, .inl rfl⟩

/-- A value can be cast, or it is none that a numeric keyword can take. -/
theorem cast_spec (keyword : String) (value : Datum) :
    (∃ taken, Keyword.cast keyword value = .ok taken)
      ∨ ∃ cause, Keyword.cast keyword value = .error (.notANumber cause)
          ∨ Keyword.cast keyword value = .error (.notFinite cause) := by
  unfold Keyword.cast
  split_ifs
  · rcases toNumber_spec value with ⟨number, -, hnumber⟩ | ⟨cause, hcause | hcause⟩
    · exact .inl ⟨.number number.normal, by rw [hnumber]; rfl⟩
    · exact .inr ⟨cause, .inl (by rw [hcause]; rfl)⟩
    · exact .inr ⟨cause, .inr (by rw [hcause]; rfl)⟩
  · exact .inl ⟨_, rfl⟩
  · exact .inl ⟨_, rfl⟩

/-- No keyword has both numbers and booleans as values. -/
theorem not_mem_numeric {keyword : String} : keyword ∈ Keyword.boolean → keyword ∉ numeric := by
  have hdisjoint : ∀ keyword ∈ Keyword.boolean, keyword ∉ numeric := by decide
  exact hdisjoint keyword

/-- What a numeric keyword takes is a finite number in normal form. -/
theorem cast_numeric {keyword : String} (hkeyword : keyword ∈ numeric) {value taken : Datum}
    (h : Keyword.cast keyword value = .ok taken) :
    ∃ number : Number, number.isFinite = true ∧ taken = .number number.normal := by
  rw [Keyword.cast, if_pos (by simpa using hkeyword)] at h
  rcases toNumber_spec value with ⟨number, hfinite, hnumber⟩ | ⟨cause, hcause | hcause⟩
  · rw [hnumber] at h
    cases h
    exact ⟨number, hfinite, rfl⟩
  · rw [hcause] at h
    cases h
  · rw [hcause] at h
    cases h

/-- What a boolean keyword takes is a boolean. -/
theorem cast_boolean {keyword : String} (hkeyword : keyword ∈ Keyword.boolean)
    {value taken : Datum} (h : Keyword.cast keyword value = .ok taken) :
    ∃ choice, taken = .bool choice := by
  have hnumeric : ¬ numeric.contains keyword = true := by
    simpa using not_mem_numeric hkeyword
  rw [Keyword.cast, if_neg hnumeric, if_pos (by simpa using hkeyword)] at h
  cases h
  exact ⟨_, rfl⟩

/-- What a bound for integers is cast to can always be rounded. -/
theorem roundHalfUp_cast {keyword key : String} (hkey : key? "integer" keyword = some key)
    {value taken : Datum} (hcast : Keyword.cast keyword value = .ok taken) :
    roundHalfUp taken = .ok (settle "integer" taken) := by
  have hnumeric : keyword ∈ numeric := by
    have hbounds : keyword = "minimum" ∨ keyword = "maximum" := by
      unfold key? at hkey
      split_ifs at hkey with hstandard hextended
      · simpa [standard, Entries.find?] using hstandard
      · simp [extended, Entries.find?] at hextended
    rcases hbounds with rfl | rfl <;> decide
  obtain ⟨number, hfinite, rfl⟩ := cast_numeric hnumeric hcast
  obtain ⟨rounded, hrounded⟩ := Number.exists_roundHalfUp hfinite
  simp [roundHalfUp, settle, hrounded]

end Keyword

end SchemaBridge
