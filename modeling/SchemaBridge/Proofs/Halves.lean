import Mathlib
import SchemaBridge.Proofs.Additions

/-!
# Where halves go up

To round a number to the nearest integer, a half is added to it and the integer part is taken. The
sum is rounded before that to a number of 53 digits, but this does no harm: the sum is exact, or it
has one digit more than the number and stays below the next integer. The greatest number below one
half is the exception. Its sum with a half is as near to one as to the number before, and goes up.

* `Binary64.representable_add_half`, `Binary64.floor_of_carry`: sums without and with one digit
  more.
* `Binary64.value_le_of_ne`: the numbers below one half.
* `Binary64.floor_addHalf`: the integer part of the rounded sum.
* `Number.roundHalfUp?_eq`: the integer that a number is rounded to.
* `Keyword.roundHalfUp_exact_iff`: when that is the nearest integer.
* `Keyword.roundHalfUp_belowHalf`: it is not always.
-/

namespace SchemaBridge

namespace Binary64

variable {x y : Finite}

/-- The greatest number below one half. -/
def belowHalf : Finite := ⟨false, 2 ^ 53 - 1, -54, by decide⟩

theorem value_belowHalf : belowHalf.value = 1 / 2 - 1 / 2 ^ 54 := by
  rw [Finite.value_eq]
  norm_num [belowHalf, Finite.coefficient]

/-- The half that is added to it makes one. -/
theorem addHalf_belowHalf :
    addHalf belowHalf = .finite ⟨false, 1 <<< 52, -52, by decide⟩ := by
  decide +kernel

/-- The sum with a half is rounded to the nearest number, of two to the even one. -/
theorem rounds_addHalf (h : addHalf x = .finite y) : Rounds (x.value + 1 / 2) y := by
  have hpos := x.denominator_pos
  have hdenominator : (x.denominator : ℚ) ≠ 0 := by exact_mod_cast hpos.ne'
  have hsum : ((2 * x.numerator + x.denominator : Int) : ℚ) / (2 * x.denominator : Nat)
      = x.value + 1 / 2 := by
    rw [Finite.value]
    push_cast
    field_simp
  exact hsum ▸ rounds_ofRatio (by omega) h

theorem coefficient_lt (x : Finite) : x.coefficient < 2 ^ 53 ∧ -2 ^ 53 < x.coefficient := by
  have hmantissa : x.mantissa < 2 ^ 53 := x.mantissa_lt
  have habs := x.natAbs_coefficient
  omega

/-! ## One digit more or less -/

/-- The sum with a half, in units of the last place. -/
theorem value_add_half (h : x.exponent < 0) : x.value + 1 / 2
    = ((x.coefficient + 2 ^ (-1 - x.exponent).toNat : Int) : ℚ) * (2 : ℚ) ^ x.exponent := by
  have hhalf : (2 : ℚ) ^ (-1 - x.exponent).toNat * (2 : ℚ) ^ x.exponent = 1 / 2 := by
    rw [← zpow_natCast, ← zpow_add₀ (by norm_num), Int.toNat_of_nonneg (by omega)]
    norm_num
  rw [x.value_eq]
  push_cast
  rw [add_mul, hhalf]

/-- If the sum with a half needs no digit more, it is exact. -/
theorem representable_add_half (hneg : x.exponent < 0)
    (hsum : x.coefficient + 2 ^ (-1 - x.exponent).toNat ≤ 2 ^ 53) :
    Representable (x.value + 1 / 2) := by
  have hcoefficient := coefficient_lt x
  have hhalf : (0 : Int) < 2 ^ (-1 - x.exponent).toNat := by positivity
  exact ⟨_, x.exponent, by omega, x.min_exponent_le, value_add_half hneg⟩

/-- If the sum needs one digit more, it lies less than a half above a power of two. -/
theorem floor_of_carry (hneg : x.exponent < 0) (hplace : -53 ≤ x.exponent)
    (hsum : 2 ^ 53 < x.coefficient + 2 ^ (-1 - x.exponent).toNat)
    (h : Rounds (x.value + 1 / 2) y) : ⌊y.value⌋ = ⌊x.value + 1 / 2⌋ := by
  have hcoefficient := (coefficient_lt x).1
  have hbelow : x.exponent ≠ -1 := by
    intro hexponent
    rw [hexponent] at hsum
    norm_num at hsum
    omega
  obtain ⟨digits, hdigits⟩ : ∃ digits : Nat, x.exponent = digits - 53 :=
    ⟨(53 + x.exponent).toNat, by omega⟩
  have hpower : (2 : ℚ) ^ (53 : Int) * (2 : ℚ) ^ x.exponent = ((2 ^ digits : Int) : ℚ) := by
    rw [← zpow_add₀ (by norm_num), hdigits, add_sub_cancel, zpow_natCast]
    push_cast
    rfl
  have hpos : (0 : ℚ) < (2 : ℚ) ^ x.exponent := by positivity
  have hlt : x.value < ((2 ^ digits : Int) : ℚ) := by
    rw [← hpower, x.value_eq]
    gcongr
    exact_mod_cast hcoefficient
  have hgt : ((2 ^ digits : Int) : ℚ) < x.value + 1 / 2 := by
    rw [← hpower, value_add_half hneg]
    gcongr
    exact_mod_cast hsum
  have hwhole : Representable ((2 ^ digits : Int) : ℚ) :=
    ⟨1, digits, by decide, by omega, by simp⟩
  have hhalf : Representable (((2 ^ digits : Int) : ℚ) + 1 / 2) := by
    refine ⟨2 ^ (digits + 1) + 1, -1, ?_, by decide, ?_⟩
    · have hpow : (2 : Int) ^ (digits + 1) ≤ 2 ^ 52 :=
        pow_le_pow_right₀ (by decide) (by omega)
      have hpos : (0 : Int) < 2 ^ (digits + 1) := by positivity
      omega
    · push_cast
      rw [pow_succ]
      norm_num
      ring
  have hge := h.le_value hwhole hgt.le
  have hle := h.value_le hhalf (by linarith)
  have hfloor (q : ℚ) (hq : ((2 ^ digits : Int) : ℚ) ≤ q)
      (hq' : q ≤ ((2 ^ digits : Int) : ℚ) + 1 / 2) : ⌊q⌋ = 2 ^ digits :=
    Int.floor_eq_iff.mpr ⟨hq, by linarith⟩
  rw [hfloor _ hge hle, hfloor _ hgt.le (by linarith)]

/-! ## Below one half -/

/-- Up to a place there is room for 53 digits only. -/
theorem value_le_of_exponent_le {place : Int} (h : x.exponent ≤ place) :
    x.value ≤ (2 ^ 53 - 1) * (2 : ℚ) ^ place := by
  have hcoefficient : (x.coefficient : ℚ) ≤ 2 ^ 53 - 1 := by
    have hint : x.coefficient ≤ 2 ^ 53 - 1 := by
      have hlt := (coefficient_lt x).1
      omega
    exact_mod_cast hint
  have hpow : (2 : ℚ) ^ x.exponent ≤ (2 : ℚ) ^ place := zpow_le_zpow_right₀ (by norm_num) h
  calc x.value = x.coefficient * (2 : ℚ) ^ x.exponent := x.value_eq
    _ ≤ (2 ^ 53 - 1) * (2 : ℚ) ^ x.exponent := by gcongr
    _ ≤ (2 ^ 53 - 1) * (2 : ℚ) ^ place := by gcongr

theorem eq_belowHalf (hcoefficient : x.coefficient = 2 ^ 53 - 1) (hexponent : x.exponent = -54) :
    x = belowHalf := by
  obtain ⟨negative, mantissa, exponent, canonical⟩ := x
  dsimp only [Finite.coefficient] at hcoefficient hexponent
  cases negative with
  | false =>
    rw [if_neg Bool.false_ne_true] at hcoefficient
    obtain rfl : mantissa = 2 ^ 53 - 1 := by omega
    subst hexponent
    rfl
  | true =>
    rw [if_pos rfl] at hcoefficient
    omega

/-- Of two neighbouring multiples of the place behind one half, no number but one lies between. -/
theorem value_le_of_ne (h : x.value < 1 / 2) (hne : x ≠ belowHalf) :
    x.value ≤ 1 / 2 - 1 / 2 ^ 53 := by
  rcases (by omega : x.exponent ≤ -55 ∨ x.exponent = -54 ∨ -53 ≤ x.exponent)
    with hsmall | hlast | hplace
  · refine (value_le_of_exponent_le hsmall).trans ?_
    norm_num
  · have hcoefficient : x.coefficient ≤ 2 ^ 53 - 2 := by
      have hlt := (coefficient_lt x).1
      have hother : x.coefficient ≠ 2 ^ 53 - 1 := fun heq => hne (eq_belowHalf heq hlast)
      omega
    have hcast : (x.coefficient : ℚ) ≤ 2 ^ 53 - 2 := by exact_mod_cast hcoefficient
    rw [x.value_eq, hlast]
    norm_num at hcast ⊢
    linarith
  · obtain ⟨digits, hdigits⟩ : ∃ digits : Nat, x.exponent = digits - 53 :=
      ⟨(53 + x.exponent).toNat, by omega⟩
    have hvalue : x.value = ((x.coefficient * 2 ^ digits : Int) : ℚ) * (2 : ℚ) ^ (-53 : Int) := by
      rw [x.value_eq, hdigits, sub_eq_add_neg, zpow_add₀ (by norm_num), zpow_natCast]
      push_cast
      ring
    have hlt : ((x.coefficient * 2 ^ digits : Int) : ℚ) < ((2 ^ 52 : Int) : ℚ) := by
      rw [hvalue] at h
      norm_num at h ⊢
      linarith
    have hle : ((x.coefficient * 2 ^ digits : Int) : ℚ) ≤ ((2 ^ 52 - 1 : Int) : ℚ) := by
      have hint := Int.cast_lt.mp hlt
      exact Int.cast_le.mpr (by omega)
    rw [hvalue]
    norm_num at hle ⊢
    linarith

theorem value_eq_belowHalf_iff : x.value = belowHalf.value ↔ x = belowHalf := by
  refine ⟨fun heq => ?_, congrArg Finite.value⟩
  by_contra hne
  rw [value_belowHalf] at heq
  have hle := value_le_of_ne (by rw [heq]; norm_num) hne
  rw [heq] at hle
  norm_num at hle

/-- What is above the greatest number below one half is not below one half. -/
theorem half_le_value (h : belowHalf.value < x.value) : 1 / 2 ≤ x.value := by
  by_contra hlt
  have hne : x ≠ belowHalf := fun heq => h.ne' (congrArg Finite.value heq)
  have hle := value_le_of_ne (not_le.mp hlt) hne
  rw [value_belowHalf] at h
  norm_num at h hle
  linarith

/-- A half is added exactly enough for the integer part, but to the greatest number below one
half. -/
theorem floor_addHalf (hx : x.isIntegral = false) (hne : x ≠ belowHalf)
    (h : addHalf x = .finite y) : y.floor = ⌊x.value + 1 / 2⌋ := by
  have hneg := Finite.exponent_neg hx
  have hrounds := rounds_addHalf h
  rw [Finite.floor_eq]
  rcases le_or_gt (x.coefficient + 2 ^ (-1 - x.exponent).toNat) (2 ^ 53) with hsum | hsum
  · rw [hrounds.value_eq (representable_add_half hneg hsum)]
  rcases le_or_gt (-53) x.exponent with hplace | hplace
  · exact floor_of_carry hneg hplace hsum hrounds
  · have hpos : 0 < x.value + 1 / 2 := by
      rw [value_add_half hneg]
      have hcoefficient : 0 < x.coefficient + 2 ^ (-1 - x.exponent).toNat := by omega
      have hcast := Int.cast_pos (R := ℚ).mpr hcoefficient
      positivity
    have hsmall : x.value < 1 / 2 := by
      refine (value_le_of_exponent_le (by omega : x.exponent ≤ -54)).trans_lt ?_
      norm_num
    have hbelow := value_le_of_ne hsmall hne
    have hzero : Representable 0 := representable_intCast (n := 0) (by decide)
    have hone : Representable (1 - 1 / 2 ^ 53) :=
      ⟨2 ^ 53 - 1, -53, by decide, by decide, by norm_num⟩
    have hge := hrounds.le_value hzero hpos.le
    have hle := hrounds.value_le hone (by linarith)
    norm_num at hbelow hle
    rw [Int.floor_eq_zero_iff.mpr ⟨hge, by linarith⟩,
      Int.floor_eq_zero_iff.mpr ⟨hpos.le, by linarith⟩]

end Binary64

/-! ## Numbers of both kinds -/

open Binary64 (belowHalf)

namespace Number

/-- The exact value of a number. What is not finite has none, and stands at zero. -/
def value : Number → ℚ
  | .int value => value
  | .float (.finite x) => x.value
  | .float _ => 0

variable {number : Number}

/-- An integer is not the greatest number below one half. -/
theorem intCast_ne_belowHalf (n : Int) : (n : ℚ) ≠ belowHalf.value := by
  intro heq
  have hpos : (0 : ℚ) < n := by
    rw [heq, Binary64.value_belowHalf]
    norm_num
  have hlt : (n : ℚ) < 1 := by
    rw [heq, Binary64.value_belowHalf]
    norm_num
  have hint : 0 < n ∧ n < 1 := ⟨by exact_mod_cast hpos, by exact_mod_cast hlt⟩
  omega

/-- The integer that a number is rounded to: the greatest number below one half goes up, and all the
others to the nearest integer, halves going up. -/
theorem roundHalfUp?_eq (h : (Datum.number number).IsBound) : number.roundHalfUp? =
    some (if number.value = belowHalf.value then 1 else ⌊number.value + 1 / 2⌋) := by
  match number with
  | .int n =>
    have hfloor : ⌊(n : ℚ) + 1 / 2⌋ = n :=
      Int.floor_eq_iff.mpr ⟨by linarith, by linarith⟩
    rw [roundHalfUp?, value, if_neg (intCast_ne_belowHalf n), hfloor]
  | .float (.finite x) =>
    rw [value]
    split_ifs with hbelow
    · rw [Binary64.value_eq_belowHalf_iff.mp hbelow, roundHalfUp?, Binary64.addHalf_belowHalf]
      rfl
    · obtain ⟨y, hy⟩ := Binary64.exists_addHalf h
      have hne : x ≠ belowHalf := fun heq => hbelow (congrArg Binary64.Finite.value heq)
      rw [roundHalfUp?, hy, floor?, Binary64.floor_addHalf h hne hy]
  | .float (.infinite _) | .float .nan => cases h

end Number

namespace Keyword

variable {value : Datum} {number : Number}

theorem isBound_of_toNumber (h : toNumber value = .ok number) : (Datum.number number).IsBound := by
  rcases toNumber_spec value with ⟨taken, hfinite, htaken⟩ | ⟨cause, hcause | hcause⟩
  · rw [htaken] at h
    cases h
    exact isBound_normal hfinite
  · rw [hcause] at h
    cases h
  · rw [hcause] at h
    cases h

/-- Every number that can be taken is rounded to an integer. It is the nearest one, halves going up,
just if the number is not the greatest binary64 number below one half. -/
theorem roundHalfUp_exact_iff (h : toNumber value = .ok number) :
    ∃ rounded : Int, roundHalfUp (.number number) = .ok (.int rounded) ∧
      (rounded = ⌊number.value + 1 / 2⌋ ↔ number.value ≠ 1 / 2 - 1 / 2 ^ 54) ∧
      ((rounded : ℚ) - 1 / 2 ≤ number.value ∧ number.value < rounded + 1 / 2 ↔
        number.value ≠ 1 / 2 - 1 / 2 ^ 54) := by
  have hrounded := Number.roundHalfUp?_eq (isBound_of_toNumber h)
  have hnearest (n : Int) : n = ⌊number.value + 1 / 2⌋ ↔
      (n : ℚ) - 1 / 2 ≤ number.value ∧ number.value < n + 1 / 2 := by
    rw [eq_comm, Int.floor_eq_iff]
    constructor
    · rintro ⟨hle, hlt⟩
      exact ⟨by linarith, by linarith⟩
    · rintro ⟨hle, hlt⟩
      exact ⟨by linarith, by linarith⟩
  refine ⟨_, by rw [roundHalfUp, hrounded], ?_⟩
  rw [← hnearest, and_self, ← Binary64.value_belowHalf]
  split_ifs with hbelow
  · refine iff_of_false (fun heq => ?_) (not_not.mpr hbelow)
    have hfloor := ((hnearest 1).mp heq).1
    rw [hbelow, Binary64.value_belowHalf] at hfloor
    norm_num at hfloor
  · exact iff_of_true rfl hbelow

/-- The sum with a half has one digit more than the number, and still it is the right one. -/
theorem roundHalfUp_exact_of_carry :
    let number := Number.float (.finite ⟨false, 2 ^ 53 - 1, -1, by decide⟩)
    toNumber (.number number) = .ok number ∧
      roundHalfUp (.number number) = .ok (.int 4503599627370496) := by
  intro number
  have htaken : toNumber (.number number) = .ok number := rfl
  have hvalue : number.value = 9007199254740991 / 2 := by
    rw [Number.value, Binary64.Finite.value_eq]
    norm_num [Binary64.Finite.coefficient]
  obtain ⟨rounded, hrounded, hexact, -⟩ := roundHalfUp_exact_iff htaken
  have hfloor := hexact.mpr (by rw [hvalue]; norm_num)
  rw [hvalue] at hfloor
  norm_num at hfloor
  exact ⟨htaken, hfloor ▸ hrounded⟩

/-- The greatest binary64 number below one half is rounded to one, and not to zero. -/
theorem roundHalfUp_belowHalf :
    ¬∀ (value : Datum) (number : Number), toNumber value = .ok number →
      roundHalfUp (.number number) = .ok (.int ⌊number.value + 1 / 2⌋) := by
  intro h
  have hnearest := h (.number (.float (.finite belowHalf))) (.float (.finite belowHalf)) rfl
  have hrounded : roundHalfUp (.number (.float (.finite belowHalf))) = .ok (.int 1) := by
    rw [roundHalfUp, Number.roundHalfUp?, Binary64.addHalf_belowHalf]
    rfl
  have hfloor : ⌊Number.value (.float (.finite belowHalf)) + 1 / 2⌋ = 0 := by
    rw [Number.value, Binary64.value_belowHalf]
    norm_num
  rw [hrounded, hfloor] at hnearest
  cases hnearest

end Keyword

end SchemaBridge
