import Mathlib
import SchemaBridge.Number.Binary64

/-!
# Rounding to the nearest binary64 number

A ratio is rounded to a multiple of its last place, the power of two that leaves 53 digits before
it. Every number that has room in 53 digits is a multiple of that place, or it is smaller than the
ratio's leading digit. So no such number is nearer to the ratio than the one it is rounded to, and
rounding never gets past one of them.

* `binaryOrder_bounds`: the binary order of a ratio.
* `roundedMantissa_nearest`, `even_roundedMantissa`: the nearest multiple of the last place.
* `exists_ofMagnitude`: a ratio that is at most a finite number is rounded to a finite one.
* `ofMagnitude_eq_infinite`: a ratio with too large an order is rounded to an infinity.
* `rounds_ofRatio`: a ratio is rounded to the nearest number, of two to the one that is even.
* `Rounds.le_value`, `Rounds.value_le`: a rounded ratio stays on its side of representable numbers.
* `Rounds.value_eq`: a representable number is rounded to itself.
-/

namespace SchemaBridge.Binary64

/-! ## Shifts -/

/-- A shift on either side of a comparison is a power of two. -/
theorem shift_le_shift_iff (num den : Nat) (order : Int) :
    den <<< order.toNat ≤ num <<< (-order).toNat ↔ (2 : ℚ) ^ order * den ≤ num := by
  simp only [Nat.shiftLeft_eq]
  obtain ⟨shift, rfl | rfl⟩ := order.eq_nat_or_neg
  · simp only [Int.toNat_natCast, Int.toNat_neg_natCast, pow_zero, mul_one, zpow_natCast]
    rw [mul_comm, ← Nat.cast_le (α := ℚ)]
    push_cast
    rfl
  · simp only [neg_neg, Int.toNat_natCast, Int.toNat_neg_natCast, pow_zero, mul_one, zpow_neg,
      zpow_natCast]
    rw [inv_mul_le_iff₀ (by positivity), mul_comm, ← Nat.cast_le (α := ℚ)]
    push_cast
    rfl

theorem shift_lt_shift_iff (num den : Nat) (order : Int) :
    num <<< (-order).toNat < den <<< order.toNat ↔ (num : ℚ) < (2 : ℚ) ^ order * den := by
  rw [← not_le, shift_le_shift_iff, not_le]

/-- Shifts of the two sides of a ratio divide it by a power of two. -/
theorem shift_div_shift (num den : Nat) (order : Int) :
    ((num <<< (-order).toNat : Nat) : ℚ) / (den <<< order.toNat : Nat)
      = num / den / (2 : ℚ) ^ order := by
  rw [Nat.shiftLeft_eq, Nat.shiftLeft_eq]
  obtain ⟨shift, rfl | rfl⟩ := order.eq_nat_or_neg
  · simp [div_div]
  · simp [mul_div_right_comm]

/-! ## The binary order -/

section

variable {num den : Nat}

theorem log2_bounds {n : Nat} (h : 0 < n) :
    (2 : ℚ) ^ (n.log2 : Int) ≤ n ∧ (n : ℚ) < (2 : ℚ) ^ ((n.log2 : Int) + 1) := by
  have hle : 2 ^ n.log2 ≤ n := Nat.log2_self_le h.ne'
  have hlt : n < 2 ^ (n.log2 + 1) := Nat.lt_log2_self
  constructor
  · rw [zpow_natCast]
    exact_mod_cast hle
  · rw [← Nat.cast_succ, zpow_natCast]
    exact_mod_cast hlt

/-- The binary order of a ratio is the exponent of the power of two at or below it. -/
theorem binaryOrder_bounds (hnum : 0 < num) (hden : 0 < den) :
    (2 : ℚ) ^ binaryOrder num den * den ≤ num
      ∧ (num : ℚ) < (2 : ℚ) ^ (binaryOrder num den + 1) * den := by
  obtain ⟨hnum_ge, hnum_lt⟩ := log2_bounds hnum
  obtain ⟨hden_ge, hden_lt⟩ := log2_bounds hden
  have hden_pos : (0 : ℚ) < den := by exact_mod_cast hden
  have htwo : (2 : ℚ) ≠ 0 := by norm_num
  have hbelow : (2 : ℚ) ^ ((num.log2 : Int) - den.log2 - 1) * den ≤ num := by
    calc (2 : ℚ) ^ ((num.log2 : Int) - den.log2 - 1) * den
        ≤ (2 : ℚ) ^ ((num.log2 : Int) - den.log2 - 1) * (2 : ℚ) ^ ((den.log2 : Int) + 1) := by
          gcongr
      _ = (2 : ℚ) ^ (num.log2 : Int) := by
          rw [← zpow_add₀ htwo]
          congr 1
          omega
      _ ≤ num := hnum_ge
  have habove : (num : ℚ) < (2 : ℚ) ^ ((num.log2 : Int) - den.log2 + 1) * den := by
    calc (num : ℚ) < (2 : ℚ) ^ ((num.log2 : Int) + 1) := hnum_lt
      _ = (2 : ℚ) ^ ((num.log2 : Int) - den.log2 + 1) * (2 : ℚ) ^ (den.log2 : Int) := by
          rw [← zpow_add₀ htwo]
          congr 1
          omega
      _ ≤ (2 : ℚ) ^ ((num.log2 : Int) - den.log2 + 1) * den := by gcongr
  unfold binaryOrder
  dsimp only
  split_ifs with hlt
  · rw [shift_lt_shift_iff] at hlt
    rw [Int.sub_add_cancel]
    exact ⟨hbelow, hlt⟩
  · rw [shift_lt_shift_iff, not_lt] at hlt
    exact ⟨hlt, habove⟩

theorem binaryOrder_lt (hnum : 0 < num) (hden : 0 < den) {order : Int}
    (h : (num : ℚ) < (2 : ℚ) ^ order * den) : binaryOrder num den < order := by
  have hden_pos : (0 : ℚ) < den := by exact_mod_cast hden
  have hpow := lt_of_mul_lt_mul_right ((binaryOrder_bounds hnum hden).1.trans_lt h) hden_pos.le
  exact (zpow_lt_zpow_iff_right₀ (by norm_num)).mp hpow

theorem le_binaryOrder (hnum : 0 < num) (hden : 0 < den) {order : Int}
    (h : (2 : ℚ) ^ order * den ≤ num) : order ≤ binaryOrder num den := by
  have hden_pos : (0 : ℚ) < den := by exact_mod_cast hden
  have hpow := lt_of_mul_lt_mul_right (h.trans_lt (binaryOrder_bounds hnum hden).2) hden_pos.le
  exact Int.lt_add_one_iff.mp ((zpow_lt_zpow_iff_right₀ (by norm_num)).mp hpow)

/-! ## The nearest natural number -/

/-- The nearest natural number is at most a half away, and even if it is just a half away. -/
theorem nearestEven_spec (num : Nat) {den : Nat} (hden : 0 < den) :
    |(num / den : ℚ) - nearestEven num den| ≤ 1 / 2 ∧
      (|(num / den : ℚ) - nearestEven num den| = 1 / 2 → Even (nearestEven num den)) := by
  have hpos : (0 : ℚ) < den := by exact_mod_cast hden
  have hmod := Nat.mod_lt num hden
  have hratio : (num / den : ℚ) = (num / den : Nat) + (num % den : Nat) / den := by
    have hdivision : (num : ℚ) = den * (num / den : Nat) + (num % den : Nat) := by
      exact_mod_cast (Nat.div_add_mod num den).symm
    rw [hdivision, add_div, mul_div_cancel_left₀ _ hpos.ne']
  rw [hratio]
  unfold nearestEven
  generalize num / den = quotient
  generalize num % den = rest at hmod
  dsimp only
  rcases lt_trichotomy (2 * rest) den with hless | hhalf | hmore
  · have hrest : (rest / den : ℚ) < 1 / 2 := by
      rw [div_lt_div_iff₀ hpos two_pos]
      exact_mod_cast (by omega : rest * 2 < 1 * den)
    have hnonneg : (0 : ℚ) ≤ rest / den := by positivity
    rw [if_pos (by simp [hless]), add_sub_cancel_left, abs_of_nonneg hnonneg]
    exact ⟨hrest.le, fun heq => absurd heq hrest.ne⟩
  · have hrest : (rest / den : ℚ) = 1 / 2 := by
      rw [div_eq_div_iff hpos.ne' two_ne_zero]
      exact_mod_cast (by omega : rest * 2 = 1 * den)
    rw [hrest]
    by_cases heven : quotient % 2 = 0
    · rw [if_pos (by simp [hhalf, heven]), add_sub_cancel_left]
      exact ⟨by norm_num, fun _ => Nat.even_iff.mpr heven⟩
    · rw [if_neg (by simp [hhalf, heven])]
      push_cast
      rw [add_sub_add_left_eq_sub]
      exact ⟨by norm_num, fun _ => Nat.even_iff.mpr (by omega)⟩
  · have hrest : 1 / 2 < (rest / den : ℚ) := by
      rw [div_lt_div_iff₀ two_pos hpos]
      exact_mod_cast (by omega : 1 * den < rest * 2)
    have hlt : (rest / den : ℚ) < 1 := by
      rw [div_lt_one hpos]
      exact_mod_cast hmod
    rw [if_neg (by simp only [Bool.or_eq_true, decide_eq_true_eq, Bool.and_eq_true, beq_iff_eq]
                   omega)]
    push_cast
    rw [add_sub_add_left_eq_sub, abs_of_nonpos (by linarith)]
    exact ⟨by linarith, fun heq => by linarith⟩

/-! ## Distances -/

theorem one_le_distances {q : ℚ} {n k : Int} (h : k ≠ n) : 1 ≤ |q - n| + |q - k| := by
  have hapart : (1 : ℚ) ≤ |(n : ℚ) - k| := by
    exact_mod_cast Int.one_le_abs (sub_ne_zero.mpr h.symm)
  calc (1 : ℚ) ≤ |(n : ℚ) - k| := hapart
    _ ≤ |(n : ℚ) - q| + |q - k| := abs_sub_le _ _ _
    _ = |q - n| + |q - k| := by rw [abs_sub_comm]

/-- What is nearer to a number from above than `r` is not below `r`. -/
theorem le_of_nearest {q v r : ℚ} (h : |q - v| ≤ |q - r|) (hle : r ≤ q) : r ≤ v := by
  by_contra hlt
  rw [abs_of_nonneg (by linarith : 0 ≤ q - v), abs_of_nonneg (by linarith : 0 ≤ q - r)] at h
  linarith

theorem ge_of_nearest {q v r : ℚ} (h : |q - v| ≤ |q - r|) (hle : q ≤ r) : v ≤ r := by
  by_contra hlt
  rw [abs_of_nonpos (by linarith : q - v ≤ 0), abs_of_nonpos (by linarith : q - r ≤ 0)] at h
  linarith

/-! ## The last place -/

/-- The exponent of the last place to which a ratio is rounded. -/
def lastPlace (num den : Nat) : Int := max (-1074) (binaryOrder num den - 52)

/-- A ratio as a natural number of its last places, rounded. -/
def roundedMantissa (num den : Nat) : Nat :=
  nearestEven (num <<< (-lastPlace num den).toNat) (den <<< (lastPlace num den).toNat)

theorem roundedMantissa_spec (num : Nat) {den : Nat} (hden : 0 < den) :
    |(num / den / (2 : ℚ) ^ lastPlace num den) - roundedMantissa num den| ≤ 1 / 2 ∧
      (|(num / den / (2 : ℚ) ^ lastPlace num den) - roundedMantissa num den| = 1 / 2 →
        Even (roundedMantissa num den)) := by
  have hshifted : 0 < den <<< (lastPlace num den).toNat := by
    rw [Nat.shiftLeft_eq]
    positivity
  have hspec := nearestEven_spec (num <<< (-lastPlace num den).toNat) hshifted
  rwa [shift_div_shift] at hspec

/-- The distance of a ratio from a multiple of its last place. -/
theorem distance_eq (multiple : Int) :
    |(num / den : ℚ) - multiple * (2 : ℚ) ^ lastPlace num den|
      = |num / den / (2 : ℚ) ^ lastPlace num den - multiple| * (2 : ℚ) ^ lastPlace num den := by
  have hplace : (0 : ℚ) < (2 : ℚ) ^ lastPlace num den := by positivity
  rw [← abs_of_pos hplace, ← abs_mul, abs_of_pos hplace, sub_mul, div_mul_cancel₀ _ hplace.ne']

/-- No multiple of the last place is nearer to the ratio than the rounded one. -/
theorem roundedMantissa_nearest (num : Nat) {den : Nat} (hden : 0 < den) (multiple : Int) :
    |(num / den : ℚ) - (roundedMantissa num den : Int) * (2 : ℚ) ^ lastPlace num den|
      ≤ |(num / den : ℚ) - multiple * (2 : ℚ) ^ lastPlace num den| := by
  rw [distance_eq, distance_eq]
  refine mul_le_mul_of_nonneg_right ?_ (by positivity)
  have hhalf := (roundedMantissa_spec num hden).1
  rcases eq_or_ne multiple (roundedMantissa num den) with rfl | hne
  · rfl
  · have hapart := one_le_distances (q := num / den / (2 : ℚ) ^ lastPlace num den) hne
    rw [Int.cast_natCast] at hapart ⊢
    linarith

/-- If another multiple is as near, the rounded one is even. -/
theorem even_roundedMantissa (hden : 0 < den) {multiple : Int}
    (hne : multiple ≠ roundedMantissa num den)
    (heq : |(num / den : ℚ) - multiple * (2 : ℚ) ^ lastPlace num den|
      = |(num / den : ℚ) - (roundedMantissa num den : Int) * (2 : ℚ) ^ lastPlace num den|) :
    Even (roundedMantissa num den) := by
  have hplace : (0 : ℚ) < (2 : ℚ) ^ lastPlace num den := by positivity
  rw [distance_eq, distance_eq, mul_left_inj' hplace.ne', Int.cast_natCast] at heq
  have hspec := roundedMantissa_spec num hden
  have hapart := one_le_distances (q := num / den / (2 : ℚ) ^ lastPlace num den) hne
  rw [Int.cast_natCast] at hapart
  exact hspec.2 (by linarith)

theorem le_roundedMantissa (hden : 0 < den) {bound : Int}
    (h : (bound : ℚ) * (2 : ℚ) ^ lastPlace num den ≤ num / den) :
    bound ≤ roundedMantissa num den := by
  have hplace : (0 : ℚ) < (2 : ℚ) ^ lastPlace num den := by positivity
  have hle := le_of_nearest (roundedMantissa_nearest num hden bound) h
  exact_mod_cast le_of_mul_le_mul_right hle hplace

theorem roundedMantissa_le (hden : 0 < den) {bound : Int}
    (h : (num / den : ℚ) ≤ bound * (2 : ℚ) ^ lastPlace num den) :
    (roundedMantissa num den : Int) ≤ bound := by
  have hplace : (0 : ℚ) < (2 : ℚ) ^ lastPlace num den := by positivity
  have hle := ge_of_nearest (roundedMantissa_nearest num hden bound) h
  exact_mod_cast le_of_mul_le_mul_right hle hplace

/-- The mantissa has at most 53 digits, or it is the next power of two. -/
theorem roundedMantissa_le_bound (hnum : 0 < num) (hden : 0 < den) :
    roundedMantissa num den ≤ 2 ^ 53 := by
  have hle : (num / den : ℚ) ≤ ((2 ^ 53 : Int) : ℚ) * (2 : ℚ) ^ lastPlace num den := by
    have hplace : binaryOrder num den + 1 ≤ 53 + lastPlace num den := by
      rw [lastPlace]
      omega
    have hpow : (2 : ℚ) ^ (binaryOrder num den + 1) ≤ (2 : ℚ) ^ (53 + lastPlace num den) :=
      zpow_le_zpow_right₀ (by norm_num) hplace
    rw [div_le_iff₀ (by exact_mod_cast hden)]
    calc (num : ℚ) ≤ (2 : ℚ) ^ (binaryOrder num den + 1) * den :=
          (binaryOrder_bounds hnum hden).2.le
      _ ≤ (2 : ℚ) ^ (53 + lastPlace num den) * den := by gcongr
      _ = ((2 ^ 53 : Int) : ℚ) * (2 : ℚ) ^ lastPlace num den * den := by
          rw [zpow_add₀ (by norm_num)]
          norm_num
  exact_mod_cast roundedMantissa_le hden hle

/-- The last place is the least there is, or no digit of the mantissa is missing. -/
theorem lastPlace_spec (hnum : 0 < num) (hden : 0 < den) :
    lastPlace num den = -1074 ∨
      ((2 ^ 52 : Int) : ℚ) * (2 : ℚ) ^ lastPlace num den ≤ num / den := by
  have hpower : ((2 ^ 52 : Int) : ℚ) = (2 : ℚ) ^ (52 : Int) := by norm_num
  rcases max_choice (-1074) (binaryOrder num den - 52) with hmax | hmax
  · exact .inl hmax
  · refine .inr ?_
    rw [hpower, le_div_iff₀ (by exact_mod_cast hden), ← zpow_add₀ (by norm_num), lastPlace, hmax,
      add_sub_cancel]
    exact (binaryOrder_bounds hnum hden).1

/-- A mantissa of 53 digits stands as it is, and a carry out of it leaves a power of two. -/
theorem ofMagnitude_of_pos (hnum : 0 < num) (negative : Bool) :
    ofMagnitude negative num den =
      if roundedMantissa num den = 1 <<< 53 then
        if h : Canonical (1 <<< 52) (lastPlace num den + 1) then .finite ⟨negative, _, _, h⟩
        else .infinite negative
      else
        if h : Canonical (roundedMantissa num den) (lastPlace num den) then
          .finite ⟨negative, _, _, h⟩
        else .infinite negative := by
  rw [ofMagnitude, if_neg hnum.ne', roundedMantissa, lastPlace]
  dsimp only
  generalize max (-1074) (binaryOrder num den - 52) = exponent
  generalize nearestEven (num <<< (-exponent).toNat) (den <<< exponent.toNat) = mantissa
  split_ifs <;> rfl

/-- A result that is finite has the rounded mantissa at the last place, or it is the power of two
that a carry leaves. -/
theorem ofMagnitude_eq_finite (hnum : 0 < num) {negative : Bool} {x : Finite}
    (h : ofMagnitude negative num den = .finite x) :
    x.negative = negative ∧
      (x.mantissa = roundedMantissa num den ∧ x.exponent = lastPlace num den ∨
        roundedMantissa num den = 2 ^ 53 ∧ x.mantissa = 2 ^ 52 ∧
          x.exponent = lastPlace num den + 1) := by
  rw [ofMagnitude_of_pos hnum] at h
  split_ifs at h with hcarry
  · cases h
    exact ⟨rfl, .inr ⟨hcarry, rfl, rfl⟩⟩
  · cases h
    exact ⟨rfl, .inl ⟨rfl, rfl⟩⟩

theorem ofMagnitude_negative {negative : Bool} {x : Finite}
    (h : ofMagnitude negative num den = .finite x) : x.negative = negative := by
  rcases Nat.eq_zero_or_pos num with rfl | hnum
  · cases h
    rfl
  · exact (ofMagnitude_eq_finite hnum h).1

/-- A ratio that is at most a finite number is rounded to a finite number. -/
theorem exists_ofMagnitude (hden : 0 < den) {mantissa : Nat} {exponent : Int}
    (hmantissa : mantissa < 2 ^ 53) (hmin : -1074 ≤ exponent) (hmax : exponent ≤ 971)
    (h : (num / den : ℚ) ≤ mantissa * (2 : ℚ) ^ exponent) (negative : Bool) :
    ∃ x, ofMagnitude negative num den = .finite x := by
  rcases Nat.eq_zero_or_pos num with rfl | hnum
  · exact ⟨_, ofMagnitude_zero negative den⟩
  have horder : binaryOrder num den < 53 + exponent := by
    refine binaryOrder_lt hnum hden ?_
    rw [← div_lt_iff₀ (by exact_mod_cast hden), zpow_add₀ (by norm_num)]
    refine h.trans_lt ?_
    gcongr
    exact_mod_cast hmantissa
  have hplace : lastPlace num den ≤ exponent := by
    rw [lastPlace]
    omega
  have hleast : -1074 ≤ lastPlace num den := le_max_left _ _
  have hbound := roundedMantissa_le_bound hnum hden
  have hfull : 1 <<< 52 ≤ roundedMantissa num den ∨ lastPlace num den = -1074 := by
    refine (lastPlace_spec hnum hden).symm.imp_left fun hdigit => ?_
    exact_mod_cast le_roundedMantissa hden hdigit
  rw [ofMagnitude_of_pos hnum]
  split_ifs with hcarry hcanonical hcanonical
  · exact ⟨_, rfl⟩
  · -- At the greatest exponent there is no carry, since the mantissa there is too small for it.
    have hbelow : lastPlace num den < exponent := by
      refine lt_of_le_of_ne hplace fun heq => ?_
      have hle : (roundedMantissa num den : Int) ≤ mantissa :=
        roundedMantissa_le hden (by rw [heq]; exact_mod_cast h)
      rw [hcarry] at hle
      omega
    exact absurd ⟨by decide, by omega, by omega, .inl le_rfl⟩ hcanonical
  · exact ⟨_, rfl⟩
  · exact absurd ⟨by omega, hleast, by omega, hfull⟩ hcanonical

/-- A ratio whose order is past that of every finite number is rounded to an infinity. -/
theorem ofMagnitude_eq_infinite (hden : 0 < den) (h : (2 : ℚ) ^ (1024 : Int) * den ≤ num)
    (negative : Bool) : ofMagnitude negative num den = .infinite negative := by
  have hnum : 0 < num := by
    have hpos : (0 : ℚ) < (2 : ℚ) ^ (1024 : Int) * den := by positivity
    exact_mod_cast hpos.trans_le h
  have hplace : 971 < lastPlace num den := by
    have horder := le_binaryOrder hnum hden h
    rw [lastPlace]
    omega
  have hfinite {mantissa : Nat} {exponent : Int} (hexponent : 971 < exponent) :
      ¬ Canonical mantissa exponent := fun hcanonical => by
    have hmax := hcanonical.2.2.1
    omega
  rw [ofMagnitude_of_pos hnum, dif_neg (hfinite (by omega)), dif_neg (hfinite hplace), ite_self]

end

/-! ## Values -/

namespace Finite

/-- The exact value of a finite number. -/
def value (x : Finite) : ℚ := x.numerator / x.denominator

/-- The mantissa with the sign of the number. -/
def coefficient (x : Finite) : Int := if x.negative then -x.mantissa else x.mantissa

theorem natAbs_coefficient (x : Finite) : x.coefficient.natAbs = x.mantissa := by
  rw [coefficient]
  split_ifs <;> simp

theorem magnitude_div_denominator (x : Finite) :
    (x.magnitude / x.denominator : ℚ) = x.mantissa * (2 : ℚ) ^ x.exponent := by
  rw [magnitude, denominator, Nat.shiftLeft_eq, Nat.shiftLeft_eq]
  obtain ⟨shift, hshift | hshift⟩ := x.exponent.eq_nat_or_neg
  · rw [hshift]
    simp
  · rw [hshift]
    simp [div_eq_mul_inv]

theorem value_eq (x : Finite) : x.value = x.coefficient * (2 : ℚ) ^ x.exponent := by
  have hmagnitude := x.magnitude_div_denominator
  rw [value, numerator, coefficient]
  split_ifs
  · push_cast
    rw [neg_div, hmagnitude, neg_mul]
  · rw [Int.cast_natCast, hmagnitude, Int.cast_natCast]

theorem floor_eq (x : Finite) : x.floor = ⌊x.value⌋ := by
  rw [floor, value, Rat.floor_intCast_div_natCast]

/-- A finite number is as far from zero as its mantissa tells. -/
theorem abs_value (x : Finite) : |x.value| = x.mantissa * (2 : ℚ) ^ x.exponent := by
  rw [value_eq, abs_mul, abs_of_pos (by positivity : (0 : ℚ) < 2 ^ x.exponent), ← Int.cast_abs,
    Int.abs_eq_natAbs, natAbs_coefficient, Int.cast_natCast]

theorem value_eq_abs (x : Finite) : x.value = if x.negative then -|x.value| else |x.value| := by
  rw [abs_value, value_eq, coefficient]
  split_ifs
  · push_cast
    ring
  · rw [Int.cast_natCast]

end Finite

/-! ## Representable numbers -/

/-- The number has room in 53 binary digits, the last of which stands in a place that there is. Some
numbers past the largest finite one are also representable. -/
def Representable (q : ℚ) : Prop :=
  ∃ coefficient exponent : Int, coefficient.natAbs ≤ 2 ^ 53 ∧ -1074 ≤ exponent ∧
    q = coefficient * (2 : ℚ) ^ exponent

theorem Representable.neg {q : ℚ} (h : Representable q) : Representable (-q) := by
  obtain ⟨coefficient, exponent, hcoefficient, hexponent, rfl⟩ := h
  exact ⟨-coefficient, exponent, by rwa [Int.natAbs_neg], hexponent, by push_cast; ring⟩

theorem representable_value (x : Finite) : Representable x.value :=
  ⟨x.coefficient, x.exponent, x.natAbs_coefficient.trans_le x.mantissa_lt.le, x.min_exponent_le,
    x.value_eq⟩

theorem representable_intCast {n : Int} (h : n.natAbs ≤ 2 ^ 53) : Representable n :=
  ⟨n, 0, h, by decide, by simp⟩

/-- A representable number is a multiple of the last place, or it is smaller than the leading digit
that goes with the place. -/
theorem Representable.multiple_or_lt {r : ℚ} (h : Representable r) (place : Int) :
    (∃ multiple : Int, r = multiple * (2 : ℚ) ^ place) ∨
      (-1074 < place ∧ r < (2 ^ 52 : Int) * (2 : ℚ) ^ place) := by
  obtain ⟨coefficient, exponent, hcoefficient, hexponent, rfl⟩ := h
  rcases le_or_gt place exponent with hplace | hplace
  · refine .inl ⟨coefficient * 2 ^ (exponent - place).toNat, ?_⟩
    have hsplit : (2 : ℚ) ^ exponent
        = (2 : ℚ) ^ (exponent - place).toNat * (2 : ℚ) ^ place := by
      rw [← zpow_natCast, ← zpow_add₀ (by norm_num)]
      congr 1
      omega
    push_cast
    rw [hsplit, mul_assoc]
  · have hle : (coefficient : ℚ) * (2 : ℚ) ^ exponent ≤ (2 ^ 52 : Int) * (2 : ℚ) ^ place := by
      have hcast : (coefficient : ℚ) ≤ 2 ^ 53 := by
        have hint : coefficient ≤ 2 ^ 53 := by omega
        exact_mod_cast hint
      have hpow : (2 : ℚ) ^ exponent ≤ (2 : ℚ) ^ (place - 1) :=
        zpow_le_zpow_right₀ (by norm_num) (by omega)
      calc (coefficient : ℚ) * (2 : ℚ) ^ exponent
          ≤ 2 ^ 53 * (2 : ℚ) ^ (place - 1) := by gcongr
        _ = (2 ^ 52 : Int) * (2 : ℚ) ^ place := by
            rw [zpow_sub_one₀ (by norm_num)]
            push_cast
            ring
    rcases hle.eq_or_lt with heq | hlt
    · exact .inl ⟨_, heq⟩
    · exact .inr ⟨by omega, hlt⟩

/-! ## Results of rounding -/

/-- No representable number is nearer to `q` than the value of `x`, and if one is as near, the
mantissa of `x` is even. -/
structure Rounds (q : ℚ) (x : Finite) : Prop where
  nearest : ∀ r, Representable r → |q - x.value| ≤ |q - r|
  even : ∀ r, Representable r → r ≠ x.value → |q - r| = |q - x.value| → Even x.mantissa

namespace Rounds

variable {q r : ℚ} {x : Finite}

theorem le_value (h : Rounds q x) (hr : Representable r) (hle : r ≤ q) : r ≤ x.value :=
  le_of_nearest (h.nearest r hr) hle

theorem value_le (h : Rounds q x) (hr : Representable r) (hle : q ≤ r) : x.value ≤ r :=
  ge_of_nearest (h.nearest r hr) hle

theorem value_eq (h : Rounds q x) (hq : Representable q) : x.value = q :=
  le_antisymm (h.value_le hq le_rfl) (h.le_value hq le_rfl)

end Rounds

section

variable {num den : Nat} {negative : Bool} {x : Finite}

/-- A finite result is the rounded multiple of the last place, and even if that is. -/
theorem abs_value_of_ofMagnitude (hnum : 0 < num) (h : ofMagnitude negative num den = .finite x) :
    |x.value| = (roundedMantissa num den : Int) * (2 : ℚ) ^ lastPlace num den ∧
      (Even (roundedMantissa num den) → Even x.mantissa) := by
  rw [x.abs_value, Int.cast_natCast]
  rcases (ofMagnitude_eq_finite hnum h).2 with
    ⟨hmantissa, hexponent⟩ | ⟨hcarry, hmantissa, hexponent⟩
  · rw [hmantissa, hexponent]
    exact ⟨rfl, id⟩
  · rw [hmantissa, hexponent, hcarry, zpow_add_one₀ (by norm_num)]
    refine ⟨?_, fun _ => by decide⟩
    push_cast
    ring

/-- Up to the sign, a ratio is rounded to the nearest number, of two to the even one. -/
theorem nearest_ofMagnitude (hnum : 0 < num) (hden : 0 < den)
    (h : ofMagnitude negative num den = .finite x) {r : ℚ} (hr : Representable r) :
    |(num / den : ℚ) - (|x.value|)| ≤ |(num / den : ℚ) - r| ∧
      (r ≠ |x.value| → |(num / den : ℚ) - r| = |(num / den : ℚ) - (|x.value|)| →
        Even x.mantissa) := by
  obtain ⟨hvalue, heven⟩ := abs_value_of_ofMagnitude hnum h
  rw [hvalue]
  rcases hr.multiple_or_lt (lastPlace num den) with ⟨multiple, rfl⟩ | ⟨hplace, hsmall⟩
  · refine ⟨roundedMantissa_nearest num hden multiple, fun hne heq => heven ?_⟩
    exact even_roundedMantissa hden (fun hmultiple => hne (by rw [hmultiple])) heq
  · -- The leading digit lies between the other number and the ratio, and is a multiple itself.
    have hdigit := (lastPlace_spec hnum hden).resolve_left hplace.ne'
    have hleading := roundedMantissa_nearest num hden (2 ^ 52)
    have hcloser : |(num / den : ℚ) - (2 ^ 52 : Int) * (2 : ℚ) ^ lastPlace num den|
        < |(num / den : ℚ) - r| := by
      rw [abs_of_nonneg (sub_nonneg.mpr hdigit),
        abs_of_nonneg (sub_nonneg.mpr (hsmall.le.trans hdigit))]
      exact sub_lt_sub_left hsmall _
    have hlt := hleading.trans_lt hcloser
    exact ⟨hlt.le, fun _ heq => absurd heq hlt.ne'⟩

end

/-- A ratio is rounded to the nearest number, of two to the even one. -/
theorem rounds_ofRatio {num : Int} {den : Nat} (hden : 0 < den) {x : Finite}
    (h : ofRatio num den = .finite x) : Rounds (num / den) x := by
  rcases eq_or_ne num 0 with rfl | hnum
  · have hresult : ofRatio 0 den = .finite (.zero false) := rfl
    rw [hresult] at h
    cases h
    have hzero : (Finite.zero false).value = 0 := by
      rw [← abs_eq_zero, Finite.abs_value, Finite.zero, Nat.cast_zero, zero_mul]
    refine ⟨fun r _ => ?_, fun _ _ _ _ => Even.zero⟩
    rw [hzero, Int.cast_zero, zero_div, sub_zero, abs_zero]
    exact abs_nonneg _
  have hmagnitude {r : ℚ} (hr : Representable r) :=
    nearest_ofMagnitude (Int.natAbs_pos.mpr hnum) hden h hr
  have hsign := x.value_eq_abs
  rw [ofMagnitude_negative h] at hsign
  rcases lt_or_gt_of_ne hnum with hneg | hpos
  · have hratio : (num : ℚ) / den = -(num.natAbs / den) := by
      rw [← neg_div, Nat.cast_natAbs, abs_of_neg hneg, Int.cast_neg, neg_neg]
    rw [if_pos (by simpa using hneg)] at hsign
    have hdistance (r : ℚ) : |(num / den : ℚ) - r| = |(num.natAbs / den : ℚ) - -r| := by
      rw [hratio, ← abs_neg, neg_sub, sub_neg_eq_add, sub_neg_eq_add, add_comm]
    refine ⟨fun r hr => ?_, fun r hr hne heq => (hmagnitude hr.neg).2 (fun hvalue => hne ?_) ?_⟩
    · rw [hdistance, hdistance, hsign, neg_neg]
      exact (hmagnitude hr.neg).1
    · rw [hsign, ← hvalue, neg_neg]
    · rw [hdistance, hdistance, hsign, neg_neg] at heq
      exact heq
  · have hratio : (num : ℚ) / den = num.natAbs / den := by
      rw [Nat.cast_natAbs, abs_of_pos hpos]
    rw [if_neg (by simpa using hpos.le)] at hsign
    rw [hratio]
    refine ⟨fun r hr => ?_, fun r hr hne heq => (hmagnitude hr).2 (hsign ▸ hne) (hsign ▸ heq)⟩
    rw [hsign]
    exact (hmagnitude hr).1

end SchemaBridge.Binary64
