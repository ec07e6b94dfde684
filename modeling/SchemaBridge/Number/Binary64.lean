/-!
# Binary64 numbers, exactly

A finite `Binary64` is a sign, a mantissa and an exponent in canonical form, so equal numbers of
one sign have one representation. `ofMagnitude` is the only rounding in the library: it takes an
exact ratio to the nearest number, a tie going to the even mantissa, and a ratio past the largest
number to infinity. Everything else is exact arithmetic on integers.

* `Finite.mantissa_lt`, `Finite.min_exponent_le`: the bounds that canonical form gives.
* `ofMagnitude_zero`: nothing rounds to zero with its sign kept.
-/

namespace SchemaBridge

namespace Binary64

/-- The representations of finite numbers in use: 53 bits of mantissa, all of them significant
unless the exponent is the least one. -/
def Canonical (mantissa : Nat) (exponent : Int) : Prop :=
  mantissa < 1 <<< 53 ∧ -1074 ≤ exponent ∧ exponent ≤ 971 ∧
    (1 <<< 52 ≤ mantissa ∨ exponent = -1074)

instance (mantissa : Nat) (exponent : Int) : Decidable (Canonical mantissa exponent) :=
  inferInstanceAs (Decidable (_ ∧ _))

/-- The number `± mantissa * 2 ^ exponent`. Zero has both signs. -/
structure Finite where
  negative : Bool
  mantissa : Nat
  exponent : Int
  canonical : Canonical mantissa exponent
deriving DecidableEq

namespace Finite

theorem mantissa_lt (x : Finite) : x.mantissa < 1 <<< 53 := x.canonical.1

theorem min_exponent_le (x : Finite) : -1074 ≤ x.exponent := x.canonical.2.1

/-- Zero of the given sign. -/
def zero (negative : Bool) : Finite := ⟨negative, 0, -1074, by decide⟩

/-- The absolute value of the numerator of the exact value. -/
def magnitude (x : Finite) : Nat := x.mantissa <<< x.exponent.toNat

/-- The number is `numerator / denominator`. -/
def numerator (x : Finite) : Int := if x.negative then -(x.magnitude : Int) else x.magnitude

/-- The denominator of the exact value, a power of two. -/
def denominator (x : Finite) : Nat := 1 <<< (-x.exponent).toNat

theorem denominator_pos (x : Finite) : 0 < x.denominator := by
  rw [denominator, Nat.shiftLeft_eq, Nat.one_mul]
  exact Nat.two_pow_pos _

/-- The largest integer that is not above the number. -/
def floor (x : Finite) : Int := x.numerator / x.denominator

/-- The number is an integer. -/
def isIntegral (x : Finite) : Bool := x.numerator % x.denominator == 0

theorem floor_mul_denominator {x : Finite} (h : x.isIntegral = true) :
    x.floor * x.denominator = x.numerator :=
  Int.ediv_mul_cancel (Int.dvd_of_emod_eq_zero (by simpa [isIntegral] using h))

end Finite

end Binary64

/-- A binary64 number: a finite one, an infinity, or not a number. -/
inductive Binary64 where
  | finite (x : Binary64.Finite)
  | infinite (negative : Bool)
  | nan
deriving DecidableEq

namespace Binary64

/-! ## Rounding -/

/-- The natural number nearest to `num / den`, the even one of two. -/
def nearestEven (num den : Nat) : Nat :=
  let quotient := num / den
  let rest := 2 * (num % den)
  if rest < den || (rest == den && quotient % 2 == 0) then quotient else quotient + 1

/-- The exponent `e` with `2 ^ e ≤ num / den < 2 ^ (e + 1)`, for positive `num` and `den`. -/
def binaryOrder (num den : Nat) : Int :=
  let order : Int := (num.log2 : Int) - den.log2
  if num <<< (-order).toNat < den <<< order.toNat then order - 1 else order

/-- The binary64 number nearest to `num / den`, with the given sign; `den` is positive. -/
def ofMagnitude (negative : Bool) (num den : Nat) : Binary64 :=
  if num = 0 then .finite (.zero negative)
  else
    let exponent := max (-1074) (binaryOrder num den - 52)
    let mantissa := nearestEven (num <<< (-exponent).toNat) (den <<< exponent.toNat)
    let (mantissa, exponent) :=
      if mantissa = 1 <<< 53 then (1 <<< 52, exponent + 1) else (mantissa, exponent)
    if h : Canonical mantissa exponent then .finite ⟨negative, mantissa, exponent, h⟩
    else .infinite negative

/-- The binary64 number nearest to `num / den`; `den` is positive. -/
def ofRatio (num : Int) (den : Nat) : Binary64 :=
  ofMagnitude (num < 0) num.natAbs den

/-- The rounded sum of a number and one half. -/
def addHalf (x : Finite) : Binary64 :=
  ofRatio (2 * x.numerator + x.denominator) (2 * x.denominator)

theorem ofMagnitude_zero (negative : Bool) (den : Nat) :
    ofMagnitude negative 0 den = .finite (.zero negative) := rfl

/-- A half added to a half just below loses the last bit: the sum rounds up to one. -/
example :
    addHalf ⟨false, (1 <<< 53) - 1, -54, by decide⟩
      = .finite ⟨false, 1 <<< 52, -52, by decide⟩ := by
  decide +kernel

end Binary64

end SchemaBridge
