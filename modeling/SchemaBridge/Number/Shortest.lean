import SchemaBridge.Number.Binary64

/-!
# Fewest digits that read back

`shortest x` gives decimal digits `d` and a point position `p` such that `0.d * 10 ^ p` rounds to
the positive number `x`. It tries one digit, then two, up to seventeen, and on each grid looks only
at the two neighbours of the exact value; of two that read back it takes the nearer one.

* `ofDecimal_of_onGrid?`: the digits that are found on a grid read back.
-/

namespace SchemaBridge.Binary64

/-- `10 ^ exponent`; a negative exponent counts as zero. -/
def tenTo (exponent : Int) : Nat := Nat.pow 10 exponent.toNat

/-- `digits * 10 ^ exponent` as a binary64 number. -/
def ofDecimal (negative : Bool) (digits : Nat) (exponent : Int) : Binary64 :=
  ofMagnitude negative (digits * tenTo exponent) (tenTo (-exponent))

/-- The number of decimal digits of `n`; zero has one. -/
def decimalWidth (n : Nat) : Nat := (Nat.toDigits 10 n).length

/-- The `k` with `10 ^ (k - 1) ≤ num / den < 10 ^ k`, for positive `num` and `den`. -/
def decimalOrder (num den : Nat) : Int :=
  let order : Int := (decimalWidth num : Int) - decimalWidth den
  if num * tenTo (-order) < den * tenTo order then order else order + 1

/-- A decimal reads back as `x` when it rounds to `x`. -/
def readsBack (x : Finite) (digits : Nat) (exponent : Int) : Bool :=
  ofDecimal x.negative digits exponent == .finite x

/-- The neighbours of `|x|` among the multiples of `10 ^ exponent`, the nearer one first and the
even one of two equally near. -/
def neighbours (x : Finite) (exponent : Int) : List Nat :=
  let num := x.magnitude * tenTo (-exponent)
  let den := x.denominator * tenTo exponent
  let below := num / den
  let rest := 2 * (num % den)
  if rest < den || (rest == den && below % 2 == 0) then [below, below + 1] else [below + 1, below]

/-- A neighbour on the grid of `width` digits that reads back. -/
def onGrid? (x : Finite) (order : Int) (width : Nat) : Option Nat :=
  (neighbours x (order - width)).find? (readsBack x · (order - width))

theorem ofDecimal_of_onGrid? {x : Finite} {order : Int} {width digits : Nat}
    (h : onGrid? x order width = some digits) :
    ofDecimal x.negative digits (order - width) = .finite x := by
  have hreads := List.find?_some (p := (readsBack x · (order - width))) h
  exact eq_of_beq hreads

/-- The shortest digits of a number other than zero, without the trailing zeros, and the place of
the point before the first of them. -/
def shortest (x : Finite) : List Char × Int :=
  let order := decimalOrder x.magnitude x.denominator
  let isEnough (width : Nat) := 0 < width && (onGrid? x order width).isSome
  let width := ((List.range 18).find? isEnough).getD 17
  let digits := Nat.toDigits 10 ((onGrid? x order width).getD 0)
  ((digits.reverse.dropWhile (· == '0')).reverse, order + (digits.length - width : Int))

end SchemaBridge.Binary64
