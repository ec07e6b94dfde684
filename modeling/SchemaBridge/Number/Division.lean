import SchemaBridge.Number.Basic

/-!
# Multiples

Whether a number is a multiple of another one. By an integer the answer is exact, where the integer
counts as the binary64 number next to it if the other number is one. By a binary64 number the answer
is that of the rounded quotient, unless that is beyond all binary64 numbers.

* `isMultiple_int`: on integers it is divisibility.
-/

namespace SchemaBridge.Number

/-- Why a division has no result. -/
inductive DivisionFlaw where
  | byZero
  /-- An integer beyond all binary64 numbers. -/
  | tooLarge
  /-- An infinity, which has no exact value. -/
  | infinite
  /-- A quotient that is not a number. -/
  | undefined
deriving DecidableEq

/-- The binary64 number next to a number. -/
def toBinary64 : Number → Except DivisionFlaw Binary64
  | .float value => .ok value
  | .int value =>
    match Binary64.ofRatio value 1 with
    | .finite x => .ok (.finite x)
    | _ => .error .tooLarge

/-- The exact quotient of two finite numbers is an integer. -/
def isExactMultiple (x y : Binary64.Finite) : Bool :=
  (x.numerator * y.denominator) % (x.denominator * y.numerator) = 0

/-- A number of either kind is an exact multiple of a finite binary64 number. -/
def isExactMultipleOf (number : Number) (y : Binary64.Finite) : Except DivisionFlaw Bool :=
  match number with
  | .int value => .ok ((value * y.denominator) % y.numerator = 0)
  | .float (.finite x) => .ok (isExactMultiple x y)
  | .float _ => .error .infinite

/-- The rounded quotient of two finite numbers, the second of which is not zero. -/
def quotient (x y : Binary64.Finite) : Binary64 :=
  let num := x.numerator * y.denominator
  let den := y.numerator * x.denominator
  Binary64.ofRatio (if den < 0 then -num else num) den.natAbs

/-- The number is a multiple of a binary64 number. -/
def isMultipleOfFloat (number : Number) (divisor : Binary64) : Except DivisionFlaw Bool := do
  match ← number.toBinary64, divisor with
  | x, .finite y =>
    if y.numerator = 0 then throw .byZero
    match x with
    | .nan => throw .undefined
    | .infinite _ => throw .infinite
    | .finite x =>
      match quotient x y with
      | .finite z => return z.isIntegral
      | _ => number.isExactMultipleOf y
  | .finite _, .infinite _ => return true
  | _, _ => throw .undefined

/-- The number is a multiple of an integer. -/
def isMultipleOfInt (number : Number) (divisor : Int) : Except DivisionFlaw Bool :=
  match number with
  | .int value => if divisor = 0 then .error .byZero else .ok (value % divisor = 0)
  | .float value => do
    match ← toBinary64 (.int divisor), value with
    | .finite y, .finite x =>
      if y.numerator = 0 then throw .byZero else return isExactMultiple x y
    | .finite y, _ => if y.numerator = 0 then throw .byZero else return false
    | _, _ => return false

/-- The number is a multiple of another one. -/
def isMultiple (number : Number) : Number → Except DivisionFlaw Bool
  | .int divisor => number.isMultipleOfInt divisor
  | .float divisor => number.isMultipleOfFloat divisor

theorem isMultiple_int {number divisor : Int} (h : divisor ≠ 0) :
    isMultiple (.int number) (.int divisor) = .ok (decide (divisor ∣ number)) := by
  rw [isMultiple, isMultipleOfInt, if_neg h, decide_eq_decide.mpr Int.dvd_iff_emod_eq_zero]

end SchemaBridge.Number
