import SchemaBridge.Number.Binary64

/-!
# Numbers

A number is an integer of any size or a binary64 number. Both kinds are compared by their exact
values, so a large integer differs from the binary64 number next to it. `roundHalfUp?` gives the
integer bound that stands for a number.

* `Number.same_symm`, `Number.same_trans`: equality goes both ways and is passed on.
* `Number.same_int`, `Number.less_int`: on integers the comparisons are the usual ones.
-/

namespace SchemaBridge

/-- An integer, or a binary64 number. -/
inductive Number where
  | int (value : Int)
  | float (value : Binary64)
deriving DecidableEq

namespace Number

/-- Where a number stands on the line: at an exact ratio with positive denominator, beyond all of
them on one side, or nowhere. -/
inductive Place where
  | at (num : Int) (den : Nat)
  | beyond (negative : Bool)
  | nowhere

/-- The place of a number. -/
def place : Number → Place
  | .int value => .at value 1
  | .float (.finite x) => .at x.numerator x.denominator
  | .float (.infinite negative) => .beyond negative
  | .float .nan => .nowhere

/-- `a` is below `b`. Nothing is below or above what stands nowhere. -/
def less (a b : Number) : Bool :=
  match a.place, b.place with
  | .at num den, .at num' den' => num * den' < num' * den
  | .at _ _, .beyond negative => !negative
  | .beyond negative, .at _ _ => negative
  | .beyond negative, .beyond negative' => negative && !negative'
  | _, _ => false

/-- `a` and `b` are the same number. What stands nowhere differs from itself. -/
def same (a b : Number) : Bool :=
  match a.place, b.place with
  | .at num den, .at num' den' => num * den' == num' * den
  | .beyond negative, .beyond negative' => negative == negative'
  | _, _ => false

/-- The denominator of a place is positive. -/
theorem place_den_pos {a : Number} {num : Int} {den : Nat} (h : a.place = .at num den) :
    0 < den := by
  match a with
  | .int _ =>
    cases h
    exact Nat.one_pos
  | .float (.finite x) =>
    cases h
    exact x.denominator_pos
  | .float (.infinite _) | .float .nan => cases h

theorem same_symm {a b : Number} (h : same a b = true) : same b a = true := by
  unfold same at h ⊢
  cases ha : a.place <;> cases hb : b.place <;> simp_all

theorem same_trans {a b c : Number} (h : same a b = true) (h' : same b c = true) :
    same a c = true := by
  unfold same at h h' ⊢
  cases ha : a.place <;> cases hb : b.place <;> cases hc : c.place <;> simp_all
  next num den num' den' num'' den'' =>
    have hpos : (0 : Int) < den' := by exact_mod_cast place_den_pos hb
    refine Int.eq_of_mul_eq_mul_right (Int.ne_of_gt hpos) ?_
    calc num * den'' * den' = num * den' * den'' := by ac_rfl
      _ = num'' * den' * den := by rw [h, ← h']; ac_rfl
      _ = num'' * den * den' := by ac_rfl

theorem same_int (a b : Int) : same (.int a) (.int b) = true ↔ a = b := by
  simp [same, place]

theorem less_int (a b : Int) : less (.int a) (.int b) = true ↔ a < b := by
  simp [less, place]

/-- The number is zero, of either sign. -/
def isZero (a : Number) : Bool := same a (.int 0)

/-- The number is neither an infinity nor nowhere. -/
def isFinite : Number → Bool
  | .int _ | .float (.finite _) => true
  | .float _ => false

/-- The number has no fraction. -/
def isIntegral : Number → Bool
  | .int _ => true
  | .float (.finite x) => x.isIntegral
  | .float _ => false

/-- An integral binary64 number becomes the integer it is. -/
def normal : Number → Number
  | .float (.finite x) => if x.isIntegral then .int x.floor else .float (.finite x)
  | a => a

/-- The integer part, downwards; infinities and what stands nowhere have none. -/
def floor? : Number → Option Int
  | .int value => some value
  | .float (.finite x) => some x.floor
  | .float _ => none

/-- An integer is kept; to a binary64 number one half is added, the sum is rounded, and its
integer part taken. -/
def roundHalfUp? : Number → Option Int
  | .int value => some value
  | .float (.finite x) => floor? (.float (Binary64.addHalf x))
  | .float _ => none

end Number

end SchemaBridge
