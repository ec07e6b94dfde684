import SchemaBridge.Number.Basic
import SchemaBridge.Number.Shortest

/-!
# Numbers in writing

An integer is written in decimal. A binary64 number is written with the fewest digits that read
back: positionally while its first digit stands at most sixteen places before the point or at most
four after it, and with a two-digit exponent otherwise. A number without a fraction keeps `.0`.
-/

namespace SchemaBridge

namespace Binary64

/-- Digits with the point `order` places after the first of them. -/
def positional (digits : List Char) (order : Int) : List Char :=
  if order ≤ 0 then
    '0' :: '.' :: List.replicate (-order).toNat '0' ++ digits
  else if order < digits.length then
    digits.take order.toNat ++ '.' :: digits.drop order.toNat
  else
    digits ++ List.replicate (order.toNat - digits.length) '0' ++ ['.', '0']

/-- Digits with the point after the first of them and a power of ten. -/
def scientific (digits : List Char) (exponent : Int) : List Char :=
  let power := Nat.toDigits 10 exponent.natAbs
  let leading := match digits with
    | [] => []
    | [d] => [d]
    | d :: rest => d :: '.' :: rest
  leading ++ 'e' :: (if exponent < 0 then '-' else '+') ::
    List.replicate (2 - power.length) '0' ++ power

/-- The text of a number. -/
def written : Binary64 → String
  | .nan => "nan"
  | .infinite negative => if negative then "-inf" else "inf"
  | .finite x =>
    let sign := if x.negative then ['-'] else []
    if x.mantissa = 0 then String.ofList (sign ++ "0.0".toList)
    else
      let (digits, order) := shortest x
      let body := if -4 < order && order ≤ 16 then positional digits order
        else scientific digits (order - 1)
      String.ofList (sign ++ body)

end Binary64

/-- The text of a number. -/
def Number.written : Number → String
  | .int value => toString value
  | .float value => value.written

end SchemaBridge
