import SchemaBridge.Datum.Basic
import SchemaBridge.Sorting

/-!
# Repeated items

`hasRepeat items` decides whether a sequence holds two items that schemas see as equal. Items that
can all be put in order are sorted, and then only neighbours are compared; otherwise every pair is.
Numbers, texts and sequences of such can be ordered; a boolean at the top is left unordered, since
it is no number there. What is not a number stands neither before nor after anything, so it can keep
items apart that are equal.
-/

namespace SchemaBridge.Datum

mutual

/-- Whether one value stands before another, if the two can be ordered. -/
def before? : Datum → Datum → Option Bool
  | .list items, .list items' => beforeItems? items items'
  | .tuple items, .tuple items' => beforeItems? items items'
  | .text value, .text value' => some (value < value')
  | .bytes value, .bytes value' => some (value < value')
  | .bool value, other => (asNumber? other).map (Number.less (.int (if value then 1 else 0)))
  | .number value, other => (asNumber? other).map (Number.less value)
  | _, _ => none

/-- Sequences are ordered by their first unequal items, or by length if there are none. -/
def beforeItems? : List Datum → List Datum → Option Bool
  | item :: items, item' :: items' =>
    if same item item' then beforeItems? items items' else before? item item'
  | [], items' => some !items'.isEmpty
  | _ :: _, [] => some false

end

/-- The order of items at the top of a sequence, where booleans have no place. -/
def itemBefore? : Datum → Datum → Option Bool
  | .bool _, _ | _, .bool _ => none
  | item, item' => before? item item'

/-- Two neighbours are equal. -/
def hasEqualNeighbours : List Datum → Bool
  | item :: next :: rest => jsonEqual item next || hasEqualNeighbours (next :: rest)
  | _ => false

/-- Some two items are equal. -/
def hasEqualPair : List Datum → Bool
  | [] => false
  | item :: rest => rest.any (jsonEqual item) || hasEqualPair rest

/-- The sequence holds two equal items. -/
def hasRepeat (items : List Datum) : Bool :=
  match Sorting.sort? itemBefore? items with
  | some sorted => hasEqualNeighbours sorted
  | none => hasEqualPair items

end SchemaBridge.Datum
