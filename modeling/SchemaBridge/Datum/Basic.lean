import SchemaBridge.Entries
import SchemaBridge.Key

/-!
# Data

One dynamic type for everything that is data: schemas, directive arguments, and the values that
schemas are applied to. Beyond JSON it has fixed sequences, raw bytes, and the mark of an absent
value, which can all be handed to a validator.

* `isTruthy`: which data count as true where a truth value is wanted.
* `same`: equality up to key order and number representation, a boolean being a number.
* `jsonEqual`: equality as schemas see it, where a boolean is no number and all kinds of
  sequences are alike.
* `key?_ofKey`: a key is found again in the value that it is.
-/

namespace SchemaBridge

/-- A value: JSON, or one of three kinds of value that JSON has no form for. -/
inductive Datum where
  | null
  | bool (value : Bool)
  | number (value : Number)
  | text (value : String)
  | list (items : List Datum)
  | tuple (items : List Datum)
  | object (entries : List (Key × Datum))
  | bytes (value : List UInt8)
  /-- The mark of an absent value, such as that of an unbound variable. -/
  | undefined
deriving Inhabited

/-- The entries of an object. -/
abbrev Members := Entries Key Datum

namespace Datum

/-- An integer as data. -/
def int (value : Int) : Datum := .number (.int value)

/-- The kinds of data; integers and binary64 numbers are two kinds. -/
inductive Kind where
  | null | bool | int | float | text | list | tuple | object | bytes | undefined
deriving DecidableEq

/-- The kind of a value. -/
def kind : Datum → Kind
  | .null => .null
  | .bool _ => .bool
  | .number (.int _) => .int
  | .number (.float _) => .float
  | .text _ => .text
  | .list _ => .list
  | .tuple _ => .tuple
  | .object _ => .object
  | .bytes _ => .bytes
  | .undefined => .undefined

/-- A number; booleans are none. -/
def isNumber : Datum → Bool
  | .number _ => true
  | _ => false

/-- The number that a value counts as, a boolean being zero or one. -/
def asNumber? : Datum → Option Number
  | .number value => some value
  | .bool value => some (.int (if value then 1 else 0))
  | _ => none

/-- The text that a value is. -/
def text? : Datum → Option String
  | .text value => some value
  | _ => none

/-- Everything counts as true except null, the absent value, false, zero and what is empty. -/
def isTruthy : Datum → Bool
  | .null | .undefined => false
  | .bool value => value
  | .number value => !value.isZero
  | .text value => value ≠ ""
  | .list items | .tuple items => !items.isEmpty
  | .object entries => !entries.isEmpty
  | .bytes value => !value.isEmpty

mutual

/-- A key as data. -/
def ofKey : Key → Datum
  | .text name => .text name
  | .null => .null
  | .bool value => .bool value
  | .number value => .number value
  | .bytes value => .bytes value
  | .undefined => .undefined
  | .tuple items => .tuple (ofKeys items)

/-- Keys as data. -/
def ofKeys : List Key → List Datum
  | [] => []
  | item :: items => ofKey item :: ofKeys items

end

mutual

/-- The key that a value is, if it holds no list and no object. -/
def key? : Datum → Option Key
  | .text name => some (.text name)
  | .null => some .null
  | .bool value => some (.bool value)
  | .number value => some (.number value)
  | .bytes value => some (.bytes value)
  | .undefined => some .undefined
  | .tuple items => (keys? items).map .tuple
  | .list _ | .object _ => none

/-- The keys that items are, if they all are keys. -/
def keys? : List Datum → Option (List Key)
  | [] => some []
  | item :: items =>
    match key? item, keys? items with
    | some key, some keys => some (key :: keys)
    | _, _ => none

end

/-- The value can be looked up among keys. -/
def isFixed (value : Datum) : Bool := value.key?.isSome

/-- The items of a value that can be gone through. -/
def items? : Datum → Option (List Datum)
  | .list items | .tuple items => some items
  | .text value => some (value.toList.map fun c => .text (String.singleton c))
  | .object entries => some (entries.map fun entry => ofKey entry.1)
  | .bytes value => some (value.map fun b => .int b.toNat)
  | _ => none

mutual

theorem key?_ofKey (key : Key) : key? (ofKey key) = some key := by
  cases key with
  | tuple items => rw [ofKey, key?, keys?_ofKeys items, Option.map_some]
  | _ => rw [ofKey, key?]

theorem keys?_ofKeys (items : List Key) : keys? (ofKeys items) = some items := by
  match items with
  | [] => rw [ofKeys, keys?]
  | item :: items => rw [ofKeys, keys?, key?_ofKey item, keys?_ofKeys items]

end

/-! ## Equality -/

mutual

/-- Equality of values: numbers by value with booleans as zero and one, objects in any order of
keys, lists and fixed sequences only among themselves. The absent value is equal to null. -/
def same : Datum → Datum → Bool
  | .list items, .list items' => sameItems items items'
  | .tuple items, .tuple items' => sameItems items items'
  | .object entries, .object entries' =>
    entries.length == entries'.length && sameEntries entries entries'
  | .null, .null | .null, .undefined | .undefined, .null | .undefined, .undefined => true
  | .text value, .text value' => value == value'
  | .bytes value, .bytes value' => value == value'
  | .bool value, .bool value' => value == value'
  | .bool value, .number value' => Number.same (.int (if value then 1 else 0)) value'
  | .number value, .bool value' => Number.same value (.int (if value' then 1 else 0))
  | .number value, .number value' => Number.same value value'
  | _, _ => false

/-- Equality of sequences, item by item. -/
def sameItems : List Datum → List Datum → Bool
  | [], [] => true
  | item :: items, item' :: items' => same item item' && sameItems items items'
  | _, _ => false

/-- Every entry has an equal value under the same key in `entries'`. -/
def sameEntries : List (Key × Datum) → List (Key × Datum) → Bool
  | [], _ => true
  | (key, value) :: rest, entries' =>
    (match Entries.find? entries' key with
      | some value' => same value value'
      | none => false) && sameEntries rest entries'

end

/-- The codes of a run of bytes against the items of a sequence. -/
def sameCodes : List UInt8 → List Datum → Bool
  | [], [] => true
  | b :: bs, .number value :: items => Number.same (.int b.toNat) value && sameCodes bs items
  | _, _ => false

mutual

/-- Equality as schemas see it: numbers by value, a boolean equal to no number, sequences of any
kind item by item, objects in any order of keys, the absent value equal to null. -/
def jsonEqual : Datum → Datum → Bool
  | .list items, .list items' | .list items, .tuple items'
  | .tuple items, .list items' | .tuple items, .tuple items' => jsonEqualItems items items'
  | .list items, .bytes value | .tuple items, .bytes value => sameCodes value items
  | .bytes value, .list items | .bytes value, .tuple items => sameCodes value items
  | .object entries, .object entries' =>
    entries.length == entries'.length && jsonEqualEntries entries entries'
  | .null, .null | .null, .undefined | .undefined, .null | .undefined, .undefined => true
  | .text value, .text value' => value == value'
  | .bytes value, .bytes value' => value == value'
  | .bool value, .bool value' => value == value'
  | .number value, .number value' => Number.same value value'
  | _, _ => false

/-- Equality of sequences as schemas see it. -/
def jsonEqualItems : List Datum → List Datum → Bool
  | [], [] => true
  | item :: items, item' :: items' => jsonEqual item item' && jsonEqualItems items items'
  | _, _ => false

/-- Every entry has an equal value under the same key in `entries'`. -/
def jsonEqualEntries : List (Key × Datum) → List (Key × Datum) → Bool
  | [], _ => true
  | (key, value) :: rest, entries' =>
    (match Entries.find? entries' key with
      | some value' => jsonEqual value value'
      | none => false) && jsonEqualEntries rest entries'

end

/-- A boolean counts as a number in general, but not in a schema. -/
example : same (.bool true) (int 1) = true ∧ jsonEqual (.bool true) (int 1) = false := by decide

end Datum

end SchemaBridge
