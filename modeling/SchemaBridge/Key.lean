import SchemaBridge.Number.Basic

/-!
# Keys of objects

An object has its entries under keys. JSON knows texts only; an object that is made of pairs may
also have another value as a key, if it holds no list and no object. Keys that are numbers are told
apart by value, and a boolean counts as zero or one, so an object has at most one of these. A number
that stands nowhere is no key that could be found again.

* `beq_text`: a text is equal to no other key.
* The instance of `PartialEquivBEq`: equality of keys goes both ways and is passed on.
-/

namespace SchemaBridge

/-- What an entry of an object may stand under. -/
inductive Key where
  | text (name : String)
  | null
  | bool (value : Bool)
  | number (value : Number)
  | bytes (value : List UInt8)
  | undefined
  | tuple (items : List Key)
deriving Inhabited

instance : Coe String Key := ⟨Key.text⟩

namespace Key

/-- The number that a key counts as. -/
def asNumber? : Key → Option Number
  | .bool value => some (.int (if value then 1 else 0))
  | .number value => some value
  | _ => none

mutual

/-- The keys are equal. -/
def same : Key → Key → Bool
  | .text name, .text name' => name == name'
  | .null, .null | .undefined, .undefined => true
  | .bytes value, .bytes value' => value == value'
  | .tuple items, .tuple items' => sameItems items items'
  | .bool value, other => other.asNumber?.any (Number.same (.int (if value then 1 else 0)))
  | .number value, other => other.asNumber?.any value.same
  | _, _ => false

/-- The keys are equal one by one. -/
def sameItems : List Key → List Key → Bool
  | [], [] => true
  | item :: items, item' :: items' => same item item' && sameItems items items'
  | _, _ => false

end

instance : BEq Key := ⟨same⟩

theorem beq_eq (key key' : Key) : (key == key') = key.same key' := rfl

theorem beq_text {key : Key} {name : String} : (key == .text name) = true ↔ key = .text name := by
  cases key <;> simp [beq_eq, same, asNumber?]

mutual

theorem same_symm {key key' : Key} (h : key.same key' = true) : key'.same key = true := by
  cases key <;> cases key' <;> simp [same, asNumber?] at h ⊢
  case tuple.tuple => exact sameItems_symm h
  case text.text | bytes.bytes => exact h.symm
  all_goals exact Number.same_symm h

theorem sameItems_symm {items items' : List Key} (h : sameItems items items' = true) :
    sameItems items' items = true := by
  match items, items' with
  | [], [] => rfl
  | [], _ :: _ => simp [sameItems] at h
  | _ :: _, [] => simp [sameItems] at h
  | item :: items, item' :: items' =>
    simp only [sameItems, Bool.and_eq_true] at h ⊢
    exact ⟨same_symm h.1, sameItems_symm h.2⟩

end

mutual

theorem same_trans {key key' key'' : Key} (h : key.same key' = true) (h' : key'.same key'' = true) :
    key.same key'' = true := by
  cases key <;> cases key' <;> simp [same, asNumber?] at h <;> cases key'' <;>
    simp [same, asNumber?] at h' ⊢
  case tuple.tuple.tuple => exact sameItems_trans h h'
  case text.text.text | bytes.bytes.bytes => exact h.trans h'
  all_goals exact Number.same_trans h h'

theorem sameItems_trans {items items' items'' : List Key} (h : sameItems items items' = true)
    (h' : sameItems items' items'' = true) : sameItems items items'' = true := by
  match items, items', items'' with
  | [], [], [] => rfl
  | [], _ :: _, _ => simp [sameItems] at h
  | _ :: _, [], _ => simp [sameItems] at h
  | _, [], _ :: _ => simp [sameItems] at h'
  | _, _ :: _, [] => simp [sameItems] at h'
  | item :: items, item' :: items', item'' :: items'' =>
    simp only [sameItems, Bool.and_eq_true] at h h' ⊢
    exact ⟨same_trans h.1 h'.1, sameItems_trans h.2 h'.2⟩

end

instance : PartialEquivBEq Key where
  symm := same_symm
  trans := same_trans

end Key

end SchemaBridge
