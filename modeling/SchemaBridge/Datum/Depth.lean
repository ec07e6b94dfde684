import SchemaBridge.Datum.Basic

/-!
# Depth and size of data

How many levels of sequences and objects a value has, and how many parts. The depth bounds how far a
recursion into the value can go.

* `depth_lt_of_mem_list`, `depth_lt_of_find?`: what is inside of a value is less deep.
* `size_le_of_find?`: what is inside of an object has no more parts than the object.
-/

namespace SchemaBridge.Datum

mutual

/-- The number of levels of a value; a value without parts has one. -/
def depth : Datum → Nat
  | .list items | .tuple items => 1 + depthOfItems items
  | .object entries => 1 + depthOfEntries entries
  | _ => 1

/-- The greatest depth of the items. -/
def depthOfItems : List Datum → Nat
  | [] => 0
  | item :: rest => max (depth item) (depthOfItems rest)

/-- The greatest depth of the values of the entries. -/
def depthOfEntries : List (Key × Datum) → Nat
  | [] => 0
  | (_, value) :: rest => max (depth value) (depthOfEntries rest)

end

mutual

/-- The number of parts of a value, itself among them. -/
def size : Datum → Nat
  | .list items | .tuple items => 1 + sizeOfItems items
  | .object entries => 1 + sizeOfEntries entries
  | _ => 1

/-- The number of parts of the items. -/
def sizeOfItems : List Datum → Nat
  | [] => 0
  | item :: rest => size item + sizeOfItems rest

/-- The number of parts of the values of the entries. -/
def sizeOfEntries : List (Key × Datum) → Nat
  | [] => 0
  | (_, value) :: rest => size value + sizeOfEntries rest

end

theorem depth_le_of_mem {item : Datum} {items : List Datum} (h : item ∈ items) :
    depth item ≤ depthOfItems items := by
  induction items with
  | nil => simp at h
  | cons first rest ih =>
    rw [depthOfItems]
    rcases List.mem_cons.mp h with rfl | h
    · omega
    · have := ih h
      omega

theorem depth_lt_of_mem_list {item : Datum} {items : List Datum} (h : item ∈ items) :
    depth item < depth (.list items) := by
  have := depth_le_of_mem h
  rw [depth]
  omega

theorem depth_le_of_find? {key : Key} {value : Datum} {entries : List (Key × Datum)}
    (h : Entries.find? entries key = some value) : depth value ≤ depthOfEntries entries := by
  induction entries with
  | nil => simp [Entries.find?] at h
  | cons entry rest ih =>
    obtain ⟨k, v⟩ := entry
    rw [depthOfEntries]
    rw [Entries.find?] at h
    split at h
    · cases h
      omega
    · have := ih h
      omega

theorem depth_lt_of_find? {key : Key} {value : Datum} {entries : List (Key × Datum)}
    (h : Entries.find? entries key = some value) : depth value < depth (.object entries) := by
  have := depth_le_of_find? h
  rw [depth]
  omega

theorem one_le_size (value : Datum) : 1 ≤ size value := by
  cases value with
  | list | tuple | object =>
    simp only [size]
    omega
  | _ => simp [size]

theorem length_le_sizeOfEntries (entries : List (Key × Datum)) :
    entries.length ≤ sizeOfEntries entries := by
  induction entries with
  | nil => simp [sizeOfEntries]
  | cons entry rest ih =>
    have := one_le_size entry.2
    simp only [List.length_cons, sizeOfEntries]
    omega

theorem size_le_of_find? {key : Key} {value : Datum} {entries : List (Key × Datum)}
    (h : Entries.find? entries key = some value) : size value ≤ sizeOfEntries entries := by
  induction entries with
  | nil => simp [Entries.find?] at h
  | cons entry rest ih =>
    obtain ⟨k, v⟩ := entry
    rw [sizeOfEntries]
    rw [Entries.find?] at h
    split at h
    · cases h
      omega
    · have := ih h
      omega

end SchemaBridge.Datum
