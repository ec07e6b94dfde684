/-!
# Ordered entries

A list of keys with their values, read as a finite map that remembers its order. Writing to a key
that is there replaces the value in place; writing to a new key appends it. So the order is that
of first writing and the value that of the last one.

* `find?_insert`: what a write changes.
* `insert_of_find?_eq_none`: a new key comes last.
* `keys_insert`, `nodup_insert`: the keys after a write.
* `mem_insert`, `mem_merge`: where an entry comes from.
* `merge_of_pairwise`: entries under new keys come behind the others.
* `merge_append`: merging two lists of entries in turn is merging their concatenation.
* `find?_merge`: the last value that is written under a key is found.
* `find?_eq_some_iff`, `find?_reverse`: with different keys, the order does not count.
-/

namespace SchemaBridge

/-- Keys and values in the order of first writing. -/
abbrev Entries (κ α : Type) := List (κ × α)

/-- Entries under names. -/
abbrev Table (α : Type) := Entries String α

namespace Entries

variable {κ α : Type}

/-- The keys in order. -/
def keys (entries : Entries κ α) : List κ := entries.map (·.1)

variable [BEq κ]

/-- The value under a key. -/
def find? : Entries κ α → κ → Option α
  | [], _ => none
  | (k, v) :: rest, key => if k == key then some v else find? rest key

/-- Replace the value under a key in place, or append a new entry. A key that is there stays as it
is, also if an equal one is written to. -/
def insert : Entries κ α → κ → α → Entries κ α
  | [], key, value => [(key, value)]
  | (k, v) :: rest, key, value =>
    if k == key then (k, value) :: rest else (k, v) :: insert rest key value

/-- Write all the entries of `second` into `first`, in order. -/
def merge (first second : Entries κ α) : Entries κ α :=
  second.foldl (fun entries entry => insert entries entry.1 entry.2) first

/-- The entries of a list of pairs, where a later pair overwrites an earlier one. -/
def ofPairs (pairs : List (κ × α)) : Entries κ α := merge [] pairs

/-- There is an entry under the key. -/
def has (entries : Entries κ α) (key : κ) : Bool := (find? entries key).isSome

theorem find?_insert [PartialEquivBEq κ] (entries : Entries κ α) (key key' : κ) (value : α) :
    find? (insert entries key value) key'
      = if key == key' then some value else find? entries key' := by
  induction entries with
  | nil => simp [insert, find?]
  | cons entry rest ih =>
    obtain ⟨k, v⟩ := entry
    by_cases hk : (k == key) = true
    · simp only [insert, find?, hk, if_true, BEq.congr_left hk]
      split <;> rfl
    · by_cases h : (k == key') = true
      · have : ¬(key == key') = true := fun hkey => hk (BEq.trans h (BEq.symm hkey))
        simp [insert, find?, hk, h, this]
      · simpa [insert, find?, hk, h] using ih

theorem keys_insert (entries : Entries κ α) (key : κ) (value : α) :
    keys (insert entries key value)
      = if (keys entries).any (· == key) then keys entries else keys entries ++ [key] := by
  induction entries with
  | nil => simp [insert, keys]
  | cons entry rest ih =>
    obtain ⟨k, v⟩ := entry
    by_cases hk : (k == key) = true
    · simp [insert, keys, hk]
    · have ih' : (insert rest key value).map (·.1)
          = if (rest.map (·.1)).any (· == key) then rest.map (·.1)
            else rest.map (·.1) ++ [key] := ih
      simp only [insert, hk, if_false, keys, List.map_cons, List.any_cons, Bool.false_eq_true,
        Bool.false_or, ih']
      split <;> simp

theorem nodup_insert [LawfulBEq κ] {entries : Entries κ α} {key : κ} {value : α}
    (h : (keys entries).Nodup) : (keys (insert entries key value)).Nodup := by
  rw [keys_insert]
  split
  · exact h
  · next hn =>
    refine List.nodup_append.mpr ⟨h, by simp, fun a ha b hb heq => hn ?_⟩
    rw [List.mem_singleton] at hb
    exact List.any_eq_true.mpr ⟨a, ha, by simp [heq, hb]⟩

theorem find?_eq_none {entries : Entries κ α} {key : κ} :
    find? entries key = none ↔ (keys entries).any (· == key) = false := by
  induction entries with
  | nil => simp [find?, keys]
  | cons entry rest ih =>
    obtain ⟨k, v⟩ := entry
    by_cases hk : (k == key) = true
    · simp [find?, keys, hk]
    · simpa [find?, keys, hk] using ih

theorem insert_of_find?_eq_none {entries : Entries κ α} {key : κ} (h : find? entries key = none)
    (value : α) : insert entries key value = entries ++ [(key, value)] := by
  induction entries with
  | nil => rfl
  | cons entry rest ih =>
    obtain ⟨k, v⟩ := entry
    by_cases hk : (k == key) = true
    · simp [find?, hk] at h
    · rw [find?, if_neg hk] at h
      rw [insert, if_neg hk, ih h, List.cons_append]

theorem mem_insert {entries : Entries κ α} {key : κ} {value : α} {entry : κ × α}
    (h : entry ∈ insert entries key value) :
    entry ∈ entries ∨ (entry.2 = value ∧ (entry.1 = key ∨ (entry.1 == key) = true)) := by
  induction entries with
  | nil =>
    rw [insert, List.mem_singleton] at h
    exact .inr ⟨by rw [h], .inl (by rw [h])⟩
  | cons first rest ih =>
    obtain ⟨k, v⟩ := first
    by_cases hk : (k == key) = true
    · rw [insert, if_pos hk, List.mem_cons] at h
      rcases h with rfl | h
      · exact .inr ⟨rfl, .inr hk⟩
      · exact .inl (List.mem_cons_of_mem _ h)
    · rw [insert, if_neg hk, List.mem_cons] at h
      rcases h with rfl | h
      · exact .inl List.mem_cons_self
      · exact (ih h).imp_left (List.mem_cons_of_mem _)

/-- An entry is kept if something is written under another key. -/
theorem mem_insert_of_mem {entries : Entries κ α} {entry : κ × α} {key : κ} {value : α}
    (h : entry ∈ entries) (hne : (entry.1 == key) = false) : entry ∈ insert entries key value := by
  induction entries with
  | nil => cases h
  | cons first rest ih =>
    obtain ⟨k, v⟩ := first
    rw [insert]
    rcases List.mem_cons.mp h with rfl | h
    · rw [if_neg (Bool.eq_false_iff.mp hne)]
      exact List.mem_cons_self
    · split
      · exact List.mem_cons_of_mem _ h
      · exact List.mem_cons_of_mem _ (ih h)

theorem mem_merge {first second : Entries κ α} {entry : κ × α} (h : entry ∈ merge first second) :
    entry ∈ first
      ∨ ∃ pair ∈ second, entry.2 = pair.2 ∧ (entry.1 = pair.1 ∨ (entry.1 == pair.1) = true) := by
  induction second generalizing first with
  | nil => exact .inl h
  | cons pair rest ih =>
    rcases ih h with h | ⟨later, hlater, h⟩
    · exact (mem_insert h).imp_right fun h => ⟨pair, List.mem_cons_self, h⟩
    · exact .inr ⟨later, List.mem_cons_of_mem _ hlater, h⟩

theorem mem_of_find? {entries : Entries κ α} {key : κ} {value : α}
    (h : find? entries key = some value) : ∃ k, (k, value) ∈ entries ∧ (k == key) = true := by
  induction entries with
  | nil => cases h
  | cons entry rest ih =>
    obtain ⟨k, v⟩ := entry
    by_cases hk : (k == key) = true
    · rw [find?, if_pos hk] at h
      cases h
      exact ⟨k, List.mem_cons_self, hk⟩
    · rw [find?, if_neg hk] at h
      obtain ⟨k', hmem, hk'⟩ := ih h
      exact ⟨k', List.mem_cons_of_mem _ hmem, hk'⟩

/-- Keys that are all different are written one behind the other. -/
theorem merge_of_pairwise {first second : Entries κ α}
    (h : (keys (first ++ second)).Pairwise fun key key' => (key == key') = false) :
    merge first second = first ++ second := by
  induction second generalizing first with
  | nil => exact (List.append_nil first).symm
  | cons entry rest ih =>
    obtain ⟨key, value⟩ := entry
    have hnone : find? first key = none := by
      rw [find?_eq_none, List.any_eq_false]
      intro key' hkey'
      rw [keys, List.map_append] at h
      simpa using (List.pairwise_append.mp h).2.2 key' hkey' key List.mem_cons_self
    have hassoc : first ++ (key, value) :: rest = (first ++ [(key, value)]) ++ rest := by simp
    have hmerge : merge first ((key, value) :: rest) = merge (insert first key value) rest := rfl
    rw [hmerge, insert_of_find?_eq_none hnone, hassoc]
    exact ih (hassoc ▸ h)

theorem merge_nil (entries : Entries κ α) : merge entries [] = entries := rfl

theorem merge_append (first second third : Entries κ α) :
    merge first (second ++ third) = merge (merge first second) third := by
  simp [merge]

theorem find?_append (first second : Entries κ α) (key : κ) :
    find? (first ++ second) key = (find? first key).or (find? second key) := by
  induction first with
  | nil => rfl
  | cons entry rest ih =>
    obtain ⟨k, v⟩ := entry
    by_cases hk : (k == key) = true
    · simp [find?, hk]
    · simpa [find?, hk] using ih

/-- What was written last is found. -/
theorem find?_merge [PartialEquivBEq κ] (first second : Entries κ α) (key : κ) :
    find? (merge first second) key = (find? second.reverse key).or (find? first key) := by
  induction second generalizing first with
  | nil => rfl
  | cons entry rest ih =>
    obtain ⟨k, v⟩ := entry
    have hmerge : merge first ((k, v) :: rest) = merge (insert first k v) rest := rfl
    rw [hmerge, ih, find?_insert, List.reverse_cons, find?_append, Option.or_assoc]
    congr 1
    by_cases hk : (k == key) = true
    · simp [find?, hk]
    · simp [find?, hk]

theorem nodup_merge [LawfulBEq κ] {first : Entries κ α} (h : (keys first).Nodup)
    (second : Entries κ α) : (keys (merge first second)).Nodup := by
  induction second generalizing first with
  | nil => exact h
  | cons entry rest ih => exact ih (nodup_insert h)

/-- With different keys, an entry is found under its key. -/
theorem find?_eq_some_iff [LawfulBEq κ] {entries : Entries κ α} (h : (keys entries).Nodup)
    {key : κ} {value : α} : find? entries key = some value ↔ (key, value) ∈ entries := by
  refine ⟨fun hfind => ?_, fun hmem => ?_⟩
  · obtain ⟨k, hmem, hk⟩ := mem_of_find? hfind
    rwa [← eq_of_beq hk]
  · induction entries with
    | nil => cases hmem
    | cons entry rest ih =>
      obtain ⟨k, v⟩ := entry
      obtain ⟨hnew, hrest⟩ := List.nodup_cons.mp h
      rcases List.mem_cons.mp hmem with heq | hmem
      · cases heq
        simp [find?]
      · have hne : ¬(k == key) = true := by
          intro hk
          have hkey : key ∈ keys rest := List.mem_map.mpr ⟨_, hmem, rfl⟩
          exact hnew (eq_of_beq hk ▸ hkey)
        rw [find?, if_neg hne]
        exact ih hrest hmem

/-- With different keys, the order does not count. -/
theorem find?_reverse [LawfulBEq κ] {entries : Entries κ α} (h : (keys entries).Nodup) (key : κ) :
    find? entries.reverse key = find? entries key := by
  have hreverse : (keys entries.reverse).Nodup := by
    rw [keys, List.map_reverse]
    exact List.pairwise_reverse.mpr (h.imp Ne.symm)
  refine Option.ext fun value => ?_
  rw [find?_eq_some_iff hreverse, find?_eq_some_iff h, List.mem_reverse]

end Entries

end SchemaBridge
