import Mathlib
import SchemaBridge.Entries

/-!
# Writing many entries

Entries that are written one after another may be gathered before: what counts is which keys come
first, and what is written last under each of them.

* `length_keys_insert`: every write adds an entry or replaces one.
* `insert_comm`, `insert_merge`: when the order of two writes does not count.
* `merge_ofPairs`: what was written apart may be written as a whole.
* `Beside.merge`: what is written side by side stays so.
-/

namespace SchemaBridge

namespace Entries

variable {κ α : Type} [BEq κ]

/-- Every write adds an entry or replaces one. -/
theorem length_keys_insert (entries : Entries κ α) (key : κ) (value : α) :
    (keys (insert entries key value)).length + (if has entries key then 1 else 0)
      = (keys entries).length + 1 := by
  rw [keys_insert, has]
  cases hfind : find? entries key with
  | none =>
    rw [find?_eq_none.mp hfind]
    simp
  | some found =>
    have hany : (keys entries).any (· == key) = true := by
      by_contra hany
      rw [find?_eq_none.mpr (Bool.eq_false_iff.mpr hany)] at hfind
      cases hfind
    rw [hany]
    simp

section
variable [PartialEquivBEq κ]

/-- Of two writes under one key the second one counts. -/
theorem insert_insert {entries : Entries κ α} {key key' : κ} (h : (key == key') = true)
    (value value' : α) :
    insert (insert entries key value) key' value' = insert entries key value' := by
  induction entries with
  | nil => simp [insert, h]
  | cons entry rest ih =>
    obtain ⟨k, v⟩ := entry
    by_cases hk : (k == key) = true
    · have hk' : (k == key') = true := BEq.trans hk h
      simp [insert, hk, hk']
    · have hk' : ¬(k == key') = true := fun hk' => hk (BEq.trans hk' (BEq.symm h))
      simpa [insert, hk, hk'] using ih

/-- Under a key that is there, it does not count whether a value is written before or after one
under another key. -/
theorem insert_comm {entries : Entries κ α} {key key' : κ} (hhas : has entries key = true)
    (h : (key' == key) = false) (value value' : α) :
    insert (insert entries key' value') key value
      = insert (insert entries key value) key' value' := by
  induction entries with
  | nil => cases hhas
  | cons entry rest ih =>
    obtain ⟨k, v⟩ := entry
    by_cases hk : (k == key) = true
    · have hk' : ¬(k == key') = true := fun hk' =>
        Bool.eq_false_iff.mp h (BEq.trans (BEq.symm hk') hk)
      simp [insert, hk, hk']
    · have hrest : has rest key = true := by simpa [has, find?, hk] using hhas
      by_cases hk' : (k == key') = true
      · simp [insert, hk, hk']
      · simpa [insert, hk, hk'] using ih hrest

theorem insert_merge {first second : Entries κ α} {key : κ} (hhas : has first key = true)
    (h : ∀ key' ∈ keys second, (key' == key) = false) (value : α) :
    insert (merge first second) key value = merge (insert first key value) second := by
  induction second generalizing first with
  | nil => rfl
  | cons entry rest ih =>
    obtain ⟨key', value'⟩ := entry
    obtain ⟨hne, hrest⟩ := List.forall_mem_cons.mp h
    have hhas' : has (insert first key' value') key = true := by
      rw [has, find?_insert, if_neg (Bool.eq_false_iff.mp hne)]
      exact hhas
    calc insert (merge (insert first key' value') rest) key value
        = merge (insert (insert first key' value') key value) rest := ih hhas' hrest
      _ = merge (insert (insert first key value) key' value') rest := by
        rw [insert_comm hhas hne]

/-- Writing into what is written later is writing later. -/
theorem merge_insert {first second : Entries κ α}
    (h : (keys second).Pairwise fun key key' => (key' == key) = false) (key : κ) (value : α) :
    merge first (insert second key value) = insert (merge first second) key value := by
  induction second generalizing first with
  | nil => rfl
  | cons entry rest ih =>
    obtain ⟨k, v⟩ := entry
    obtain ⟨hfirst, hrest⟩ := List.pairwise_cons.mp h
    by_cases hk : (k == key) = true
    · have hnew : ∀ key' ∈ keys rest, (key' == key) = false := by
        intro key' hkey'
        rw [← hfirst key' hkey']
        exact BEq.congr_right (BEq.symm hk)
      have hhas : has (insert first k v) key = true := by
        rw [has, find?_insert, if_pos hk]
        rfl
      calc merge first (insert ((k, v) :: rest) key value)
          = merge (insert first k value) rest := by
            rw [insert, if_pos hk]
            rfl
        _ = merge (insert (insert first k v) key value) rest := by rw [insert_insert hk]
        _ = insert (merge (insert first k v) rest) key value := (insert_merge hhas hnew value).symm
    · rw [insert, if_neg hk]
      exact ih hrest

theorem pairwise_insert {entries : Entries κ α} {key : κ} {value : α}
    (h : (keys entries).Pairwise fun key key' => (key' == key) = false) :
    (keys (insert entries key value)).Pairwise fun key key' => (key' == key) = false := by
  rw [keys_insert]
  split
  · exact h
  · next hany =>
    refine List.pairwise_append.mpr ⟨h, List.pairwise_singleton _ _, fun k hk k' hk' => ?_⟩
    rw [List.mem_singleton.mp hk']
    by_contra hsame
    have hsame : (k == key) = true := BEq.symm (Bool.not_eq_false _ ▸ hsame)
    exact hany (List.any_eq_true.mpr ⟨k, hk, hsame⟩)

/-- What was written apart may be written as a whole. -/
theorem merge_ofPairs (first second : Entries κ α) :
    merge first (ofPairs second) = merge first second := by
  have hboth : merge first (ofPairs second) = merge first second
      ∧ (keys (ofPairs second)).Pairwise fun key key' => (key' == key) = false := by
    induction second using List.reverseRecOn with
    | nil => exact ⟨rfl, List.Pairwise.nil⟩
    | append_singleton rest entry ih =>
      obtain ⟨hmerge, hpairwise⟩ := ih
      have hlast : ofPairs (rest ++ [entry]) = insert (ofPairs rest) entry.1 entry.2 :=
        merge_append [] rest [entry]
      refine ⟨?_, hlast ▸ pairwise_insert hpairwise⟩
      rw [hlast, merge_insert hpairwise, hmerge, merge_append]
      rfl
  exact hboth.1

end

end Entries

/-! ## Entries side by side -/

namespace Entries

variable {κ α β : Type}

/-- Entries under the same keys stand side by side. -/
theorem exists_mem_zip {first second : Entries κ α} (h : keys first = keys second)
    {entry : κ × α} (hentry : entry ∈ second) :
    ∃ entry', (entry', entry) ∈ first.zip second ∧ entry'.1 = entry.1 := by
  induction second generalizing first with
  | nil => cases hentry
  | cons head rest ih =>
    cases first with
    | nil => cases h
    | cons head' rest' =>
      obtain ⟨hkey, hrest⟩ := List.cons.inj h
      rcases List.mem_cons.mp hentry with rfl | hentry
      · exact ⟨head', List.mem_cons_self, hkey⟩
      · obtain ⟨entry', hpair, hkey'⟩ := ih hrest hentry
        exact ⟨entry', List.mem_cons_of_mem _ hpair, hkey'⟩

/-- The entries of two maps stand under the same keys, in the same order, and are related. -/
def Beside (relation : α → β → Prop) (first : Entries κ α)
    (second : Entries κ β) : Prop :=
  List.Forall₂ (fun entry entry' => entry.1 = entry'.1 ∧ relation entry.2 entry'.2) first second

namespace Beside

variable {relation : α → β → Prop} {first : Entries κ α} {second : Entries κ β}

theorem keys_eq (h : Beside relation first second) : keys first = keys second := by
  induction h with
  | nil => rfl
  | cons hentry _ ih =>
    rw [keys, keys, List.map_cons, List.map_cons, hentry.1]
    exact congrArg _ ih

theorem of_mem_zip (h : Beside relation first second) {pair : (κ × α) × (κ × β)}
    (hpair : pair ∈ first.zip second) : relation pair.1.2 pair.2.2 :=
  ((List.forall₂_iff_zip.mp h).2 hpair).2

theorem insert [BEq κ] (h : Beside relation first second) (key : κ) {value : α} {value' : β}
    (hvalue : relation value value') :
    Beside relation (Entries.insert first key value) (Entries.insert second key value') := by
  induction h with
  | nil => exact .cons ⟨rfl, hvalue⟩ .nil
  | @cons entry entry' _ _ hentry hrest ih =>
    rw [Entries.insert, Entries.insert, hentry.1]
    split
    · exact .cons ⟨rfl, hvalue⟩ hrest
    · exact .cons ⟨rfl, hentry.2⟩ ih

theorem merge [BEq κ] {added : Entries κ α} {added' : Entries κ β}
    (h : Beside relation first second) (hadded : Beside relation added added') :
    Beside relation (Entries.merge first added) (Entries.merge second added') := by
  induction hadded generalizing first second with
  | nil => exact h
  | @cons entry entry' _ _ hentry _ ih =>
    refine ih ?_
    dsimp only
    rw [← hentry.1]
    exact h.insert entry.1 hentry.2

end Beside

end Entries

end SchemaBridge
