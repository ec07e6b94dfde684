import SchemaBridge.Datum.Basic

/-!
# Parts of data

What stands under a name somewhere in a schema is found by going through its parts. Everything that
a schema is applied with is a part of it or one of its keys, so nothing else can stand under the
name there.

* `Datum.IsPart`, `Datum.StandsUnder`: parts of a value, and what stands under a name in it.
* `Datum.ConfinedTo.of_isPart`, `Datum.ConfinedTo.items?`: where nothing new is met.
* `Datum.Lacks`, `Datum.lacks_object`: values in which nothing stands under a name.
* `Datum.lacks_of_hasName`: a test for such values.
-/

namespace SchemaBridge.Datum

/-- The first value is the second one, or stands in it at some depth. -/
inductive IsPart : Datum → Datum → Prop
  | refl (value : Datum) : IsPart value value
  | item {part inner : Datum} {items : List Datum} (hmem : inner ∈ items)
      (h : IsPart part inner) : IsPart part (.list items)
  | component {part inner : Datum} {items : List Datum} (hmem : inner ∈ items)
      (h : IsPart part inner) : IsPart part (.tuple items)
  | entry {part inner : Datum} {entries : Members} {key : Key} (hmem : (key, inner) ∈ entries)
      (h : IsPart part inner) : IsPart part (.object entries)

/-- In some object that is a part of the second value, the first one stands under the name. -/
def StandsUnder (name : String) (value whole : Datum) : Prop :=
  ∃ entries : Members, IsPart (.object entries) whole ∧ (.text name, value) ∈ entries

/-- What stands under the name in a value also does in the whole. -/
def ConfinedTo (name : String) (whole value : Datum) : Prop :=
  ∀ inner, StandsUnder name inner value → StandsUnder name inner whole

/-- Nothing stands under the name in a value. -/
def Lacks (name : String) (value : Datum) : Prop := ∀ inner, ¬StandsUnder name inner value

variable {name : String} {whole value inner piece : Datum} {entries : Members} {items : List Datum}

theorem IsPart.trans (h : IsPart piece inner) (h' : IsPart inner whole) : IsPart piece whole := by
  induction h' with
  | refl => exact h
  | item hmem _ ih => exact .item hmem ih
  | component hmem _ ih => exact .component hmem ih
  | entry hmem _ ih => exact .entry hmem ih

theorem confinedTo_self (name : String) (whole : Datum) : ConfinedTo name whole whole :=
  fun _ h => h

theorem ConfinedTo.of_isPart (h : ConfinedTo name whole value) (hpart : IsPart piece value) :
    ConfinedTo name whole piece := by
  rintro inner ⟨entries, hentries, hmem⟩
  exact h inner ⟨entries, hentries.trans hpart, hmem⟩

theorem ConfinedTo.entry (h : ConfinedTo name whole (.object entries)) {entry : Key × Datum}
    (hmem : entry ∈ entries) : ConfinedTo name whole entry.2 :=
  h.of_isPart (.entry hmem (.refl _))

theorem ConfinedTo.find? (h : ConfinedTo name whole (.object entries)) {key : Key}
    (hfind : Entries.find? entries key = some value) : ConfinedTo name whole value := by
  obtain ⟨key', hmem, -⟩ := Entries.mem_of_find? hfind
  exact h.entry hmem

theorem standsUnder_of_mem (hmem : (.text name, value) ∈ entries)
    (hconfined : ConfinedTo name whole (.object entries)) : StandsUnder name value whole :=
  hconfined value ⟨entries, .refl _, hmem⟩

mutual

/-- There are no objects in keys. -/
theorem not_isPart_ofKey (entries : Members) (key : Key) : ¬IsPart (.object entries) (ofKey key) := by
  intro h
  cases key with
  | tuple keys =>
    rw [ofKey] at h
    cases h with
    | component hmem h => exact not_isPart_ofKeys entries keys _ hmem h
  | _ =>
    rw [ofKey] at h
    cases h

theorem not_isPart_ofKeys (entries : Members) (keys : List Key) :
    ∀ value ∈ ofKeys keys, ¬IsPart (.object entries) value := by
  match keys with
  | [] =>
    rw [ofKeys]
    exact fun _ h => absurd h List.not_mem_nil
  | key :: rest =>
    rw [ofKeys]
    exact List.forall_mem_cons.mpr ⟨not_isPart_ofKey entries key, not_isPart_ofKeys entries rest⟩

end

theorem lacks_of_flat (h : ∀ entries, ¬IsPart (.object entries) value) : Lacks name value := by
  rintro inner ⟨entries, hentries, -⟩
  exact h entries hentries

theorem lacks_text (text : String) : Lacks name (.text text) :=
  lacks_of_flat fun _ h => by cases h

theorem not_standsUnder_text {text : String} : ¬StandsUnder name inner (.text text) :=
  lacks_text text inner

/-- What has no object in it is confined to anything. -/
theorem confinedTo_of_flat (name : String) (whole : Datum)
    (h : ∀ entries, ¬IsPart (.object entries) value) : ConfinedTo name whole value :=
  fun inner hinner => absurd hinner (lacks_of_flat h inner)

theorem ConfinedTo.items? (h : ConfinedTo name whole value) (hitems : value.items? = some items) :
    ∀ item ∈ items, ConfinedTo name whole item := by
  cases value with
  | list items' =>
    cases hitems
    exact fun item hmem => h.of_isPart (.item hmem (.refl _))
  | tuple items' =>
    cases hitems
    exact fun item hmem => h.of_isPart (.component hmem (.refl _))
  | text | bytes =>
    cases hitems
    refine List.forall_mem_map.mpr fun _ _ => confinedTo_of_flat name whole fun entries hpart => ?_
    cases hpart
  | object entries =>
    cases hitems
    exact List.forall_mem_map.mpr fun entry _ =>
      confinedTo_of_flat name whole fun entries => not_isPart_ofKey entries entry.1
  | _ => cases hitems

/-! ### Values without an entry of a name -/

theorem lacks_list : Lacks name (.list items) ↔ ∀ item ∈ items, Lacks name item := by
  constructor
  · rintro h item hmem inner ⟨entries, hentries, hentry⟩
    exact h inner ⟨entries, .item hmem hentries, hentry⟩
  · rintro h inner ⟨entries, hentries, hentry⟩
    cases hentries with
    | item hmem hinside => exact h _ hmem inner ⟨entries, hinside, hentry⟩

theorem standsUnder_object : StandsUnder name inner (.object entries) ↔
    (.text name, inner) ∈ entries ∨ ∃ entry ∈ entries, StandsUnder name inner entry.2 := by
  constructor
  · rintro ⟨entries', hentries, hentry⟩
    cases hentries with
    | refl => exact .inl hentry
    | entry hmem hinside => exact .inr ⟨_, hmem, entries', hinside, hentry⟩
  · rintro (hmem | ⟨entry, hmem, entries', hentries, hentry⟩)
    · exact ⟨entries, .refl _, hmem⟩
    · exact ⟨entries', .entry hmem hentries, hentry⟩

theorem standsUnder_list : StandsUnder name inner (.list items) ↔
    ∃ item ∈ items, StandsUnder name inner item := by
  constructor
  · rintro ⟨entries', hentries, hentry⟩
    cases hentries with
    | item hmem hinside => exact ⟨_, hmem, entries', hinside, hentry⟩
  · rintro ⟨item, hmem, entries', hentries, hentry⟩
    exact ⟨entries', .item hmem hentries, hentry⟩

theorem lacks_object : Lacks name (.object entries)
    ↔ ∀ entry ∈ entries, entry.1 ≠ .text name ∧ Lacks name entry.2 := by
  constructor
  · refine fun h entry hmem => ⟨fun hkey => ?_, fun inner hinner => ?_⟩
    · exact h entry.2 ⟨entries, .refl _, by rwa [← hkey]⟩
    · obtain ⟨entries', hentries, hentry⟩ := hinner
      exact h inner ⟨entries', .entry hmem hentries, hentry⟩
  · rintro h inner ⟨entries', hentries, hentry⟩
    cases hentries with
    | refl => exact (h _ hentry).1 rfl
    | entry hmem hinside => exact (h _ hmem).2 inner ⟨entries', hinside, hentry⟩

theorem Lacks.find? (h : Lacks name (.object entries)) {key : Key}
    (hfind : Entries.find? entries key = some value) : Lacks name value := by
  obtain ⟨key', hmem, -⟩ := Entries.mem_of_find? hfind
  exact (lacks_object.mp h _ hmem).2

theorem lacks_insert {key : Key} (h : Lacks name (.object entries)) (hkey : key ≠ .text name)
    (hvalue : Lacks name value) : Lacks name (.object (Entries.insert entries key value)) := by
  rw [lacks_object] at h ⊢
  intro entry hentry
  rcases Entries.mem_insert hentry with hmem | ⟨hnew, hsame⟩
  · exact h entry hmem
  · refine ⟨fun hname => hkey ?_, hnew ▸ hvalue⟩
    rcases hsame with heq | hbeq
    · rw [← heq, hname]
    · rw [hname] at hbeq
      exact Key.beq_text.mp (PartialEquivBEq.symm hbeq)

theorem lacks_merge {added : Members} (h : Lacks name (.object entries))
    (hadded : Lacks name (.object added)) : Lacks name (.object (Entries.merge entries added)) := by
  induction added generalizing entries with
  | nil => exact h
  | cons entry rest ih =>
    rw [lacks_object, List.forall_mem_cons] at hadded
    exact ih (lacks_insert h hadded.1.1 hadded.1.2) (lacks_object.mpr hadded.2)

theorem lacks_ofPairs (h : Lacks name (.object entries)) :
    Lacks name (.object (Entries.ofPairs entries)) :=
  lacks_merge (lacks_object.mpr fun _ h => absurd h List.not_mem_nil) h

/-! ### A test for names -/

mutual

/-- In some object in the value, there is an entry under the name. -/
def hasName (name : String) : Datum → Bool
  | .list items | .tuple items => someHaveName name items
  | .object entries => entriesHaveName name entries
  | _ => false

/-- There is such an entry in some of the items. -/
def someHaveName (name : String) : List Datum → Bool
  | [] => false
  | item :: rest => hasName name item || someHaveName name rest

/-- There is such an entry among these, or in the value of one. -/
def entriesHaveName (name : String) : List (Key × Datum) → Bool
  | [] => false
  | (key, value) :: rest =>
    key == .text name || hasName name value || entriesHaveName name rest

end

theorem someHaveName_iff :
    someHaveName name items = true ↔ ∃ item ∈ items, hasName name item = true := by
  induction items with
  | nil => simp [someHaveName]
  | cons item rest ih => simp [someHaveName, ih]

theorem entriesHaveName_iff :
    entriesHaveName name entries = true ↔
      ∃ entry ∈ entries, entry.1 = .text name ∨ hasName name entry.2 = true := by
  induction entries with
  | nil => simp [entriesHaveName]
  | cons entry rest ih => simp [entriesHaveName, ih, Key.beq_text]

theorem hasName_of_isPart (h : IsPart piece whole) (hname : hasName name piece = true) :
    hasName name whole = true := by
  induction h with
  | refl => exact hname
  | item hmem _ ih | component hmem _ ih =>
    rw [hasName, someHaveName_iff]
    exact ⟨_, hmem, ih⟩
  | entry hmem _ ih =>
    rw [hasName, entriesHaveName_iff]
    exact ⟨_, hmem, .inr (ih)⟩

theorem lacks_of_hasName (h : hasName name whole = false) : Lacks name whole := by
  rintro value ⟨entries, hentries, hmem⟩
  have hname : hasName name (.object entries) = true := by
    rw [hasName, entriesHaveName_iff]
    exact ⟨_, hmem, .inl rfl⟩
  rw [hasName_of_isPart hentries hname] at h
  cases h

end SchemaBridge.Datum
