import Mathlib
import SchemaBridge.Proofs.Meaning

/-!
# What keywords decide

When the keywords of generated schemas have nothing to report, one lemma for each of them. None is
stopped by a fault unless a schema that it applies is.

* `typeOutcome_decides`, `enumOutcome_decides`, `requiredOutcome_decides`: keywords about the value.
* `itemsOutcome_decides`, `propertiesOutcome_decides`: keywords about the parts of the value.
* `oneOfOutcome_decides`: exactly one position among the branches.
-/

namespace SchemaBridge

/-- A list can be cut in just one way before an element with a property, if no other element has
it; then exactly one position has it. -/
theorem exists_unique_getElem?_iff {α : Type} {items : List α} {p : α → Prop} :
    (∃! position : Nat, ∃ item, items[position]? = some item ∧ p item) ↔
      ∃ before first rest, items = before ++ first :: rest ∧ p first ∧
        (∀ item ∈ before, ¬p item) ∧ ∀ item ∈ rest, ¬p item := by
  constructor
  · rintro ⟨position, ⟨item, hitem, hp⟩, hunique⟩
    obtain ⟨hlt, rfl⟩ := List.getElem?_eq_some_iff.mp hitem
    refine ⟨items.take position, items[position], items.drop (position + 1), ?_, hp, ?_, ?_⟩
    · rw [List.cons_getElem_drop_succ, List.take_append_drop]
    · intro other hother hother'
      obtain ⟨index, hindex, rfl⟩ := List.mem_take_iff_getElem.mp hother
      have := hunique index ⟨_, List.getElem?_eq_getElem (by omega), hother'⟩
      omega
    · intro other hother hother'
      obtain ⟨index, hindex, rfl⟩ := List.mem_drop_iff_getElem.mp hother
      have := hunique (position + 1 + index) ⟨_, List.getElem?_eq_getElem (by omega), hother'⟩
      omega
  · rintro ⟨before, first, rest, rfl, hp, hbefore, hrest⟩
    refine ⟨before.length, ⟨first, by simp, hp⟩, ?_⟩
    rintro index ⟨item, hitem, hp'⟩
    rcases Nat.lt_trichotomy index before.length with hlt | heq | hgt
    · rw [List.getElem?_append_left hlt] at hitem
      exact absurd hp' (hbefore item (List.mem_of_getElem? hitem))
    · exact heq
    · obtain ⟨after, rfl⟩ := Nat.exists_eq_add_of_lt hgt
      rw [List.getElem?_append_right (by omega)] at hitem
      have hafter : before.length + after + 1 - before.length = after + 1 := by omega
      rw [hafter, List.getElem?_cons_succ] at hitem
      exact absurd hp' (hrest item (List.mem_of_getElem? hitem))

theorem forall_mem_congr_of_forall₂ {α β : Type} {p : α → Prop} {q : β → Prop} {items : List α}
    {items' : List β} (h : List.Forall₂ (fun item item' => p item ↔ q item') items items') :
    (∀ item ∈ items, p item) ↔ ∀ item' ∈ items', q item' := by
  induction h with
  | nil => simp
  | cons hitem _ ih => rw [List.forall_mem_cons, List.forall_mem_cons, hitem, ih]

theorem exists_getElem?_congr_of_forall₂ {α β : Type} {p : α → Prop} {q : β → Prop}
    {items : List α} {items' : List β}
    (h : List.Forall₂ (fun item item' => p item ↔ q item') items items') (position : Nat) :
    (∃ item, items[position]? = some item ∧ p item) ↔
      ∃ item', items'[position]? = some item' ∧ q item' := by
  induction h generalizing position with
  | nil => simp
  | cons hitem _ ih =>
    cases position with
    | zero => simpa using hitem
    | succ position => simpa using ih position

namespace Schema

open Outcome

/-! ## Keywords about the value -/

theorem isOfAny_eq_ok {data : Datum} {names : List String} {types : List TypeName}
    (htypes : names.map (TypeName.ofName? .registered) = types.map some) :
    TypeName.isOfAny .registered data (names.map .text)
      = .ok (types.any fun type => type.accepts data) := by
  induction names generalizing types with
  | nil =>
    rw [List.map_nil, eq_comm, List.map_eq_nil_iff] at htypes
    rw [htypes]
    rfl
  | cons name rest ih =>
    obtain ⟨type, types, rfl⟩ : ∃ type types', types = type :: types' := by
      cases types with
      | nil => cases htypes
      | cons type types' => exact ⟨type, types', rfl⟩
    rw [List.map_cons, List.map_cons, List.cons.injEq] at htypes
    rw [List.map_cons, TypeName.isOfAny, TypeName.isOf, htypes.1, List.any_cons]
    dsimp only
    cases type.accepts data with
    | true => rfl
    | false => exact ih htypes.2

/-- The value is of one of the types that are named. -/
theorem typeOutcome_decides {value : Datum} {names : List String} {types : List TypeName}
    (hvalue : TypeName.names? value = some (names.map .text))
    (htypes : names.map (TypeName.ofName? .registered) = types.map some) (data : Datum) :
    Decides (typeOutcome .registered value data) (∃ type ∈ types, type.accepts data = true) := by
  rw [typeOutcome, hvalue]
  dsimp only
  rw [isOfAny_eq_ok htypes, Outcome.ofExcept]
  exact (Decides.require _ _ _).congr List.any_eq_true

theorem jsonEqual_text_iff {name : String} {data : Datum} :
    Datum.jsonEqual (.text name) data = true ↔ data = .text name := by
  cases data with
  | text value => rw [Datum.jsonEqual, beq_iff_eq, Datum.text.injEq, eq_comm]
  | _ => simp [Datum.jsonEqual]

theorem enumOutcome_decides (names : List String) (data : Datum) :
    Decides (enumOutcome (.list (names.map .text)) data) (∃ name ∈ names, data = .text name) := by
  refine (Decides.require _ _ _).congr ?_
  simp [jsonEqual_text_iff]

/-- An object has all the keys. -/
theorem requiredOutcome_decides (names : List String) (extent : Extent) (data : Datum) :
    Decides (requiredOutcome extent (.list (names.map .text)) data)
      (∀ entries, data = .object entries →
        ∀ name ∈ names, Entries.has entries (.text name) = true) := by
  cases data with
  | object entries =>
    have hnames : Decides (.each extent names fun name => .require "required"
          (Entries.has entries (.text name)) (Wording.required (.text name)))
        (∀ name ∈ names, Entries.has entries (.text name) = true) :=
      .each fun name _ => .require _ _ _
    rw [requiredOutcome, requiredNames]
    dsimp only [Datum.items?]
    rw [each_map]
    exact hnames.congr (by simp)
  | _ => exact Decides.valid.congr (by simp)

/-! ## Keywords about parts -/

variable {level : String → Nat} {top bound : Nat} {task : Task}

theorem descend_decides {schema : Datum} {condition : Prop}
    (hsetting : task.setting = .outset []) (hgen : Generated level top bound schema)
    (h : Decides (task.next task.extent (.outset []) schema task.data) condition)
    (path schemaPath : List PathStep) :
    Decides (task.descend schema path schemaPath) condition := by
  rw [Task.descend_eq hgen hsetting]
  exact h.inside _ _

/-- What holds of the items of a list does not depend on their positions. -/
theorem forall_mem_zipIdx {α : Type} {items : List α} {p : α → Prop} :
    (∀ pair ∈ items.zipIdx, p pair.1) ↔ ∀ item ∈ items, p item := by
  rw [← List.forall_mem_map (f := Prod.fst), List.zipIdx_map_fst]

/-- A schema for all items of a list. -/
theorem itemsOutcome_decides (hsetting : task.setting = .outset [])
    {schema : Datum} (hgen : Generated level top top schema) {condition : Datum → Prop}
    (h : ∀ items, task.data = .list items → ∀ item ∈ items,
      Decides (task.next task.extent (.outset []) schema item) (condition item)) :
    Decides (itemsOutcome task schema)
      (∀ items, task.data = .list items → ∀ item ∈ items, condition item) := by
  obtain ⟨entries, rfl⟩ := hgen.exists_object
  rw [itemsOutcome]
  cases hdata : task.data with
  | list items =>
    have hpositions : (∀ pair ∈ items.zipIdx, condition pair.1) ↔
        ∀ items', Datum.list items = .list items' → ∀ item ∈ items', condition item := by
      rw [forall_mem_zipIdx]
      simp
    refine Decides.congr ?_ hpositions
    exact .each fun pair hpair =>
      descend_decides (Task.setting_into hsetting pair.1) hgen
        (h items hdata pair.1 (List.fst_mem_of_mem_zipIdx hpair)) _ _
  | _ => exact Decides.valid.congr (by simp)

/-- A schema for each property of an object, where each property comes from a source with its key. -/
theorem propertiesOutcome_decides {α : Type} (hsetting : task.setting = .outset [])
    {properties : Members} (hgen : ∀ property ∈ properties, Generated level top top property.2)
    {sources : List α} {key : α → Key} {condition : α → Datum → Prop}
    (h : List.Forall₂ (fun property source => property.1 = key source ∧
      ∀ entries value, task.data = .object entries →
        Entries.find? entries (key source) = some value →
        Decides (task.next task.extent (.outset []) property.2 value) (condition source value))
      properties sources) :
    Decides (propertiesOutcome task (.object properties))
      (∀ entries, task.data = .object entries → ∀ source ∈ sources, ∀ value,
        Entries.find? entries (key source) = some value → condition source value) := by
  rw [propertiesOutcome]
  cases hdata : task.data with
  | object entries =>
    have hsources : (∀ source ∈ sources, ∀ value,
          Entries.find? entries (key source) = some value → condition source value) ↔
        ∀ entries', Datum.object entries = .object entries' → ∀ source ∈ sources, ∀ value,
          Entries.find? entries' (key source) = some value → condition source value := by simp
    refine Decides.congr ?_ hsources
    have hall := (List.forall₂_and_left _ _).mpr ⟨hgen, h⟩
    refine .forall₂ (hall.imp fun property source hproperty => ?_)
    obtain ⟨hgen, hkey, hvalue⟩ := hproperty
    dsimp only
    rw [hkey]
    cases hfind : Entries.find? entries (key source) with
    | none => exact Decides.valid.congr (by simp)
    | some value =>
      have hdescend := descend_decides (Task.setting_into hsetting value) hgen
        (hvalue entries value hdata hfind) [.key (key source)] [.key (key source)]
      exact hdescend.congr (by simp)
  | _ => exact Decides.valid.congr (by simp)

/-! ## Branches -/

section

variable {branches : List Datum}

theorem exists_firstValid (h : ∀ branch ∈ branches, ∃ violations,
    task.listing branch = .ok violations) : ∃ found, firstValid task branches = .ok found := by
  induction branches with
  | nil => exact ⟨none, rfl⟩
  | cons branch rest ih =>
    obtain ⟨⟨violations, hviolations⟩, hrest⟩ := List.forall_mem_cons.mp h
    rw [firstValid, hviolations]
    cases violations with
    | nil => exact ⟨some (branch, rest), rfl⟩
    | cons => exact ih hrest

theorem exists_filterM {α : Type} {test : α → Except Fault Bool} {items : List α}
    (h : ∀ item ∈ items, ∃ answer, test item = .ok answer) :
    ∃ kept, items.filterM test = .ok kept := by
  induction items with
  | nil => exact ⟨[], rfl⟩
  | cons item rest ih =>
    obtain ⟨⟨answer, hanswer⟩, hrest⟩ := List.forall_mem_cons.mp h
    obtain ⟨kept, hkept⟩ := ih hrest
    rw [filterM_cons, hanswer, hkept]
    exact ⟨_, rfl⟩

theorem oneOfOutcome_fault {value : Datum} (hvalue : value.items? = some branches)
    (hlisting : ∀ branch ∈ branches, ∃ violations, task.listing branch = .ok violations)
    (hallows : ∀ branch ∈ branches, ∃ answer, task.allows branch = .ok answer) :
    (oneOfOutcome task value).fault = none := by
  obtain ⟨found, hfound⟩ := exists_firstValid hlisting
  rw [oneOfOutcome, hvalue]
  dsimp only
  rw [hfound, Outcome.ofExcept]
  obtain _ | ⟨first, rest⟩ := found
  · rfl
  · obtain ⟨others, hothers⟩ := exists_filterM fun branch hbranch =>
      hallows branch (subset_of_firstValid hfound hbranch)
    dsimp only
    rw [hothers, Outcome.ofExcept]
    cases others <;> rfl

theorem oneOfOutcome_decides_of_forall (hsetting : task.setting = .outset []) {value : Datum}
    (hvalue : value.items? = some branches)
    (hgen : ∀ branch ∈ branches, Generated level top bound branch) {condition : Datum → Prop}
    (h : ∀ branch ∈ branches, ∀ extent,
      Decides (task.next extent (.outset []) branch task.data) (condition branch)) :
    Decides (oneOfOutcome task value)
      (∃! position : Nat, ∃ branch, branches[position]? = some branch ∧ condition branch) := by
  have hlisting : ∀ branch ∈ branches, ∃ violations, task.listing branch = .ok violations ∧
      (violations = [] ↔ condition branch) := by
    intro branch hbranch
    rw [Task.listing_eq (hgen branch hbranch) hsetting]
    exact (h branch hbranch .all).listing
  have hallows : ∀ branch ∈ branches, ∃ answer, task.allows branch = .ok answer ∧
      (answer = true ↔ condition branch) := by
    intro branch hbranch
    rw [Task.allows_eq (hgen branch hbranch) hsetting]
    exact (h branch hbranch .trial).verdict
  refine .of_fault (oneOfOutcome_fault hvalue
    (fun branch hbranch => (hlisting branch hbranch).imp fun _ h => h.1)
    fun branch hbranch => (hallows branch hbranch).imp fun _ h => h.1) ?_
  rw [oneOfOutcome_eq_valid_iff hvalue, exists_unique_getElem?_iff]
  refine exists_congr fun before => exists_congr fun first => exists_congr fun rest =>
    and_congr_right fun heq => ?_
  subst heq
  refine and_congr ?_ (and_congr (forall₂_congr fun branch hbranch => ?_)
    (forall₂_congr fun branch hbranch => ?_))
  · obtain ⟨violations, hviolations, hcondition⟩ := hlisting first (by simp)
    rw [hviolations, Except.ok.injEq, hcondition]
  · obtain ⟨violations, hviolations, hcondition⟩ :=
      hlisting branch (List.mem_append_left _ hbranch)
    rw [hviolations, ← hcondition]
    simp
  · obtain ⟨answer, hanswer, hcondition⟩ :=
      hallows branch (List.mem_append_right _ (List.mem_cons_of_mem _ hbranch))
    rw [hanswer, Except.ok.injEq, ← hcondition, Bool.not_eq_true]

/-- Exactly one position among the branches, each of which comes from a source. -/
theorem oneOfOutcome_decides {α : Type} (hsetting : task.setting = .outset []) {value : Datum}
    (hvalue : value.items? = some branches)
    (hgen : ∀ branch ∈ branches, Generated level top bound branch) {sources : List α}
    {condition : α → Prop}
    (h : List.Forall₂ (fun branch source => ∀ extent,
      Decides (task.next extent (.outset []) branch task.data) (condition source))
      branches sources) :
    Decides (oneOfOutcome task value)
      (∃! position : Nat, ∃ source, sources[position]? = some source ∧ condition source) := by
  let allowed (branch : Datum) : Prop := task.next .trial (.outset []) branch task.data = .valid
  have hallowed : List.Forall₂ (fun branch source =>
      (∀ extent, Decides (task.next extent (.outset []) branch task.data) (allowed branch)) ∧
        (allowed branch ↔ condition source)) branches sources :=
    h.imp fun branch source hbranch =>
      have hiff := (hbranch .trial).eq_valid_iff
      ⟨fun extent => (hbranch extent).congr hiff.symm, hiff⟩
  obtain ⟨hbranches, hsources⟩ := (List.forall₂_and_left _ _).mp hallowed
  refine (oneOfOutcome_decides_of_forall hsetting hvalue hgen hbranches).congr ?_
  exact existsUnique_congr fun position => exists_getElem?_congr_of_forall₂ hsources position

end

end Schema

end SchemaBridge
