import Mathlib
import SchemaBridge.Proofs.Completion
import SchemaBridge.Proofs.Merging

/-!
# Schemas that say at least what others say

A generated schema without branches allows fewer values the more it says: each of its keywords has
to be satisfied, and so have the schemas of the parts. So if one schema has all that another one has
and more, the values that it allows are among those that the other one allows, however far the
references lead. A keyword that is read by a check of its own says more than one that is not read.

* `Refines`: a schema that says at least what another one says.
* `itemsOutcome_eq_valid_iff`, `propertiesOutcome_eq_valid_iff`: when nothing is reported of parts.
* `entry_valid_of_plain`, `entry_valid_of_items`, `entry_valid_of_properties`: one keyword, given what
  is allowed of the parts.
* `report_valid_of_refines`: whole schemas.
-/

namespace SchemaBridge

namespace Schema

open Outcome

/-- The dialect has a rule for the keyword. -/
def HasRule (keyword : String) : Prop := Vocabulary.rule? .draft4 keyword ≠ none

/-- The first schema says at least what the second one says. Both refer to the same definition; or
the second one has no branches, the keywords of it that are about the value itself stand in the
first one as well, and the same holds of the schemas of parts. -/
inductive Refines : Datum → Datum → Prop
  | reference {entries entries' : Members} {name : String}
      (href : Entries.find? entries "$ref" = some (Reference.toDefinition name))
      (href' : Entries.find? entries' "$ref" = some (Reference.toDefinition name))
      (hplain : Reference.IsPlain name) : Refines (.object entries) (.object entries')
  | keywords {entries entries' : Members}
      (honly : HasOnly generatedKeywords entries)
      (honly' : HasOnly generatedKeywords entries')
      (hplain : ∀ keyword ∈ plainKeywords, HasRule keyword → ∀ value,
        (.text keyword, value) ∈ entries' → (.text keyword, value) ∈ entries)
      (hitems : ∀ value', (.text "items", value') ∈ entries' →
        ∃ value, (.text "items", value) ∈ entries)
      (hitem : ∀ value value', (.text "items", value) ∈ entries →
        (.text "items", value') ∈ entries' → Refines value value')
      (hproperties : ∀ value', (.text "properties", value') ∈ entries' →
        ∃ properties properties', value' = .object properties'
          ∧ (.text "properties", .object properties) ∈ entries
          ∧ Entries.keys properties = Entries.keys properties')
      (hproperty : ∀ properties properties', (.text "properties", .object properties) ∈ entries →
        (.text "properties", .object properties') ∈ entries' →
        ∀ pair ∈ properties.zip properties', Refines pair.1.2 pair.2.2)
      (hbranches : ∀ value', (.text "oneOf", value') ∉ entries') :
      Refines (.object entries) (.object entries')

namespace Refines

/-- A schema about the value itself says no less than itself. -/
theorem of_plain {entries : Members} (honly : HasOnly plainKeywords entries) :
    Refines (.object entries) (.object entries) := by
  have hmissing {name : String} (hname : name ∉ plainKeywords) (value : Datum) :
      (.text name, value) ∉ entries := honly.not_mem hname value
  have hgenerated : HasOnly generatedKeywords entries := honly.mono (List.subset_append_left _ _)
  exact .keywords hgenerated hgenerated (fun _ _ _ _ => id)
    (fun value hmem => absurd hmem (hmissing (by decide) value))
    (fun value _ hmem => absurd hmem (hmissing (by decide) value))
    (fun value hmem => absurd hmem (hmissing (by decide) value))
    (fun properties _ hmem => absurd hmem (hmissing (by decide) (.object properties)))
    fun value => hmissing (by decide) value

/-- Keywords about the value itself may be added to both schemas, if those of the second one are
among those of the first one in the end. -/
theorem merge {entries entries' added added' : Members}
    (h : Refines (.object entries) (.object entries')) (hadded : HasOnly plainKeywords added)
    (hadded' : HasOnly plainKeywords added')
    (hkept : ∀ keyword value, HasRule keyword →
      (.text keyword, value) ∈ Entries.merge entries' added' →
        (.text keyword, value) ∈ Entries.merge entries added) :
    Refines (.object (Entries.merge entries added)) (.object (Entries.merge entries' added')) := by
  have hold {name : String} {value : Datum} (hname : name ∉ plainKeywords) :
      (.text name, value) ∈ Entries.merge entries added → (.text name, value) ∈ entries :=
    fun hmem => (hadded.mem_merge hmem).resolve_right (hadded.not_mem hname value)
  have hold' {name : String} {value : Datum} (hname : name ∉ plainKeywords) :
      (.text name, value) ∈ Entries.merge entries' added' → (.text name, value) ∈ entries' :=
    fun hmem => (hadded'.mem_merge hmem).resolve_right (hadded'.not_mem hname value)
  have hnew {name : String} {value : Datum} (hname : name ∉ plainKeywords) :
      (.text name, value) ∈ entries → (.text name, value) ∈ Entries.merge entries added :=
    hadded.mem_merge_of_mem hname
  cases h with
  | reference href href' hplain =>
    exact .reference ((hadded.find?_merge (by decide) entries).trans href)
      ((hadded'.find?_merge (by decide) entries').trans href') hplain
  | keywords honly honly' hplain hitems hitem hproperties hproperty hbranches =>
    refine .keywords (honly.merge (hadded.mono (List.subset_append_left _ _)))
      (honly'.merge (hadded'.mono (List.subset_append_left _ _)))
      (fun keyword _ hrule value => hkept keyword value hrule) (fun value' hmem => ?_)
      (fun value value' hmem hmem' => ?_) (fun value' hmem => ?_)
      (fun properties properties' hmem hmem' => ?_) fun value' hmem => ?_
    · obtain ⟨value, hvalue⟩ := hitems value' (hold' (by decide) hmem)
      exact ⟨value, hnew (by decide) hvalue⟩
    · exact hitem value value' (hold (by decide) hmem) (hold' (by decide) hmem')
    · obtain ⟨properties, properties', heq, hvalue, hkeys⟩ :=
        hproperties value' (hold' (by decide) hmem)
      exact ⟨properties, properties', heq, hnew (by decide) hvalue, hkeys⟩
    · exact hproperty properties properties' (hold (by decide) hmem) (hold' (by decide) hmem')
    · exact hbranches value' (hold' (by decide) hmem)

end Refines

/-! ## Parts -/

section

variable {level : String → Nat} {top : Nat} {task : Task}

theorem itemsOutcome_eq_valid_iff (hsetting : task.setting = .outset []) {schema : Datum}
    (hgen : Generated level top top schema) :
    itemsOutcome task schema = .valid ↔ ∀ items, task.data = .list items → ∀ item ∈ items,
      task.next task.extent (.outset []) schema item = .valid := by
  obtain ⟨entries, rfl⟩ := hgen.exists_object
  rw [itemsOutcome]
  cases hdata : task.data with
  | list items =>
    have hpair (pair : Datum × Nat) :
        (task.into pair.1).descend (.object entries) [.index pair.2] [] = .valid
          ↔ task.next task.extent (.outset []) (.object entries) pair.1 = .valid := by
      rw [Task.descend_eq hgen (Task.setting_into hsetting pair.1), inside_eq_valid_iff]
      rfl
    dsimp only
    rw [itemsFrom, each_eq_valid_iff, List.drop_zero]
    simp only [hpair, Datum.list.injEq, forall_eq']
    exact forall_mem_zipIdx
      (p := fun item => task.next task.extent (.outset []) (.object entries) item = .valid)
  | _ => simp

theorem propertiesOutcome_eq_valid_iff (hsetting : task.setting = .outset [])
    {properties : Members} (hgen : ∀ property ∈ properties, Generated level top top property.2) :
    propertiesOutcome task (.object properties) = .valid ↔ ∀ entries, task.data = .object entries →
      ∀ property ∈ properties, ∀ value, Entries.find? entries property.1 = some value →
        task.next task.extent (.outset []) property.2 value = .valid := by
  rw [propertiesOutcome]
  cases hdata : task.data with
  | object entries =>
    dsimp only
    rw [each_eq_valid_iff]
    simp only [Datum.object.injEq, forall_eq']
    refine forall₂_congr fun property hproperty => ?_
    cases hfind : Entries.find? entries property.1 with
    | none => simp
    | some value =>
      dsimp only
      rw [Task.descend_eq (hgen property hproperty) (Task.setting_into hsetting value),
        inside_eq_valid_iff]
      simp only [Option.some.injEq, forall_eq']
      rfl
  | _ => simp

end

/-! ## Keywords about the value itself -/

/-- No generated keyword modifies a keyword about the value itself. -/
theorem rule_congr_entries {keyword : String} (hkeyword : keyword ∈ plainKeywords) {rule : Rule}
    (hrule : Vocabulary.rule? .draft4 keyword = some rule) (task : Task) {entries : Members}
    (honly : HasOnly generatedKeywords task.entries) (honly' : HasOnly generatedKeywords entries)
    (value : Datum) : rule { task with entries } value = rule task value := by
  have hset {modifier : String} (hmodifier : modifier ∉ generatedKeywords) :
      isSet entries modifier = isSet task.entries modifier := by
    rw [isSet, isSet, honly.find?_eq_none hmodifier, honly'.find?_eq_none hmodifier]
  simp only [plainKeywords, List.mem_cons, List.not_mem_nil, or_false] at hkeyword
  rcases hkeyword with rfl | rfl | rfl | rfl | rfl | rfl | rfl | rfl | rfl | rfl | rfl | rfl | rfl |
    rfl | rfl
  all_goals cases hrule
  all_goals first
    | rfl
    | (dsimp only; rw [hset (by decide)])

section

variable {checks : Table Check} {definitions definitions' entries entries' : Members}
  {extent : Extent} {data : Datum}

theorem entry_eq_valid_iff {keyword : String} (hchecks : Entries.find? checks keyword = none)
    {rule : Rule} (hrule : Vocabulary.rule? .draft4 keyword = some rule) {value : Datum} :
    entryOutcome (bare checks definitions) (reportTask checks definitions extent entries data)
        (.text keyword) value = .valid
      ↔ rule (reportTask checks definitions extent entries data) value = .valid := by
  rw [entryOutcome_report hchecks, hrule, Option.map_some, Option.getD_some, inside_eq_valid_iff]

/-- What is said of the value itself does not depend on the definitions. -/
theorem entry_valid_of_plain {keyword : String} (hkeyword : keyword ∈ plainKeywords)
    (hchecks : Entries.find? checks keyword = none) {rule : Rule}
    (hrule : Vocabulary.rule? .draft4 keyword = some rule) (honly : HasOnly generatedKeywords entries)
    (honly' : HasOnly generatedKeywords entries') {value : Datum}
    (h : entryOutcome (bare checks definitions) (reportTask checks definitions extent entries data)
      (.text keyword) value = .valid) :
    entryOutcome (bare [] definitions') (reportTask [] definitions' extent entries' data)
      (.text keyword) value = .valid := by
  rw [entry_eq_valid_iff hchecks hrule] at h
  rw [entry_eq_valid_iff rfl hrule]
  have hparallel : Parallel (reportTask checks definitions extent entries data)
      (reportTask [] definitions' extent entries data) := ⟨rfl, rfl, rfl, rfl⟩
  have hsame : rule (reportTask [] definitions' extent entries' data) value
      = rule (reportTask [] definitions' extent entries data) value :=
    rule_congr_entries hkeyword hrule (reportTask [] definitions' extent entries data) honly
      honly' value
  exact hsame.trans ((rule_agree_of_plain hparallel hkeyword hrule).1.mp h)

/-! ## Keywords about parts -/

variable {level level' : String → Nat} {top top' : Nat}

/-- What is said of the items, if it is no more of each of them. -/
theorem entry_valid_of_items (hchecks : Entries.find? checks "items" = none) {value value' : Datum}
    (hgen : Generated level top top value) (hgen' : Generated level' top' top' value')
    (hparts : ∀ part, part.depth < data.depth → report checks definitions extent value part = .valid →
      report [] definitions' extent value' part = .valid)
    (h : entryOutcome (bare checks definitions) (reportTask checks definitions extent entries data)
      (.text "items") value = .valid) :
    entryOutcome (bare [] definitions') (reportTask [] definitions' extent entries' data)
      (.text "items") value' = .valid := by
  rw [entry_eq_valid_iff hchecks rfl, itemsOutcome_eq_valid_iff rfl hgen] at h
  rw [entry_eq_valid_iff rfl rfl, itemsOutcome_eq_valid_iff rfl hgen']
  rintro items rfl item hitem
  exact hparts item (Datum.depth_lt_of_mem_list hitem) (h items rfl item hitem)

/-- What is said of the entries of an object, if it is no more of each of them. -/
theorem entry_valid_of_properties (hchecks : Entries.find? checks "properties" = none)
    {properties properties' : Members}
    (hgen : ∀ property ∈ properties, Generated level top top property.2)
    (hgen' : ∀ property ∈ properties', Generated level' top' top' property.2)
    (hkeys : Entries.keys properties = Entries.keys properties')
    (hparts : ∀ pair ∈ properties.zip properties', ∀ part, part.depth < data.depth →
      report checks definitions extent pair.1.2 part = .valid →
        report [] definitions' extent pair.2.2 part = .valid)
    (h : entryOutcome (bare checks definitions) (reportTask checks definitions extent entries data)
      (.text "properties") (.object properties) = .valid) :
    entryOutcome (bare [] definitions') (reportTask [] definitions' extent entries' data)
      (.text "properties") (.object properties') = .valid := by
  rw [entry_eq_valid_iff hchecks rfl, propertiesOutcome_eq_valid_iff rfl hgen] at h
  rw [entry_eq_valid_iff rfl rfl, propertiesOutcome_eq_valid_iff rfl hgen']
  rintro members rfl property' hproperty' part hfind
  obtain ⟨property, hpair, hkey⟩ := Entries.exists_mem_zip hkeys hproperty'
  have hproperty : property ∈ properties := (List.of_mem_zip hpair).1
  exact hparts _ hpair part (Datum.depth_lt_of_find? hfind)
    (h members rfl property hproperty part (hkey ▸ hfind))

end

/-! ## Schemas -/

/-- The definitions say at least what the others say, and there is one for each of theirs. -/
def DefinitionsRefine (definitions definitions' : Members) : Prop :=
  ∀ name contents, Entries.find? definitions (.text name) = some contents →
    ∃ contents', Entries.find? definitions' (.text name) = some contents'
      ∧ Refines contents contents'

section

variable {level level' : String → Nat} {top top' bound bound' : Nat} {checks : Table Check}
  {definitions definitions' : Members} {schema schema' : Datum}

/-- A schema that says at least what another one says allows no other values: what comes next is a
schema at a value less deep, or a definition of a lower level. -/
theorem report_valid_of_refines (hlayered : Layered level top definitions)
    (htop : top ≤ 2 * definitions.length + 3) (hlayered' : Layered level' top' definitions')
    (htop' : top' ≤ 2 * definitions'.length + 3) (hlevel' : ∀ name, level' name < top')
    (hsilent : ∀ name, name ≠ ExtendedFormat.keyword → Entries.find? checks name = none)
    (hdefinitions : DefinitionsRefine definitions definitions') (hrefines : Refines schema schema')
    (hgen : Generated level top bound schema) (hbound : bound ≤ top)
    (hgen' : Generated level' top' bound' schema') (hbound' : bound' ≤ top') {extent : Extent}
    {data : Datum} (h : report checks definitions extent schema data = .valid) :
    report [] definitions' extent schema' data = .valid := by
  -- The weight falls with the depth of the value and, at the same value, with the bound.
  induction hlimit : weight top bound data using Nat.strong_induction_on
    generalizing bound bound' schema schema' data with
  | _ limit ih =>
    subst hlimit
    cases hrefines with
    | @reference entries entries' name href href' hplain =>
      have hchecks : Entries.find? checks "$ref" = none := hsilent _ (by decide)
      cases hfind : Entries.find? definitions name with
      | none =>
        rw [report_reference_of_missing hlayered htop hchecks href hgen hbound hplain hfind] at h
        cases h
      | some contents =>
        obtain ⟨contents', hfind', hcontents⟩ := hdefinitions name contents hfind
        have hlevel := (hgen.leads href).2
        rw [report_reference hlayered htop hchecks href hgen hbound hplain hfind] at h
        rw [report_reference hlayered' htop' rfl href' hgen' hbound' hplain hfind']
        refine ih _ ?_ hcontents (hlayered _ _ hfind) (hlevel.le.trans hbound)
          (hlayered' _ _ hfind') (hlevel' name).le h rfl
        unfold weight
        omega
    | @keywords entries entries' honly honly' hplain hitems hitem hproperties hproperty hbranches =>
      have hpart {part schema schema' : Datum} (hdepth : part.depth < data.depth)
          (hrefines : Refines schema schema') (hgen : Generated level top top schema)
          (hgen' : Generated level' top' top' schema')
          (h : report checks definitions extent schema part = .valid) :
          report [] definitions' extent schema' part = .valid :=
        ih _ (weight_lt_of_depth_lt hdepth bound) hrefines hgen le_rfl hgen' le_rfl h rfl
      rw [report_of_keywords hlayered htop honly hgen hbound, each_eq_valid_iff] at h
      rw [report_of_keywords hlayered' htop' honly' hgen' hbound', each_eq_valid_iff]
      rintro ⟨key, value'⟩ hentry'
      obtain ⟨name, hname, rfl⟩ := honly' _ hentry'
      rcases List.mem_append.mp hname with hname | hname
      · cases hrule : Vocabulary.rule? .draft4 name with
        | none => exact entryOutcome_of_unknown rfl rfl hrule value'
        | some rule =>
          have hknown : HasRule name := by simp [HasRule, hrule]
          have hchecks : Entries.find? checks name = none :=
            hsilent name fun heq => hknown (heq ▸ rfl)
          exact entry_valid_of_plain hname hchecks hrule honly honly'
            (h _ (hplain name hname hknown value' hentry'))
      simp only [List.mem_cons, List.not_mem_nil, or_false] at hname
      rcases hname with rfl | rfl | rfl
      · obtain ⟨value, hentry⟩ := hitems value' hentry'
        have hgenItem := hgen.items honly hentry
        have hgenItem' := hgen'.items honly' hentry'
        exact entry_valid_of_items (hsilent _ (by decide)) hgenItem hgenItem' (fun part hdepth =>
          hpart hdepth (hitem value value' hentry hentry') hgenItem hgenItem') (h _ hentry)
      · obtain ⟨properties, properties', rfl, hentry, hkeys⟩ := hproperties value' hentry'
        have hgenProperty := hgen.properties honly hentry
        have hgenProperty' := hgen'.properties honly' hentry'
        refine entry_valid_of_properties (hsilent _ (by decide)) hgenProperty hgenProperty' hkeys
          (fun pair hpair part hdepth => ?_) (h _ hentry)
        obtain ⟨hproperty₁, hproperty₂⟩ := List.of_mem_zip hpair
        exact hpart hdepth (hproperty properties properties' hentry hentry' pair hpair)
          (hgenProperty _ hproperty₁) (hgenProperty' _ hproperty₂)
      · exact absurd hentry' (hbranches value')

end

end Schema

end SchemaBridge
