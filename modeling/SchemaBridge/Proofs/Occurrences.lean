import Mathlib
import SchemaBridge.Proofs.Completion

/-!
# Values inside of values

A recursive type is applied to values inside of the value that it is applied to. What is reported of
one of these is what is reported of it alone: if the whole report comes to an end, the report on the
part stands in it, without gaps and in its order, with the steps that lead to the part. Branches are
left out here, for what they find is not listed.

* `Outcome.Carries`: a report has another one in it.
* `Outcome.Carries.listing`: what is listed then.
* `Schema.Reaches`: applied to the data, a schema brings a value to a definition.
* `Schema.report_carries`: what is reported of the value alone is in the whole report.
-/

namespace SchemaBridge

namespace Outcome

variable {α : Type} {outcome inner : Outcome} {path : List PathStep}

/-- If the report is complete, the other one is complete as well, and the report lists all of it,
seen through the steps. -/
def Carries (path : List PathStep) (outcome inner : Outcome) : Prop :=
  outcome.Completes → inner.Completes ∧
    ∃ schemaPath, (inner.inside path schemaPath).violations <:+: outcome.violations

theorem carries_self (outcome : Outcome) : outcome.Carries [] outcome := fun h =>
  ⟨h, [], by rw [inside_nil]⟩

theorem inside_inside (path path' schemaPath schemaPath' : List PathStep) :
    (outcome.inside path schemaPath).inside path' schemaPath'
      = outcome.inside (path' ++ path) (schemaPath' ++ schemaPath) := by
  simp [inside, Function.comp_def]

theorem Carries.inside (h : outcome.Carries path inner) (path' schemaPath' : List PathStep) :
    (outcome.inside path' schemaPath').Carries (path' ++ path) inner := by
  intro hcomplete
  obtain ⟨hinner, schemaPath, hinfix⟩ := h (completes_inside.mp hcomplete)
  refine ⟨hinner, schemaPath' ++ schemaPath, ?_⟩
  rw [← inside_inside]
  exact hinfix.map _

/-- A complete report on a list has the report on each item in it. -/
theorem infix_of_each {items : List α} {report : α → Outcome}
    (h : (each .all items report).Completes) {item : α} (hitem : item ∈ items) :
    (report item).violations <:+: (each .all items report).violations := by
  induction items with
  | nil => cases hitem
  | cons first rest ih =>
    have hfirst : (report first).Completes := completes_of_each h first List.mem_cons_self
    rw [each_cons, andThen_all hfirst] at h ⊢
    rcases List.mem_cons.mp hitem with rfl | hitem
    · exact (List.prefix_append _ _).isInfix
    · exact (ih h hitem).trans (List.suffix_append _ _).isInfix

theorem Carries.each {items : List α} {report : α → Outcome} {item : α} (hitem : item ∈ items)
    (h : (report item).Carries path inner) : (each .all items report).Carries path inner := by
  intro hcomplete
  obtain ⟨hinner, schemaPath, hinfix⟩ := h (completes_of_each hcomplete item hitem)
  exact ⟨hinner, schemaPath, hinfix.trans (infix_of_each hcomplete hitem)⟩

theorem listing_eq_ok_iff {found : List Violation} :
    outcome.listing = .ok found ↔ outcome = ⟨found, none⟩ := by
  obtain ⟨violations, fault⟩ := outcome
  cases fault <;> simp [listing]

/-- What a report lists has in it what the other one lists. -/
theorem Carries.listing (h : outcome.Carries path inner) {found : List Violation}
    (hfound : outcome.listing = .ok found) :
    ∃ found' schemaPath, inner.listing = .ok found'
      ∧ (Outcome.inside path schemaPath ⟨found', none⟩).violations <:+: found := by
  obtain rfl := listing_eq_ok_iff.mp hfound
  obtain ⟨violations, fault⟩ := inner
  obtain ⟨rfl, schemaPath, hinfix⟩ := h rfl
  exact ⟨violations, schemaPath, rfl, hinfix⟩

end Outcome

namespace Schema

open Outcome

/-- Applied to the data, the schema brings the value, which stands behind the steps, to the
definition of the name. -/
inductive Reaches (definitions : Members) (name : String) (value : Datum) :
    List PathStep → Datum → Datum → Prop
  | here {entries : Members}
      (href : Entries.find? entries "$ref" = some (Reference.toDefinition name)) :
      Reaches definitions name value [] (.object entries) value
  | reference {entries : Members} {name' : String} {contents data : Datum} {path : List PathStep}
      (href : Entries.find? entries "$ref" = some (Reference.toDefinition name'))
      (hfind : Entries.find? definitions name' = some contents)
      (h : Reaches definitions name value path contents data) :
      Reaches definitions name value path (.object entries) data
  | item {entries : Members} {schema item : Datum} {items : List Datum} {position : Nat}
      {path : List PathStep} (hmissing : Entries.find? entries "$ref" = none)
      (hitems : (.text "items", schema) ∈ entries) (hitem : items[position]? = some item)
      (h : Reaches definitions name value path schema item) :
      Reaches definitions name value (.index position :: path) (.object entries) (.list items)
  | property {entries properties members : Members} {key : Key} {schema part : Datum}
      {path : List PathStep} (hmissing : Entries.find? entries "$ref" = none)
      (hproperties : (.text "properties", .object properties) ∈ entries)
      (hproperty : (key, schema) ∈ properties) (hpart : Entries.find? members key = some part)
      (h : Reaches definitions name value path schema part) :
      Reaches definitions name value (.key key :: path) (.object entries) (.object members)

variable {level : String → Nat} {top bound : Nat} {checks : Table Check}
  {definitions entries : Members} {name : String} {value data schema contents : Datum}
  {path : List PathStep} {inner : Outcome}

theorem Generated.hasOnly_of_missing (h : Generated level top bound (.object entries))
    (hmissing : Entries.find? entries "$ref" = none) : HasOnly generatedKeywords entries := by
  cases h with
  | reference href =>
    rw [hmissing] at href
    cases href
  | keywords _ honly => exact honly

/-- A report has in it what one of its keywords reports. -/
theorem report_carries_of_entry (hlayered : Layered level top definitions)
    (htop : top ≤ 2 * definitions.length + 3) (honly : HasOnly generatedKeywords entries)
    (hgen : Generated level top bound (.object entries)) (hbound : bound ≤ top)
    (hmem : (.text name, schema) ∈ entries) (hchecks : Entries.find? checks name = none)
    {rule : Rule} (hrule : Vocabulary.rule? .draft4 name = some rule)
    (h : (rule (reportTask checks definitions .all entries data) schema).Carries path inner) :
    (report checks definitions .all (.object entries) data).Carries path inner := by
  rw [report_of_keywords hlayered htop honly hgen hbound]
  refine Carries.each hmem ?_
  rw [entryOutcome_report hchecks, hrule, Option.map_some, Option.getD_some]
  exact h.inside [] _

/-- On a part of the value, the report is that of the part, seen from the whole. -/
theorem descend_reportTask (hgen : Generated level top bound schema) (part : Datum)
    (path schemaPath : List PathStep) :
    ((reportTask checks definitions .all entries data).into part).descend schema path schemaPath
      = (report checks definitions .all schema part).inside path schemaPath := by
  have hsetting : (reportTask checks definitions .all entries data).setting = .outset [] := rfl
  exact Task.descend_eq hgen (Task.setting_into hsetting part) path schemaPath

/-- What is reported of a value that a schema brings to a definition is what is reported of the value
alone. -/
theorem report_carries (hlayered : Layered level top definitions)
    (htop : top ≤ 2 * definitions.length + 3)
    (hsilent : ∀ name, name ≠ ExtendedFormat.keyword → Entries.find? checks name = none)
    (hfind : Entries.find? definitions name = some contents)
    (h : Reaches definitions name value path schema data)
    (hgen : Generated level top bound schema) (hbound : bound ≤ top) :
    (report checks definitions .all schema data).Carries path
      (report checks definitions .all contents value) := by
  induction h generalizing bound with
  | here href =>
    rw [report_reference hlayered htop (hsilent _ (by decide)) href hgen hbound
      (hgen.leads href).1 hfind]
    exact carries_self _
  | reference href hfind' _ ih =>
    obtain ⟨hplain, hlevel⟩ := hgen.leads href
    rw [report_reference hlayered htop (hsilent _ (by decide)) href hgen hbound hplain hfind']
    exact ih (hlayered _ _ hfind') (hlevel.le.trans hbound)
  | @item entries schema item items position path hmissing hitems hitem _ ih =>
    have honly := hgen.hasOnly_of_missing hmissing
    have hgenItem := hgen.items honly hitems
    refine report_carries_of_entry hlayered htop honly hgen hbound hitems (hsilent _ (by decide))
      rfl ?_
    obtain ⟨members, rfl⟩ := hgenItem.exists_object
    have hmem : (item, position) ∈ items.zipIdx.drop 0 := by
      rw [List.drop_zero, List.mk_mem_zipIdx_iff_getElem?]
      exact hitem
    refine Carries.each hmem ?_
    dsimp only
    rw [descend_reportTask hgenItem]
    exact (ih hgenItem le_rfl).inside [.index position] []
  | @property entries properties members key schema part path hmissing hproperties hproperty hpart _
      ih =>
    have honly := hgen.hasOnly_of_missing hmissing
    have hgenProperty := hgen.properties honly hproperties _ hproperty
    refine report_carries_of_entry hlayered htop honly hgen hbound hproperties
      (hsilent _ (by decide)) rfl ?_
    refine Carries.each hproperty ?_
    dsimp only
    rw [hpart]
    dsimp only
    rw [descend_reportTask hgenProperty]
    exact (ih hgenProperty le_rfl).inside [.key key] [.key key]

end Schema

end SchemaBridge
