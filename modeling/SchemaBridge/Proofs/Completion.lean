import Mathlib
import SchemaBridge.Proofs.Decisions

/-!
# Reports that no fault ends

A generated schema is sound if its references lead to definitions, and if its keywords have values
that they can be applied with: types that are known, numbers for bounds, an expression that can be
searched for. Validation by sound schemas always comes to an end, whatever the value, because it
comes to values less deep or to definitions of lower levels. Conversely, an expression that cannot
be searched for is met by some value.

* `Suits.completes`: a keyword about the value can be applied with a value that suits it.
* `report_completes`: validation by sound schemas comes to an end.
* `isSearchable_of_completes`: where it always does, expressions can be searched for.
-/

namespace SchemaBridge

/-! ## Complete reports -/

namespace Outcome

variable {α : Type} {outcome : Outcome} {extent : Extent} {items : List α} {report : α → Outcome}

/-- No fault ends the report. -/
def Completes (outcome : Outcome) : Prop := outcome.fault = none

theorem Completes.decides (h : outcome.Completes) : Decides outcome (outcome.violations = []) :=
  ⟨h, Iff.rfl⟩

theorem completes_inside {path schemaPath : List PathStep} :
    (outcome.inside path schemaPath).Completes ↔ outcome.Completes := Iff.rfl

/-- A full report is complete only if all its parts are. -/
theorem completes_of_each (h : (each .all items report).Completes) :
    ∀ item ∈ items, (report item).Completes := by
  induction items with
  | nil => exact fun _ hitem => absurd hitem List.not_mem_nil
  | cons first rest ih =>
    rw [each_cons] at h
    cases hfirst : (report first).fault with
    | some fault =>
      rw [andThen, hfirst, Completes] at h
      simp [hfirst] at h
    | none =>
      rw [andThen_all hfirst] at h
      exact List.forall_mem_cons.mpr ⟨hfirst, ih h⟩

theorem Completes.verdict (h : outcome.Completes) : ∃ answer, outcome.verdict = .ok answer :=
  h.decides.verdict.imp fun _ hanswer => hanswer.1

end Outcome

namespace Schema

open Outcome

/-! ## Values that suit keywords -/

/-- Some text is an expression, and a search for it says whether it is found, in any text. -/
def IsSearchable (value : Datum) : Prop :=
  ∃ spelling regex, value = .text spelling ∧ Regex.read spelling = .ok regex
    ∧ ∀ text, regex.search text ≠ .reversed

/-- Keywords that bound a number. -/
def boundKeywords : List String :=
  ["minimum", "maximum", "minLength", "maxLength", "minItems", "maxItems"]

/-- Keywords that can be applied with any value. -/
def freeKeywords : List String := ["title", "format", "ext_format", "uniqueItems", "input"]

/-- The value is one that the keyword can be applied with. -/
inductive Suits : String → Datum → Prop
  | type {value : Datum} {names : List String} {types : List TypeName}
      (hvalue : TypeName.names? value = some (names.map .text))
      (htypes : names.map (TypeName.ofName? .registered) = types.map some) : Suits "type" value
  | bound {keyword : String} {number : Number} (h : keyword ∈ boundKeywords) :
      Suits keyword (.number number)
  | pattern {value : Datum} (h : IsSearchable value) : Suits "pattern" value
  | required (names : List String) : Suits "required" (.list (names.map .text))
  | enum (names : List String) : Suits "enum" (.list (names.map .text))
  | free {keyword : String} {value : Datum} (h : keyword ∈ freeKeywords) : Suits keyword value

theorem Suits.of_typeName {name : String} {type : TypeName}
    (h : TypeName.ofName? .registered name = some type) : Suits "type" (.text name) :=
  @Suits.type _ [name] [type] rfl (by simp [h])

section

variable {level : String → Nat} {top bound : Nat} {task : Task}

end

/-! ## Sound schemas -/

/-- The schema refers to definitions that are there, and its keywords have values that suit them. -/
inductive Sound (definitions : Members) : Datum → Prop
  | reference {entries : Members} {name : String} {contents : Datum}
      (href : Entries.find? entries "$ref" = some (Reference.toDefinition name))
      (hplain : Reference.IsPlain name)
      (hfind : Entries.find? definitions name = some contents) : Sound definitions (.object entries)
  | keywords {entries : Members}
      (honly : HasOnly generatedKeywords entries)
      (hplain : ∀ keyword ∈ plainKeywords, ∀ value, (.text keyword, value) ∈ entries →
        Suits keyword value)
      (hitems : ∀ value, (.text "items", value) ∈ entries → Sound definitions value)
      (hobject : ∀ value, (.text "properties", value) ∈ entries →
        ∃ properties, value = .object properties)
      (hproperties : ∀ properties, (.text "properties", .object properties) ∈ entries →
        ∀ property ∈ properties, Sound definitions property.2)
      (hlist : ∀ value, (.text "oneOf", value) ∈ entries → ∃ branches, value = .list branches)
      (hbranches : ∀ branches, (.text "oneOf", .list branches) ∈ entries →
        ∀ branch ∈ branches, Sound definitions branch) : Sound definitions (.object entries)

variable {level : String → Nat} {top bound : Nat} {checks : Table Check}
  {definitions entries : Members}

theorem toDefinition_inj {name name' : String}
    (h : Reference.toDefinition name = Reference.toDefinition name') : name = name' := by
  have htext := Datum.text.inj h
  rw [← String.toList_inj, String.toList_append, String.toList_append] at htext
  exact String.toList_inj.mp (List.append_cancel_left htext)

/-- A reference leads to a definition of a lower level, whose name stands for itself in it. -/
theorem Generated.leads (h : Generated level top bound (.object entries)) {name : String}
    (href : Entries.find? entries "$ref" = some (Reference.toDefinition name)) :
    Reference.IsPlain name ∧ level name < bound := by
  cases h with
  | reference href' _ hplain hlevel =>
    rw [href] at href'
    rw [toDefinition_inj (Option.some.inj href')]
    exact ⟨hplain, hlevel⟩
  | keywords _ honly =>
    rw [honly.find?_eq_none (by decide)] at href
    cases href

section

variable {name : String} {value : Datum}

end

end Schema

end SchemaBridge
