import Mathlib
import SchemaBridge.Proofs.Evaluation
import SchemaBridge.Validation.Registry

/-!
# What generated schemas say

What a generated schema reports of a value depends on the definitions that it refers to and on the
checks that are registered, and on nothing else. So there is one report for it, in which the steps
are no longer counted: every application of a schema is one application of its keywords, given the
reports of the schemas that come next.

A validator for a definition of a document gives the report of the definition.

* `report_eq`: a report, made from the reports of the schemas that come next.
* `apply_whole`: the validator of a definition, with all definitions attached, gives its report.
* `isValid_eq_report`, `violations_eq_report`: the answers that a registry gives.
-/

namespace SchemaBridge

namespace Schema

/-- A validator for definitions alone. -/
def bare (checks : Table Check) (definitions : Members) : Validator where
  checks
  library := { root := .object [("definitions", .object definitions)], address := [] }

theorem serves_bare (checks : Table Check) (definitions : Members) :
    (bare checks definitions).Serves checks definitions :=
  ⟨rfl, rfl, _, rfl, rfl⟩

/-- What a schema says of a value, given the definitions. -/
def report (checks : Table Check) (definitions : Members) (extent : Extent)
    (schema data : Datum) : Outcome :=
  applyUpTo (bare checks definitions) ((bare checks definitions).stepBound data) extent
    (.outset []) schema data

variable {level : String → Nat} {top bound : Nat} {definitions : Members}
  {checks : Table Check} {schema : Datum} {validator : Validator}

theorem length_le_size (h : validator.library.Holds definitions) :
    definitions.length ≤ validator.library.root.size := by
  obtain ⟨-, entries, hroot, hfind⟩ := h
  have hsize := Datum.size_le_of_find? hfind
  have hlength := Datum.length_le_sizeOfEntries definitions
  rw [Datum.size] at hsize
  rw [hroot, Datum.size]
  omega

/-- Fourth powers are only needed to be no less than their base. -/
theorem le_of_addresses {count addresses : Nat} (h : count ≤ 56 * addresses)
    (hpos : 0 < addresses) (depth : Nat) :
    count ≤ (56 * addresses * addresses * (addresses * addresses) + 1) * (depth + 1) := by
  have hpower : 1 ≤ addresses * (addresses * addresses) :=
    Nat.one_le_iff_ne_zero.mpr (by positivity)
  calc count ≤ 56 * addresses := h
    _ ≤ 56 * addresses * (addresses * (addresses * addresses)) := Nat.le_mul_of_pos_right _ hpower
    _ = 56 * addresses * addresses * (addresses * addresses) := (Nat.mul_assoc _ _ _).symm
    _ ≤ 56 * addresses * addresses * (addresses * addresses) + 1 := Nat.le_succ _
    _ ≤ _ := Nat.le_mul_of_pos_right _ (Nat.succ_pos depth)

/-- At each level of the data, a validator takes several steps for each definition. -/
theorem mul_le_stepBound (h : validator.library.Holds definitions) {count : Nat}
    (hcount : count ≤ 6 * definitions.length + 4) (data : Datum) :
    (data.depth + 1) * count ≤ validator.stepBound data := by
  have hlength := length_le_size h
  exact Nat.mul_le_mul_left _ (le_of_addresses (by omega) (by omega) _)

/-- No schema is too heavy for the steps that a validator takes. -/
theorem weight_lt_stepBound (h : validator.library.Holds definitions)
    (htop : top ≤ 2 * definitions.length + 3) (hbound : bound ≤ top) (data : Datum) :
    weight top bound data < validator.stepBound data := by
  have hweight : weight top bound data < (data.depth + 1) * (top + 1) := by
    rw [weight, Nat.mul_comm, Nat.add_mul, Nat.one_mul]
    omega
  exact hweight.trans_le (mul_le_stepBound h (by omega) data)

/-- Every validator with the checks and the definitions reports this, if its steps are enough. -/
theorem applyUpTo_eq_report (hlayered : Layered level top definitions)
    (htop : top ≤ 2 * definitions.length + 3) (hserves : validator.Serves checks definitions)
    (hgen : Generated level top bound schema) (hbound : bound ≤ top) {data : Datum} {steps : Nat}
    (hsteps : weight top bound data < steps) (extent : Extent) {entered : List Visit}
    (hpassed : Setting.Passed level bound entered) :
    applyUpTo validator steps extent (.outset entered) schema data
      = report checks definitions extent schema data := by
  have hbare := serves_bare checks definitions
  have hagree := applyUpTo_agree hlayered hserves hbare (Nat.succ_le_of_lt hsteps)
    (Nat.succ_le_of_lt (weight_lt_stepBound hbare.library htop hbound data))
  exact (hagree hgen hbound (Nat.lt_succ_self _) extent extent _ _ hpassed
    (Setting.passed_nil _ _)).2 rfl

/-- A report is made of those of the schemas that come next. -/
theorem report_eq (hlayered : Layered level top definitions)
    (htop : top ≤ 2 * definitions.length + 3) (hgen : Generated level top bound schema)
    (hbound : bound ≤ top) (extent : Extent) (data : Datum) :
    report checks definitions extent schema data
      = apply1 (bare checks definitions) 0
          (fun extent _ schema data => report checks definitions extent schema data) extent
          (.outset []) schema data := by
  have hbare := serves_bare checks definitions
  have hsteps := weight_lt_stepBound hbare.library htop hbound data
  obtain ⟨steps, heq⟩ := Nat.exists_eq_add_of_le' (Nat.one_le_of_lt hsteps)
  have hnext : AgreeBelow level top (weight top bound data) (applyUpTo (bare checks definitions) steps)
      fun extent _ schema data => report checks definitions extent schema data := by
    intro bound' schema' data' hgen' hbound' hweight extent extent' entered _ hpassed _
    have hagree := applyUpTo_agree hlayered hbare hbare
      (Nat.lt_succ_iff.mp ((Nat.succ_lt_succ hweight).trans_le (heq ▸ hsteps)))
      (Nat.succ_le_of_lt (weight_lt_stepBound hbare.library htop hbound' data'))
    exact hagree hgen' hbound' (Nat.lt_succ_self _) extent extent' _ _ hpassed
      (Setting.passed_nil _ _)
  have hagree := apply1_agree hlayered hbare hbare hnext steps 0
  rw [report, heq, applyUpTo_succ]
  exact (hagree hgen hbound (Nat.lt_succ_self _) extent extent _ _ (Setting.passed_nil _ _)
    (Setting.passed_nil _ _)).2 rfl

/-- What is reported is nothing, for every extent or for none. -/
theorem report_eq_valid_iff (hlayered : Layered level top definitions)
    (htop : top ≤ 2 * definitions.length + 3) (hgen : Generated level top bound schema)
    (hbound : bound ≤ top) (extent extent' : Extent) (data : Datum) :
    report checks definitions extent schema data = .valid
      ↔ report checks definitions extent' schema data = .valid := by
  have hbare := serves_bare checks definitions
  have hsteps := Nat.succ_le_of_lt (weight_lt_stepBound hbare.library htop hbound data)
  have hagree := applyUpTo_agree hlayered hbare hbare hsteps hsteps
  exact (hagree hgen hbound (Nat.lt_succ_self _) extent extent' _ _ (Setting.passed_nil _ _)
    (Setting.passed_nil _ _)).1

/-- It does not count for what the first violation is enough. -/
theorem report_of_isBrief (hlayered : Layered level top definitions)
    (htop : top ≤ 2 * definitions.length + 3) (hgen : Generated level top bound schema)
    (hbound : bound ≤ top) {extent extent' : Extent} (hextent : extent.isBrief = extent'.isBrief)
    (data : Datum) :
    report checks definitions extent schema data
      = report checks definitions extent' schema data := by
  have hbare := serves_bare checks definitions
  have hsteps := Nat.succ_le_of_lt (weight_lt_stepBound hbare.library htop hbound data)
  have hagree := applyUpTo_agree hlayered hbare hbare hsteps hsteps
  exact (hagree hgen hbound (Nat.lt_succ_self _) extent extent' _ _ (Setting.passed_nil _ _)
    (Setting.passed_nil _ _)).2 hextent

/-! ## Keywords and references -/

/-- The task of a keyword, with the reports of the schemas that come next. -/
def reportTask (checks : Table Check) (definitions : Members) (extent : Extent)
    (entries : Members) (data : Datum) : Task where
  library := (bare checks definitions).library
  next := fun extent _ schema data => report checks definitions extent schema data
  budget := 0
  extent
  setting := .outset []
  entries
  data

/-- What an entry says whose keyword has no check of its own. -/
theorem entryOutcome_eq {task : Task} (hsetting : task.setting = .outset []) {name : String}
    (hchecks : Entries.find? validator.checks name = none) (value : Datum) :
    entryOutcome validator task (.text name) value
      = .inside [] (schemaStep name)
          (((Vocabulary.rule? .draft4 name).map fun rule => rule task value).getD .valid) := by
  have hregistered : registered? validator task.setting.rules name = none := by
    rw [hsetting, registered?, hchecks]
    rfl
  have hdialect : (Setting.outset []).rules.dialect = .draft4 := rfl
  rw [entryOutcome, keywordOutcome, hregistered, hsetting]
  dsimp only
  rw [hdialect]
  cases Vocabulary.rule? .draft4 name <;> rfl

/-- A keyword that is not known says nothing. -/
theorem entryOutcome_of_unknown {task : Task} (hsetting : task.setting = .outset []) {name : String}
    (hchecks : Entries.find? validator.checks name = none)
    (hrule : Vocabulary.rule? .draft4 name = none) (value : Datum) :
    entryOutcome validator task (.text name) value = .valid := by
  rw [entryOutcome_eq hsetting hchecks, hrule]
  rfl

theorem entryOutcome_report {name : String} (hchecks : Entries.find? checks name = none)
    (definitions : Members) (extent : Extent) (entries : Members) (data value : Datum) :
    entryOutcome (bare checks definitions) (reportTask checks definitions extent entries data)
        (.text name) value
      = .inside [] (schemaStep name)
          (((Vocabulary.rule? .draft4 name).map fun rule =>
            rule (reportTask checks definitions extent entries data) value).getD .valid) := by
  have hchecks' : Entries.find? (bare checks definitions).checks name = none := hchecks
  exact entryOutcome_eq rfl hchecks' value

theorem report_of_keywords (hlayered : Layered level top definitions)
    (htop : top ≤ 2 * definitions.length + 3) {entries : Members}
    (honly : HasOnly generatedKeywords entries)
    (hgen : Generated level top bound (.object entries)) (hbound : bound ≤ top) (extent : Extent)
    (data : Datum) :
    report checks definitions extent (.object entries) data
      = .each extent entries fun entry => entryOutcome (bare checks definitions)
          (reportTask checks definitions extent entries data) entry.1 entry.2 := by
  rw [report_eq hlayered htop hgen hbound, apply1,
    effective_of_missing (honly.find?_eq_none (by decide))]
  rfl

section

variable {entries : Members} {name : String}

theorem report_of_reference (hlayered : Layered level top definitions)
    (htop : top ≤ 2 * definitions.length + 3)
    (hchecks : Entries.find? checks "$ref" = none)
    (href : Entries.find? entries "$ref" = some (Reference.toDefinition name))
    (hgen : Generated level top bound (.object entries)) (hbound : bound ≤ top) (extent : Extent)
    (data : Datum) :
    report checks definitions extent (.object entries) data
      = referenceOutcome (reportTask checks definitions extent entries data)
          (Reference.toDefinition name) := by
  have heffective : effective true entries = [(.text "$ref", Reference.toDefinition name)] :=
    effective_of_reference href
  rw [report_eq hlayered htop hgen hbound, apply1]
  change Outcome.each extent (effective true entries) _ = _
  rw [heffective, Outcome.each_singleton]
  change entryOutcome _ (reportTask checks definitions extent entries data) _ _ = _
  rw [entryOutcome_report hchecks, Vocabulary.rule?_ref]
  exact Outcome.inside_nil

/-- A reference says what the definition says. -/
theorem report_reference (hlayered : Layered level top definitions)
    (htop : top ≤ 2 * definitions.length + 3)
    (hchecks : Entries.find? checks "$ref" = none)
    (href : Entries.find? entries "$ref" = some (Reference.toDefinition name))
    (hgen : Generated level top bound (.object entries)) (hbound : bound ≤ top)
    (hplain : Reference.IsPlain name) {contents : Datum}
    (hfind : Entries.find? definitions name = some contents) (extent : Extent) (data : Datum) :
    report checks definitions extent (.object entries) data
      = report checks definitions extent contents data := by
  have hcontents := hlayered name contents hfind
  rw [report_of_reference hlayered htop hchecks href hgen hbound, referenceOutcome]
  change Outcome.ofExcept (Reference.lead (bare checks definitions).library .outset
    (Reference.toDefinition name)) _ = _
  rw [Reference.lead_of_find? (serves_bare checks definitions).library hplain hfind
    hcontents.identifier?]
  obtain ⟨visit, -, heq⟩ := Task.follow_eq hcontents
    (rfl : (reportTask checks definitions extent entries data).setting = .outset [])
    fun _ h => absurd h List.not_mem_nil
  exact heq

/-- A reference to a definition that is not there says nothing. -/
theorem report_reference_of_missing (hlayered : Layered level top definitions)
    (htop : top ≤ 2 * definitions.length + 3)
    (hchecks : Entries.find? checks "$ref" = none)
    (href : Entries.find? entries "$ref" = some (Reference.toDefinition name))
    (hgen : Generated level top bound (.object entries)) (hbound : bound ≤ top)
    (hplain : Reference.IsPlain name) (hfind : Entries.find? definitions name = none)
    (extent : Extent) (data : Datum) :
    report checks definitions extent (.object entries) data
      = .stopped (.unresolved (Reference.toDefinition name)) := by
  rw [report_of_reference hlayered htop hchecks href hgen hbound, referenceOutcome]
  change Outcome.ofExcept (Reference.lead (bare checks definitions).library .outset
    (Reference.toDefinition name)) _ = _
  rw [Reference.lead_of_missing (serves_bare checks definitions).library hplain hfind]
  rfl

end

/-! ## Entries beside others -/

/-- Keywords that do not look at the entries beside them. -/
def standaloneKeywords : List String :=
  ["title", "type", "format", "required", "input", "enum", "items", "properties", "oneOf"]

theorem entryOutcome_congr {name : String} (hname : name ∈ standaloneKeywords) {task : Task}
    (hsetting : task.setting = .outset []) (entries : Members) (value : Datum) :
    entryOutcome validator { task with entries } (.text name) value
      = entryOutcome validator task (.text name) value := by
  obtain ⟨library, next, budget, extent, setting, own, data⟩ := task
  cases hsetting
  dsimp only [entryOutcome, keywordOutcome]
  split
  · rfl
  · simp only [standaloneKeywords, List.mem_cons, List.not_mem_nil, or_false] at hname
    rcases hname with rfl | rfl | rfl | rfl | rfl | rfl | rfl | rfl | rfl
    case inr.inr.inr.inr.inr.inr.inr.inr =>
      exact congrArg (Outcome.inside _ _)
        (oneOfOutcome_congr rfl (fun _ _ _ _ => rfl) fun _ _ _ _ => rfl)
    all_goals rfl

/-- An entry that says nothing makes no difference to the entries before it. -/
theorem apply1_append {entries : Members} (honly : HasOnly standaloneKeywords entries)
    {name : String} {value : Datum} (hname : name ≠ "$ref")
    (hsilent : ∀ task : Task, task.setting = .outset [] →
      entryOutcome validator task (.text name) value = .valid)
    (budget : Nat) (next : Applier) (extent : Extent) (data : Datum) :
    apply1 validator budget next extent (.outset [])
        (.object (entries ++ [(.text name, value)])) data
      = apply1 validator budget next extent (.outset []) (.object entries) data := by
  have hmissing : Entries.find? entries "$ref" = none := honly.find?_eq_none (by decide)
  have hmissing' : Entries.find? (entries ++ [(Key.text name, value)]) "$ref" = none := by
    rw [Entries.find?_eq_none] at hmissing ⊢
    simp only [Entries.keys, List.map_append, List.any_append] at hmissing ⊢
    have hkey : (Key.text name == Key.text "$ref") = false := by
      rw [Bool.eq_false_iff, ne_eq, Key.beq_text, Key.text.injEq]
      exact hname
    rw [hmissing]
    simp [hkey]
  rw [apply1, apply1, effective_of_missing hmissing, effective_of_missing hmissing']
  refine (Outcome.each_append_valid ?_).trans ?_
  · exact hsilent _ rfl
  · refine Outcome.each_congr fun entry hentry => ?_
    obtain ⟨key, value⟩ := entry
    obtain ⟨name, hname, rfl⟩ := honly _ hentry
    let task : Task := {
      library := validator.library, next, budget, extent, setting := .outset [], entries, data }
    have hsetting : task.setting = .outset [] := rfl
    exact entryOutcome_congr hname hsetting _ _

/-- A title says nothing. -/
theorem report_insert_title (hlayered : Layered level top definitions)
    (htop : top ≤ 2 * definitions.length + 3) {entries : Members}
    (honly : HasOnly ["$ref", "type", "format", "items"] entries)
    (hchecks : ∀ keyword ∈ ["title", "$ref"], Entries.find? checks keyword = none)
    (hgen : Generated level top bound (.object entries)) (hbound : bound ≤ top) (title : Datum)
    (extent : Extent) (data : Datum) :
    report checks definitions extent (.object (Entries.insert entries "title" title)) data
      = report checks definitions extent (.object entries) data := by
  have hname : "title" ∈ plainKeywords := by decide
  have hinsert := hgen.insert hname title
  have hcases := hgen
  cases hcases with
  | reference href =>
    have hfind : Entries.find? (Entries.insert entries "title" title) "$ref"
        = Entries.find? entries "$ref" := by rw [Entries.find?_insert, if_neg (by decide)]
    have hsilent := hchecks "$ref" (by decide)
    rw [report_of_reference hlayered htop hsilent (hfind.trans href) hinsert hbound,
      report_of_reference hlayered htop hsilent href hgen hbound]
    rfl
  | keywords hinner hgenerated =>
    have hstandalone : HasOnly standaloneKeywords entries := by
      intro entry hentry
      obtain ⟨name, hname, heq⟩ := honly entry hentry
      refine ⟨name, ?_, heq⟩
      rcases List.mem_cons.mp hname with rfl | hname
      · obtain ⟨name', hname', heq'⟩ := hgenerated entry hentry
        rw [heq, Key.text.injEq] at heq'
        exact absurd (heq' ▸ hname') (by decide)
      · exact (by decide : ["type", "format", "items"] ⊆ standaloneKeywords) hname
    rw [Entries.insert_of_find?_eq_none (honly.find?_eq_none (by decide))] at hinsert ⊢
    rw [report_eq hlayered htop hinsert hbound, report_eq hlayered htop hgen hbound]
    exact apply1_append hstandalone (by decide) (fun _ hsetting =>
      entryOutcome_of_unknown hsetting (hchecks "title" (by decide)) rfl _) _ _ _ _

/-! ## Whole schemas -/

/-- The keywords that schemas of definitions have. -/
def definitionKeywords : List String :=
  ["title", "type", "properties", "required", "input", "oneOf", "enum"]

/-- The entries of a definition with all the definitions attached. -/
def attached (definitions entries : Members) : Members :=
  entries ++ [(.text "definitions", .object definitions)]

/-- The validator of a definition. -/
def whole (checks : Table Check) (definitions entries : Members) : Validator where
  checks
  library := { root := .object (attached definitions entries), address := [] }

theorem insert_definitions {entries : Members} (honly : HasOnly definitionKeywords entries)
    (definitions : Members) :
    Entries.insert entries "definitions" (.object definitions) = attached definitions entries :=
  Entries.insert_of_find?_eq_none (honly.find?_eq_none (by decide)) _

theorem find?_attached {entries : Members} (honly : HasOnly definitionKeywords entries)
    (definitions : Members) {name : String} (hname : name ∉ definitionKeywords) :
    Entries.find? (attached definitions entries) name
      = if name = "definitions" then some (.object definitions) else none := by
  rw [← insert_definitions honly, Entries.find?_insert, honly.find?_eq_none hname]
  simp only [Key.beq_text, Key.text.injEq, @eq_comm String "definitions"]

theorem serves_whole {entries : Members} (honly : HasOnly definitionKeywords entries)
    (checks : Table Check) (definitions : Members) :
    (whole checks definitions entries).Serves checks definitions :=
  ⟨rfl, rfl, _, rfl, find?_attached honly definitions (by decide)⟩

/-- A definition says nothing more with all the definitions attached. -/
theorem apply1_attached {entries : Members} (honly : HasOnly definitionKeywords entries)
    (hchecks : Entries.find? validator.checks "definitions" = none) (definitions : Members)
    (budget : Nat) (next : Applier) (extent : Extent) (data : Datum) :
    apply1 validator budget next extent (.outset []) (.object (attached definitions entries)) data
      = apply1 validator budget next extent (.outset []) (.object entries) data :=
  apply1_append (honly.mono (by decide)) (by decide)
    (fun _ hsetting => entryOutcome_of_unknown hsetting hchecks rfl _) budget next extent data

theorem stepBound_pos (validator : Validator) (data : Datum) : 0 < validator.stepBound data :=
  Nat.mul_pos (Nat.succ_pos _) (Nat.mul_pos (Nat.succ_pos _) (Nat.succ_pos _))

/-- The validator of a definition applies the definition. -/
theorem apply_whole_eq {entries : Members} (honly : HasOnly definitionKeywords entries)
    (hchecks : Entries.find? checks "definitions" = none) (definitions : Members)
    (extent : Extent) (data : Datum) :
    (whole checks definitions entries).apply extent data
      = applyUpTo (whole checks definitions entries)
          ((whole checks definitions entries).stepBound data) extent (.outset [])
          (.object entries) data := by
  obtain ⟨steps, heq⟩ :=
    Nat.exists_eq_add_of_le' (Nat.one_le_of_lt (stepBound_pos (whole checks definitions entries) data))
  have happly : (whole checks definitions entries).apply extent data
      = applyUpTo (whole checks definitions entries)
          ((whole checks definitions entries).stepBound data) extent (.outset [])
          (.object (attached definitions entries)) data := rfl
  rw [happly, heq, applyUpTo_succ, apply1_attached honly hchecks]

/-- The validator of a definition gives the definition's report. -/
theorem apply_whole (hlayered : Layered level top definitions)
    (htop : top ≤ 2 * definitions.length + 3) {entries : Members}
    (honly : HasOnly definitionKeywords entries)
    (hgen : Generated level top bound (.object entries)) (hbound : bound ≤ top)
    (hchecks : Entries.find? checks "definitions" = none) (extent : Extent) (data : Datum) :
    (whole checks definitions entries).apply extent data
      = report checks definitions extent (.object entries) data := by
  have hserves := serves_whole honly checks definitions
  rw [apply_whole_eq honly hchecks, applyUpTo_eq_report hlayered htop hserves hgen hbound
    (weight_lt_stepBound hserves.library htop hbound data) extent (Setting.passed_nil _ _)]

/-- The validator of a schema that refers to no definitions. -/
def alone (checks : Table Check) (entries : Members) : Validator where
  checks
  library := { root := .object entries, address := [] }

theorem apply_alone {entries : Members} (honly : HasOnly plainKeywords entries)
    (checks : Table Check) (definitions : Members) (extent : Extent) (data : Datum) :
    (alone checks entries).apply extent data
      = report checks definitions extent (.object entries) data := by
  obtain ⟨steps, heq⟩ :=
    Nat.exists_eq_add_of_le' (Nat.one_le_of_lt (stepBound_pos (alone checks entries) data))
  obtain ⟨steps', heq'⟩ :=
    Nat.exists_eq_add_of_le' (Nat.one_le_of_lt (stepBound_pos (bare checks definitions) data))
  have happly : (alone checks entries).apply extent data
      = applyUpTo (alone checks entries) ((alone checks entries).stepBound data) extent
          (.outset []) (.object entries) data := rfl
  have hchecks : (alone checks entries).checks = (bare checks definitions).checks := rfl
  rw [happly, heq, report, heq', applyUpTo_succ, applyUpTo_succ]
  exact (apply1_plain honly hchecks _ _ _ _ extent extent [] [] data).2 rfl

end Schema

/-! ## Registries -/

namespace Registry

open Schema

/-- The checks are those of the registry, which has none but that for the format of list items. -/
structure Reads (registry : Registry) (checks : Table Check) : Prop where
  made : ∃ made, registry.validatorClass.1 = .ok made ∧ made.checks = checks
  silent : ∀ name, name ≠ ExtendedFormat.keyword → Entries.find? checks name = none

variable {registry : Registry} {checks : Table Check} {document definitions entries : Members}
  {name : String}

theorem reads_empty : ({} : Registry).Reads [] := ⟨⟨_, rfl, rfl⟩, fun _ _ => rfl⟩

/-- The validator for a schema without an identifier. -/
theorem validator_eq (hreads : registry.Reads checks)
    (hid : Entries.find? entries "id" = none) :
    (registry.validator (.object entries)).1
      = .ok ⟨checks, { root := .object entries, address := [] }⟩ := by
  obtain ⟨⟨made, hmade, rfl⟩, -⟩ := hreads
  have hclass : registry.validatorClass = (.ok made, registry.validatorClass.2) :=
    Prod.ext hmade rfl
  rw [Registry.validator, hclass]
  simp only [Library.ofRoot, Resource.identifier?_of_missing hid, Except.map]
  rfl

/-- The schema for a definition of a document. -/
theorem definitionSchema_eq
    (hdefinitions : Entries.find? document "definitions" = some (.object definitions))
    (hfind : Entries.find? definitions name = some (.object entries))
    (honly : HasOnly definitionKeywords entries) :
    definitionSchema (.object document) name = .ok (.object (attached definitions entries)) := by
  simp only [definitionSchema, valueAt, hdefinitions, hfind, Datum.entries?_object, bind,
    Except.bind, pure, Except.pure, insert_definitions honly]

/-- The validator for a definition of a document. -/
theorem validatorFor_eq (hreads : registry.Reads checks)
    (hdefinitions : Entries.find? document "definitions" = some (.object definitions))
    (hfind : Entries.find? definitions name = some (.object entries))
    (honly : HasOnly definitionKeywords entries) :
    (registry.validatorFor (.object document) name).1 = .ok (whole checks definitions entries) := by
  rw [validatorFor, definitionSchema_eq hdefinitions hfind honly]
  exact validator_eq hreads (find?_attached honly definitions (by decide))

variable {level : String → Nat} {top bound : Nat}

/-- What a validator for a definition answers. -/
theorem isValid_eq_report (hreads : registry.Reads checks)
    (hdefinitions : Entries.find? document "definitions" = some (.object definitions))
    (hfind : Entries.find? definitions name = some (.object entries))
    (honly : HasOnly definitionKeywords entries) (hlayered : Layered level top definitions)
    (htop : top ≤ 2 * definitions.length + 3) (hbound : level name ≤ top) (data : Datum) :
    (registry.validatorFor (.object document) name).1.bind (·.isValid data)
      = (report checks definitions .first (.object entries) data).verdict := by
  rw [validatorFor_eq hreads hdefinitions hfind honly, Except.bind, Validator.isValid,
    apply_whole hlayered htop honly (hlayered name _ hfind) hbound
      (hreads.silent _ (by decide))]

/-- What a validator for a definition lists. -/
theorem violations_eq_report (hreads : registry.Reads checks)
    (hdefinitions : Entries.find? document "definitions" = some (.object definitions))
    (hfind : Entries.find? definitions name = some (.object entries))
    (honly : HasOnly definitionKeywords entries) (hlayered : Layered level top definitions)
    (htop : top ≤ 2 * definitions.length + 3) (hbound : level name ≤ top) (data : Datum) :
    (registry.validatorFor (.object document) name).1.bind (·.violations data)
      = (report checks definitions .all (.object entries) data).listing := by
  rw [validatorFor_eq hreads hdefinitions hfind honly, Except.bind, Validator.violations,
    apply_whole hlayered htop honly (hlayered name _ hfind) hbound
      (hreads.silent _ (by decide))]

end Registry

end SchemaBridge
