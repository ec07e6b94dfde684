import Mathlib
import SchemaBridge.Proofs.Branches
import SchemaBridge.Proofs.Generated

/-!
# How far the evaluation of generated schemas depends on its circumstances

Two validators with the same checks and the same definitions report the same of a generated schema,
whatever else stands in their whole schemas, whichever references were followed on the way, and
however many steps are allowed, if they are enough. A report of the first violation and a full one
are empty alike.

The number of steps that are enough is the `weight` of a schema at a value. It is proved for one
application of a schema (`apply1_agree`), given that what comes next is alike, and from this for all
of them (`applyUpTo_agree`).

* `rule_agree_of_plain`: a keyword about the value itself does not depend on what comes next.
* `itemsOutcome_agree`, `propertiesOutcome_agree`, `oneOfOutcome_agree`, `referenceOutcome_agree`:
  the other keywords depend on it only as far as it is alike.
* `apply1_agree_of_keywords`: what one application depends on, keyword by keyword.
* `apply1_agree`, `applyUpTo_agree`: one application and all of them.
-/

namespace SchemaBridge

open Outcome

/-- The validator applies the checks, and the definitions stand in its schema. -/
structure Validator.Serves (validator : Validator) (checks : Table Check)
    (definitions : Members) : Prop where
  checks : validator.checks = checks
  library : validator.library.Holds definitions

/-- Only definitions down to a level were entered. -/
def Setting.Passed (level : String → Nat) (bound : Nat) (entered : List Visit) : Prop :=
  ∀ visit ∈ entered, ∀ name, visit.fragment = Reference.fragment name → bound ≤ level name

theorem Setting.passed_nil (level : String → Nat) (bound : Nat) : Passed level bound [] :=
  fun _ h => absurd h List.not_mem_nil

theorem Setting.Passed.mono {level : String → Nat} {bound bound' : Nat} {entered : List Visit}
    (h : Passed level bound entered) (hle : bound' ≤ bound) : Passed level bound' entered :=
  fun visit hvisit name hname => hle.trans (h visit hvisit name hname)

namespace Schema

/-- The definitions are generated schemas, each below its own level. -/
def Layered (level : String → Nat) (top : Nat) (definitions : Members) : Prop :=
  ∀ (name : String) (contents : Datum), Entries.find? definitions name = some contents →
    Generated level top (level name) contents

/-- How many steps from schema to schema there can be. -/
def weight (top bound : Nat) (data : Datum) : Nat := (top + 1) * data.depth + bound

theorem weight_lt_of_depth_lt {top : Nat} {data data' : Datum} (h : data'.depth < data.depth)
    (bound : Nat) : weight top top data' < weight top bound data := by
  have hstep : (top + 1) * (data'.depth + 1) ≤ (top + 1) * data.depth := Nat.mul_le_mul_left _ h
  unfold weight
  rw [Nat.mul_add, Nat.mul_one] at hstep
  omega

/-- Two ways of applying schemas report alike of all schemas and values of little weight. -/
def AgreeBelow (level : String → Nat) (top limit : Nat) (next next' : Applier) : Prop :=
  ∀ ⦃bound : Nat⦄ ⦃schema data : Datum⦄, Generated level top bound schema → bound ≤ top →
    weight top bound data < limit →
      ∀ (extent extent' : Extent) (entered entered' : List Visit),
        Setting.Passed level bound entered → Setting.Passed level bound entered' →
          Agree extent extent' (next extent (.outset entered) schema data)
            (next' extent' (.outset entered') schema data)

variable {level : String → Nat} {top bound limit : Nat} {definitions : Members}
  {checks : Table Check}

/-- Two tasks in the same schema and at the same value, by the rules of a registry. -/
structure Parallel (task task' : Task) : Prop where
  entries : task'.entries = task.entries
  data : task'.data = task.data
  rules : task.setting.rules = .registered
  rules' : task'.setting.rules = .registered

/-- Two such tasks that have the same definitions, and for which what comes next is alike. -/
structure Alike (level : String → Nat) (top bound limit : Nat) (definitions : Members)
    (task task' : Task) : Prop extends Parallel task task' where
  library : task.library.Holds definitions
  library' : task'.library.Holds definitions
  setting : ∃ entered, task.setting = .outset entered ∧ Setting.Passed level bound entered
  setting' : ∃ entered, task'.setting = .outset entered ∧ Setting.Passed level bound entered
  next : AgreeBelow level top limit task.next task'.next
  bound_le : bound ≤ top
  weight : weight top bound task.data ≤ limit

namespace Alike

variable {task task' : Task} {schema : Datum}

/-- What is said of a part of the schema, at the same value. -/
theorem agree_next {bound' : Nat} (h : Alike level top bound limit definitions task task')
    (hgen : Generated level top bound' schema) (hbound : bound' < bound)
    (extent extent' : Extent) :
    ∃ entered entered', task.setting = .outset entered ∧ task'.setting = .outset entered' ∧
      Agree extent extent' (task.next extent (.outset entered) schema task.data)
        (task'.next extent' (.outset entered') schema task'.data) := by
  obtain ⟨entered, hsetting, hpassed⟩ := h.setting
  obtain ⟨entered', hsetting', hpassed'⟩ := h.setting'
  have hweight : Schema.weight top bound' task.data < limit := by
    have := h.weight
    unfold Schema.weight at this ⊢
    omega
  rw [h.data]
  exact ⟨entered, entered', hsetting, hsetting',
    h.next hgen (hbound.le.trans h.bound_le) hweight extent extent' _ _ (hpassed.mono hbound.le)
      (hpassed'.mono hbound.le)⟩

theorem listing_eq {bound' : Nat} (h : Alike level top bound limit definitions task task')
    (hgen : Generated level top bound' schema) (hbound : bound' < bound) :
    task.listing schema = task'.listing schema := by
  obtain ⟨entered, entered', hsetting, hsetting', hagree⟩ := h.agree_next hgen hbound .all .all
  rw [Task.listing_eq hgen hsetting, Task.listing_eq hgen hsetting', hagree.2 rfl]

theorem allows_eq {bound' : Nat} (h : Alike level top bound limit definitions task task')
    (hgen : Generated level top bound' schema) (hbound : bound' < bound) :
    task.allows schema = task'.allows schema := by
  obtain ⟨entered, entered', hsetting, hsetting', hagree⟩ := h.agree_next hgen hbound .trial .trial
  rw [Task.allows_eq hgen hsetting, Task.allows_eq hgen hsetting', hagree.2 rfl]

/-- What is said of a part of the value. -/
theorem agree_into {part : Datum} (h : Alike level top bound limit definitions task task')
    (hgen : Generated level top top schema) (hdepth : part.depth < task.data.depth)
    (path schemaPath : List PathStep) :
    Agree task.extent task'.extent ((task.into part).descend schema path schemaPath)
      ((task'.into part).descend schema path schemaPath) := by
  obtain ⟨entered, hsetting, -⟩ := h.setting
  obtain ⟨entered', hsetting', -⟩ := h.setting'
  have hweight := (weight_lt_of_depth_lt hdepth bound).trans_le h.weight
  rw [Task.descend_eq hgen (Task.setting_into hsetting part),
    Task.descend_eq hgen (Task.setting_into hsetting' part)]
  exact (h.next hgen le_rfl hweight _ _ _ _ (Setting.passed_nil _ _)
    (Setting.passed_nil _ _)).inside _ _

end Alike

/-! ## Keywords -/

variable {task task' : Task} {value : Datum}

theorem requiredOutcome_agree (extent extent' : Extent) (value data : Datum) :
    Agree extent extent' (requiredOutcome extent value data)
      (requiredOutcome extent' value data) := by
  cases data with
  | object entries =>
    rw [requiredOutcome, requiredOutcome, requiredNames, requiredNames]
    split
    · exact .each fun _ _ => .of_eq rfl
    · exact .of_eq rfl
  | _ => exact .of_eq rfl

theorem rule_agree_of_plain (h : Parallel task task') {keyword : String}
    (hkeyword : keyword ∈ plainKeywords) {rule : Rule}
    (hrule : Vocabulary.rule? .draft4 keyword = some rule) :
    Agree task.extent task'.extent (rule task value) (rule task' value) := by
  simp only [plainKeywords, List.mem_cons, List.not_mem_nil, or_false] at hkeyword
  rcases hkeyword with rfl | rfl | rfl | rfl | rfl | rfl | rfl | rfl | rfl | rfl | rfl | rfl | rfl |
    rfl | rfl
  all_goals cases hrule
  all_goals simp only [h.entries, h.data, h.rules, h.rules']
  all_goals first
    | exact .of_eq rfl
    | exact requiredOutcome_agree _ _ _ _

/-- What is said of items depends on what is said of each. -/
theorem itemsOutcome_agree_of_parts (hdata : task'.data = task.data)
    (hgen : Generated level top top value)
    (hinto : ∀ part : Datum, part.depth < task.data.depth → ∀ path schemaPath,
      Agree task.extent task'.extent ((task.into part).descend value path schemaPath)
        ((task'.into part).descend value path schemaPath)) :
    Agree task.extent task'.extent (itemsOutcome task value) (itemsOutcome task' value) := by
  obtain ⟨entries, rfl⟩ := hgen.exists_object
  rw [itemsOutcome, itemsOutcome, hdata]
  split
  · next items hitems =>
    refine .each fun pair hitem => ?_
    obtain ⟨item, position⟩ := pair
    rw [List.drop_zero] at hitem
    have hmem : item ∈ items := List.fst_mem_of_mem_zipIdx hitem
    refine hinto item ?_ _ _
    rw [hitems]
    exact Datum.depth_lt_of_mem_list hmem
  · exact .of_eq rfl

theorem itemsOutcome_agree (h : Alike level top bound limit definitions task task')
    (hgen : Generated level top top value) :
    Agree task.extent task'.extent (itemsOutcome task value) (itemsOutcome task' value) :=
  itemsOutcome_agree_of_parts h.data hgen fun _ hdepth => h.agree_into hgen hdepth

/-- What is said of entries depends on what is said of each. -/
theorem propertiesOutcome_agree_of_parts (hdata : task'.data = task.data)
    (hinto : ∀ properties, value = .object properties → ∀ property ∈ properties,
      ∀ part : Datum, part.depth < task.data.depth → ∀ path schemaPath,
        Agree task.extent task'.extent ((task.into part).descend property.2 path schemaPath)
          ((task'.into part).descend property.2 path schemaPath)) :
    Agree task.extent task'.extent (propertiesOutcome task value)
      (propertiesOutcome task' value) := by
  rw [propertiesOutcome, propertiesOutcome, hdata]
  split
  · next entries hentries =>
    split
    · next properties =>
      refine .each fun property hproperty => ?_
      obtain ⟨name, schema⟩ := property
      dsimp only
      split
      · exact .of_eq rfl
      · next entry hentry =>
        refine hinto properties rfl _ hproperty _ ?_ _ _
        rw [hentries]
        exact Datum.depth_lt_of_find? hentry
    · exact .of_eq rfl
  · exact .of_eq rfl

theorem propertiesOutcome_agree (h : Alike level top bound limit definitions task task')
    (hgen : ∀ properties, value = .object properties →
      ∀ property ∈ properties, Generated level top top property.2) :
    Agree task.extent task'.extent (propertiesOutcome task value)
      (propertiesOutcome task' value) :=
  propertiesOutcome_agree_of_parts h.data fun properties heq property hproperty _ hdepth =>
    h.agree_into (hgen properties heq property hproperty) hdepth

/-- Branches are told apart in full, so what they come to is the same for every extent. -/
theorem oneOfOutcome_agree (h : Alike level top bound limit definitions task task') {inner : Nat}
    (hinner : inner < bound)
    (hgen : ∀ branches, value.items? = some branches →
      ∀ branch ∈ branches, Generated level top inner branch) :
    Agree task.extent task'.extent (oneOfOutcome task value) (oneOfOutcome task' value) := by
  exact .of_eq (oneOfOutcome_congr h.data.symm
    (fun branches hbranches branch hmem => h.listing_eq (hgen branches hbranches branch hmem) hinner)
    fun branches hbranches branch hmem => h.allows_eq (hgen branches hbranches branch hmem) hinner)

/-- A reference leads to a definition of a lower level, which was therefore not entered before. -/
theorem referenceOutcome_agree (hlayered : Layered level top definitions)
    (h : Alike level top bound limit definitions task task') {name : String}
    (hplain : Reference.IsPlain name) (hlevel : level name < bound) :
    Agree task.extent task'.extent (referenceOutcome task (Reference.toDefinition name))
      (referenceOutcome task' (Reference.toDefinition name)) := by
  obtain ⟨entered, hsetting, hpassed⟩ := h.setting
  obtain ⟨entered', hsetting', hpassed'⟩ := h.setting'
  have hplace : task.setting.place = .outset := by rw [hsetting]; rfl
  have hplace' : task'.setting.place = .outset := by rw [hsetting']; rfl
  rw [referenceOutcome, referenceOutcome, hplace, hplace']
  cases hfind : Entries.find? definitions (.text name) with
  | none =>
    rw [Reference.lead_of_missing h.library hplain hfind,
      Reference.lead_of_missing h.library' hplain hfind]
    exact .of_eq rfl
  | some contents =>
    have hgen := hlayered name contents hfind
    have hnew {entered : List Visit} (hpassed : Setting.Passed level bound entered) :
        ∀ visit ∈ entered, visit.fragment ≠ Reference.fragment name := fun visit hvisit heq =>
      absurd (hpassed visit hvisit name heq) (Nat.not_le.mpr hlevel)
    rw [Reference.lead_of_find? h.library hplain hfind hgen.identifier?,
      Reference.lead_of_find? h.library' hplain hfind hgen.identifier?, Outcome.ofExcept,
      Outcome.ofExcept]
    obtain ⟨visit, hvisit, heq⟩ := Task.follow_eq hgen hsetting (hnew hpassed)
    obtain ⟨visit', hvisit', heq'⟩ := Task.follow_eq hgen hsetting' (hnew hpassed')
    rw [heq, heq', h.data]
    have hcons {entered : List Visit} {visit : Visit}
        (hvisit : visit.fragment = Reference.fragment name)
        (hpassed : Setting.Passed level bound entered) :
        Setting.Passed level (level name) (visit :: entered) := by
      rintro earlier hearlier name' hname'
      rcases List.mem_cons.mp hearlier with rfl | hearlier
      · rw [Reference.fragment_inj (hvisit.symm.trans hname')]
      · exact hlevel.le.trans (hpassed earlier hearlier name' hname')
    have hweight : weight top (level name) task.data < limit := by
      have := h.weight
      unfold weight at this ⊢
      omega
    exact h.next hgen (hlevel.le.trans h.bound_le) hweight _ _ _ _ (hcons hvisit hpassed)
      (hcons hvisit' hpassed')

/-! ## Schemas -/

variable {validator validator' : Validator}

theorem keywordOutcome_agree (hchecks : validator.checks = validator'.checks)
    (h : Parallel task task') {name : String}
    (hrule : ∀ rule, Vocabulary.rule? .draft4 name = some rule →
      Agree task.extent task'.extent (rule task value) (rule task' value)) :
    Agree task.extent task'.extent (keywordOutcome validator name task value)
      (keywordOutcome validator' name task' value) := by
  have hregistered : registered? validator .registered name
      = registered? validator' .registered name := by
    rw [registered?, registered?, hchecks]
  rw [keywordOutcome, keywordOutcome, h.rules, h.rules', hregistered, h.data]
  split
  · exact .of_eq rfl
  · dsimp only [Rules.dialect]
    split
    · next rule heq => exact hrule rule heq
    · exact .of_eq rfl

/-- The task of a keyword in a schema without an address. -/
def outsetTask (validator : Validator) (budget : Nat) (next : Applier) (extent : Extent)
    (entered : List Visit) (entries : Members) (data : Datum) : Task where
  library := validator.library
  next
  budget
  extent
  setting := .outset entered
  entries
  data

/-- A schema that is about the value alone says the same whatever comes next. -/
theorem apply1_plain {entries : Members} (honly : HasOnly plainKeywords entries)
    (hchecks : validator.checks = validator'.checks) (budget budget' : Nat) (next next' : Applier)
    (extent extent' : Extent) (entered entered' : List Visit) (data : Datum) :
    Agree extent extent'
      (apply1 validator budget next extent (.outset entered) (.object entries) data)
      (apply1 validator' budget' next' extent' (.outset entered') (.object entries) data) := by
  have heffective : effective true entries = entries :=
    effective_of_missing (honly.find?_eq_none (by decide)) true
  rw [apply1, apply1, Setting.outset, Setting.outset, heffective]
  refine .each fun entry hentry => ?_
  obtain ⟨key, value⟩ := entry
  obtain ⟨name, hname, rfl⟩ := honly _ hentry
  have hparallel : Parallel (outsetTask validator budget next extent entered entries data)
      (outsetTask validator' budget' next' extent' entered' entries data) := ⟨rfl, rfl, rfl, rfl⟩
  exact (keywordOutcome_agree hchecks hparallel fun rule hrule =>
    rule_agree_of_plain hparallel hname hrule).inside _ _

/-- One application of a generated schema: all that counts is what the keywords say that apply other
schemas. -/
theorem apply1_agree_of_keywords (hchecks : validator.checks = validator'.checks)
    {budget budget' : Nat} {next next' : Applier} {extent extent' : Extent}
    {entered entered' : List Visit} {entries : Members} {data : Datum}
    (hgen : Generated level top bound (.object entries))
    (htask : task = outsetTask validator budget next extent entered entries data)
    (htask' : task' = outsetTask validator' budget' next' extent' entered' entries data)
    (hreference : ∀ name, Entries.find? entries "$ref" = some (Reference.toDefinition name) →
      Reference.IsPlain name → level name < bound →
        Agree extent extent' (referenceOutcome task (Reference.toDefinition name))
          (referenceOutcome task' (Reference.toDefinition name)))
    (hitems : ∀ value, (.text "items", value) ∈ entries → Generated level top top value →
      Agree extent extent' (itemsOutcome task value) (itemsOutcome task' value))
    (hproperties : ∀ value, (.text "properties", value) ∈ entries →
      (∀ properties, value = .object properties →
        ∀ property ∈ properties, Generated level top top property.2) →
      Agree extent extent' (propertiesOutcome task value) (propertiesOutcome task' value))
    (hbranches : ∀ value, (.text "oneOf", value) ∈ entries → ∀ inner < bound,
      (∀ branches, value.items? = some branches →
        ∀ branch ∈ branches, Generated level top inner branch) →
      Agree extent extent' (oneOfOutcome task value) (oneOfOutcome task' value)) :
    Agree extent extent'
      (apply1 validator budget next extent (.outset entered) (.object entries) data)
      (apply1 validator' budget' next' extent' (.outset entered') (.object entries) data) := by
  subst htask htask'
  have hparallel : Parallel (outsetTask validator budget next extent entered entries data)
      (outsetTask validator' budget' next' extent' entered' entries data) := ⟨rfl, rfl, rfl, rfl⟩
  cases hgen with
  | reference href hdialect hplain hlevel =>
    have heffective : effective true entries = [(.text "$ref", Reference.toDefinition _)] :=
      effective_of_reference href
    rw [apply1, apply1, Setting.outset, Setting.outset, heffective]
    refine .each fun entry hentry => ?_
    rw [List.mem_singleton] at hentry
    subst hentry
    refine Agree.inside (keywordOutcome_agree hchecks hparallel fun rule hrule => ?_) _ _
    rw [Vocabulary.rule?_ref] at hrule
    cases hrule
    exact hreference _ href hplain hlevel
  | keywords hinner honly hitemsGen hpropertiesGen hbranchesGen =>
    have heffective : effective true entries = entries :=
      effective_of_missing (honly.find?_eq_none (by decide)) true
    rw [apply1, apply1, Setting.outset, Setting.outset, heffective]
    refine .each fun entry hentry => ?_
    obtain ⟨key, value⟩ := entry
    obtain ⟨name, hname, rfl⟩ := honly _ hentry
    refine Agree.inside (keywordOutcome_agree hchecks hparallel fun rule hrule => ?_) _ _
    rcases List.mem_append.mp hname with hname | hname
    · exact rule_agree_of_plain hparallel hname hrule
    · simp only [List.mem_cons, List.not_mem_nil, or_false] at hname
      rcases hname with rfl | rfl | rfl
      · cases hrule
        exact hitems value hentry (hitemsGen value hentry)
      · cases hrule
        exact hproperties value hentry fun properties heq =>
          hpropertiesGen properties (heq ▸ hentry)
      · cases hrule
        exact hbranches value hentry _ hinner fun branches => hbranchesGen value branches hentry

/-- One application of a schema, given that what comes next is alike. -/
theorem apply1_agree (hlayered : Layered level top definitions)
    (hserves : validator.Serves checks definitions)
    (hserves' : validator'.Serves checks definitions) {next next' : Applier}
    (hnext : AgreeBelow level top limit next next') (budget budget' : Nat) :
    AgreeBelow level top (limit + 1) (apply1 validator budget next)
      (apply1 validator' budget' next') := by
  intro bound schema data hgen hbound hweight extent extent' entered entered' hpassed hpassed'
  obtain ⟨entries, rfl⟩ := hgen.exists_object
  have halike : Alike level top bound limit definitions
      (outsetTask validator budget next extent entered entries data)
      (outsetTask validator' budget' next' extent' entered' entries data) :=
    ⟨⟨rfl, rfl, rfl, rfl⟩, hserves.library, hserves'.library, ⟨entered, rfl, hpassed⟩,
      ⟨entered', rfl, hpassed'⟩, hnext, hbound, Nat.lt_succ_iff.mp hweight⟩
  exact apply1_agree_of_keywords (hserves.checks.trans hserves'.checks.symm) hgen rfl rfl
    (fun _ _ hplain hlevel => referenceOutcome_agree hlayered halike hplain hlevel)
    (fun _ _ hitems => itemsOutcome_agree halike hitems)
    (fun _ _ hproperties => propertiesOutcome_agree halike hproperties)
    fun _ _ _ hinner hbranches => oneOfOutcome_agree halike hinner hbranches

/-- All applications of a schema, if there are steps enough. -/
theorem applyUpTo_agree (hlayered : Layered level top definitions)
    (hserves : validator.Serves checks definitions)
    (hserves' : validator'.Serves checks definitions) {steps steps' : Nat}
    (hsteps : limit ≤ steps) (hsteps' : limit ≤ steps') :
    AgreeBelow level top limit (applyUpTo validator steps) (applyUpTo validator' steps') := by
  induction limit generalizing steps steps' with
  | zero => exact fun _ _ _ _ _ hweight => absurd hweight (Nat.not_lt_zero _)
  | succ limit ih =>
    obtain ⟨steps, rfl⟩ := Nat.exists_eq_add_of_le' (Nat.one_le_of_lt hsteps)
    obtain ⟨steps', rfl⟩ := Nat.exists_eq_add_of_le' (Nat.one_le_of_lt hsteps')
    exact apply1_agree hlayered hserves hserves'
      (ih (Nat.le_of_succ_le_succ hsteps) (Nat.le_of_succ_le_succ hsteps')) steps steps'

end Schema

end SchemaBridge
