import Mathlib
import SchemaBridge.Proofs.Interruption

/-!
# Keywords go on alike

Every keyword of every dialect hands schemas on that are parts of its own value, of the schema in
which it stands, or of what a reference leads to, and takes up what is said of them in the ways that
keep evaluations the same unless they are interrupted. So whole evaluations of a schema by two
validators are the same, unless a check of one of them interrupts it that the other one passes.

* `Schema.IsSteady`: a rule that says the same by either way of going on.
* `Survey.positions_sameUnless`: going through a schema for the parts of a value it evaluates.
* `Vocabulary.always_isSteady`: every keyword has such a rule.
* `Schema.apply1_sameUnless`, `Schema.applyUpTo_sameUnless`: one application, then all of them.
* `Validator.isValid_sameUnless`, `Validator.violations_sameUnless`: the answers of validators.
-/

namespace SchemaBridge

open Datum

variable {Excused : Fault → Prop} {name : String} {whole : Datum} {task : Task} {next' : Applier}

namespace Task

@[simp] theorem withNext_data : (task.withNext next').data = task.data := rfl

@[simp] theorem withNext_setting : (task.withNext next').setting = task.setting := rfl

@[simp] theorem withNext_entries : (task.withNext next').entries = task.entries := rfl

@[simp] theorem withNext_into (data : Datum) :
    (task.withNext next').into data = (task.into data).withNext next' := rfl

end Task

namespace Schema

/-- The rule says the same by either way of going on, unless it is interrupted. -/
def IsSteady (Excused : Fault → Prop) (name : String) (whole : Datum) (rule : Rule) : Prop :=
  ∀ ⦃task next' value⦄, task.SameUnless Excused name whole next' → ConfinedTo name whole value →
    (rule task value).SameUnless Excused task.extent (rule (task.withNext next') value)

/-- A rule that applies no other schema. -/
theorem isSteady_of_eq {rule : Rule}
    (h : ∀ task next' value, rule (task.withNext next') value = rule task value) :
    IsSteady Excused name whole rule := fun task next' value _ _ => .inl (h task next' value).symm

/-! ## Keywords about the whole value -/

theorem everyBranch_sameUnless (h : task.SameUnless Excused name whole next')
    {branches : List Datum} (hbranches : ∀ branch ∈ branches, ConfinedTo name whole branch) :
    (everyBranch task branches).SameUnless Excused task.extent
      (everyBranch (task.withNext next') branches) := by
  refine Outcome.sameUnless_each fun branch hmem => ?_
  exact Task.descend_sameUnless h (hbranches _ (List.fst_mem_of_mem_zipIdx hmem)) _ _

theorem isSteady_allOf : IsSteady Excused name whole allOfOutcome := by
  intro task next' value h hvalue
  unfold allOfOutcome
  cases hitems : value.items? with
  | none => exact .inl rfl
  | some branches => exact everyBranch_sameUnless h (hvalue.items? hitems)

theorem isSteady_extends : IsSteady Excused name whole extendsOutcome := by
  intro task next' value h hvalue
  cases value with
  | object entries => exact Task.descend_sameUnless h hvalue [] []
  | _ => exact isSteady_allOf h hvalue

theorem firstValid_sameUnless (h : task.SameUnless Excused name whole next')
    {branches : List Datum} (hbranches : ∀ branch ∈ branches, ConfinedTo name whole branch) :
    SameUnless Excused (firstValid task branches) (firstValid (task.withNext next') branches) := by
  induction branches with
  | nil => exact .inl rfl
  | cons branch rest ih =>
    obtain ⟨hbranch, hrest⟩ := List.forall_mem_cons.mp hbranches
    unfold firstValid
    rcases Task.listing_sameUnless h hbranch with heq | ⟨fault, hexcused, hfault⟩
    · rw [← heq]
      cases task.listing branch with
      | error fault => exact .inl rfl
      | ok violations =>
        cases violations with
        | nil => exact .inl rfl
        | cons => exact ih hrest
    · rw [hfault]
      exact .inr ⟨fault, hexcused, rfl⟩

theorem isSteady_anyOf : IsSteady Excused name whole anyOfOutcome := by
  intro task next' value h hvalue
  unfold anyOfOutcome
  cases hitems : value.items? with
  | none => exact .inl rfl
  | some branches =>
    exact Outcome.sameUnless_ofExcept (firstValid_sameUnless h (hvalue.items? hitems))
      fun found _ => .inl rfl

theorem isSteady_not : IsSteady Excused name whole notOutcome := fun _ _ _ h hvalue =>
  Outcome.sameUnless_ofExcept (Task.allows_sameUnless h hvalue) fun _ _ => .inl rfl

theorem isSteady_oneOf : IsSteady Excused name whole oneOfOutcome := by
  intro task next' value h hvalue
  unfold oneOfOutcome
  cases hitems : value.items? with
  | none => exact .inl rfl
  | some branches =>
    have hbranches := hvalue.items? hitems
    refine Outcome.sameUnless_ofExcept (firstValid_sameUnless h hbranches) fun found hfound => ?_
    cases found with
    | none => exact .inl rfl
    | some valid =>
      obtain ⟨first, rest⟩ := valid
      refine Outcome.sameUnless_ofExcept (sameUnless_filterM fun branch hbranch => ?_)
        fun others _ => .inl rfl
      exact Task.allows_sameUnless h (hbranches branch (subset_of_firstValid hfound hbranch))

theorem beside_sameUnless (h : task.SameUnless Excused name whole next') (keyword : String) :
    (beside task keyword).SameUnless Excused task.extent
      (beside (task.withNext next') keyword) := by
  unfold beside
  simp only [Task.withNext_entries]
  cases hfind : Entries.find? task.entries keyword with
  | none => exact .inl rfl
  | some schema => exact Task.descend_sameUnless h (h.entries.find? hfind) _ _

theorem isSteady_if : IsSteady Excused name whole ifOutcome := fun _ _ _ h hvalue =>
  Outcome.sameUnless_ofExcept (Task.allows_sameUnless h hvalue) fun _ _ => beside_sameUnless h _

theorem isOfSome_sameUnless (h : task.SameUnless Excused name whole next') {types : List Datum}
    (htypes : ∀ type ∈ types, ConfinedTo name whole type) :
    SameUnless Excused (isOfSome task types) (isOfSome (task.withNext next') types) := by
  induction types with
  | nil => exact .inl rfl
  | cons type rest ih =>
    obtain ⟨htype, hrest⟩ := List.forall_mem_cons.mp htypes
    unfold isOfSome
    split
    · exact .inl rfl
    · exact .inl rfl
    · next heq =>
      cases heq
      refine (Task.listing_sameUnless h htype).bind fun violations _ => ?_
      split
      · exact .inl rfl
      · exact ih hrest
    · next heq =>
      cases heq
      refine SameUnless.bind (.inl rfl) fun found _ => ?_
      split
      · exact .inl rfl
      · exact ih hrest

theorem names?_confinedTo {value : Datum} (hvalue : ConfinedTo name whole value)
    {types : List Datum} (htypes : TypeName.names? value = some types) :
    ∀ type ∈ types, ConfinedTo name whole type := by
  unfold TypeName.names? at htypes
  split at htypes
  · cases htypes
    exact List.forall_mem_singleton.mpr hvalue
  · exact hvalue.items? htypes

theorem isSteady_ownType : IsSteady Excused name whole ownTypeOutcome := by
  intro task next' value h hvalue
  unfold ownTypeOutcome
  cases htypes : TypeName.names? value with
  | none => exact .inl rfl
  | some types =>
    exact Outcome.sameUnless_ofExcept (isOfSome_sameUnless h (names?_confinedTo hvalue htypes))
      fun _ _ => .inl rfl

theorem isSteady_disallow : IsSteady Excused name whole disallowOutcome := by
  intro task next' value h hvalue
  unfold disallowOutcome
  cases htypes : TypeName.names? value with
  | none => exact .inl rfl
  | some types =>
    refine Outcome.sameUnless_each fun type hmem => ?_
    have htype := names?_confinedTo hvalue htypes type hmem
    exact Outcome.sameUnless_ofExcept (isOfSome_sameUnless h (List.forall_mem_singleton.mpr htype))
      fun _ _ => .inl rfl

theorem isSteady_reference : IsSteady Excused name whole referenceOutcome := by
  intro task next' value h _
  refine Outcome.sameUnless_ofExcept (.inl rfl) fun lead hlead => Task.follow_sameUnless h ?_
  exact SatisfiesM_Except_eq.mp (Reference.lead_confinedTo h.library _ _) lead hlead

theorem isSteady_recursive : IsSteady Excused name whole recursiveOutcome := by
  intro task next' value h _
  refine Outcome.sameUnless_ofExcept (.inl rfl) fun lead hlead => Task.follow_sameUnless h ?_
  exact SatisfiesM_Except_eq.mp (Reference.recursiveLead_confinedTo h.library _) lead hlead

/-! ## Keywords about items -/

variable {items : List Datum} {schema : Datum}

theorem itemsFrom_sameUnless (h : task.SameUnless Excused name whole next')
    (hschema : ConfinedTo name whole schema) (start : Nat) (items : List Datum) :
    (itemsFrom task start schema items).SameUnless Excused task.extent
      (itemsFrom (task.withNext next') start schema items) :=
  Outcome.sameUnless_each fun item _ => Task.descend_sameUnless (h.into item.1) hschema _ _

theorem itemsByPosition_sameUnless (h : task.SameUnless Excused name whole next')
    {schemas : List Datum} (hschemas : ∀ schema ∈ schemas, ConfinedTo name whole schema)
    (items : List Datum) :
    (itemsByPosition task schemas items).SameUnless Excused task.extent
      (itemsByPosition (task.withNext next') schemas items) := by
  refine Outcome.sameUnless_each fun pair hmem => ?_
  have hschema : pair.1.2 ∈ schemas := (List.of_mem_zip (List.fst_mem_of_mem_zipIdx hmem)).2
  exact Task.descend_sameUnless (h.into pair.1.1) (hschemas _ hschema) _ _

theorem isSteady_items : IsSteady Excused name whole itemsOutcome := by
  intro task next' value h hvalue
  unfold itemsOutcome
  simp only [Task.withNext_data]
  cases task.data with
  | list items =>
    cases hschemas : value.items? with
    | none => cases value <;> first | exact .inl rfl | cases hschemas
    | some schemas =>
      cases value with
      | object => exact itemsFrom_sameUnless h hvalue 0 items
      | _ => exact itemsByPosition_sameUnless h (hvalue.items? hschemas) items
  | _ => exact .inl rfl

theorem isSteady_boolItems : IsSteady Excused name whole boolItemsOutcome := by
  intro task next' value h hvalue
  unfold boolItemsOutcome
  simp only [Task.withNext_data]
  cases task.data with
  | list items =>
    cases value with
    | list schemas => exact itemsByPosition_sameUnless h (hvalue.items? rfl) items
    | _ => exact itemsFrom_sameUnless h hvalue 0 items
  | _ => exact .inl rfl

theorem isSteady_furtherItems : IsSteady Excused name whole furtherItemsOutcome := by
  intro task next' value h hvalue
  unfold furtherItemsOutcome
  simp only [Task.withNext_data, Task.withNext_entries]
  cases task.data with
  | list items =>
    refine Outcome.sameUnless_ofExcept (.inl rfl) fun start _ => ?_
    split
    · exact .inl rfl
    · exact itemsFrom_sameUnless h hvalue start items
  | _ => exact .inl rfl

theorem isSteady_prefixItems : IsSteady Excused name whole prefixItemsOutcome := by
  intro task next' value h hvalue
  unfold prefixItemsOutcome
  simp only [Task.withNext_data]
  cases task.data with
  | list items =>
    cases hschemas : value.items? with
    | none => exact .inl rfl
    | some schemas => exact itemsByPosition_sameUnless h (hvalue.items? hschemas) items
  | _ => exact .inl rfl

theorem isSteady_additionalItems : IsSteady Excused name whole additionalItemsOutcome := by
  intro task next' value h hvalue
  unfold additionalItemsOutcome
  simp only [Task.withNext_data, Task.withNext_entries]
  cases task.data with
  | list items =>
    dsimp only
    split
    · exact .inl rfl
    · exact .inl rfl
    · split
      · exact .inl rfl
      · split
        · exact itemsFrom_sameUnless h hvalue _ items
        · exact .inl rfl
  | _ => exact .inl rfl

theorem allowsSome_sameUnless (h : task.SameUnless Excused name whole next')
    (hschema : ConfinedTo name whole schema) (items : List Datum) :
    SameUnless Excused (allowsSome task schema items)
      (allowsSome (task.withNext next') schema items) := by
  induction items with
  | nil => exact .inl rfl
  | cons item rest ih =>
    unfold allowsSome
    refine (Task.allows_sameUnless (h.into item) hschema).bind fun allowed _ => ?_
    split
    · exact .inl rfl
    · exact ih

theorem isSteady_contains : IsSteady Excused name whole containsOutcome := by
  intro task next' value h hvalue
  unfold containsOutcome
  simp only [Task.withNext_data]
  cases task.data with
  | list items =>
    exact Outcome.sameUnless_ofExcept (allowsSome_sameUnless h hvalue items) fun _ _ => .inl rfl
  | _ => exact .inl rfl

theorem countAllowed_sameUnless (h : task.SameUnless Excused name whole next')
    (hschema : ConfinedTo name whole schema) (most : Datum) (counted : Nat) (items : List Datum) :
    SameUnless Excused (countAllowed task schema most counted items)
      (countAllowed (task.withNext next') schema most counted items) := by
  induction items generalizing counted with
  | nil => exact .inl rfl
  | cons item rest ih =>
    unfold countAllowed
    refine (Task.allows_sameUnless (h.into item) hschema).bind fun allowed _ => ?_
    split
    · refine SameUnless.bind (.inl rfl) fun tooMany _ => ?_
      split
      · exact .inl rfl
      · exact ih (counted + 1)
    · exact ih counted

theorem isSteady_countedContains : IsSteady Excused name whole countedContainsOutcome := by
  intro task next' value h hvalue
  unfold countedContainsOutcome
  simp only [Task.withNext_data, Task.withNext_entries]
  cases task.data with
  | list items =>
    refine Outcome.sameUnless_ofExcept (.inl rfl) fun _ _ => ?_
    exact Outcome.sameUnless_ofExcept (countAllowed_sameUnless h hvalue _ 0 items)
      fun _ _ => .inl rfl
  | _ => exact .inl rfl

/-! ## Keywords about entries -/

/-- Properties are looked for one after the other, whatever is said of those that are not there. -/
theorem eachProperty_sameUnless (h : task.SameUnless Excused name whole next')
    {properties : Members} (hvalue : ConfinedTo name whole (.object properties))
    (entries : Members) (absent : Key → Datum → Outcome) :
    Outcome.SameUnless Excused task.extent
      (.each task.extent properties fun property =>
        match Entries.find? entries property.1 with
        | none => absent property.1 property.2
        | some entry =>
          (task.into entry).descend property.2 [.key property.1] [.key property.1])
      (.each task.extent properties fun property =>
        match Entries.find? entries property.1 with
        | none => absent property.1 property.2
        | some entry =>
          ((task.withNext next').into entry).descend property.2 [.key property.1]
            [.key property.1]) := by
  refine Outcome.sameUnless_each fun property hmem => ?_
  split
  · exact .inl rfl
  · next entry _ => exact Task.descend_sameUnless (h.into entry) (hvalue.entry hmem) _ _

theorem isSteady_properties : IsSteady Excused name whole propertiesOutcome := by
  intro task next' value h hvalue
  unfold propertiesOutcome
  simp only [Task.withNext_data]
  cases task.data with
  | object entries =>
    cases value with
    | object properties => exact eachProperty_sameUnless h hvalue entries fun _ _ => .valid
    | _ => exact .inl rfl
  | _ => exact .inl rfl

theorem isSteady_ownProperties : IsSteady Excused name whole ownPropertiesOutcome := by
  intro task next' value h hvalue
  unfold ownPropertiesOutcome
  simp only [Task.withNext_data]
  cases task.data with
  | object entries =>
    cases value with
    | object properties => exact eachProperty_sameUnless h hvalue entries absentProperty
    | _ => exact .inl rfl
  | _ => exact .inl rfl

theorem isSteady_propertyNames : IsSteady Excused name whole propertyNamesOutcome := by
  intro task next' value h hvalue
  unfold propertyNamesOutcome
  simp only [Task.withNext_data]
  cases task.data with
  | object entries =>
    exact Outcome.sameUnless_each fun entry _ =>
      Task.descend_sameUnless (h.into (.ofKey entry.1)) hvalue _ _
  | _ => exact .inl rfl

theorem isSteady_patternProperties : IsSteady Excused name whole patternPropertiesOutcome := by
  intro task next' value h hvalue
  unfold patternPropertiesOutcome
  simp only [Task.withNext_data]
  cases task.data with
  | object entries =>
    cases value with
    | object patterns =>
      refine Outcome.sameUnless_each fun pattern hmem => ?_
      refine Outcome.sameUnless_each fun entry _ => ?_
      refine Outcome.sameUnless_ofExcept (.inl rfl) fun found _ => ?_
      split
      · exact Task.descend_sameUnless (h.into entry.2) (hvalue.entry hmem) _ _
      · exact .inl rfl
    | _ => exact .inl rfl
  | _ => exact .inl rfl

theorem isSteady_additionalProperties :
    IsSteady Excused name whole additionalPropertiesOutcome := by
  intro task next' value h hvalue
  unfold additionalPropertiesOutcome
  simp only [Task.withNext_data, Task.withNext_entries]
  cases task.data with
  | object members =>
    refine Outcome.sameUnless_ofExcept (.inl rfl) fun further _ => ?_
    cases value with
    | object =>
      exact Outcome.sameUnless_each fun entry _ =>
        Task.descend_sameUnless (h.into entry.2) hvalue _ _
    | _ => exact .inl rfl
  | _ => exact .inl rfl

theorem onPresent_sameUnless {value : Datum} (hvalue : ConfinedTo name whole value)
    {report report' : Members → Key → Datum → Outcome}
    (hreport : ∀ entries key dependency, ConfinedTo name whole dependency →
      (report entries key dependency).SameUnless Excused task.extent
        (report' entries key dependency)) :
    (onPresent task value report).SameUnless Excused task.extent
      (onPresent (task.withNext next') value report') := by
  unfold onPresent
  simp only [Task.withNext_data]
  cases task.data with
  | object entries =>
    cases value with
    | object dependencies =>
      refine Outcome.sameUnless_each fun dependency hmem => ?_
      split
      · exact hreport entries dependency.1 dependency.2 (hvalue.entry hmem)
      · exact .inl rfl
    | _ => exact .inl rfl
  | _ => exact .inl rfl

theorem isSteady_dependencies : IsSteady Excused name whole dependenciesOutcome := by
  intro task next' value h hvalue
  refine onPresent_sameUnless hvalue fun entries key dependency hdependency => ?_
  cases dependency with
  | list => exact .inl rfl
  | _ => exact Task.descend_sameUnless h hdependency _ _

theorem isSteady_ownDependencies : IsSteady Excused name whole ownDependenciesOutcome := by
  intro task next' value h hvalue
  refine onPresent_sameUnless hvalue fun entries key dependency hdependency => ?_
  cases dependency with
  | object => exact Task.descend_sameUnless h hdependency _ _
  | _ => exact .inl rfl

theorem isSteady_dependentRequired : IsSteady Excused name whole dependentRequiredOutcome :=
  fun _ _ _ _ hvalue => onPresent_sameUnless hvalue fun _ _ _ _ => .inl rfl

theorem isSteady_dependentSchemas : IsSteady Excused name whole dependentSchemasOutcome :=
  fun _ _ _ h hvalue => onPresent_sameUnless hvalue fun _ _ _ hdependency =>
    Task.descend_sameUnless h hdependency _ _

end Schema

/-! ## Evaluated parts -/

namespace Survey

/-- The two ways of telling say the same of the schemas of the whole, for tasks that go on in the
same way, unless they are interrupted. -/
def Teller.SameUnless (Excused : Fault → Prop) (name : String) (whole : Datum)
    (tell tell' : Teller) : Prop :=
  ∀ ⦃task next' schema⦄, task.SameUnless Excused name whole next' → ConfinedTo name whole schema →
    SchemaBridge.SameUnless Excused (tell task schema) (tell' (task.withNext next') schema)

variable {tell tell' : Teller} {survey : Survey} {entries : Members}

theorem throughLead_sameUnless (htell : tell.SameUnless Excused name whole tell')
    (h : task.SameUnless Excused name whole next') {lead : Reference.Lead}
    (hlead : ConfinedTo name whole lead.target.contents) :
    SchemaBridge.SameUnless Excused (survey.throughLead tell task lead)
      (survey.throughLead tell' (task.withNext next') lead) :=
  SchemaBridge.SameUnless.bind (.inl rfl) fun setting _ => htell (h.with_setting setting) hlead

theorem throughReference_sameUnless (htell : tell.SameUnless Excused name whole tell')
    (h : task.SameUnless Excused name whole next') (entries : Members) (keyword : String) :
    SchemaBridge.SameUnless Excused (survey.throughReference tell task entries keyword)
      (survey.throughReference tell' (task.withNext next') entries keyword) := by
  unfold throughReference
  split
  · exact .inl rfl
  · exact .inl rfl
  · refine SchemaBridge.SameUnless.bind (.inl rfl) fun lead hlead => ?_
    refine throughLead_sameUnless htell h ?_
    exact SatisfiesM_Except_eq.mp (Reference.lead_confinedTo h.library _ _) lead hlead

theorem throughReferences_sameUnless (htell : tell.SameUnless Excused name whole tell')
    (h : task.SameUnless Excused name whole next') (entries : Members) :
    SchemaBridge.SameUnless Excused (survey.throughReferences tell task entries)
      (survey.throughReferences tell' (task.withNext next') entries) := by
  unfold throughReferences
  refine (throughReference_sameUnless htell h entries "$ref").bind fun found _ => ?_
  dsimp only
  split
  · split
    · refine SchemaBridge.SameUnless.bind (.inl rfl) fun lead hlead => ?_
      refine (throughLead_sameUnless htell h ?_).bind fun _ _ => .inl rfl
      exact SatisfiesM_Except_eq.mp (Reference.recursiveLead_confinedTo h.library _) lead hlead
    · exact .inl rfl
  · exact (throughReference_sameUnless htell h entries "$dynamicRef").bind fun _ _ => .inl rfl

theorem under_sameUnless (htell : tell.SameUnless Excused name whole tell')
    (h : task.SameUnless Excused name whole next')
    (hentries : ConfinedTo name whole (.object entries)) (keyword : String) :
    SchemaBridge.SameUnless Excused (under tell task entries keyword)
      (under tell' (task.withNext next') entries keyword) := by
  unfold under
  cases hfind : Entries.find? entries keyword with
  | none => exact .inl rfl
  | some schema => exact htell h (hentries.find? hfind)

theorem throughCondition_sameUnless (htell : tell.SameUnless Excused name whole tell')
    (h : task.SameUnless Excused name whole next')
    (hentries : ConfinedTo name whole (.object entries)) :
    SchemaBridge.SameUnless Excused (throughCondition tell task entries)
      (throughCondition tell' (task.withNext next') entries) := by
  unfold throughCondition
  cases hfind : Entries.find? entries "if" with
  | none => exact .inl rfl
  | some condition =>
    have hcondition := hentries.find? hfind
    refine (Task.allows_sameUnless h hcondition).bind fun allowed _ => ?_
    split
    · refine (htell h hcondition).bind fun found _ => ?_
      exact (under_sameUnless htell h hentries "then").bind fun _ _ => .inl rfl
    · exact under_sameUnless htell h hentries "else"

theorem throughBranches_sameUnless (htell : tell.SameUnless Excused name whole tell')
    (h : task.SameUnless Excused name whole next')
    (hentries : ConfinedTo name whole (.object entries)) :
    SchemaBridge.SameUnless Excused (throughBranches tell task entries)
      (throughBranches tell' (task.withNext next') entries) := by
  refine (sameUnless_mapM fun keyword _ => ?_).bind fun _ _ => .inl rfl
  refine SchemaBridge.SameUnless.bind (.inl rfl) fun branches hbranches => ?_
  refine sameUnless_mapM fun branch hmem => ?_
  have hbranch : ConfinedTo name whole branch := SatisfiesM_Except_eq.mp
    (Resource.itemsUnder_confinedTo hentries keyword) branches hbranches branch hmem
  refine (Task.verdict_sameUnless h hbranch).bind fun allowed _ => ?_
  split
  · exact htell h hbranch
  · exact .inl rfl

theorem allowedItems_sameUnless (h : task.SameUnless Excused name whole next')
    (hentries : ConfinedTo name whole (.object entries)) (items : List Datum) (keyword : String) :
    SchemaBridge.SameUnless Excused (allowedItems task entries items keyword)
      (allowedItems (task.withNext next') entries items keyword) := by
  unfold allowedItems
  cases hfind : Entries.find? entries keyword with
  | none => exact .inl rfl
  | some schema =>
    refine (sameUnless_filterM fun item _ => ?_).bind fun _ _ => .inl rfl
    exact Task.allows_sameUnless (h.into item.1) (hentries.find? hfind)

theorem tellItems_sameUnless (survey : Survey) (htell : tell.SameUnless Excused name whole tell')
    (items : List Datum) :
    Teller.SameUnless Excused name whole (survey.tellItems items tell)
      (survey.tellItems items tell') := by
  intro task next' schema h hschema
  cases schema with
  | object entries =>
    unfold tellItems
    refine SchemaBridge.SameUnless.bind (.inl rfl) fun mentioned _ => ?_
    split
    · exact .inl rfl
    · refine (throughReferences_sameUnless htell h entries).bind fun referred _ => ?_
      refine SchemaBridge.SameUnless.bind (.inl rfl) fun first _ => ?_
      split
      · refine (throughCondition_sameUnless htell h hschema).bind fun conditional _ => ?_
        refine (sameUnless_mapM fun keyword _ =>
          allowedItems_sameUnless h hschema items keyword).bind fun allowed _ => ?_
        exact (throughBranches_sameUnless htell h hschema).bind fun _ _ => .inl rfl
      · exact .inl rfl
  | _ => exact .inl rfl

theorem allowedEntries_sameUnless (h : task.SameUnless Excused name whole next')
    (hentries : ConfinedTo name whole (.object entries)) (data : Members) (keyword : String) :
    SchemaBridge.SameUnless Excused (allowedEntries task entries data keyword)
      (allowedEntries (task.withNext next') entries data keyword) := by
  unfold allowedEntries
  split
  · exact .inl rfl
  · exact .inl rfl
  · next schema _ hfind =>
    refine (sameUnless_filterM fun entry _ => ?_).bind fun _ _ => .inl rfl
    exact Task.verdict_sameUnless (h.into entry.1.2) (hentries.find? hfind)

theorem throughDependents_sameUnless (htell : tell.SameUnless Excused name whole tell')
    (h : task.SameUnless Excused name whole next')
    (hentries : ConfinedTo name whole (.object entries)) (data : Members) :
    SchemaBridge.SameUnless Excused (throughDependents tell task entries data)
      (throughDependents tell' (task.withNext next') entries data) := by
  unfold throughDependents
  split
  · exact .inl rfl
  · next dependents hfind =>
    refine (sameUnless_mapM fun dependent hmem => ?_).bind fun _ _ => .inl rfl
    dsimp only
    split
    · exact htell h ((hentries.find? hfind).entry hmem)
    · exact .inl rfl
  · exact .inl rfl

theorem tellEntries_sameUnless (survey : Survey) (htell : tell.SameUnless Excused name whole tell')
    (data : Members) :
    Teller.SameUnless Excused name whole (survey.tellEntries data tell)
      (survey.tellEntries data tell') := by
  intro task next' schema h hschema
  cases schema with
  | object entries =>
    refine (throughReferences_sameUnless htell h entries).bind fun referred _ => ?_
    have hspoken : SchemaBridge.SameUnless Excused (spokenOf task entries data)
        (spokenOf (task.withNext next') entries data) :=
      (sameUnless_mapM fun keyword _ => allowedEntries_sameUnless h hschema data keyword).bind
        fun _ _ => .inl rfl
    refine hspoken.bind fun spoken _ => ?_
    refine SchemaBridge.SameUnless.bind (.inl rfl) fun matched _ => ?_
    refine (throughDependents_sameUnless htell h hschema data).bind fun dependent _ => ?_
    refine (throughBranches_sameUnless htell h hschema).bind fun branched _ => ?_
    exact (throughCondition_sameUnless htell h hschema).bind fun _ _ => .inl rfl
  | _ => exact .inl rfl

/-- Going through a schema goes on alike if one step does. -/
theorem positions_sameUnless {step : Teller → Teller}
    (hstep : ∀ tell tell' : Teller, tell.SameUnless Excused name whole tell' →
      (step tell).SameUnless Excused name whole (step tell'))
    (h : task.SameUnless Excused name whole next') :
    SchemaBridge.SameUnless Excused (positions step task)
      (positions step (task.withNext next')) := by
  have hupTo (steps : Nat) : Teller.SameUnless Excused name whole (upTo step steps) (upTo step steps) := by
    induction steps with
    | zero => exact fun _ _ _ _ _ => .inl rfl
    | succ steps ih => exact hstep _ _ ih
  exact hupTo _ h h.entries

end Survey

namespace Schema

theorem isSteady_unevaluatedItems (isOlder : Bool) :
    IsSteady Excused name whole (unevaluatedItemsOutcome isOlder) := by
  intro task next' value h _
  unfold unevaluatedItemsOutcome
  simp only [Task.withNext_data]
  cases task.data with
  | list items =>
    have hpositions := Survey.positions_sameUnless
      (fun _ _ htell => Survey.tellItems_sameUnless ⟨.items, isOlder⟩ htell items) h
    exact Outcome.sameUnless_ofExcept hpositions fun _ _ => .inl rfl
  | _ => exact .inl rfl

theorem isSteady_unevaluatedProperties (isOlder : Bool) :
    IsSteady Excused name whole (unevaluatedPropertiesOutcome isOlder) := by
  intro task next' value h hvalue
  unfold unevaluatedPropertiesOutcome
  simp only [Task.withNext_data, Task.withNext_into]
  cases task.data with
  | object entries =>
    have hpositions := Survey.positions_sameUnless
      (fun _ _ htell => Survey.tellEntries_sameUnless ⟨.keys, isOlder⟩ htell entries) h
    refine Outcome.sameUnless_ofExcept hpositions fun found _ => ?_
    refine Outcome.sameUnless_ofExcept (sameUnless_mapM fun entry _ => ?_) fun _ _ => .inl rfl
    exact (Task.listing_sameUnless (h.into entry.1.2) hvalue).bind fun _ _ => .inl rfl
  | _ => exact .inl rfl

end Schema

/-! ## Vocabularies -/

namespace Vocabulary

open Schema

/-- All rules have the property, table by table. -/
structure Always (P : Rule → Prop) : Prop where
  shared : ∀ entry ∈ shared, P entry.2
  sinceDraft4 : ∀ entry ∈ sinceDraft4, P entry.2
  sinceDraft6 : ∀ entry ∈ sinceDraft6, P entry.2
  since2019 : ∀ entry ∈ since2019, P entry.2
  upToDraft4 : ∀ entry ∈ upToDraft4, P entry.2
  ofDraft3 : ∀ entry ∈ ofDraft3, P entry.2
  ofDrafts6And7 : ∀ entry ∈ ofDrafts6And7, P entry.2
  of2019 : ∀ entry ∈ of2019, P entry.2
  of2020 : ∀ entry ∈ of2020, P entry.2

/-- The dialects have the rules of these tables and no others. -/
theorem Always.of_rule? {P : Rule → Prop} (h : Always P) {dialect : Dialect} {keyword : String}
    {rule : Rule} (hrule : rule? dialect keyword = some rule) : P rule := by
  obtain ⟨keyword', hmem, -⟩ := Entries.mem_of_find? hrule
  have hdependencies : P dependenciesOutcome :=
    h.ofDrafts6And7 ("dependencies", dependenciesOutcome) (by simp [Vocabulary.ofDrafts6And7])
  have hif : P ifOutcome := h.since2019 ("if", ifOutcome) (by simp [Vocabulary.since2019])
  have hdialect : ∀ entry ∈ ofDialect dialect, P entry.2 := by
    cases dialect <;> simp only [ofDialect, List.forall_mem_append, List.forall_mem_singleton]
    case draft3 => exact ⟨⟨h.shared, h.upToDraft4⟩, h.ofDraft3⟩
    case draft4 => exact ⟨⟨⟨h.shared, h.sinceDraft4⟩, h.upToDraft4⟩, hdependencies⟩
    case draft6 => exact ⟨⟨⟨h.shared, h.sinceDraft4⟩, h.sinceDraft6⟩, h.ofDrafts6And7⟩
    case draft7 => exact ⟨⟨⟨⟨h.shared, h.sinceDraft4⟩, h.sinceDraft6⟩, h.ofDrafts6And7⟩, hif⟩
    case draft2019 => exact ⟨⟨⟨⟨h.shared, h.sinceDraft4⟩, h.sinceDraft6⟩, h.since2019⟩, h.of2019⟩
    case draft2020 => exact ⟨⟨⟨⟨h.shared, h.sinceDraft4⟩, h.sinceDraft6⟩, h.since2019⟩, h.of2020⟩
  exact hdialect _ hmem

theorem isSteady_plain (report : Datum → Datum → Outcome) :
    IsSteady Excused name whole fun task value => report value task.data :=
  isSteady_of_eq fun _ _ _ => rfl

/-- Every keyword of every dialect goes on alike. -/
theorem always_isSteady : Always (IsSteady Excused name whole) where
  shared := by
    simp only [Vocabulary.shared, List.forall_mem_cons, bound]
    exact ⟨isSteady_reference, isSteady_additionalProperties, isSteady_plain _, isSteady_plain _,
      isSteady_patternProperties, isSteady_plain _, isSteady_plain _, isSteady_plain _,
      isSteady_plain _, isSteady_plain _, List.forall_mem_nil _⟩
  sinceDraft4 := by
    simp only [Vocabulary.sinceDraft4, List.forall_mem_cons, bound]
    exact ⟨isSteady_allOf, isSteady_anyOf, isSteady_plain _, isSteady_not, isSteady_oneOf,
      isSteady_properties, isSteady_of_eq fun _ _ _ => rfl, isSteady_of_eq fun _ _ _ => rfl,
      isSteady_plain _, isSteady_plain _, List.forall_mem_nil _⟩
  sinceDraft6 := by
    simp only [Vocabulary.sinceDraft6, List.forall_mem_cons, bound]
    exact ⟨isSteady_plain _, isSteady_propertyNames, isSteady_plain _, isSteady_plain _,
      isSteady_plain _, isSteady_plain _, List.forall_mem_nil _⟩
  since2019 := by
    simp only [Vocabulary.since2019, List.forall_mem_cons]
    exact ⟨isSteady_countedContains, isSteady_dependentRequired, isSteady_dependentSchemas,
      isSteady_if, List.forall_mem_nil _⟩
  upToDraft4 := by
    simp only [Vocabulary.upToDraft4, List.forall_mem_cons, modifiedBound]
    exact ⟨isSteady_additionalItems, isSteady_items, isSteady_of_eq fun _ _ _ => rfl,
      isSteady_of_eq fun _ _ _ => rfl, List.forall_mem_nil _⟩
  ofDraft3 := by
    simp only [Vocabulary.ofDraft3, List.forall_mem_cons]
    exact ⟨isSteady_ownDependencies, isSteady_disallow, isSteady_plain _, isSteady_extends,
      isSteady_ownProperties, isSteady_ownType, List.forall_mem_nil _⟩
  ofDrafts6And7 := by
    simp only [Vocabulary.ofDrafts6And7, List.forall_mem_cons]
    exact ⟨isSteady_additionalItems, isSteady_contains, isSteady_dependencies, isSteady_boolItems,
      List.forall_mem_nil _⟩
  of2019 := by
    simp only [Vocabulary.of2019, List.forall_mem_cons]
    exact ⟨isSteady_recursive, isSteady_additionalItems, isSteady_boolItems,
      isSteady_unevaluatedItems true, isSteady_unevaluatedProperties true, List.forall_mem_nil _⟩
  of2020 := by
    simp only [Vocabulary.of2020, List.forall_mem_cons]
    exact ⟨isSteady_reference, isSteady_furtherItems, isSteady_prefixItems,
      isSteady_unevaluatedItems false, isSteady_unevaluatedProperties false, List.forall_mem_nil _⟩

end Vocabulary

/-! ## Whole evaluations -/

namespace Schema

variable {validator validator' : Validator}

theorem mem_of_mem_effective {alone : Bool} {entries : Members} {entry : Key × Datum}
    (h : entry ∈ effective alone entries) : entry ∈ entries := by
  unfold effective at h
  split at h
  · exact h
  · exact h
  · exact h
  · next reference _ hfind =>
    obtain ⟨key, hmem, hkey⟩ := Entries.mem_of_find? hfind
    rw [List.mem_singleton.mp h, ← Key.beq_text.mp hkey]
    exact hmem

/-- The two validators are for one schema, and what stands under a keyword somewhere in it is
checked by both or by neither. What one of them finds then, the other finds too, unless the first
one's check is an excused fault. -/
structure ChecksAlike (Excused : Fault → Prop) (name : String) (whole : Datum)
    (validator validator' : Validator) : Prop where
  library : validator.library = validator'.library
  isConfined : validator.library.IsConfined name whole
  checks : ∀ keyword value, (keyword = name → StandsUnder name value whole) →
    Option.Rel (fun check check' : Check =>
        ∀ data, SameUnless Excused (check value data) (check' value data))
      (Entries.find? validator.checks keyword) (Entries.find? validator'.checks keyword)

theorem keywordOutcome_sameUnless (hchecks : ChecksAlike Excused name whole validator validator')
    (h : task.SameUnless Excused name whole next') {keyword : String} {value : Datum}
    (hvalue : ConfinedTo name whole value) (hkeyword : keyword = name → StandsUnder name value whole) :
    (keywordOutcome validator keyword task value).SameUnless Excused task.extent
      (keywordOutcome validator' keyword (task.withNext next') value) := by
  have hfound : Option.Rel (fun check check' : Check =>
        ∀ data, SameUnless Excused (check value data) (check' value data))
      (registered? validator task.setting.rules keyword)
      (registered? validator' task.setting.rules keyword) := by
    unfold registered?
    split
    · exact hchecks.checks keyword value hkeyword
    · exact .none
  unfold keywordOutcome
  simp only [Task.withNext_setting, Task.withNext_data]
  generalize registered? validator task.setting.rules keyword = found at hfound ⊢
  generalize registered? validator' task.setting.rules keyword = found' at hfound ⊢
  cases hfound with
  | none =>
    cases hrule : Vocabulary.rule? task.setting.rules.dialect keyword with
    | none => exact .inl rfl
    | some rule => exact Vocabulary.always_isSteady.of_rule? hrule h hvalue
  | some hcheck => exact Outcome.sameUnless_ofExcept (hcheck task.data) fun _ _ => .inl rfl

theorem entryOutcome_sameUnless (hchecks : ChecksAlike Excused name whole validator validator')
    (h : task.SameUnless Excused name whole next') {entry : Key × Datum}
    (hentry : entry ∈ task.entries) :
    (entryOutcome validator task entry.1 entry.2).SameUnless Excused task.extent
      (entryOutcome validator' (task.withNext next') entry.1 entry.2) := by
  obtain ⟨key, value⟩ := entry
  cases key with
  | text keyword =>
    refine (keywordOutcome_sameUnless hchecks h (h.entries.entry hentry) ?_).inside _ _
    rintro rfl
    exact standsUnder_of_mem hentry h.entries
  | _ => exact .inl rfl

/-- One application goes on alike. -/
theorem apply1_sameUnless (hchecks : ChecksAlike Excused name whole validator validator')
    (budget : Nat) {next : Applier} (hnext : Applier.SameUnless Excused name whole next next') :
    Applier.SameUnless Excused name whole (apply1 validator budget next)
      (apply1 validator' budget next') := by
  intro extent setting schema data hschema
  unfold apply1
  split
  · exact .inl rfl
  · exact .inl rfl
  · next entries =>
    rw [← hchecks.library]
    refine Outcome.sameUnless_each fun entry hentry => ?_
    exact entryOutcome_sameUnless hchecks ⟨hnext, hchecks.isConfined, hschema⟩
      (mem_of_mem_effective hentry)
  · exact .inl rfl

/-- However many steps there are, all of them go on alike. -/
theorem applyUpTo_sameUnless (hchecks : ChecksAlike Excused name whole validator validator')
    (steps : Nat) :
    Applier.SameUnless Excused name whole (applyUpTo validator steps)
      (applyUpTo validator' steps) := by
  induction steps with
  | zero => exact fun _ _ _ _ _ => .inl rfl
  | succ steps ih => exact apply1_sameUnless hchecks steps ih

end Schema

namespace Validator

open Schema

variable {validator validator' : Validator}

theorem apply_sameUnless (hchecks : ChecksAlike Excused name whole validator validator')
    (hroot : validator.library.root = whole) (extent : Extent) (data : Datum) :
    (validator.apply extent data).SameUnless Excused extent (validator'.apply extent data) := by
  unfold apply stepBound
  rw [← hchecks.library]
  refine applyUpTo_sameUnless hchecks _ extent _ _ data ?_
  rw [hroot]
  exact confinedTo_self name whole

theorem isValid_sameUnless (hchecks : ChecksAlike Excused name whole validator validator')
    (hroot : validator.library.root = whole) (data : Datum) :
    SameUnless Excused (validator.isValid data) (validator'.isValid data) :=
  (apply_sameUnless hchecks hroot .first data).verdict rfl

theorem violations_sameUnless (hchecks : ChecksAlike Excused name whole validator validator')
    (hroot : validator.library.root = whole) (data : Datum) :
    SameUnless Excused (validator.violations data) (validator'.violations data) :=
  (apply_sameUnless hchecks hroot .all data).listing

end Validator

end SchemaBridge
