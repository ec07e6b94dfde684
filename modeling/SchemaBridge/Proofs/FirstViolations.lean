import Mathlib
import SchemaBridge.Proofs.Histories
import SchemaBridge.Proofs.Steadiness

/-!
# Stopping at the first violation

Whoever asks whether a value is valid is told by the first violation, and validation ends with it.
Up to there it goes the same way as a validation that lists all violations: keywords are applied in
the same order, the same references are followed, and where a keyword tries a schema or goes through
its violations, it does so to the same extent in both. So the answer is that of the whole list, and
a fault that ends the list is met unless a violation comes before it.

* `Outcome.upToFirst`, `Outcome.each_upToFirst`: a report that is cut short, and a list of them.
* `Schema.IsPrompt`: a rule that says up to the first violation what it says in full.
* `Vocabulary.always_isPrompt`: every keyword has such a rule.
* `Schema.apply1_isPrompt`, `Schema.applyUpTo_isPrompt`: one application, then all of them.
* `Registry.stopping_early_agrees`: the answers of a registry.
-/

namespace SchemaBridge

variable {α : Type}

/-! ## Reports -/

namespace Outcome

/-- What is left of a report if the first violation is enough: that one, and no fault behind it. -/
def upToFirst (outcome : Outcome) : Outcome :=
  match outcome.violations with
  | [] => outcome
  | violation :: _ => ⟨[violation], none⟩

/-- The report tells one thing at most, a violation or a fault. -/
def IsSingle (outcome : Outcome) : Prop := outcome.upToFirst = outcome

variable {outcome : Outcome} {items : List α}

theorem isSingle_valid : valid.IsSingle := rfl

theorem isSingle_stopped (fault : Fault) : (stopped fault).IsSingle := rfl

theorem isSingle_violated (keyword message : String) : (violated keyword message).IsSingle := rfl

theorem isSingle_require (keyword : String) (holds : Bool) (message : String) :
    (require keyword holds message).IsSingle := by
  cases holds <;> rfl

theorem upToFirst_inside (path schemaPath : List PathStep) :
    (outcome.inside path schemaPath).upToFirst = outcome.upToFirst.inside path schemaPath := by
  obtain ⟨violations, fault⟩ := outcome
  cases violations <;> rfl

theorem ofExcept_upToFirst {result : Except Fault α} {next next' : α → Outcome}
    (h : ∀ value, next value = (next' value).upToFirst) :
    ofExcept result next = (ofExcept result next').upToFirst := by
  cases result with
  | error fault => rfl
  | ok value => exact h value

theorem IsSingle.ofExcept {result : Except Fault α} {next : α → Outcome}
    (h : ∀ value, (next value).IsSingle) : (ofExcept result next).IsSingle :=
  (ofExcept_upToFirst fun value => (h value).symm).symm

/-- What comes next is wanted by both if the first report is empty, and by the full one alone if
there is a violation; after a fault it is wanted by none. -/
theorem andThen_upToFirst {next next' : Unit → Outcome} (h : next () = (next' ()).upToFirst) :
    andThen .first outcome.upToFirst next = (andThen .all outcome next').upToFirst := by
  obtain ⟨violations, fault⟩ := outcome
  cases violations with
  | cons violation rest => cases fault <;> rfl
  | nil =>
    cases fault with
    | some fault => rfl
    | none =>
      simp only [andThen, upToFirst, h, Option.isSome_none, List.isEmpty_nil, Bool.not_true,
        Bool.and_false, Bool.or_self, Bool.false_eq_true, if_false, List.nil_append]

theorem each_upToFirst {report report' : α → Outcome}
    (h : ∀ item ∈ items, report item = (report' item).upToFirst) :
    each .first items report = (each .all items report').upToFirst := by
  induction items with
  | nil => rfl
  | cons item rest ih =>
    rw [each_cons, each_cons, h item List.mem_cons_self]
    exact andThen_upToFirst (ih fun item hitem => h item (List.mem_cons_of_mem _ hitem))

/-- The first violation, or a fault before it, is all that an answer depends on. -/
theorem verdict_upToFirst : outcome.upToFirst.verdict = outcome.verdict := by
  obtain ⟨violations, fault⟩ := outcome
  cases violations <;> rfl

theorem verdict_of_listing {found : List Violation} (h : outcome.listing = .ok found) :
    outcome.verdict = .ok found.isEmpty := by
  obtain ⟨violations, fault⟩ := outcome
  cases fault with
  | some fault => cases h
  | none =>
    cases h
    cases violations <;> rfl

theorem verdict_of_listing_error {fault : Fault} (h : outcome.listing = .error fault) :
    outcome.verdict = .error fault
      ∨ outcome.verdict = .ok false ∧ outcome.violations ≠ [] ∧ outcome.fault = some fault := by
  obtain ⟨violations, fault'⟩ := outcome
  cases fault' with
  | none => cases h
  | some fault' =>
    cases h
    cases violations with
    | nil => exact .inl rfl
    | cons violation rest => exact .inr ⟨rfl, List.cons_ne_nil _ _, rfl⟩

end Outcome

/-! ## Tasks -/

/-- Asked for the first violation, the way of applying schemas says up to there what it says in
full. -/
def Applier.IsPrompt (next : Applier) : Prop :=
  ∀ setting schema data,
    next .first setting schema data = (next .all setting schema data).upToFirst

namespace Task

/-- The task with another extent. -/
def withExtent (extent : Extent) (task : Task) : Task := { task with extent }

variable {task : Task}

section

variable (extent : Extent) (task : Task)

@[simp] theorem withExtent_data : (task.withExtent extent).data = task.data := rfl

@[simp] theorem withExtent_setting : (task.withExtent extent).setting = task.setting := rfl

@[simp] theorem withExtent_entries : (task.withExtent extent).entries = task.entries := rfl

@[simp] theorem withExtent_extent : (task.withExtent extent).extent = extent := rfl

@[simp] theorem withExtent_into (data : Datum) :
    (task.withExtent extent).into data = (task.into data).withExtent extent := rfl

/-! A keyword that tries a schema, or goes through its violations, does so to an extent of its own.
-/

@[simp] theorem listing_withExtent (schema : Datum) :
    (task.withExtent extent).listing schema = task.listing schema := rfl

@[simp] theorem allows_withExtent (schema : Datum) :
    (task.withExtent extent).allows schema = task.allows schema := rfl

end

theorem descend_upToFirst (h : task.next.IsPrompt) (schema : Datum)
    (path schemaPath : List PathStep) :
    (task.withExtent .first).descend schema path schemaPath
      = ((task.withExtent .all).descend schema path schemaPath).upToFirst := by
  unfold descend
  split
  · rfl
  · rfl
  · refine Outcome.ofExcept_upToFirst fun setting => ?_
    rw [Outcome.upToFirst_inside]
    exact congrArg _ (h setting _ task.data)

/-- The same for a part of the value. -/
theorem descend_into_upToFirst (h : task.next.IsPrompt) (data schema : Datum)
    (path schemaPath : List PathStep) :
    ((task.withExtent .first).into data).descend schema path schemaPath
      = (((task.withExtent .all).into data).descend schema path schemaPath).upToFirst := by
  have hinto : (task.into data).next.IsPrompt := h
  exact descend_upToFirst hinto schema path schemaPath

/-- The reference counts as followed for the same purpose. -/
theorem follow_upToFirst (h : task.next.IsPrompt) (lead : Reference.Lead) :
    (task.withExtent .first).follow lead = ((task.withExtent .all).follow lead).upToFirst := by
  unfold follow
  split
  · rfl
  · rfl
  · exact Outcome.ofExcept_upToFirst fun setting => h setting _ task.data

end Task

/-! ## Keywords -/

namespace Schema

/-- Asked for the first violation, the rule says up to there what it says in full. -/
def IsPrompt (rule : Rule) : Prop :=
  ∀ ⦃task : Task⦄, task.next.IsPrompt → ∀ value,
    rule (task.withExtent .first) value = (rule (task.withExtent .all) value).upToFirst

/-- A rule that tells one thing at most, whatever is wanted. -/
theorem isPrompt_of_single {rule : Rule}
    (hextent : ∀ task extent value, rule (task.withExtent extent) value = rule task value)
    (hsingle : ∀ task value, (rule task value).IsSingle) : IsPrompt rule := by
  intro task _ value
  rw [hextent, hextent, hsingle]

/-- The same for a rule that applies no other schema. -/
theorem isPrompt_plain {report : Datum → Datum → Outcome}
    (h : ∀ value data, (report value data).IsSingle) :
    IsPrompt fun task value => report value task.data :=
  isPrompt_of_single (fun _ _ _ => rfl) fun task value => h value task.data

/-! ### One value -/

theorem isSingle_bound (bound : Bound) (limit data : Datum) :
    (bound.outcome limit data).IsSingle := by
  unfold Bound.outcome
  split
  · exact Outcome.isSingle_valid
  · split
    · exact Outcome.isSingle_require _ _ _
    · exact Outcome.isSingle_stopped _

theorem isSingle_multiple (keyword : String) (value data : Datum) :
    (multipleOutcome keyword value data).IsSingle := by
  unfold multipleOutcome
  split
  · exact Outcome.isSingle_valid
  · split
    · exact Outcome.isSingle_stopped _
    · exact .ofExcept fun _ => Outcome.isSingle_require _ _ _

theorem isSingle_type (rules : Rules) (value data : Datum) :
    (typeOutcome rules value data).IsSingle := by
  unfold typeOutcome
  split
  · exact Outcome.isSingle_stopped _
  · exact .ofExcept fun _ => Outcome.isSingle_require _ _ _

theorem isSingle_pattern (value data : Datum) : (patternOutcome value data).IsSingle := by
  unfold patternOutcome
  split
  · exact .ofExcept fun _ => Outcome.isSingle_require _ _ _
  · exact Outcome.isSingle_valid

theorem isSingle_enum (value data : Datum) : (enumOutcome value data).IsSingle := by
  unfold enumOutcome
  split
  · exact Outcome.isSingle_require _ _ _
  · exact Outcome.isSingle_stopped _

theorem isSingle_const (value data : Datum) : (constOutcome value data).IsSingle :=
  Outcome.isSingle_require _ _ _

theorem isSingle_unique (value data : Datum) : (uniqueOutcome value data).IsSingle := by
  unfold uniqueOutcome
  split
  · exact Outcome.isSingle_require _ _ _
  · exact Outcome.isSingle_valid

theorem isSingle_requiredName (keyword : String) (words : Datum → String) (entries : Members)
    (name : Datum) : (requiredName keyword words entries name).IsSingle := by
  unfold requiredName
  split
  · exact Outcome.isSingle_stopped _
  · exact Outcome.isSingle_require _ _ _

theorem requiredNames_upToFirst (keyword : String) (words : Datum → String) (entries : Members)
    (names : Datum) :
    requiredNames keyword words .first entries names
      = (requiredNames keyword words .all entries names).upToFirst := by
  unfold requiredNames
  split
  · exact Outcome.each_upToFirst fun name _ =>
      (isSingle_requiredName keyword words entries name).symm
  · rfl

theorem isPrompt_required :
    IsPrompt fun task value => requiredOutcome task.extent value task.data := by
  intro task _ value
  simp only [Task.withExtent_extent, Task.withExtent_data]
  unfold requiredOutcome
  split
  · exact requiredNames_upToFirst _ _ _ _
  · rfl

/-! ### The whole value -/

variable {task : Task}

theorem everyBranch_upToFirst (h : task.next.IsPrompt) (branches : List Datum) :
    everyBranch (task.withExtent .first) branches
      = (everyBranch (task.withExtent .all) branches).upToFirst :=
  Outcome.each_upToFirst fun branch _ => Task.descend_upToFirst h branch.1 _ _

theorem isPrompt_allOf : IsPrompt allOfOutcome := by
  intro task h value
  unfold allOfOutcome
  split
  · exact everyBranch_upToFirst h _
  · rfl

theorem isPrompt_extends : IsPrompt extendsOutcome := by
  intro task h value
  unfold extendsOutcome
  split
  · exact Task.descend_upToFirst h _ _ _
  · exact isPrompt_allOf h value

theorem firstValid_withExtent (extent : Extent) (task : Task) (branches : List Datum) :
    firstValid (task.withExtent extent) branches = firstValid task branches := by
  induction branches with
  | nil => rfl
  | cons branch rest ih => simp only [firstValid, ih, Task.listing_withExtent]

theorem isPrompt_anyOf : IsPrompt anyOfOutcome := by
  refine isPrompt_of_single (fun task extent value => ?_) fun task value => ?_
  · simp only [anyOfOutcome, firstValid_withExtent, Task.withExtent_data]
  · unfold anyOfOutcome
    split
    · exact Outcome.isSingle_stopped _
    · exact .ofExcept fun _ => Outcome.isSingle_require _ _ _

theorem isPrompt_not : IsPrompt notOutcome :=
  isPrompt_of_single (fun _ _ _ => rfl) fun _ _ => .ofExcept fun _ => Outcome.isSingle_require _ _ _

theorem isPrompt_oneOf : IsPrompt oneOfOutcome := by
  refine isPrompt_of_single (fun task extent value => ?_) fun task value => ?_
  · simp only [oneOfOutcome, firstValid_withExtent, Task.withExtent_data]
    rfl
  · unfold oneOfOutcome
    split
    · exact Outcome.isSingle_stopped _
    · refine .ofExcept fun found => ?_
      cases found with
      | none => exact Outcome.isSingle_violated _ _
      | some valid => exact .ofExcept fun _ => Outcome.isSingle_require _ _ _

theorem beside_upToFirst (h : task.next.IsPrompt) (keyword : String) :
    beside (task.withExtent .first) keyword
      = (beside (task.withExtent .all) keyword).upToFirst := by
  unfold beside
  simp only [Task.withExtent_entries]
  split
  · exact Task.descend_upToFirst h _ _ _
  · rfl

theorem isPrompt_if : IsPrompt ifOutcome := fun _ h _ =>
  Outcome.ofExcept_upToFirst fun _ => beside_upToFirst h _

theorem isOfSome_withExtent (extent : Extent) (task : Task) (types : List Datum) :
    isOfSome (task.withExtent extent) types = isOfSome task types := by
  induction types with
  | nil => rfl
  | cons type rest ih =>
    unfold isOfSome
    split
    · next heq => cases heq
    · rfl
    · next heq =>
      cases heq
      simp only [ih, Task.listing_withExtent]
    · next heq =>
      cases heq
      simp only [ih, Task.withExtent_data, Task.withExtent_setting]

theorem isPrompt_ownType : IsPrompt ownTypeOutcome := by
  refine isPrompt_of_single (fun task extent value => ?_) fun task value => ?_
  · simp only [ownTypeOutcome, isOfSome_withExtent, Task.withExtent_data]
  · unfold ownTypeOutcome
    split
    · exact Outcome.isSingle_stopped _
    · exact .ofExcept fun _ => Outcome.isSingle_require _ _ _

theorem isPrompt_disallow : IsPrompt disallowOutcome := by
  intro task _ value
  simp only [disallowOutcome, isOfSome_withExtent, Task.withExtent_data, Task.withExtent_extent]
  split
  · rfl
  · exact Outcome.each_upToFirst fun _ _ => Outcome.ofExcept_upToFirst fun _ =>
      (Outcome.isSingle_require _ _ _).symm

theorem isPrompt_reference : IsPrompt referenceOutcome := fun _ h _ =>
  Outcome.ofExcept_upToFirst fun lead => Task.follow_upToFirst h lead

theorem isPrompt_recursive : IsPrompt recursiveOutcome := fun _ h _ =>
  Outcome.ofExcept_upToFirst fun lead => Task.follow_upToFirst h lead

/-! ### Items -/

theorem itemsFrom_upToFirst (h : task.next.IsPrompt) (start : Nat) (schema : Datum)
    (items : List Datum) :
    itemsFrom (task.withExtent .first) start schema items
      = (itemsFrom (task.withExtent .all) start schema items).upToFirst :=
  Outcome.each_upToFirst fun item _ => Task.descend_into_upToFirst h item.1 _ _ _

theorem itemsByPosition_upToFirst (h : task.next.IsPrompt) (schemas items : List Datum) :
    itemsByPosition (task.withExtent .first) schemas items
      = (itemsByPosition (task.withExtent .all) schemas items).upToFirst :=
  Outcome.each_upToFirst fun item _ => Task.descend_into_upToFirst h item.1.1 _ _ _

theorem isPrompt_items : IsPrompt itemsOutcome := by
  intro task h value
  unfold itemsOutcome
  simp only [Task.withExtent_data]
  split
  · split
    · exact itemsFrom_upToFirst h _ _ _
    · split
      · exact itemsByPosition_upToFirst h _ _
      · rfl
  · rfl

theorem isPrompt_boolItems : IsPrompt boolItemsOutcome := by
  intro task h value
  unfold boolItemsOutcome
  simp only [Task.withExtent_data]
  split
  · split
    · exact itemsByPosition_upToFirst h _ _
    · exact itemsFrom_upToFirst h _ _ _
  · rfl

theorem isPrompt_furtherItems : IsPrompt furtherItemsOutcome := by
  intro task h value
  unfold furtherItemsOutcome
  simp only [Task.withExtent_data, Task.withExtent_entries]
  split
  · refine Outcome.ofExcept_upToFirst fun start => ?_
    split
    · exact (Outcome.isSingle_require _ _ _).symm
    · exact itemsFrom_upToFirst h _ _ _
  · rfl

theorem isPrompt_prefixItems : IsPrompt prefixItemsOutcome := by
  intro task h value
  unfold prefixItemsOutcome
  simp only [Task.withExtent_data]
  split
  · split
    · exact itemsByPosition_upToFirst h _ _
    · rfl
  · rfl

theorem isPrompt_additionalItems : IsPrompt additionalItemsOutcome := by
  intro task h value
  unfold additionalItemsOutcome
  simp only [Task.withExtent_data, Task.withExtent_entries]
  split
  · split
    · rfl
    · rfl
    · split
      · rfl
      · split
        · exact itemsFrom_upToFirst h _ _ _
        · exact (Outcome.isSingle_require _ _ _).symm
  · rfl

theorem allowsSome_withExtent (extent : Extent) (task : Task) (schema : Datum)
    (items : List Datum) :
    allowsSome (task.withExtent extent) schema items = allowsSome task schema items := by
  induction items with
  | nil => rfl
  | cons item rest ih => simp only [allowsSome, ih, Task.withExtent_into, Task.allows_withExtent]

theorem isPrompt_contains : IsPrompt containsOutcome := by
  refine isPrompt_of_single (fun task extent value => ?_) fun task value => ?_
  · simp only [containsOutcome, allowsSome_withExtent, Task.withExtent_data]
  · unfold containsOutcome
    split
    · exact .ofExcept fun _ => Outcome.isSingle_require _ _ _
    · exact Outcome.isSingle_valid

theorem countAllowed_withExtent (extent : Extent) (task : Task) (schema most : Datum)
    (counted : Nat) (items : List Datum) :
    countAllowed (task.withExtent extent) schema most counted items
      = countAllowed task schema most counted items := by
  induction items generalizing counted with
  | nil => rfl
  | cons item rest ih =>
    simp only [countAllowed, ih, Task.withExtent_into, Task.allows_withExtent]

theorem isPrompt_countedContains : IsPrompt countedContainsOutcome := by
  refine isPrompt_of_single (fun task extent value => ?_) fun task value => ?_
  · simp only [countedContainsOutcome, countAllowed_withExtent, Task.withExtent_data,
      Task.withExtent_entries, Task.withExtent_setting]
  · unfold countedContainsOutcome
    split
    · refine .ofExcept fun _ => .ofExcept fun counted => ?_
      cases counted with
      | none => exact Outcome.isSingle_violated _ _
      | some counted =>
        refine .ofExcept fun tooFew => ?_
        split
        · exact Outcome.isSingle_valid
        · split
          · exact Outcome.isSingle_violated _ _
          · exact Outcome.isSingle_violated _ _
    · exact Outcome.isSingle_valid

/-! ### Entries -/

/-- Properties are looked for one after the other, if no more than one violation is told of one that
is not there. -/
theorem eachProperty_upToFirst (h : task.next.IsPrompt) (properties entries : Members)
    (absent : Key → Datum → Outcome) (habsent : ∀ key schema, (absent key schema).IsSingle) :
    (Outcome.each .first properties fun property =>
      match Entries.find? entries property.1 with
      | none => absent property.1 property.2
      | some entry =>
        ((task.withExtent .first).into entry).descend property.2 [.key property.1]
          [.key property.1])
      = (Outcome.each .all properties fun property =>
          match Entries.find? entries property.1 with
          | none => absent property.1 property.2
          | some entry =>
            ((task.withExtent .all).into entry).descend property.2 [.key property.1]
              [.key property.1]).upToFirst := by
  refine Outcome.each_upToFirst fun property _ => ?_
  split
  · exact (habsent _ _).symm
  · exact Task.descend_into_upToFirst h _ _ _ _

theorem isPrompt_properties : IsPrompt propertiesOutcome := by
  intro task h value
  unfold propertiesOutcome
  simp only [Task.withExtent_data, Task.withExtent_extent]
  split
  · split
    · exact eachProperty_upToFirst h _ _ (fun _ _ => .valid) fun _ _ => Outcome.isSingle_valid
    · rfl
  · rfl

theorem isSingle_absentProperty (name : Key) (schema : Datum) :
    (absentProperty name schema).IsSingle := by
  unfold absentProperty
  split
  · split
    · rfl
    · exact Outcome.isSingle_valid
  · exact Outcome.isSingle_stopped _

theorem isPrompt_ownProperties : IsPrompt ownPropertiesOutcome := by
  intro task h value
  unfold ownPropertiesOutcome
  simp only [Task.withExtent_data, Task.withExtent_extent]
  split
  · split
    · exact eachProperty_upToFirst h _ _ absentProperty isSingle_absentProperty
    · rfl
  · rfl

theorem isPrompt_propertyNames : IsPrompt propertyNamesOutcome := by
  intro task h value
  unfold propertyNamesOutcome
  simp only [Task.withExtent_data, Task.withExtent_extent]
  split
  · exact Outcome.each_upToFirst fun entry _ => Task.descend_into_upToFirst h _ _ _ _
  · rfl

theorem isPrompt_patternProperties : IsPrompt patternPropertiesOutcome := by
  intro task h value
  unfold patternPropertiesOutcome
  simp only [Task.withExtent_data, Task.withExtent_extent]
  split
  · split
    · refine Outcome.each_upToFirst fun pattern _ => Outcome.each_upToFirst fun entry _ => ?_
      refine Outcome.ofExcept_upToFirst fun found => ?_
      split
      · exact Task.descend_into_upToFirst h _ _ _ _
      · rfl
    · rfl
  · rfl

theorem isSingle_furtherRefused (task : Task) (further : Members) :
    (furtherRefused task further).IsSingle := by
  unfold furtherRefused
  split
  · exact Outcome.isSingle_violated _ _
  · split
    · exact Outcome.isSingle_violated _ _
    · exact Outcome.isSingle_stopped _

theorem isPrompt_additionalProperties : IsPrompt additionalPropertiesOutcome := by
  intro task h value
  unfold additionalPropertiesOutcome
  simp only [Task.withExtent_data, Task.withExtent_entries, Task.withExtent_extent]
  split
  · refine Outcome.ofExcept_upToFirst fun further => ?_
    split
    · exact Outcome.each_upToFirst fun entry _ => Task.descend_into_upToFirst h _ _ _ _
    · split
      · rfl
      · exact (isSingle_furtherRefused task further).symm
  · rfl

theorem onPresent_upToFirst {report report' : Members → Key → Datum → Outcome}
    (h : ∀ entries key dependency,
      report entries key dependency = (report' entries key dependency).upToFirst) (value : Datum) :
    onPresent (task.withExtent .first) value report
      = (onPresent (task.withExtent .all) value report').upToFirst := by
  unfold onPresent
  simp only [Task.withExtent_data, Task.withExtent_extent]
  split
  · split
    · refine Outcome.each_upToFirst fun dependency _ => ?_
      split
      · exact h _ _ _
      · rfl
    · rfl
  · rfl

theorem isPrompt_dependencies : IsPrompt dependenciesOutcome := by
  intro task h value
  refine onPresent_upToFirst (fun entries key dependency => ?_) value
  split
  · exact Outcome.each_upToFirst fun name _ => (isSingle_requiredName _ _ _ name).symm
  · exact Task.descend_upToFirst h _ _ _

theorem isPrompt_ownDependencies : IsPrompt ownDependenciesOutcome := by
  intro task h value
  refine onPresent_upToFirst (fun entries key dependency => ?_) value
  split
  · exact Task.descend_upToFirst h _ _ _
  · exact (isSingle_requiredName _ _ _ _).symm
  · exact requiredNames_upToFirst _ _ _ _

theorem isPrompt_dependentRequired : IsPrompt dependentRequiredOutcome := fun _ _ value =>
  onPresent_upToFirst (fun _ _ _ => requiredNames_upToFirst _ _ _ _) value

theorem isPrompt_dependentSchemas : IsPrompt dependentSchemasOutcome := fun _ h value =>
  onPresent_upToFirst (fun _ _ _ => Task.descend_upToFirst h _ _ _) value

end Schema

/-! ## Evaluated parts -/

namespace Survey

/-- What is told does not depend on how much of a report is wanted. -/
def Teller.IsIndifferent (tell : Teller) : Prop :=
  ∀ extent, (fun task => tell (task.withExtent extent)) = tell

variable {tell : Teller}

/-- A step asks of the extent in no other way than by what it passes it on to. -/
theorem tellItems_isIndifferent (survey : Survey) (items : List Datum) (h : tell.IsIndifferent) :
    (survey.tellItems items tell).IsIndifferent := by
  intro extent
  calc (fun task => survey.tellItems items tell (task.withExtent extent))
      = survey.tellItems items fun task => tell (task.withExtent extent) := rfl
    _ = survey.tellItems items tell := by rw [h extent]

theorem tellEntries_isIndifferent (survey : Survey) (data : Members) (h : tell.IsIndifferent) :
    (survey.tellEntries data tell).IsIndifferent := by
  intro extent
  calc (fun task => survey.tellEntries data tell (task.withExtent extent))
      = survey.tellEntries data fun task => tell (task.withExtent extent) := rfl
    _ = survey.tellEntries data tell := by rw [h extent]

theorem positions_withExtent {step : Teller → Teller}
    (hstep : ∀ tell : Teller, tell.IsIndifferent → (step tell).IsIndifferent) (extent : Extent)
    (task : Task) : positions step (task.withExtent extent) = positions step task := by
  have hupTo (steps : Nat) : Teller.IsIndifferent (upTo step steps) := by
    induction steps with
    | zero => exact fun _ => rfl
    | succ steps ih => exact hstep _ ih
  exact congrFun (congrFun (hupTo _ extent) task) _

end Survey

namespace Schema

theorem isPrompt_unevaluatedItems (isOlder : Bool) :
    IsPrompt (unevaluatedItemsOutcome isOlder) := by
  refine isPrompt_of_single (fun task extent value => ?_) fun task value => ?_
  · unfold unevaluatedItemsOutcome
    simp only [Task.withExtent_data]
    split
    · next items _ =>
      rw [Survey.positions_withExtent fun _ => Survey.tellItems_isIndifferent _ items]
    · rfl
  · unfold unevaluatedItemsOutcome
    split
    · exact .ofExcept fun _ => Outcome.isSingle_require _ _ _
    · exact Outcome.isSingle_valid

theorem isPrompt_unevaluatedProperties (isOlder : Bool) :
    IsPrompt (unevaluatedPropertiesOutcome isOlder) := by
  refine isPrompt_of_single (fun task extent value => ?_) fun task value => ?_
  · unfold unevaluatedPropertiesOutcome
    simp only [Task.withExtent_data, Task.withExtent_into, Task.listing_withExtent]
    split
    · next entries _ =>
      rw [Survey.positions_withExtent fun _ => Survey.tellEntries_isIndifferent _ entries]
    · rfl
  · unfold unevaluatedPropertiesOutcome
    split
    · exact .ofExcept fun _ => .ofExcept fun _ => Outcome.isSingle_require _ _ _
    · exact Outcome.isSingle_valid

end Schema

/-! ## Vocabularies -/

namespace Vocabulary

open Schema

theorem isPrompt_bound (bound : Bound) :
    IsPrompt fun task value => bound.outcome value task.data :=
  isPrompt_plain fun value data => isSingle_bound bound value data

theorem isPrompt_modifiedBound (keyword modifier : String) (bound : String → Bool → Bound) :
    IsPrompt (modifiedBound keyword modifier bound).2 :=
  isPrompt_of_single (fun _ _ _ => rfl) fun _ _ => isSingle_bound _ _ _

/-- Every keyword of every dialect says up to the first violation what it says in full. -/
theorem always_isPrompt : Always IsPrompt where
  shared := by
    simp only [Vocabulary.shared, List.forall_mem_cons, bound]
    exact ⟨isPrompt_reference, isPrompt_additionalProperties, isPrompt_plain isSingle_enum,
      isPrompt_plain isSingle_pattern, isPrompt_patternProperties, isPrompt_plain isSingle_unique,
      isPrompt_bound _, isPrompt_bound _, isPrompt_bound _, isPrompt_bound _, List.forall_mem_nil _⟩
  sinceDraft4 := by
    simp only [Vocabulary.sinceDraft4, List.forall_mem_cons, bound]
    exact ⟨isPrompt_allOf, isPrompt_anyOf, isPrompt_plain (isSingle_multiple _), isPrompt_not,
      isPrompt_oneOf, isPrompt_properties, isPrompt_required,
      isPrompt_of_single (fun _ _ _ => rfl) fun _ _ => isSingle_type _ _ _,
      isPrompt_bound _, isPrompt_bound _, List.forall_mem_nil _⟩
  sinceDraft6 := by
    simp only [Vocabulary.sinceDraft6, List.forall_mem_cons, bound]
    exact ⟨isPrompt_plain isSingle_const, isPrompt_propertyNames, isPrompt_bound _,
      isPrompt_bound _, isPrompt_bound _, isPrompt_bound _, List.forall_mem_nil _⟩
  since2019 := by
    simp only [Vocabulary.since2019, List.forall_mem_cons]
    exact ⟨isPrompt_countedContains, isPrompt_dependentRequired, isPrompt_dependentSchemas,
      isPrompt_if, List.forall_mem_nil _⟩
  upToDraft4 := by
    simp only [Vocabulary.upToDraft4, List.forall_mem_cons]
    exact ⟨isPrompt_additionalItems, isPrompt_items, isPrompt_modifiedBound _ _ _,
      isPrompt_modifiedBound _ _ _, List.forall_mem_nil _⟩
  ofDraft3 := by
    simp only [Vocabulary.ofDraft3, List.forall_mem_cons]
    exact ⟨isPrompt_ownDependencies, isPrompt_disallow, isPrompt_plain (isSingle_multiple _),
      isPrompt_extends, isPrompt_ownProperties, isPrompt_ownType, List.forall_mem_nil _⟩
  ofDrafts6And7 := by
    simp only [Vocabulary.ofDrafts6And7, List.forall_mem_cons]
    exact ⟨isPrompt_additionalItems, isPrompt_contains, isPrompt_dependencies, isPrompt_boolItems,
      List.forall_mem_nil _⟩
  of2019 := by
    simp only [Vocabulary.of2019, List.forall_mem_cons]
    exact ⟨isPrompt_recursive, isPrompt_additionalItems, isPrompt_boolItems,
      isPrompt_unevaluatedItems true, isPrompt_unevaluatedProperties true, List.forall_mem_nil _⟩
  of2020 := by
    simp only [Vocabulary.of2020, List.forall_mem_cons]
    exact ⟨isPrompt_reference, isPrompt_furtherItems, isPrompt_prefixItems,
      isPrompt_unevaluatedItems false, isPrompt_unevaluatedProperties false, List.forall_mem_nil _⟩

end Vocabulary

/-! ## Whole evaluations -/

namespace Schema

variable {validator : Validator}

theorem isSingle_check (name : String) (check : Check) (value data : Datum) :
    (checkOutcome name check value data).IsSingle :=
  .ofExcept fun _ => Outcome.isSingle_require _ _ _

/-- A registered check may do anything, and still tells one thing. -/
theorem isPrompt_keyword (validator : Validator) (name : String) :
    IsPrompt (keywordOutcome validator name) := by
  intro task h value
  unfold keywordOutcome
  simp only [Task.withExtent_setting, Task.withExtent_data]
  split
  · exact (isSingle_check _ _ _ _).symm
  · split
    · next hrule => exact Vocabulary.always_isPrompt.of_rule? hrule h value
    · rfl

theorem entryOutcome_upToFirst {task : Task} (h : task.next.IsPrompt) (key : Key) (value : Datum) :
    entryOutcome validator (task.withExtent .first) key value
      = (entryOutcome validator (task.withExtent .all) key value).upToFirst := by
  cases key with
  | text name =>
    simp only [entryOutcome]
    rw [isPrompt_keyword validator name h value, Outcome.upToFirst_inside]
  | _ => rfl

/-- One application says up to the first violation what it says in full, if what comes next does. -/
theorem apply1_isPrompt {next : Applier} (h : next.IsPrompt) (budget : Nat) :
    (apply1 validator budget next).IsPrompt := by
  intro setting schema data
  unfold apply1
  split
  · rfl
  · rfl
  · next entries =>
    let task : Task :=
      { library := validator.library, next, budget, extent := .all, setting, entries, data }
    have htask : task.next.IsPrompt := h
    exact Outcome.each_upToFirst fun entry _ => entryOutcome_upToFirst htask entry.1 entry.2
  · rfl

/-- However many steps there are, all of them do. -/
theorem applyUpTo_isPrompt (steps : Nat) : (applyUpTo validator steps).IsPrompt := by
  induction steps with
  | zero => exact fun _ _ _ => rfl
  | succ steps ih => exact apply1_isPrompt ih steps

end Schema

namespace Validator

variable {validator : Validator} {data : Datum}

/-- The shorter report is the beginning of the full one. -/
theorem apply_upToFirst (validator : Validator) (data : Datum) :
    validator.apply .first data = (validator.apply .all data).upToFirst := by
  unfold apply
  exact Schema.applyUpTo_isPrompt _ _ _ _

/-- Whether a value is valid can be read off the full report. -/
theorem isValid_eq_verdict (validator : Validator) (data : Datum) :
    validator.isValid data = (validator.apply .all data).verdict := by
  rw [isValid, apply_upToFirst, Outcome.verdict_upToFirst]

theorem isValid_of_violations {found : List Violation}
    (h : validator.violations data = .ok found) : validator.isValid data = .ok found.isEmpty := by
  rw [isValid_eq_verdict]
  exact Outcome.verdict_of_listing h

theorem violations_of_isValid (h : validator.isValid data = .ok true) :
    validator.violations data = .ok [] := by
  rw [isValid_eq_verdict, Outcome.verdict_eq_true_iff] at h
  exact Outcome.listing_eq_nil_iff.mpr h

/-- A fault that ends the list is met, unless there is a violation before it. -/
theorem isValid_of_violations_error {fault : Fault}
    (h : validator.violations data = .error fault) :
    validator.isValid data = .error fault ∨ validator.isValid data = .ok false
      ∧ (validator.apply .all data).violations ≠ []
      ∧ (validator.apply .all data).fault = some fault := by
  rw [isValid_eq_verdict]
  exact Outcome.verdict_of_listing_error h

end Validator

/-! ## Answers of a registry -/

namespace Registry

/-- It does not count what else has been done with the registries. -/
theorem answersAlike_of_registrations {operations operations' : List Operation}
    (h : registrations operations = registrations operations') :
    AnswersAlike (runAll {} operations) (runAll {} operations') := by
  refine answersAlike_of_find? (coherent_runAll_empty _) (coherent_runAll_empty _)
    (nodup_runAll _) (nodup_runAll _) fun name => ?_
  rw [find?_runAll, find?_runAll, lastRegistered, lastRegistered, h]

theorem answers_of_validator {registry : Registry} {schema : Datum} {validator : Validator}
    (h : (registry.validator schema).1 = .ok validator) (data : Datum) :
    (registry.isValid schema data).1 = validator.isValid data
      ∧ (registry.violations schema data).1 = validator.violations data := by
  rw [isValid_fst, violations_fst, h, Except.bind, Except.bind]
  exact ⟨rfl, rfl⟩

/-- Without a validator, neither call goes any further. -/
theorem answers_of_no_validator {registry : Registry} {schema : Datum} {fault : Fault}
    (h : (registry.validator schema).1 = .error fault) (data : Datum) :
    (registry.isValid schema data).1 = .error fault
      ∧ (registry.violations schema data).1 = .error fault := by
  rw [isValid_fst, violations_fst, h]
  exact ⟨rfl, rfl⟩

/-- What a registry answers on the validity of a value can be read off its list of violations,
whichever of the two it is asked first, and whatever else it is asked before. If there is a list,
the value is valid just if the list is empty; a value is valid only if there is a list, and that
empty. A fault that ends the list also ends the other call, unless a violation comes before it. -/
theorem stopping_early_agrees {operations operations' : List Operation}
    (h : registrations operations = registrations operations') (schema data : Datum) :
    let asked := runAll {} operations
    let listed := runAll {} operations'
    (∀ found, (listed.violations schema data).1 = .ok found →
        (asked.isValid schema data).1 = .ok found.isEmpty
          ∧ (asked.validate schema data).1 = .ok found.isEmpty)
      ∧ ((asked.isValid schema data).1 = .ok true → (listed.violations schema data).1 = .ok [])
      ∧ ∀ fault, (listed.violations schema data).1 = .error fault →
          (asked.isValid schema data).1 = .error fault
            ∨ (asked.isValid schema data).1 = .ok false
              ∧ ∃ validator, (listed.validator schema).1 = .ok validator
                ∧ (validator.apply .all data).violations ≠ []
                ∧ (validator.apply .all data).fault = some fault := by
  intro asked listed
  have halike : (asked.isValid schema data).1 = (listed.isValid schema data).1 :=
    (answersAlike_of_registrations h).isValid schema data
  have hvalidate : (asked.validate schema data).1 = (asked.isValid schema data).1 := rfl
  rw [hvalidate, halike]
  cases hmade : (listed.validator schema).1 with
  | error fault =>
    obtain ⟨hisValid, hviolations⟩ := answers_of_no_validator hmade data
    rw [hisValid, hviolations]
    exact ⟨fun _ hfound => (by cases hfound), fun hvalid => (by cases hvalid),
      fun _ hfault => .inl (by cases hfault; rfl)⟩
  | ok validator =>
    obtain ⟨hisValid, hviolations⟩ := answers_of_validator hmade data
    rw [hisValid, hviolations]
    refine ⟨fun found hfound => ?_, Validator.violations_of_isValid, fun fault hfault => ?_⟩
    · have hanswer := Validator.isValid_of_violations hfound
      exact ⟨hanswer, hanswer⟩
    · refine (Validator.isValid_of_violations_error hfault).imp_right fun ⟨hanswer, hbefore⟩ => ?_
      exact ⟨hanswer, validator, rfl, hbefore⟩

/-- An unknown format under `b` is a fault, and the limit under `a` is looked at before. -/
theorem stopping_early_agrees_before_unknown_format :
    let asked := runAll {} [.extend true]
    let schema : Datum := .object [("properties", .object [
      ("a", .object [("maximum", .int 1)]),
      ("b", .object [(ExtendedFormat.keyword, .text "none")])])]
    let listed := runAll {} [.violations schema .null, .extend true, .validatorClass]
    let allowed : Datum := .object [("a", .int 1)]
    let refused : Datum := .object [("a", .int 2)]
    let spoiled : Datum := .object [("b", .list []), ("a", .int 2)]
    ((asked.isValid schema allowed).1 = .ok true ∧ (listed.violations schema allowed).1 = .ok [])
      ∧ (∃ found, (listed.violations schema refused).1 = .ok found
          ∧ (asked.validate schema refused).1 = .ok found.isEmpty ∧ found.length = 1)
      ∧ ∃ fault validator, (listed.violations schema spoiled).1 = .error fault
          ∧ (asked.isValid schema spoiled).1 = .ok false
          ∧ (listed.validator schema).1 = .ok validator
          ∧ (validator.apply .all spoiled).violations ≠ []
          ∧ (validator.apply .all spoiled).fault = some fault := by
  intro asked schema listed allowed refused spoiled
  have hregistrations : registrations [.extend true]
      = registrations [.violations schema .null, .extend true, .validatorClass] := rfl
  refine ⟨?_, ?_, ?_⟩
  · have hvalid : (asked.isValid schema allowed).1 = .ok true :=
      eq_ok_of_toOption (by decide +kernel)
    exact ⟨hvalid, (stopping_early_agrees hregistrations schema allowed).2.1 hvalid⟩
  · have hlength : (listed.violations schema refused).1.toOption.map List.length = some 1 := by
      decide +kernel
    obtain ⟨found, hfound, hone⟩ := Option.map_eq_some_iff.mp hlength
    have hlist := eq_ok_of_toOption hfound
    have hanswers := (stopping_early_agrees hregistrations schema refused).1 found hlist
    exact ⟨found, hlist, hanswers.2, hone⟩
  · have hfalse : (asked.isValid schema spoiled).1 = .ok false :=
      eq_ok_of_toOption (by decide +kernel)
    have hnone : (listed.violations schema spoiled).1.toOption = none :=
      Option.isNone_iff_eq_none.mp (by decide +kernel)
    obtain ⟨fault, hfault⟩ := exists_error_of_toOption hnone
    rcases (stopping_early_agrees hregistrations schema spoiled).2.2 fault hfault with
      herror | ⟨hanswer, validator, hbefore⟩
    · rw [hfalse] at herror
      cases herror
    · exact ⟨fault, validator, hfault, hanswer, hbefore⟩

end Registry

end SchemaBridge
