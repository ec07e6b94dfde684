import Mathlib
import SchemaBridge.Proofs.Definitions
import SchemaBridge.Proofs.Envelope
import SchemaBridge.Proofs.Histories
import SchemaBridge.Proofs.Parts

/-!
# What a definition reaches

What a validator for a definition answers depends on the definitions that can be reached from it by
references, and on no others. Two evaluations of one schema, among different definitions, go side by
side. They follow the same references, and these lead to the same contents, from which nothing can
be reached that could not be reached before. So the evaluations enter the same definitions, and where
these go round in a circle, both of them end at the same point.

Only a keyword that is registered as `definitions` would be told all the definitions.

* `Schema.SameFrom`, `Schema.SameBehind`: the same can be reached from a name, or from a schema.
* `Schema.Entered.length_le`: at one level of the data, few references are followed.
* `Schema.apply1_same`, `Schema.applyUpTo_same`: one application of a schema and all of them.
* `Schema.apply_whole_same`: the validators of a definition.
* `Registry.validation_depends_on_reached`: the answers about documents.
-/

namespace SchemaBridge

open Datum

namespace Schema

/-! ## Reachable definitions -/

/-- Somewhere in the first definition stands a reference to the second one. -/
def Refers (definitions : Members) (name other : String) : Prop :=
  ∃ contents, Entries.find? definitions name = some contents ∧
    StandsUnder "$ref" (Reference.toDefinition other) contents

/-- All that can be reached from a name by references is the same among other definitions, or it is
missing there too. -/
def SameFrom (definitions definitions' : Members) (name : String) : Prop :=
  ∀ other : String, Relation.ReflTransGen (Refers definitions) name other →
    Entries.find? definitions other = Entries.find? definitions' other

/-- The same for all references in a schema. -/
def SameBehind (definitions definitions' : Members) (schema : Datum) : Prop :=
  ∀ name, StandsUnder "$ref" (Reference.toDefinition name) schema →
    SameFrom definitions definitions' name

variable {definitions definitions' : Members} {name : String}

theorem SameFrom.find?_eq (h : SameFrom definitions definitions' name) :
    Entries.find? definitions name = Entries.find? definitions' name := h name .refl

/-- What a definition refers to can be reached from it. -/
theorem SameFrom.behind (h : SameFrom definitions definitions' name) {contents : Datum}
    (hfind : Entries.find? definitions name = some contents) :
    SameBehind definitions definitions' contents := fun _ href other hreached =>
  h other (.head ⟨contents, hfind, href⟩ hreached)

theorem SameBehind.confined {schema part : Datum} (h : SameBehind definitions definitions' schema)
    (hpart : ConfinedTo "$ref" schema part) : SameBehind definitions definitions' part :=
  fun name href => h name (hpart _ href)

/-- A definition to which nothing refers can be reached from itself only. -/
theorem ne_of_not_standsUnder {other reached : String}
    (h : ¬StandsUnder "$ref" (Reference.toDefinition other) (.object definitions))
    (hname : name ≠ other) (hreached : Relation.ReflTransGen (Refers definitions) name reached) :
    reached ≠ other := by
  cases hreached with
  | refl => exact hname
  | tail _ hlast =>
    rintro rfl
    obtain ⟨contents, hfind, href⟩ := hlast
    exact h (standsUnder_object.mpr (.inr ⟨_, mem_of_find?_text hfind, href⟩))

/-! ## References that were followed -/

/-- The references to definitions that can be followed. -/
def visits (definitions : Members) : List Visit :=
  (Document.definedNames definitions).flatMap fun name =>
    [.toDefinition .trial name, .toDefinition .all name]

theorem length_visits_le (definitions : Members) :
    (visits definitions).length ≤ 2 * definitions.length := by
  have hlength := Document.length_definedNames_le definitions
  have hvisits : (visits definitions).length
      = 2 * (Document.definedNames definitions).length := by
    simp [visits, List.length_flatMap, Nat.mul_comm]
  omega

theorem mem_visits (hname : name ∈ Document.definedNames definitions) (extent : Extent) :
    Visit.toDefinition extent name ∈ visits definitions := by
  refine List.mem_flatMap.mpr ⟨name, hname, ?_⟩
  cases extent <;> simp [Visit.toDefinition, Extent.purpose]

/-- The references that were followed since the last step into the data are different ones, and they
lead to definitions on both sides. -/
structure Entered (definitions definitions' : Members) (entered : List Visit) : Prop where
  nodup : entered.Nodup
  subset : entered ⊆ visits definitions
  subset' : entered ⊆ visits definitions'

/-- How many references can be followed one after another. -/
def rounds (definitions definitions' : Members) : Nat :=
  2 * min definitions.length definitions'.length

namespace Entered

variable {entered : List Visit}

theorem nil : Entered definitions definitions' [] :=
  ⟨List.nodup_nil, List.nil_subset _, List.nil_subset _⟩

theorem cons {extent : Extent} (h : Entered definitions definitions' entered)
    (hname : name ∈ Document.definedNames definitions)
    (hname' : name ∈ Document.definedNames definitions')
    (hnew : Visit.toDefinition extent name ∉ entered) :
    Entered definitions definitions' (.toDefinition extent name :: entered) where
  nodup := List.nodup_cons.mpr ⟨hnew, h.nodup⟩
  subset := List.cons_subset.mpr ⟨mem_visits hname extent, h.subset⟩
  subset' := List.cons_subset.mpr ⟨mem_visits hname' extent, h.subset'⟩

theorem length_le (h : Entered definitions definitions' entered) :
    entered.length ≤ rounds definitions definitions' := by
  have hlength := (h.nodup.length_le_of_subset h.subset).trans (length_visits_le definitions)
  have hlength' := (h.nodup.length_le_of_subset h.subset').trans (length_visits_le definitions')
  unfold rounds
  omega

end Entered

/-! ## Side by side -/

/-- A generated schema, when all definitions are of one level. -/
abbrev Flat (bound : Nat) (schema : Datum) : Prop := Generated (fun _ => 0) 2 bound schema

/-- All definitions are such schemas. -/
def AreFlat (definitions : Members) : Prop :=
  ∀ (name : String) (contents : Datum),
    Entries.find? definitions name = some contents → Flat 2 contents

/-- How many steps from schema to schema there can be: at each level of the data, each reference is
followed once at most, and from one to the next there are no more than three. -/
def remaining (rounds : Nat) (entered : List Visit) (bound : Nat) (data : Datum) : Nat :=
  3 * ((rounds + 1) * data.depth + (rounds - entered.length)) + bound

theorem remaining_lt_of_depth_lt {data data' : Datum} (h : data'.depth < data.depth)
    (rounds bound : Nat) (entered : List Visit) :
    remaining rounds [] 2 data' < remaining rounds entered bound data := by
  have hstep : (rounds + 1) * (data'.depth + 1) ≤ (rounds + 1) * data.depth :=
    Nat.mul_le_mul_left _ h
  rw [Nat.mul_add, Nat.mul_one] at hstep
  simp only [remaining, List.length_nil]
  omega

/-- Two ways of applying schemas say the same of all schemas behind which the same can be reached, if
there are few enough steps. -/
def SameBelow (definitions definitions' : Members) (limit : Nat) (next next' : Applier) : Prop :=
  ∀ ⦃bound : Nat⦄ ⦃schema data : Datum⦄ ⦃entered : List Visit⦄, Flat bound schema → bound ≤ 2 →
    SameBehind definitions definitions' schema → Entered definitions definitions' entered →
      remaining (rounds definitions definitions') entered bound data < limit →
        ∀ extent : Extent, next extent (.outset entered) schema data
          = next' extent (.outset entered) schema data

/-- Two tasks in one schema, at one value and behind the same references, that differ in the
definitions around them. -/
structure Paired (definitions definitions' : Members) (limit bound : Nat) (entered : List Visit)
    (task task' : Task) : Prop where
  data : task'.data = task.data
  extent : task'.extent = task.extent
  setting : task.setting = .outset entered
  setting' : task'.setting = .outset entered
  library : task.library.Holds definitions
  library' : task'.library.Holds definitions'
  distinct : Entered definitions definitions' entered
  next : SameBelow definitions definitions' limit task.next task'.next
  bound_le : bound ≤ 2
  remaining_le : remaining (rounds definitions definitions') entered bound task.data ≤ limit

namespace Paired

variable {limit bound : Nat} {entered : List Visit} {task task' : Task} {schema : Datum}

/-- What is said of a part of the schema, at the same value. -/
theorem next_eq {bound' : Nat} (h : Paired definitions definitions' limit bound entered task task')
    (hflat : Flat bound' schema) (hbound : bound' < bound)
    (hsame : SameBehind definitions definitions' schema) (extent : Extent) :
    task.next extent (.outset entered) schema task.data
      = task'.next extent (.outset entered) schema task'.data := by
  have hremaining := h.remaining_le
  rw [h.data]
  refine h.next hflat (hbound.le.trans h.bound_le) hsame h.distinct ?_ extent
  unfold remaining at hremaining ⊢
  omega

theorem listing_eq {bound' : Nat}
    (h : Paired definitions definitions' limit bound entered task task')
    (hflat : Flat bound' schema) (hbound : bound' < bound)
    (hsame : SameBehind definitions definitions' schema) :
    task.listing schema = task'.listing schema := by
  rw [Task.listing_eq hflat h.setting, Task.listing_eq hflat h.setting',
    h.next_eq hflat hbound hsame]

theorem allows_eq {bound' : Nat}
    (h : Paired definitions definitions' limit bound entered task task')
    (hflat : Flat bound' schema) (hbound : bound' < bound)
    (hsame : SameBehind definitions definitions' schema) :
    task.allows schema = task'.allows schema := by
  rw [Task.allows_eq hflat h.setting, Task.allows_eq hflat h.setting',
    h.next_eq hflat hbound hsame]

/-- What is said of a part of the value. -/
theorem into_eq (h : Paired definitions definitions' limit bound entered task task')
    (hflat : Flat 2 schema) (hsame : SameBehind definitions definitions' schema) {part : Datum}
    (hdepth : part.depth < task.data.depth) (path schemaPath : List PathStep) :
    (task.into part).descend schema path schemaPath
      = (task'.into part).descend schema path schemaPath := by
  have hnext : task.next task.extent (.outset []) schema part
      = task'.next task'.extent (.outset []) schema part := by
    rw [h.extent]
    exact h.next hflat le_rfl hsame .nil
      ((remaining_lt_of_depth_lt hdepth _ bound entered).trans_le h.remaining_le) task.extent
  rw [Task.descend_eq hflat (Task.setting_into h.setting part),
    Task.descend_eq hflat (Task.setting_into h.setting' part)]
  exact congrArg (Outcome.inside path schemaPath) hnext

/-- A reference leads to the same contents, or nowhere; and these were entered before on both sides
or on none. -/
theorem reference_eq (h : Paired definitions definitions' limit bound entered task task')
    (hflat : AreFlat definitions) (hplain : Reference.IsPlain name)
    (hsame : SameFrom definitions definitions' name) :
    referenceOutcome task (Reference.toDefinition name)
      = referenceOutcome task' (Reference.toDefinition name) := by
  have hplace : task.setting.place = .outset := by rw [h.setting]; rfl
  have hplace' : task'.setting.place = .outset := by rw [h.setting']; rfl
  have hfind' := hsame.find?_eq
  rw [referenceOutcome, referenceOutcome, hplace, hplace']
  cases hfind : Entries.find? definitions (.text name) with
  | none =>
    rw [hfind] at hfind'
    rw [Reference.lead_of_missing h.library hplain hfind,
      Reference.lead_of_missing h.library' hplain hfind'.symm]
    rfl
  | some contents =>
    rw [hfind] at hfind'
    have hcontents := hflat name contents hfind
    rw [Reference.lead_of_find? h.library hplain hfind hcontents.identifier?,
      Reference.lead_of_find? h.library' hplain hfind'.symm hcontents.identifier?,
      Outcome.ofExcept, Outcome.ofExcept, Task.follow_toDefinition hcontents h.setting,
      Task.follow_toDefinition hcontents h.setting', h.extent, h.data]
    split_ifs with hmem
    · rfl
    · have hentered := h.distinct.cons (Document.mem_definedNames hfind)
        (Document.mem_definedNames hfind'.symm) hmem
      have hlength := hentered.length_le
      have hremaining := h.remaining_le
      refine h.next hcontents le_rfl (hsame.behind hfind) hentered ?_ task.extent
      unfold remaining at hremaining ⊢
      rw [List.length_cons] at hlength ⊢
      omega

end Paired

/-! ## Applications of schemas -/

variable {checks : Table Check} {validator validator' : Validator} {limit : Nat}

/-- One application of a schema, given that what comes next is the same. -/
theorem apply1_same (hflat : AreFlat definitions) (hserves : validator.Serves checks definitions)
    (hserves' : validator'.Serves checks definitions') {next next' : Applier}
    (hnext : SameBelow definitions definitions' limit next next') (budget budget' : Nat) :
    SameBelow definitions definitions' (limit + 1) (apply1 validator budget next)
      (apply1 validator' budget' next') := by
  intro bound schema data entered hschema hbound hsame hentered hremaining extent
  obtain ⟨entries, rfl⟩ := hschema.exists_object
  have hpaired : Paired definitions definitions' limit bound entered
      (outsetTask validator budget next extent entered entries data)
      (outsetTask validator' budget' next' extent entered entries data) :=
    ⟨rfl, rfl, rfl, rfl, hserves.library, hserves'.library, hentered, hnext, hbound,
      Nat.lt_succ_iff.mp hremaining⟩
  have hunder {name : String} {value : Datum} (hentry : (.text name, value) ∈ entries) :
      SameBehind definitions definitions' value :=
    hsame.confined ((confinedTo_self _ _).entry hentry)
  have hagree : Outcome.Agree extent extent
      (apply1 validator budget next extent (.outset entered) (.object entries) data)
      (apply1 validator' budget' next' extent (.outset entered) (.object entries) data) := by
    refine apply1_agree_of_keywords (hserves.checks.trans hserves'.checks.symm) hschema rfl rfl
      ?reference ?items ?properties ?branches
    case reference =>
      intro name href hplain _
      have hfrom := hsame name ⟨entries, .refl _, mem_of_find?_text href⟩
      exact .of_eq (hpaired.reference_eq hflat hplain hfrom)
    case items =>
      intro value hentry hitems
      refine itemsOutcome_agree_of_parts hpaired.data hitems fun part hdepth path schemaPath => ?_
      exact .of_eq (hpaired.into_eq hitems (hunder hentry) hdepth path schemaPath)
    case properties =>
      intro value hentry hproperties
      refine propertiesOutcome_agree_of_parts hpaired.data
        fun properties heq property hmem part hdepth path schemaPath => ?_
      subst heq
      have hproperty := (hunder hentry).confined ((confinedTo_self _ _).entry hmem)
      exact .of_eq (hpaired.into_eq (hproperties _ rfl property hmem) hproperty hdepth path
        schemaPath)
    case branches =>
      intro value hentry inner hinner hbranches
      have hbranch {branches : List Datum} (hitems : value.items? = some branches) {branch : Datum}
          (hmem : branch ∈ branches) : SameBehind definitions definitions' branch :=
        (hunder hentry).confined ((confinedTo_self _ _).items? hitems branch hmem)
      refine .of_eq (oneOfOutcome_congr hpaired.data.symm
        (fun branches hitems branch hmem => ?_) fun branches hitems branch hmem => ?_)
      · exact hpaired.listing_eq (hbranches branches hitems branch hmem) hinner
          (hbranch hitems hmem)
      · exact hpaired.allows_eq (hbranches branches hitems branch hmem) hinner
          (hbranch hitems hmem)
  exact hagree.2 rfl

/-- All applications of a schema, if there are steps enough on both sides. -/
theorem applyUpTo_same (hflat : AreFlat definitions) (hserves : validator.Serves checks definitions)
    (hserves' : validator'.Serves checks definitions') {steps steps' : Nat}
    (hsteps : limit ≤ steps) (hsteps' : limit ≤ steps') :
    SameBelow definitions definitions' limit (applyUpTo validator steps)
      (applyUpTo validator' steps') := by
  induction limit generalizing steps steps' with
  | zero => exact fun _ _ _ _ _ _ _ _ hremaining => absurd hremaining (Nat.not_lt_zero _)
  | succ limit ih =>
    obtain ⟨steps, rfl⟩ := Nat.exists_eq_add_of_le' (Nat.one_le_of_lt hsteps)
    obtain ⟨steps', rfl⟩ := Nat.exists_eq_add_of_le' (Nat.one_le_of_lt hsteps')
    exact apply1_same hflat hserves hserves'
      (ih (Nat.le_of_succ_le_succ hsteps) (Nat.le_of_succ_le_succ hsteps')) steps steps'

/-- At each level of the data there are steps enough for all references. -/
theorem remaining_lt_stepBound (h : validator.library.Holds definitions) {rounds : Nat}
    (hrounds : rounds ≤ 2 * definitions.length) (data : Datum) :
    remaining rounds [] 2 data < validator.stepBound data := by
  have hcount : 3 * (rounds + 1) ≤ 6 * definitions.length + 4 := by omega
  refine Nat.lt_of_lt_of_le ?_ (mul_le_stepBound h hcount data)
  have hproduct : (data.depth + 1) * (3 * (rounds + 1))
      = 3 * ((rounds + 1) * data.depth + (rounds + 1)) := by ring
  rw [hproduct, remaining, List.length_nil]
  omega

/-- Validators of a definition, from which the same can be reached, say the same. -/
theorem apply_whole_same (hflat : AreFlat definitions)
    {entries : Members} (honly : HasOnly definitionKeywords entries)
    (hentries : Flat 2 (.object entries))
    (hsame : SameBehind definitions definitions' (.object entries))
    (hchecks : Entries.find? checks "definitions" = none) :
    (whole checks definitions entries).apply = (whole checks definitions' entries).apply := by
  funext extent data
  have hserves := serves_whole honly checks definitions
  have hserves' := serves_whole honly checks definitions'
  have hsteps := remaining_lt_stepBound hserves.library
    (Nat.mul_le_mul_left 2 (Nat.min_le_left definitions.length definitions'.length)) data
  have hsteps' := remaining_lt_stepBound hserves'.library
    (Nat.mul_le_mul_left 2 (Nat.min_le_right definitions.length definitions'.length)) data
  rw [apply_whole_eq honly hchecks, apply_whole_eq honly hchecks]
  exact applyUpTo_same hflat hserves hserves' (Nat.succ_le_of_lt hsteps)
    (Nat.succ_le_of_lt hsteps') hentries le_rfl hsame .nil (Nat.lt_succ_self _) extent

end Schema

/-! ## Documents -/

namespace Document

open Schema

variable {document first second : Document} {options : Options} {schema : Members} {name : String}

/-- What stands among the definitions of a schema document stands under its key. -/
theorem find?_definitions {contents : Datum}
    (hfind : Entries.find? (definitionsOf schema) name = some contents) :
    Entries.find? schema "definitions" = some (.object (definitionsOf schema)) := by
  unfold definitionsOf at hfind ⊢
  split at hfind
  · next hdefinitions => rw [hdefinitions]
  · cases hfind

theorem renders_definitionsOf (h : (document.schema options).result = .ok schema) :
    document.Renders options.handlers (definitionsOf schema) := by
  unfold Document.schema at h
  split at h
  · next hnil =>
    cases h
    intro name
    rw [inForce, hnil]
    rfl
  · obtain ⟨built, hbuilt, h⟩ := Conversion.result_bind_eq_ok.mp h
    cases h
    exact find?_schemas hbuilt

/-- Under a name there is the same if the same definition is in force. -/
theorem Renders.find?_congr {handlers : Handlers} {definitions definitions' : Members}
    (h : first.Renders handlers definitions) (h' : second.Renders handlers definitions')
    (hforce : first.inForce name = second.inForce name) :
    Entries.find? definitions name = Entries.find? definitions' name := by
  have hat := h name
  have hat' := h' name
  rw [hforce] at hat
  cases hsecond : second.inForce name with
  | none =>
    rw [hsecond] at hat hat'
    exact hat.trans hat'.symm
  | some definition =>
    rw [hsecond] at hat hat'
    obtain ⟨body, hbody, hfind⟩ := hat
    obtain ⟨body', hbody', hfind'⟩ := hat'
    rw [hbody] at hbody'
    cases hbody'
    exact hfind.trans hfind'.symm

/-- The definitions of documents with plain names are generated schemas. -/
theorem areFlat_definitionsOf {schemaUri : Option String}
    (h : (document.schema { schemaUri }).result = .ok schema) (hplain : document.IsPlain) :
    AreFlat (definitionsOf schema) := by
  intro name contents hfind
  obtain ⟨definition, body, hforce, rfl, hbody⟩ := (renders_definitionsOf h).find?_eq_some hfind
  exact Definition.generated hbody (hplain definition (typeName?_of_inForce hforce).1)
    (fun _ => Nat.two_pos) Nat.one_lt_two Nat.one_pos fun _ _ _ _ => Nat.one_pos

/-! ### Other orders -/

/-- The definitions stand in another order, but those of one name that count do not. -/
structure Reorders (first second : Document) : Prop where
  perm : first.Perm second
  named : ∀ name, first.kept.filter (·.typeName? == some name)
    = second.kept.filter (·.typeName? == some name)

/-- Definitions of different names may be put in any order. -/
theorem reorders_of_nodup (hperm : first.Perm second)
    (hnodup : (first.kept.map (·.typeName?)).Nodup) : Reorders first second := by
  refine ⟨hperm, fun name => ?_⟩
  have hkept : first.kept.Perm second.kept := hperm.filter _
  have hnamed := hkept.filter (·.typeName? == some name)
  have hpairwise : (first.kept.filter (·.typeName? == some name)).Pairwise
      fun definition other => definition.typeName? ≠ other.typeName? :=
    (List.pairwise_map.mp hnodup).filter _
  have hname : ∀ definition ∈ first.kept.filter (·.typeName? == some name),
      definition.typeName? = some name := fun definition hmem => by
    simpa using (List.mem_filter.mp hmem).2
  match hfilter : first.kept.filter (·.typeName? == some name) with
  | [] =>
    rw [hfilter] at hnamed
    exact hfilter.trans hnamed.nil_eq
  | [definition] =>
    rw [hfilter] at hnamed
    exact hfilter.trans hnamed.singleton_eq
  | definition :: other :: rest =>
    rw [hfilter] at hpairwise hname
    have hne := (List.pairwise_cons.mp hpairwise).1 other List.mem_cons_self
    exact absurd ((hname definition List.mem_cons_self).trans
      (hname other (List.mem_cons_of_mem _ List.mem_cons_self)).symm) hne

theorem Reorders.inForce_eq (h : Reorders first second) (name : String) :
    first.inForce name = second.inForce name := congrArg List.getLast? (h.named name)

/-- A document has a schema document just if all its definitions that count have schemas. -/
theorem exists_schema_iff :
    (∃ schema, (document.schema options).result = .ok schema) ↔
      ∀ definition ∈ document.kept, ∃ body,
        (definition.schema options.handlers).result = .ok body := by
  have hbodies (definitions : List Definition) :
      (∃ bodies, List.Forall₂ (fun definition body =>
          (definition.schema options.handlers).result = .ok body) definitions bodies) ↔
        ∀ definition ∈ definitions, ∃ body,
          (definition.schema options.handlers).result = .ok body := by
    induction definitions with
    | nil => simp
    | cons definition rest ih =>
      rw [List.forall_mem_cons, ← ih]
      simp only [List.forall₂_cons_left_iff]
      grind
  rw [← hbodies]
  simp only [schema_eq_ok_iff]
  grind

theorem Reorders.exists_schema (h : Reorders first second)
    (hschema : (first.schema options).result = .ok schema) :
    ∃ schema', (second.schema options).result = .ok schema' := by
  refine exists_schema_iff.mpr fun definition hmem => ?_
  exact exists_schema_iff.mp ⟨schema, hschema⟩ definition ((h.perm.filter _).mem_iff.mpr hmem)

end Document

/-! ## Registries -/

namespace Registry

open Schema Document

variable {registry : Registry} {document document' definitions definitions' entries : Members}
  {title : String}

/-- The validators that a registry makes for one title, first in one schema document and then in
another one, give the same answers, or they cannot be made, for the same reason. -/
def ValidatesAlike (registry : Registry) (document document' : Members) (title : String) : Prop :=
  answers (registry.validatorFor (.object document) title).1
    = answers ((registry.validatorFor (.object document) title).2.validatorFor (.object document')
        title).1

/-- The validator for a definition is made of the checks that are registered. -/
theorem Coherent.validatorFor_fst (h : registry.Coherent)
    (hdefinitions : Entries.find? document "definitions" = some (.object definitions))
    (hfind : Entries.find? definitions title = some (.object entries))
    (honly : HasOnly definitionKeywords entries) :
    (registry.validatorFor (.object document) title).1
      = (checks registry.keywords).map fun found => whole found definitions entries := by
  have hid := Resource.identifier?_of_missing (find?_attached honly definitions (by decide))
  rw [validatorFor, definitionSchema_eq hdefinitions hfind honly]
  dsimp only
  rw [h.validator_fst, Library.ofRoot, hid]
  cases checks registry.keywords <;> rfl

theorem answers_map_congr {found : Except Fault (Table Check)}
    {made made' : Table Check → Validator}
    (h : ∀ checks, found = .ok checks → (made checks).apply = (made' checks).apply) :
    answers (found.map made) = answers (found.map made') := by
  cases found with
  | error fault => rfl
  | ok checks =>
    simp only [answers, Except.map]
    unfold Validator.isValid Validator.violations
    rw [h checks rfl]

/-- What validators that are made one after the other have in common are the checks. -/
theorem validatesAlike_iff {entries' : Members} (hcoherent : registry.Coherent)
    (hdefinitions : Entries.find? document "definitions" = some (.object definitions))
    (hdefinitions' : Entries.find? document' "definitions" = some (.object definitions'))
    (hfind : Entries.find? definitions title = some (.object entries))
    (hfind' : Entries.find? definitions' title = some (.object entries'))
    (honly : HasOnly definitionKeywords entries) (honly' : HasOnly definitionKeywords entries') :
    registry.ValidatesAlike document document' title ↔
      answers ((checks registry.keywords).map fun found => whole found definitions entries)
        = answers ((checks registry.keywords).map fun found => whole found definitions' entries') := by
  have hlater : (registry.validatorFor (.object document) title).2
      = registry.run (.validatorFor (.object document) title) := rfl
  have hkeywords : (registry.run (.validatorFor (.object document) title)).keywords
      = registry.keywords := keywords_run registry _
  rw [ValidatesAlike, hlater, hcoherent.validatorFor_fst hdefinitions hfind honly,
    (hcoherent.run _).validatorFor_fst hdefinitions' hfind' honly', hkeywords]

theorem validatesAlike_of_sameFrom (hcoherent : registry.Coherent)
    (hsilent : Entries.find? registry.keywords "definitions" = none)
    (hflat : AreFlat definitions)
    (hdefinitions : Entries.find? document "definitions" = some (.object definitions))
    (hdefinitions' : Entries.find? document' "definitions" = some (.object definitions'))
    (hfind : Entries.find? definitions title = some (.object entries))
    (honly : HasOnly definitionKeywords entries)
    (hsame : SameFrom definitions definitions' title) :
    registry.ValidatesAlike document document' title := by
  have hfind' : Entries.find? definitions' title = some (.object entries) := by
    rw [← hsame.find?_eq, hfind]
  rw [validatesAlike_iff hcoherent hdefinitions hdefinitions' hfind hfind' honly honly]
  refine answers_map_congr fun found hfound => ?_
  refine apply_whole_same hflat honly (hflat title _ hfind) (hsame.behind hfind) ?_
  rw [find?_checks hfound, hsilent]
  rfl

/-- A schema document validates like that of a document, under a title from which the same can be
reached. -/
theorem validatesAlike_of_schema {operations : List Operation}
    (hsilent : lastRegistered operations "definitions" = none) {first : Document}
    (hplain : first.IsPlain) {uri : Option String} {schema schema' : Members}
    (h : (first.schema { schemaUri := uri }).result = .ok schema)
    (htitle : title ∈ first.names)
    (hsame : SameFrom (definitionsOf schema) (definitionsOf schema') title) :
    (runAll {} operations).ValidatesAlike schema schema' title := by
  obtain ⟨definition, body, -, hbody, hfind, -⟩ := find?_definitionsOf h htitle
  have hfind' : Entries.find? (definitionsOf schema') title = some (.object body) := by
    rw [← hsame.find?_eq, hfind]
  exact validatesAlike_of_sameFrom (coherent_runAll_empty operations)
    ((find?_runAll operations "definitions").trans hsilent) (areFlat_definitionsOf h hplain)
    (find?_definitions hfind) (find?_definitions hfind') hfind (Definition.hasOnly_schema hbody)
    hsame

/-- Validation depends on nothing but what can be reached. Whatever was done with a registry before,
as long as no keyword was registered as `definitions`: for documents whose names are those of the
language, the validators for a title that is in both give the same answers, or cannot be made for
the same reason, if all that can be reached from it by references is the same in both documents or is
missing in both. So it is when definitions of different names are put in another order; and so it is
when definitions are added, removed or changed that cannot be reached. -/
theorem validation_depends_on_reached {operations : List Operation}
    (hsilent : lastRegistered operations "definitions" = none) {first : Document}
    (hplain : first.IsPlain) {uri : Option String} {schema : Members}
    (h : (first.schema { schemaUri := uri }).result = .ok schema) :
    (∀ (second : Document) (uri' : Option String) (schema' : Members) (title : String),
      (second.schema { schemaUri := uri' }).result = .ok schema' → title ∈ first.names →
        SameFrom (definitionsOf schema) (definitionsOf schema') title →
          (runAll {} operations).ValidatesAlike schema schema' title) ∧
    (∀ second : Document, Reorders first second →
      ∃ schema', (second.schema { schemaUri := uri }).result = .ok schema' ∧
        ∀ title ∈ first.names, (runAll {} operations).ValidatesAlike schema schema' title) ∧
    ∀ (second : Document) (uri' : Option String) (schema' : Members) (title : String),
      (second.schema { schemaUri := uri' }).result = .ok schema' → title ∈ first.names →
        (∀ name, Relation.ReflTransGen (Refers (definitionsOf schema)) title name →
          first.inForce name = second.inForce name) →
          (runAll {} operations).ValidatesAlike schema schema' title := by
  have hunreached (second : Document) (uri' : Option String) (schema' : Members) (title : String)
      (h' : (second.schema { schemaUri := uri' }).result = .ok schema')
      (htitle : title ∈ first.names)
      (hforce : ∀ name, Relation.ReflTransGen (Refers (definitionsOf schema)) title name →
        first.inForce name = second.inForce name) :
      (runAll {} operations).ValidatesAlike schema schema' title := by
    have hrenders : first.Renders [] (definitionsOf schema) := renders_definitionsOf h
    have hrenders' : second.Renders [] (definitionsOf schema') := renders_definitionsOf h'
    exact validatesAlike_of_schema hsilent hplain h htitle fun name hreached =>
      hrenders.find?_congr hrenders' (hforce name hreached)
  refine ⟨fun _ _ _ _ _ htitle hsame =>
    validatesAlike_of_schema hsilent hplain h htitle hsame, fun second hreorders => ?_,
    hunreached⟩
  obtain ⟨schema', h'⟩ := hreorders.exists_schema h
  exact ⟨schema', h', fun title htitle => hunreached second uri schema' title h' htitle
    fun name _ => hreorders.inForce_eq name⟩

/-- What is left out or put elsewhere is not reached; a union that contains itself is, and so is a
definition that is missing. -/
theorem validation_ignores_unreached :
    let object : Definition := .object "A" [] []
      [⟨⟨"b", .named "B", none, []⟩, []⟩, ⟨⟨"u", .list (.named "U"), none, []⟩, []⟩]
    let union : Definition := .union "U" [] [.named "U", .named "A"]
    let first : Document := [object, union, .scalar "S" []]
    let operations : List Operation :=
      [.addKeyword "title" ⟨some fun value data => .ok (value.same data), none⟩, .validatorClass,
        .extend true]
    ∃ schema smaller reordered, (first.schema {}).result = .ok schema ∧
      (Document.schema [object, union] {}).result = .ok smaller ∧
      (runAll {} operations).ValidatesAlike schema smaller "A" ∧
      (Document.schema [union, .scalar "S" [], object] {}).result = .ok reordered ∧
      (runAll {} operations).ValidatesAlike schema reordered "U" := by
  intro object union first operations
  have hsilent : lastRegistered operations "definitions" = none := rfl
  have hplain : first.IsPlain := by decide
  let definitions : Members := [
    ("A", .object [("title", .text "A"), ("type", .text "object"), ("properties", .object [
      ("b", .object [("$ref", Reference.toDefinition "B"), ("title", .text "b")]),
      ("u", .object [("type", .text "array"),
        ("items", .object [("$ref", Reference.toDefinition "U")]), ("title", .text "u")])])]),
    ("U", .object [("title", .text "U"), ("type", .text Definition.unionType), ("oneOf", .list [
      .object [("$ref", Reference.toDefinition "U")],
      .object [("$ref", Reference.toDefinition "A")]])]),
    ("S", .object [("title", .text "S"), ("type", .text Definition.scalarType)])]
  have hschema : (first.schema {}).result = .ok (envelope (some Dialect.draft04) definitions) := rfl
  have hnowhere : ¬StandsUnder "$ref" (Reference.toDefinition "S") (.object definitions) := by
    simp [definitions, standsUnder_object, standsUnder_list, not_standsUnder_text,
      Reference.toDefinition, Keyword.referencePrefix]
  obtain ⟨-, hreorder, hunreached⟩ := validation_depends_on_reached hsilent hplain hschema
  have horder : Reorders first [union, .scalar "S" [], object] :=
    reorders_of_nodup (.trans (.swap union object [.scalar "S" []])
      (.cons union (.swap (.scalar "S" []) object []))) (by decide)
  obtain ⟨reordered, hreordered, halike⟩ := hreorder _ horder
  refine ⟨_, _, reordered, hschema, rfl, ?_, hreordered, halike "U" (by decide)⟩
  refine hunreached [object, union] _ _ "A" rfl (by decide) fun name hreached => ?_
  have hne : name ≠ "S" := ne_of_not_standsUnder hnowhere (by decide) hreached
  simp [Document.inForce, first, object, union, Definition.isIgnored, Definition.typeName?, hne.symm]

/-- Validators that can be made and validate alike answer alike. -/
theorem ValidatesAlike.isValid_eq {found : Table Check} {entries' : Members}
    (h : registry.ValidatesAlike document document' title) (hcoherent : registry.Coherent)
    (hfound : checks registry.keywords = .ok found)
    (hdefinitions : Entries.find? document "definitions" = some (.object definitions))
    (hdefinitions' : Entries.find? document' "definitions" = some (.object definitions'))
    (hfind : Entries.find? definitions title = some (.object entries))
    (hfind' : Entries.find? definitions' title = some (.object entries'))
    (honly : HasOnly definitionKeywords entries) (honly' : HasOnly definitionKeywords entries') :
    (whole found definitions entries).isValid = (whole found definitions' entries').isValid := by
  rw [validatesAlike_iff hcoherent hdefinitions hdefinitions' hfind hfind' honly honly', hfound] at h
  exact congrArg Prod.fst (Except.ok.inj h)

/-- An answer that does not depend on the steps that are left after the first one. -/
theorem isValid_whole_eq {found : Table Check} {data : Datum} {answer : Except Fault Bool}
    (h : ∀ budget next, (apply1 (whole found definitions entries) budget next .first (.outset [])
      (.object (attached definitions entries)) data).verdict = answer) :
    (whole found definitions entries).isValid data = answer := by
  obtain ⟨steps, hsteps⟩ := Nat.exists_eq_add_of_le'
    (Nat.one_le_of_lt (stepBound_pos (whole found definitions entries) data))
  rw [Validator.isValid, Validator.apply, hsteps, applyUpTo_succ]
  exact h _ _

/-- A check that is registered as `definitions` is told all definitions, also those that cannot be
reached. -/
theorem validation_sees_definitions :
    let operations : List Operation :=
      [.addKeyword "definitions" ⟨some fun value data => .ok (value.same data), none⟩]
    let first : Document := [.scalar "A" []]
    let second : Document := [.scalar "A" [], .scalar "B" []]
    ∃ schema schema', (first.schema {}).result = .ok schema ∧
      (second.schema {}).result = .ok schema' ∧
      SameFrom (definitionsOf schema) (definitionsOf schema') "A" ∧
      ¬(runAll {} operations).ValidatesAlike schema schema' "A" := by
  intro operations first second
  let entries : Members := [("title", .text "A"), ("type", .text Definition.scalarType)]
  let other : Members := [("title", .text "B"), ("type", .text Definition.scalarType)]
  let definitions : Members := [("A", .object entries)]
  let definitions' : Members := [("A", .object entries), ("B", .object other)]
  have hsame : SameFrom definitions definitions' "A" := by
    intro name hreached
    have hnowhere : ¬StandsUnder "$ref" (Reference.toDefinition name) (.object definitions) := by
      simp [definitions, entries, standsUnder_object, not_standsUnder_text]
    by_cases hname : "A" = name
    · rw [← hname]
      rfl
    · exact absurd rfl (ne_of_not_standsUnder hnowhere hname hreached)
  refine ⟨envelope (some Dialect.draft04) definitions, envelope (some Dialect.draft04) definitions',
    rfl, rfl, hsame, fun halike => ?_⟩
  let found : Table Check := [("definitions", fun value data => .ok (value.same data))]
  have honly : HasOnly definitionKeywords entries := by
    simp only [entries, hasOnly_cons, hasOnly_nil, and_true, Key.text.injEq]
    decide
  have hanswer := halike.isValid_eq (coherent_runAll (fun _ hmade => by cases hmade) operations)
    (rfl : checks _ = .ok found) rfl rfl rfl rfl honly honly
  have hfirst : (whole found definitions entries).isValid (.object definitions) = .ok true :=
    isValid_whole_eq fun _ _ => rfl
  have hsecond : (whole found definitions' entries).isValid (.object definitions) = .ok false :=
    isValid_whole_eq fun _ _ => rfl
  rw [hanswer, hsecond] at hfirst
  cases hfirst

end Registry

end SchemaBridge
