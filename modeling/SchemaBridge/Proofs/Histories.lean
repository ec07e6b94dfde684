import Mathlib
import SchemaBridge.Validation.Registry

/-!
# What a registry remembers

Keywords may be added, and classes made, in any order, also after calls that failed. Still a
registry answers as if it had only been told, for each name, the last definition of it: the kept
class is never older than the definitions (`Coherent`), and an evaluation looks checks up by their
names and in no other way.

* `Schema.applyUpTo_eq_of_find?`: validators with the same checks under each name say the same.
* `Registry.Coherent.run`, `Registry.coherent_runAll`: the kept class goes with the definitions.
* `Registry.keywords_run`, `Registry.keywords_runAll`: the definitions after a history.
* `Registry.answersAlike_of_find?`: registries with the same definition under each name.
* `Registry.answers_of_history`: a registry answers as a fresh one with the last definitions.
-/

namespace SchemaBridge

namespace Schema

variable {validator validator' : Validator}

/-! ## Checks are looked up by name -/

theorem entryOutcome_eq_of_find?
    (h : ∀ name, Entries.find? validator.checks name = Entries.find? validator'.checks name) :
    entryOutcome validator = entryOutcome validator' := by
  funext task key value
  cases key with
  | text name => simp only [entryOutcome, keywordOutcome, registered?, h name]
  | _ => rfl

theorem apply1_eq_of_find?
    (h : ∀ name, Entries.find? validator.checks name = Entries.find? validator'.checks name)
    (hlibrary : validator.library = validator'.library) :
    apply1 validator = apply1 validator' := by
  funext budget next extent setting schema data
  unfold apply1
  rw [entryOutcome_eq_of_find? h, hlibrary]

/-- Validators for one schema with the same checks under each name say the same. -/
theorem applyUpTo_eq_of_find?
    (h : ∀ name, Entries.find? validator.checks name = Entries.find? validator'.checks name)
    (hlibrary : validator.library = validator'.library) (steps : Nat) :
    applyUpTo validator steps = applyUpTo validator' steps := by
  induction steps with
  | zero => rfl
  | succ steps ih => rw [applyUpTo_succ, applyUpTo_succ, ih, apply1_eq_of_find? h hlibrary]

theorem apply_eq_of_find?
    (h : ∀ name, Entries.find? validator.checks name = Entries.find? validator'.checks name)
    (hlibrary : validator.library = validator'.library) : validator.apply = validator'.apply := by
  funext extent data
  unfold Validator.apply Validator.stepBound
  rw [applyUpTo_eq_of_find? h hlibrary, hlibrary]

end Schema

namespace Registry

/-! ## Histories -/

/-- What may be done with a registry. -/
inductive Operation where
  | addKeyword (name : String) (definition : KeywordDefinition)
  | extend (strict : Bool)
  | validatorClass
  | validatorFor (document : Datum) (title : String)
  | isValid (schema data : Datum)
  | validate (schema data : Datum)
  | violations (schema data : Datum)

/-- The registry after an operation, whether it gave a result or a fault. -/
def run (registry : Registry) : Operation → Registry
  | .addKeyword name definition => registry.addKeyword name definition
  | .extend strict => (registry.extend strict).2
  | .validatorClass => registry.validatorClass.2
  | .validatorFor document title => (registry.validatorFor document title).2
  | .isValid schema data | .validate schema data => (registry.isValid schema data).2
  | .violations schema data => (registry.violations schema data).2

/-- The registry after a sequence of operations. -/
def runAll (registry : Registry) (operations : List Operation) : Registry :=
  operations.foldl run registry

/-- The definition that an operation registers, with its name. -/
def Operation.registered? : Operation → Option (String × KeywordDefinition)
  | .addKeyword name definition => some (name, definition)
  | .extend strict => some (ExtendedFormat.keyword, .extendedFormat strict)
  | _ => none

/-- The definitions that a sequence of operations registers, in order. -/
def registrations (operations : List Operation) : Table KeywordDefinition :=
  operations.filterMap (·.registered?)

/-- The last definition that is registered under a name. -/
def lastRegistered (operations : List Operation) (name : String) : Option KeywordDefinition :=
  Entries.find? (registrations operations).reverse name

/-- A fresh registry that receives the definitions, and nothing else. -/
def ofDefinitions (definitions : Table KeywordDefinition) : Registry :=
  runAll {} (definitions.map fun (name, definition) => .addKeyword name definition)

/-- The kept class, if there is one, is that of the definitions. -/
def Coherent (registry : Registry) : Prop :=
  ∀ made, registry.cached = some made → checks registry.keywords = .ok made.checks

/-! ## What one operation leaves behind -/

variable {registry registry' : Registry}

theorem validator_snd (schema : Datum) (registry : Registry) :
    (registry.validator schema).2 = registry.validatorClass.2 := by
  unfold validator
  split <;> next hclass => rw [hclass]

/-- An operation that registers nothing makes the class or leaves the registry as it is. -/
theorem run_of_not_registered {operation : Operation} (h : operation.registered? = none)
    (registry : Registry) :
    registry.run operation = registry ∨ registry.run operation = registry.validatorClass.2 := by
  cases operation with
  | addKeyword | extend => cases h
  | validatorClass => exact .inr rfl
  | validatorFor document title =>
    simp only [run, validatorFor]
    split
    · exact .inl rfl
    · exact .inr (validator_snd _ registry)
  | isValid schema data | validate schema data | violations schema data =>
    exact .inr (validator_snd schema registry)

theorem run_of_registered {operation : Operation} {name : String} {definition : KeywordDefinition}
    (h : operation.registered? = some (name, definition)) (registry : Registry) :
    registry.run operation = registry.addKeyword name definition := by
  cases operation with
  | addKeyword | extend =>
    cases h
    rfl
  | _ => cases h

/-- Making the class leaves the definitions as they are. -/
theorem keywords_validatorClass (registry : Registry) :
    registry.validatorClass.2.keywords = registry.keywords := by
  unfold validatorClass
  split
  · rfl
  · split <;> rfl

theorem Coherent.validatorClass (h : registry.Coherent) : registry.validatorClass.2.Coherent := by
  unfold Registry.validatorClass
  split
  · exact h
  · split
    · exact h
    · next hchecks =>
      intro made hmade
      cases hmade
      exact hchecks

/-- A class that is given, be it kept or new, is that of the definitions. -/
theorem Coherent.map_validatorClass (h : registry.Coherent) :
    registry.validatorClass.1.map (·.checks) = checks registry.keywords := by
  unfold Registry.validatorClass
  split
  · next hcached =>
    rw [h _ hcached]
    rfl
  · split <;>
    · next hchecks =>
      rw [hchecks]
      rfl

/-- A class that cannot be made leaves nothing behind. -/
theorem cached_of_validatorClass_error {fault : Fault}
    (h : registry.validatorClass.1 = .error fault) : registry.validatorClass.2.cached = none := by
  unfold validatorClass at h ⊢
  cases hcached : registry.cached with
  | some made =>
    simp only [hcached] at h
    cases h
  | none =>
    cases hchecks : checks registry.keywords with
    | error => exact hcached
    | ok found =>
      simp only [hcached, hchecks] at h
      cases h

/-- No operation breaks the agreement of the kept class with the definitions. -/
theorem Coherent.run (h : registry.Coherent) (operation : Operation) :
    (registry.run operation).Coherent := by
  cases hop : operation.registered? with
  | none =>
    rcases run_of_not_registered hop registry with heq | heq
    · rwa [heq]
    · rw [heq]
      exact h.validatorClass
  | some registered =>
    obtain ⟨name, definition⟩ := registered
    rw [run_of_registered hop]
    intro made hmade
    cases hmade

/-- The definitions after an operation. -/
theorem keywords_run (registry : Registry) (operation : Operation) :
    (registry.run operation).keywords
      = Entries.merge registry.keywords operation.registered?.toList := by
  cases hop : operation.registered? with
  | none =>
    rcases run_of_not_registered hop registry with heq | heq
    · rw [heq]
      rfl
    · rw [heq]
      exact keywords_validatorClass registry
  | some registered =>
    obtain ⟨name, definition⟩ := registered
    rw [run_of_registered hop]
    rfl

/-! ## What a history leaves behind -/

theorem coherent_runAll (h : registry.Coherent) (operations : List Operation) :
    (registry.runAll operations).Coherent := by
  induction operations generalizing registry with
  | nil => exact h
  | cons operation rest ih => exact ih (h.run operation)

theorem coherent_runAll_empty (operations : List Operation) : (runAll {} operations).Coherent :=
  coherent_runAll (fun _ hmade => by cases hmade) operations

/-- The definitions after a history are those that it registered, written one after another. -/
theorem keywords_runAll (registry : Registry) (operations : List Operation) :
    (registry.runAll operations).keywords
      = Entries.merge registry.keywords (registrations operations) := by
  induction operations generalizing registry with
  | nil => rfl
  | cons operation rest ih =>
    have hcons : registrations (operation :: rest)
        = operation.registered?.toList ++ registrations rest := by
      unfold registrations
      cases hop : operation.registered? <;> simp [hop]
    calc (runAll (registry.run operation) rest).keywords
        = Entries.merge (registry.run operation).keywords (registrations rest) := ih _
      _ = Entries.merge registry.keywords (registrations (operation :: rest)) := by
        rw [keywords_run, hcons, Entries.merge_append]

theorem nodup_runAll (operations : List Operation) :
    (Entries.keys (runAll {} operations).keywords).Nodup := by
  have hnil : (Entries.keys ({} : Registry).keywords).Nodup := List.nodup_nil
  rw [keywords_runAll]
  exact Entries.nodup_merge hnil _

theorem find?_runAll (operations : List Operation) (name : String) :
    Entries.find? (runAll {} operations).keywords name = lastRegistered operations name := by
  rw [keywords_runAll, Entries.find?_merge]
  exact Option.or_none

/-- In any order, the definitions of a fresh registry are those that it receives. -/
theorem find?_ofDefinitions {definitions : Table KeywordDefinition}
    (h : (Entries.keys definitions).Nodup) (name : String) :
    Entries.find? (ofDefinitions definitions).keywords name = Entries.find? definitions name := by
  have hregistrations : registrations
      (definitions.map fun (name, definition) => .addKeyword name definition) = definitions := by
    simp [registrations, List.filterMap_map, Operation.registered?]
  rw [ofDefinitions, find?_runAll, lastRegistered, hregistrations, Entries.find?_reverse h]

/-! ## Checks of definitions -/

theorem find?_checks {keywords : Table KeywordDefinition} {found : Table Check}
    (h : checks keywords = .ok found) (name : String) :
    Entries.find? found name = (Entries.find? keywords name).bind (·.validate) := by
  induction keywords generalizing found with
  | nil =>
    cases h
    rfl
  | cons entry rest ih =>
    obtain ⟨name', definition⟩ := entry
    rw [checks] at h
    cases hcheck : definition.validate with
    | none =>
      rw [hcheck] at h
      cases h
    | some check =>
      rw [hcheck] at h
      cases hrest : checks rest with
      | error fault =>
        rw [hrest] at h
        cases h
      | ok later =>
        rw [hrest] at h
        cases h
        by_cases hname : (name' == name) = true
        · simp [Entries.find?, hname, hcheck]
        · simpa [Entries.find?, hname] using ih hrest

/-- The class cannot be made just if a definition has no check, and for this reason. -/
theorem checks_eq_error_iff {keywords : Table KeywordDefinition} {fault : Fault} :
    checks keywords = .error fault
      ↔ fault = .missingKey "validate" ∧ ∃ entry ∈ keywords, entry.2.validate = none := by
  induction keywords with
  | nil => simp [checks]
  | cons entry rest ih =>
    obtain ⟨name, definition⟩ := entry
    cases hcheck : definition.validate with
    | none => simp [checks, hcheck, eq_comm]
    | some check =>
      have hmap : checks ((name, definition) :: rest)
          = (checks rest).map ((name, check) :: ·) := by
        rw [checks, hcheck]
      have hstep : checks ((name, definition) :: rest) = .error fault
          ↔ checks rest = .error fault := by
        rw [hmap]
        cases checks rest <;> simp [Except.map]
      rw [hstep, ih]
      simp [hcheck]

/-- The same for definitions that are looked up. -/
theorem checks_eq_error_iff_find? {keywords : Table KeywordDefinition}
    (h : (Entries.keys keywords).Nodup) {fault : Fault} :
    checks keywords = .error fault ↔ fault = .missingKey "validate"
      ∧ ∃ name definition, Entries.find? keywords name = some definition
          ∧ definition.validate = none := by
  rw [checks_eq_error_iff]
  simp only [Entries.find?_eq_some_iff h, Prod.exists]

/-- Definitions that are looked up alike make checks that are looked up alike, or none. -/
theorem checks_congr {keywords keywords' : Table KeywordDefinition}
    (hnodup : (Entries.keys keywords).Nodup) (hnodup' : (Entries.keys keywords').Nodup)
    (h : ∀ name, Entries.find? keywords name = Entries.find? keywords' name) :
    (∃ fault, checks keywords = .error fault ∧ checks keywords' = .error fault)
      ∨ ∃ found found', checks keywords = .ok found ∧ checks keywords' = .ok found'
          ∧ ∀ name, Entries.find? found name = Entries.find? found' name := by
  have hfault (fault : Fault) :
      checks keywords = .error fault ↔ checks keywords' = .error fault := by
    rw [checks_eq_error_iff_find? hnodup, checks_eq_error_iff_find? hnodup']
    simp only [h]
  cases hchecks : checks keywords with
  | error fault => exact .inl ⟨fault, rfl, (hfault fault).mp hchecks⟩
  | ok found =>
    cases hchecks' : checks keywords' with
    | error fault =>
      rw [(hfault fault).mpr hchecks'] at hchecks
      cases hchecks
    | ok found' =>
      refine .inr ⟨found, found', rfl, rfl, fun name => ?_⟩
      rw [find?_checks hchecks, find?_checks hchecks', h]

/-! ## Answers -/

/-- What a validator answers, or the fault for which there is none. -/
def answers (made : Except Fault Validator) :
    Except Fault ((Datum → Except Fault Bool) × (Datum → Except Fault (List Violation))) :=
  made.map fun validator => (validator.isValid, validator.violations)

theorem isValid_fst (schema data : Datum) (registry : Registry) :
    (registry.isValid schema data).1 = (registry.validator schema).1.bind (·.isValid data) := by
  unfold isValid
  cases registry.validator schema
  rfl

theorem violations_fst (schema data : Datum) (registry : Registry) :
    (registry.violations schema data).1 = (registry.validator schema).1.bind (·.violations data) := by
  unfold violations
  cases registry.validator schema
  rfl

/-- The registries answer every question alike, by a result or by a fault. -/
structure AnswersAlike (registry registry' : Registry) : Prop where
  isValid : ∀ schema data, (registry.isValid schema data).1 = (registry'.isValid schema data).1
  violations : ∀ schema data,
    (registry.violations schema data).1 = (registry'.violations schema data).1
  validatorFor : ∀ document title,
    answers (registry.validatorFor document title).1
      = answers (registry'.validatorFor document title).1

theorem Coherent.validator_fst (h : registry.Coherent) (schema : Datum) :
    (registry.validator schema).1 = (checks registry.keywords).bind fun found =>
      (Library.ofRoot schema).map fun library => ⟨found, library⟩ := by
  rw [← h.map_validatorClass]
  unfold validator
  split <;> next hclass =>
    rw [hclass]
    rfl

/-- Validators are made of the definitions, and it does not count in which order these are. -/
theorem answers_validator (h : registry.Coherent) (h' : registry'.Coherent)
    (hnodup : (Entries.keys registry.keywords).Nodup)
    (hnodup' : (Entries.keys registry'.keywords).Nodup)
    (hfind : ∀ name, Entries.find? registry.keywords name = Entries.find? registry'.keywords name)
    (schema : Datum) :
    answers (registry.validator schema).1 = answers (registry'.validator schema).1 := by
  rw [h.validator_fst, h'.validator_fst]
  rcases checks_congr hnodup hnodup' hfind with ⟨fault, hchecks, hchecks'⟩ |
    ⟨found, found', hchecks, hchecks', hfound⟩
  · rw [hchecks, hchecks']
  · rw [hchecks, hchecks']
    cases Library.ofRoot schema with
    | error fault => rfl
    | ok library =>
      have happly : Validator.apply ⟨found, library⟩ = Validator.apply ⟨found', library⟩ :=
        Schema.apply_eq_of_find? hfound rfl
      simp only [answers, Except.bind, Except.map]
      unfold Validator.isValid Validator.violations
      rw [happly]

/-- Registries with the same definition under each name answer alike. -/
theorem answersAlike_of_find? (h : registry.Coherent) (h' : registry'.Coherent)
    (hnodup : (Entries.keys registry.keywords).Nodup)
    (hnodup' : (Entries.keys registry'.keywords).Nodup)
    (hfind : ∀ name,
      Entries.find? registry.keywords name = Entries.find? registry'.keywords name) :
    AnswersAlike registry registry' := by
  have hanswers := answers_validator h h' hnodup hnodup' hfind
  have hisValid (made : Except Fault Validator) (data : Datum) :
      made.bind (·.isValid data) = (answers made).bind (·.1 data) := by
    cases made <;> rfl
  have hviolations (made : Except Fault Validator) (data : Datum) :
      made.bind (·.violations data) = (answers made).bind (·.2 data) := by
    cases made <;> rfl
  refine ⟨fun schema data => ?_, fun schema data => ?_, fun document title => ?_⟩
  · rw [isValid_fst, isValid_fst, hisValid, hisValid, hanswers]
  · rw [violations_fst, violations_fst, hviolations, hviolations, hanswers]
  · unfold validatorFor
    cases definitionSchema document title with
    | error fault => rfl
    | ok schema => exact hanswers schema

/-- After any history, failing calls included, a registry answers as a fresh one that received, in
any order, the last definition of each name. A kept class is that of the definitions. The class
cannot be made just if the last definition of some name has no check, and then nothing is kept. -/
theorem answers_of_history (operations : List Operation) (definitions : Table KeywordDefinition)
    (hnodup : (Entries.keys definitions).Nodup)
    (hlast : ∀ name, Entries.find? definitions name = lastRegistered operations name) :
    AnswersAlike (runAll {} operations) (ofDefinitions definitions)
      ∧ (runAll {} operations).Coherent
      ∧ (∀ fault, (runAll {} operations).validatorClass.1 = .error fault
          ↔ fault = .missingKey "validate" ∧ ∃ name definition,
              lastRegistered operations name = some definition ∧ definition.validate = none)
      ∧ ∀ fault, (runAll {} operations).validatorClass.1 = .error fault →
          (runAll {} operations).cached = none
            ∧ (runAll {} operations).validatorClass.2.cached = none := by
  have hfresh : Coherent {} := fun made hmade => by cases hmade
  have hcoherent := coherent_runAll hfresh operations
  have hnodupRun := nodup_runAll operations
  have hfault (fault : Fault) : (runAll {} operations).validatorClass.1 = .error fault
      ↔ checks (runAll {} operations).keywords = .error fault := by
    rw [← hcoherent.map_validatorClass]
    cases (runAll {} operations).validatorClass.1 <;> simp [Except.map]
  refine ⟨?_, hcoherent, fun fault => ?_, fun fault hclass => ⟨?_, ?_⟩⟩
  · refine answersAlike_of_find? hcoherent (coherent_runAll hfresh _) hnodupRun (nodup_runAll _) ?_
    intro name
    rw [find?_runAll, find?_ofDefinitions hnodup, hlast]
  · rw [hfault, checks_eq_error_iff_find? hnodupRun]
    simp only [find?_runAll]
  · cases hcached : (runAll {} operations).cached with
    | none => rfl
    | some made =>
      rw [validatorClass_of_cached hcached] at hclass
      cases hclass
  · exact cached_of_validatorClass_error hclass

/-- A definition without a check spoils the answers, also those of a class that was kept before,
until it is replaced. -/
theorem answers_of_repair :
    let broken : KeywordDefinition := ⟨none, none⟩
    let sound : KeywordDefinition := ⟨some fun value data => .ok (value.same data), none⟩
    let schema : Datum := .object [("const", .null)]
    let operations : List Operation :=
      [.extend true, .isValid schema .null, .addKeyword "const" broken, .isValid schema .null,
        .extend false, .violations schema .null, .addKeyword "const" sound, .validatorClass]
    let definitions : Table KeywordDefinition :=
      [("const", sound), (ExtendedFormat.keyword, .extendedFormat false)]
    AnswersAlike (runAll {} operations) (ofDefinitions definitions)
      ∧ ∃ made, (runAll {} operations).validatorClass.1 = .ok made
          ∧ checks (runAll {} operations).keywords = .ok made.checks := by
  intro broken sound schema operations definitions
  have hlast (name : String) :
      Entries.find? definitions name = lastRegistered operations name := by
    have hregistrations : (registrations operations).reverse
        = [("const", sound), (ExtendedFormat.keyword, .extendedFormat false), ("const", broken),
            (ExtendedFormat.keyword, .extendedFormat true)] := rfl
    rw [lastRegistered, hregistrations]
    simp only [definitions, Entries.find?]
    split_ifs <;> rfl
  obtain ⟨halike, hcoherent, -, -⟩ :=
    answers_of_history operations definitions (by decide) hlast
  exact ⟨halike, _, rfl, hcoherent _ rfl⟩

end Registry

end SchemaBridge
