import Mathlib
import SchemaBridge.Proofs.Emission
import SchemaBridge.Proofs.Extension
import SchemaBridge.Proofs.Occurrences

/-!
# Definitions at the root and behind references

A definition is validated either as a whole schema, to which all definitions are attached, or behind
a reference in a schema that has nothing else but the definitions. References are resolved against
the whole schema, and these two differ in every key except the definitions. Still they say the same,
so that a recursive type says of a value inside of another one what it says of the outermost.

* `Schema.generated_behind`: the schema of a reference beside the definitions.
* `Schema.apply_behind`: what its validator reports.
* `Registry.SaysTheSameBehind`: a definition says the same at the root and behind a reference, and so
  it does inside of other values.
* `Registry.saysTheSameBehind_of_parse?`, `Registry.validatorFor_eq_behind`: this holds of documents
  that are read from a text, and of others with such names.
-/

namespace SchemaBridge

namespace Schema

variable {level : String → Nat} {top : Nat} {definitions : Members} {name : String}

/-- The entries of a reference to a definition, beside the definitions. -/
def behind (name : String) (definitions : Members) : Members :=
  [("$ref", Reference.toDefinition name), ("definitions", .object definitions)]

theorem generated_behind (hplain : Reference.IsPlain name) (hlevel : level name < top) :
    Generated level top top (.object (behind name definitions)) :=
  .reference rfl rfl hplain hlevel

/-- The validator of a reference beside the definitions. -/
def validatorBehind (checks : Table Check) (name : String) (definitions : Members) : Validator where
  checks
  library := { root := .object (behind name definitions), address := [] }

/-- Behind a reference there is the report of the definition that it leads to. -/
theorem apply_behind (hlayered : Layered level top definitions)
    (htop : top ≤ 2 * definitions.length + 3) (hplain : Reference.IsPlain name)
    (hlevel : level name < top) {checks : Table Check} (hchecks : Entries.find? checks "$ref" = none)
    {contents : Datum} (hfind : Entries.find? definitions name = some contents) (extent : Extent)
    (data : Datum) :
    (validatorBehind checks name definitions).apply extent data
      = report checks definitions extent contents data := by
  have hgen : Generated level top top (.object (behind name definitions)) :=
    generated_behind hplain hlevel
  have hserves : (validatorBehind checks name definitions).Serves checks definitions :=
    ⟨rfl, rfl, _, rfl, rfl⟩
  have hsteps := weight_lt_stepBound hserves.library htop le_rfl data
  have happly : (validatorBehind checks name definitions).apply extent data
      = applyUpTo (validatorBehind checks name definitions)
          ((validatorBehind checks name definitions).stepBound data) extent (.outset [])
          (.object (behind name definitions)) data := rfl
  rw [happly, applyUpTo_eq_report hlayered htop hserves hgen le_rfl hsteps extent
    (Setting.passed_nil _ _)]
  exact report_reference hlayered htop hchecks rfl hgen le_rfl hplain hfind extent data

end Schema

namespace Registry

open Schema

variable {registry : Registry} {checks : Table Check} {definitions entries : Members}
  {name : String} {level : String → Nat} {top : Nat}

/-- The validator at the root and the one behind a reference report the same. -/
theorem Reads.apply_whole_eq_behind (hreads : registry.Reads checks)
    (hlayered : Layered level top definitions) (htop : top ≤ 2 * definitions.length + 3)
    (hlevel : level name < top) (hplain : Reference.IsPlain name)
    (honly : HasOnly definitionKeywords entries)
    (hfind : Entries.find? definitions name = some (.object entries)) :
    (whole checks definitions entries).apply
      = (validatorBehind checks name definitions).apply := by
  funext extent data
  rw [apply_whole hlayered htop honly (hlayered name _ hfind) hlevel.le
      (hreads.silent _ (by decide)),
    apply_behind hlayered htop hplain hlevel (hreads.silent _ (by decide)) hfind]

/-- The validator of a definition says the same as one of a reference to it beside the definitions,
be it by a fault or by the same violations in the same order. And wherever the value is brought to
the definition inside of another value, what that validator lists is what is listed there, with the
steps that lead to the place. -/
structure SaysTheSameBehind (registry : Registry) (schema definitions : Members) (title : String)
    (data : Datum) : Prop where
  isValid : (registry.validatorFor (.object schema) title).1.bind (·.isValid data)
    = (registry.isValid (.object (behind title definitions)) data).1
  violations : (registry.validatorFor (.object schema) title).1.bind (·.violations data)
    = (registry.violations (.object (behind title definitions)) data).1
  inside : ∀ outer contents whole path found,
    Entries.find? definitions (.text outer) = some contents →
    Reaches definitions title data path contents whole →
    (registry.validatorFor (.object schema) outer).1.bind (·.violations whole) = .ok found →
    ∃ inner schemaPath,
      (registry.validatorFor (.object schema) title).1.bind (·.violations data) = .ok inner
        ∧ (Outcome.inside path schemaPath ⟨inner, none⟩).violations <:+: found

section

variable {document : Document} {schemaUri : Option String} {schema : Members}
  {operations : List Operation} {title : String} {contents : Datum}

theorem saysTheSameBehind_of_isPlain
    (hschema : (document.schema { schemaUri }).result = .ok schema) (hplain : document.IsPlain)
    (hdefinitions : Entries.find? schema "definitions" = some (.object definitions))
    (hacyclic : ∀ name, ¬Relation.TransGen document.Contains name name)
    (honly : OnlyExtends operations) (htitle : Reference.IsPlain title)
    (hfind : Entries.find? definitions (.text title) = some contents) (data : Datum) :
    SaysTheSameBehind (runAll {} operations) schema definitions title data := by
  obtain ⟨checks, hreads⟩ := exists_reads_runAll honly
  have hrenders := Document.renders_of_find? hschema hdefinitions
  obtain ⟨level, top, hlayered, htop, hlevel⟩ :=
    Document.exists_layered hrenders hplain hacyclic
  obtain ⟨definition, body, -, rfl, hbody⟩ := hrenders.find?_eq_some hfind
  have hwhole := validatorFor_eq hreads hdefinitions hfind (Definition.hasOnly_schema hbody)
  have hbehind : ((runAll {} operations).validator (.object (behind title definitions))).1
      = .ok (validatorBehind checks title definitions) := validator_eq hreads rfl
  have happly := hreads.apply_whole_eq_behind hlayered htop (hlevel title) htitle
    (Definition.hasOnly_schema hbody) hfind
  refine ⟨?_, ?_, fun outer contents' whole path found hfind' hreaches hfound => ?_⟩
  · rw [isValid_fst, hbehind, hwhole, Except.bind, Except.bind, Validator.isValid,
      Validator.isValid, happly]
  · rw [violations_fst, hbehind, hwhole, Except.bind, Except.bind, Validator.violations,
      Validator.violations, happly]
  · obtain ⟨definition', body', -, rfl, hbody'⟩ := hrenders.find?_eq_some hfind'
    rw [violations_eq_report hreads hdefinitions hfind' (Definition.hasOnly_schema hbody') hlayered
      htop (hlevel outer).le] at hfound
    rw [violations_eq_report hreads hdefinitions hfind (Definition.hasOnly_schema hbody) hlayered
      htop (hlevel title).le]
    exact (report_carries hlayered htop hreads.silent hfind hreaches (hlayered outer _ hfind')
      (hlevel outer).le).listing hfound

/-- For a document that is read from a text, and in which no union contains itself, this holds of
every definition. -/
theorem saysTheSameBehind_of_parse? {text : String}
    (hparse : Document.parse? text = some document)
    (hschema : (document.schema { schemaUri }).result = .ok schema)
    (hdefinitions : Entries.find? schema "definitions" = some (.object definitions))
    (hacyclic : ∀ name, ¬Relation.TransGen document.Contains name name)
    (honly : OnlyExtends operations)
    (hfind : Entries.find? definitions (.text title) = some contents) (data : Datum) :
    SaysTheSameBehind (runAll {} operations) schema definitions title data := by
  obtain ⟨definition, -, hforce, -, -⟩ :=
    (Document.renders_of_find? hschema hdefinitions).find?_eq_some hfind
  obtain ⟨hmem, hname⟩ := Document.typeName?_of_inForce hforce
  exact saysTheSameBehind_of_isPlain hschema (Document.isPlain_of_parse? hparse) hdefinitions
    hacyclic honly (Document.isPlain_typeName_of_parse? hparse hmem hname) hfind data

end

/-- For a document without handlers in which no union contains itself, and whose names are those of
the language, and a registry that has been extended or not: the validator of a definition says the
same as one of a reference to it beside the definitions, be it by a fault or by the same violations
in the same order. And wherever the value is brought to the definition inside of another value, what
that validator lists is what is listed there, with the steps that lead to the place. -/
theorem validatorFor_eq_behind {document : Document} {schemaUri : Option String}
    {schema definitions : Members} {operations : List Operation}
    (hschema : (document.schema { schemaUri }).result = .ok schema) (hplain : document.IsPlain)
    (hdefinitions : Entries.find? schema "definitions" = some (.object definitions))
    (hacyclic : ∀ name, ¬Relation.TransGen document.Contains name name)
    (honly : OnlyExtends operations) {title : String} (htitle : Reference.IsPlain title)
    {contents : Datum} (hfind : Entries.find? definitions (.text title) = some contents) (data : Datum) :
    let registry := runAll {} operations
    let behind : Datum := .object
      [("$ref", .text ("#/definitions/" ++ title)), ("definitions", .object definitions)]
    (registry.validatorFor (.object schema) title).1.bind (·.isValid data)
        = (registry.isValid behind data).1
      ∧ (registry.validatorFor (.object schema) title).1.bind (·.violations data)
        = (registry.violations behind data).1
      ∧ ∀ outer contents' whole path found,
          Entries.find? definitions (.text outer) = some contents' →
          Reaches definitions title data path contents' whole →
          (registry.validatorFor (.object schema) outer).1.bind (·.violations whole) = .ok found →
          ∃ inner schemaPath,
            (registry.validatorFor (.object schema) title).1.bind (·.violations data) = .ok inner
              ∧ (Outcome.inside path schemaPath ⟨inner, none⟩).violations <:+: found := by
  intro registry behind
  obtain ⟨hisValid, hviolations, hinside⟩ :=
    saysTheSameBehind_of_isPlain hschema hplain hdefinitions hacyclic honly htitle hfind data
  exact ⟨hisValid, hviolations, hinside⟩

/-- A type with a list of values of its own says the same behind a reference, and of each value in
the list. -/
theorem recursive_type_says_the_same_behind :
    let validator := (runAll {} [.extend true]).validatorFor (.object (patternSchema (.text "^a"))) "A"
    let behind : Datum := .object [("$ref", .text ("#/definitions/" ++ "A")),
      ("definitions", .object (patternDefinitions (.text "^a")))]
    (Document.ofText anchoredSource {}).result = .ok (patternSchema (.text "^a"))
      ∧ ∀ data,
        validator.1.bind (·.violations data) = ((runAll {} [.extend true]).violations behind data).1
          ∧ ∀ found,
            validator.1.bind (·.violations (.object [("b", .list [data])])) = .ok found →
            ∃ inner schemaPath, validator.1.bind (·.violations data) = .ok inner
              ∧ (Outcome.inside [.key "b", .index 0] schemaPath ⟨inner, none⟩).violations
                <:+: found := by
  intro validator behind
  have hschema : ((patternDocument (.text "^a")).schema {}).result
      = .ok (patternSchema (.text "^a")) := rfl
  have hplain := Document.isPlain_of_parse? parse?_anchoredSource
  have htitle : Reference.IsPlain "A" :=
    Document.isPlain_typeName_of_parse? parse?_anchoredSource List.mem_cons_self rfl
  have honly : OnlyExtends [.extend true] := by simp [OnlyExtends]
  refine ⟨by rw [Document.ofText_of_parse? parse?_anchoredSource, hschema], fun data => ?_⟩
  have hfind : Entries.find? (patternDefinitions (.text "^a")) (.text "A") = some _ := rfl
  obtain ⟨-, hsame, hinside⟩ := validatorFor_eq_behind hschema hplain rfl
    (acyclic_patternDocument _) honly htitle hfind data
  refine ⟨hsame, fun found => hinside "A" _ _ _ found rfl ?_⟩
  have hsecond {first second : Key × Datum} {rest : Members} : second ∈ first :: second :: rest :=
    List.mem_cons_of_mem _ List.mem_cons_self
  exact .property rfl (List.mem_cons_of_mem _ hsecond) hsecond rfl
    (.item rfl hsecond rfl (.here rfl))

end Registry

end SchemaBridge
