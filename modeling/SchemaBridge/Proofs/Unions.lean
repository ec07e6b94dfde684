import Mathlib
import SchemaBridge.Proofs.Definitions

/-!
# Unions and their members

A union allows a value if exactly one member does. So a value that a member allows is a value of the
union just if every other member refuses it; members need not be disjoint, and a value that two of
them allow is refused.

* `report_union_eq_valid_iff`: when a union has nothing to report.
* `gives_memberValidator`: the validator for a member says what the branch of the union says.
* `isValid_union_iff`: when the validator for a union allows a value.
* `union_allows_iff`: when a union allows a value of a member.
-/

namespace SchemaBridge

/-- An element of a list, at a place of it, is at another place before it or behind it, or there. -/
theorem eq_or_mem_of_append_cons_eq {α : Type} {before after before' after' : List α} {x y : α}
    (h : before ++ x :: after = before' ++ y :: after') :
    (before = before' ∧ x = y ∧ after = after') ∨ x ∈ before' ∨ x ∈ after' := by
  rcases List.append_eq_append_iff.mp h with ⟨between, rfl, heq⟩ | ⟨between, rfl, heq⟩
  · cases between with
    | nil =>
      cases heq
      exact .inl ⟨(List.append_nil _).symm, rfl, rfl⟩
    | cons z between =>
      cases heq
      exact .inr (.inl (List.mem_append_right _ List.mem_cons_self))
  · cases between with
    | nil =>
      cases heq
      exact .inl ⟨List.append_nil _, rfl, rfl⟩
    | cons z between =>
      cases heq
      exact .inr (.inr (List.mem_append_right _ List.mem_cons_self))

/-- If one value of a list can only be the one at which the list is cut, that is where it is. -/
theorem exists_cut_iff {α β : Type} {before after : List α} {item : α} {f : α → β}
    {first earlier later : β → Prop} (hfirst : first (f item)) (hearlier : ¬earlier (f item))
    (hlater : ¬later (f item)) :
    (∃ before' value after', (before ++ item :: after).map f = before' ++ value :: after' ∧
        first value ∧ (∀ value ∈ before', earlier value) ∧ ∀ value ∈ after', later value) ↔
      (∀ other ∈ before, earlier (f other)) ∧ ∀ other ∈ after, later (f other) := by
  rw [List.map_append, List.map_cons]
  constructor
  · rintro ⟨before', value, after', heq, -, hbefore, hafter⟩
    rcases eq_or_mem_of_append_cons_eq heq with ⟨rfl, -, rfl⟩ | hmem | hmem
    · exact ⟨List.forall_mem_map.mp hbefore, List.forall_mem_map.mp hafter⟩
    · exact absurd (hbefore _ hmem) hearlier
    · exact absurd (hafter _ hmem) hlater
  · rintro ⟨hbefore, hafter⟩
    exact ⟨_, _, _, rfl, hfirst, List.forall_mem_map.mpr hbefore, List.forall_mem_map.mpr hafter⟩

/-! ## Reports of unions -/

namespace Schema

variable {level : String → Nat} {top bound : Nat} {definitions : Members} {checks : Table Check}

/-- What a union asks of its branches. -/
theorem report_union_eq_valid_iff (hlayered : Layered level top definitions)
    (htop : top ≤ 2 * definitions.length + 3)
    (hchecks : ∀ keyword ∈ ["title", "type", "oneOf"], Entries.find? checks keyword = none)
    {name : String} {types : List TypeSchema}
    (hgen : Generated level top bound (.object (Definition.unionEntries name types)))
    (hbound : bound ≤ top) (extent : Extent) (data : Datum) :
    report checks definitions extent (.object (Definition.unionEntries name types)) data = .valid ↔
      ∃ before first rest,
        types.map (fun type => Datum.object type.schema) = before ++ first :: rest ∧
        (report checks definitions .all first data).listing = .ok [] ∧
        (∀ branch ∈ before, ∃ violations, violations ≠ [] ∧
          (report checks definitions .all branch data).listing = .ok violations) ∧
        ∀ branch ∈ rest, (report checks definitions .first branch data).verdict = .ok false := by
  have honly : HasOnly generatedKeywords (Definition.unionEntries name types) :=
    (hasOnly_unionEntries name types).mono (by decide)
  have hvalue : (Datum.list (types.map fun type => .object type.schema)).items?
      = some (types.map fun type => .object type.schema) := rfl
  obtain ⟨inner, hinner, hbranches⟩ := hgen.branches honly
    (by simp [Definition.unionEntries]) hvalue
  let task := reportTask checks definitions extent (Definition.unionEntries name types) data
  have hsetting : task.setting = .outset [] := rfl
  have htitle : entryOutcome (bare checks definitions) task (.text "title") (.text name)
      = .valid := by
    rw [entryOutcome_report (hchecks "title" (by decide))]
    rfl
  have htype : entryOutcome (bare checks definitions) task (.text "type")
      (.text Definition.unionType) = .valid := by
    rw [entryOutcome_report (hchecks "type" (by decide))]
    rfl
  have hentries : (∀ entry ∈ Definition.unionEntries name types,
        entryOutcome (bare checks definitions) task entry.1 entry.2 = .valid) ↔
      oneOfOutcome task (.list (types.map fun type => .object type.schema)) = .valid := by
    simp only [Definition.unionEntries, List.forall_mem_cons, List.not_mem_nil, false_implies,
      implies_true, and_true, htitle, htype, true_and]
    rw [entryOutcome_report (hchecks "oneOf" (by decide)), Outcome.inside_eq_valid_iff]
    rfl
  rw [report_of_keywords hlayered htop honly hgen hbound, Outcome.each_eq_valid_iff]
  refine hentries.trans ((oneOfOutcome_eq_valid_iff hvalue).trans ?_)
  refine exists_congr fun before => exists_congr fun first => exists_congr fun rest =>
    and_congr_right fun heq => ?_
  rw [heq] at hbranches
  have hlisting {branch : Datum} (hbranch : branch ∈ before ++ first :: rest) :
      task.listing branch = (report checks definitions .all branch data).listing :=
    Task.listing_eq (hbranches branch hbranch) hsetting
  have hallows {branch : Datum} (hbranch : branch ∈ before ++ first :: rest) :
      task.allows branch = (report checks definitions .first branch data).verdict := by
    have hbrief : Extent.trial.isBrief = Extent.first.isBrief := rfl
    rw [Task.allows_eq (hbranches branch hbranch) hsetting]
    exact congrArg Outcome.verdict (report_of_isBrief hlayered htop (hbranches branch hbranch)
      (hinner.le.trans hbound) hbrief data)
  refine and_congr ?_ (and_congr ?_ ?_)
  · rw [hlisting (by simp)]
  · refine forall₂_congr fun branch hbranch => ?_
    rw [hlisting (List.mem_append_left _ hbranch)]
  · refine forall₂_congr fun branch hbranch => ?_
    rw [hallows (List.mem_append_right _ (List.mem_cons_of_mem _ hbranch))]

/-- What is allowed as far as the first violation has none to list. -/
theorem report_listing_of_verdict (hlayered : Layered level top definitions)
    (htop : top ≤ 2 * definitions.length + 3) {schema : Datum}
    (hgen : Generated level top bound schema) (hbound : bound ≤ top) {data : Datum}
    (h : (report checks definitions .first schema data).verdict = .ok true) :
    (report checks definitions .all schema data).listing = .ok [] := by
  rw [Outcome.verdict_eq_true_iff] at h
  rw [Outcome.listing_eq_nil_iff]
  exact (report_eq_valid_iff hlayered htop hgen hbound _ _ _).mp h

end Schema

/-- The names of the members of a union stand for themselves in references. -/
theorem Document.IsPlain.of_member {document : Document} (h : document.IsPlain) {union name : String}
    {directives : List Directive} {names : List String}
    (hunion : document.inForce union = some (.union union directives (names.map .named)))
    (hname : name ∈ names) : Reference.IsPlain name :=
  h _ (Document.typeName?_of_inForce hunion).1 (.named name)
    (List.mem_append_right _ (List.mem_map_of_mem hname)) name rfl

/-! ## Validators of members -/

namespace Registry

open Schema

/-- The validator for a member of a union: a name that is builtin has a schema of its own, and any
other name stands for the definition of the document. -/
def memberValidator (document : Datum) (name : String) (registry : Registry) :
    Except Fault Validator :=
  if TypeRef.isBuiltin name then (registry.validator (.object (TypeRef.nameSchema name false))).1
  else (registry.validatorFor document name).1

/-- A validator gives the reports; or there is no validator, and the reports are a fault. -/
def Gives (found : Except Fault Validator) (reports : Extent → Datum → Outcome) : Prop :=
  (∃ validator, found = .ok validator ∧ ∀ extent data,
      validator.apply extent data = reports extent data)
    ∨ ((∃ fault, found = .error fault) ∧ ∃ fault, ∀ extent data,
      reports extent data = .stopped fault)

theorem Gives.isValid_iff {found : Except Fault Validator} {reports : Extent → Datum → Outcome}
    (h : Gives found reports) (data : Datum) (answer : Bool) :
    found.bind (·.isValid data) = .ok answer ↔ (reports .first data).verdict = .ok answer := by
  obtain ⟨validator, rfl, happly⟩ | ⟨⟨fault, rfl⟩, fault', hreports⟩ := h
  · rw [Except.bind, Validator.isValid, happly]
  · rw [hreports]
    simp [Except.bind, Outcome.verdict, Outcome.stopped]

theorem Gives.violations_iff {found : Except Fault Validator} {reports : Extent → Datum → Outcome}
    (h : Gives found reports) (data : Datum) (listed : List Violation) :
    found.bind (·.violations data) = .ok listed ↔ (reports .all data).listing = .ok listed := by
  obtain ⟨validator, rfl, happly⟩ | ⟨⟨fault, rfl⟩, fault', hreports⟩ := h
  · rw [Except.bind, Validator.violations, happly]
  · rw [hreports]
    simp [Except.bind, Outcome.listing, Outcome.stopped]

variable {registry : Registry} {checks : Table Check} {document : Document}
  {schema definitions : Members} {name : String} {level : String → Nat} {top : Nat}

/-- The validator for a member gives the reports of the branch of the union. -/
theorem gives_memberValidator (hreads : registry.Reads checks)
    (hdefinitions : Entries.find? schema "definitions" = some (.object definitions))
    (hrenders : document.Renders [] definitions) (hlayered : Layered level top definitions)
    (htop : top ≤ 2 * definitions.length + 3) (hlevel : level name < top)
    (hplain : Reference.IsPlain name) :
    Gives (registry.memberValidator (.object schema) name) fun extent data =>
      report checks definitions extent (.object (TypeRef.nameSchema name false)) data := by
  cases hbuiltin : TypeRef.isBuiltin name with
  | true =>
    have honly : HasOnly plainKeywords (TypeRef.nameSchema name false) :=
      (TypeRef.hasOnly_nameSchema hbuiltin false).mono (by decide)
    refine .inl ⟨alone checks (TypeRef.nameSchema name false), ?_, fun extent data =>
      apply_alone honly checks definitions extent data⟩
    rw [memberValidator, if_pos hbuiltin]
    exact validator_eq hreads (honly.find?_eq_none (by decide))
  | false =>
    have hbuiltin' : ¬TypeRef.isBuiltin name = true := by simp [hbuiltin]
    have hsilent := hreads.silent "$ref" (by decide)
    have hgen : Generated level top top (.object [(.text "$ref", Reference.toDefinition name)]) :=
      .reference rfl rfl hplain hlevel
    rw [memberValidator, if_neg hbuiltin', TypeRef.nameSchema_of_reference hbuiltin]
    cases hfind : Entries.find? definitions (.text name) with
    | some contents =>
      obtain ⟨definition, entries, -, rfl, hentries⟩ := hrenders.find?_eq_some hfind
      have honly := Definition.hasOnly_schema hentries
      refine .inl ⟨_, validatorFor_eq hreads hdefinitions hfind honly, fun extent data => ?_⟩
      have hwhole := apply_whole hlayered htop honly (hlayered name _ hfind) hlevel.le
        (hreads.silent _ (by decide)) extent data
      have hreference :=
        report_reference hlayered htop hsilent rfl hgen le_rfl hplain hfind extent data
      exact hwhole.trans hreference.symm
    | none =>
      refine .inr ⟨⟨.missingKey name, ?_⟩, _, fun extent data =>
        report_reference_of_missing hlayered htop hsilent rfl hgen le_rfl hplain hfind extent data⟩
      simp only [validatorFor, definitionSchema, valueAt, hdefinitions, hfind, bind, Except.bind]

/-! ## Unions -/

theorem resolve_members {names : List String} {types : List TypeSchema}
    (h : (names.map TypeRef.named).mapM (TypeRef.resolve false) = .ok types) :
    types.map (fun type => Datum.object type.schema)
      = names.map fun name => .object (TypeRef.nameSchema name false) := by
  induction names generalizing types with
  | nil =>
    cases h
    rfl
  | cons name rest ih =>
    rw [List.map_cons, List.mapM_cons] at h
    cases hrest : (rest.map TypeRef.named).mapM (TypeRef.resolve false) with
    | error fault => simp [hrest, TypeRef.resolve, bind, Except.bind] at h
    | ok later =>
      simp only [hrest, TypeRef.resolve, bind, Except.bind, pure, Except.pure, Except.ok.injEq] at h
      rw [← h, List.map_cons, List.map_cons, ih hrest]

/-- The validator for a union allows a value if one branch does, those before it list violations,
and those behind it refuse the value. -/
theorem isValid_union_iff (hreads : registry.Reads checks)
    (hdefinitions : Entries.find? schema "definitions" = some (.object definitions))
    (hrenders : document.Renders [] definitions) (hlayered : Layered level top definitions)
    (htop : top ≤ 2 * definitions.length + 3) (hlevel : level name ≤ top)
    {directives : List Directive} {names : List String}
    (hunion : document.inForce name = some (.union name directives (names.map .named)))
    (data : Datum) :
    (registry.validatorFor (.object schema) name).1.bind (·.isValid data) = .ok true ↔
      ∃ before first rest, (names.map fun name => .object (TypeRef.nameSchema name false))
          = before ++ first :: rest ∧
        (report checks definitions .all first data).listing = .ok [] ∧
        (∀ branch ∈ before, ∃ violations, violations ≠ [] ∧
          (report checks definitions .all branch data).listing = .ok violations) ∧
        ∀ branch ∈ rest, (report checks definitions .first branch data).verdict = .ok false := by
  obtain ⟨body, hbody, hfind⟩ := hrenders.find?_of_inForce hunion
  have honly := Definition.hasOnly_schema hbody
  obtain ⟨types, htypes, rfl⟩ := Definition.unionSchema_eq_ok hbody
  have hsilent : ∀ keyword ∈ ["title", "type", "oneOf"], Entries.find? checks keyword = none := by
    intro keyword hkeyword
    refine hreads.silent keyword ?_
    rintro rfl
    exact absurd hkeyword (by decide)
  rw [isValid_eq_report hreads hdefinitions hfind honly hlayered htop hlevel,
    Outcome.verdict_eq_true_iff,
    report_union_eq_valid_iff hlayered htop hsilent (hlayered name _ hfind) hlevel,
    resolve_members htypes]

/-- A value of a member is a value of the union if every other member refuses it. -/
theorem union_allows_iff {document : Document} {schemaUri : Option String} {schema : Members}
    (hschema : (document.schema { schemaUri }).result = .ok schema) (hplain : document.IsPlain)
    (hacyclic : ∀ name, ¬ Relation.TransGen document.Contains name name)
    (hreads : registry.Reads checks) {union member : String} {before after : List String}
    {directives : List Directive}
    (hunion : document.inForce union
      = some (.union union directives ((before ++ member :: after).map .named)))
    {data : Datum}
    (hmember : (registry.memberValidator (.object schema) member).bind (·.isValid data)
      = .ok true) :
    (registry.validatorFor (.object schema) union).1.bind (·.isValid data) = .ok true ↔
      (∀ other ∈ before, ∃ violations, violations ≠ [] ∧
        (registry.memberValidator (.object schema) other).bind (·.violations data)
          = .ok violations) ∧
      ∀ other ∈ after, (registry.memberValidator (.object schema) other).bind (·.isValid data)
        = .ok false := by
  obtain ⟨definitions, hdefinitions, hrenders⟩ := Document.renders_of_schema hschema hunion
  obtain ⟨level, top, hlayered, htop, hlevel⟩ :=
    Document.exists_layered hrenders hplain hacyclic
  let branch (name : String) : Datum := .object (TypeRef.nameSchema name false)
  have hgives {name : String} (hname : name ∈ before ++ member :: after) :
      Gives (registry.memberValidator (.object schema) name)
        fun extent data => report checks definitions extent (branch name) data :=
    gives_memberValidator hreads hdefinitions hrenders hlayered htop (hlevel name)
      (hplain.of_member hunion hname)
  have hat : member ∈ before ++ member :: after := List.mem_append_right _ List.mem_cons_self
  have hresolve : (TypeRef.named member).resolve false
      = .ok ⟨TypeRef.nameSchema member false, false⟩ := rfl
  have hgen : Generated level top top (branch member) :=
    TypeRef.generated hresolve (fun name hname => by cases hname; exact hplain.of_member hunion hat)
      hlevel (Nat.zero_lt_of_lt (hlevel "")) fun name _ => hlevel name
  -- The value is allowed by the member as far as its first violation, so it has none at all.
  have hverdict : (report checks definitions .first (branch member) data).verdict = .ok true :=
    ((hgives hat).isValid_iff data true).mp hmember
  have hlisting := report_listing_of_verdict hlayered htop hgen le_rfl hverdict
  rw [isValid_union_iff hreads hdefinitions hrenders hlayered htop (hlevel _).le hunion]
  refine Iff.trans (exists_cut_iff hlisting ?_ ?_) (and_congr ?_ ?_)
  · rintro ⟨violations, hne, hviolations⟩
    rw [hlisting] at hviolations
    cases hviolations
    exact hne rfl
  · rw [hverdict]
    rintro ⟨⟩
  · refine forall₂_congr fun other hother => exists_congr fun violations => ?_
    rw [(hgives (List.mem_append_left _ hother)).violations_iff]
  · refine forall₂_congr fun other hother => ?_
    rw [(hgives (List.mem_append_right _ (List.mem_cons_of_mem _ hother))).isValid_iff]

/-- Two types that both have a field, which may be left out or not, and their union. -/
def pairOfTypes (type : TypeRef) : Document :=
  let typed (name : String) : Field := { name, type, fallback := none, directives := []
                                         arguments := [] }
  [.object "A" [] [] [typed "a"], .object "B" [] [] [typed "b"],
   .union "U" [] [.named "A", .named "B"]]

theorem contains_pairOfTypes {type : TypeRef} {name other : String}
    (h : (pairOfTypes type).Contains name other) : name = "U" ∧ (other = "A" ∨ other = "B") := by
  obtain ⟨definition, hforce, member, hmember, href⟩ := h
  obtain ⟨hmem, hname⟩ := Document.typeName?_of_inForce hforce
  simp only [pairOfTypes, List.mem_cons, List.not_mem_nil, or_false] at hmem
  rcases hmem with rfl | rfl | rfl
  · cases hmember
  · cases hmember
  · simp only [Definition.members, List.mem_cons, List.not_mem_nil, or_false] at hmember
    cases hname
    rcases hmember with rfl | rfl <;> cases href
    · exact ⟨rfl, .inl rfl⟩
    · exact ⟨rfl, .inr rfl⟩

theorem acyclic_pairOfTypes (type : TypeRef) (name : String) :
    ¬Relation.TransGen (pairOfTypes type).Contains name name := by
  refine Document.acyclic_of_flat (fun name other hcontains inner hinner => ?_) name
  obtain ⟨-, hother⟩ := contains_pairOfTypes hcontains
  obtain ⟨rfl, -⟩ := contains_pairOfTypes hinner
  exact absurd hother (by decide)

/-- The schema document of the two types. -/
def schemaOfPair (type : TypeRef) : Members :=
  ((pairOfTypes type).schema {}).result.toOption.getD []

/-- A value with the field that `A` requires is a value of the union, since `B` refuses it. -/
theorem union_allows_value_of_member :
    let schema := Datum.object (schemaOfPair (.nonNull (.named "Int")))
    (({} : Registry).validatorFor schema "U").1.bind (·.isValid (.object [("a", .int 1)]))
      = .ok true := by
  have hschema : ((pairOfTypes (.nonNull (.named "Int"))).schema {}).result
      = .ok (schemaOfPair (.nonNull (.named "Int"))) := rfl
  have hunion : (pairOfTypes (.nonNull (.named "Int"))).inForce "U"
      = some (.union "U" [] (([] ++ "A" :: ["B"]).map .named)) := rfl
  refine (union_allows_iff hschema (by decide) (acyclic_pairOfTypes _) reads_empty hunion ?_).mpr
    ⟨fun _ h => absurd h List.not_mem_nil, fun other hother => ?_⟩
  · exact eq_ok_of_toOption (by decide +kernel)
  · rw [List.mem_singleton.mp hother]
    exact eq_ok_of_toOption (by decide +kernel)

/-- Without a required field both types allow the empty object, and their union refuses it. -/
theorem union_refuses_value_of_members :
    let document := pairOfTypes (.named "Int")
    let schema := Datum.object (schemaOfPair (.named "Int"))
    document.inForce "U" = some (.union "U" [] (["A", "B"].map .named)) ∧ ["A", "B"].Nodup ∧
    (∀ member ∈ ["A", "B"], (document.inForce member).isSome) ∧
    (∀ name, ¬Relation.TransGen document.Contains name name) ∧
    (document.schema {}).result = .ok (schemaOfPair (.named "Int")) ∧
    (({} : Registry).validatorFor schema "A").1.bind (·.isValid (.object [])) = .ok true ∧
    (({} : Registry).validatorFor schema "U").1.bind (·.isValid (.object [])) = .ok false := by
  refine ⟨rfl, by decide, by decide, acyclic_pairOfTypes _, rfl, ?_, ?_⟩ <;>
    exact eq_ok_of_toOption (by decide +kernel)

end Registry

end SchemaBridge
