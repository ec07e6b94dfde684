import SchemaBridge.Validation.Properties

/-!
# Evaluated parts

The keywords `unevaluatedItems` and `unevaluatedProperties` speak of those items or entries that no
other keyword has evaluated: none of the schema they stand in, and none of the schemas that it
applies to the same value. So one goes through the schema once more and collects the positions of
the parts that are evaluated. The drafts of 2019 and 2020 differ in what counts.
-/

namespace SchemaBridge

/-- What to collect: the evaluated items or entries, in the way of the draft of 2019 or of 2020. -/
structure Survey where
  purpose : Purpose
  isOlder : Bool

namespace Survey

/-- A way of telling the positions of the parts of a value that a schema evaluates. -/
abbrev Teller := Task → Datum → Except Fault (List Nat)

/-! ## Schemas for the same value -/

/-- What a reference leads to. -/
def throughLead (survey : Survey) (tell : Teller) (task : Task) (lead : Reference.Lead) :
    Except Fault (List Nat) := do
  let setting ← task.setting.follow survey.purpose lead
  tell { task with setting } lead.target.contents

/-- What the reference under a keyword leads to. -/
def throughReference (survey : Survey) (tell : Teller) (task : Task) (entries : Members)
    (keyword : String) : Except Fault (List Nat) :=
  match Entries.find? entries keyword with
  | none | some .null => .ok []
  | some reference => do
    survey.throughLead tell task
      (← Reference.lead task.library task.setting.place reference)

/-- What the references lead to. -/
def throughReferences (survey : Survey) (tell : Teller) (task : Task) (entries : Members) :
    Except Fault (List Nat) := do
  let found ← survey.throughReference tell task entries "$ref"
  let further ←
    if survey.isOlder then
      if Entries.has entries "$recursiveRef" then
        survey.throughLead tell task
          (← Reference.recursiveLead task.library task.setting.place)
      else pure []
    else survey.throughReference tell task entries "$dynamicRef"
  return found ++ further

/-- What is under a keyword. -/
def under (tell : Teller) (task : Task) (entries : Members) (keyword : String) :
    Except Fault (List Nat) :=
  ((Entries.find? entries keyword).map (tell task)).getD (.ok [])

/-- A condition, and what is then applied. -/
def throughCondition (tell : Teller) (task : Task) (entries : Members) :
    Except Fault (List Nat) :=
  match Entries.find? entries "if" with
  | none => .ok []
  | some condition => do
    if ← task.allows condition then
      return (← tell task condition) ++ (← under tell task entries "then")
    else under tell task entries "else"

/-- The branches that allow the value. -/
def throughBranches (tell : Teller) (task : Task) (entries : Members) :
    Except Fault (List Nat) := do
  let found ← ["allOf", "oneOf", "anyOf"].mapM fun keyword => do
    (← Resource.itemsUnder entries keyword).mapM fun branch => do
      if ← task.verdict branch then tell task branch else return []
  return found.flatten.flatten

/-! ## Items -/

/-- The first items, that have schemas of their own; nothing if all items have some. -/
def firstItems (survey : Survey) (entries : Members) : Except Fault (Option (List Nat)) :=
  if survey.isOlder then
    match Entries.find? entries "items" with
    | none => .ok (some [])
    | some schema =>
      if Entries.has entries "additionalItems" || Resource.isObject schema then .ok none
      else
        schema.items?.elim (.error .wrongKind) fun schemas =>
          .ok (some (List.range schemas.length))
  else (Resource.itemsUnder entries "prefixItems").map fun schemas =>
    some (List.range schemas.length)

/-- The items that are allowed by the schema under a keyword, tried for itself. -/
def allowedItems (task : Task) (entries : Members) (items : List Datum) (keyword : String) :
    Except Fault (List Nat) :=
  match Entries.find? entries keyword with
  | none => .ok []
  | some schema => do
    let found ← items.zipIdx.filterM fun (item, _) => (task.into item).allows schema
    return found.map (·.2)

/-- The items that a schema evaluates. -/
def tellItems (survey : Survey) (items : List Datum) (tell : Teller) : Teller := fun task schema =>
  match schema with
  | .bool _ => .ok []
  | _ => do
    if !survey.isOlder && (← Resource.mentions "items" schema) then
      return List.range items.length
    let .object entries := schema | throw .notASchema
    let referred ← survey.throughReferences tell task entries
    let some first ← survey.firstItems entries | return List.range items.length
    let conditional ← throughCondition tell task entries
    let allowed ← ["contains", "unevaluatedItems"].mapM (allowedItems task entries items)
    let branched ← throughBranches tell task entries
    return referred ++ first ++ conditional ++ allowed.flatten ++ branched

/-! ## Entries -/

/-- The positions of the entries with keys of which a condition holds. -/
def positionsOf (data : Members) (holds : Key → Bool) : List Nat :=
  (data.zipIdx.filter fun (entry, _) => holds entry.1).map (·.2)

/-- The entries that the schema under a keyword allows. -/
def allowedEntries (task : Task) (entries data : Members) (keyword : String) :
    Except Fault (List Nat) :=
  match Entries.find? entries keyword with
  | none | some .null => .ok []
  | some schema => do
    let found ← data.zipIdx.filterM fun ((_, entry), _) => (task.into entry).verdict schema
    return found.map (·.2)

/-- The entries with schemas of their own, and those that the schemas for further ones allow. -/
def spokenOf (task : Task) (entries data : Members) : Except Fault (List Nat) := do
  let named :=
    match Entries.find? entries "properties" with
    | some (.object properties) => positionsOf data (Entries.has properties)
    | _ => []
  let allowed ← ["additionalProperties", "unevaluatedProperties"].mapM
    (allowedEntries task entries data)
  return named ++ allowed.flatten

/-- The entries with keys in which one of the expressions is found. -/
def matchedEntries (entries data : Members) : Except Fault (List Nat) :=
  if Entries.has entries "patternProperties" then do
    let found ← data.zipIdx.filterM fun ((key, _), _) => do
      let patterns ← Resource.itemsUnder entries "patternProperties"
      let found ← patterns.mapM fun pattern => Schema.matchesPart pattern (.ofKey key)
      return found.any id
    return found.map (·.2)
  else .ok []

/-- The schemas that count because of some key. -/
def throughDependents (tell : Teller) (task : Task) (entries data : Members) :
    Except Fault (List Nat) :=
  match Entries.find? entries "dependentSchemas" with
  | none => .ok []
  | some (.object dependents) => do
    let found ← dependents.mapM fun (key, schema) =>
      if Entries.has data key then tell task schema else .ok []
    return found.flatten
  | some _ => .error .notASchema

/-- The entries that a schema evaluates. -/
def tellEntries (survey : Survey) (data : Members) (tell : Teller) : Teller := fun task schema =>
  match schema with
  | .bool _ => .ok []
  | .object entries => do
    let referred ← survey.throughReferences tell task entries
    let spoken ← spokenOf task entries data
    let matched ← matchedEntries entries data
    let dependent ← throughDependents tell task entries data
    let branched ← throughBranches tell task entries
    let conditional ← throughCondition tell task entries
    return referred ++ spoken ++ matched ++ dependent ++ branched ++ conditional
  | _ => .error .notASchema

/-! ## Both -/

/-- Telling with at most the given number of steps from one schema to the next. -/
def upTo (tell : Teller → Teller) : Nat → Teller
  | 0 => fun _ _ => .error .endless
  | steps + 1 => tell (upTo tell steps)

/-- The positions that the schema evaluates in which the task's keyword stands. -/
def positions (tell : Teller → Teller) (task : Task) : Except Fault (List Nat) :=
  upTo tell (task.budget + 1) task (.object task.entries)

end Survey

namespace Schema

/-- The keyword `unevaluatedItems`: no items are left. Those that its own schema allows count as
evaluated. -/
def unevaluatedItemsOutcome (isOlder : Bool) : Rule := fun task _ =>
  match task.data with
  | .list items =>
    .ofExcept (Survey.positions (Survey.tellItems ⟨.items, isOlder⟩ items) task) fun found =>
      let left := items.zipIdx.filter fun (_, position) => !found.contains position
      .require "unevaluatedItems" left.isEmpty
        (Wording.unexpected "Unevaluated items" (left.map (·.1)))
  | _ => .valid

/-- The keyword `unevaluatedProperties`: its schema allows all entries that are left. -/
def unevaluatedPropertiesOutcome (isOlder : Bool) : Rule := fun task value =>
  match task.data with
  | .object entries =>
    .ofExcept (Survey.positions (Survey.tellEntries ⟨.keys, isOlder⟩ entries) task) fun found =>
      let left := entries.zipIdx.filter fun (_, position) => !found.contains position
      let refused := left.mapM fun ((key, entry), _) => do
        return (← (task.into entry).listing value).map fun _ => Datum.ofKey key
      .ofExcept refused fun refused =>
        .require "unevaluatedProperties" refused.flatten.isEmpty
          (match value with
            | .bool false =>
              Wording.unexpected "Unevaluated properties" (Schema.byLabel refused.flatten)
            | _ => Wording.unevaluated refused.flatten)
  | _ => .valid

end Schema

end SchemaBridge
