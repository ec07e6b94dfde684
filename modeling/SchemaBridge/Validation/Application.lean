import SchemaBridge.Validation.Assertion
import SchemaBridge.Validation.Task

/-!
# Keywords about the whole value

Keywords that apply other schemas to the same value: branches, conditions, and what a reference
leads to.
-/

namespace SchemaBridge.Schema

/-! ## Branches -/

/-- Every one of several schemas. -/
def everyBranch (task : Task) (branches : List Datum) : Outcome :=
  .each task.extent branches.zipIdx fun (branch, position) =>
    task.descend branch [] [.index position]

/-- The keyword `allOf`: every branch. -/
def allOfOutcome : Rule := fun task value =>
  match value.items? with
  | some branches => everyBranch task branches
  | none => .stopped .wrongKind

/-- The keyword `extends`: a schema that the value has to satisfy too, or several. -/
def extendsOutcome : Rule := fun task value =>
  match value with
  | .object _ => task.descend value [] []
  | _ => allOfOutcome task value

/-- The first branch that allows the value, if there is one, and those after it. Every violation of
a branch is looked for, so a fault behind the first is met. -/
def firstValid (task : Task) : List Datum → Except Fault (Option (Datum × List Datum))
  | [] => .ok none
  | branch :: rest =>
    match task.listing branch with
    | .error fault => .error fault
    | .ok [] => .ok (some (branch, rest))
    | .ok _ => firstValid task rest

/-- The keyword `anyOf`: some branch. -/
def anyOfOutcome : Rule := fun task value =>
  match value.items? with
  | none => .stopped .wrongKind
  | some branches =>
    .ofExcept (firstValid task branches) fun found =>
      .require "anyOf" found.isSome (Wording.noBranch task.data)

/-- The keyword `not`: a schema that does not allow the value. -/
def notOutcome : Rule := fun task value =>
  .ofExcept (task.allows value) fun allowed =>
    .require "not" (!allowed) (Wording.forbidden task.data value)

/-- The keyword `oneOf`: exactly one branch. -/
def oneOfOutcome : Rule := fun task value =>
  match value.items? with
  | none => .stopped .wrongKind
  | some branches =>
    .ofExcept (firstValid task branches) fun
      | none => .violated "oneOf" (Wording.noBranch task.data)
      | some (first, rest) =>
        .ofExcept (rest.filterM task.allows) fun others =>
          .require "oneOf" others.isEmpty (Wording.severalBranches task.data (others ++ [first]))

/-! ## Conditions -/

/-- The schema under a keyword beside this one, if it is there. -/
def beside (task : Task) (keyword : String) : Outcome :=
  match Entries.find? task.entries keyword with
  | some schema => task.descend schema [] [.key (.text keyword)]
  | none => .valid

/-- The keyword `if`: what is under `then` counts for the values that its schema allows, and what is
under `else` for all others. -/
def ifOutcome : Rule := fun task value =>
  .ofExcept (task.allows value) fun allowed => beside task (if allowed then "then" else "else")

/-! ## Types that may be schemas -/

/-- The value is of one of the types that are given, each by its name or by a schema. -/
def isOfSome (task : Task) : List Datum → Except Fault Bool
  | [] => .ok false
  | .text "any" :: _ => .ok true
  | .object entries :: rest => do
    if (← task.listing (.object entries)).isEmpty then return true else isOfSome task rest
  | name :: rest => do
    if ← TypeName.isOf task.setting.rules name task.data then return true
    else isOfSome task rest

/-- What a type is called: the name that its schema has, if it is one and has a name. -/
def typeLabel : Datum → Datum
  | .object entries => (Entries.find? entries "name").getD (.object entries)
  | name => name

/-- The keyword `type` in draft 3: the value is of one of the types. -/
def ownTypeOutcome : Rule := fun task value =>
  match TypeName.names? value with
  | none => .stopped .wrongKind
  | some types =>
    .ofExcept (isOfSome task types) fun found =>
      .require "type" found (Wording.notOfType task.data (types.map typeLabel))

/-- The keyword `disallow`: the value is of none of the types. -/
def disallowOutcome : Rule := fun task value =>
  match TypeName.names? value with
  | none => .stopped .wrongKind
  | some types =>
    .each task.extent types fun type =>
      .ofExcept (isOfSome task [type]) fun found =>
        .require "disallow" (!found) (Wording.disallowed task.data type)

/-! ## References -/

/-- The keywords `$ref` and `$dynamicRef`: the schema that they lead to. -/
def referenceOutcome : Rule := fun task value =>
  .ofExcept (Reference.lead task.library task.setting.place value) task.follow

/-- The keyword `$recursiveRef`, which leads to the schema that it is a part of. -/
def recursiveOutcome : Rule := fun task _ =>
  .ofExcept (Reference.recursiveLead task.library task.setting.place) task.follow

end SchemaBridge.Schema
