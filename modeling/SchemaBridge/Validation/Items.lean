import SchemaBridge.Validation.Assertion
import SchemaBridge.Validation.Task

/-!
# Keywords about items

Keywords that apply schemas to the items of a list. The earlier dialects have one keyword for a
schema of all items and for a sequence of schemas of the first ones; the last one has two. Lists
alone have items.
-/

namespace SchemaBridge.Schema

/-- One schema for all items from a position on. -/
def itemsFrom (task : Task) (start : Nat) (schema : Datum) (items : List Datum) : Outcome :=
  .each task.extent (items.zipIdx.drop start) fun (item, position) =>
    (task.into item).descend schema [.index position] []

/-- One schema for each of the first items. -/
def itemsByPosition (task : Task) (schemas items : List Datum) : Outcome :=
  .each task.extent (items.zip schemas).zipIdx fun ((item, schema), position) =>
    (task.into item).descend schema [.index position] [.index position]

/-- The keyword `items` up to draft 4: one schema for all items of a list, or one for each of the
first ones. -/
def itemsOutcome : Rule := fun task value =>
  match task.data with
  | .list items =>
    match value with
    | .object _ => itemsFrom task 0 value items
    | _ =>
      match value.items? with
      | some schemas => itemsByPosition task schemas items
      | none => .stopped .wrongKind
  | _ => .valid

/-- The keyword `items` up to the draft of 2019, where a schema may be a boolean. -/
def boolItemsOutcome : Rule := fun task value =>
  match task.data with
  | .list items =>
    match value with
    | .list schemas => itemsByPosition task schemas items
    | schema => itemsFrom task 0 schema items
  | _ => .valid

/-- The number of the first items that have schemas of their own. -/
def prefixLength (entries : Members) : Except Fault Nat :=
  (Resource.itemsUnder entries "prefixItems").map List.length

/-- The keyword `items` of the draft of 2020: one schema for all items after the first ones. If it
allows none, there is one violation for all of them. -/
def furtherItemsOutcome : Rule := fun task value =>
  match task.data with
  | .list items =>
    .ofExcept (prefixLength task.entries) fun start =>
      match value with
      | .bool false =>
        .require "items" (items.length ≤ start) (Wording.surplus start (items.drop start))
      | schema => itemsFrom task start schema items
  | _ => .valid

/-- The keyword `prefixItems`: one schema for each of the first items. -/
def prefixItemsOutcome : Rule := fun task value =>
  match task.data with
  | .list items =>
    match value.items? with
    | some schemas => itemsByPosition task schemas items
    | none => .stopped .wrongKind
  | _ => .valid

/-- The keyword `additionalItems`: one schema for all items after those that have schemas of their
own, or none of them. -/
def additionalItemsOutcome : Rule := fun task value =>
  match task.data with
  | .list items =>
    match Entries.find? task.entries "items" with
    | none | some (.object _) => .valid
    | some schemas =>
      match schemas.items? with
      | none => .stopped .wrongKind
      | some schemas =>
        match value with
        | .object _ => itemsFrom task schemas.length value items
        | _ =>
          .require "additionalItems" (value.isTruthy || items.length ≤ schemas.length)
            (Wording.unexpected "Additional items" (items.drop schemas.length))
  | _ => .valid

/-- Whether a schema allows some item; those after the first one are not asked. -/
def allowsSome (task : Task) (schema : Datum) : List Datum → Except Fault Bool
  | [] => .ok false
  | item :: rest => do
    if ← (task.into item).allows schema then return true
    else allowsSome task schema rest

/-- The keyword `contains` in drafts 6 and 7: a schema that allows some item. -/
def containsOutcome : Rule := fun task value =>
  match task.data with
  | .list items =>
    .ofExcept (allowsSome task value items) fun found =>
      .require "contains" found (Wording.noneContained task.data)
  | _ => .valid

/-- A number of items is below a limit. -/
def isBelow (count : Nat) (limit : Datum) : Except Fault Bool :=
  limit.asNumber?.elim (.error .wrongKind) fun limit => .ok (Number.less (.int count) limit)

/-- A number of items is above a limit. -/
def isAbove (count : Nat) (limit : Datum) : Except Fault Bool :=
  limit.asNumber?.elim (.error .wrongKind) fun limit => .ok (limit.less (.int count))

/-- How many items a schema allows, beyond those counted before; nothing if they are more than
`most`. -/
def countAllowed (task : Task) (schema most : Datum) :
    Nat → List Datum → Except Fault (Option Nat)
  | counted, [] => .ok (some counted)
  | counted, item :: rest => do
    if ← (task.into item).allows schema then
      if ← isAbove (counted + 1) most then return none
      else countAllowed task schema most (counted + 1) rest
    else countAllowed task schema most counted rest

/-- The keyword `contains` since the draft of 2019: a schema that allows some items, not less than
`minContains` and not more than `maxContains` if they are there. -/
def countedContainsOutcome : Rule := fun task value =>
  match task.data with
  | .list items =>
    let least := (Entries.find? task.entries "minContains").getD (.int 1)
    let most := (Entries.find? task.entries "maxContains").getD (.int items.length)
    .ofExcept (task.setting.branch value) fun _ =>
      .ofExcept (countAllowed task value most 0 items) fun
        | none => .violated "maxContains" (Wording.tooManyContained most)
        | some counted =>
          .ofExcept (isBelow counted least) fun tooFew =>
            if !tooFew then .valid
            else if counted = 0 then .violated "contains" (Wording.notContained task.data)
            else .violated "minContains" (Wording.tooFewContained least counted)
  | _ => .valid

end SchemaBridge.Schema
