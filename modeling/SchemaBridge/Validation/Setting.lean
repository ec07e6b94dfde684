import SchemaBridge.Validation.Outcome
import SchemaBridge.Validation.Reference

/-!
# Settings

What goes on from one schema to the next while a schema is applied: the rules that it is read by,
the place where it stands, and the references that were followed since the last step into the data.

There are three ways on. A part of a schema has its own identifier and its own dialect
(`Setting.enter`). A schema that is tried for itself has its own dialect, but its identifier does
not count (`Setting.branch`). What a reference leads to stands elsewhere (`Setting.follow`).

* `isStuck_of_entered`: with nothing passed through, a reference cannot be followed twice.
-/

namespace SchemaBridge

/-- What a schema is applied for: a report, a trial, or to tell which items or which keys it
evaluates. -/
inductive Purpose where
  | report
  | trial
  | items
  | keys
deriving DecidableEq

/-- What a report of some extent is for. One that ends with its first violation follows the
references that a full one follows up to there, so the two count as one. A trial ends where either
of them may go on. -/
def Extent.purpose : Extent → Purpose
  | first | all => .report
  | trial => .trial

/-- A reference that was followed: where to, by which rules, and what for. -/
structure Visit where
  address : List Char
  fragment : List Char
  /-- The whole schema had been explored before. -/
  isExplored : Bool
  /-- The number of different addresses that had been passed through. -/
  scope : Nat
  rules : Rules
  purpose : Purpose
deriving DecidableEq

/-- The circumstances in which a part of a schema is applied. -/
structure Setting where
  /-- The rules by which the schema is read. -/
  rules : Rules := .registered
  /-- The place where it stands. -/
  place : Reference.Place
  /-- What stands beside a reference does not count. -/
  alone : Bool := true
  /-- The references followed since the last step into the data. -/
  entered : List Visit := []

namespace Setting

/-- The setting after a step into the data. -/
def step (setting : Setting) : Setting := { setting with entered := [] }

/-- The rules of a schema: those of the dialect that it gives, or else those around it. -/
def rulesOf (setting : Setting) (schema : Datum) : Except Fault Rules :=
  (Resource.given? schema).map fun given => given.elim setting.rules .plain

/-- The setting of a schema that is tried for itself. -/
def branch (setting : Setting) (schema : Datum) : Except Fault Setting :=
  (setting.rulesOf schema).map fun rules =>
    { setting with rules, alone := rules.dialect.refStandsAlone }

/-- The setting of a part of a schema. Whether a reference in it stands alone is a matter of the
rules around it. -/
def enter (setting : Setting) (schema : Datum) : Except Fault Setting := do
  let place ← setting.place.inside ⟨schema, setting.rules.dialect⟩
  let rules ← setting.rulesOf schema
  return { setting with rules, place, alone := setting.rules.dialect.refStandsAlone }

/-- A reference has been followed so often that it will be for ever. Where dynamic ones lead depends
on which of the addresses passed through was the first in a row, and so there may be a turn for each
of them. -/
def isStuck (setting : Setting) (visit : Visit) : Bool :=
  visit.scope < setting.entered.count visit

/-- The setting of what a reference leads to. -/
def follow (setting : Setting) (purpose : Purpose) (lead : Reference.Lead) :
    Except Fault Setting := do
  let visit := {
    address := lead.address
    fragment := lead.fragment
    isExplored := setting.place.isExplored
    scope := setting.place.passed.eraseDups.length
    rules := setting.rules
    purpose }
  if setting.isStuck visit then throw .endless
  let rules ← setting.rulesOf lead.target.contents
  return {
    rules
    place := lead.target.place
    alone := setting.rules.dialect.refStandsAlone
    entered := visit :: setting.entered }

theorem isStuck_of_entered {setting : Setting} {visit : Visit} (h : visit ∈ setting.entered)
    (hscope : visit.scope = 0) : setting.isStuck visit = true := by
  have hturns : 0 < setting.entered.count visit := List.count_pos_iff.mpr h
  simp only [isStuck, hscope, hturns, decide_true]

end Setting

/-- A way of applying a schema to a value. -/
abbrev Applier := Extent → Setting → Datum → Datum → Outcome

end SchemaBridge
