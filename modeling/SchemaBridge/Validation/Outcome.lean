import SchemaBridge.Fault
import SchemaBridge.Validation.Wording

/-!
# Outcomes of validation

A validation reports violations one after another until it is through, or until a fault ends it.
Whoever asks only whether a value is valid needs no more than the first violation, and whoever
lists them needs all of them; the `Extent` tells which.

* `andThen_all`: a full report goes on after violations.
* `each_cons`: going through a list is taking its first item and then the others.
-/

namespace SchemaBridge

/-- A step into a value or into a schema. -/
inductive PathStep where
  | key (key : Key)
  | index (position : Nat)

/-- What is wrong with a value. -/
structure Violation where
  /-- The keyword that is violated; a schema that allows nothing has none. -/
  keyword : Option String
  /-- What is said of it. -/
  message : String
  /-- Where the value stands in the validated data. -/
  path : List PathStep
  /-- Where the keyword stands in the schema. -/
  schemaPath : List PathStep

/-- How much of a report is wanted. -/
inductive Extent where
  /-- The first violation, for whoever asks whether a value is valid. -/
  | first
  /-- The first violation, for a keyword that tries a schema. -/
  | trial
  | all
deriving DecidableEq

/-- The first violation is enough. -/
def Extent.isBrief : Extent → Bool
  | first | trial => true
  | all => false

/-- The violations reported, and the fault that ended the report. -/
structure Outcome where
  violations : List Violation
  fault : Option Fault

namespace Outcome

/-- Nothing is wrong. -/
def valid : Outcome := ⟨[], none⟩

/-- A fault before any violation. -/
def stopped (fault : Fault) : Outcome := ⟨[], some fault⟩

/-- A schema that allows nothing. -/
def refused (data : Datum) : Outcome := ⟨[⟨none, Wording.refused data, [], []⟩], none⟩

/-- One violation of a keyword, here. -/
def violated (keyword message : String) : Outcome := ⟨[⟨some keyword, message, [], []⟩], none⟩

/-- A violation unless the condition holds. -/
@[macro_inline] def require (keyword : String) (holds : Bool) (message : String) : Outcome :=
  if holds then valid else violated keyword message

/-- The outcome that a result leads to, or its fault. -/
def ofExcept {α : Type} (result : Except Fault α) (next : α → Outcome) : Outcome :=
  match result with
  | .ok value => next value
  | .error fault => stopped fault

/-- A report and the one after it, which is only made if the first one leaves it to be wanted. -/
def andThen (extent : Extent) (first : Outcome) (next : Unit → Outcome) : Outcome :=
  if first.fault.isSome || (extent.isBrief && !first.violations.isEmpty) then first
  else
    let second := next ()
    ⟨first.violations ++ second.violations, second.fault⟩

/-- The reports on the items of a list. -/
def each {α : Type} (extent : Extent) (items : List α) (report : α → Outcome) : Outcome :=
  match items with
  | [] => valid
  | item :: rest => andThen extent (report item) fun _ => each extent rest report

/-- The report on a part of a value, seen from the whole: the steps into the data and into the
schema that lead to it. -/
def inside (path schemaPath : List PathStep) (outcome : Outcome) : Outcome :=
  { outcome with violations := outcome.violations.map fun violation =>
      { violation with
        path := path ++ violation.path
        schemaPath := schemaPath ++ violation.schemaPath } }

/-- Whether the value is valid: it is not if there is a violation, even with a fault after it. -/
def verdict (outcome : Outcome) : Except Fault Bool :=
  if outcome.violations.isEmpty then
    match outcome.fault with
    | none => .ok true
    | some fault => .error fault
  else .ok false

/-- All violations, unless a fault ended the report. -/
def listing (outcome : Outcome) : Except Fault (List Violation) :=
  match outcome.fault with
  | none => .ok outcome.violations
  | some fault => .error fault

theorem andThen_all {first : Outcome} {next : Unit → Outcome} (h : first.fault = none) :
    andThen .all first next
      = ⟨first.violations ++ (next ()).violations, (next ()).fault⟩ := by
  simp [andThen, h, Extent.isBrief]

theorem each_cons {α : Type} (extent : Extent) (item : α) (rest : List α)
    (report : α → Outcome) :
    each extent (item :: rest) report
      = andThen extent (report item) fun _ => each extent rest report := rfl

end Outcome

end SchemaBridge
