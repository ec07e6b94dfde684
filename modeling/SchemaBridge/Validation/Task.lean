import SchemaBridge.Validation.Setting

/-!
# Tasks

What a keyword has at hand when it is applied: the schema that it stands in, the value that the
schema is applied to, and a way of applying other schemas.
-/

namespace SchemaBridge

/-- The circumstances in which a keyword is applied. -/
structure Task where
  /-- The schemas to which references can lead. -/
  library : Library
  /-- The way of applying other schemas. -/
  next : Applier
  /-- A bound on the steps from one schema to the next that are left. -/
  budget : Nat
  extent : Extent
  setting : Setting
  /-- The entries of the schema that the keyword stands in. -/
  entries : Members
  /-- The value that the schema is applied to. -/
  data : Datum

/-- What a keyword says of a value, given its own value in the schema. -/
abbrev Rule := Task → Datum → Outcome

namespace Task

/-- The task for a part of the value. -/
def into (task : Task) (data : Datum) : Task := { task with setting := task.setting.step, data }

/-- A part of the schema applied to the value; the steps lead there from the keyword. A schema that
allows nothing says so where the keyword stands. -/
def descend (task : Task) (schema : Datum) (path schemaPath : List PathStep) : Outcome :=
  match schema with
  | .bool true => .valid
  | .bool false => .refused task.data
  | schema =>
    .ofExcept (task.setting.enter schema) fun setting =>
      (task.next task.extent setting schema task.data).inside path schemaPath

/-- All violations of a part of the schema. -/
def listing (task : Task) (schema : Datum) : Except Fault (List Violation) :=
  ({ task with extent := .all }.descend schema [] []).listing

/-- A part of the schema allows the value, as far as its first violation. -/
def verdict (task : Task) (schema : Datum) : Except Fault Bool :=
  ({ task with extent := .trial }.descend schema [] []).verdict

/-- A schema that is tried for itself allows the value, as far as its first violation. -/
def allows (task : Task) (schema : Datum) : Except Fault Bool := do
  (task.next .trial (← task.setting.branch schema) schema task.data).verdict

/-- What a reference leads to, applied to the value. -/
def follow (task : Task) (lead : Reference.Lead) : Outcome :=
  match lead.target.contents with
  | .bool true => .valid
  | .bool false => .refused task.data
  | schema =>
    .ofExcept (task.setting.follow task.extent.purpose lead) fun setting =>
      task.next task.extent setting schema task.data

end Task

end SchemaBridge
