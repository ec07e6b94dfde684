import SchemaBridge.Sorting
import SchemaBridge.Validation.Assertion
import SchemaBridge.Validation.Task

/-!
# Keywords about entries

Keywords that apply schemas to the entries of an object, by key, by an expression for keys, or to
those that are left. Others ask for entries because of others that are there.
-/

namespace SchemaBridge.Schema

/-- The keyword `properties` since draft 4: the schema of each property at the entry of that name,
if there is one. -/
def propertiesOutcome : Rule := fun task value =>
  match task.data with
  | .object entries =>
    match value with
    | .object properties =>
      .each task.extent properties fun (name, schema) =>
        match Entries.find? entries name with
        | none => .valid
        | some entry => (task.into entry).descend schema [.key name] [.key name]
    | _ => .stopped .notASchema
  | _ => .valid

/-- A property that is not there, in draft 3, where its own schema tells if it has to be. -/
def absentProperty (name : Key) (schema : Datum) : Outcome :=
  match schema with
  | .object entries =>
    if isSet entries "required" then
      (Outcome.violated "required" (Wording.required (.ofKey name))).inside
        [.key (.text "required")] []
    else .valid
  | _ => .stopped .notASchema

/-- The keyword `properties` in draft 3. -/
def ownPropertiesOutcome : Rule := fun task value =>
  match task.data with
  | .object entries =>
    match value with
    | .object properties =>
      .each task.extent properties fun (name, schema) =>
        match Entries.find? entries name with
        | none => absentProperty name schema
        | some entry => (task.into entry).descend schema [.key name] [.key name]
    | _ => .stopped .notASchema
  | _ => .valid

/-- The keyword `propertyNames`: a schema of all keys. -/
def propertyNamesOutcome : Rule := fun task value =>
  match task.data with
  | .object entries =>
    .each task.extent entries fun (key, _) => (task.into (.ofKey key)).descend value [] []
  | _ => .valid

/-- The keyword `patternProperties`: for each expression, a schema of the entries with keys in which
it is found. -/
def patternPropertiesOutcome : Rule := fun task value =>
  match task.data with
  | .object entries =>
    match value with
    | .object patterns =>
      .each task.extent patterns fun (pattern, schema) =>
        .each task.extent entries fun (key, entry) =>
          .ofExcept (matchesPart (.ofKey pattern) (.ofKey key)) fun found =>
            if found then (task.into entry).descend schema [.key key] [.key pattern]
            else .valid
    | _ => .stopped .notASchema
  | _ => .valid

/-- One expression for all those that the schema has under `patternProperties`. -/
def jointPattern (entries : Members) : Except Fault String :=
  match Entries.find? entries "patternProperties" with
  | none => .ok ""
  | some value =>
    (value.items?.bind (·.mapM Datum.text?)).elim (.error .wrongKind) fun patterns =>
      .ok ("|".intercalate patterns)

/-- The entry is none of those that the schema speaks of by key or by expression. -/
def isFurther (properties : Datum) (pattern : String) (key : Key) : Except Fault Bool := do
  if ← Resource.holds (.ofKey key) properties then return false
  else if pattern.isEmpty then return true
  else return !(← matchesPart (.text pattern) (.ofKey key))

/-- The entries of a value that the schema speaks of neither by key nor by expression. -/
def furtherEntries (entries data : Members) : Except Fault Members := do
  let pattern ← jointPattern entries
  let properties := (Entries.find? entries "properties").getD (.object [])
  data.filterM fun entry => isFurther properties pattern entry.1

/-- The keys of entries. -/
def keysOf (entries : Members) : List Datum := (Entries.keys entries).map .ofKey

/-- Values in order, if they can be put in order. -/
def inOrder? (values : List Datum) : Option (List Datum) := Sorting.sort? Datum.before? values

/-- A key as a text by which keys are put in order. -/
def label : Datum → String
  | .text name => name
  | key => key.written

/-- Keys in the order of their labels. -/
def byLabel (keys : List Datum) : List Datum :=
  keys.mergeSort fun first second => !decide (label second < label first)

/-- The report on further entries that are not allowed, which names them in order. -/
def furtherRefused (task : Task) (further : Members) : Outcome :=
  match Entries.find? task.entries "patternProperties" with
  | none =>
    .violated "additionalProperties"
      (Wording.unexpected "Additional properties" (byLabel (keysOf further)))
  | some patterns =>
    match inOrder? (keysOf further), patterns.items?.bind inOrder? with
    | some keys, some patterns =>
      .violated "additionalProperties" (Wording.unmatched keys patterns)
    | _, _ => .stopped .wrongKind

/-- The keyword `additionalProperties`: one schema for all further entries, or none of them. -/
def additionalPropertiesOutcome : Rule := fun task value =>
  match task.data with
  | .object members =>
    .ofExcept (furtherEntries task.entries members) fun further =>
      match value with
      | .object _ =>
        .each task.extent further fun (key, entry) =>
          (task.into entry).descend value [.key key] []
      | _ =>
        if value.isTruthy || further.isEmpty then .valid else furtherRefused task further
  | _ => .valid

/-- Each of the values under the keys of an object that the data have too. -/
def onPresent (task : Task) (value : Datum) (report : Members → Key → Datum → Outcome) :
    Outcome :=
  match task.data with
  | .object entries =>
    match value with
    | .object dependencies =>
      .each task.extent dependencies fun (key, dependency) =>
        if Entries.has entries key then report entries key dependency else .valid
    | _ => .stopped .notASchema
  | _ => .valid

/-- The keyword `dependencies` since draft 4: what an object with an entry of some key needs, given
by the keys of further entries or by a schema. -/
def dependenciesOutcome : Rule := fun task value =>
  onPresent task value fun entries key dependency =>
    match dependency with
    | .list names =>
      .each task.extent names (requiredName "dependencies" (Wording.dependent key) entries)
    | schema => task.descend schema [] [.key key]

/-- The keyword `dependencies` in draft 3, where one key may stand for a list of them. -/
def ownDependenciesOutcome : Rule := fun task value =>
  onPresent task value fun entries key dependency =>
    match dependency with
    | .object _ => task.descend dependency [] [.key key]
    | .text _ => requiredName "dependencies" (Wording.dependent key) entries dependency
    | names => requiredNames "dependencies" (Wording.dependent key) task.extent entries names

/-- The keyword `dependentRequired`: the keys that an object with an entry of some key needs. -/
def dependentRequiredOutcome : Rule := fun task value =>
  onPresent task value fun entries key names =>
    requiredNames "dependentRequired" (Wording.dependent key) task.extent entries names

/-- The keyword `dependentSchemas`: the schema of an object with an entry of some key. -/
def dependentSchemasOutcome : Rule := fun task value =>
  onPresent task value fun _ key schema => task.descend schema [] [.key key]

end SchemaBridge.Schema
