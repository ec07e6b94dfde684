import SchemaBridge.Datum.Depth
import SchemaBridge.Fault
import SchemaBridge.Validation.Layout
import SchemaBridge.Validation.Uri

/-!
# Resources

A schema may have an identifier, which is relative to those of the schemas around it; it is then a
resource with an address of its own. It may also have anchors, which are names within a resource.
How a schema gives them depends on the dialect that it is read in.

`Catalog.add` lists the resources and the anchors in a schema. What stands in the place of a schema
without being one is a fault there.

* `identifier?_of_reference`: a reference has no identifier, where it stands alone.
-/

namespace SchemaBridge

/-- A schema, and the dialect that it is read in. -/
structure Resource where
  contents : Datum
  dialect : Dialect

/-- A name within a resource. A dynamic one may mean another place in another context. -/
structure Anchor where
  resource : Resource
  isDynamic : Bool := false

namespace Resource

/-! ## What a schema says of itself -/

/-- The first text occurs in the second. -/
def occursIn (part : List Char) : List Char → Bool
  | [] => part.isEmpty
  | c :: rest => part.isPrefixOf (c :: rest) || occursIn part rest

/-- The second value holds the first one: as a key, as an item, or as a part of a text. -/
def holds (item : Datum) : Datum → Except Fault Bool
  | .object entries => (item.key?.map (Entries.has entries)).elim (.error .wrongKind) .ok
  | .list items | .tuple items => .ok (items.any item.same)
  | .text value =>
    match item with
    | .text part => .ok (occursIn part.toList value.toList)
    | _ => .error .wrongKind
  | _ => .error .wrongKind

/-- The value holds a text. -/
def mentions (name : String) (value : Datum) : Except Fault Bool := holds (.text name) value

/-- What stands under a keyword of a schema, if it is not null. -/
def entry? (keyword : String) : Datum → Except Fault (Option Datum)
  | .object entries =>
    match Entries.find? entries keyword with
    | none | some .null => .ok none
    | value => .ok value
  | _ => .error .notASchema

/-- The text that an identifier is. -/
def idText? : Datum → Except Fault (List Char)
  | .text id => .ok id.toList
  | .bytes _ => .error .wrongKind
  | _ => .error .notASchema

/-- The identifier under a keyword, without the number signs at its end. Where `named` says so, one
that begins with a number sign is an anchor and no identifier. -/
def identifierUnder? (keyword : String) (named : Bool) (contents : Datum) :
    Except Fault (Option (List Char)) := do
  let some id ← entry? keyword contents | return none
  let text ← idText? id
  if named && text.head? = some '#' then return none
  return some (text.reverse.dropWhile (· == '#')).reverse

/-- The identifier of a schema. -/
def identifier? (resource : Resource) : Except Fault (Option (List Char)) :=
  match resource.dialect, resource.contents with
  | .draft3, contents | .draft4, contents => do
    if ← mentions "$ref" contents then return none
    identifierUnder? "id" true contents
  | _, .bool _ => .ok none
  | .draft6, contents | .draft7, contents => do
    if ← mentions "$ref" contents then return none
    identifierUnder? "$id" true contents
  | .draft2019, contents | .draft2020, contents => identifierUnder? "$id" false contents

/-- The anchor that an identifier is. -/
def anchorInIdentifier (keyword : String) (resource : Resource) (entries : Members) :
    Except Fault (List (Datum × Anchor)) :=
  match Entries.find? entries keyword with
  | none => .ok []
  | some id => (idText? id).map fun text =>
    match text with
    | '#' :: name => [(.text (String.ofList name), { resource })]
    | _ => []

/-- The anchor under a keyword. -/
def anchorUnder (keyword : String) (isDynamic : Bool) (resource : Resource) (entries : Members) :
    List (Datum × Anchor) :=
  match Entries.find? entries keyword with
  | none | some .null => []
  | some name => [(name, { resource, isDynamic })]

/-- The anchors that a schema gives, by name. -/
def anchors (resource : Resource) : Except Fault (List (Datum × Anchor)) :=
  match resource.dialect, resource.contents with
  | .draft3, .object entries | .draft4, .object entries =>
    anchorInIdentifier "id" resource entries
  | .draft6, .object entries | .draft7, .object entries =>
    anchorInIdentifier "$id" resource entries
  | .draft2019, .object entries => .ok (anchorUnder "$anchor" false resource entries)
  | .draft2020, .object entries =>
    .ok (anchorUnder "$anchor" false resource entries
      ++ anchorUnder "$dynamicAnchor" true resource entries)
  | .draft6, .bool _ | .draft7, .bool _ | .draft2019, .bool _ | .draft2020, .bool _ => .ok []
  | _, _ => .error .notASchema

/-- What was read from a text that should be a URI. -/
def readable {α : Type} (read : Option α) : Except Fault α := read.elim (.error .notAUri) .ok

/-- The address of a schema that stands in a resource with the given address. -/
def addressFrom (outer : List Char) (resource : Resource) : Except Fault (List Char) := do
  (← resource.identifier?).elim (.ok outer) fun id => readable (Uri.join? outer id)

/-! ## The dialect that a schema gives -/

/-- The dialect that a value identifies, whatever way its URI is written. -/
def dialectOf? : Datum → Except Fault (Option Dialect)
  | .text text =>
    (readable (Uri.parse? text.toList)).map fun uri =>
      Dialect.ofIdentifier? (String.ofList uri.written)
  | .bytes bytes =>
    if bytes.all (· < 128) then
      (readable (Uri.parse? (bytes.map fun byte => Char.ofNat byte.toNat))).map fun _ => none
    else .error .notAscii
  | value =>
    if !value.isFixed then .error .wrongKind
    else if value.isTruthy then .error .notASchema
    else .ok none

/-- The dialect that a schema gives for itself, if it is a known one. -/
def given? : Datum → Except Fault (Option Dialect)
  | .bool _ => .ok none
  | .object entries => ((Entries.find? entries "$schema").map dialectOf?).getD (.ok none)
  | schema => do if ← mentions "$schema" schema then throw .wrongKind else return none

/-- A schema that stands in another one, as a resource: in the dialect that it identifies to the
letter, or else in that of the schema around it. -/
def within (outer : Dialect) (contents : Datum) : Except Fault Resource :=
  match contents with
  | .object entries =>
    match Entries.find? entries "$schema" with
    | none | some .null => .ok ⟨contents, outer⟩
    | some id => (idText? id).map fun text =>
      let text := String.ofList (text.reverse.dropWhile (· == '#')).reverse
      ⟨contents, (Dialect.ofIdentifier? text).getD outer⟩
  | _ => .ok ⟨contents, outer⟩

/-! ## What stands in a schema -/

/-- The items under a keyword. -/
def itemsUnder (entries : Members) (keyword : String) : Except Fault (List Datum) :=
  match Entries.find? entries keyword with
  | none => .ok []
  | some value => value.items?.elim (.error .wrongKind) .ok

/-- The values of the object under a keyword. -/
def valuesUnder (entries : Members) (keyword : String) : Except Fault (List Datum) :=
  match Entries.find? entries keyword with
  | none => .ok []
  | some (.object inner) => .ok (inner.map (·.2))
  | some _ => .error .notASchema

/-- A value that is an object. -/
def isObject : Datum → Bool
  | .object _ => true
  | _ => false

/-- The schemas under `items`: one, or a sequence of them. -/
def itemSchemas (entries : Members) : List Datum :=
  match Entries.find? entries "items" with
  | none | some .null => []
  | some (.object inner) => [.object inner]
  | some value => value.items?.getD [value]

/-- The schemas under `dependencies`, where lists of names may stand in their place. -/
def dependencySchemas (entries : Members) : Except Fault (List Datum) :=
  match Entries.find? entries "dependencies" with
  | none | some .null => .ok []
  | some (.object inner) =>
    .ok (if (inner.head?.any fun entry => isObject entry.2) then inner.map (·.2) else [])
  | some _ => .error .notASchema

/-- The schemas that stand directly in an object. -/
def subschemas (layout : Layout) (entries : Members) : Except Fault (List Datum) := do
  let single := layout.single.filterMap fun (keyword : String) => Entries.find? entries keyword
  let listed ← layout.listed.mapM (itemsUnder entries)
  let named ← layout.named.mapM (valuesUnder entries)
  let items := if layout.variesItems then itemSchemas entries else []
  let dependent ← if layout.variesDependencies then dependencySchemas entries else .ok []
  let further := layout.optional.filterMap fun (keyword : String) =>
    (Entries.find? entries keyword).filter isObject
  return single ++ listed.flatten ++ named.flatten ++ items ++ dependent ++ further

/-- The resources that stand directly in a schema. -/
def parts (resource : Resource) : Except Fault (List Resource) :=
  match resource.contents with
  | .object entries => do
    (← subschemas (.ofDialect resource.dialect) entries).mapM (within resource.dialect)
  | _ => .ok []

theorem identifier?_of_reference {entries : Members} {dialect : Dialect}
    (h : dialect.refStandsAlone = true) (href : Entries.has entries "$ref" = true) :
    identifier? ⟨.object entries, dialect⟩ = .ok none := by
  cases dialect <;> simp [Dialect.refStandsAlone] at h <;>
    simp [identifier?, mentions, holds, Datum.key?, href, bind, Except.bind, pure, Except.pure]

end Resource

/-! ## Catalogs -/

/-- The resources by address, and the anchors by address and name. -/
structure Catalog where
  resources : Entries (List Char) Resource := []
  anchors : Entries (List Char × List Char) Anchor := []

namespace Catalog

/-- The catalog with the anchors of a resource. A name that is no text is never asked for, but it
has to be one that could be. -/
def addAnchors (catalog : Catalog) (address : List Char) (anchors : List (Datum × Anchor)) :
    Except Fault Catalog :=
  anchors.foldlM (fun catalog (name, anchor) =>
    match name with
    | .text name => .ok { catalog with
        anchors := Entries.insert catalog.anchors (address, name.toList) anchor }
    | name => if name.isFixed then .ok catalog else .error .wrongKind) catalog

/-- The catalog with what stands in a schema down to the given depth. -/
def addUpTo : Nat → List Char → Catalog → Resource → Except Fault Catalog
  | 0, _, catalog, _ => .ok catalog
  | depth + 1, outer, catalog, resource => do
    let id ← resource.identifier?
    let address ← id.elim (.ok outer) fun id => Resource.readable (Uri.join? outer id)
    let resources :=
      if id.isSome then Entries.insert catalog.resources address resource else catalog.resources
    let catalog ← addAnchors { catalog with resources } address (← resource.anchors)
    (← resource.parts).reverse.foldlM (addUpTo depth address) catalog

/-- The catalog with what stands in a schema. -/
def add (address : List Char) (catalog : Catalog) (resource : Resource) : Except Fault Catalog :=
  addUpTo resource.contents.depth address catalog resource

end Catalog

end SchemaBridge
