import SchemaBridge.Number.Numeral
import SchemaBridge.Text.Percent
import SchemaBridge.Validation.Library

/-!
# References

A reference is a URI. Without its fragment it gives the address of a resource, where none means the
resource that the reference stands in; the fragment is an anchor or a pointer. A pointer leads
through the resource segment by segment: percent encoding, and a tilde with a zero or a one, stand
for characters that it cannot hold. On its way it takes up the identifiers of the schemas that it
goes through.

A dynamic anchor, and a reference to whatever is recursive, depend on the resources that were passed
through before: the outermost one counts that has such an anchor.
-/

namespace SchemaBridge

namespace Reference

/-! ## Pointers -/

/-- A segment of a pointer without its escapes: `~1` is a slash, and after that `~0` a tilde. -/
def unescape : List Char → List Char
  | [] => []
  | '~' :: '1' :: rest => '/' :: unescape rest
  | '~' :: '0' :: rest => '~' :: unescape rest
  | c :: rest => c :: unescape rest

/-- The item at a position, which is counted from the end if it is negative. -/
def itemAt? (items : List Datum) (position : Int) : Option Datum :=
  let counted := if position < 0 then position + items.length else position
  if counted < 0 then none else items[counted.toNat]?

/-- What a segment leads to, if there is anything. -/
def step (contents : Datum) (segment : List Char) : Except Fault (Option Datum) :=
  match contents with
  | .object entries => .ok (Entries.find? entries (String.ofList (unescape segment)))
  | contents =>
    match contents.items? with
    | none => .error .wrongKind
    | some items =>
      match Numeral.readInt? (String.ofList segment) with
      | some position => .ok (itemAt? items position)
      | none => .error (.noPosition (String.ofList segment))

/-- Where a schema stands: the address to which references are relative, and the addresses that were
passed through before, the last one first. -/
structure Place where
  base : List Char
  passed : List (List Char) := []
  /-- The whole schema has been explored. -/
  isExplored : Bool := false
deriving DecidableEq

/-- The place at another address. The one before counts as passed through, unless it is none or the
same again. -/
def Place.moveTo (place : Place) (address : List Char) (isExplored : Bool) : Place where
  base := address
  passed :=
    if !place.base.isEmpty && (place.passed.isEmpty || address ≠ place.base) then
      place.base :: place.passed
    else place.passed
  isExplored

/-- The place inside of a resource, whose identifier is taken up. -/
def Place.inside (place : Place) (resource : Resource) : Except Fault Place := do
  return { place with base := ← resource.addressFrom place.base }

/-- Something that a reference can lead to, and where it stands. -/
structure Target where
  contents : Datum
  place : Place

/-- The target of the segments of a pointer in a resource of a dialect; `since` are those since the
last schema that has an identifier. -/
def walk (dialect : Dialect) (since : List String) (start : Target) :
    List (List Char) → Except Fault (Option Target)
  | [] => .ok (some start)
  | segment :: rest => do
    let some contents ← step start.contents segment | return none
    let since := since ++ [String.ofList (unescape segment)]
    if (Layout.ofDialect dialect).isPlace (Resource.isObject contents) since then
      match ← Resource.identifier? ⟨contents, dialect⟩ with
      | some id =>
        let base ← Resource.readable (Uri.join? start.place.base id)
        walk dialect [] { contents, place := { start.place with base } } rest
      | none => walk dialect since { start with contents } rest
    else walk dialect since { start with contents } rest

/-! ## Addresses -/

/-- The address of a reference, and its fragment. -/
def parts (base reference : List Char) : Except Fault (List Char × List Char) :=
  match reference with
  | '#' :: fragment => .ok (base, fragment)
  | _ => Resource.readable (Uri.join? base reference >>= Uri.defragmented?)

/-- The outermost of the resources passed through that has a dynamic anchor of the given name, or
else the one at hand. A name with a slash has to be an anchor in all of them. -/
def outermost (library : Library) (isExplored : Bool) (name : List Char) (here : Resource) :
    List (List Char) → Except Fault Resource
  | [] => .ok here
  | address :: before => do
    match (← library.anchor? isExplored address name).1 with
    | some ⟨resource, true⟩ => outermost library isExplored name resource before
    | some ⟨_, false⟩ => outermost library isExplored name here before
    | none =>
      if name.contains '/' then throw (.unresolved (.text (String.ofList name)))
      else outermost library isExplored name here before

/-- The target of an anchor in the resource at a place. -/
def anchored (library : Library) (place : Place) (name : List Char) (anchor : Anchor) :
    Except Fault Target := do
  if anchor.isDynamic then
    let resource ← outermost library place.isExplored name anchor.resource place.passed
    return { contents := resource.contents, place := ← place.inside resource }
  else return { contents := anchor.resource.contents, place }

/-- The target of a reference with the given address and fragment, if there is one. -/
def target? (library : Library) (place : Place) (address fragment : List Char) :
    Except Fault (Option Target) := do
  let (resource, isExplored) ← library.resource? place.isExplored address
  let some resource := resource | return none
  let place := place.moveTo address isExplored
  match fragment with
  | [] => return some { contents := resource.contents, place }
  | '/' :: pointer =>
    walk resource.dialect [] { contents := resource.contents, place }
      (Text.parts '/' (Text.percentDecoded pointer))
  | name =>
    let (anchor, isExplored) ← library.anchor? isExplored address name
    let some anchor := anchor | return none
    return some (← anchored library { place with isExplored } name anchor)

/-- The contents of a resource that is marked as recursive. -/
def isRecursive : Datum → Bool
  | .object entries => (Entries.find? entries "$recursiveAnchor").any Datum.isTruthy
  | _ => false

/-- The target of a reference from a place. -/
def lookup? (library : Library) (place : Place) (reference : List Char) :
    Except Fault (Option Target) := do
  let (address, fragment) ← parts place.base reference
  target? library place address fragment

/-- The last of the resources passed through, each after the other, that are marked as recursive. -/
def outermostRecursive (library : Library) (place : Place) (here : Target) :
    List (List Char) → Except Fault (Option Target)
  | [] => .ok (some here)
  | address :: before => do
    let some next ← lookup? library place address | return none
    if isRecursive next.contents then outermostRecursive library place next before
    else return some here

/-- The target of a recursive reference: the resource around it, or the outermost one that it is a
part of, if it is marked as recursive. -/
def recursiveTarget? (library : Library) (place : Place) : Except Fault (Option Target) := do
  let some here ← lookup? library place ['#'] | return none
  if isRecursive here.contents then outermostRecursive library place here place.passed
  else return some here

/-! ## Leads -/

/-- What a reference says, and where it leads to. -/
structure Lead where
  address : List Char
  fragment : List Char
  target : Target

/-- The text of a reference. -/
def text : Datum → Except Fault (List Char)
  | .text reference => .ok reference.toList
  | .bytes _ => .error .wrongKind
  | _ => .error .notASchema

/-- Where a reference leads to, as it stands in a schema. -/
def lead (library : Library) (place : Place) (reference : Datum) : Except Fault Lead := do
  let (address, fragment) ← parts place.base (← text reference)
  match ← target? library place address fragment with
  | some target => return { address, fragment, target }
  | none => throw (.unresolved reference)

/-- Where a recursive reference leads to. -/
def recursiveLead (library : Library) (place : Place) : Except Fault Lead := do
  match ← recursiveTarget? library place with
  | some target => return { address := target.place.base, fragment := [], target }
  | none => throw (.unresolved (.text "#"))

end Reference

end SchemaBridge
