import SchemaBridge.Validation.Metaschema

/-!
# Libraries

The resources that references can lead to. At the beginning there are the whole schema and the
metaschemas. What stands in the whole schema is found when it is explored, which happens when
something is looked for that is not there; from then on, what was found counts.

* `look_of_start`: what is there at the beginning needs no exploring.
* `find?_address`: the whole schema is there from the beginning.
-/

namespace SchemaBridge

/-- What is there before the whole schema is explored. Whatever it says, as a whole it is read in
draft 4. -/
def Catalog.start (address : List Char) (root : Datum) : Catalog where
  resources := (address, ⟨root, .draft4⟩) :: Metaschema.catalog.resources
  anchors := Metaschema.catalog.anchors

/-- What is there after it. -/
def Catalog.explored (address : List Char) (root : Datum) : Except Fault Catalog :=
  Catalog.add address (.start address root) ⟨root, .draft4⟩

/-- A schema that is a whole, its address, and what is in it. -/
structure Library where
  root : Datum
  address : List Char
  explored : Except Fault Catalog := Catalog.explored address root

namespace Library

/-- The library of a schema. -/
def ofRoot (root : Datum) : Except Fault Library :=
  (Resource.identifier? ⟨root, .draft4⟩).map fun id => { root, address := id.getD [] }

/-- What is there, before the whole schema is explored or after it. -/
def catalog (library : Library) (isExplored : Bool) : Except Fault Catalog :=
  if isExplored then library.explored else .ok (.start library.address library.root)

/-- Something in the catalog, for which the whole schema is explored if need be. It is told whether
that has been done. -/
def look {α : Type} (library : Library) (isExplored : Bool) (find? : Catalog → Option α) :
    Except Fault (Option α × Bool) := do
  match find? (← library.catalog isExplored) with
  | some found => return (some found, isExplored)
  | none => return (find? (← library.explored), true)

/-- The resource at an address. -/
def resource? (library : Library) (isExplored : Bool) (address : List Char) :
    Except Fault (Option Resource × Bool) :=
  library.look isExplored (Entries.find? ·.resources address)

/-- The anchor of a resource; the resource may also be known under its identifier. It has to be
there at all. -/
def anchor? (library : Library) (isExplored : Bool) (address name : List Char) :
    Except Fault (Option Anchor × Bool) := do
  let (anchor, nowExplored) ←
    library.look isExplored (Entries.find? ·.anchors (address, name))
  if anchor.isSome then return (anchor, nowExplored)
  let some resource := Entries.find? (← library.catalog isExplored).resources address
    | throw .notInLibrary
  let id ← resource.identifier?
  let found := (← library.explored).anchors
  return (id.bind fun id => Entries.find? found (id, name), true)

theorem look_of_start {α : Type} (library : Library) {find? : Catalog → Option α} {found : α}
    (h : find? (.start library.address library.root) = some found) :
    library.look false find? = .ok (some found, false) := by
  simp [look, catalog, h, bind, Except.bind, pure, Except.pure]

theorem find?_address (library : Library) :
    library.resource? false library.address = .ok (some ⟨library.root, .draft4⟩, false) :=
  library.look_of_start (by rw [Catalog.start, Entries.find?, if_pos (beq_self_eq_true _)])

end Library

end SchemaBridge
