import SchemaBridge.Validation.Metaschema.Draft2019
import SchemaBridge.Validation.Metaschema.Draft2020
import SchemaBridge.Validation.Metaschema.Draft3
import SchemaBridge.Validation.Metaschema.Draft4
import SchemaBridge.Validation.Metaschema.Draft6
import SchemaBridge.Validation.Metaschema.Draft7

/-!
# Metaschemas

The schemas of the dialects themselves. They are known in every library, each at the address that it
gives for itself, so that a reference may lead to them, or into them.

* `exists_identifier`: each of them says where it is.
-/

namespace SchemaBridge.Metaschema

/-- The metaschemas of all dialects. -/
def all : List Resource :=
  [⟨Draft3.schema, .draft3⟩, ⟨Draft4.schema, .draft4⟩, ⟨Draft6.schema, .draft6⟩,
   ⟨Draft7.schema, .draft7⟩]
    ++ Draft2019.schemas.map (⟨·, .draft2019⟩) ++ Draft2020.schemas.map (⟨·, .draft2020⟩)

/-- The catalog of what is in the metaschemas. -/
def catalog : Catalog := ((all.foldlM (Catalog.add []) {}).toOption).getD {}

/-- The number of parts of all metaschemas. -/
def size : Nat := all.foldl (fun total resource => total + resource.contents.size) 0

/-- The depth of the deepest metaschema. -/
def depth : Nat := ((all.map fun resource => resource.contents.depth).max?).getD 0

theorem exists_identifier : ∀ resource ∈ all,
    ∃ address, resource.identifier? = .ok (some address) := by
  simp only [all, Draft2019.schemas, Draft2020.schemas, List.map_cons, List.map_nil,
    List.cons_append, List.nil_append, List.forall_mem_cons]
  and_intros
  all_goals first | exact ⟨_, rfl⟩ | exact fun _ h => absurd h List.not_mem_nil

end SchemaBridge.Metaschema
