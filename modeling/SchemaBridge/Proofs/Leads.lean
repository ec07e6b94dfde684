import Mathlib
import SchemaBridge.Proofs.Parts
import SchemaBridge.Validation.Registry

/-!
# What references lead to

Whatever a reference leads to is a part of the whole schema or of a metaschema. No metaschema has
an entry for the keyword for formats of list items, so what stands under that keyword where a
reference leads to also stands under it somewhere in the whole schema.

* `Resource.parts_confinedTo`: schemas that stand in a schema are parts of it.
* `Catalog.IsConfined.add`: exploring a schema finds nothing but parts of it.
* `Library.isConfined_ofRoot`: the resources and anchors in a library.
* `Reference.lead_confinedTo`, `Reference.recursiveLead_confinedTo`: what references lead to.
-/

namespace SchemaBridge

open Datum

/-! ## Results that have a property -/

section

variable {ε α β : Type} {P : β → Prop}

theorem satisfiesM_ok {value : β} (h : P value) : SatisfiesM P (.ok value : Except ε β) := .pure h

theorem satisfiesM_error {fault : ε} : SatisfiesM P (.error fault : Except ε β) :=
  SatisfiesM_Except_eq.mpr fun _ h => by cases h

theorem satisfiesM_mapM {items : List α} {step : α → Except ε β}
    (h : ∀ item ∈ items, SatisfiesM P (step item)) :
    SatisfiesM (fun values => ∀ value ∈ values, P value) (items.mapM step) := by
  induction items with
  | nil => exact .pure fun _ hvalue => absurd hvalue List.not_mem_nil
  | cons item rest ih =>
    rw [List.mapM_cons]
    refine (h item List.mem_cons_self).bind fun value hvalue => ?_
    refine (ih fun item hitem => h item (List.mem_cons_of_mem _ hitem)).bind fun values hvalues => ?_
    exact .pure (List.forall_mem_cons.mpr ⟨hvalue, hvalues⟩)

theorem satisfiesM_map {α : Type} {result : Except ε α} {f : α → β}
    (h : SatisfiesM (fun value => P (f value)) result) : SatisfiesM P (result.map f) := by
  cases result with
  | error => exact satisfiesM_error
  | ok value => exact .pure (SatisfiesM_Except_eq.mp h value rfl)

end

variable {name : String} {whole : Datum} {entries : Members}

/-! ## Schemas in a schema -/

namespace Resource

theorem within_contents (outer : Dialect) (contents : Datum) :
    SatisfiesM (fun resource => resource.contents = contents) (within outer contents) := by
  unfold within
  split
  · split
    · exact .pure rfl
    · exact .pure rfl
    · exact satisfiesM_map (SatisfiesM_Except_eq.mpr fun _ _ => rfl)
  · exact .pure rfl

theorem itemsUnder_confinedTo (h : ConfinedTo name whole (.object entries)) (keyword : String) :
    SatisfiesM (fun items => ∀ item ∈ items, ConfinedTo name whole item)
      (itemsUnder entries keyword) := by
  unfold itemsUnder
  split
  · exact .pure fun _ hitem => absurd hitem List.not_mem_nil
  · next value hfind =>
    cases hitems : value.items? with
    | none => exact satisfiesM_error
    | some items => exact .pure ((h.find? hfind).items? hitems)

theorem valuesUnder_confinedTo (h : ConfinedTo name whole (.object entries)) (keyword : String) :
    SatisfiesM (fun values => ∀ value ∈ values, ConfinedTo name whole value)
      (valuesUnder entries keyword) := by
  unfold valuesUnder
  split
  · exact .pure fun _ hitem => absurd hitem List.not_mem_nil
  · next inner hfind =>
    exact .pure (List.forall_mem_map.mpr fun entry hmem => (h.find? hfind).entry hmem)
  · exact satisfiesM_error

theorem itemSchemas_confinedTo (h : ConfinedTo name whole (.object entries)) :
    ∀ schema ∈ itemSchemas entries, ConfinedTo name whole schema := by
  unfold itemSchemas
  split
  · exact fun _ hitem => absurd hitem List.not_mem_nil
  · exact fun _ hitem => absurd hitem List.not_mem_nil
  · next inner hfind => simpa using h.find? hfind
  · next value _ _ hfind =>
    cases hitems : value.items? with
    | none => simpa [hitems] using h.find? hfind
    | some items => simpa [hitems] using (h.find? hfind).items? hitems

theorem dependencySchemas_confinedTo (h : ConfinedTo name whole (.object entries)) :
    SatisfiesM (fun schemas => ∀ schema ∈ schemas, ConfinedTo name whole schema)
      (dependencySchemas entries) := by
  unfold dependencySchemas
  split
  · exact .pure fun _ hitem => absurd hitem List.not_mem_nil
  · exact .pure fun _ hitem => absurd hitem List.not_mem_nil
  · next inner hfind =>
    refine .pure ?_
    split
    · exact List.forall_mem_map.mpr fun entry hmem => (h.find? hfind).entry hmem
    · exact fun _ hitem => absurd hitem List.not_mem_nil
  · exact satisfiesM_error

theorem subschemas_confinedTo (h : ConfinedTo name whole (.object entries)) (layout : Layout) :
    SatisfiesM (fun schemas => ∀ schema ∈ schemas, ConfinedTo name whole schema)
      (subschemas layout entries) := by
  unfold subschemas
  refine (satisfiesM_mapM fun keyword _ => itemsUnder_confinedTo h keyword).bind
    fun listed hlisted => ?_
  refine (satisfiesM_mapM fun keyword _ => valuesUnder_confinedTo h keyword).bind
    fun named hnamed => ?_
  have hall (dependent : List Datum) (hdependent : ∀ schema ∈ dependent, ConfinedTo name whole schema) :
      ∀ schema ∈ layout.single.filterMap (fun (keyword : String) => Entries.find? entries keyword)
          ++ listed.flatten ++ named.flatten
          ++ (if layout.variesItems then itemSchemas entries else []) ++ dependent
          ++ layout.optional.filterMap fun (keyword : String) =>
            (Entries.find? entries keyword).filter isObject,
        ConfinedTo name whole schema := by
    intro schema hschema
    simp only [List.mem_append, List.mem_filterMap, List.mem_flatten] at hschema
    rcases hschema with ((((hsingle | hlist) | hname) | hitems) | hdepend) | hfurther
    · obtain ⟨keyword, -, hfind⟩ := hsingle
      exact h.find? hfind
    · obtain ⟨schemas, hschemas, hmem⟩ := hlist
      exact hlisted schemas hschemas schema hmem
    · obtain ⟨schemas, hschemas, hmem⟩ := hname
      exact hnamed schemas hschemas schema hmem
    · split at hitems
      · exact itemSchemas_confinedTo h schema hitems
      · exact absurd hitems List.not_mem_nil
    · exact hdependent schema hdepend
    · obtain ⟨keyword, -, hfind⟩ := hfurther
      exact h.find? (Option.filter_eq_some_iff.mp hfind).1
  cases layout.variesDependencies with
  | true =>
    refine (dependencySchemas_confinedTo h).bind fun dependent hdependent => ?_
    exact satisfiesM_ok (hall dependent hdependent)
  | false => exact satisfiesM_ok (hall [] fun _ hschema => absurd hschema List.not_mem_nil)

theorem parts_confinedTo {resource : Resource} (h : ConfinedTo name whole resource.contents) :
    SatisfiesM (fun parts => ∀ inner ∈ parts, ConfinedTo name whole inner.contents)
      resource.parts := by
  unfold parts
  split
  · next entries hcontents =>
    rw [hcontents] at h
    refine (subschemas_confinedTo h _).bind fun schemas hschemas => satisfiesM_mapM ?_
    intro schema hschema
    refine (within_contents _ schema).imp fun hcontents => ?_
    rw [hcontents]
    exact hschemas schema hschema
  · exact .pure fun _ hitem => absurd hitem List.not_mem_nil

theorem anchors_resource (resource : Resource) :
    SatisfiesM (fun anchors => ∀ named ∈ anchors, named.2.resource = resource)
      resource.anchors := by
  have hempty : SatisfiesM (fun anchors => ∀ named ∈ anchors, named.2.resource = resource)
      (.ok [] : Except Fault (List (Datum × Anchor))) :=
    .pure fun _ hitem => absurd hitem List.not_mem_nil
  have hidentifier (keyword : String) (entries : Members) :
      SatisfiesM (fun anchors => ∀ named ∈ anchors, named.2.resource = resource)
        (anchorInIdentifier keyword resource entries) := by
    unfold anchorInIdentifier
    split
    · exact hempty
    · refine satisfiesM_map (SatisfiesM_Except_eq.mpr fun _ _ => ?_)
      split <;> simp
  have hunder (keyword : String) (isDynamic : Bool) (entries : Members) :
      ∀ named ∈ anchorUnder keyword isDynamic resource entries, named.2.resource = resource := by
    unfold anchorUnder
    split <;> simp
  unfold anchors
  split
  · exact hidentifier "id" _
  · exact hidentifier "id" _
  · exact hidentifier "$id" _
  · exact hidentifier "$id" _
  · exact .pure (hunder _ _ _)
  · refine .pure fun named hnamed => ?_
    exact (List.mem_append.mp hnamed).elim (hunder _ _ _ named) (hunder _ _ _ named)
  all_goals first | exact hempty | exact satisfiesM_error

end Resource

/-! ## Catalogs -/

/-- Under the name, nothing stands in the resources of the catalog that does not in the whole. -/
structure Catalog.IsConfined (name : String) (whole : Datum) (catalog : Catalog) : Prop where
  resources : ∀ entry ∈ catalog.resources, ConfinedTo name whole entry.2.contents
  anchors : ∀ entry ∈ catalog.anchors, ConfinedTo name whole entry.2.resource.contents

namespace Catalog

variable {catalog : Catalog}

theorem isConfined_empty : ({} : Catalog).IsConfined name whole :=
  ⟨fun _ h => absurd h List.not_mem_nil, fun _ h => absurd h List.not_mem_nil⟩

theorem IsConfined.insertResource (h : catalog.IsConfined name whole) {resource : Resource}
    (hresource : ConfinedTo name whole resource.contents) (address : List Char) :
    IsConfined name whole
      { catalog with resources := Entries.insert catalog.resources address resource } := by
  refine ⟨fun entry hentry => ?_, h.anchors⟩
  rcases Entries.mem_insert hentry with hmem | ⟨hnew, -⟩
  · exact h.resources entry hmem
  · rw [hnew]
    exact hresource

theorem IsConfined.consResource (h : catalog.IsConfined name whole) {resource : Resource}
    (hresource : ConfinedTo name whole resource.contents) (address : List Char) :
    IsConfined name whole
      { catalog with resources := (address, resource) :: catalog.resources } :=
  ⟨List.forall_mem_cons.mpr ⟨hresource, h.resources⟩, h.anchors⟩

theorem IsConfined.addAnchors (h : catalog.IsConfined name whole) (address : List Char)
    {anchors : List (Datum × Anchor)}
    (hanchors : ∀ named ∈ anchors, ConfinedTo name whole named.2.resource.contents) :
    SatisfiesM (IsConfined name whole) (catalog.addAnchors address anchors) := by
  unfold Catalog.addAnchors
  refine List.satisfiesM_foldlM h fun catalog hcatalog named hnamed => ?_
  obtain ⟨key, anchor⟩ := named
  dsimp only
  split
  · refine satisfiesM_ok (IsConfined.mk hcatalog.resources fun entry hentry => ?_)
    rcases Entries.mem_insert hentry with hmem | ⟨hnew, -⟩
    · exact hcatalog.anchors entry hmem
    · rw [hnew]
      exact hanchors _ hnamed
  · split
    · exact .pure hcatalog
    · exact satisfiesM_error

theorem IsConfined.addUpTo (depth : Nat) (h : catalog.IsConfined name whole) {resource : Resource}
    (hresource : ConfinedTo name whole resource.contents) (outer : List Char) :
    SatisfiesM (IsConfined name whole) (Catalog.addUpTo depth outer catalog resource) := by
  induction depth generalizing catalog resource outer with
  | zero => exact .pure h
  | succ depth ih =>
    unfold Catalog.addUpTo
    refine SatisfiesM.trivial.bind fun id _ => ?_
    refine SatisfiesM.trivial.bind fun address _ => ?_
    have hresources : IsConfined name whole
        { catalog with resources :=
          if id.isSome then Entries.insert catalog.resources address resource
          else catalog.resources } := by
      split
      · exact h.insertResource hresource address
      · exact h
    refine (Resource.anchors_resource resource).bind fun anchors hanchors => ?_
    refine (hresources.addAnchors address fun named hnamed => ?_).bind fun catalog hcatalog => ?_
    · rw [hanchors named hnamed]
      exact hresource
    · refine (Resource.parts_confinedTo hresource).bind fun parts hparts => ?_
      refine List.satisfiesM_foldlM hcatalog fun catalog hcatalog inner hinner => ?_
      exact ih hcatalog (hparts inner (List.mem_reverse.mp hinner)) address

/-- Exploring a schema finds nothing but parts of it. -/
theorem IsConfined.add (h : catalog.IsConfined name whole) {resource : Resource}
    (hresource : ConfinedTo name whole resource.contents) (address : List Char) :
    SatisfiesM (IsConfined name whole) (Catalog.add address catalog resource) :=
  h.addUpTo _ hresource address

end Catalog

/-! ## Metaschemas -/

namespace Metaschema

/-- No metaschema has an entry for the keyword, at any depth. -/
theorem hasName_all : all.all (fun resource => !hasName ExtendedFormat.keyword resource.contents) := by
  decide +kernel

theorem isConfined_catalog (whole : Datum) :
    catalog.IsConfined ExtendedFormat.keyword whole := by
  have hall : SatisfiesM (Catalog.IsConfined ExtendedFormat.keyword whole)
      (all.foldlM (Catalog.add []) {}) := by
    refine List.satisfiesM_foldlM Catalog.isConfined_empty fun catalog hcatalog resource hmem => ?_
    refine hcatalog.add (fun value hvalue => absurd hvalue ?_) []
    have hname := List.all_eq_true.mp hasName_all resource hmem
    exact lacks_of_hasName (Bool.not_eq_true' _ ▸ hname) value
  unfold catalog
  cases hfold : all.foldlM (Catalog.add []) {} with
  | error => exact Catalog.isConfined_empty
  | ok found => exact SatisfiesM_Except_eq.mp hall found hfold

end Metaschema

/-! ## Libraries -/

/-- Under the name, nothing stands in what the library has, before the whole schema is explored or
after it, that does not in the whole. -/
def Library.IsConfined (name : String) (whole : Datum) (library : Library) : Prop :=
  ∀ isExplored, SatisfiesM (Catalog.IsConfined name whole) (library.catalog isExplored)

namespace Library

variable {library : Library}

theorem isConfined_start (address : List Char) (root : Datum) :
    (Catalog.start address root).IsConfined ExtendedFormat.keyword root :=
  (Metaschema.isConfined_catalog root).consResource (confinedTo_self _ root) address

theorem root_ofRoot {root : Datum} (h : Library.ofRoot root = .ok library) :
    library.root = root := by
  unfold ofRoot at h
  cases hid : Resource.identifier? ⟨root, .draft4⟩ with
  | error =>
    rw [hid] at h
    cases h
  | ok id =>
    rw [hid] at h
    cases h
    rfl

theorem isConfined_ofRoot {root : Datum} (h : Library.ofRoot root = .ok library) :
    library.IsConfined ExtendedFormat.keyword root := by
  unfold ofRoot at h
  cases hid : Resource.identifier? ⟨root, .draft4⟩ with
  | error =>
    rw [hid] at h
    cases h
  | ok id =>
    rw [hid] at h
    cases h
    rintro (_ | _)
    · exact satisfiesM_ok (isConfined_start _ root)
    · exact (isConfined_start _ root).add (confinedTo_self _ root) _

theorem IsConfined.look (h : library.IsConfined name whole) {α : Type} {P : α → Prop}
    {find? : Catalog → Option α}
    (hfind : ∀ catalog : Catalog, catalog.IsConfined name whole → ∀ found ∈ find? catalog, P found)
    (isExplored : Bool) :
    SatisfiesM (fun result => ∀ found ∈ result.1, P found) (library.look isExplored find?) := by
  unfold Library.look
  refine (h isExplored).bind fun catalog hcatalog => ?_
  split
  · next found heq =>
    refine .pure fun value hvalue => hfind catalog hcatalog value ?_
    cases hvalue
    exact heq
  · exact (h true).bind fun catalog hcatalog => .pure (hfind catalog hcatalog)

theorem IsConfined.resource? (h : library.IsConfined name whole) (isExplored : Bool)
    (address : List Char) :
    SatisfiesM (fun result => ∀ resource ∈ result.1, ConfinedTo name whole resource.contents)
      (library.resource? isExplored address) := by
  refine h.look (fun catalog hcatalog resource hresource => ?_) isExplored
  obtain ⟨address', hmem, -⟩ := Entries.mem_of_find? hresource
  exact hcatalog.resources _ hmem

theorem IsConfined.anchor? (h : library.IsConfined name whole) (isExplored : Bool)
    (address fragment : List Char) :
    SatisfiesM (fun result => ∀ anchor ∈ result.1, ConfinedTo name whole anchor.resource.contents)
      (library.anchor? isExplored address fragment) := by
  have hfind (catalog : Catalog) (hcatalog : catalog.IsConfined name whole)
      (key : List Char × List Char) :
      ∀ anchor ∈ Entries.find? catalog.anchors key, ConfinedTo name whole anchor.resource.contents := by
    intro anchor hanchor
    obtain ⟨key', hmem, -⟩ := Entries.mem_of_find? hanchor
    exact hcatalog.anchors _ hmem
  unfold Library.anchor?
  refine (h.look (fun catalog hcatalog => hfind catalog hcatalog _) isExplored).bind
    fun result hresult => ?_
  dsimp only
  split
  · exact .pure hresult
  · refine (h isExplored).bind fun catalog hcatalog => ?_
    split
    · refine SatisfiesM.trivial.bind fun id _ => ?_
      refine (h true).bind fun catalog hcatalog => .pure fun anchor hanchor => ?_
      obtain ⟨id, -, hid⟩ := Option.bind_eq_some_iff.mp hanchor
      exact hfind catalog hcatalog _ anchor hid
    · exact satisfiesM_error

end Library

/-! ## References -/

namespace Reference

theorem step_confinedTo {contents : Datum} (h : ConfinedTo name whole contents)
    (segment : List Char) :
    SatisfiesM (fun result => ∀ found ∈ result, ConfinedTo name whole found)
      (step contents segment) := by
  unfold step
  split
  · exact satisfiesM_ok fun found hfound => h.find? hfound
  · split
    · exact satisfiesM_error
    · next items hitems =>
      split
      · next position _ =>
        refine satisfiesM_ok fun found hfound => ?_
        have hmem : found ∈ items := by
          unfold itemAt? at hfound
          dsimp only at hfound
          generalize (if position < 0 then position + items.length else position) = counted at hfound
          split at hfound
          · cases hfound
          · exact List.mem_of_getElem? hfound
        exact h.items? hitems found hmem
      · exact satisfiesM_error

theorem walk_confinedTo (dialect : Dialect) (since : List String) {start : Target}
    (h : ConfinedTo name whole start.contents) (segments : List (List Char)) :
    SatisfiesM (fun result => ∀ target ∈ result, ConfinedTo name whole target.contents)
      (walk dialect since start segments) := by
  induction segments generalizing since start with
  | nil =>
    refine satisfiesM_ok fun target htarget => ?_
    cases htarget
    exact h
  | cons segment rest ih =>
    unfold walk
    refine (step_confinedTo h segment).bind fun found hfound => ?_
    split
    · next contents =>
      have hcontents : ConfinedTo name whole contents := hfound contents rfl
      dsimp only
      split
      · refine SatisfiesM.trivial.bind fun id _ => ?_
        split
        · exact SatisfiesM.trivial.bind fun base _ => ih [] hcontents
        · exact ih _ hcontents
      · exact ih _ hcontents
    · exact .pure fun target htarget => by cases htarget

theorem outermost_confinedTo {library : Library} (hlibrary : library.IsConfined name whole)
    (isExplored : Bool) (fragment : List Char) {here : Resource}
    (h : ConfinedTo name whole here.contents) (passed : List (List Char)) :
    SatisfiesM (fun resource => ConfinedTo name whole resource.contents)
      (outermost library isExplored fragment here passed) := by
  induction passed generalizing here with
  | nil => exact satisfiesM_ok h
  | cons address before ih =>
    unfold outermost
    refine (hlibrary.anchor? isExplored address fragment).bind fun result hresult => ?_
    split
    · next resource heq => exact ih (hresult _ heq)
    · exact ih h
    · split
      · exact satisfiesM_error
      · exact ih h

theorem anchored_confinedTo {library : Library} (hlibrary : library.IsConfined name whole)
    (place : Place) (fragment : List Char) {anchor : Anchor}
    (h : ConfinedTo name whole anchor.resource.contents) :
    SatisfiesM (fun target => ConfinedTo name whole target.contents)
      (anchored library place fragment anchor) := by
  unfold anchored
  split
  · refine (outermost_confinedTo hlibrary _ fragment h _).bind fun resource hresource => ?_
    exact SatisfiesM.trivial.bind fun place _ => .pure hresource
  · exact .pure h

theorem target?_confinedTo {library : Library} (hlibrary : library.IsConfined name whole)
    (place : Place) (address fragment : List Char) :
    SatisfiesM (fun result => ∀ target ∈ result, ConfinedTo name whole target.contents)
      (target? library place address fragment) := by
  unfold target?
  refine (hlibrary.resource? place.isExplored address).bind fun result hresult => ?_
  obtain ⟨resource, isExplored⟩ := result
  dsimp only at hresult ⊢
  split
  · next resource =>
    have hresource : ConfinedTo name whole resource.contents := hresult resource rfl
    split
    · refine .pure fun target htarget => ?_
      cases htarget
      exact hresource
    · exact walk_confinedTo resource.dialect [] hresource _
    · refine (hlibrary.anchor? isExplored address _).bind fun result hresult => ?_
      obtain ⟨anchor, isExplored⟩ := result
      dsimp only at hresult ⊢
      split
      · next anchor =>
        refine (anchored_confinedTo hlibrary _ _ (hresult anchor rfl)).bind
          fun target htarget => .pure fun target' htarget' => ?_
        cases htarget'
        exact htarget
      · exact .pure fun target htarget => by cases htarget
  · exact .pure fun target htarget => by cases htarget

theorem lookup?_confinedTo {library : Library} (hlibrary : library.IsConfined name whole)
    (place : Place) (reference : List Char) :
    SatisfiesM (fun result => ∀ target ∈ result, ConfinedTo name whole target.contents)
      (lookup? library place reference) := by
  unfold lookup?
  exact SatisfiesM.trivial.bind fun split _ => target?_confinedTo hlibrary place _ _

theorem outermostRecursive_confinedTo {library : Library}
    (hlibrary : library.IsConfined name whole) (place : Place) {here : Target}
    (h : ConfinedTo name whole here.contents) (passed : List (List Char)) :
    SatisfiesM (fun result => ∀ target ∈ result, ConfinedTo name whole target.contents)
      (outermostRecursive library place here passed) := by
  induction passed generalizing here with
  | nil =>
    refine satisfiesM_ok fun target htarget => ?_
    cases htarget
    exact h
  | cons address before ih =>
    unfold outermostRecursive
    refine (lookup?_confinedTo hlibrary place address).bind fun result hresult => ?_
    split
    · next found =>
      split
      · exact ih (hresult found rfl)
      · refine .pure fun target htarget => ?_
        cases htarget
        exact h
    · exact .pure fun target htarget => by cases htarget

/-- What a reference leads to. -/
theorem lead_confinedTo {library : Library} (hlibrary : library.IsConfined name whole)
    (place : Place) (reference : Datum) :
    SatisfiesM (fun lead => ConfinedTo name whole lead.target.contents)
      (lead library place reference) := by
  unfold lead
  refine SatisfiesM.trivial.bind fun text _ => SatisfiesM.trivial.bind fun split _ => ?_
  refine (target?_confinedTo hlibrary place _ _).bind fun result hresult => ?_
  split
  · next target => exact .pure (hresult target rfl)
  · exact satisfiesM_error

/-- What a recursive reference leads to. -/
theorem recursiveLead_confinedTo {library : Library} (hlibrary : library.IsConfined name whole)
    (place : Place) :
    SatisfiesM (fun lead => ConfinedTo name whole lead.target.contents)
      (recursiveLead library place) := by
  have htarget : SatisfiesM (fun result => ∀ target ∈ result, ConfinedTo name whole target.contents)
      (recursiveTarget? library place) := by
    unfold recursiveTarget?
    refine (lookup?_confinedTo hlibrary place ['#']).bind fun result hresult => ?_
    split
    · next here =>
      split
      · exact outermostRecursive_confinedTo hlibrary place (hresult here rfl) _
      · exact .pure hresult
    · exact .pure fun target htarget => by cases htarget
  unfold recursiveLead
  refine htarget.bind fun result hresult => ?_
  split
  · next target => exact .pure (hresult target rfl)
  · exact satisfiesM_error

end Reference

end SchemaBridge
