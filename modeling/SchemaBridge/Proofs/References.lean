import Mathlib
import SchemaBridge.Keyword
import SchemaBridge.Validation.Reference

/-!
# References to definitions

In a schema that has definitions and no address of its own, a reference such as `#/definitions/A`
leads to the definition `A` and nowhere else. It stays at the same place, so that whatever stands
in the definition refers to the same definitions again.

* `identifier?_of_missing`: what has no identifier takes up none.
* `lead_of_find?`: where a reference to a definition leads.
* `lead_of_missing`: a reference to a definition that is not there has no lead.
-/

namespace SchemaBridge

/-- The definitions stand in the whole schema, which has no address. -/
structure Library.Holds (library : Library) (definitions : Members) : Prop where
  address : library.address = []
  root : ∃ entries, library.root = .object entries
    ∧ Entries.find? entries "definitions" = some (.object definitions)

theorem Resource.identifier?_of_missing {entries : Members}
    (h : Entries.find? entries "id" = none) :
    Resource.identifier? ⟨.object entries, .draft4⟩ = .ok none := by
  have hmentions : Resource.mentions "$ref" (.object entries)
      = .ok (Entries.has entries "$ref") := rfl
  have hunder : Resource.identifierUnder? "id" true (.object entries) = .ok none := by
    simp [Resource.identifierUnder?, Resource.entry?, h, bind, Except.bind, pure, Except.pure]
  simp only [Resource.identifier?, hmentions, hunder, bind, Except.bind, pure, Except.pure]
  split_ifs <;> rfl

namespace Reference

/-- A name that stands for itself in a pointer. -/
def IsPlain (name : String) : Prop :=
  '/' ∉ name.toList ∧ '%' ∉ name.toList ∧ '~' ∉ name.toList

instance (name : String) : Decidable (IsPlain name) := by
  unfold IsPlain
  infer_instance

/-- The reference to a definition. -/
def toDefinition (name : String) : Datum := .text (Keyword.referencePrefix ++ name)

/-- The fragment of the reference to a definition. -/
def fragment (name : String) : List Char := "/definitions/".toList ++ name.toList

/-- The place of a schema without an address, and of all that stands in it. -/
def Place.outset : Place := { base := [] }

theorem fragment_eq (name : String) :
    fragment name = '/' :: ("definitions/".toList ++ name.toList) := rfl

theorem fragment_inj {name name' : String} (h : fragment name = fragment name') :
    name = name' :=
  String.toList_inj.mp (List.append_cancel_left h)

theorem unescape_of_not_mem {segment : List Char} (h : '~' ∉ segment) :
    unescape segment = segment := by
  induction segment with
  | nil => rfl
  | cons c rest ih =>
    simp only [List.mem_cons, not_or] at h
    rw [unescape, ih h.2]
    · rintro rest' rfl
      exact absurd rfl h.1
    · rintro rest' rfl
      exact absurd rfl h.1

/-- The definitions together are no schema. -/
theorem isPlace_definitions (object : Bool) :
    (Layout.ofDialect .draft4).isPlace object ["definitions"] = false := by
  simp [Layout.isPlace, Layout.ofDialect, Layout.varies]

theorem parts_toDefinition (name : String) :
    parts [] (Keyword.referencePrefix ++ name).toList = .ok ([], fragment name) := by
  rw [String.toList_append]
  rfl

variable {library : Library} {definitions : Members} {name : String}

/-- The way to a definition: the definitions, and among them the one of the name. -/
theorem target?_definition (h : library.Holds definitions) (hname : IsPlain name) :
    target? library .outset [] (fragment name)
      = walk .draft4 ["definitions"] { contents := .object definitions, place := .outset }
          [name.toList] := by
  obtain ⟨haddress, entries, hroot, hfind⟩ := h
  have hresource : library.resource? false [] = .ok (some ⟨library.root, .draft4⟩, false) := by
    rw [← haddress]
    exact library.find?_address
  have hdecoded : Text.percentDecoded ("definitions/".toList ++ name.toList)
      = "definitions".toList ++ '/' :: name.toList := by
    rw [Text.percentDecoded_of_not_mem]
    · rfl
    · simpa using hname.2.1
  have hsegments : Text.parts '/' (Text.percentDecoded ("definitions/".toList ++ name.toList))
      = ["definitions".toList, name.toList] := by
    rw [hdecoded, Text.parts_append (by decide), Text.parts_of_not_mem hname.1]
  have hsegment : String.ofList (unescape "definitions".toList) = "definitions" := by decide
  have hstep : step library.root "definitions".toList = .ok (some (.object definitions)) := by
    rw [hroot, step, hsegment, hfind]
  have hwalk : walk .draft4 [] { contents := library.root, place := .outset }
        ["definitions".toList, name.toList]
      = walk .draft4 ["definitions"] { contents := .object definitions, place := .outset }
          [name.toList] := by
    rw [walk, hstep]
    simp only [bind, Except.bind, hsegment, List.nil_append, isPlace_definitions]
    rfl
  rw [← hwalk, ← hsegments]
  simp only [target?, Place.outset, Place.moveTo, hresource, bind, Except.bind, fragment_eq]
  rfl

theorem lead_of_target? {target : Option Target} (h : library.Holds definitions)
    (hname : IsPlain name)
    (htarget : walk .draft4 ["definitions"] { contents := .object definitions, place := .outset }
      [name.toList] = .ok target) :
    lead library .outset (toDefinition name)
      = target.elim (.error (.unresolved (toDefinition name)))
          fun target => .ok { address := [], fragment := fragment name, target } := by
  have hparts : parts Place.outset.base (Keyword.referencePrefix ++ name).toList
      = .ok ([], fragment name) := parts_toDefinition name
  have htarget' : target? library .outset [] (fragment name) = .ok target := by
    rw [target?_definition h hname, htarget]
  simp only [lead, toDefinition, text, bind, Except.bind, hparts, htarget']
  cases target <;> rfl

/-- A reference leads to the definition of its name. -/
theorem lead_of_find? {contents : Datum} (h : library.Holds definitions) (hname : IsPlain name)
    (hfind : Entries.find? definitions name = some contents)
    (hid : Resource.identifier? ⟨contents, .draft4⟩ = .ok none) :
    lead library .outset (toDefinition name)
      = .ok { address := [], fragment := fragment name,
              target := { contents, place := .outset } } := by
  have hstep : step (.object definitions) name.toList = .ok (some contents) := by
    rw [step, unescape_of_not_mem hname.2.2, String.ofList_toList, hfind]
  have hwalk : walk .draft4 ["definitions"]
        { contents := .object definitions, place := .outset } [name.toList]
      = .ok (some { contents, place := .outset }) := by
    rw [walk, hstep]
    simp only [bind, Except.bind, hid]
    split_ifs <;> rfl
  rw [lead_of_target? h hname hwalk, Option.elim_some]

/-- There is no other place where a definition could be. -/
theorem lead_of_missing (h : library.Holds definitions) (hname : IsPlain name)
    (hfind : Entries.find? definitions name = none) :
    lead library .outset (toDefinition name) = .error (.unresolved (toDefinition name)) := by
  have hstep : step (.object definitions) name.toList = .ok none := by
    rw [step, unescape_of_not_mem hname.2.2, String.ofList_toList, hfind]
  have hwalk : walk .draft4 ["definitions"]
        { contents := .object definitions, place := .outset } [name.toList] = .ok none := by
    rw [walk, hstep]
    rfl
  rw [lead_of_target? h hname hwalk, Option.elim_none]

end Reference

end SchemaBridge
