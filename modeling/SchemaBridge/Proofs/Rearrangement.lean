import Mathlib
import SchemaBridge.Proofs.Contents

/-!
# Arguments on other directives

What a field becomes depends on its builtin directives only through the row of all their arguments,
and of those only through what each contributes. So it does not matter how the arguments are parted
into directives, what other directives stand between them, which arguments are left out because they
contribute nothing, and whether a keyword is given by its short name.

* `Keyword.meant_meant`: what a name means is no short name itself.
* `Argument.IsDropped.contributed?_eq`: an argument that is left out leaves the others alone.
* `Rearranges.contributed?_eq`: what one change keeps.
* `Field.property_of_rearranged`: a field becomes the same property after any number of changes.
-/

namespace SchemaBridge

/-- A short name stands for a keyword that is no short name of the type. -/
theorem Keyword.meant_meant (jsonType name : String) :
    meant jsonType (meant jsonType name) = meant jsonType name := by
  have htable : ∀ row ∈ aliases, ∀ entry ∈ row.2, Entries.find? row.2 entry.2 = none := by decide
  unfold meant
  cases hrow : Entries.find? aliases jsonType with
  | none => rfl
  | some row =>
    simp only [Option.bind_some]
    cases hname : Entries.find? row name with
    | none => simp [hname]
    | some keyword =>
      obtain ⟨_, hmem, -⟩ := Entries.mem_of_find? hrow
      obtain ⟨_, hentry, -⟩ := Entries.mem_of_find? hname
      have hnone : Entries.find? row keyword = none := htable _ hmem _ hentry
      simp [hnone]

/-! ## Arguments that are left out -/

namespace Argument

open Directive (validate)

variable {argument : Argument} {jsonType : Option String}

/-- The argument means no keyword of the type, or is a variable, or has a value that the keyword
cannot take. -/
inductive IsDropped (jsonType : Option String) : Argument → Prop
  | notApplicable {argument : Argument} (h : argument.key? jsonType = none) :
    IsDropped jsonType argument
  | noValue (name variableName : String) : IsDropped jsonType ⟨name, .variableUse variableName⟩
  | notCast {argument : Argument} {fault : Fault} (hvalue : argument.value.isValue = true)
    (hcast : Keyword.cast (Keyword.meant (jsonType.getD "") argument.name) argument.value.value
      = .error fault) : IsDropped jsonType argument

theorem IsDropped.isReadable (h : argument.IsDropped jsonType) :
    argument.isReadable jsonType = true := by
  cases h with
  | notApplicable h => rw [Argument.isReadable, h, Option.isNone_none, Bool.true_or]
  | noValue => exact Bool.or_true _
  | notCast hvalue => rw [Argument.isReadable, hvalue, Bool.or_true]

theorem IsDropped.keyword (h : argument.IsDropped jsonType) (directive : String) :
    (argument.keyword directive jsonType).toOption = none := by
  cases hkey : argument.key? jsonType with
  | none => simp [Argument.keyword, hkey, Except.toOption]
  | some key =>
    cases h with
    | notApplicable h => simp [hkey] at h
    | noValue => simp [Argument.keyword, hkey, Literal.value, Except.toOption]
    | notCast hvalue hcast =>
      rw [Argument.keyword, hkey]
      dsimp only
      split
      · rfl
      · rw [hcast]
        rfl

/-- An argument that is left out contributes nothing and is no cause for a fault. -/
theorem IsDropped.contributed?_eq (h : argument.IsDropped jsonType) :
    contributed? jsonType [argument] = some [] := by
  simp [contributed?, h.isReadable, h.keyword]

/-- An argument contributes under its short name what it contributes under the long one. -/
theorem contributed?_renamed (name : String) (value : Literal) :
    contributed? jsonType [⟨Keyword.meant (jsonType.getD "") name, value⟩]
      = contributed? jsonType [⟨name, value⟩] := by
  have hkey : key? ⟨Keyword.meant (jsonType.getD "") name, value⟩ jsonType
      = key? ⟨name, value⟩ jsonType := by
    simp only [key?, Keyword.meant_meant]
  have hreadable : isReadable ⟨Keyword.meant (jsonType.getD "") name, value⟩ jsonType
      = isReadable ⟨name, value⟩ jsonType := by
    simp only [isReadable, hkey]
  have hkeyword :
      (keyword ⟨Keyword.meant (jsonType.getD "") name, value⟩ validate jsonType).toOption
        = (keyword ⟨name, value⟩ validate jsonType).toOption := by
    rw [keyword, keyword, hkey]
    dsimp only
    rw [Keyword.meant_meant]
    -- The two differ only in the names that their notices give.
    split
    · rfl
    · split
      · rfl
      · split <;> rfl
  simp [contributed?, List.filterMap_cons, hreadable, hkeyword]

/-- A part of a row of arguments may be replaced by another one that contributes the same. -/
theorem contributed?_congr {part part' : List Argument}
    (h : contributed? jsonType part = contributed? jsonType part') (front back : List Argument) :
    contributed? jsonType (front ++ (part ++ back))
      = contributed? jsonType (front ++ (part' ++ back)) := by
  simp only [contributed?_append, h]

end Argument

/-! ## Arguments of several directives -/

namespace Directive

theorem validations_append (first second : List Directive) :
    validations (first ++ second) = validations first ++ validations second := by
  simp [validations]

theorem validations_cons_validate (arguments : List Argument) (rest : List Directive) :
    validations (⟨validate, arguments⟩ :: rest) = arguments ++ validations rest := by
  simp [validations]

theorem validations_cons_of_ne {directive : Directive} (h : directive.name ≠ validate)
    (rest : List Directive) : validations (directive :: rest) = validations rest := by
  rw [validations, List.filter_cons_of_neg (by simpa using h), validations]

theorem validations_map (groups : List (List Argument)) :
    validations (groups.map (⟨validate, ·⟩)) = groups.flatten := by
  induction groups with
  | nil => rfl
  | cons arguments groups ih =>
    rw [List.map_cons, validations_cons_validate, ih, List.flatten_cons]

end Directive

/-! ## Changes -/

open Argument Directive

/-- Directives on a field of a type, before and after a change: arguments of a builtin directive are
parted into several ones; another directive is put in; an argument that is left out is put in; a
name is written for the keyword that it means. -/
inductive Rearranges (jsonType : Option String) : List Directive → List Directive → Prop
  | parted (front back : List Directive) (groups : List (List Argument)) :
    Rearranges jsonType (front ++ ⟨validate, groups.flatten⟩ :: back)
      (front ++ groups.map (⟨validate, ·⟩) ++ back)
  | foreign (front back : List Directive) {directive : Directive}
    (h : directive.name ≠ validate) :
    Rearranges jsonType (front ++ back) (front ++ directive :: back)
  | dropped (front back : List Directive) (before after : List Argument) {argument : Argument}
    (h : argument.IsDropped jsonType) :
    Rearranges jsonType (front ++ ⟨validate, before ++ after⟩ :: back)
      (front ++ ⟨validate, before ++ argument :: after⟩ :: back)
  | renamed (front back : List Directive) (before after : List Argument) (name : String)
    (value : Literal) :
    Rearranges jsonType
      (front ++
        ⟨validate, before ++ ⟨Keyword.meant (jsonType.getD "") name, value⟩ :: after⟩ :: back)
      (front ++ ⟨validate, before ++ ⟨name, value⟩ :: after⟩ :: back)

namespace Rearranges

variable {jsonType : Option String} {directives directives' : List Directive}

/-- A change keeps what the arguments of the builtin directives contribute. -/
theorem contributed?_eq (h : Rearranges jsonType directives directives') :
    contributed? jsonType (validations directives)
      = contributed? jsonType (validations directives') := by
  cases h with
  | parted front back groups =>
    simp only [validations_append, validations_cons_validate, validations_map, List.append_assoc]
  | foreign front back hname =>
    rw [validations_append, validations_append, validations_cons_of_ne hname]
  | dropped front back before after hdropped =>
    have hnothing : contributed? jsonType [] = contributed? jsonType [_] :=
      hdropped.contributed?_eq.symm
    simpa only [validations_append, validations_cons_validate, List.append_assoc, List.cons_append,
      List.nil_append] using contributed?_congr hnothing (validations front ++ before)
        (after ++ validations back)
  | renamed front back before after name value =>
    simpa only [validations_append, validations_cons_validate, List.append_assoc, List.cons_append,
      List.nil_append] using contributed?_congr (contributed?_renamed name value)
        (validations front ++ before) (after ++ validations back)

/-- So do any number of changes, there and back. -/
theorem contributed?_eq_of_eqvGen
    (h : Relation.EqvGen (Rearranges jsonType) directives directives') :
    contributed? jsonType (validations directives)
      = contributed? jsonType (validations directives') := by
  induction h with
  | rel _ _ hchange => exact hchange.contributed?_eq
  | refl _ => rfl
  | symm _ _ _ ih => exact ih.symm
  | trans _ _ _ _ _ ihfirst ihsecond => exact ihfirst.trans ihsecond

end Rearranges

/-- A field becomes the same property, or fails alike, if its directives are changed like that. -/
theorem Field.property_of_rearranged {field : Field} {directives : List Directive}
    (h : Relation.EqvGen (Rearranges field.jsonType?) field.directives directives) :
    (Field.property { field with directives } []).result = (field.property []).result := by
  rw [Field.result_property, Field.result_property]
  have hcontributed : contributed? field.jsonType? (Directive.validations field.directives)
      = contributed? field.jsonType? (Directive.validations directives) :=
    Rearranges.contributed?_eq_of_eqvGen h
  have hsame : field.validations = Directive.validations field.directives := rfl
  rw [hsame, hcontributed]
  rfl

/-- A field of integers with directives. -/
def Field.ofIntegers (directives : List Directive) : Field :=
  { name := "a", type := .named "Int", fallback := none, directives, arguments := [] }

/-- Bounds that stand among other things, and bounds that stand alone. -/
theorem Field.property_of_parted_bounds :
    let written := ofIntegers [⟨"since", []⟩,
      ⟨validate, [⟨"min", .int "1"⟩, ⟨"pattern", .text "x"⟩, ⟨"max", .int "3"⟩]⟩]
    let parted := ofIntegers [⟨validate, [⟨"minimum", .int "1"⟩]⟩, ⟨validate, [⟨"max", .int "3"⟩]⟩]
    (parted.property []).result = (written.property []).result := by
  intro written parted
  have hpattern : IsDropped written.jsonType? ⟨"pattern", .text "x"⟩ := .notApplicable rfl
  have hchanges : Relation.EqvGen (Rearranges written.jsonType?) written.directives
      parted.directives := by
    refine .trans _ _ _ (.symm _ _ (.rel _ _ (.foreign [] _ (by decide)))) ?_
    refine .trans _ _ _ (.symm _ _ (.rel _ _ (.dropped [] [] [_] [_] hpattern))) ?_
    refine .trans _ _ _ (.symm _ _ (.rel _ _ (.renamed [] [] [] [_] "min" (.int "1")))) ?_
    exact .rel _ _ (.parted [] [] [[⟨"minimum", .int "1"⟩], [⟨"max", .int "3"⟩]])
  exact Field.property_of_rearranged hchanges

end SchemaBridge
