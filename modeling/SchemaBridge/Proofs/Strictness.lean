import Mathlib
import SchemaBridge.Proofs.Histories
import SchemaBridge.Proofs.Steadiness

/-!
# Strict and lenient registries

A registry can be extended strictly or leniently. The strict check of the format of list items
raises a fault for a name that is unknown, where the lenient one refuses the value; for known names
they are the same. So whole evaluations differ in such faults only.

* `ExtendedFormat.check_sameUnless`: the two checks.
* `Registry.checks_insert`: the definition of one keyword does not count for the other checks.
* `Registry.extend_sameUnless`: what validators of the two registries answer.
* `Registry.strict_differs_by_unknown_formats`: strict mode differs from lenient mode by faults for
  unknown formats.
-/

namespace SchemaBridge

open Datum

/-- The fault is an unknown format that the schema names under the keyword. -/
def ExtendedFormat.IsUnknownIn (schema : Datum) (fault : Fault) : Prop :=
  ∃ value, fault = .unknownFormat value ∧ named? value = none
    ∧ StandsUnder keyword value schema

/-- The two checks are the same, except for an unknown name. -/
theorem ExtendedFormat.check_sameUnless {schema value : Datum}
    (h : StandsUnder keyword value schema) (data : Datum) :
    SameUnless (IsUnknownIn schema) (check true value data) (check false value data) := by
  unfold check
  cases hnamed : named? value with
  | none => exact .inr ⟨_, ⟨value, rfl, hnamed, h⟩, rfl⟩
  | some format => exact .inl rfl

namespace Registry

open Schema

/-- The keyword for formats of list items is read by checks of its own, and all other keywords by
the same ones as before. -/
theorem checks_insert (keywords : Table KeywordDefinition) (name : String) (check check' : Check) :
    (∃ fault, checks (Entries.insert keywords name ⟨some check, some false⟩) = .error fault
        ∧ checks (Entries.insert keywords name ⟨some check', some false⟩) = .error fault)
      ∨ ∃ found found',
          checks (Entries.insert keywords name ⟨some check, some false⟩) = .ok found
            ∧ checks (Entries.insert keywords name ⟨some check', some false⟩) = .ok found' := by
  induction keywords with
  | nil => exact .inr ⟨_, _, rfl, rfl⟩
  | cons entry rest ih =>
    obtain ⟨name', definition⟩ := entry
    by_cases hname : (name' == name) = true
    · simp only [Entries.insert, if_pos hname, checks]
      cases checks rest with
      | error fault => exact .inl ⟨fault, rfl, rfl⟩
      | ok found => exact .inr ⟨_, _, rfl, rfl⟩
    · simp only [Entries.insert, if_neg hname, checks]
      cases definition.validate with
      | none => exact .inl ⟨_, rfl, rfl⟩
      | some other =>
        rcases ih with ⟨fault, hchecks, hchecks'⟩ | ⟨found, found', hchecks, hchecks'⟩
        · simp only [hchecks, hchecks']
          exact .inl ⟨fault, rfl, rfl⟩
        · simp only [hchecks, hchecks']
          exact .inr ⟨_, _, rfl, rfl⟩

theorem coherent_extend (strict : Bool) (registry : Registry) : (registry.extend strict).2.Coherent :=
  fun _ hmade => by cases hmade

/-- Validators of a strictly and of a leniently extended registry cannot be made, for one reason, or
apply checks that are alike. -/
theorem extend_checksAlike (registry : Registry) (schema : Datum) :
    (∃ fault, ((registry.extend true).2.validator schema).1 = .error fault
        ∧ ((registry.extend false).2.validator schema).1 = .error fault)
      ∨ ∃ strict lenient, ((registry.extend true).2.validator schema).1 = .ok strict
          ∧ ((registry.extend false).2.validator schema).1 = .ok lenient
          ∧ ChecksAlike (ExtendedFormat.IsUnknownIn schema) ExtendedFormat.keyword schema
              strict lenient
          ∧ strict.library.root = schema := by
  have hvalidator (strict : Bool) : ((registry.extend strict).2.validator schema).1
      = (checks (Entries.insert registry.keywords ExtendedFormat.keyword
          ⟨some (ExtendedFormat.check strict), some false⟩)).bind fun found =>
            (Library.ofRoot schema).map fun library => ⟨found, library⟩ :=
    (coherent_extend strict registry).validator_fst schema
  rw [hvalidator, hvalidator]
  rcases checks_insert registry.keywords ExtendedFormat.keyword (ExtendedFormat.check true)
    (ExtendedFormat.check false) with ⟨fault, hchecks, hchecks'⟩ | ⟨found, found', hchecks, hchecks'⟩
  · rw [hchecks, hchecks']
    exact .inl ⟨fault, rfl, rfl⟩
  · rw [hchecks, hchecks']
    cases hlibrary : Library.ofRoot schema with
    | error fault => exact .inl ⟨fault, rfl, rfl⟩
    | ok library =>
      refine .inr ⟨_, _, rfl, rfl, ⟨rfl, Library.isConfined_ofRoot hlibrary, ?_⟩,
        Library.root_ofRoot hlibrary⟩
      intro keyword value hstands
      dsimp only
      rw [find?_checks hchecks, find?_checks hchecks', Entries.find?_insert, Entries.find?_insert]
      split
      · next hkeyword =>
        exact .some (ExtendedFormat.check_sameUnless (hstands (eq_of_beq hkeyword).symm))
      · cases (Entries.find? registry.keywords keyword).bind (·.validate) with
        | none => exact .none
        | some check => exact .some fun _ => .inl rfl

/-- What validators of a strictly and of a leniently extended registry answer. -/
theorem extend_sameUnless (registry : Registry) (schema data : Datum) :
    SameUnless (ExtendedFormat.IsUnknownIn schema)
        ((registry.extend true).2.isValid schema data).1
        ((registry.extend false).2.isValid schema data).1
      ∧ SameUnless (ExtendedFormat.IsUnknownIn schema)
          ((registry.extend true).2.violations schema data).1
          ((registry.extend false).2.violations schema data).1 := by
  rw [isValid_fst, isValid_fst, violations_fst, violations_fst]
  rcases extend_checksAlike registry schema with ⟨fault, hstrict, hlenient⟩ |
    ⟨strict, lenient, hstrict, hlenient, halike, hroot⟩
  · rw [hstrict, hlenient]
    exact ⟨.inl rfl, .inl rfl⟩
  · rw [hstrict, hlenient, Except.bind, Except.bind, Except.bind, Except.bind]
    exact ⟨Validator.isValid_sameUnless halike hroot data,
      Validator.violations_sameUnless halike hroot data⟩

/-- Strict mode differs from lenient mode by raising only: what the strict registry answers, the
lenient one answers too, with the same violations in the same order; and where it gives an answer
and the strict one does not, the fault is a format that the schema names under the keyword, and that
is unknown. -/
theorem strict_differs_by_unknown_formats (registry : Registry) (schema data : Datum) :
    let strict := (registry.extend true).2
    let lenient := (registry.extend false).2
    (∀ found, (strict.violations schema data).1 = .ok found →
        (lenient.violations schema data).1 = .ok found)
      ∧ (∀ found fault, (lenient.violations schema data).1 = .ok found →
          (strict.violations schema data).1 = .error fault → ExtendedFormat.IsUnknownIn schema fault)
      ∧ (∀ answer, (strict.isValid schema data).1 = .ok answer →
          (lenient.isValid schema data).1 = .ok answer)
      ∧ ∀ answer fault, (lenient.isValid schema data).1 = .ok answer →
          (strict.isValid schema data).1 = .error fault →
          ExtendedFormat.IsUnknownIn schema fault := by
  obtain ⟨hisValid, hviolations⟩ := extend_sameUnless registry schema data
  exact ⟨fun _ => hviolations.eq_ok, fun _ _ => hviolations.excused, fun _ => hisValid.eq_ok,
    fun _ _ => hisValid.excused⟩

end Registry

end SchemaBridge
