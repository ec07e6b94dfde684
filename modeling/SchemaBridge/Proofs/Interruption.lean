import Mathlib
import SchemaBridge.Proofs.Branches
import SchemaBridge.Proofs.Leads

/-!
# Evaluations that are the same unless they are interrupted

Two ways of applying schemas may differ in that one of them raises a fault where the other does not.
If they do not differ in anything else, then neither do any evaluations that are put together from
them: either the fault is met and ends everything, or nothing depends on which way it was. This
needs that no keyword goes on after a fault, and that one that has found a violation, and wants no
more, does not report a fault behind it.

* `SameUnless`, `Outcome.SameUnless`: the relation, for results and for outcomes.
* `SameUnless.bind`, `sameUnless_mapM`, `sameUnless_filterM`: results that depend on others.
* `Outcome.SameUnless.andThen`, `Outcome.sameUnless_each`: outcomes one after another.
* `Task.descend_sameUnless`, `Task.follow_sameUnless`: the ways from a schema to the next.
-/

namespace SchemaBridge

variable {Excused : Fault → Prop} {α β : Type}

/-! ## Results -/

/-- The results are the same, unless the first one is an excused fault. -/
def SameUnless (Excused : Fault → Prop) (result result' : Except Fault α) : Prop :=
  result = result' ∨ ∃ fault, Excused fault ∧ result = .error fault

theorem SameUnless.eq_ok {result result' : Except Fault α} (h : SameUnless Excused result result')
    {value : α} (hvalue : result = .ok value) : result' = .ok value := by
  rcases h with heq | ⟨fault, -, hfault⟩
  · rw [← heq, hvalue]
  · rw [hfault] at hvalue
    cases hvalue

theorem SameUnless.excused {result result' : Except Fault α}
    (h : SameUnless Excused result result') {value : α} {fault : Fault}
    (hvalue : result' = .ok value) (hfault : result = .error fault) : Excused fault := by
  rcases h with heq | ⟨fault', hexcused, hfault'⟩
  · rw [heq, hvalue] at hfault
    cases hfault
  · rw [hfault] at hfault'
    cases hfault'
    exact hexcused

theorem SameUnless.eq_of_not_excused {result result' : Except Fault α}
    (h : SameUnless Excused result result') (hnone : ∀ fault, ¬Excused fault) : result = result' :=
  h.resolve_right fun ⟨fault, hexcused, _⟩ => hnone fault hexcused

theorem SameUnless.bind {result result' : Except Fault α} {next next' : α → Except Fault β}
    (h : SameUnless Excused result result')
    (hnext : ∀ value, result = .ok value → SameUnless Excused (next value) (next' value)) :
    SameUnless Excused (result >>= next) (result' >>= next') := by
  rcases h with rfl | ⟨fault, hexcused, rfl⟩
  · cases result with
    | error fault => exact .inl rfl
    | ok value => exact hnext value rfl
  · exact .inr ⟨fault, hexcused, rfl⟩

theorem sameUnless_mapM {items : List α} {step step' : α → Except Fault β}
    (h : ∀ item ∈ items, SameUnless Excused (step item) (step' item)) :
    SameUnless Excused (items.mapM step) (items.mapM step') := by
  induction items with
  | nil => exact .inl rfl
  | cons item rest ih =>
    rw [List.mapM_cons, List.mapM_cons]
    refine (h item List.mem_cons_self).bind fun value _ => ?_
    refine (ih fun item hitem => h item (List.mem_cons_of_mem _ hitem)).bind fun values _ => ?_
    exact .inl rfl

theorem sameUnless_filterM {items : List α} {test test' : α → Except Fault Bool}
    (h : ∀ item ∈ items, SameUnless Excused (test item) (test' item)) :
    SameUnless Excused (items.filterM test) (items.filterM test') := by
  induction items with
  | nil => exact .inl rfl
  | cons item rest ih =>
    rw [filterM_cons, filterM_cons]
    refine (h item List.mem_cons_self).bind fun keep _ => ?_
    refine (ih fun item hitem => h item (List.mem_cons_of_mem _ hitem)).bind fun kept _ => ?_
    exact .inl rfl

/-! ## Outcomes -/

namespace Outcome

/-- The outcomes are the same, unless an excused fault ended the first one. If only the first
violation is wanted, there was none before the fault. -/
def SameUnless (Excused : Fault → Prop) (extent : Extent) (outcome outcome' : Outcome) : Prop :=
  outcome = outcome' ∨ ∃ fault, Excused fault ∧ outcome.fault = some fault
    ∧ (extent.isBrief = true → outcome.violations = [])

variable {extent : Extent} {outcome outcome' : Outcome} {items : List α}

theorem sameUnless_ofExcept {result result' : Except Fault α} {next next' : α → Outcome}
    (h : SchemaBridge.SameUnless Excused result result')
    (hnext : ∀ value, result = .ok value →
      (next value).SameUnless Excused extent (next' value)) :
    (ofExcept result next).SameUnless Excused extent (ofExcept result' next') := by
  rcases h with rfl | ⟨fault, hexcused, rfl⟩
  · cases result with
    | error fault => exact .inl rfl
    | ok value => exact hnext value rfl
  · exact .inr ⟨fault, hexcused, rfl, fun _ => rfl⟩

theorem SameUnless.andThen {next next' : Unit → Outcome}
    (h : outcome.SameUnless Excused extent outcome')
    (hnext : (next ()).SameUnless Excused extent (next' ())) :
    (outcome.andThen extent next).SameUnless Excused extent (outcome'.andThen extent next') := by
  rcases h with rfl | ⟨fault, hexcused, hfault, hviolations⟩
  · by_cases hstop : (outcome.fault.isSome || (extent.isBrief && !outcome.violations.isEmpty)) = true
    · simp only [Outcome.andThen, hstop, if_true]
      exact .inl rfl
    · simp only [Outcome.andThen, hstop, Bool.false_eq_true, if_false]
      rcases hnext with heq | ⟨fault, hexcused, hfault, hviolations⟩
      · rw [heq]
        exact .inl rfl
      · refine .inr ⟨fault, hexcused, hfault, fun hbrief => ?_⟩
        have hnone : outcome.violations = [] := by
          simp only [Bool.or_eq_true, Bool.and_eq_true, hbrief, true_and, Bool.not_eq_true', not_or,
            Bool.not_eq_false, List.isEmpty_iff] at hstop
          exact hstop.2
        rw [hnone, hviolations hbrief, List.nil_append]
  · have hstop : outcome.andThen extent next = outcome := by
      rw [Outcome.andThen, hfault, Option.isSome_some, Bool.true_or, if_pos rfl]
    rw [hstop]
    exact .inr ⟨fault, hexcused, hfault, hviolations⟩

theorem sameUnless_each {report report' : α → Outcome}
    (h : ∀ item ∈ items, (report item).SameUnless Excused extent (report' item)) :
    (each extent items report).SameUnless Excused extent (each extent items report') := by
  induction items with
  | nil => exact .inl rfl
  | cons item rest ih =>
    rw [each_cons, each_cons]
    exact (h item List.mem_cons_self).andThen
      (ih fun item hitem => h item (List.mem_cons_of_mem _ hitem))

theorem SameUnless.inside (h : outcome.SameUnless Excused extent outcome')
    (path schemaPath : List PathStep) :
    (outcome.inside path schemaPath).SameUnless Excused extent
      (outcome'.inside path schemaPath) := by
  rcases h with rfl | ⟨fault, hexcused, hfault, hviolations⟩
  · exact .inl rfl
  · refine .inr ⟨fault, hexcused, hfault, fun hbrief => ?_⟩
    exact List.map_eq_nil_iff.mpr (hviolations hbrief)

/-- Whether there is any violation is decided by the first one, before any fault. -/
theorem SameUnless.verdict (h : outcome.SameUnless Excused extent outcome')
    (hbrief : extent.isBrief = true) :
    SchemaBridge.SameUnless Excused outcome.verdict outcome'.verdict := by
  rcases h with rfl | ⟨fault, hexcused, hfault, hviolations⟩
  · exact .inl rfl
  · refine .inr ⟨fault, hexcused, ?_⟩
    simp only [Outcome.verdict, hviolations hbrief, hfault, List.isEmpty_nil, if_true]

theorem SameUnless.listing (h : outcome.SameUnless Excused extent outcome') :
    SchemaBridge.SameUnless Excused outcome.listing outcome'.listing := by
  rcases h with rfl | ⟨fault, hexcused, hfault, -⟩
  · exact .inl rfl
  · refine .inr ⟨fault, hexcused, ?_⟩
    rw [Outcome.listing, hfault]

end Outcome

/-! ## Steps from schema to schema -/

open Datum

/-- The two ways of applying a schema are the same unless interrupted, for schemas in which nothing
else stands under the name than in the whole. -/
def Applier.SameUnless (Excused : Fault → Prop) (name : String) (whole : Datum)
    (next next' : Applier) : Prop :=
  ∀ extent setting schema data, ConfinedTo name whole schema →
    (next extent setting schema data).SameUnless Excused extent (next' extent setting schema data)

namespace Task

/-- The task with another way of applying other schemas. -/
def withNext (next : Applier) (task : Task) : Task := { task with next }

/-- The task is in the whole, and goes on in the same way, unless it is interrupted. -/
structure SameUnless (Excused : Fault → Prop) (name : String) (whole : Datum) (task : Task)
    (next' : Applier) : Prop where
  next : Applier.SameUnless Excused name whole task.next next'
  library : task.library.IsConfined name whole
  entries : ConfinedTo name whole (.object task.entries)

variable {name : String} {whole schema : Datum} {task : Task} {next' : Applier}

theorem SameUnless.into (h : task.SameUnless Excused name whole next') (data : Datum) :
    (task.into data).SameUnless Excused name whole next' := ⟨h.next, h.library, h.entries⟩

theorem SameUnless.with_extent (h : task.SameUnless Excused name whole next') (extent : Extent) :
    { task with extent }.SameUnless Excused name whole next' := ⟨h.next, h.library, h.entries⟩

theorem SameUnless.with_setting (h : task.SameUnless Excused name whole next')
    (setting : Setting) : { task with setting }.SameUnless Excused name whole next' :=
  ⟨h.next, h.library, h.entries⟩

theorem descend_sameUnless (h : task.SameUnless Excused name whole next')
    (hschema : ConfinedTo name whole schema) (path schemaPath : List PathStep) :
    (task.descend schema path schemaPath).SameUnless Excused task.extent
      ((task.withNext next').descend schema path schemaPath) := by
  unfold descend
  split
  · exact .inl rfl
  · exact .inl rfl
  · refine Outcome.sameUnless_ofExcept (.inl rfl) fun setting _ => ?_
    exact (h.next task.extent setting _ task.data hschema).inside path schemaPath

theorem listing_sameUnless (h : task.SameUnless Excused name whole next')
    (hschema : ConfinedTo name whole schema) :
    SchemaBridge.SameUnless Excused (task.listing schema) ((task.withNext next').listing schema) :=
  (descend_sameUnless (h.with_extent .all) hschema [] []).listing

theorem verdict_sameUnless (h : task.SameUnless Excused name whole next')
    (hschema : ConfinedTo name whole schema) :
    SchemaBridge.SameUnless Excused (task.verdict schema) ((task.withNext next').verdict schema) :=
  (descend_sameUnless (h.with_extent .trial) hschema [] []).verdict rfl

theorem allows_sameUnless (h : task.SameUnless Excused name whole next')
    (hschema : ConfinedTo name whole schema) :
    SchemaBridge.SameUnless Excused (task.allows schema) ((task.withNext next').allows schema) := by
  refine SameUnless.bind (.inl rfl) fun setting _ => ?_
  exact (h.next .trial setting schema task.data hschema).verdict rfl

theorem follow_sameUnless (h : task.SameUnless Excused name whole next') {lead : Reference.Lead}
    (hlead : ConfinedTo name whole lead.target.contents) :
    (task.follow lead).SameUnless Excused task.extent ((task.withNext next').follow lead) := by
  unfold follow
  split
  · exact .inl rfl
  · exact .inl rfl
  · refine Outcome.sameUnless_ofExcept (.inl rfl) fun setting _ => ?_
    exact h.next task.extent setting _ task.data hlead

end Task

end SchemaBridge
