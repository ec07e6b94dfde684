import Mathlib
import SchemaBridge.Proofs.Reports
import SchemaBridge.Validation.Application

/-!
# Exactly one of several branches

The keyword `oneOf` looks for the first branch that allows the value, going through all violations
of the branches before it, and then asks the branches behind it for their first violation only. So a
fault in a branch counts in different ways before the first valid one and behind it.

* `filterM_eq_nil_iff`: a test that may fail selects nothing just if it refuses every item.
* `firstValid_eq_some_iff`: the first branch that allows the value.
* `oneOfOutcome_eq_valid_iff`: when exactly one branch allows it.
-/

namespace SchemaBridge

/-! ## Results -/

theorem eq_ok_of_toOption {ε α : Type} {result : Except ε α} {value : α}
    (h : result.toOption = some value) : result = .ok value := by
  cases result with
  | error fault => cases h
  | ok value' =>
    cases h
    rfl

theorem exists_error_of_toOption {ε α : Type} {result : Except ε α} (h : result.toOption = none) :
    ∃ fault, result = .error fault := by
  cases result with
  | error fault => exact ⟨fault, rfl⟩
  | ok value => cases h

/-! ## Tests that may fail -/

section

variable {α : Type} {test test' : α → Except Fault Bool}

theorem filterAuxM_eq (test : α → Except Fault Bool) (items acc : List α) :
    items.filterAuxM test acc = (items.filterAuxM test []).map (· ++ acc) := by
  induction items generalizing acc with
  | nil => rfl
  | cons item rest ih =>
    rw [List.filterAuxM, List.filterAuxM]
    cases test item with
    | error fault => rfl
    | ok keep =>
      change rest.filterAuxM test _ = (rest.filterAuxM test _).map _
      rw [ih, ih (cond keep [item] [])]
      cases rest.filterAuxM test [] with
      | error fault => rfl
      | ok kept => cases keep <;> simp [Except.map]

theorem filterM_cons (test : α → Except Fault Bool) (item : α) (rest : List α) :
    (item :: rest).filterM test = do
      let keep ← test item
      let kept ← rest.filterM test
      return if keep then item :: kept else kept := by
  rw [List.filterM, List.filterAuxM]
  cases test item with
  | error fault => rfl
  | ok keep =>
    change (rest.filterAuxM test _ >>= _) = (rest.filterAuxM test [] >>= _) >>= _
    rw [filterAuxM_eq]
    cases rest.filterAuxM test [] with
    | error fault => rfl
    | ok kept => cases keep <;> simp [Except.map, bind, Except.bind, pure, Except.pure]

theorem filterM_congr {items : List α} (h : ∀ item ∈ items, test item = test' item) :
    items.filterM test = items.filterM test' := by
  induction items with
  | nil => rfl
  | cons item rest ih =>
    rw [filterM_cons, filterM_cons, h item List.mem_cons_self,
      ih fun item hitem => h item (List.mem_cons_of_mem _ hitem)]

theorem filterM_eq_nil_iff {items : List α} :
    items.filterM test = .ok [] ↔ ∀ item ∈ items, test item = .ok false := by
  induction items with
  | nil => simp [List.filterM, List.filterAuxM, bind, Except.bind, pure, Except.pure]
  | cons item rest ih =>
    rw [filterM_cons, List.forall_mem_cons, ← ih]
    cases test item with
    | error fault => simp [bind, Except.bind]
    | ok keep =>
      cases rest.filterM test with
      | error fault => simp [bind, Except.bind]
      | ok kept => cases keep <;> simp [bind, Except.bind, pure, Except.pure]

end

/-! ## Branches -/

namespace Schema

variable {task task' : Task} {branches rest : List Datum} {first value : Datum}

theorem firstValid_congr (h : ∀ branch ∈ branches, task.listing branch = task'.listing branch) :
    firstValid task branches = firstValid task' branches := by
  induction branches with
  | nil => rfl
  | cons branch rest ih =>
    rw [firstValid, firstValid, h branch List.mem_cons_self,
      ih fun branch hbranch => h branch (List.mem_cons_of_mem _ hbranch)]

/-- Every violation of the branches before the first valid one is listed. -/
theorem firstValid_eq_some_iff :
    firstValid task branches = .ok (some (first, rest)) ↔
      ∃ before, branches = before ++ first :: rest ∧ task.listing first = .ok [] ∧
        ∀ branch ∈ before, ∃ violations, violations ≠ [] ∧
          task.listing branch = .ok violations := by
  induction branches with
  | nil => simp [firstValid]
  | cons branch others ih =>
    rw [firstValid]
    constructor
    · intro h
      split at h
      · cases h
      · next hvalid =>
        cases h
        exact ⟨[], rfl, hvalid, by simp⟩
      · next violations hne hlisting =>
        obtain ⟨before, rfl, hvalid, hbefore⟩ := ih.mp h
        refine ⟨branch :: before, rfl, hvalid, List.forall_mem_cons.mpr ⟨?_, hbefore⟩⟩
        exact ⟨violations, hne, hlisting⟩
    · rintro ⟨before, heq, hvalid, hbefore⟩
      cases before with
      | nil =>
        cases heq
        rw [hvalid]
      | cons branch' before =>
        cases heq
        obtain ⟨⟨violations, hne, hlisting⟩, hbefore⟩ := List.forall_mem_cons.mp hbefore
        obtain ⟨violation, violations, rfl⟩ := List.exists_cons_of_ne_nil hne
        rw [hlisting]
        exact ih.mpr ⟨before, rfl, hvalid, hbefore⟩

theorem subset_of_firstValid (h : firstValid task branches = .ok (some (first, rest))) :
    rest ⊆ branches := by
  obtain ⟨before, rfl, -⟩ := firstValid_eq_some_iff.mp h
  exact fun branch hbranch => List.mem_append_right _ (List.mem_cons_of_mem _ hbranch)

/-- What is said of a value depends on the branches only through what is said of each. -/
theorem oneOfOutcome_congr (hdata : task.data = task'.data)
    (hlisting : ∀ branches, value.items? = some branches →
      ∀ branch ∈ branches, task.listing branch = task'.listing branch)
    (hallows : ∀ branches, value.items? = some branches →
      ∀ branch ∈ branches, task.allows branch = task'.allows branch) :
    oneOfOutcome task value = oneOfOutcome task' value := by
  rw [oneOfOutcome, oneOfOutcome, hdata]
  split
  · rfl
  · next branches hbranches =>
    rw [firstValid_congr (hlisting branches hbranches)]
    cases hfirst : firstValid task' branches with
    | error fault => rfl
    | ok found =>
      obtain _ | ⟨first, rest⟩ := found
      · rfl
      · have hrest : rest.filterM task.allows = rest.filterM task'.allows :=
          filterM_congr fun branch hmem =>
            hallows branches hbranches branch (subset_of_firstValid hfirst hmem)
        simp only [Outcome.ofExcept, hrest]

/-- One branch allows the value, each branch before it has violations that can all be told, and each
behind it has a first one. -/
theorem oneOfOutcome_eq_valid_iff (h : value.items? = some branches) :
    oneOfOutcome task value = .valid ↔
      ∃ before first rest, branches = before ++ first :: rest ∧ task.listing first = .ok [] ∧
        (∀ branch ∈ before, ∃ violations, violations ≠ [] ∧
          task.listing branch = .ok violations) ∧
        ∀ branch ∈ rest, task.allows branch = .ok false := by
  have hfirst : oneOfOutcome task value = .valid ↔
      ∃ first rest, firstValid task branches = .ok (some (first, rest)) ∧
        rest.filterM task.allows = .ok [] := by
    rw [oneOfOutcome, h]
    cases hfound : firstValid task branches with
    | error fault => simp [hfound, Outcome.ofExcept, Outcome.stopped, Outcome.valid]
    | ok found =>
      obtain _ | ⟨first, rest⟩ := found
      · simp [hfound, Outcome.ofExcept, Outcome.violated, Outcome.valid]
      · cases hothers : rest.filterM task.allows with
        | error fault => simp [hfound, hothers, Outcome.ofExcept, Outcome.stopped, Outcome.valid]
        | ok others =>
          cases others <;>
            simp [hfound, hothers, Outcome.ofExcept, Outcome.require, Outcome.violated,
              Outcome.valid]
  rw [hfirst]
  constructor
  · rintro ⟨first, rest, hfound, hothers⟩
    obtain ⟨before, hbranches, hvalid, hbefore⟩ := firstValid_eq_some_iff.mp hfound
    exact ⟨before, first, rest, hbranches, hvalid, hbefore, filterM_eq_nil_iff.mp hothers⟩
  · rintro ⟨before, first, rest, hbranches, hvalid, hbefore, hrest⟩
    exact ⟨first, rest, firstValid_eq_some_iff.mpr ⟨before, hbranches, hvalid, hbefore⟩,
      filterM_eq_nil_iff.mpr hrest⟩

end Schema

end SchemaBridge
