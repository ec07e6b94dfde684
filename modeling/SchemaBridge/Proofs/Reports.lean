import Mathlib
import SchemaBridge.Validation.Outcome

/-!
# Reports and what they decide

A report that is made for its first violation only and one that lists all of them may differ, but
they agree on whether there is anything to report. Most reports that schemas make are of one kind:
no fault ends them, and they are empty just if some condition holds.

* `each_eq_valid_iff`: a list of reports is empty if all of them are.
* `Agree.each`: agreement is kept from the items of a list to the whole.
* `Decides.each`, `Decides.verdict`, `Decides.listing`: what is decided of the items is decided of
  the list, and is the answer.
-/

namespace SchemaBridge.Outcome

variable {α β : Type} {extent extent' : Extent} {outcome outcome' : Outcome}

/-! ## Empty reports -/

theorem eq_valid_iff : outcome = valid ↔ outcome.violations = [] ∧ outcome.fault = none := by
  cases outcome
  simp [valid]

theorem andThen_valid (extent : Extent) (next : Unit → Outcome) :
    andThen extent valid next = next () := by
  simp [andThen, valid]

theorem andThen_eq_valid_iff {next : Unit → Outcome} :
    andThen extent outcome next = valid ↔ outcome = valid ∧ next () = valid := by
  obtain ⟨violations, fault⟩ := outcome
  rw [andThen]
  split_ifs with h
  · -- The report ends with its first part, which therefore has something to tell.
    have hne : (⟨violations, fault⟩ : Outcome) ≠ valid := by
      rintro ⟨⟩
      simp at h
    simp [hne]
  · obtain ⟨violations', fault'⟩ := next ()
    simp only [Bool.or_eq_true, Option.isSome_iff_ne_none, not_or, not_not] at h
    simp [valid, h.1, and_assoc]

theorem each_eq_valid_iff {items : List α} {report : α → Outcome} :
    each extent items report = valid ↔ ∀ item ∈ items, report item = valid := by
  induction items with
  | nil => simp [each]
  | cons item rest ih => rw [each_cons, andThen_eq_valid_iff, ih, List.forall_mem_cons]

theorem each_congr {items : List α} {report report' : α → Outcome}
    (h : ∀ item ∈ items, report item = report' item) :
    each extent items report = each extent items report' := by
  induction items with
  | nil => rfl
  | cons item rest ih =>
    rw [each_cons, each_cons, h item List.mem_cons_self,
      ih fun item hitem => h item (List.mem_cons_of_mem _ hitem)]

/-- It does not count for what the first violation is enough. -/
theorem each_of_isBrief (h : extent.isBrief = extent'.isBrief) (items : List α)
    (report : α → Outcome) : each extent items report = each extent' items report := by
  induction items with
  | nil => rfl
  | cons item rest ih => rw [each_cons, each_cons, ih, andThen, andThen, h]

theorem each_singleton (item : α) (report : α → Outcome) :
    each extent [item] report = report item := by
  rw [each_cons, each]
  obtain ⟨violations, fault⟩ := report item
  rw [andThen]
  split_ifs with h
  · rfl
  · simp only [Bool.or_eq_true, Option.isSome_iff_ne_none, not_or, not_not] at h
    simp [valid, h.1]

theorem andThen_assoc {next next' : Unit → Outcome} :
    andThen extent (andThen extent outcome next) next'
      = andThen extent outcome fun _ => andThen extent (next ()) next' := by
  obtain ⟨violations, fault⟩ := outcome
  cases fault <;> cases violations <;> cases hbrief : extent.isBrief <;> simp [andThen, hbrief]
  split <;> simp

theorem each_append {items items' : List α} {report : α → Outcome} :
    each extent (items ++ items') report
      = andThen extent (each extent items report) fun _ => each extent items' report := by
  induction items with
  | nil => rw [List.nil_append, each, andThen_valid]
  | cons item rest ih => rw [List.cons_append, each_cons, each_cons, andThen_assoc, ih]

theorem each_map {items : List β} {f : β → α} {report : α → Outcome} :
    each extent (items.map f) report = each extent items fun item => report (f item) := by
  induction items with
  | nil => rfl
  | cons item rest ih => rw [List.map_cons, each_cons, each_cons, ih]

/-- An item at the end that has nothing to report does not count. -/
theorem each_append_valid {items : List α} {last : α} {report : α → Outcome}
    (h : report last = valid) : each extent (items ++ [last]) report = each extent items report := by
  induction items with
  | nil => rw [List.nil_append, each_cons, h, andThen_valid]
  | cons item rest ih => rw [List.cons_append, each_cons, each_cons, ih]

theorem inside_eq_valid_iff {path schemaPath : List PathStep} :
    inside path schemaPath outcome = valid ↔ outcome = valid := by
  simp [eq_valid_iff, inside]

theorem inside_nil : inside [] [] outcome = outcome := by
  simp [inside]

theorem verdict_eq_true_iff : outcome.verdict = .ok true ↔ outcome = valid := by
  obtain ⟨violations, fault⟩ := outcome
  cases violations <;> cases fault <;> simp [verdict, valid]

theorem listing_eq_nil_iff : outcome.listing = .ok [] ↔ outcome = valid := by
  obtain ⟨violations, fault⟩ := outcome
  cases fault <;> simp [listing, valid]

/-! ## Agreement -/

/-- Two reports are empty alike, and the same if the first violation is enough for both, or for
neither. -/
def Agree (extent extent' : Extent) (outcome outcome' : Outcome) : Prop :=
  (outcome = valid ↔ outcome' = valid) ∧ (extent.isBrief = extent'.isBrief → outcome = outcome')

theorem Agree.of_eq (h : outcome = outcome') : Agree extent extent' outcome outcome' :=
  ⟨by rw [h], fun _ => h⟩

theorem Agree.inside (h : Agree extent extent' outcome outcome') (path schemaPath : List PathStep) :
    Agree extent extent' (outcome.inside path schemaPath) (outcome'.inside path schemaPath) := by
  refine ⟨?_, fun hextent => by rw [h.2 hextent]⟩
  rw [inside_eq_valid_iff, inside_eq_valid_iff]
  exact h.1

theorem Agree.each {items : List α} {report report' : α → Outcome}
    (h : ∀ item ∈ items, Agree extent extent' (report item) (report' item)) :
    Agree extent extent' (each extent items report) (each extent' items report') := by
  constructor
  · rw [each_eq_valid_iff, each_eq_valid_iff]
    exact forall₂_congr fun item hitem => (h item hitem).1
  · intro hextent
    rw [each_of_isBrief hextent]
    exact each_congr fun item hitem => (h item hitem).2 hextent

/-! ## Decisions -/

/-- The report is complete, and empty just if the condition holds. -/
def Decides (outcome : Outcome) (condition : Prop) : Prop :=
  outcome.fault = none ∧ (outcome.violations = [] ↔ condition)

theorem Decides.valid : Decides valid True := by
  simp [Decides, Outcome.valid]

theorem Decides.require (keyword message : String) (holds : Bool) :
    Decides (require keyword holds message) (holds = true) := by
  cases holds <;> simp [Decides, Outcome.require, Outcome.valid, violated]

theorem Decides.congr {condition condition' : Prop} (h : Decides outcome condition)
    (hiff : condition ↔ condition') : Decides outcome condition' := by
  rwa [← propext hiff]

theorem Decides.inside {condition : Prop} (h : Decides outcome condition)
    (path schemaPath : List PathStep) : Decides (outcome.inside path schemaPath) condition :=
  ⟨h.1, by rw [← h.2, Outcome.inside, List.map_eq_nil_iff]⟩

theorem Decides.eq_valid_iff {condition : Prop} (h : Decides outcome condition) :
    outcome = Outcome.valid ↔ condition := by
  rw [Outcome.eq_valid_iff, h.2]
  exact and_iff_left h.1

theorem Decides.of_fault {condition : Prop} (hfault : outcome.fault = none)
    (hvalid : outcome = Outcome.valid ↔ condition) : Decides outcome condition := by
  refine ⟨hfault, Iff.trans ?_ hvalid⟩
  rw [Outcome.eq_valid_iff, hfault]
  simp

theorem Decides.andThen {condition condition' : Prop} {next : Unit → Outcome}
    (h : Decides outcome condition) (hnext : Decides (next ()) condition') :
    Decides (andThen extent outcome next) (condition ∧ condition') := by
  have hfault : (Outcome.andThen extent outcome next).fault = none := by
    rw [Outcome.andThen]
    split_ifs
    · exact h.1
    · exact hnext.1
  exact .of_fault hfault
    (andThen_eq_valid_iff.trans (and_congr h.eq_valid_iff hnext.eq_valid_iff))

theorem Decides.nil (extent : Extent) (report : α → Outcome) :
    Decides (each extent [] report) True := .valid

theorem Decides.cons {item : α} {rest : List α} {report : α → Outcome}
    {condition condition' : Prop} (h : Decides (report item) condition)
    (hrest : Decides (each extent rest report) condition') :
    Decides (each extent (item :: rest) report) (condition ∧ condition') := h.andThen hrest

/-- What is decided of the items is decided of the list; the items may be told by others. -/
theorem Decides.forall₂ {items : List α} {items' : List β} {report : α → Outcome}
    {condition : β → Prop}
    (h : List.Forall₂ (fun item item' => Decides (report item) (condition item')) items items') :
    Decides (each extent items report) (∀ item' ∈ items', condition item') := by
  induction h with
  | nil => exact Decides.valid.congr (by simp)
  | cons hitem _ ih => exact (hitem.cons ih).congr List.forall_mem_cons.symm

theorem Decides.each {items : List α} {report : α → Outcome} {condition : α → Prop}
    (h : ∀ item ∈ items, Decides (report item) (condition item)) :
    Decides (each extent items report) (∀ item ∈ items, condition item) :=
  .forall₂ (List.forall₂_same.mpr h)

theorem Decides.append {items items' : List α} {report : α → Outcome}
    {condition condition' : Prop} (h : Decides (Outcome.each extent items report) condition)
    (h' : Decides (Outcome.each extent items' report) condition') :
    Decides (Outcome.each extent (items ++ items') report) (condition ∧ condition') := by
  rw [each_append]
  exact h.andThen h'

theorem Decides.verdict {condition : Prop} (h : Decides outcome condition) :
    ∃ answer, outcome.verdict = .ok answer ∧ (answer = true ↔ condition) := by
  obtain ⟨violations, fault⟩ := outcome
  obtain ⟨rfl, hcondition⟩ := h
  refine ⟨violations.isEmpty, ?_, by rw [← hcondition]; simp⟩
  cases violations <;> rfl

theorem Decides.listing {condition : Prop} (h : Decides outcome condition) :
    ∃ violations, outcome.listing = .ok violations ∧ (violations = [] ↔ condition) := by
  obtain ⟨violations, fault⟩ := outcome
  obtain ⟨rfl, hcondition⟩ := h
  exact ⟨violations, rfl, hcondition⟩

end SchemaBridge.Outcome
