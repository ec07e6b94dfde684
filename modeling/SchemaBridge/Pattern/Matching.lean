import SchemaBridge.Pattern.Basic

/-!
# The matcher finds exactly the matches

* `run_iff`: a pattern's matcher succeeds exactly if some match leaves what the continuation
  accepts.
* `fullMatch_iff`: the same for whole texts.
-/

namespace SchemaBridge.Pattern

variable {R : List Char → List Char → Prop} {step : Matcher} {s t : List Char}
  {k : List Char → Bool}

/-- The matcher succeeds exactly if the relation leads to a text that the continuation accepts. -/
def Finds (R : List Char → List Char → Prop) (step : Matcher) : Prop :=
  ∀ s k, step s k = true ↔ ∃ t, R s t ∧ k t = true

theorem exactly_finds (h : Finds R step) (n : Nat) : Finds (Chain R n) (exactly step n) := by
  induction n with
  | zero => simp [Finds, exactly, Chain]
  | succ n ih =>
    intro s k
    rw [exactly, h]
    simp only [ih _ _, Chain]
    exact ⟨fun ⟨m, hm, t, ht, hk⟩ => ⟨t, ⟨m, hm, ht⟩, hk⟩,
      fun ⟨t, ⟨m, hm, ht⟩, hk⟩ => ⟨m, hm, t, ht, hk⟩⟩

theorem rounds_succ (h : Finds R step) (n : Nat) :
    rounds step (n + 1) s k = true
      ↔ (∃ m, R s m ∧ m.length < s.length ∧ rounds step n m k = true) ∨ k s = true := by
  rw [rounds, Bool.or_eq_true, h]
  refine or_congr_left (exists_congr fun m => and_congr_right fun _ => ?_)
  by_cases hlt : m.length < s.length <;> simp [hlt]

theorem rounds_finds (h : Finds R step) (n : Nat) :
    rounds step n s k = true ↔ ∃ j ≤ n, ∃ t, Rounds R j s t ∧ k t = true := by
  induction n generalizing s with
  | zero =>
    refine ⟨fun hk => ⟨0, Nat.le_refl _, s, rfl, hk⟩, fun ⟨j, hj, t, ht, hk⟩ => ?_⟩
    obtain rfl := Nat.le_zero.mp hj
    obtain rfl := ht
    exact hk
  | succ n ih =>
    rw [rounds_succ h]
    constructor
    · rintro (⟨m, hm, hlt, hk⟩ | hk)
      · obtain ⟨j, hj, t, ht, hk⟩ := ih.mp hk
        exact ⟨j + 1, by omega, t, ⟨m, hm, hlt, ht⟩, hk⟩
      · exact ⟨0, by omega, s, rfl, hk⟩
    · rintro ⟨_ | j, hj, t, ht, hk⟩
      · obtain rfl := ht
        exact .inr hk
      · obtain ⟨m, hm, hlt, ht⟩ := ht
        exact .inl ⟨m, hm, hlt, ih.mpr ⟨j, by omega, t, ht, hk⟩⟩

/-- Each round takes some text, so there are not more than there is text. -/
theorem Rounds.le_length {n : Nat} (h : Rounds R n s t) : n ≤ s.length := by
  induction n generalizing s with
  | zero => omega
  | succ n ih =>
    obtain ⟨m, -, hlt, ht⟩ := h
    have := ih ht
    omega

theorem times_finds (h : Finds R step) (least : Nat) (most : Option Nat) :
    Finds
      (fun s t => ∃ m n, Chain R least s m ∧ (∀ bound ∈ most, least + n ≤ bound) ∧ Rounds R n m t)
      (fun s k =>
        if most.all (least ≤ ·) then
          exactly step least s fun t => rounds step (most.elim t.length (· - least)) t k
        else false) := by
  intro s k
  split
  · next hmost =>
    rw [exactly_finds h least]
    constructor
    · rintro ⟨m, hm, hk⟩
      obtain ⟨j, hj, t, ht, hk⟩ := (rounds_finds h _).mp hk
      refine ⟨t, ⟨m, j, hm, fun bound hbound => ?_, ht⟩, hk⟩
      cases hbound
      simp only [Option.all_some, decide_eq_true_eq] at hmost
      simp only [Option.elim_some] at hj
      omega
    · rintro ⟨t, ⟨m, n, hm, hbound, ht⟩, hk⟩
      refine ⟨m, hm, (rounds_finds h _).mpr ⟨n, ?_, t, ht, hk⟩⟩
      cases most with
      | none => exact ht.le_length
      | some bound =>
        have := hbound bound rfl
        simp only [Option.elim_some]
        omega
  · next hmost =>
    refine iff_of_false Bool.false_ne_true ?_
    rintro ⟨t, ⟨m, n, -, hbound, -⟩, -⟩
    cases most with
    | none => exact hmost rfl
    | some bound =>
      have := hbound bound rfl
      exact hmost (by simp only [Option.all_some, decide_eq_true_eq]; omega)

theorem run_finds (pattern : Pattern) : Finds pattern.Matches pattern.run := by
  induction pattern with
  | empty => simp [Finds, Matches, run]
  | char set =>
    intro s k
    cases s with
    | nil => simp [run, Matches]
    | cons c t =>
      simp only [run, Bool.and_eq_true, Matches, List.cons.injEq]
      exact ⟨fun ⟨hc, hk⟩ => ⟨t, ⟨c, ⟨rfl, rfl⟩, hc⟩, hk⟩,
        fun ⟨_, ⟨_, ⟨hd, ht⟩, hc⟩, hk⟩ => by subst hd ht; exact ⟨hc, hk⟩⟩
  | seq first second ih ih' =>
    intro s k
    rw [run, ih]
    simp only [ih' _ _, Matches]
    exact ⟨fun ⟨m, hm, t, ht, hk⟩ => ⟨t, ⟨m, hm, ht⟩, hk⟩,
      fun ⟨t, ⟨m, hm, ht⟩, hk⟩ => ⟨m, hm, t, ht, hk⟩⟩
  | alt first second ih ih' =>
    intro s k
    rw [run, Bool.or_eq_true, ih, ih', ← exists_or]
    simp only [Matches, or_and_right]
  | times body least most ih => exact times_finds ih least most
  | lastLineFinish =>
    intro s k
    simp only [run, Matches, Bool.and_eq_true, Bool.or_eq_true, List.isEmpty_iff, beq_iff_eq]
    exact ⟨fun ⟨hs, hk⟩ => ⟨s, ⟨hs, rfl⟩, hk⟩, fun ⟨_, ⟨hs, ht⟩, hk⟩ => ⟨hs, ht ▸ hk⟩⟩
  | ahead body ih =>
    intro s k
    rw [run, Bool.and_eq_true, ih]
    simp only [and_true, Matches]
    exact ⟨fun ⟨hm, hk⟩ => ⟨s, ⟨hm, rfl⟩, hk⟩, fun ⟨_, ⟨hm, ht⟩, hk⟩ => ⟨hm, ht ▸ hk⟩⟩

theorem run_iff {pattern : Pattern} :
    pattern.run s k = true ↔ ∃ t, pattern.Matches s t ∧ k t = true :=
  pattern.run_finds s k

theorem fullMatch_iff {pattern : Pattern} {text : List Char} :
    pattern.fullMatch text = true ↔ pattern.Matches text [] := by
  simp only [fullMatch, run_iff, List.isEmpty_iff, exists_eq_right]

end SchemaBridge.Pattern
