/-!
# Finding a place

A comparison need not know an answer for each pair of items. A search for the first position at
which a test holds goes on only as long as the test has an answer. A binary search halves a range;
a search from a hint first widens its steps until it has gone past the place, and then halves the
last of them. Where the test does not hold from some position on, both still end somewhere: before
the place that they end at the test does not hold, and there it does.

* `bisect?_spec`: where a binary search ends.
* `stride?_spec`: between which steps the place is.
* `gallop?_spec`: where a search from a hint ends.
-/

namespace SchemaBridge.Sorting

/-- Whether the first of two items stands before the second, if they can be compared. -/
abbrev Comparison (α : Type) := α → α → Option Bool

/-- The place of a test between two positions, by halving. -/
def bisect? (test : Nat → Option Bool) (low high : Nat) : Option Nat :=
  if low < high then
    let middle := low + (high - low) / 2
    match test middle with
    | none => none
    | some true => bisect? test low middle
    | some false => bisect? test (middle + 1) high
  else some low
termination_by high - low

/-- Steps that widen as long as the test holds: the last one at which it did, and the next one, at
which it does not or which reaches the limit. Each step is twice the last one and one more. -/
def stride? (test : Nat → Option Bool) (limit last step : Nat) : Option (Nat × Nat) :=
  if step < limit then
    match test step with
    | none => none
    | some true => stride? test limit step (2 * step + 1)
    | some false => some (last, step)
  else some (last, limit)
termination_by limit - step

/-- The place of a test among so many positions, from a hint on. -/
def gallop? (test : Nat → Option Bool) (size hint : Nat) : Option Nat :=
  match test hint with
  | none => none
  | some true =>
    match stride? (fun step => test (hint - step)) (hint + 1) 0 1 with
    | none => none
    | some (near, far) => bisect? test (hint + 1 - far) (hint - near)
  | some false =>
    match stride? (fun step => (test (hint + step)).map (!·)) (size - hint) 0 1 with
    | none => none
    | some (near, far) => bisect? test (hint + near + 1) (hint + far)

/-- A place among positions from `low` to `high`: the test does not hold before it, and holds there,
as far as positions on both sides are among these. -/
structure IsPlace (test : Nat → Option Bool) (low high place : Nat) : Prop where
  low_le : low ≤ place
  le_high : place ≤ high
  before : low < place → test (place - 1) = some false
  at_place : place < high → test place = some true

theorem bisect?_spec {test : Nat → Option Bool} {low high place : Nat} (hle : low ≤ high)
    (h : bisect? test low high = some place) : IsPlace test low high place := by
  fun_induction bisect? test low high with
  | case1 => cases h
  | case2 low high hlt middle htest ih =>
    have hmiddle : middle = low + (high - low) / 2 := rfl
    have hplace := ih (by omega) h
    refine ⟨hplace.low_le, by have := hplace.le_high; omega, hplace.before, fun _ => ?_⟩
    rcases Nat.lt_or_eq_of_le hplace.le_high with hbelow | rfl
    · exact hplace.at_place hbelow
    · exact htest
  | case3 low high hlt middle htest ih =>
    have hmiddle : middle = low + (high - low) / 2 := rfl
    have hplace := ih (by omega) h
    refine ⟨by have := hplace.low_le; omega, hplace.le_high, fun _ => ?_, hplace.at_place⟩
    rcases Nat.lt_or_eq_of_le hplace.low_le with habove | rfl
    · exact hplace.before habove
    · exact htest
  | case4 low high hlt =>
    cases h
    exact ⟨Nat.le_refl _, hle, fun hbelow => absurd hbelow (Nat.lt_irrefl _),
      fun habove => absurd habove (by omega)⟩

theorem stride?_spec {test : Nat → Option Bool} {limit last step near far : Nat}
    (h : stride? test limit last step = some (near, far)) (hlast : test last = some true)
    (hlimit : last < limit) (hstep : last < step) :
    near < far ∧ far ≤ limit ∧ test near = some true ∧ (far < limit → test far = some false) := by
  fun_induction stride? test limit last step with
  | case1 => cases h
  | case2 last step hlt htest ih => exact ih h htest hlt (by omega)
  | case3 last step hlt htest =>
    cases h
    exact ⟨hstep, Nat.le_of_lt hlt, hlast, fun _ => htest⟩
  | case4 last step hlt =>
    cases h
    exact ⟨hlimit, Nat.le_refl _, hlast, fun habove => absurd habove (Nat.lt_irrefl _)⟩

theorem gallop?_spec {test : Nat → Option Bool} {size hint place : Nat} (hhint : hint < size)
    (h : gallop? test size hint = some place) : IsPlace test 0 size place := by
  unfold gallop? at h
  split at h
  · cases h
  · next htest =>
    -- The steps go back from the hint, where the test holds.
    split at h
    · cases h
    · next near far hstride =>
      obtain ⟨hlt, hle, hnear, hfar⟩ := stride?_spec hstride htest (Nat.succ_pos hint) Nat.one_pos
      have hplace := bisect?_spec (by omega) h
      have hlow := hplace.low_le
      have hhigh := hplace.le_high
      refine ⟨Nat.zero_le _, by omega, fun hpos => ?_, fun _ => ?_⟩
      · rcases Nat.lt_or_eq_of_le hlow with habove | rfl
        · exact hplace.before habove
        · have hback : hint + 1 - far - 1 = hint - far := by omega
          rw [hback]
          exact hfar (by omega)
      · rcases Nat.lt_or_eq_of_le hhigh with hbelow | rfl
        · exact hplace.at_place hbelow
        · exact hnear
  · next htest =>
    -- The steps go on from the hint, where the test does not hold.
    split at h
    · cases h
    · next near far hstride =>
      obtain ⟨hlt, hle, hnear, hfar⟩ :=
        stride?_spec hstride (by simp [htest]) (by omega) Nat.one_pos
      have hplace := bisect?_spec (by omega) h
      have hlow := hplace.low_le
      have hhigh := hplace.le_high
      refine ⟨Nat.zero_le _, by omega, fun _ => ?_, fun hend => ?_⟩
      · rcases Nat.lt_or_eq_of_le hlow with habove | rfl
        · exact hplace.before habove
        · rw [Nat.add_sub_cancel]
          simpa using hnear
      · rcases Nat.lt_or_eq_of_le hhigh with hbelow | rfl
        · exact hplace.at_place hbelow
        · simpa using hfar (by omega)

end SchemaBridge.Sorting
