import SchemaBridge.Sorting.Merge

/-!
# Sorting by runs

A list is sorted with the help of the order that is in it already. It is read as runs that rise or
fall; a run that is too short takes up the items after it, one by one, at the places that a binary
search finds. The runs are merged as soon as a later boundary between runs is a stronger one, where
a boundary is weaker the more often the whole list has to be halved to part the middles of the runs
beside it.

A sort meets each item, so it has a result only if all the comparisons that it makes have one. Where
the comparison is no order, the result depends on which ones these are.

* `takeRun?_append`: a run and what is left of it are the items it was taken from.
-/

namespace SchemaBridge.Sorting

variable {α : Type}

/-! ## Runs -/

/-- The run that goes on from `last`, and the items after it. A falling run goes on as long as each
item stands before the last one, any other run as long as none does. -/
def takeRun? (before? : Comparison α) (falling : Bool) (last : α) :
    List α → Option (List α × List α)
  | [] => some ([], [])
  | item :: rest =>
    match before? item last with
    | none => none
    | some below =>
      if below = falling then
        (takeRun? before? falling item rest).map fun (run, others) => (item :: run, others)
      else some ([], item :: rest)

/-- The run at the front, in rising order, and the items after it. -/
def firstRun? (before? : Comparison α) : List α → Option (List α × List α)
  | first :: second :: rest => do
    let falling ← before? second first
    let (run, others) ← takeRun? before? falling second rest
    let run := first :: second :: run
    return (if falling then run.reverse else run, others)
  | items => some (items, [])

/-- An item put into a run, after all those that it does not stand before. -/
def insert? (before? : Comparison α) (run : Array α) (item : α) : Option (Array α) :=
  (bisect? (fun position => run[position]?.elim (some true) (before? item)) 0 run.size).map
    fun place => run.insertIdxIfInBounds place item

/-- The least length of a run in a list of the given length. A short list is one run; a longer one
has runs of 32 to 64 items, so that their number is close to a power of two. -/
def leastLength (length : Nat) : Nat := shortened length false
where
  /-- The length halved until it is below 64, plus one if the halving has left anything out. -/
  shortened (length : Nat) (hasRest : Bool) : Nat :=
    if length < 64 then length + hasRest.toNat
    else shortened (length / 2) (hasRest || length % 2 = 1)
  termination_by length

/-- The run at the front, not shorter than the least length if there are items enough, and the items
after it. -/
def nextRun? (before? : Comparison α) (least : Nat) (items : List α) :
    Option (Array α × List α) := do
  let (run, others) ← firstRun? before? items
  let lacking := least - run.length
  let run ← (others.take lacking).foldlM (insert? before?) run.toArray
  return (run, others.drop lacking)

/-! ## Merging the runs -/

/-- A run in its place, with the weakness of the boundary after it. -/
structure Block (α : Type) where
  start : Nat
  items : Array α
  weakness : Nat := 0

/-- The weakness of the boundary between two neighbouring runs of a list: how often the list is
halved until their middles are in different parts. -/
def weakness (total start first second : Nat) : Nat :=
  let middle := 2 * start + first
  let middle' := middle + first + second
  let halvings := List.range (total.log2 + 2)
  (halvings.find? fun count => (middle <<< count) / total ≠ (middle' <<< count) / total).getD
    halvings.length

/-- The blocks that are waiting, the last one first, and the threshold for merging them. -/
structure Waiting (α : Type) where
  blocks : List (Block α)
  threshold : Nat := Merging.payingCount

/-- Two neighbouring blocks merged, the later one given first. -/
def Block.merge? (before? : Comparison α) (threshold : Nat) (later earlier : Block α) :
    Option (Block α × Nat) :=
  (Sorting.merge? before? threshold earlier.items later.items).map fun (items, threshold) =>
    ({ earlier with items }, threshold)

/-- A block merged with those before it as long as the boundary is weaker than the given one. -/
def mergeWeaker? (before? : Comparison α) (weakness : Nat) (threshold : Nat) (last : Block α) :
    List (Block α) → Option (Waiting α)
  | [] => some ⟨[last], threshold⟩
  | earlier :: rest =>
    if earlier.weakness ≤ weakness then some ⟨last :: earlier :: rest, threshold⟩
    else
      match last.merge? before? threshold earlier with
      | none => none
      | some (merged, threshold) => mergeWeaker? before? weakness threshold merged rest

/-- The blocks with a further one after them. -/
def Waiting.add? (before? : Comparison α) (total start : Nat) (run : Array α) (waiting : Waiting α) :
    Option (Waiting α) :=
  match waiting.blocks with
  | [] => some { waiting with blocks := [⟨start, run, 0⟩] }
  | last :: rest =>
    let weakness := weakness total last.start last.items.size run.size
    (mergeWeaker? before? weakness waiting.threshold last rest).map fun waiting =>
      match waiting.blocks with
      | [] => waiting
      | last :: rest =>
        { waiting with blocks := ⟨start, run, 0⟩ :: { last with weakness } :: rest }

/-- All the blocks merged into one. Of the last three the first two are merged if the first one is
shorter than the last one. -/
def mergeAll? (before? : Comparison α) (threshold : Nat) : List (Block α) → Option (Array α)
  | [] => some #[]
  | [block] => some block.items
  | [last, earlier] => (last.merge? before? threshold earlier).map (·.1.items)
  | last :: middle :: earlier :: rest =>
    if earlier.items.size < last.items.size then
      match middle.merge? before? threshold earlier with
      | none => none
      | some (merged, threshold) => mergeAll? before? threshold (last :: merged :: rest)
    else
      match last.merge? before? threshold middle with
      | none => none
      | some (merged, threshold) => mergeAll? before? threshold (merged :: earlier :: rest)
termination_by blocks => blocks.length

/-- The items after the given number of others, put into runs that wait with those before them, and
all merged. No more than the given number of runs is taken. -/
def sortFrom? (before? : Comparison α) (total : Nat) :
    Nat → Nat → Waiting α → List α → Option (Array α)
  | 0, _, waiting, _ | _, _, waiting, [] => mergeAll? before? waiting.threshold waiting.blocks
  | runs + 1, start, waiting, items =>
    match nextRun? before? (leastLength total) items with
    | none => none
    | some (run, others) =>
      match waiting.add? before? total start run with
      | none => none
      | some waiting => sortFrom? before? total runs (start + run.size) waiting others

/-- The items in order, if the comparisons that are made have an answer. -/
def sort? (before? : Comparison α) (items : List α) : Option (List α) :=
  (sortFrom? before? items.length items.length 0 ⟨[], Merging.payingCount⟩ items).map (·.toList)

theorem takeRun?_append {before? : Comparison α} {falling : Bool} {last : α}
    {items run others : List α} (h : takeRun? before? falling last items = some (run, others)) :
    run ++ others = items := by
  induction items generalizing last run others with
  | nil =>
    cases h
    rfl
  | cons item rest ih =>
    unfold takeRun? at h
    split at h
    · cases h
    · split at h
      · obtain ⟨⟨run', others'⟩, hrun, heq⟩ := Option.map_eq_some_iff.mp h
        cases heq
        simp [ih hrun]
      · cases h
        rfl

end SchemaBridge.Sorting
