import SchemaBridge.Sorting.Search

/-!
# Merging runs

Two neighbouring runs that are in order are merged into one. What already stands in its place at the
outer ends is left out; the shorter one of the remaining runs decides from which end items are taken.
At first they are taken one by one. When one run has given so many in a row as the threshold says,
the numbers of items to take are searched for instead, until the searches do not pay. The threshold
becomes lower with each round of searches and higher when they end, and goes on to the next merge.
-/

namespace SchemaBridge.Sorting

variable {α : Type}

/-- The end of two runs from which items are taken. -/
inductive End where
  | front | back
deriving DecidableEq

/-- A run, and how many items have been taken from its end. -/
structure Run (α : Type) where
  items : Array α
  taken : Nat := 0

namespace Run

/-- The number of items left. -/
def size (run : Run α) : Nat := run.items.size - run.taken

/-- The position of the first item left. -/
def start (run : Run α) : End → Nat
  | .front => run.taken
  | .back => 0

/-- The item left that is counted from the first one. -/
def left? (run : Run α) (side : End) (position : Nat) : Option α :=
  run.items[run.start side + position]?

/-- The position of the item to be taken next, among those left. -/
def next (run : Run α) : End → Nat
  | .front => 0
  | .back => run.size - 1

/-- The item to be taken next. -/
def next? (run : Run α) (side : End) : Option α := run.left? side (run.next side)

/-- The items left. -/
def rest (run : Run α) (side : End) : Array α :=
  run.items.extract (run.start side) (run.start side + run.size)

/-- The run after so many items are taken. -/
def take (run : Run α) (count : Nat) : Run α := { run with taken := run.taken + count }

/-- The next items, in the order in which they are taken. -/
def nextItems (run : Run α) (side : End) (count : Nat) : Array α :=
  match side with
  | .front => run.items.extract run.taken (run.taken + count)
  | .back => (run.items.extract (run.size - count) run.size).reverse

/-- How many items are to be taken before the place of a test. -/
def reach? (run : Run α) (side : End) (test : α → Option Bool) : Option Nat :=
  let place := gallop? (fun position => (run.left? side position).elim (some true) test) run.size
    (run.next side)
  match side with
  | .front => place
  | .back => place.map (run.size - ·)

end Run

/-- A merge on its way: what is left of both runs, and the items taken, in that order. -/
structure Merging (α : Type) where
  left : Run α
  right : Run α
  merged : Array α := #[]

namespace Merging

/-- The merge after items are taken from the left run. -/
def takeLeft (merging : Merging α) (side : End) (count : Nat) : Merging α :=
  { merging with
    left := merging.left.take count
    merged := merging.merged ++ merging.left.nextItems side count }

/-- The merge after items are taken from the right run. -/
def takeRight (merging : Merging α) (side : End) (count : Nat) : Merging α :=
  { merging with
    right := merging.right.take count
    merged := merging.merged ++ merging.right.nextItems side count }

/-- Nothing is left to be compared: a run is used up, or has only the item left that is known to be
the last one. -/
def isOver (merging : Merging α) : End → Bool
  | .front => merging.left.size ≤ 1 || merging.right.size = 0
  | .back => merging.right.size ≤ 1 || merging.left.size = 0

/-- All the items, when nothing is left to be compared. -/
def result (merging : Merging α) (side : End) : Array α :=
  let rest := merging.right.rest side ++ merging.left.rest side
  match side with
  | .front => merging.merged ++ rest
  | .back => rest ++ merging.merged.reverse

/-- The next item is to be taken from the left run. -/
def isLeftNext? (before? : Comparison α) (merging : Merging α) (side : End) : Option Bool := do
  let below ← before? (← merging.right.next? side) (← merging.left.next? side)
  return below = (side = .back)

/-- As many items in a row pay for a search. -/
def payingCount : Nat := 7

/-- A round of searches: how far the left run goes before the next item of the right one, which
follows, and then the same the other way. Tells whether the round has paid. -/
def round? (before? : Comparison α) (side : End) (merging : Merging α) :
    Option (Merging α × Bool) := do
  let key ← merging.right.next? side
  let count ← merging.left.reach? side (before? key)
  let merging := merging.takeLeft side count
  if merging.isOver side then return (merging, false)
  let merging := merging.takeRight side 1
  if merging.isOver side then return (merging, false)
  let key ← merging.left.next? side
  let count' ← merging.right.reach? side fun item => (before? item key).map (!·)
  let merging := merging.takeRight side count'
  if merging.isOver side then return (merging, false)
  return (merging.takeLeft side 1, payingCount ≤ count || payingCount ≤ count')

mutual

/-- The end of a merge in which items are taken one by one, and the threshold then. The last run
that gave items, and how many in a row, are remembered. No more than the given number of steps is
made. -/
def singly? (before? : Comparison α) (side : End) (threshold : Nat) :
    Nat → Bool → Nat → Merging α → Option (Array α × Nat)
  | 0, _, _, merging => some (merging.result side, threshold)
  | steps + 1, wasLeft, row, merging =>
    if merging.isOver side then some (merging.result side, threshold)
    else
      match merging.isLeftNext? before? side with
      | none => none
      | some isLeft =>
        let merging := if isLeft then merging.takeLeft side 1 else merging.takeRight side 1
        let row := if isLeft = wasLeft then row + 1 else 1
        if threshold ≤ row && !merging.isOver side then
          searching? before? side threshold steps merging
        else singly? before? side threshold steps isLeft row merging

/-- The end of a merge in which the numbers of items to take are searched for. -/
def searching? (before? : Comparison α) (side : End) (threshold : Nat) :
    Nat → Merging α → Option (Array α × Nat)
  | 0, merging => some (merging.result side, threshold)
  | steps + 1, merging =>
    match round? before? side merging with
    | none => none
    | some (merging, paid) =>
      if merging.isOver side then some (merging.result side, threshold)
      else if paid then searching? before? side (max 1 (threshold - 1)) steps merging
      else singly? before? side (threshold + 1) steps false 0 merging

end

end Merging

/-- Two runs that overlap, merged from the end of the shorter one. It is known that the item next
to the place between them goes first. -/
def mergeOverlap? (before? : Comparison α) (threshold : Nat) (left right : Array α) :
    Option (Array α × Nat) :=
  let merging : Merging α := { left := { items := left }, right := { items := right } }
  let steps := left.size + right.size + 1
  if left.size ≤ right.size then
    merging.takeRight .front 1 |>.singly? before? .front threshold steps false 0
  else merging.takeLeft .back 1 |>.singly? before? .back threshold steps false 0

/-- Two runs merged, and the threshold after that. -/
def merge? (before? : Comparison α) (threshold : Nat) (left right : Array α) :
    Option (Array α × Nat) := do
  let some first := right[0]? | return (left ++ right, threshold)
  let skipped ← gallop? (fun position => left[position]?.elim (some true) (before? first)) left.size 0
  let some last := (left.extract skipped left.size).back? | return (left ++ right, threshold)
  let kept ← gallop?
    (fun position => right[position]?.elim (some true) fun item => (before? item last).map (!·))
    right.size (right.size - 1)
  if kept = 0 then return (left ++ right, threshold)
  let (merged, threshold) ← mergeOverlap? before? threshold (left.extract skipped left.size)
    (right.extract 0 kept)
  return (left.extract 0 skipped ++ merged ++ right.extract kept right.size, threshold)

end SchemaBridge.Sorting
