import SchemaBridge.Regex.Program

/-!
# Searching with programs

A program leads from a place in a text to another one, from which a continuation goes on. Where that
fails, the program looks for another way, until there is none.

On its way it keeps registers. The marks are the places that were remembered, as far as the last of
them; a mark that was passed over is empty. An attempt that fails leaves its marks behind, and what
comes next forgets those that are newer than the ones at its beginning. Only inside of a loop all
marks are set back to what they were. The pointer is the place where the latest attempt began or
ended. A body that is held on to goes on from the pointer, even after an attempt that failed.
-/

namespace SchemaBridge.Regex

/-! ## Registers -/

/-- What a search keeps on its way. -/
structure Registers where
  pointer : Nat
  /-- The places remembered, by index. -/
  marks : Array (Option Nat) := #[]

namespace Registers

/-- The registers with the pointer at a place. -/
@[inline] def point (registers : Registers) (place : Nat) : Registers :=
  { registers with pointer := place }

/-- Remember a place under an index. Indices that are passed over are empty. -/
def mark (registers : Registers) (index place : Nat) : Registers :=
  let marks := registers.marks ++ Array.replicate (index + 1 - registers.marks.size) none
  { registers with marks := marks.set! index (some place) }

/-- The registers `later`, after an attempt that began with `earlier` failed. -/
def undo (within : Bool) (earlier later : Registers) : Registers :=
  { later with marks := if within then earlier.marks else later.marks.extract 0 earlier.marks.size }

/-- The places between which a group was taken. -/
def span? (registers : Registers) (group : Nat) : Option (Nat × Nat) := do
  let start ← registers.marks[2 * group]?.join
  let finish ← registers.marks[2 * group + 1]?.join
  return (start, finish)

/-- The places between which a group was taken, if it ends no earlier than it begins. -/
def taken? (registers : Registers) (group : Nat) : Option (Nat × Nat) :=
  (registers.span? group).filter fun (start, finish) => start ≤ finish

end Registers

/-- What came of an attempt. -/
structure Outcome where
  found : Bool
  registers : Registers

namespace Outcome

/-- An attempt that failed. -/
@[inline] def failed (registers : Registers) : Outcome := ⟨false, registers⟩

/-- The outcome itself, unless it failed. -/
@[inline] def orElse (outcome : Outcome) (other : Registers → Outcome) : Outcome :=
  if outcome.found then outcome else other outcome.registers

/-- The outcome, where the pointer is set back if it failed. -/
@[inline] def backTo (outcome : Outcome) (place : Nat) : Outcome :=
  outcome.orElse fun registers => failed (registers.point place)

end Outcome

/-- How to go on from a place. -/
abbrev Continuation := Nat → Registers → Outcome

/-- A way of getting from a place to others. -/
abbrev Matcher := Nat → Registers → Continuation → Outcome

/-- The end of what is matched on its own. -/
def stop : Continuation := fun place registers => ⟨true, registers.point place⟩

/-! ## Conditions -/

/-- A text as its characters. -/
abbrev Chars := Array Char

/-- The character before a place. -/
def before? (text : Chars) (place : Nat) : Option Char :=
  if place = 0 then none else text[place - 1]?

/-- A character of the set comes next. -/
@[inline] def isNext (text : Chars) (set : CharSet) (place : Nat) : Bool :=
  text[place]?.any set.contains

/-- A character of the set is on one side of the place and none on the other. -/
def atEdge (text : Chars) (set : CharSet) (place : Nat) : Bool :=
  (before? text place).any set.contains != isNext text set place

/-- The condition holds. -/
def Anchor.holds (text : Chars) (place : Nat) : Anchor → Bool
  | start => place = 0
  | finish => place = text.size
  | lastLineFinish => place = text.size || (place + 1 = text.size && text[place]? = some '\n')
  | lineStart => (before? text place).all (· == '\n')
  | lineFinish => text[place]?.all (· == '\n')
  | edge set => atEdge text set place
  | noEdge set => !text.isEmpty && !atEdge text set place

/-- The place after what was taken between two places, once more from a place on. -/
def again? (text : Chars) (likeness : Likeness) (start : Nat) : Nat → Nat → Option Nat
  | 0, place => some place
  | length + 1, place =>
    match text[start]?, text[place]? with
    | some c, some d =>
      if likeness.holds c d then again? text likeness (start + 1) length (place + 1) else none
    | _, _ => none

/-! ## Characters in a row -/

/-- The number of characters of the set from a place on, up to a limit. -/
def countFrom (text : Chars) (set : CharSet) (place : Nat) : Nat → Nat → Nat
  | 0, found => found
  | limit + 1, found =>
    if isNext text set (place + found) then countFrom text set place limit (found + 1) else found

/-- The number of characters of the set from a place on, up to a limit if there is one. -/
def countUpTo (text : Chars) (set : CharSet) (place : Nat) (most : Option Nat) : Nat :=
  let left := text.size - place
  countFrom text set place (most.elim left (min left)) 0

/-- The registers after characters were counted: taken one by one they draw the pointer along. -/
def drag (dragging : Bool) (place : Nat) (registers : Registers) : Registers :=
  if dragging then registers.point place else registers

/-- Go on after `n` characters or, as long as that fails, after one less. -/
def giveBack (text : Chars) (within : Bool) (next : Option CharSet) (earlier : Registers)
    (least : Nat) (k : Continuation) : Nat → Registers → Outcome
  | 0, registers => attempt 0 registers Outcome.failed
  | n + 1, registers =>
    attempt (n + 1) registers (giveBack text within next earlier least k n)
where
  /-- Go on after the number of characters, or else in another way. -/
  attempt (n : Nat) (registers : Registers) (other : Registers → Outcome) : Outcome :=
    let place := least + n
    if next.all (isNext text · place) then
      (k place (registers.point place)).orElse fun later => other (earlier.undo within later)
    else other registers

/-- Go on at a place or, as long as that fails, after one character more. -/
def takeMore (text : Chars) (within : Bool) (set : CharSet) (dragging : Bool)
    (earlier : Registers) (k : Continuation) : Nat → Nat → Registers → Outcome
  | more, place, registers =>
    (k place (registers.point place)).orElse fun later =>
      let registers := (earlier.undo within later).point place
      if isNext text set place then
        let registers := drag dragging (place + 1) registers
        match more with
        | 0 => .failed registers
        | more + 1 => takeMore text within set dragging earlier k more (place + 1) registers
      else .failed registers

/-- Several characters of a set. -/
def rowOf (text : Chars) (within : Bool) (manner : Manner) (set : CharSet) (dragging : Bool)
    (least : Nat) (most : Option Nat) (next : Option CharSet) : Matcher :=
  fun place registers k =>
    if text.size < place + least then .failed registers
    else
      let registers := registers.point place
      match manner with
      | .reluctant =>
        let count := countUpTo text set place (some least)
        let registers := if least = 0 then registers else drag dragging (place + count) registers
        if count < least then .failed registers
        else
          takeMore text within set dragging registers k (most.elim text.size (· - least))
            (place + least) registers
      | manner =>
        let count := countUpTo text set place most
        let registers := drag dragging (place + count) registers
        if count < least then .failed registers
        else if manner = .possessive then k (place + count) registers
        else giveBack text within next registers (place + least) k (count - least) registers

/-! ## Loops -/

/-- What an end of a loop does beyond its body: go on from there. -/
def leave (k : Continuation) (place : Nat) (registers : Registers) : Outcome :=
  (k place (registers.point place)).backTo place

/-- The body as often as possible; a round that takes nothing is the last one. -/
def greedily (body : Matcher) (k : Continuation) : Nat → Option Nat → Continuation
  | 0, _, place, registers => leave k place registers
  | rounds + 1, last, place, registers =>
    if last = some place then leave k place registers
    else
      let registers := registers.point place
      (body place registers fun next => greedily body k rounds (some place) next).orElse
        fun later => leave k place ((registers.undo true later).point place)

/-- The body as rarely as possible; a round that takes nothing is the last one. -/
def reluctantly (body : Matcher) (within : Bool) (k : Continuation) :
    Nat → Option Nat → Continuation
  | 0, _, place, registers => afterAttempt place registers Outcome.failed
  | rounds + 1, last, place, registers =>
    afterAttempt place registers fun registers =>
      if last = some place then .failed registers
      else (body place registers fun next => reluctantly body within k rounds (some place) next).backTo
        place
where
  /-- Go on from the place, or else in another way. -/
  afterAttempt (place : Nat) (registers : Registers) (other : Registers → Outcome) : Outcome :=
    let registers := registers.point place
    (k place registers).orElse fun later => other ((registers.undo within later).point place)

/-- The body so many times, and then on. -/
def atLeast (body : Matcher) (k : Continuation) : Nat → Continuation
  | 0, place, registers => k place registers
  | least + 1, place, registers =>
    (body place (registers.point place) fun next => atLeast body k least next).backTo place

/-- A bound on the rounds of a loop that has none. Each round moves on. -/
def roundLimit (text : Chars) : Nat := (text.size + 2) * (text.size + 2)

/-- The body several times, and then on. -/
def loopOf (text : Chars) (body : Matcher) (within reluctant : Bool) (least : Nat)
    (most : Option Nat) : Matcher :=
  fun place registers k =>
    let rounds := most.elim (roundLimit text) (· - least)
    let rest :=
      if reluctant then reluctantly body within k rounds none else greedily body k rounds none
    atLeast body rest least place (registers.point place)

/-- The body so many times, each time in the way that it prefers; where it fails, all of it is
given up. -/
def holdLeast (body : Matcher) : Nat → Registers → Outcome
  | 0, registers => ⟨true, registers⟩
  | least + 1, registers =>
    let outcome := body registers.pointer registers stop
    if outcome.found then holdLeast body least outcome.registers else outcome

/-- The body as often as possible, each time in the way that it prefers. -/
def holdMore (body : Matcher) : Nat → Option Nat → Registers → Registers
  | 0, _, registers => registers
  | rounds + 1, last, registers =>
    if last = some registers.pointer then registers
    else
      let outcome := body registers.pointer registers stop
      if outcome.found then holdMore body rounds (some registers.pointer) outcome.registers
      else registers.undo true outcome.registers

/-- The body several times, and then on from the pointer. -/
def holdOf (text : Chars) (body : Matcher) (least : Nat) (most : Option Nat) : Matcher :=
  fun place registers k =>
    let outcome := holdLeast body least (registers.point place)
    if outcome.found then
      let rounds := most.elim (roundLimit text) (· - least)
      let registers := holdMore body rounds none outcome.registers
      k registers.pointer registers
    else .failed (outcome.registers.point place)

/-! ## Programs -/

namespace Program

/-- The matcher of a program, inside of a loop or not. -/
def run (text : Chars) : Program → Bool → Matcher
  | done, _, place, registers, k => k place registers
  | char set, _, place, registers, k =>
    if isNext text set place then k (place + 1) registers else .failed registers
  | seq first second, within, place, registers, k =>
    first.run text within place registers fun next registers =>
      second.run text within next registers k
  | never, _, _, registers, _ => .failed registers
  | choice entry first others, within, place, registers, k =>
    if entry.all (isNext text · place) then
      (first.run text within place (registers.point place) k).orElse fun later =>
        others.run text within place (registers.undo within later) k
    else others.run text within place registers k
  | anchor condition, _, place, registers, k =>
    if condition.holds text place then k place registers else .failed registers
  | row manner set dragging least most next, within, place, registers, k =>
    rowOf text within manner set dragging least most next place registers k
  | loop reluctant least most body, within, place, registers, k =>
    loopOf text (body.run text true) within reluctant least most place registers k
  | hold least most body, within, place, registers, k =>
    holdOf text (body.run text within) least most place registers k
  | mark index, _, place, registers, k => k place (registers.mark index place)
  | again group likeness, _, place, registers, k =>
    match registers.taken? group with
    | some (start, finish) =>
      match again? text likeness start (finish - start) place with
      | some next => k next registers
      | none => .failed registers
    | none => .failed registers
  | look back body, within, place, registers, k =>
    if place < back then .failed registers
    else
      let outcome := body.run text within (place - back) (registers.point (place - back)) stop
      if outcome.found then k place outcome.registers else outcome
  | lookNot back body, within, place, registers, k =>
    if place < back then k place registers
    else
      let registers := registers.point (place - back)
      let outcome := body.run text within (place - back) registers stop
      if outcome.found then .failed outcome.registers
      else k place (registers.undo within outcome.registers)
  | committed body, within, place, registers, k =>
    let outcome := body.run text within place (registers.point place) stop
    if outcome.found then k outcome.registers.pointer outcome.registers
    else .failed (outcome.registers.point place)
  | ifTaken group yes no, within, place, registers, k =>
    if (registers.taken? group).isSome then yes.run text within place registers k
    else no.run text within place registers k

end Program

end SchemaBridge.Regex
