import SchemaBridge.Text.CharSet

/-!
# Patterns

A pattern leads from a text to what may be left of it after a match. `Matches` says what that is.
`run` finds out whether something is left that a continuation accepts, and that the two agree is
shown in `SchemaBridge.Pattern.Matching`.
-/

namespace SchemaBridge

/-- What texts look like. -/
inductive Pattern where
  | empty
  | char (set : CharSet)
  | seq (first second : Pattern)
  | alt (first second : Pattern)
  /-- The body several times in a row, at least `least` times and at most `most` times. -/
  | times (body : Pattern) (least : Nat) (most : Option Nat)
  /-- Nothing is left but at most one line feed. -/
  | lastLineFinish
  /-- The body matches, but nothing is taken. -/
  | ahead (body : Pattern)
deriving DecidableEq

namespace Pattern

/-! ## Where a match may end -/

/-- A relation between texts taken `n` times in a row. -/
def Chain (step : List Char → List Char → Prop) : Nat → List Char → List Char → Prop
  | 0, s, t => s = t
  | n + 1, s, t => ∃ m, step s m ∧ Chain step n m t

/-- The relation taken `n` times in a row, where every time takes some text. -/
def Rounds (step : List Char → List Char → Prop) : Nat → List Char → List Char → Prop
  | 0, s, t => s = t
  | n + 1, s, t => ∃ m, step s m ∧ m.length < s.length ∧ Rounds step n m t

/-- After the pattern has matched at the beginning of the first text, the second one is left. -/
def Matches : Pattern → List Char → List Char → Prop
  | empty, s, t => s = t
  | char set, s, t => ∃ c, s = c :: t ∧ set.contains c = true
  | seq first second, s, t => ∃ m, first.Matches s m ∧ second.Matches m t
  | alt first second, s, t => first.Matches s t ∨ second.Matches s t
  | times body least most, s, t =>
    ∃ m n, Chain body.Matches least s m ∧ (∀ bound ∈ most, least + n ≤ bound) ∧
      Rounds body.Matches n m t
  | lastLineFinish, s, t => (s = [] ∨ s = ['\n']) ∧ s = t
  | ahead body, s, t => (∃ m, body.Matches s m) ∧ s = t

/-! ## Looking for a match -/

/-- A way of finding out whether a continuation accepts what some match leaves of a text. -/
abbrev Matcher := List Char → (List Char → Bool) → Bool

/-- The matcher exactly `n` times. -/
def exactly (step : Matcher) : Nat → Matcher
  | 0, s, k => k s
  | n + 1, s, k => step s fun t => exactly step n t k

/-- The matcher at most `n` times, as long as it takes some text. -/
def rounds (step : Matcher) : Nat → Matcher
  | 0, s, k => k s
  | n + 1, s, k =>
    (step s fun t => if t.length < s.length then rounds step n t k else false) || k s

/-- The matcher of a pattern. -/
def run : Pattern → Matcher
  | empty, s, k => k s
  | char set, s, k =>
    match s with
    | c :: t => set.contains c && k t
    | [] => false
  | seq first second, s, k => first.run s fun t => second.run t k
  | alt first second, s, k => first.run s k || second.run s k
  | times body least most, s, k =>
    if most.all (least ≤ ·) then
      exactly body.run least s fun t =>
        rounds body.run (most.elim t.length (· - least)) t k
    else false
  | lastLineFinish, s, k => (s.isEmpty || s == ['\n']) && k s
  | ahead body, s, k => body.run s (fun _ => true) && k s

/-- The pattern matches the whole text. -/
def fullMatch (pattern : Pattern) (text : List Char) : Bool := pattern.run text List.isEmpty

/-! ## Building patterns -/

/-- The patterns one after another. -/
def inOrder (patterns : List Pattern) : Pattern := patterns.foldr seq empty

/-- One of the patterns; there is at least one. -/
def oneOf : List Pattern → Pattern
  | [] => .char .nothing
  | [pattern] => pattern
  | pattern :: rest => alt pattern (oneOf rest)

/-- The characters of a text, one after another. -/
def literal (text : String) : Pattern := inOrder (text.toList.map fun c => char (.one c))

/-- The characters of a text, case disregarded. -/
def caselessLiteral (text : String) : Pattern :=
  inOrder (text.toList.map fun c => char (.caseless (.one c)))

/-- The pattern exactly `n` times. -/
def exact (pattern : Pattern) (n : Nat) : Pattern := times pattern n (some n)

/-- The pattern between `least` and `most` times. -/
def between (pattern : Pattern) (least most : Nat) : Pattern := times pattern least (some most)

/-- The pattern or nothing. -/
def optional (pattern : Pattern) : Pattern := times pattern 0 (some 1)

/-- The pattern any number of times. -/
def zeroOrMore (pattern : Pattern) : Pattern := times pattern 0 none

/-- The pattern at least once. -/
def oneOrMore (pattern : Pattern) : Pattern := times pattern 1 none

end Pattern

end SchemaBridge
