import SchemaBridge.Text.CharSet

/-!
# Regular expressions

What a regular expression says: a list of items that have to follow one another. An item takes one
character, or it is made of further lists of items, or it asks for a condition and takes nothing.

Alternatives are put together as they are read: what all of them begin with is wanted once, before
the choice between what is left of them, and a choice between characters is a set of characters. A
text that is no expression has a flaw.
-/

namespace SchemaBridge.Regex

/-- A class of characters. -/
inductive Kind where
  | digit | blank | word
deriving DecidableEq

/-- A member of a set of characters. -/
inductive Member where
  | code (code : Nat)
  | codes (low high : Nat)
  | kind (kind : Kind) (negated : Bool)
deriving DecidableEq

/-- What takes one character. -/
inductive Leaf where
  | code (code : Nat)
  | otherThan (code : Nat)
  | any
  | oneOf (negated : Bool) (members : List Member)
deriving DecidableEq

/-- A condition on the place in a text. -/
inductive Condition where
  /-- The beginning, perhaps of a line. -/
  | start
  /-- The end, perhaps of a line. -/
  | finish
  | textStart
  | textFinish
  /-- A word begins or ends. -/
  | edge
  | noEdge
deriving DecidableEq

/-- How often something is taken that may be taken several times. -/
inductive Manner where
  /-- As often as possible, and less often if the rest asks for it. -/
  | greedy
  /-- As rarely as possible, and more often if the rest asks for it. -/
  | reluctant
  /-- As often as possible, whatever the rest asks for. -/
  | possessive
deriving DecidableEq

/-- An item of an expression. -/
inductive Item where
  | leaf (leaf : Leaf)
  | condition (condition : Condition)
  /-- What the group of that number took, once more. -/
  | again (group : Nat)
  | choice (alternatives : List (List Item))
  /-- The body at least `least` times and at most `most` times. -/
  | times (manner : Manner) (least : Nat) (most : Option Nat) (body : List Item)
  /-- The body, whose place is remembered under a number. -/
  | group (number : Nat) (body : List Item)
  /-- The body with some switches turned on and some turned off, by their letters. -/
  | switched (on off : List Char) (body : List Item)
  /-- The body in the way that it prefers, and in no other one. -/
  | committed (body : List Item)
  /-- The body matches here, or up to here, or else it does not, but nothing is taken. -/
  | look (back wanted : Bool) (body : List Item)
  /-- One of two bodies, depending on whether a group has taken anything. -/
  | ifTaken (group : Nat) (yes no : List Item)

namespace Item

/-- The two items are the same without having a body. -/
def alike : Item → Item → Bool
  | leaf first, leaf second => first = second
  | condition first, condition second => first = second
  | again first, again second => first = second
  | _, _ => false

/-- The item takes nothing but asks for a place. -/
def isCondition : Item → Bool
  | condition _ => true
  | _ => false

/-- The item is a repetition. -/
def isTimes : Item → Bool
  | times .. => true
  | _ => false

/-- A group that only holds items together stands for these items. -/
def unpacked : Item → List Item
  | switched [] [] body => body
  | item => [item]

/-- The members of the set of characters that an item takes, if they are given one by one. -/
def members? : List Item → Option (List Member)
  | [leaf (.code code)] => some [.code code]
  | [leaf (.oneOf false members)] => some members
  | _ => none

/-- The items that the first alternative and all others begin with, and what follows them in the
first and in the others. -/
def shared : List Item → List (List Item) → List Item × List Item × List (List Item)
  | [], others => ([], [], others)
  | item :: rest, others =>
    if others.all fun other => other.head?.any (alike item) then
      let (same, rest, others) := shared rest (others.map List.tail)
      (item :: same, rest, others)
    else ([], item :: rest, others)

/-- A choice between alternatives. -/
def ofAlternatives : List (List Item) → List Item
  | [] => []
  | [alternative] => alternative
  | first :: others =>
    let (same, first, others) := shared first others
    match (first :: others).mapM members? with
    | some members => same ++ [leaf (.oneOf false members.flatten.eraseDups)]
    | none => same ++ [choice (first :: others)]

end Item

/-! ## Switches -/

/-- What switches can change. -/
structure Switches where
  /-- Case does not count. -/
  caseless : Bool := false
  /-- Conditions on the beginning and the end hold at every line. -/
  byLine : Bool := false
  /-- A point stands for a line feed too. -/
  dotAll : Bool := false
  /-- Classes and cases are those of ASCII. -/
  ascii : Bool := false

namespace Switches

/-- Turn on the switch with a given letter, or turn it off. -/
def turn (value : Bool) (switches : Switches) : Char → Switches
  | 'i' => { switches with caseless := value }
  | 'm' => { switches with byLine := value }
  | 's' => { switches with dotAll := value }
  | 'a' => { switches with ascii := value }
  | 'u' => { switches with ascii := !value }
  | _ => switches

/-- The switches after some were turned on and then others turned off. -/
def change (switches : Switches) (on off : List Char) : Switches :=
  off.foldl (turn false) (on.foldl (turn true) switches)

end Switches

/-! ## Flaws -/

/-- What is wrong with the text of an expression. -/
inductive Flaw where
  /-- It is not in the notation. -/
  | malformed
  /-- A bound on a repetition is too large. -/
  | hugeBound
  /-- A bound on a repetition has too many digits to be read. -/
  | longBound
  /-- The expression is switched both to one alphabet and to another. -/
  | contrary
  /-- Groups stand in each other too deep. -/
  | deep
deriving DecidableEq

end SchemaBridge.Regex
