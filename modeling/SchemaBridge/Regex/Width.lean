import SchemaBridge.Entries
import SchemaBridge.Regex.Expression

/-!
# How much text an expression takes

The least and the greatest number of characters that an expression can take. What looks back has to
know the number beforehand, so there the two have to be the same.

* `widthOf_append`: of items one after another, the numbers are added up.
-/

namespace SchemaBridge.Regex

/-- Bounds on a number of characters; without `most` there is no upper one. -/
structure Width where
  least : Nat
  most : Option Nat
deriving DecidableEq

namespace Width

/-- Exactly so many characters. -/
def exactly (n : Nat) : Width := ⟨n, some n⟩

/-- One text after another. -/
def add (first second : Width) : Width where
  least := first.least + second.least
  most := do return (← first.most) + (← second.most)

/-- One text or another. -/
def join (first second : Width) : Width where
  least := min first.least second.least
  most := do return max (← first.most) (← second.most)

/-- A text several times. -/
def repeated (body : Width) (least : Nat) (most : Option Nat) : Width where
  least := least * body.least
  most :=
    if body.most = some 0 || most = some 0 then some 0 else do return (← most) * (← body.most)

/-- The number of characters, if there is only one. -/
def fixed? (width : Width) : Option Nat :=
  if width.most = some width.least then some width.least else none

end Width

mutual

/-- The bounds for an item, given those for the groups that it refers to. -/
def Item.width (groups : Entries Nat Width) : Item → Width
  | .leaf _ => .exactly 1
  | .condition _ => .exactly 0
  | .again number => (Entries.find? groups number).getD (.exactly 0)
  | .choice alternatives => joinedWidth groups alternatives
  | .times _ least most body => (widthOf groups body).repeated least most
  | .group _ body => widthOf groups body
  | .switched _ _ body => widthOf groups body
  | .committed body => widthOf groups body
  | .look .. => .exactly 0
  | .ifTaken _ yes no => (widthOf groups yes).join (widthOf groups no)

/-- The bounds for items one after another. -/
def widthOf (groups : Entries Nat Width) : List Item → Width
  | [] => .exactly 0
  | item :: rest => (item.width groups).add (widthOf groups rest)

/-- The bounds for one of several lists of items. -/
def joinedWidth (groups : Entries Nat Width) : List (List Item) → Width
  | [] => .exactly 0
  | [items] => widthOf groups items
  | items :: rest => (widthOf groups items).join (joinedWidth groups rest)

end

theorem Width.exactly_zero_add (width : Width) : (exactly 0).add width = width := by
  obtain ⟨least, _ | most⟩ := width <;> simp [exactly, add]

theorem Width.add_assoc (first second third : Width) :
    (first.add second).add third = first.add (second.add third) := by
  obtain ⟨a, _ | b⟩ := first <;> obtain ⟨c, _ | d⟩ := second <;> obtain ⟨e, _ | f⟩ := third <;>
    simp [add, Nat.add_assoc]

theorem widthOf_append (groups : Entries Nat Width) (first second : List Item) :
    widthOf groups (first ++ second) = (widthOf groups first).add (widthOf groups second) := by
  induction first with
  | nil => simp [widthOf, Width.exactly_zero_add]
  | cons item rest ih => simp [widthOf, ih, Width.add_assoc]

end SchemaBridge.Regex
