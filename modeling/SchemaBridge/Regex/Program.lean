import SchemaBridge.Regex.Width
import SchemaBridge.Text.Case

/-!
# Programs of regular expressions

A program is an expression with its switches applied: sets of characters are settled, and it is
known how far to look back. A repetition of a single character knows the character that has to come
next, if there is only one, and so does a choice of each of its alternatives; with these they pass
over what cannot succeed.

* `contains_memberSet`: the characters of a set are those of its members, or the others.
-/

namespace SchemaBridge.Regex

/-- A condition on a place, where it is settled what a word is. -/
inductive Anchor where
  /-- Nothing comes before. -/
  | start
  /-- Nothing comes after. -/
  | finish
  /-- Nothing comes after but at most one line feed. -/
  | lastLineFinish
  /-- Nothing, or a line feed, comes before. -/
  | lineStart
  /-- Nothing, or a line feed, comes after. -/
  | lineFinish
  /-- A word of characters of the set begins or ends here. -/
  | edge (set : CharSet)
  /-- No word of characters of the set begins or ends here, in a text that is not empty. -/
  | noEdge (set : CharSet)
deriving DecidableEq

/-- Which characters count as the same where a text is wanted once more. -/
inductive Likeness where
  /-- Each only as itself. -/
  | exact
  /-- ASCII letters in either case. -/
  | asciiCase
  /-- Characters of the same small form. -/
  | smallForm
deriving DecidableEq

/-- The two characters count as the same. -/
def Likeness.holds : Likeness → Char → Char → Bool
  | exact, c, d => c == d
  | asciiCase, c, d => c.toLower == d.toLower
  | smallForm, c, d => Text.sameSmallForm c d

/-- What an expression does. -/
inductive Program where
  | done
  | char (set : CharSet)
  | seq (first second : Program)
  /-- No alternative is left. -/
  | never
  /-- The first program, tried only if a character of the set `entry` is next, or else the
  others. -/
  | choice (entry : Option CharSet) (first others : Program)
  | anchor (anchor : Anchor)
  /-- Several characters of a set; afterwards one of the set `next` has to follow. Where the set is
  `dragging`, the characters are taken one by one. -/
  | row (manner : Manner) (set : CharSet) (dragging : Bool) (least : Nat) (most : Option Nat)
      (next : Option CharSet)
  /-- The body several times. -/
  | loop (reluctant : Bool) (least : Nat) (most : Option Nat) (body : Program)
  /-- The body as often as possible, each time in the way that it prefers. -/
  | hold (least : Nat) (most : Option Nat) (body : Program)
  /-- Remember the place under an index: twice a number for the beginning of a group, one more for
  its end. -/
  | mark (index : Nat)
  /-- What was taken between the places with twice the number as index and one more. -/
  | again (group : Nat) (likeness : Likeness)
  /-- The body matches from so many characters earlier on. -/
  | look (back : Nat) (body : Program)
  /-- The body does not match from so many characters earlier on. -/
  | lookNot (back : Nat) (body : Program)
  | committed (body : Program)
  | ifTaken (group : Nat) (yes no : Program)
deriving DecidableEq

/-! ## Single characters -/

namespace Switches

/-- The code is that of a letter that has case. -/
def isCased (switches : Switches) (code : Nat) : Bool :=
  if switches.ascii then Text.isAsciiLetter code else Text.hasCase code

/-- One of the codes is that of a letter that has case. -/
def anyCased (switches : Switches) (low high : Nat) : Bool :=
  if switches.ascii then Text.anyAsciiLetter low high else Text.anyHasCase low high

/-- The characters with codes from `low` to `high`, in any case. -/
def anyCase (switches : Switches) (low high : Nat) : CharSet :=
  if switches.ascii then .anyAsciiCase low high else .anyCase low high

/-- The characters of a class. -/
def kindSet (switches : Switches) : Kind → CharSet
  | .digit => if switches.ascii then .asciiDigit else .digit
  | .blank => if switches.ascii then .asciiBlank else .blank
  | .word => if switches.ascii then .asciiWord else .word

/-- How much what a group took may differ from what it is wanted to be once more. -/
def likeness (switches : Switches) : Likeness :=
  if !switches.caseless then .exact else if switches.ascii then .asciiCase else .smallForm

end Switches

/-- How a single character is looked for. -/
inductive Form where
  /-- It is one certain character. -/
  | literal
  /-- It is looked up in a set as it is. -/
  | listed
  /-- Its small form is looked up in a set. -/
  | folded
  | other
deriving DecidableEq

/-- The characters of a member of a set, in any case if that is wanted. -/
def Member.set (switches : Switches) (anyCase : Bool) : Member → CharSet
  | code value => if anyCase then switches.anyCase value value else .ofCodes value value
  | codes low high => if anyCase then switches.anyCase low high else .ofCodes low high
  | kind which negated =>
    if negated then .compl (switches.kindSet which) else switches.kindSet which

/-- The member is looked up by small forms if case does not count: it has letters with case, or
characters beyond the first plane. -/
def Member.isCased (switches : Switches) : Member → Bool
  | code value => switches.isCased value || 0xFFFF < value
  | codes low high => switches.anyCased low high || 0xFFFF < high
  | kind .. => false

/-- The characters of the members of a set. -/
def memberSet (switches : Switches) (anyCase negated : Bool) (members : List Member) : CharSet :=
  let set := CharSet.anyOf (members.map (Member.set switches anyCase))
  if negated then .compl set else set

theorem contains_memberSet (switches : Switches) (anyCase negated : Bool) (members : List Member)
    (c : Char) :
    (memberSet switches anyCase negated members).contains c
      = (negated != members.any fun member => (member.set switches anyCase).contains c) := by
  have hany : (CharSet.anyOf (members.map (Member.set switches anyCase))).contains c
      = members.any fun member => (member.set switches anyCase).contains c := by
    rw [Bool.eq_iff_iff, CharSet.contains_anyOf, List.any_eq_true]
    constructor
    · rintro ⟨set, hset, hc⟩
      obtain ⟨member, hmember, rfl⟩ := List.mem_map.mp hset
      exact ⟨member, hmember, hc⟩
    · rintro ⟨member, hmember, hc⟩
      exact ⟨_, List.mem_map_of_mem hmember, hc⟩
  cases negated <;> simp [memberSet, CharSet.contains, hany]

/-- The characters with the code, and how they are looked for. -/
def codeForm (switches : Switches) (code : Nat) : CharSet × Form :=
  if switches.caseless && switches.isCased code then
    (switches.anyCase code code,
      if !switches.ascii && Text.hasVariants code then .folded else .other)
  else (.ofCodes code code, .literal)

/-- The characters that can be taken, and how they are looked for. -/
def Leaf.form (switches : Switches) : Leaf → CharSet × Form
  | code value => codeForm switches value
  | otherThan value =>
    let (set, form) := codeForm switches value
    (.compl set, if form = .folded then .folded else .other)
  | any => (if switches.dotAll then .everything else .visible, .other)
  | oneOf negated members =>
    let anyCase := switches.caseless && members.any (Member.isCased switches)
    (memberSet switches anyCase negated members, if anyCase then .folded else .listed)

/-- A condition under switches. -/
def Condition.anchor (switches : Switches) : Condition → Anchor
  | start => if switches.byLine then .lineStart else .start
  | finish => if switches.byLine then .lineFinish else .lastLineFinish
  | textStart => .start
  | textFinish => .finish
  | edge => .edge (switches.kindSet .word)
  | noEdge => .noEdge (switches.kindSet .word)

/-! ## Assembly -/

/-- What a program begins with, as far as that can be told from its first character. -/
inductive Head where
  | literal (set : CharSet)
  | listed (set : CharSet)
  | elsewhere

namespace Head

/-- What a single character is as a beginning. -/
def ofForm : CharSet × Form → Head
  | (set, .literal) => literal set
  | (set, .listed) => listed set
  | _ => elsewhere

/-- The characters without which an alternative need not be tried. -/
def entry? : Head → Option CharSet
  | literal set | listed set => some set
  | elsewhere => none

/-- The one character without which a repetition need not end. -/
def literal? : Head → Option CharSet
  | literal set => some set
  | _ => none

end Head

/-- How far back something has to be looked for. -/
def backWidth (groups : Entries Nat Width) (back : Bool) (body : List Item) : Except Flaw Nat :=
  if back then
    match (widthOf groups body).fixed? with
    | some width => if width < 4294967295 then .ok width else .error .malformed
    | none => .error .malformed
  else .ok 0

mutual

/-- The single character that items take, if they take no more. -/
def singleOf (switches : Switches) : List Item → Option (CharSet × Form)
  | [item] => item.single? switches
  | _ => none

/-- The single character that an item takes, if it takes no more. -/
def Item.single? (switches : Switches) : Item → Option (CharSet × Form)
  | .leaf leaf => some (leaf.form switches)
  | .switched on off body => singleOf (switches.change on off) body
  | _ => none

end

mutual

/-- The program of an item, given what the program after it begins with, and what it begins with
itself. -/
def Item.assemble (groups : Entries Nat Width) (switches : Switches) (next : Head) :
    Item → Except Flaw (Program × Head)
  | .leaf leaf =>
    let (set, form) := leaf.form switches
    .ok (.char set, .ofForm (set, form))
  | .condition condition => .ok (.anchor (condition.anchor switches), .elsewhere)
  | .again number => .ok (.again (number - 1) switches.likeness, .elsewhere)
  | .choice alternatives => do
    return (← assembleChoice groups switches alternatives, .elsewhere)
  | .times manner least most body =>
    match singleOf switches body with
    | some (set, form) =>
      .ok (.row manner set (form = .folded) least most next.literal?, .elsewhere)
    | none => do
      let (body, _) ← assembleAll groups switches .elsewhere body
      match manner with
      | .greedy => return (.loop false least most body, .elsewhere)
      | .reluctant => return (.loop true least most body, .elsewhere)
      | .possessive => return (.hold least most body, .elsewhere)
  | .group number body => do
    let (body, _) ← assembleAll groups switches .elsewhere body
    return (.seq (.mark (2 * (number - 1))) (.seq body (.mark (2 * (number - 1) + 1))), .elsewhere)
  | .switched on off body => assembleAll groups (switches.change on off) next body
  | .committed body => do
    let (body, _) ← assembleAll groups switches .elsewhere body
    return (.committed body, .elsewhere)
  | .look back wanted body => do
    let width ← backWidth groups back body
    let (body, _) ← assembleAll groups switches .elsewhere body
    return (if wanted then .look width body else .lookNot width body, .elsewhere)
  | .ifTaken number yes no => do
    let (yes, _) ← assembleAll groups switches (if no.isEmpty then next else .elsewhere) yes
    let (no, _) ← assembleAll groups switches next no
    return (.ifTaken (number - 1) yes no, .elsewhere)

/-- The program of items one after another. -/
def assembleAll (groups : Entries Nat Width) (switches : Switches) (next : Head) :
    List Item → Except Flaw (Program × Head)
  | [] => .ok (.done, next)
  | item :: rest => do
    let (rest, next) ← assembleAll groups switches next rest
    let (item, head) ← item.assemble groups switches next
    return (.seq item rest, head)

/-- The program of a choice between lists of items. -/
def assembleChoice (groups : Entries Nat Width) (switches : Switches) :
    List (List Item) → Except Flaw Program
  | [] => .ok .never
  | items :: rest => do
    let (first, head) ← assembleAll groups switches .elsewhere items
    return .choice head.entry? first (← assembleChoice groups switches rest)

end

end SchemaBridge.Regex
