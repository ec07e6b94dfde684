import SchemaBridge.Text.Digit
import SchemaBridge.Text.Parts

/-!
# Hosts of URIs

The authority of a URI names a host. In square brackets a host is an address of eight groups, or an
address of a version yet to come. Other characters may look like the signs that part a URI, and have
no place in an authority.

* `isQuad_iff`: what an address of four numbers is.
-/

namespace SchemaBridge.Host

open Text

/-- A group of one to four hexadecimal digits. -/
def isGroup (text : List Char) : Bool :=
  !text.isEmpty && text.length ≤ 4 && text.all fun c => (hexValue? c).isSome

/-- A number from 0 to 255 in ASCII digits, without leading zeros. -/
def isOctet (text : List Char) : Bool :=
  !text.isEmpty && text.length ≤ 3 && text.all Char.isDigit && (text.head? ≠ some '0' || text = ['0'])
    && ofDigitValues 10 (text.filterMap hexValue?) ≤ 255

/-- Four numbers with points between them. -/
def isQuad (text : List Char) : Bool :=
  let numbers := parts '.' text
  numbers.length = 4 && numbers.all isOctet

theorem point_notMem_of_isOctet {text : List Char} (h : isOctet text = true) : '.' ∉ text := by
  simp only [isOctet, Bool.and_eq_true, List.all_eq_true] at h
  intro hmem
  exact absurd (h.1.1.2 '.' hmem) (by decide)

theorem isQuad_iff {text : List Char} :
    isQuad text = true ↔ ∃ numbers : List (List Char),
      numbers.length = 4 ∧ (∀ number ∈ numbers, isOctet number = true) ∧
        text = joined '.' numbers := by
  simp only [isQuad, Bool.and_eq_true, decide_eq_true_eq, List.all_eq_true]
  constructor
  · rintro ⟨hlength, hnumbers⟩
    exact ⟨parts '.' text, hlength, hnumbers, (joined_parts '.' text).symm⟩
  · rintro ⟨numbers, hlength, hnumbers, rfl⟩
    have hne : numbers ≠ [] := List.ne_nil_of_length_eq_add_one hlength
    rw [parts_joined hne fun number hmem => point_notMem_of_isOctet (hnumbers number hmem)]
    exact ⟨hlength, hnumbers⟩

example : isQuad "127.0.0.1".toList = true := by decide

/-- The groups of an address, where four numbers at the end stand for two groups. -/
def groups? (text : List Char) : Option (List (List Char)) :=
  let groups := parts ':' text
  let last := groups.getLast?.getD []
  if groups.length < 3 then none
  else if last.contains '.' then
    if isQuad last then some (groups.dropLast ++ [['0'], ['0']]) else none
  else some groups

/-- The groups on one side of a gap, where a gap at the margin has nothing beyond it. -/
def beside : List (List Char) → List (List Char)
  | [[]] => []
  | groups => groups

/-- The groups make up an address: eight of them, or fewer with one gap. -/
def areAddress (groups : List (List Char)) : Bool :=
  let gaps := (List.range groups.length).filter fun position =>
    0 < position && position + 1 < groups.length && groups[position]? = some []
  groups.length ≤ 9 &&
    match gaps with
    | [] => groups.length = 8 && groups.all isGroup
    | [position] =>
      let before := beside (groups.take position)
      let after := beside (groups.drop (position + 1))
      before.length + after.length ≤ 7 && before.all isGroup && after.all isGroup
    | _ => false

/-- The text is an address of eight groups, perhaps with the name of a zone after it. -/
def isAddress (text : List Char) : Bool :=
  let (address, zone) := cut '%' text
  zone.all (fun zone => !zone.isEmpty && !zone.contains '%') && (groups? address).any areAddress

/-- The text after a `v` is an address of a version yet to come: hexadecimal digits, a point and
something more. -/
def isFuture (text : List Char) : Bool :=
  let (version, rest) := cut '.' text
  !version.isEmpty && version.all (fun c => (hexValue? c).isSome) && rest.any (!·.isEmpty)

/-- What stands between the first opening bracket and the closing one after it. -/
def bracketed (authority : List Char) : List Char :=
  (cut ']' ((cut '[' authority).2.getD [])).1

/-- What stands in brackets is an address. -/
def isBracketSound (authority : List Char) : Bool :=
  match authority.contains '[', authority.contains ']' with
  | false, false => true
  | true, true =>
    match bracketed authority with
    | 'v' :: rest => isFuture rest
    | address => isAddress address
  | _, _ => false

/-- The codes of characters that look like signs which part a URI. -/
def lookalikes : List Nat :=
  [0x2047, 0x2048, 0x2049, 0x2100, 0x2101, 0x2105, 0x2106, 0x2A74, 0xFE13, 0xFE16, 0xFE55, 0xFE56,
   0xFE5F, 0xFE6B, 0xFF03, 0xFF0F, 0xFF1A, 0xFF1F, 0xFF20]

/-- The text can be the authority of a URI. -/
def isSound (authority : List Char) : Bool :=
  isBracketSound authority && !authority.any fun c => lookalikes.contains c.toNat

end SchemaBridge.Host
