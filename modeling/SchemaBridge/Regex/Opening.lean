import SchemaBridge.Regex.Program

/-!
# How expressions begin

A search need not begin where the next character cannot be the first one. The characters with which
an expression begins are told from its first items, and classes of characters are taken there as
the switches for the whole expression say, whatever those of a group are.
-/

namespace SchemaBridge.Regex

mutual

/-- The code of the character with which items begin, if that is certain; `some none` means that
they take nothing. -/
def firstCode (switches : Switches) : List Item → Option (Option Nat)
  | [] => some none
  | item :: rest =>
    match item.firstCode switches with
    | some none => firstCode switches rest
    | first => first

/-- The code of the character with which an item begins, if that is certain. -/
def Item.firstCode (switches : Switches) : Item → Option (Option Nat)
  | .leaf (.code value) =>
    if switches.caseless && switches.isCased value then none else some (some value)
  | .group _ body => firstCode switches body
  | .switched on off body => firstCode (switches.change on off) body
  | _ => none

end

/-- The code that items begin with as they are, without case. -/
def leadingCode (switches : Switches) : List Item → Option Nat
  | .leaf (.code value) :: _ =>
    if switches.caseless && switches.isCased value then none else some value
  | _ => none

/-- The members of a set do not depend on case. -/
def areCaseless (switches : Switches) (members : List Member) : Bool :=
  !switches.caseless || members.all fun
    | .code value => !switches.isCased value
    | .codes low high => high ≤ 0xFFFF && !switches.anyCased low high
    | .kind .. => true

mutual

/-- The characters with which items begin, if the first of them tells that. -/
def openingSet (whole switches : Switches) : List Item → Option CharSet
  | [] => none
  | item :: _ => item.openingSet whole switches

/-- The characters with which an item begins, if it tells that. -/
def Item.openingSet (whole switches : Switches) : Item → Option CharSet
  | .leaf (.oneOf negated members) =>
    if areCaseless switches members then some (memberSet whole false negated members) else none
  | .choice alternatives =>
    (alternatives.mapM (leadingCode switches)).map fun codes =>
      .anyOf (codes.map fun code => .ofCodes code code)
  | .group _ body => openingSet whole switches body
  | .switched on off body => openingSet whole (switches.change on off) body
  | _ => none

end

/-- The characters with which an expression begins, if these are certain. -/
def openingOf (whole : Switches) (items : List Item) : Option CharSet :=
  match firstCode whole items with
  | some (some code) => some (.ofCodes code code)
  | _ => openingSet whole whole items

end SchemaBridge.Regex
