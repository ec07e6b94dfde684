import SchemaBridge.Format
import SchemaBridge.Keyword
import SchemaBridge.Validation.Evaluation

/-!
# Formats of list items

The keyword for the format of the items of a list, which JSON schema itself does not have: every
item has to be a text of the named format. An unknown name allows nothing, or is a fault if the
check is strict.
-/

namespace SchemaBridge.ExtendedFormat

/-- The keyword's name. -/
def keyword : String := Keyword.extendedPrefix ++ "format"

/-- The format that a value names. -/
def named? : Datum → Option Format
  | .text name => Format.ofName? name
  | _ => none

/-- The value is a text of the format. -/
def holds (format : Format) : Datum → Bool
  | .text text => format.matches? text
  | _ => false

/-- The check of the keyword. -/
def check (strict : Bool) : Check := fun value data =>
  match named? value with
  | none => if strict then .error (.unknownFormat value) else .ok false
  | some format =>
    match data with
    | .list items | .tuple items => .ok (items.all (holds format))
    | _ => .ok false

end SchemaBridge.ExtendedFormat
