import SchemaBridge.Conversion
import SchemaBridge.Document.Tree
import SchemaBridge.Keyword

/-!
# Keywords from directives

A directive on a field contributes keywords to the schema of the field. The directive `validate` is
built in: each of its arguments that means a keyword for the type of the field, has a constant
value, and can be cast is a contribution, and every other argument only gives notice. Other
directives contribute through handlers that are given to the conversion, and those go before the
builtin one. What a handler gives need not be an object: a sequence of pairs gives keys with their
values as well, where a pair is anything that has two items.

* `Directive.keywords_append`: the arguments of a directive contribute one after another.
* `Handler.validate_of_readable`: values in all the places of values are no cause for a fault.
-/

namespace SchemaBridge

/-! ## Constant values -/

mutual

/-- The literal is a value in all its parts. -/
def Literal.isValue : Literal → Bool
  | .other _ => false
  | .list items => Literal.areValues items
  | .object fields => Literal.haveValues fields
  | _ => true

/-- All the items of a list are values. -/
def Literal.areValues : List Literal → Bool
  | [] => true
  | item :: items => item.isValue && Literal.areValues items

/-- All the fields of an object have values. -/
def Literal.haveValues : List (String × Literal) → Bool
  | [] => true
  | (_, field) :: fields => field.isValue && Literal.haveValues fields

end

mutual

/-- The value that a literal stands for. A variable stands for the absent value, and so does what is
no value; a numeral that cannot be read stands for what is not a number. -/
def Literal.value : Literal → Datum
  | .variableUse _ | .other _ => .undefined
  | .int spelling =>
    match Numeral.readInt? spelling with
    | some number => .int number
    | none => .number (.float .nan)
  | .float spelling => .number (.float ((Numeral.readBinary64? spelling).getD .nan))
  | .text value => .text value
  | .boolean value => .bool value
  | .null => .null
  | .enum name => .text name
  | .list items => .list (Literal.values items)
  | .object fields => .object (Entries.ofPairs (Literal.fieldValues fields))

/-- The values of the items of a list. -/
def Literal.values : List Literal → List Datum
  | [] => []
  | item :: items => item.value :: Literal.values items

/-- The values of the fields of an object. -/
def Literal.fieldValues : List (String × Literal) → List (Key × Datum)
  | [] => []
  | (key, field) :: fields => (key, field.value) :: Literal.fieldValues fields

end

/-! ## The builtin directive -/

/-- The name of the builtin directive. -/
def Directive.validate : String := "validate"

/-- A value for a keyword as it stands in the schema: a number that bounds integers is rounded. -/
def Keyword.settle (jsonType : String) (value : Datum) : Datum :=
  match value with
  | .number number =>
    if jsonType = "integer" then .int (number.roundHalfUp?.getD 0) else value
  | _ => value

/-- The key under which an argument stands in the schema of a type, if it means a keyword. -/
def Argument.key? (argument : Argument) (jsonType : Option String) : Option String :=
  let typeName := jsonType.getD ""
  Keyword.key? typeName (Keyword.meant typeName argument.name)

/-- The argument has a value, or none is asked for since it means no keyword. -/
def Argument.isReadable (argument : Argument) (jsonType : Option String) : Bool :=
  (argument.key? jsonType).isNone || argument.value.isValue

/-- What an argument contributes to the schema of a type, or why it contributes nothing. -/
def Argument.keyword (argument : Argument) (directive : String) (jsonType : Option String) :
    Except Notice (Key × Datum) :=
  let typeName := jsonType.getD ""
  let keyword := Keyword.meant typeName argument.name
  match argument.key? jsonType with
  | none => .error (.notApplicable argument.name directive jsonType)
  | some key =>
    match argument.value.value with
    | .undefined => .error (.noValue argument.name directive)
    | value =>
      match Keyword.cast keyword value with
      | .error cause => .error (.notCast argument.name directive cause)
      | .ok value => .ok (key, Keyword.settle typeName value)

namespace Directive

/-- What the arguments contribute, in their order; the last value for a key counts. -/
def contributions (directive : Directive) (jsonType : Option String) : List (Key × Datum) :=
  directive.arguments.filterMap fun argument =>
    (argument.keyword directive.name jsonType).toOption

/-- The notices that the arguments give, in their order. -/
def notices (directive : Directive) (jsonType : Option String) : List Notice :=
  directive.arguments.filterMap fun argument =>
    match argument.keyword directive.name jsonType with
    | .ok _ => none
    | .error notice => some notice

/-- The keywords of the builtin directive for a type. -/
def keywords (directive : Directive) (jsonType : Option String) : Members :=
  Entries.ofPairs (directive.contributions jsonType)

end Directive

/-! ## Entries from other data -/

/-- A key with its value: the two items of a value that has just two. -/
def Datum.pair? (value : Datum) : Except Fault (Key × Datum) :=
  match value.items? with
  | none => .error .wrongKind
  | some [first, second] =>
    match first.key? with
    | some key => .ok (key, second)
    | none => .error .wrongKind
  | some _ => .error .wrongLength

/-- The entries that a value stands for: those of an object, or those of a sequence of pairs, of
which a later one overwrites an earlier one. -/
def Datum.entries? : Datum → Except Fault Members
  | .object entries => .ok entries
  | value =>
    match value.items? with
    | some items => (items.mapM pair?).map Entries.ofPairs
    | none => .error .wrongKind

@[simp] theorem Datum.entries?_object (entries : Members) :
    entries? (.object entries) = .ok entries := rfl

/-! ## Handlers -/

/-- A handler turns a directive on a field of a JSON type into keywords for the field's schema. -/
abbrev Handler := Directive → Option String → Conversion Datum

/-- Handlers by the name of the directive; a name without one leaves the builtin handler. -/
abbrev Handlers := Table (Option Handler)

/-- The builtin handler. An argument that means a keyword and has something else than a value is a
fault, after the notices that those before it give. -/
def Handler.validate : Handler := fun directive jsonType =>
  if directive.arguments.all (·.isReadable jsonType) then
    ⟨.ok (.object (directive.keywords jsonType)), directive.notices jsonType⟩
  else
    let before := directive.arguments.takeWhile (·.isReadable jsonType)
    ⟨.error .wrongKind, Directive.notices ⟨directive.name, before⟩ jsonType⟩

/-- The builtin handlers. -/
def Handlers.builtin : Handlers := [(Directive.validate, some Handler.validate)]

/-- The handler of a directive: the one that was given, or else the builtin one. -/
def Handlers.find? (handlers : Handlers) (name : String) : Option Handler :=
  ((Entries.find? handlers name).join).or (Entries.find? Handlers.builtin name).join

/-- The keywords that a directive contributes to the schema of a field. -/
def Directive.apply (directive : Directive) (jsonType : Option String) (handlers : Handlers) :
    Conversion Members :=
  match handlers.find? directive.name with
  | none => pure []
  | some handler => do Conversion.ofExcept (← handler directive jsonType).entries?

/-! ## Lemmas -/

theorem Directive.contributions_append (name : String) (first second : List Argument)
    (jsonType : Option String) :
    contributions ⟨name, first ++ second⟩ jsonType
      = contributions ⟨name, first⟩ jsonType ++ contributions ⟨name, second⟩ jsonType := by
  simp [contributions]

theorem Directive.keywords_append (name : String) (first second : List Argument)
    (jsonType : Option String) :
    keywords ⟨name, first ++ second⟩ jsonType
      = Entries.merge (keywords ⟨name, first⟩ jsonType)
          (contributions ⟨name, second⟩ jsonType) := by
  simp [keywords, Entries.ofPairs, contributions_append, Entries.merge_append]

theorem Handler.validate_of_readable {directive : Directive} {jsonType : Option String}
    (h : ∀ argument ∈ directive.arguments, argument.isReadable jsonType = true) :
    Handler.validate directive jsonType
      = ⟨.ok (.object (directive.keywords jsonType)), directive.notices jsonType⟩ := by
  rw [Handler.validate, if_pos (List.all_eq_true.mpr h)]

end SchemaBridge
