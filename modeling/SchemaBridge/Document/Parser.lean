import SchemaBridge.Document.Token
import SchemaBridge.Document.Tree

/-!
# Parsing documents

The grammar of GraphQL documents over tokens: type system definitions and extensions, and the
executable definitions, which have no schema form and leave only their kind. `Document.parse?`
reads a whole text, `TypeRef.parse?` a text that is one type reference.

List types, lists, objects and selections may stand in each other down to `deepest` levels; the
rules for them take the number of levels that may still be opened. Loops take an amount of fuel
that is larger than the number of tokens left. Each turn takes at least one token, so the fuel never
runs out first.

-/

namespace SchemaBridge

/-- A reader of some of the tokens; failing, it gives no reason. -/
abbrev Parser := StateT (List Token) Option

namespace Parser

/-! ## Single tokens -/

/-- The next token, without taking it. -/
def peek : Parser (Option Token) := do return (← get).head?

/-- The next token, taken. -/
def next : Parser Token := do
  match ← get with
  | [] => failure
  | token :: rest =>
    set rest
    return token

/-- Take the next token if it is the given one. -/
def skip (token : Token) : Parser Bool := do
  match ← get with
  | [] => return false
  | head :: rest =>
    if head = token then
      set rest
      return true
    else return false

/-- Take the given token. -/
def expect (token : Token) : Parser Unit := do
  if ← skip token then return else failure

/-- Take a punctuation mark. -/
def mark (value : Mark) : Parser Unit := expect (.mark value)

/-- Take a punctuation mark if it is next. -/
def skipMark (value : Mark) : Parser Bool := skip (.mark value)

/-- Take a name. -/
def name : Parser String := do
  let .name value ← next | failure
  return value

/-- A description is a string before a definition; it is not kept. -/
def description : Parser Bool := do
  let some (.text _) ← peek | return false
  discard next
  return true

/-! ## Lists -/

/-- Items up to a closing mark. -/
def untilMark {α : Type} (close : Mark) (item : Parser α) : Nat → Parser (List α)
  | 0 => failure
  | fuel + 1 => do
    if ← skipMark close then return []
    let first ← item
    let rest ← untilMark close item fuel
    return first :: rest

/-- Fuel for a loop over the tokens that are left. -/
def fuel : Parser Nat := do return (← get).length + 1

/-- Any number of items up to a closing mark. -/
def any {α : Type} (close : Mark) (item : Parser α) : Parser (List α) := do
  untilMark close item (← fuel)

/-- At least one item up to a closing mark. -/
def many {α : Type} (close : Mark) (item : Parser α) : Parser (List α) := do
  let first ← item
  let rest ← any close item
  return first :: rest

/-- At least one item between marks. -/
def block {α : Type} (openMark close : Mark) (item : Parser α) : Parser (List α) := do
  mark openMark
  many close item

/-- At least one item between marks, or nothing. -/
def optionalBlock {α : Type} (openMark close : Mark) (item : Parser α) : Parser (List α) := do
  if ← skipMark openMark then many close item else return []

/-- Further items, each after a separating mark. -/
def afterMarks {α : Type} (separator : Mark) (item : Parser α) : Nat → Parser (List α)
  | 0 => failure
  | fuel + 1 => do
    if ← skipMark separator then
      let first ← item
      let rest ← afterMarks separator item fuel
      return first :: rest
    else return []

/-- At least one item, with a mark between two of them and one before the first if wanted. -/
def separated {α : Type} (separator : Mark) (item : Parser α) : Parser (List α) := do
  discard (skipMark separator)
  let first ← item
  let rest ← afterMarks separator item (← fuel)
  return first :: rest

/-! ## Types and values -/

/-- How many levels of list types, lists, objects and selections may stand in each other. -/
def deepest : Nat := 200

/-- A type with the mark after it that makes it required, if there is one. -/
def required (type : TypeRef) : Parser TypeRef := do
  if ← skipMark .bang then return .nonNull type else return type

/-- A type reference in which at most so many list types stand in each other. -/
def typeRefWithin : Nat → Parser TypeRef
  | 0 => do required (.named (← name))
  | levels + 1 => do
    if ← skipMark .openBracket then
      let item ← typeRefWithin levels
      mark .closeBracket
      required (.list item)
    else required (.named (← name))

/-- A type reference. -/
def typeRef : Parser TypeRef := typeRefWithin deepest

/-- A value that is neither a list nor an object; in a constant one there are no variables. -/
def scalar (constant : Bool) : Parser Literal := do
  match ← next with
  | .mark .dollar => if constant then failure else return .variableUse (← name)
  | .int spelling => return .int spelling
  | .float spelling => return .float spelling
  | .text value => return .text value
  | .name "true" => return .boolean true
  | .name "false" => return .boolean false
  | .name "null" => return .null
  | .name value => return .enum value
  | .mark _ => failure

/-- A value in which at most so many lists and objects stand in each other. -/
def literalWithin (constant : Bool) : Nat → Parser Literal
  | 0 => scalar constant
  | levels + 1 => do
    if ← skipMark .openBracket then
      return .list (← any .closeBracket (literalWithin constant levels))
    else if ← skipMark .openBrace then
      return .object (← any .closeBrace (do
        let key ← name
        mark .colon
        return (key, ← literalWithin constant levels)))
    else scalar constant

/-- A named argument. -/
def argument (constant : Bool) (levels : Nat) : Parser Argument := do
  let argumentName ← name
  mark .colon
  return ⟨argumentName, ← literalWithin constant levels⟩

/-- Arguments between parentheses, or nothing. -/
def arguments (constant : Bool) (levels : Nat) : Parser (List Argument) :=
  optionalBlock .openParen .closeParen (argument constant levels)

/-- The directives that follow, up to the first token that is no at sign. -/
def directivesUpTo (constant : Bool) (levels : Nat) : Nat → Parser (List Directive)
  | 0 => failure
  | fuel + 1 => do
    if ← skipMark .at then
      let directiveName ← name
      let given ← arguments constant levels
      let rest ← directivesUpTo constant levels fuel
      return ⟨directiveName, given⟩ :: rest
    else return []

/-- The directives that follow in a place where so many levels may still be opened. -/
def directivesWithin (constant : Bool) (levels : Nat) : Parser (List Directive) := do
  directivesUpTo constant levels (← fuel)

/-- The directives that follow outside of all selections. -/
def directives (constant : Bool) : Parser (List Directive) := directivesWithin constant deepest

/-! ## Executable definitions -/

/-- The name of a fragment, which may not be `on`. -/
def fragmentName : Parser Unit := do
  if (← name) = "on" then failure

/-- Any number of fields and fragments between braces. -/
def selectionsWithin : Nat → Parser Unit
  | 0 => failure
  | levels + 1 => do
    mark .openBrace
    discard (any .closeBrace (do
      if ← skipMark .spread then
        if ← skip (.name "on") then
          discard name
          discard (directivesWithin false levels)
          selectionsWithin levels
        else if let some (.name _) ← peek then
          fragmentName
          discard (directivesWithin false levels)
        else
          discard (directivesWithin false levels)
          selectionsWithin levels
      else
        discard name
        if ← skipMark .colon then discard name
        discard (arguments false levels)
        discard (directivesWithin false levels)
        if (← peek) = some (.mark .openBrace) then selectionsWithin levels))

/-- Any number of fields and fragments between braces. -/
def selections : Parser Unit := selectionsWithin deepest

/-- A constant value after an equals sign, if there is one. -/
def fallback : Parser (Option Literal) := do
  if ← skipMark .equals then return some (← literalWithin true deepest) else return none

/-- A variable of an operation with its type and fallback value. -/
def variableDefinition : Parser Unit := do
  discard description
  mark .dollar
  discard name
  mark .colon
  discard typeRef
  discard fallback
  discard (directives true)

/-- The kinds of operations. -/
def isOperation (word : String) : Bool :=
  word = "query" || word = "mutation" || word = "subscription"

/-- What follows the kind of an operation. -/
def operation : Parser Definition := do
  if let some (.name _) ← peek then discard name
  discard (optionalBlock .openParen .closeParen variableDefinition)
  discard (directives false)
  selections
  return .other .operationDefinition

/-- What follows the word `fragment`. -/
def fragment : Parser Definition := do
  fragmentName
  expect (.name "on")
  discard name
  discard (directives false)
  selections
  return .other .fragmentDefinition

/-! ## Type system definitions -/

/-- An argument definition or an input field. -/
def inputValue : Parser InputValue := do
  discard description
  let valueName ← name
  mark .colon
  let type ← typeRef
  let value ← fallback
  return ⟨valueName, type, value, ← directives true⟩

/-- Argument definitions between parentheses, or nothing. -/
def argumentDefinitions : Parser (List InputValue) :=
  optionalBlock .openParen .closeParen inputValue

/-- A field of an object or an interface. -/
def fieldDefinition : Parser Field := do
  discard description
  let fieldName ← name
  let parameters ← argumentDefinitions
  mark .colon
  let type ← typeRef
  return ⟨⟨fieldName, type, none, ← directives true⟩, parameters⟩

/-- Fields between braces, or nothing. -/
def fields : Parser (List Field) := optionalBlock .openBrace .closeBrace fieldDefinition

/-- Input fields between braces, or nothing. -/
def inputFields : Parser (List Field) :=
  optionalBlock .openBrace .closeBrace (do return ⟨← inputValue, []⟩)

/-- The interfaces that a type implements. -/
def interfaces : Parser (List String) := do
  if ← skip (.name "implements") then separated .ampersand name else return []

/-- A value of an enumeration; `true`, `false` and `null` are none. -/
def enumValue : Parser EnumValue := do
  discard description
  let valueName ← name
  if valueName = "true" || valueName = "false" || valueName = "null" then failure
  return ⟨valueName, ← directives true⟩

/-- Values between braces, or nothing. -/
def enumValues : Parser (List EnumValue) := optionalBlock .openBrace .closeBrace enumValue

/-- The members of a union after an equals sign, or nothing. -/
def members : Parser (List TypeRef) := do
  if ← skipMark .equals then separated .bar (do return .named (← name)) else return []

/-- The root type of a kind of operation. -/
def operationType : Parser Unit := do
  if isOperation (← name) then
    mark .colon
    discard name
  else failure

/-- The places where directives may stand. -/
def locations : List String :=
  ["QUERY", "MUTATION", "SUBSCRIPTION", "FIELD", "FRAGMENT_DEFINITION", "FRAGMENT_SPREAD",
   "INLINE_FRAGMENT", "VARIABLE_DEFINITION", "FRAGMENT_VARIABLE_DEFINITION", "SCHEMA", "SCALAR",
   "OBJECT", "FIELD_DEFINITION", "ARGUMENT_DEFINITION", "INTERFACE", "UNION", "ENUM", "ENUM_VALUE",
   "INPUT_OBJECT", "INPUT_FIELD_DEFINITION", "DIRECTIVE_DEFINITION"]

/-- A place where a directive may stand. -/
def location : Parser String := do
  let place ← name
  if locations.contains place then return place else failure

/-- What follows the word `schema`. -/
def schemaDefinition : Parser Definition := do
  discard (directives true)
  discard (block .openBrace .closeBrace operationType)
  return .other .schemaDefinition

/-- What follows the word `directive`. -/
def directiveDefinition : Parser Definition := do
  mark .at
  let directiveName ← name
  let parameters ← argumentDefinitions
  discard (directives true)
  let repeatable ← skip (.name "repeatable")
  expect (.name "on")
  return .directive directiveName parameters repeatable (← separated .bar location)

/-- The definition of a type whose kind is given by a word. -/
def typeDefinition (word : String) : Parser Definition := do
  match word with
  | "scalar" =>
    let typeName ← name
    return .scalar typeName (← directives true)
  | "type" =>
    let typeName ← name
    let implemented ← interfaces
    let marks ← directives true
    return .object typeName implemented marks (← fields)
  | "interface" =>
    let typeName ← name
    let implemented ← interfaces
    let marks ← directives true
    return .interface typeName implemented marks (← fields)
  | "union" =>
    let typeName ← name
    let marks ← directives true
    return .union typeName marks (← members)
  | "enum" =>
    let typeName ← name
    let marks ← directives true
    return .enum typeName marks (← enumValues)
  | "input" =>
    let typeName ← name
    let marks ← directives true
    return .inputObject typeName marks (← inputFields)
  | _ => failure

/-- The definition is no extension unless it adds something. -/
def addsSomething : Definition → Bool
  | .scalar _ marks => !marks.isEmpty
  | .object _ implemented marks fields | .interface _ implemented marks fields =>
    !(implemented.isEmpty && marks.isEmpty && fields.isEmpty)
  | .union _ marks members => !(marks.isEmpty && members.isEmpty)
  | .enum _ marks values => !(marks.isEmpty && values.isEmpty)
  | .inputObject _ marks fields => !(marks.isEmpty && fields.isEmpty)
  | .directive .. | .other _ => false

/-- The kind of extension that extends a definition. -/
def extensionKind : Definition → NodeKind
  | .scalar .. => .scalarTypeExtension
  | .object .. => .objectTypeExtension
  | .interface .. => .interfaceTypeExtension
  | .inputObject .. => .inputObjectTypeExtension
  | .enum .. => .enumTypeExtension
  | .union .. => .unionTypeExtension
  | .directive .. | .other _ => .schemaExtension

/-- What follows the words `extend schema`. -/
def schemaExtension : Parser Definition := do
  let marks ← directives true
  let types ← optionalBlock .openBrace .closeBrace operationType
  if marks.isEmpty && types.isEmpty then failure
  return .other .schemaExtension

/-- What follows the words `extend directive`: the name of a directive and at least one directive
on it. -/
def directiveExtension : Parser Definition := do
  mark .at
  discard name
  if (← directives true).isEmpty then failure
  return .other .directiveExtension

/-- What follows the word `extend`: a definition of a type, of a directive or of the schema that
adds something. -/
def extension : Parser Definition := do
  let word ← name
  if word = "schema" then schemaExtension
  else if word = "directive" then directiveExtension
  else
    let added ← typeDefinition word
    if addsSomething added then return .other (extensionKind added) else failure

/-! ## Documents -/

/-- A definition. A description may stand before it unless it is an extension, or an operation
that begins with its selections. -/
def definition : Parser Definition := do
  if (← peek) = some (.mark .openBrace) then
    selections
    return .other .operationDefinition
  else
    let described ← description
    let word ← name
    if word = "schema" then schemaDefinition
    else if word = "directive" then directiveDefinition
    else if isOperation word then operation
    else if word = "fragment" then fragment
    else if word = "extend" && !described then extension
    else typeDefinition word

/-- Definitions up to the end of the tokens. -/
def definitionsUpTo : Nat → Parser (List Definition)
  | 0 => failure
  | fuel + 1 => do
    if (← get).isEmpty then return []
    let first ← definition
    let rest ← definitionsUpTo fuel
    return first :: rest

/-- At least one definition. -/
def document : Parser Document := do
  let first ← definition
  let rest ← definitionsUpTo (← fuel)
  return first :: rest

/-- All the tokens are read. -/
def complete {α : Type} (parser : Parser α) (tokens : List Token) : Option α :=
  match parser tokens with
  | some (value, []) => some value
  | _ => none

end Parser

/-- The document that a text spells. -/
def Document.parse? (text : String) : Option Document :=
  (Token.scan text).bind (Parser.complete Parser.document)

/-- The type reference that a text spells. -/
def TypeRef.parse? (text : String) : Option TypeRef :=
  (Token.scan text).bind (Parser.complete Parser.typeRef)

end SchemaBridge
