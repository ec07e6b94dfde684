import SchemaBridge.Document.BlockText
import SchemaBridge.Text.Digit

/-!
# Tokens of GraphQL text

A machine reads a text one character at a time. Between tokens it skips ignored characters and
comments; inside one it remembers the part that has been read, newest character first. A character
that cannot belong to the token in hand ends it and begins the next one.

* `scanFrom_cons`: reading a text is taking one step and reading the rest.
* `step_comment`: what stands in a comment has no effect.
-/

namespace SchemaBridge

/-- The punctuation marks. -/
inductive Mark where
  | bang | dollar | ampersand | openParen | closeParen | spread | colon | equals | at
  | openBracket | closeBracket | openBrace | bar | closeBrace
deriving DecidableEq

/-- A lexical unit of a document. -/
inductive Token where
  | mark (value : Mark)
  | name (value : String)
  | int (spelling : String)
  | float (spelling : String)
  | text (value : String)
deriving DecidableEq

namespace Token

/-! ## Classes of characters -/

/-- Ignored between tokens: blanks, line ends, commas and the byte order mark. -/
def isIgnored (c : Char) : Bool :=
  c == ' ' || c == '\t' || c == '\n' || c == '\r' || c == ',' || c == '\ufeff'

/-- A name begins with an ASCII letter or an underscore. -/
def isNameStart (c : Char) : Bool := c.isAlpha || c == '_'

/-- Digits may follow in a name. -/
def isNamePart (c : Char) : Bool := c.isAlphanum || c == '_'

/-- A line end. -/
def isLineEnd (c : Char) : Bool := c == '\n' || c == '\r'

/-- The mark of one character, other than the three points. -/
def mark? : Char → Option Mark
  | '!' => some .bang
  | '$' => some .dollar
  | '&' => some .ampersand
  | '(' => some .openParen
  | ')' => some .closeParen
  | ':' => some .colon
  | '=' => some .equals
  | '@' => some .at
  | '[' => some .openBracket
  | ']' => some .closeBracket
  | '{' => some .openBrace
  | '|' => some .bar
  | '}' => some .closeBrace
  | _ => none

/-! ## States -/

/-- How far a number has been read. -/
inductive NumberPart where
  | minus
  /-- A leading zero, which no digit may follow. -/
  | leadingZero
  | whole
  | point
  | fraction
  | exponent
  | exponentSign
  | exponentDigits
deriving DecidableEq

/-- Characters of a block string that may turn out to be part of its end or of an escaped one. -/
inductive Pending where
  | none | quote | twoQuotes | backslash | backslashQuote | backslashTwoQuotes
deriving DecidableEq

/-- What the machine is reading. The characters read so far stand newest first. -/
inductive Reading where
  | between
  | comment
  | points (seen : Nat)
  | name (read : List Char)
  | number (part : NumberPart) (read : List Char)
  /-- After one quote, and after two. -/
  | quote
  | twoQuotes
  | text (read : List Char)
  | escape (read : List Char)
  /-- After a backslash and a `u`, with the digits of a four-digit code; `lead` is the first half of
  a surrogate pair. -/
  | code (read : List Char) (lead : Option Nat) (digits : List Nat)
  | bracedCode (read : List Char) (digits : List Nat)
  /-- After the first half of a surrogate pair; `slash` tells whether the backslash has come. -/
  | afterLead (read : List Char) (lead : Nat) (slash : Bool)
  | block (read : List Char) (pending : Pending)

/-- The tokens that a step completes, and what is read next. -/
abbrev Step := Option (List Token × Reading)

/-! ## Steps -/

/-- The first character of a token, or one between tokens. -/
def begin (c : Char) : Step :=
  if isIgnored c then some ([], .between)
  else if c = '#' then some ([], .comment)
  else if c = '.' then some ([], .points 1)
  else if c = '"' then some ([], .quote)
  else if c = '-' then some ([], .number .minus [c])
  else if c = '0' then some ([], .number .leadingZero [c])
  else if c.isDigit then some ([], .number .whole [c])
  else if isNameStart c then some ([], .name [c])
  else (mark? c).map fun mark => ([.mark mark], .between)

/-- The token is complete and `c` begins the next one. -/
def thenBegin (token : Token) (c : Char) : Step :=
  (begin c).map fun (tokens, reading) => (token :: tokens, reading)

/-- The text of characters that stand newest first. -/
def textOf (read : List Char) : String := String.ofList read.reverse

/-- The part of a number that a character leads to, if it belongs to the number. -/
def NumberPart.next? : NumberPart → Char → Option NumberPart
  | minus, c => if c = '0' then some leadingZero else if c.isDigit then some whole else none
  | leadingZero, c =>
    if c = '.' then some point else if c = 'e' || c = 'E' then some exponent else none
  | whole, c =>
    if c.isDigit then some whole else if c = '.' then some point
    else if c = 'e' || c = 'E' then some exponent else none
  | point, c => if c.isDigit then some fraction else none
  | fraction, c =>
    if c.isDigit then some fraction else if c = 'e' || c = 'E' then some exponent else none
  | exponent, c =>
    if c.isDigit then some exponentDigits
    else if c = '+' || c = '-' then some exponentSign else none
  | exponentSign, c => if c.isDigit then some exponentDigits else none
  | exponentDigits, c => if c.isDigit then some exponentDigits else none

/-- The token of a number that ends after the given part, if it may end there. -/
def NumberPart.token? (read : List Char) : NumberPart → Option Token
  | leadingZero | whole => some (.int (textOf read))
  | fraction | exponentDigits => some (.float (textOf read))
  | minus | point | exponent | exponentSign => none

/-- A character after a part of a number. A complete number is not followed by a digit, a point or
a letter. -/
def stepNumber (part : NumberPart) (read : List Char) (c : Char) : Step :=
  match part.next? c with
  | some part => some ([], .number part (c :: read))
  | none =>
    if c.isDigit || c = '.' || isNameStart c then none
    else (part.token? read).bind (thenBegin · c)

/-- The character that a short escape stands for. -/
def shortEscape? : Char → Option Char
  | '"' => some '"'
  | '\\' => some '\\'
  | '/' => some '/'
  | 'b' => some '\x08'
  | 'f' => some '\x0c'
  | 'n' => some '\n'
  | 'r' => some '\r'
  | 't' => some '\t'
  | _ => none

/-- The number that hexadecimal digits spell, the last one first. -/
def hexNumber (digits : List Nat) : Nat := digits.foldr (fun digit number => 16 * number + digit) 0

/-- The character with a given code, if there is one. -/
def charOfCode? (code : Nat) : Option Char :=
  if code.isValidChar then some (Char.ofNat code) else none

/-- The character after a complete four-digit code. -/
def stepCode (read : List Char) (lead : Option Nat) (code : Nat) : Step :=
  match lead with
  | some lead =>
    if 0xDC00 ≤ code && code ≤ 0xDFFF then
      (charOfCode? (0x10000 + (lead - 0xD800) * 0x400 + (code - 0xDC00))).map
        fun c => ([], .text (c :: read))
    else none
  | none =>
    if 0xD800 ≤ code && code ≤ 0xDBFF then some ([], .afterLead read code false)
    else (charOfCode? code).map fun c => ([], .text (c :: read))

/-- A character of a block string when nothing is pending. -/
def stepBlockPlain (read : List Char) (c : Char) : Step :=
  if c = '"' then some ([], .block read .quote)
  else if c = '\\' then some ([], .block read .backslash)
  else some ([], .block (c :: read) .none)

/-- A character of a block string. Three quotes end it, unless a backslash stands before them. -/
def stepBlock (read : List Char) : Pending → Char → Step
  | .none, c => stepBlockPlain read c
  | .quote, c =>
    if c = '"' then some ([], .block read .twoQuotes) else stepBlockPlain ('"' :: read) c
  | .twoQuotes, c =>
    if c = '"' then
      some ([.text (String.ofList (BlockText.value read.reverse))], .between)
    else stepBlockPlain ('"' :: '"' :: read) c
  | .backslash, c =>
    if c = '"' then some ([], .block read .backslashQuote) else stepBlockPlain ('\\' :: read) c
  | .backslashQuote, c =>
    if c = '"' then some ([], .block read .backslashTwoQuotes)
    else stepBlockPlain ('"' :: '\\' :: read) c
  | .backslashTwoQuotes, c =>
    if c = '"' then some ([], .block ('"' :: '"' :: '"' :: read) .none)
    else stepBlockPlain ('"' :: '"' :: '\\' :: read) c

/-- A character of a string between single quotes, which ends on its line. -/
def stepText (read : List Char) (c : Char) : Step :=
  if c = '"' then some ([.text (textOf read)], .between)
  else if c = '\\' then some ([], .escape read)
  else if isLineEnd c then none
  else some ([], .text (c :: read))

/-- One character. -/
def step : Reading → Char → Step
  | .between, c => begin c
  | .comment, c => some ([], if isLineEnd c then .between else .comment)
  | .points seen, c =>
    if c = '.' then
      if seen = 2 then some ([.mark .spread], .between) else some ([], .points (seen + 1))
    else none
  | .name read, c =>
    if isNamePart c then some ([], .name (c :: read)) else thenBegin (.name (textOf read)) c
  | .number part read, c => stepNumber part read c
  | .quote, c =>
    if c = '"' then some ([], .twoQuotes) else stepText [] c
  | .twoQuotes, c =>
    if c = '"' then some ([], .block [] .none) else thenBegin (.text "") c
  | .text read, c => stepText read c
  | .escape read, c =>
    if c = 'u' then some ([], .code read none [])
    else (shortEscape? c).map fun d => ([], .text (d :: read))
  | .code read lead digits, c =>
    if c = '{' && digits.isEmpty && lead.isNone then some ([], .bracedCode read [])
    else (Text.hexValue? c).bind fun digit =>
      if digits.length = 3 then stepCode read lead (hexNumber (digit :: digits))
      else some ([], .code read lead (digit :: digits))
  | .bracedCode read digits, c =>
    if c = '}' then
      if digits.isEmpty then none
      else (charOfCode? (hexNumber digits)).map fun d => ([], .text (d :: read))
    else (Text.hexValue? c).bind fun digit =>
      if digits.length < 8 then some ([], .bracedCode read (digit :: digits)) else none
  | .afterLead read lead slash, c =>
    if slash then (if c = 'u' then some ([], .code read (some lead) []) else none)
    else if c = '\\' then some ([], .afterLead read lead true) else none
  | .block read pending, c => stepBlock read pending c

/-- The end of the text. -/
def finish : Reading → Option (List Token)
  | .between | .comment => some []
  | .name read => some [.name (textOf read)]
  | .number part read => (part.token? read).map ([·])
  | .twoQuotes => some [.text ""]
  | _ => none

/-- The tokens of a text, read on from a state. -/
def scanFrom : Reading → List Char → Option (List Token)
  | reading, [] => finish reading
  | reading, c :: rest =>
    match step reading c with
    | none => none
    | some (tokens, reading) => (scanFrom reading rest).map (tokens ++ ·)

/-- The tokens of a text, if it is made of tokens. -/
def scan (text : String) : Option (List Token) := scanFrom .between text.toList

/-! ## Lemmas -/

theorem scanFrom_cons (reading : Reading) (c : Char) (rest : List Char) :
    scanFrom reading (c :: rest)
      = (step reading c).bind fun next => (scanFrom next.2 rest).map (next.1 ++ ·) := by
  rw [scanFrom]
  cases step reading c <;> rfl

theorem step_comment {c : Char} (h : isLineEnd c = false) :
    step .comment c = some ([], .comment) := by
  simp [step, h]

end Token

end SchemaBridge
