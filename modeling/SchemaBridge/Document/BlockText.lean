/-!
# Block strings

The value of a block string: its text is cut into lines, the indentation that all lines after the
first have in common is taken away, and lines of blanks at both ends are dropped.

* `notMem_of_mem_splitLines`: there are no line ends in a line.
-/

namespace SchemaBridge.BlockText

/-- The lines of a text; a carriage return, a line feed, or the two together end a line. -/
def splitLines : List Char → List (List Char)
  | [] => [[]]
  | '\r' :: '\n' :: rest => [] :: splitLines rest
  | '\r' :: rest => [] :: splitLines rest
  | '\n' :: rest => [] :: splitLines rest
  | c :: rest =>
    match splitLines rest with
    | [] => [[c]]
    | line :: lines => (c :: line) :: lines

/-- Spaces and tabs indent. -/
def isIndent (c : Char) : Bool := c == ' ' || c == '\t'

/-- The number of spaces and tabs that a line begins with. -/
def indentation (line : List Char) : Nat := (line.takeWhile isIndent).length

/-- The line has nothing but indentation. -/
def isEmptyLine (line : List Char) : Bool := line.all isIndent

/-- The indentation that all the lines with text have in common. -/
def commonIndentation (lines : List (List Char)) : Nat :=
  ((lines.filter (!isEmptyLine ·)).map indentation).min?.getD 0

/-- The lines without the common indentation of those after the first, and without the empty lines
at both ends. -/
def dedent : List (List Char) → List (List Char)
  | [] => []
  | first :: others =>
    let common := commonIndentation others
    let lines := first :: others.map (·.drop common)
    ((lines.dropWhile isEmptyLine).reverse.dropWhile isEmptyLine).reverse

/-- The value of a block string with the given text between its quotes. -/
def value (text : List Char) : List Char :=
  ['\n'].intercalate (dedent (splitLines text))

theorem notMem_of_mem_splitLines {text line : List Char} (h : line ∈ splitLines text) :
    '\n' ∉ line ∧ '\r' ∉ line := by
  fun_induction splitLines text generalizing line with
  | case1 =>
    rw [List.mem_singleton.mp h]
    exact ⟨List.not_mem_nil, List.not_mem_nil⟩
  | case2 rest ih | case3 rest _ ih | case4 rest ih =>
    rcases List.mem_cons.mp h with rfl | h
    · exact ⟨List.not_mem_nil, List.not_mem_nil⟩
    · exact ih h
  | case5 c rest _ hreturn hfeed =>
    rw [List.mem_singleton.mp h, List.mem_singleton, List.mem_singleton]
    exact ⟨fun heq => hfeed heq.symm, fun heq => hreturn heq.symm⟩
  | case6 c rest _ hreturn hfeed first lines hlines ih =>
    rw [hlines] at ih
    rcases List.mem_cons.mp h with rfl | h
    · obtain ⟨hfirst, hfirst'⟩ := ih List.mem_cons_self
      rw [List.mem_cons, List.mem_cons, not_or, not_or]
      exact ⟨⟨fun heq => hfeed heq.symm, hfirst⟩, fun heq => hreturn heq.symm, hfirst'⟩
    · exact ih (List.mem_cons_of_mem _ h)

end SchemaBridge.BlockText
