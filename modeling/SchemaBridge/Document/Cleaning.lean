import SchemaBridge.Text.Blank
import SchemaBridge.Text.Fold

/-!
# Cleaning source text

Before it is parsed, a source text loses its comments and its empty stubs. A comment runs from a
number sign to the next line feed, wherever the sign stands. A stub is one of four keywords in any
case, a blank, a run of anything but blanks, a blank, and an opening and a closing brace with
nothing but blanks between them; it is looked for at every place, also in the middle of a word.

* `withoutComments_of_no_sign`: a text without a number sign has no comments.
* `hash_notMem_withoutComments`: no number sign is left.
-/

namespace SchemaBridge.Cleaning

/-! ## Comments -/

/-- The text without comments; `inside` tells that it begins inside of one. -/
def dropComments (inside : Bool) : List Char → List Char
  | [] => []
  | c :: rest =>
    if inside then
      if c = '\n' then c :: dropComments false rest else dropComments true rest
    else if c = '#' then dropComments true rest
    else c :: dropComments false rest

/-- The text without comments. -/
def withoutComments (text : List Char) : List Char := dropComments false text

/-! ## Empty stubs -/

/-- The keywords of stubs. -/
def keywords : List String := ["type", "enum", "input", "scalar"]

/-- What follows a word in any case, if the text begins with it. -/
def afterWord? : List Char → List Char → Option (List Char)
  | [], text => some text
  | _ :: _, [] => none
  | w :: word, c :: text => if Text.fold c = w then afterWord? word text else none

/-- What follows one blank. -/
def afterBlank? : List Char → Option (List Char)
  | [] => none
  | c :: rest => if Text.isBlank c then some rest else none

/-- What follows a run of at least one character that is no blank. -/
def afterSolid? : List Char → Option (List Char)
  | [] => none
  | c :: rest => if Text.isBlank c then none else some (rest.dropWhile (!Text.isBlank ·))

/-- What follows an opening brace, blanks, and a closing brace. -/
def afterBraces? : List Char → Option (List Char)
  | '{' :: rest =>
    match rest.dropWhile Text.isBlank with
    | '}' :: rest => some rest
    | _ => none
  | _ => none

/-- What follows a stub that the text begins with. -/
def afterStub? (text : List Char) : Option (List Char) := do
  let rest ← keywords.findSome? fun keyword => afterWord? keyword.toList text
  let rest ← afterBlank? rest
  let rest ← afterSolid? rest
  let rest ← afterBlank? rest
  afterBraces? rest

/-- The length of a stub that the text begins with. -/
def stubLength? (text : List Char) : Option Nat :=
  (afterStub? text).map fun rest => text.length - rest.length

/-- The text without stubs, from left to right; the first `skipped` characters belong to a stub. -/
def dropStubs (skipped : Nat) : List Char → List Char
  | [] => []
  | c :: rest =>
    match skipped with
    | more + 1 => dropStubs more rest
    | 0 =>
      match stubLength? (c :: rest) with
      | some length => dropStubs (length - 1) rest
      | none => c :: dropStubs 0 rest

/-- The text without stubs. -/
def withoutStubs (text : List Char) : List Char := dropStubs 0 text

/-! ## Cleaning -/

/-- The text without comments, then without stubs, then without blanks at both ends. -/
def clean (text : List Char) : List Char := Text.strip (withoutStubs (withoutComments text))

/-- A source text, cleaned. -/
def cleanText (text : String) : String := String.ofList (clean text.toList)

/-! ## Lemmas -/

theorem withoutComments_of_no_sign {text : List Char} (h : '#' ∉ text) :
    withoutComments text = text := by
  induction text with
  | nil => rfl
  | cons c rest ih =>
    rw [List.mem_cons, not_or] at h
    have hc : c ≠ '#' := fun e => h.1 e.symm
    simp only [withoutComments, dropComments, Bool.false_eq_true, if_false, hc]
    exact congrArg _ (ih h.2)

theorem hash_notMem_dropComments (inside : Bool) (text : List Char) :
    '#' ∉ dropComments inside text := by
  induction text generalizing inside with
  | nil => simp [dropComments]
  | cons c rest ih =>
    unfold dropComments
    split
    · split
      · next hc => simp [hc, ih]
      · exact ih true
    · split
      · exact ih true
      · next hc => simp [Ne.symm hc, ih]

theorem hash_notMem_withoutComments (text : List Char) : '#' ∉ withoutComments text :=
  hash_notMem_dropComments false text

end SchemaBridge.Cleaning
