import Mathlib
import SchemaBridge.Proofs.Parsing
import SchemaBridge.Proofs.Stubs

/-!
# Sources that define nothing

A text made of ignored characters, comments and empty stubs defines nothing. It is converted to the
empty object where cleaning takes every piece of it away, and cleaning is narrower than the grammar:
it does not see commas and byte order marks as blank, and of the ignored characters of a stub it
wants just one blank behind the keyword and one before the braces, at fixed places.

* `isStub_text_iff`: the stubs of the grammar that cleaning knows.
* `cleanText_piece_iff`: the pieces that cleaning takes away.
* `ofText_sourceOf`: a source of such pieces is converted to the empty object.
* `ofText_of_loose_stub`: other sources that define nothing are refused.
-/

namespace SchemaBridge

namespace Cleaning

open Token

/-! ## Pieces of a text -/

/-- A keyword, a name and two braces, with characters between them that the grammar ignores. -/
structure Stub where
  keyword : String
  /-- What parts the keyword from the name. -/
  gap : List Char
  name : List Char
  /-- What stands before the opening brace, and before the closing one. -/
  before : List Char
  inside : List Char
  keyword_mem : keyword ∈ keywords
  gap_ne : gap ≠ []
  gap_ignored : ∀ c ∈ gap, isIgnored c = true
  name_ne : name ≠ []
  name_start : ∀ c ∈ name.head?, isNameStart c = true
  name_part : ∀ c ∈ name, isNamePart c = true
  before_ignored : ∀ c ∈ before, isIgnored c = true
  inside_ignored : ∀ c ∈ inside, isIgnored c = true

/-- A number sign and the rest of its line. -/
structure Comment where
  body : List Char
  one_line : '\n' ∉ body

/-- A part of a text that defines nothing. -/
inductive Piece where
  | ignored (c : Char) (h : isIgnored c = true)
  /-- A comment with the line feed that ends it. -/
  | comment (comment : Comment)
  | stub (stub : Stub)

def Stub.text (stub : Stub) : List Char :=
  stub.keyword.toList ++ (stub.gap ++ (stub.name ++ (stub.before ++ '{' :: (stub.inside ++ ['}']))))

def Comment.text (comment : Comment) : List Char := '#' :: comment.body

def Piece.text : Piece → List Char
  | .ignored c _ => [c]
  | .comment line => line.text ++ ['\n']
  | .stub empty => empty.text

/-- Pieces one after another. The text may end in a comment without a line feed. -/
def sourceOf (pieces : List Piece) (last : Option Comment) : List Char :=
  pieces.flatMap Piece.text ++ last.elim [] Comment.text

/-! ## Pieces that cleaning takes away -/

/-- What parts the keyword from the name begins with its only blank, what stands before the braces
ends with its only blank, and there are only blanks in the braces. -/
structure Stub.IsTight (stub : Stub) : Prop where
  gap : ∃ first rest, stub.gap = first :: rest ∧ Text.isBlank first = true ∧
    ∀ c ∈ rest, Text.isBlank c = false
  before : ∃ front second, stub.before = front ++ [second] ∧ (∀ c ∈ front, Text.isBlank c = false) ∧
    Text.isBlank second = true
  inside : ∀ c ∈ stub.inside, Text.isBlank c = true

/-- An ignored character has to be a blank, and a stub has to be tight. -/
def Piece.IsTight : Piece → Prop
  | .ignored c _ => Text.isBlank c = true
  | .comment _ => True
  | .stub empty => empty.IsTight

/-! ### Stubs -/

theorem isBlank_of_isNamePart {c : Char} (h : isNamePart c = true) : Text.isBlank c = false := by
  by_contra hblank
  rw [isNamePart_of_isBlank (by simpa using hblank)] at h
  cases h

theorem ne_of_isIgnored {c : Char} (h : isIgnored c = true) : c ≠ '#' ∧ c ≠ '{' ∧ c ≠ '}' := by
  refine ⟨?_, ?_, ?_⟩ <;> rintro rfl <;> exact absurd h (by decide)

theorem ne_of_isNamePart {c : Char} (h : isNamePart c = true) : c ≠ '#' ∧ c ≠ '{' ∧ c ≠ '}' := by
  refine ⟨?_, ?_, ?_⟩ <;> rintro rfl <;> exact absurd h (by decide)

theorem isLower_iff {c : Char} : c.isLower = true ↔ 97 ≤ c.toNat ∧ c.toNat ≤ 122 := by
  simp only [Char.isLower, Bool.and_eq_true, decide_eq_true_eq]
  exact Iff.rfl

theorem isCapital_iff {c : Char} : ('A' ≤ c && c ≤ 'Z') = true ↔ 65 ≤ c.toNat ∧ c.toNat ≤ 90 := by
  simp only [Bool.and_eq_true, decide_eq_true_eq]
  exact Iff.rfl

/-- A small ASCII letter is no other spelling of a letter. -/
theorem fold_of_isLower {c : Char} (h : c.isLower = true) : Text.fold c = c := by
  rw [isLower_iff] at h
  have hcapital : ¬ (65 ≤ c.toNat ∧ c.toNat ≤ 90) := by omega
  rw [Text.fold, if_neg (isCapital_iff.not.mpr hcapital), if_pos (by omega)]

theorem isNamePart_of_isLower {c : Char} (h : c.isLower = true) : isNamePart c = true := by
  simp [isNamePart, Char.isAlphanum, Char.isAlpha, h]

/-- No blank is another spelling of a small ASCII letter. -/
theorem isLower_fold_of_isBlank {c : Char} (h : Text.isBlank c = true) :
    (Text.fold c).isLower = false := by
  have hcode : ¬ (65 ≤ c.toNat ∧ c.toNat ≤ 90) ∧ ¬ (97 ≤ c.toNat ∧ c.toNat ≤ 122) := by
    simp only [Text.isBlank, Bool.or_eq_true, Bool.and_eq_true, decide_eq_true_eq, beq_iff_eq] at h
    omega
  rw [← Bool.not_eq_true]
  unfold Text.fold
  split_ifs with hcapital hascii hi hs hk
  · exact fun _ => hcode.1 (isCapital_iff.mp hcapital)
  · exact isLower_iff.not.mpr hcode.2
  · simp only [Bool.or_eq_true, decide_eq_true_eq] at hi
    rcases hi with rfl | rfl <;> exact absurd h (by decide)
  · exact absurd (hs ▸ h) (by decide)
  · exact absurd (hk ▸ h) (by decide)
  · rw [isLower_iff]
    have := Text.foldBeyond_ge (c := c) (by omega)
    omega

/-- Keywords are made of small ASCII letters. -/
theorem isLower_of_mem_keyword {keyword : String} (h : keyword ∈ keywords) {c : Char}
    (hc : c ∈ keyword.toList) : c.isLower = true := by
  have hall : ∀ keyword ∈ keywords, keyword.toList.all Char.isLower = true := by decide
  exact List.all_eq_true.mp (hall keyword h) c hc

theorem keyword_ne_nil {keyword : String} (h : keyword ∈ keywords) : keyword.toList ≠ [] := by
  revert h
  revert keyword
  decide

/-- A keyword is its own plain spelling. -/
theorem map_fold_keyword {keyword : String} (h : keyword ∈ keywords) :
    keyword.toList.map Text.fold = keyword.toList :=
  (List.map_congr_left fun _ hc => fold_of_isLower (isLower_of_mem_keyword h hc)).trans
    (List.map_id _)

/-- What stands before the braces of a stub holds no number sign and no brace. -/
theorem Stub.ne_of_mem (stub : Stub) {c : Char}
    (h : c ∈ stub.keyword.toList ++ (stub.gap ++ (stub.name ++ stub.before))) :
    c ≠ '#' ∧ c ≠ '{' ∧ c ≠ '}' := by
  simp only [List.mem_append] at h
  rcases h with h | h | h | h
  · exact ne_of_isNamePart (isNamePart_of_isLower (isLower_of_mem_keyword stub.keyword_mem h))
  · exact ne_of_isIgnored (stub.gap_ignored c h)
  · exact ne_of_isNamePart (stub.name_part c h)
  · exact ne_of_isIgnored (stub.before_ignored c h)

theorem Stub.text_eq (stub : Stub) :
    stub.text = (stub.keyword.toList ++ (stub.gap ++ (stub.name ++ stub.before))) ++
      '{' :: (stub.inside ++ ['}']) := by
  simp [text]

theorem Stub.sign_notMem (stub : Stub) : '#' ∉ stub.text := by
  rw [stub.text_eq]
  intro h
  rcases List.mem_append.mp h with h | h
  · exact (stub.ne_of_mem h).1 rfl
  · simp only [List.mem_cons, List.mem_append, List.not_mem_nil, or_false] at h
    rcases h with h | h | h
    · cases h
    · exact (ne_of_isIgnored (stub.inside_ignored _ h)).1 rfl
    · cases h

/-- The only closing brace of a stub is its last character. -/
theorem Stub.text_eq_closed (stub : Stub) :
    ∃ front, stub.text = front ++ ['}'] ∧ '}' ∉ front := by
  refine ⟨stub.keyword.toList ++ (stub.gap ++ (stub.name ++ stub.before)) ++ '{' :: stub.inside,
    by rw [stub.text_eq]; simp, fun h => ?_⟩
  rcases List.mem_append.mp h with h | h
  · exact (stub.ne_of_mem h).2.2 rfl
  · rcases List.mem_cons.mp h with h | h
    · cases h
    · exact (ne_of_isIgnored (stub.inside_ignored _ h)).2.2 rfl

theorem Stub.IsTight.isStub {stub : Stub} (h : stub.IsTight) : IsStub stub.text := by
  obtain ⟨first, rest, hgap, hfirst, hrest⟩ := h.gap
  obtain ⟨front, second, hbefore, hfront, hsecond⟩ := h.before
  refine ⟨stub.keyword.toList, first, rest ++ (stub.name ++ front), second, stub.inside,
    by simp [Stub.text, hgap, hbefore], ?_, hfirst, by simp [stub.name_ne], ?_, hsecond, h.inside⟩
  · rw [map_fold_keyword stub.keyword_mem, String.ofList_toList]
    exact stub.keyword_mem
  · intro c hc
    simp only [List.mem_append] at hc
    rcases hc with hc | hc | hc
    · exact hrest c hc
    · exact isBlank_of_isNamePart (stub.name_part c hc)
    · exact hfront c hc

/-- A text begins with no keyword but one, in whatever spelling. -/
theorem eq_of_keyword_append {keyword : String} (h : keyword ∈ keywords) {word rest rest' : List Char}
    (hword : String.ofList (word.map Text.fold) ∈ keywords)
    (heq : keyword.toList ++ rest = word ++ rest') : word = keyword.toList := by
  have hfold := map_fold_keyword h
  have hsame : keyword = String.ofList (word.map Text.fold) := by
    rcases List.prefix_or_prefix_of_prefix (List.prefix_append keyword.toList rest)
      (heq ▸ List.prefix_append word rest') with hprefix | hprefix
    · refine eq_of_isPrefix_keyword h hword ?_
      rw [← hfold, String.toList_ofList]
      exact hprefix.map Text.fold
    · refine (eq_of_isPrefix_keyword hword h ?_).symm
      rw [← hfold, String.toList_ofList]
      exact hprefix.map Text.fold
  have hlength : word.length = keyword.toList.length := by
    rw [hsame, String.toList_ofList, List.length_map]
  exact (List.append_inj heq hlength.symm).1.symm

theorem Stub.isTight_of_isStub {stub : Stub} (h : IsStub stub.text) : stub.IsTight := by
  obtain ⟨word, first, solid, second, inner, htext, hword, hfirst, hne, hsolid, hsecond, hinner⟩ := h
  rw [stub.text_eq] at htext
  -- Both texts have one opening brace, at the same place.
  have hback : '{' ∉ stub.inside ++ ['}'] := fun hmem => by
    rcases List.mem_append.mp hmem with hmem | hmem
    · exact (ne_of_isIgnored (stub.inside_ignored _ hmem)).2.1 rfl
    · cases List.mem_singleton.mp hmem
  have hfront : '{' ∉ stub.keyword.toList ++ (stub.gap ++ (stub.name ++ stub.before)) := fun hmem =>
    (stub.ne_of_mem hmem).2.1 rfl
  have hsplit : stub.keyword.toList ++ (stub.gap ++ (stub.name ++ stub.before)) ++
      '{' :: (stub.inside ++ ['}']) = (word ++ first :: (solid ++ [second])) ++
      '{' :: (inner ++ ['}']) := by simpa using htext
  obtain ⟨hhead, -, hinside⟩ := (List.append_cons_inj_of_notMem hfront hback).mp hsplit
  -- Both begin with a keyword, which is the same one.
  obtain rfl := eq_of_keyword_append stub.keyword_mem hword hhead
  obtain ⟨g, gap, hgap⟩ := List.exists_cons_of_ne_nil stub.gap_ne
  have htail := List.append_cancel_left hhead
  rw [hgap, List.cons_append, List.cons_eq_cons] at htail
  obtain ⟨rfl, htail⟩ := htail
  -- A name does not end in a blank, so the second blank stands behind it.
  have hlast : (stub.name ++ stub.before).getLast? = some second := by
    have := congrArg List.getLast? htail
    rw [List.getLast?_append_of_ne_nil _ (by simp [stub.name_ne])] at this
    simpa using this
  obtain ⟨front, hbefore⟩ : ∃ front, stub.before = front ++ [second] := by
    rcases List.eq_nil_or_concat stub.before with hnil | ⟨front, last, hlast'⟩
    · rw [hnil, List.append_nil] at hlast
      have hpart := stub.name_part second (List.mem_of_getLast? hlast)
      rw [isBlank_of_isNamePart hpart] at hsecond
      cases hsecond
    · rw [hlast'] at hlast ⊢
      refine ⟨front, ?_⟩
      simpa using hlast
  rw [hbefore, ← List.append_assoc, ← List.append_assoc] at htail
  have hsolid' : gap ++ stub.name ++ front = solid := List.append_cancel_right htail
  refine ⟨⟨g, gap, hgap, hfirst, fun c hc => ?_⟩, ⟨front, second, hbefore, fun c hc => ?_, hsecond⟩, ?_⟩
  · exact hsolid c (by simp [← hsolid', hc])
  · exact hsolid c (by simp [← hsolid', hc])
  · rw [List.append_cancel_right hinside]
    exact hinner

/-- Cleaning knows the tight stubs and no others. -/
theorem isStub_text_iff (stub : Stub) : IsStub stub.text ↔ stub.IsTight :=
  ⟨Stub.isTight_of_isStub, Stub.IsTight.isStub⟩

theorem afterStub?_text {stub : Stub} (h : stub.IsTight) (rest : List Char) :
    afterStub? (stub.text ++ rest) = some rest :=
  afterStub?_eq_some.mpr ⟨stub.text, h.isStub, rfl⟩

/-- A part of a stub of the grammar is a stub only if it is all of it. -/
theorem Stub.eq_nil_of_append {stub : Stub} {part rest : List Char} (h : stub.text = part ++ rest)
    (hpart : IsStub part) : rest = [] := by
  obtain ⟨front, htext, hfront⟩ := stub.text_eq_closed
  obtain ⟨word, first, name, second, inner, rfl, -⟩ := hpart
  by_contra hne
  obtain ⟨rest, last, rfl⟩ := (List.eq_nil_or_concat' rest).resolve_left hne
  rw [h, ← List.append_assoc] at htext
  apply hfront
  rw [← (List.append_inj' htext rfl).1]
  simp

theorem isBlank_withoutStubs_iff (stub : Stub) :
    (∀ c ∈ withoutStubs stub.text, Text.isBlank c = true) ↔ stub.IsTight := by
  constructor
  · intro h
    obtain ⟨c, letters, hkeyword⟩ := List.exists_cons_of_ne_nil (keyword_ne_nil stub.keyword_mem)
    have hlower := isLower_of_mem_keyword stub.keyword_mem (hkeyword ▸ List.mem_cons_self)
    have htext : stub.text = c :: (letters ++ (stub.gap ++ (stub.name ++ (stub.before ++
        '{' :: (stub.inside ++ ['}']))))) := by rw [Stub.text, hkeyword]; rfl
    cases hafter : afterStub? stub.text with
    | some rest =>
      obtain ⟨part, hstub, heq⟩ := afterStub?_eq_some.mp hafter
      rw [Stub.eq_nil_of_append heq hstub, List.append_nil] at heq
      exact Stub.isTight_of_isStub (heq ▸ hstub)
    | none =>
      rw [htext] at hafter h
      rw [withoutStubs_cons_of_none hafter] at h
      have hblank := h c List.mem_cons_self
      rw [isBlank_of_isNamePart (isNamePart_of_isLower hlower)] at hblank
      cases hblank
  · intro h
    have hafter : afterStub? (stub.text ++ []) = some [] := afterStub?_text h []
    have hempty := withoutStubs_of_isStub h.isStub hafter
    rw [List.append_nil] at hempty
    rw [hempty]
    simp [withoutStubs, dropStubs]

/-! ### Pieces -/

/-- No stub begins with a blank. -/
theorem withoutStubs_of_isBlank {c : Char} (h : Text.isBlank c = true) (rest : List Char) :
    withoutStubs (c :: rest) = c :: withoutStubs rest := by
  apply withoutStubs_cons_of_none
  by_contra hsome
  obtain ⟨found, hfound⟩ := Option.ne_none_iff_exists'.mp hsome
  obtain ⟨stub, ⟨word, first, name, second, inner, rfl, hword, -⟩, htext⟩ :=
    afterStub?_eq_some.mp hfound
  cases word with
  | nil => exact absurd hword (by decide)
  | cons d word =>
    obtain rfl : c = d := (List.cons_eq_cons.mp htext).1
    have hlower := isLower_of_mem_keyword hword (c := Text.fold c) (by simp)
    rw [isLower_fold_of_isBlank h] at hlower
    cases hlower

/-- A comment is taken away up to its line feed. -/
theorem withoutComments_comment (comment : Comment) (rest : List Char) :
    withoutComments (comment.text ++ '\n' :: rest) = '\n' :: withoutComments rest := by
  have hfeed : '\n' ∉ comment.text := by simp [Comment.text, comment.one_line]
  rw [withoutComments_append hfeed]
  simp [Comment.text]

theorem withoutComments_last (comment : Comment) : withoutComments comment.text = [] := by
  have hfeed : '\n' ∉ comment.text := by simp [Comment.text, comment.one_line]
  rw [withoutComments_line hfeed]
  simp [Comment.text]

theorem withoutComments_code {code : List Char} (h : '#' ∉ code) (rest : List Char) :
    withoutComments (code ++ rest) = code ++ withoutComments rest := by
  induction code with
  | nil => rfl
  | cons c code ih =>
    simp only [List.mem_cons, not_or] at h
    simp only [withoutComments, List.cons_append, dropComments, Bool.false_eq_true, if_false,
      Ne.symm h.1]
    exact congrArg (c :: ·) (ih h.2)

/-- A text is cleaned to nothing if only blanks are left of it. -/
theorem cleanText_eq_empty_iff (text : List Char) :
    cleanText (String.ofList text) = "" ↔
      ∀ c ∈ withoutStubs (withoutComments text), Text.isBlank c = true := by
  rw [← Text.strip_eq_nil, cleanText, String.toList_ofList, String.ofList_eq_empty_iff, clean]

/-- Cleaning takes a piece away just if it is tight. -/
theorem cleanText_piece_iff (piece : Piece) :
    cleanText (String.ofList piece.text) = "" ↔ piece.IsTight := by
  rw [cleanText_eq_empty_iff]
  cases piece with
  | ignored c h =>
    have hsign : '#' ∉ [c] := fun hmem => (ne_of_isIgnored h).1 (List.mem_singleton.mp hmem).symm
    rw [Piece.text, withoutComments_of_no_sign hsign, withoutStubs_of_hasNoStub]
    · simp [Piece.IsTight]
    · intro part hpart hinfix
      have hbrace := hinfix.subset hpart.openBrace_mem
      exact (ne_of_isIgnored h).2.1 (List.mem_singleton.mp hbrace).symm
  | comment line =>
    rw [Piece.text, withoutComments_comment, withoutStubs_of_isBlank (by decide)]
    have hblank : Text.isBlank '\n' = true := by decide
    simp [Piece.IsTight, hblank, withoutComments, dropComments, withoutStubs, dropStubs]
  | stub empty =>
    rw [Piece.text, withoutComments_of_no_sign empty.sign_notMem]
    exact isBlank_withoutStubs_iff empty

/-! ## Whole texts -/

/-- If the pieces are tight, only blanks are left of the text. -/
theorem isBlank_sourceOf {pieces : List Piece} (h : ∀ piece ∈ pieces, piece.IsTight)
    (last : Option Comment) :
    ∀ c ∈ withoutStubs (withoutComments (sourceOf pieces last)), Text.isBlank c = true := by
  induction pieces with
  | nil =>
    cases last with
    | none => simp [sourceOf, withoutComments, dropComments, withoutStubs, dropStubs]
    | some line => simp [sourceOf, withoutComments_last, withoutStubs, dropStubs]
  | cons piece pieces ih =>
    have hrest := ih fun piece hpiece => h piece (List.mem_cons_of_mem _ hpiece)
    have hsource : sourceOf (piece :: pieces) last = piece.text ++ sourceOf pieces last := by
      simp [sourceOf]
    have hpiece := h piece List.mem_cons_self
    rw [hsource]
    cases piece with
    | ignored c hc =>
      have hsign : '#' ∉ [c] := fun hmem => (ne_of_isIgnored hc).1 (List.mem_singleton.mp hmem).symm
      rw [Piece.text, withoutComments_code hsign, List.singleton_append,
        withoutStubs_of_isBlank hpiece]
      exact List.forall_mem_cons.mpr ⟨hpiece, hrest⟩
    | comment line =>
      rw [Piece.text, List.append_assoc, List.singleton_append, withoutComments_comment,
        withoutStubs_of_isBlank (by decide)]
      exact List.forall_mem_cons.mpr ⟨by decide, hrest⟩
    | stub empty =>
      rw [Piece.text, withoutComments_code empty.sign_notMem,
        withoutStubs_of_isStub hpiece.isStub (afterStub?_text hpiece _)]
      exact hrest

/-- A source text made of ignored characters, comments and empty stubs is converted to the empty
object if cleaning takes each of its pieces away: if the ignored characters are blanks, and the
stubs have one blank where cleaning looks for it and no other. -/
theorem ofText_sourceOf {pieces : List Piece} (h : ∀ piece ∈ pieces, piece.IsTight)
    (last : Option Comment) (options : Document.Options) :
    Document.ofText (String.ofList (sourceOf pieces last)) options = pure [] := by
  have hclean : cleanText (String.ofList (sourceOf pieces last)) = "" :=
    (cleanText_eq_empty_iff _).mpr (isBlank_sourceOf h last)
  rw [Document.ofText, if_pos hclean]

/-- The stub of a type named `A`, with the given characters between its tokens. -/
def stubOfA (gap before inside : List Char) (hne : gap ≠ []) (hgap : ∀ c ∈ gap, isIgnored c = true)
    (hbefore : ∀ c ∈ before, isIgnored c = true) (hinside : ∀ c ∈ inside, isIgnored c = true) :
    Stub where
  keyword := "type"
  gap := gap
  name := ['A']
  before := before
  inside := inside
  keyword_mem := by decide
  gap_ne := hne
  gap_ignored := hgap
  name_ne := by simp
  name_start := by simp [isNameStart]
  name_part := by simp [isNamePart]
  before_ignored := hbefore
  inside_ignored := hinside

/-- A comma behind the blank after the keyword, and a comment in the last line. -/
theorem ofText_comma_in_stub :
    Document.ofText "\ntype ,A \x7b\t\n\x7d# end" {} = pure [] := by
  let stub := stubOfA [' ', ','] [' '] ['\t', '\n'] (by simp) (by simp [isIgnored])
    (by simp [isIgnored]) (by simp [isIgnored])
  have htight : stub.IsTight := by
    refine ⟨⟨' ', [','], rfl, by decide, ?_⟩, ⟨[], ' ', rfl, by simp, by decide⟩, ?_⟩
    · simp [Text.isBlank]
    · simp [stub, stubOfA, Text.isBlank]
  have hpieces : ∀ piece ∈ [.ignored '\n' rfl, .stub stub], Piece.IsTight piece :=
    List.forall_mem_cons.mpr ⟨rfl, List.forall_mem_singleton.mpr htight⟩
  have hsource : "\ntype ,A \x7b\t\n\x7d# end" = String.ofList (sourceOf
      [.ignored '\n' rfl, .stub stub] (some ⟨[' ', 'e', 'n', 'd'], by simp⟩)) := by decide
  rw [hsource]
  exact ofText_sourceOf hpieces _ {}

/-- Not every such source is converted to the empty object: without a blank between the name and the
braces the stub is left, and no type may have an empty body. -/
theorem ofText_of_loose_stub :
    ¬ ∀ (pieces : List Piece) (last : Option Comment),
      Document.ofText (String.ofList (sourceOf pieces last)) {} = pure [] := by
  intro h
  have hempty := h [.stub (stubOfA [' '] [] [] (by simp) (by simp [isIgnored]) (by simp) (by simp))]
    none
  have hsource : "type A{}" = String.ofList (sourceOf [.stub (stubOfA [' '] [] [] (by simp)
      (by simp [isIgnored]) (by simp) (by simp))] none) := by decide
  rw [← hsource] at hempty
  have hclean : cleanText "type A{}" = "type A{}" := by decide
  have hparse : Document.parse? "type A{}" = none := by cbv
  have hrefused : Document.ofText "type A{}" {} = Conversion.ofExcept (.error .notParsed) := by
    simp only [Document.ofText, hclean, hparse]
    rfl
  rw [hrefused] at hempty
  cases congrArg Conversion.result hempty

end Cleaning

end SchemaBridge
