import Mathlib
import SchemaBridge.Proofs.Contents
import SchemaBridge.Proofs.Stubs
import SchemaBridge.Text.Printable

/-!
# Texts as arguments of directives

The text of an argument goes through the cleaning of the document, which knows nothing of strings,
then through the machine that makes tokens, the grammar, and the conversion of the field. Everything
but the cleaning hands it on as it stands, so it arrives without the parts of it that read as stubs.

* `Token.scanFrom_append`: a machine that has read a part of a text is started again behind it.
* `Token.run_quote`: a string is one token, with its characters as they stand.
* `Cleaning.withoutStubs_append_quote`: no stub reaches over a quote without a brace behind it.
* `Document.pattern_arrives_iff`: which patterns arrive in the schema document.
* `Document.pattern_loses_stub`: a pattern that reads as a stub arrives empty.
-/

namespace SchemaBridge

/-! ## Tokens of a part of a text -/

namespace Token

/-- The tokens that are complete behind a part of a text, and what is read next. -/
def run : Reading → List Char → Step
  | reading, [] => some ([], reading)
  | reading, c :: rest => do
    let (tokens, reading) ← step reading c
    let (more, reading) ← run reading rest
    return (tokens ++ more, reading)

theorem run_cons_eq_some {reading after : Reading} {c : Char} {rest : List Char}
    {tokens : List Token} : run reading (c :: rest) = some (tokens, after) ↔
      ∃ first next more, step reading c = some (first, next) ∧ run next rest = some (more, after) ∧
        tokens = first ++ more := by
  simp only [run, bind, pure, Option.bind_eq_some_iff, Prod.exists, Option.some.injEq,
    Prod.mk.injEq]
  constructor
  · rintro ⟨first, next, hstep, more, _, hrun, rfl, rfl⟩
    exact ⟨first, next, more, hstep, hrun, rfl⟩
  · rintro ⟨first, next, more, hstep, hrun, rfl⟩
    exact ⟨first, next, hstep, more, after, hrun, rfl, rfl⟩

theorem run_append {reading next after : Reading} {front rest : List Char}
    {tokens more : List Token} (hfront : run reading front = some (tokens, next))
    (hrest : run next rest = some (more, after)) :
    run reading (front ++ rest) = some (tokens ++ more, after) := by
  induction front generalizing reading tokens with
  | nil =>
    cases hfront
    exact hrest
  | cons c front ih =>
    obtain ⟨first, middle, others, hstep, hrun, rfl⟩ := run_cons_eq_some.mp hfront
    exact run_cons_eq_some.mpr ⟨first, middle, _, hstep, ih hrun, List.append_assoc _ _ _⟩

/-- The tokens of a text are those of its front, and then those that come behind it. -/
theorem scanFrom_append {reading next : Reading} {front : List Char} {tokens : List Token}
    (h : run reading front = some (tokens, next)) (rest : List Char) :
    scanFrom reading (front ++ rest) = (scanFrom next rest).map (tokens ++ ·) := by
  induction front generalizing reading tokens with
  | nil =>
    cases h
    simp
  | cons c front ih =>
    obtain ⟨first, middle, more, hstep, hrun, rfl⟩ := run_cons_eq_some.mp h
    rw [List.cons_append, scanFrom_cons, hstep, Option.bind_some, ih hrun, Option.map_map]
    simp [Function.comp_def]

/-- The character stands for itself in a string. -/
def isLiteral (c : Char) : Bool := c ≠ '"' && c ≠ '\\' && !isLineEnd c

theorem stepText_of_isLiteral {c : Char} (h : isLiteral c = true) (read : List Char) :
    stepText read c = some ([], .text (c :: read)) := by
  simp only [isLiteral, Bool.and_eq_true, decide_eq_true_eq, Bool.not_eq_true'] at h
  simp [stepText, h]

/-- Inside of a string, characters that stand for themselves are read up to its end. -/
theorem run_text {chars : List Char} (h : ∀ c ∈ chars, isLiteral c = true) (read : List Char) :
    run (.text read) (chars ++ ['"'])
      = some ([.text (textOf (chars.reverse ++ read))], .between) := by
  induction chars generalizing read with
  | nil => rfl
  | cons c chars ih =>
    obtain ⟨hc, hchars⟩ := List.forall_mem_cons.mp h
    have hstep : step (.text read) c = some ([], .text (c :: read)) :=
      stepText_of_isLiteral hc read
    exact run_cons_eq_some.mpr ⟨_, _, _, hstep, ih hchars (c :: read), by simp⟩

/-- A string and the bracket behind it. -/
theorem run_quote {chars : List Char} (h : ∀ c ∈ chars, isLiteral c = true) :
    run .quote (chars ++ ['"', ')'])
      = some ([.text (String.ofList chars), .mark .closeParen], .between) := by
  cases chars with
  | nil => rfl
  | cons c chars =>
    obtain ⟨hc, hchars⟩ := List.forall_mem_cons.mp h
    have hquote : c ≠ '"' := by
      rintro rfl
      cases hc
    have hstep : step .quote c = some ([], .text [c]) := by
      rw [step, if_neg hquote, stepText_of_isLiteral hc]
    have htext : run .quote (c :: (chars ++ ['"']))
        = some ([.text (String.ofList (c :: chars))], .between) :=
      run_cons_eq_some.mpr ⟨_, _, _, hstep, run_text hchars [c], by simp [textOf]⟩
    have hbracket : run .between [')'] = some ([.mark .closeParen], .between) := rfl
    simpa using run_append htext hbracket

end Token

/-! ## Stubs in front of a quote -/

namespace Cleaning

/-- What stands in a stub behind its opening brace is blank or the closing one. -/
theorem IsStub.of_suffix {stub after : List Char} (h : IsStub stub) (hsuffix : after <:+ stub)
    (hbrace : '{' ∉ after) : ∀ c ∈ after, Text.isBlank c = true ∨ c = '}' := by
  obtain ⟨word, first, name, second, inner, rfl, -, -, -, -, -, hinner⟩ := h
  have hstub : word ++ first :: (name ++ second :: '{' :: (inner ++ ['}']))
      = (word ++ first :: (name ++ [second])) ++ '{' :: (inner ++ ['}']) := by simp
  rw [hstub] at hsuffix
  obtain ⟨front, hfront⟩ := hsuffix
  have hinside : after <:+ inner ++ ['}'] := by
    rcases List.append_eq_append_iff.mp hfront with ⟨more, -, rfl⟩ | ⟨more, -, hmore⟩
    · exact absurd (List.mem_append_right _ List.mem_cons_self) hbrace
    · cases more with
      | nil =>
        obtain rfl : '{' :: (inner ++ ['}']) = after := hmore
        exact absurd List.mem_cons_self hbrace
      | cons c more => exact ⟨more, (List.cons_eq_cons.mp hmore).2.symm⟩
  intro c hc
  rcases List.mem_append.mp (hinside.subset hc) with hmem | hmem
  · exact .inl (hinner c hmem)
  · exact .inr (List.mem_singleton.mp hmem)

/-- A stub that begins in front of a quote ends there, unless a brace follows. -/
theorem afterStub?_append_quote (text : List Char) {rest : List Char} (h : '{' ∉ rest) :
    afterStub? (text ++ '"' :: rest) = (afterStub? text).map (· ++ '"' :: rest) := by
  ext found
  rw [afterStub?_eq_some, Option.map_eq_some_iff]
  constructor
  · rintro ⟨stub, hstub, htext⟩
    rcases List.append_eq_append_iff.mp htext with ⟨after, rfl, hafter⟩ | ⟨behind, rfl, hbehind⟩
    · -- The quote would stand in the stub behind its brace.
      cases after with
      | nil =>
        refine ⟨[], afterStub?_eq_some.mpr ⟨text, by simpa using hstub, by simp⟩, ?_⟩
        simpa using hafter
      | cons c after =>
        obtain ⟨rfl, rfl⟩ := List.cons_eq_cons.mp hafter
        have hbrace : '{' ∉ '"' :: after := by
          simp_all
        rcases hstub.of_suffix (List.suffix_append text _) hbrace '"' List.mem_cons_self
          with hblank | hclose
        · exact absurd hblank (by decide)
        · exact absurd hclose (by decide)
    · exact ⟨behind, afterStub?_eq_some.mpr ⟨stub, hstub, rfl⟩, hbehind.symm⟩
  · rintro ⟨behind, hbehind, rfl⟩
    obtain ⟨stub, hstub, rfl⟩ := afterStub?_eq_some.mp hbehind
    exact ⟨stub, hstub, List.append_assoc _ _ _⟩

/-- The stubs of a text are removed without regard to a quote behind it, if no brace follows. -/
theorem withoutStubs_append_quote (text : List Char) {rest : List Char} (h : '{' ∉ rest) :
    withoutStubs (text ++ '"' :: rest) = withoutStubs text ++ '"' :: rest := by
  induction hn : text.length using Nat.strongRecOn generalizing text with
  | _ n ih =>
    cases text with
    | nil =>
      refine withoutStubs_of_hasNoStub fun stub hstub hpart => ?_
      exact absurd (hpart.subset hstub.openBrace_mem) (by simpa using h)
    | cons c text =>
      have hafter := afterStub?_append_quote (c :: text) h
      cases hfound : afterStub? (c :: text) with
      | none =>
        rw [hfound, Option.map_none] at hafter
        rw [List.cons_append] at hafter ⊢
        rw [withoutStubs_cons_of_none hfound, withoutStubs_cons_of_none hafter,
          ih text.length (by rw [← hn]; simp) text rfl, List.cons_append]
      | some behind =>
        obtain ⟨stub, hstub, htext⟩ := afterStub?_eq_some.mp hfound
        have hshorter : behind.length < n := by
          have : 0 < stub.length := List.length_pos_of_mem hstub.openBrace_mem
          rw [← hn, htext, List.length_append]
          omega
        rw [hfound, Option.map_some, htext, List.append_assoc] at hafter
        rw [htext] at hfound ⊢
        rw [List.append_assoc, withoutStubs_of_isStub hstub hafter,
          withoutStubs_of_isStub hstub hfound]
        exact ih behind.length hshorter behind rfl

theorem strip_of_ends {first last : Char} (hfirst : Text.isBlank first = false)
    (hlast : Text.isBlank last = false) (middle : List Char) :
    Text.strip (first :: (middle ++ [last])) = first :: (middle ++ [last]) := by
  rw [Text.strip, List.dropWhile_cons_of_neg (by simp [hfirst]), ← List.cons_append,
    List.reverse_append, List.reverse_singleton, List.singleton_append,
    List.dropWhile_cons_of_neg (by simp [hlast])]
  simp

theorem withoutStubs_eq_self_iff {text : List Char} :
    withoutStubs text = text ↔ HasNoStub text :=
  ⟨fun h => (withoutStubs_spec text).2 (by rw [h]), withoutStubs_of_hasNoStub⟩

end Cleaning

/-! ## A field with a pattern -/

namespace Document

open Cleaning

/-- The printable characters that neither begin a comment nor have a meaning in a string. -/
def IsPlainText (text : String) : Prop :=
  ∀ c ∈ text.toList, Text.isPrintable c = true ∧ c ∉ ['#', '"', '\\']

/-- The source text in front of a pattern. -/
def patternOpening : List Char := "type T \x7b a: String @validate(pattern: \"".toList

/-- The source text of a field with a pattern. -/
def patternSource (pattern : String) : String :=
  String.ofList (patternOpening ++ (pattern.toList ++ ['"', ')', ' ', '}']))

/-- The schema of a field with a pattern. -/
def patternSchema (pattern : String) : Datum :=
  .object [("type", .text "string"), ("title", .text "a"), ("pattern", .text pattern)]

/-- The schema of a property in a schema document. -/
def propertyOf? (schema : Members) (title name : String) : Option Datum :=
  match Entries.find? (definitionsOf schema) title with
  | some (.object body) => Entries.find? (Definition.propertySchemas body) name
  | _ => none

variable {pattern : String}

theorem patternSchema_inj {other : String} :
    patternSchema pattern = patternSchema other ↔ pattern = other := by
  simp [patternSchema]

theorem IsPlainText.of_ascii (h : ∀ c ∈ pattern.toList,
    (0x20 ≤ c.toNat ∧ c.toNat ≤ 0x7E) ∧ c ∉ ['#', '"', '\\']) : IsPlainText pattern :=
  fun c hc => ⟨Text.isPrintable_of_ascii (h c hc).1.1 (h c hc).1.2, (h c hc).2⟩

theorem IsPlainText.isLiteral (h : IsPlainText pattern) {c : Char} (hc : c ∈ pattern.toList) :
    Token.isLiteral c = true := by
  obtain ⟨hprintable, hplain⟩ := h c hc
  have hend : Token.isLineEnd c = false := by
    rw [Token.isLineEnd, Bool.or_eq_false_iff, beq_eq_false_iff_ne, beq_eq_false_iff_ne]
    constructor <;> rintro rfl <;> revert hprintable <;> decide
  simp_all [Token.isLiteral]

theorem IsPlainText.of_sublist (h : IsPlainText pattern) {chars : List Char}
    (hsub : chars.Sublist pattern.toList) : IsPlainText (String.ofList chars) := fun c hc =>
  h c (hsub.subset (by rwa [String.toList_ofList] at hc))

theorem withoutStubs_patternOpening (rest : List Char) :
    withoutStubs (patternOpening ++ rest) = patternOpening ++ withoutStubs rest := by
  rfl

/-- Cleaning goes into the pattern, and leaves what stands around it. -/
theorem cleanText_patternSource (h : IsPlainText pattern) :
    cleanText (patternSource pattern)
      = patternSource (String.ofList (withoutStubs pattern.toList)) := by
  have hsign : '#' ∉ patternOpening ++ (pattern.toList ++ ['"', ')', ' ', '}']) := by
    have hopening : '#' ∉ patternOpening := by decide
    have hpattern : '#' ∉ pattern.toList := fun hmem => (h '#' hmem).2 (by decide)
    simp [hopening, hpattern]
  have hbrace : '{' ∉ [')', ' ', '}'] := by decide
  rw [cleanText, patternSource, String.toList_ofList, clean_of_no_sign hsign,
    withoutStubs_patternOpening, withoutStubs_append_quote pattern.toList hbrace, patternSource,
    String.toList_ofList]
  have hopening : patternOpening = 't' :: patternOpening.tail := rfl
  have hfirst : Text.isBlank 't' = false := by decide
  have hlast : Text.isBlank '}' = false := by decide
  have hends := strip_of_ends hfirst hlast
    (patternOpening.tail ++ (withoutStubs pattern.toList ++ ['"', ')', ' ']))
  rw [hopening]
  simpa using congrArg String.ofList hends

/-- A pattern is read as it stands. -/
theorem parse?_patternSource (h : IsPlainText pattern) :
    parse? (patternSource pattern) = some [.object "T" [] [] [⟨⟨"a", .named "String", none,
      [⟨"validate", [⟨"pattern", .text pattern⟩]⟩]⟩, []⟩]] := by
  have hopening : Token.run .between patternOpening
      = some ([.name "type", .name "T", .mark .openBrace, .name "a", .mark .colon, .name "String",
          .mark .at, .name "validate", .mark .openParen, .name "pattern", .mark .colon], .quote) :=
    rfl
  have hclosing : Token.scanFrom .between [' ', '}'] = some [.mark .closeBrace] := rfl
  have hpattern := Token.run_quote fun c hc => h.isLiteral hc
  rw [parse?, Token.scan, patternSource, String.toList_ofList, Token.scanFrom_append hopening]
  have hrest : pattern.toList ++ ['"', ')', ' ', '}']
      = (pattern.toList ++ ['"', ')']) ++ [' ', '}'] := by simp
  rw [hrest, Token.scanFrom_append hpattern, hclosing, String.ofList_toList]
  rfl

/-- The pattern arrives without its stubs. -/
theorem ofText_patternSource (h : IsPlainText pattern) :
    ofText (patternSource pattern) {} = pure (envelope (some Dialect.draft04)
      [("T", .object [("title", .text "T"), ("type", .text "object"), ("properties",
        .object [("a", patternSchema (String.ofList (withoutStubs pattern.toList)))])])]) := by
  have hparse := parse?_patternSource (h.of_sublist (withoutStubs_spec pattern.toList).1)
  rw [ofText, cleanText_patternSource h, if_neg (ne_empty_of_parse? hparse), hparse]
  rfl

/-- A pattern of plain text is part of a schema document. It arrives as it was written just if no
part of it reads as a stub. -/
theorem pattern_arrives_iff (h : IsPlainText pattern) :
    ∃ schema, (ofText (patternSource pattern) {}).result = .ok schema ∧
      propertyOf? schema "T" "a"
        = some (patternSchema (String.ofList (withoutStubs pattern.toList))) ∧
      (propertyOf? schema "T" "a" = some (patternSchema pattern) ↔ HasNoStub pattern.toList) := by
  have hproperty (schema : Datum) : propertyOf? (envelope (some Dialect.draft04)
      [("T", .object [("title", .text "T"), ("type", .text "object"),
        ("properties", .object [("a", schema)])])]) "T" "a" = some schema := rfl
  refine ⟨_, by rw [ofText_patternSource h]; rfl, hproperty _, ?_⟩
  rw [hproperty, ← withoutStubs_eq_self_iff, Option.some.injEq, patternSchema_inj,
    ← String.toList_inj, String.toList_ofList]

/-- Braces with something between them are no stub. -/
theorem pattern_arrives_with_braces :
    ∃ schema, (ofText (patternSource "type A \x7b1\x7d") {}).result = .ok schema ∧
      propertyOf? schema "T" "a" = some (patternSchema "type A \x7b1\x7d") := by
  have hplain : IsPlainText "type A \x7b1\x7d" := .of_ascii (by simp)
  obtain ⟨schema, hschema, -, hiff⟩ := pattern_arrives_iff hplain
  exact ⟨schema, hschema, hiff.mpr (withoutStubs_eq_self_iff.mp (by decide))⟩

/-- Not every pattern of plain text arrives: the text of an empty definition is taken away. -/
theorem pattern_loses_stub :
    ¬ ∀ pattern, IsPlainText pattern →
      ∃ schema, (ofText (patternSource pattern) {}).result = .ok schema ∧
        propertyOf? schema "T" "a" = some (patternSchema pattern) := by
  intro h
  have hplain : IsPlainText "type A \x7b\x7d" := .of_ascii (by simp)
  obtain ⟨schema, hschema, hproperty⟩ := h _ hplain
  rw [ofText_patternSource hplain] at hschema
  cases hschema
  have hempty : withoutStubs "type A \x7b\x7d".toList = [] := by decide
  rw [hempty] at hproperty
  exact absurd (patternSchema_inj.mp (Option.some.inj hproperty)) (by decide)

end Document

end SchemaBridge
