import Mathlib
import SchemaBridge.Proofs.Comments
import SchemaBridge.Schema.Document

/-!
# What removing stubs does to a document

An empty stub is looked for in the letters of a source text, not in its tokens. In a document no
type has an empty body, but an empty object is a value, and so letters that read as a stub may
stand in it: the end of a name, an equals sign, and the two braces after it. They are taken away
like any stub. A document without comments and strings is converted as it stands, with all of its
tokens, exactly if no part of its text reads as a stub.

* `afterStub?_eq_some`: what is taken away is a stub, and no stub is passed over.
* `count_openBrace`: each opening brace is a token.
* `scanFrom_strip`: the blanks at both ends do not matter.
* `ofText_eq_schema_iff`: when a source text is converted as the document that it spells.
* `ofText_loses_name`: an empty object as a fallback value changes the type of its field.
-/

namespace SchemaBridge

namespace Cleaning

/-! ## Stubs -/

/-- One of four keywords in any case, a blank, a run of anything but blanks, a blank, and two braces
with nothing but blanks between them. -/
def IsStub (stub : List Char) : Prop :=
  ∃ word first name second inner,
    stub = word ++ first :: (name ++ second :: '{' :: (inner ++ ['}'])) ∧
    String.ofList (word.map Text.fold) ∈ keywords ∧
    Text.isBlank first = true ∧
    name ≠ [] ∧ (∀ c ∈ name, Text.isBlank c = false) ∧
    Text.isBlank second = true ∧
    ∀ c ∈ inner, Text.isBlank c = true

theorem afterWord?_eq_some {word text rest : List Char} :
    afterWord? word text = some rest ↔ ∃ read, text = read ++ rest ∧ read.map Text.fold = word := by
  induction word generalizing text with
  | nil => simp [afterWord?, eq_comm]
  | cons w word ih =>
    cases text with
    | nil => simp [afterWord?]
    | cons c text =>
      rw [afterWord?]
      split_ifs with hc
      · rw [ih]
        constructor
        · rintro ⟨read, rfl, rfl⟩
          exact ⟨c :: read, rfl, by simp [hc]⟩
        · rintro ⟨read, htext, hread⟩
          obtain ⟨d, read, rfl, hd, rfl⟩ := List.map_eq_cons_iff.mp hread
          obtain ⟨rfl, rfl⟩ := List.cons_eq_cons.mp htext
          exact ⟨read, rfl, rfl⟩
      · simp only [false_iff, not_exists, not_and]
        intro read htext hread
        obtain ⟨d, read, rfl, hd, rfl⟩ := List.map_eq_cons_iff.mp hread
        obtain ⟨rfl, rfl⟩ := List.cons_eq_cons.mp htext
        exact hc hd

/-- No keyword begins with another one. -/
theorem eq_of_isPrefix_keyword {first second : String} (hfirst : first ∈ keywords)
    (hsecond : second ∈ keywords) (h : first.toList <+: second.toList) : first = second := by
  revert h
  revert second
  revert first
  decide

/-- The keyword that a text begins with is the only one. -/
theorem keywords_findSome? {word rest : List Char}
    (hword : String.ofList (word.map Text.fold) ∈ keywords) :
    (keywords.findSome? fun keyword => afterWord? keyword.toList (word ++ rest)) = some rest := by
  obtain ⟨keyword, hkeyword, hrest⟩ : ∃ keyword ∈ keywords,
      afterWord? keyword.toList (word ++ rest) = some rest :=
    ⟨_, hword, afterWord?_eq_some.mpr ⟨word, rfl, by simp⟩⟩
  obtain ⟨other, hother, found, hfound⟩ : ∃ other ∈ keywords, ∃ found,
      afterWord? other.toList (word ++ rest) = some found ∧
      (keywords.findSome? fun keyword => afterWord? keyword.toList (word ++ rest)) = some found := by
    cases h : keywords.findSome? fun keyword => afterWord? keyword.toList (word ++ rest) with
    | none =>
      rw [List.findSome?_eq_none_iff] at h
      simp [h keyword hkeyword] at hrest
    | some found =>
      obtain ⟨other, hother, hfound⟩ := List.exists_of_findSome?_eq_some h
      exact ⟨other, hother, found, hfound, rfl⟩
  obtain ⟨read, htext, hread⟩ := afterWord?_eq_some.mp hrest
  obtain ⟨read', htext', hread'⟩ := afterWord?_eq_some.mp hfound.1
  -- Both keywords are read at the beginning of one text, so one begins with the other.
  have hsame : keyword = other := by
    rcases List.prefix_or_prefix_of_prefix (List.prefix_append read rest)
      (htext ▸ htext' ▸ List.prefix_append read' found) with h | h
    · exact eq_of_isPrefix_keyword hkeyword hother (hread ▸ hread' ▸ h.map Text.fold)
    · exact (eq_of_isPrefix_keyword hother hkeyword (hread ▸ hread' ▸ h.map Text.fold)).symm
  rw [hfound.2, ← hfound.1, ← hsame, hrest]

theorem afterBlank?_eq_some {text rest : List Char} :
    afterBlank? text = some rest ↔ ∃ c, text = c :: rest ∧ Text.isBlank c = true := by
  cases text with
  | nil => simp [afterBlank?]
  | cons c text => by_cases hc : Text.isBlank c = true <;> simp_all [afterBlank?]

theorem afterSolid?_eq_some {text rest : List Char} (h : afterSolid? text = some rest) :
    ∃ name, text = name ++ rest ∧ name ≠ [] ∧ ∀ c ∈ name, Text.isBlank c = false := by
  cases text with
  | nil => simp [afterSolid?] at h
  | cons c text =>
    rw [afterSolid?] at h
    split_ifs at h with hc
    cases h
    refine ⟨c :: text.takeWhile (!Text.isBlank ·), ?_, by simp, ?_⟩
    · rw [List.cons_append, List.takeWhile_append_dropWhile]
    · intro d hd
      rcases List.mem_cons.mp hd with rfl | hd
      · simpa using hc
      · simpa using List.mem_takeWhile_imp hd

theorem afterSolid?_append {name rest : List Char} {c : Char} (hname : name ≠ [])
    (hsolid : ∀ c ∈ name, Text.isBlank c = false) (hc : Text.isBlank c = true) :
    afterSolid? (name ++ c :: rest) = some (c :: rest) := by
  obtain ⟨d, name, rfl⟩ := List.exists_cons_of_ne_nil hname
  have hpos : ∀ e ∈ name, (!Text.isBlank e) = true := fun e he => by
    simp [hsolid e (List.mem_cons_of_mem d he)]
  rw [List.cons_append, afterSolid?, if_neg (by simp [hsolid d]),
    List.dropWhile_append_of_pos hpos, List.dropWhile_cons_of_neg (by simp [hc])]

theorem afterBraces?_eq_some {text rest : List Char} :
    afterBraces? text = some rest ↔
      ∃ inner, text = '{' :: (inner ++ '}' :: rest) ∧ ∀ c ∈ inner, Text.isBlank c = true := by
  constructor
  · intro h
    unfold afterBraces? at h
    split at h
    · next inside =>
      split at h
      · next found hdrop =>
        cases h
        refine ⟨inside.takeWhile Text.isBlank, ?_, fun c hc => List.mem_takeWhile_imp hc⟩
        rw [← hdrop, List.takeWhile_append_dropWhile]
      · cases h
    · cases h
  · rintro ⟨inner, rfl, hinner⟩
    simp [afterBraces?, List.dropWhile_append_of_pos hinner, Text.isBlank]

/-- What is taken away from the beginning of a text is a stub, and every stub is. -/
theorem afterStub?_eq_some {text rest : List Char} :
    afterStub? text = some rest ↔ ∃ stub, IsStub stub ∧ text = stub ++ rest := by
  constructor
  · intro h
    simp only [afterStub?, bind, Option.bind_eq_some_iff] at h
    obtain ⟨afterWord, hword, afterFirst, hfirst, afterName, hname, afterSecond, hsecond, h⟩ := h
    obtain ⟨keyword, hkeyword, hword⟩ := List.exists_of_findSome?_eq_some hword
    obtain ⟨word, rfl, hfold⟩ := afterWord?_eq_some.mp hword
    obtain ⟨first, rfl, hblank⟩ := afterBlank?_eq_some.mp hfirst
    obtain ⟨name, rfl, hne, hsolid⟩ := afterSolid?_eq_some hname
    obtain ⟨second, rfl, hblank'⟩ := afterBlank?_eq_some.mp hsecond
    obtain ⟨inner, rfl, hinner⟩ := afterBraces?_eq_some.mp h
    refine ⟨word ++ first :: (name ++ second :: '{' :: (inner ++ ['}'])), ?_, by simp⟩
    refine ⟨word, first, name, second, inner, rfl, ?_, hblank, hne, hsolid, hblank', hinner⟩
    rwa [hfold, String.ofList_toList]
  · rintro ⟨_, ⟨word, first, name, second, inner, rfl, hword, hfirst, hne, hsolid, hsecond, hinner⟩,
      rfl⟩
    simp only [List.append_assoc, List.cons_append, List.nil_append, afterStub?, bind,
      Option.bind_eq_some_iff]
    exact ⟨_, keywords_findSome? hword, _, afterBlank?_eq_some.mpr ⟨first, rfl, hfirst⟩, _,
      afterSolid?_append hne hsolid hsecond, _, afterBlank?_eq_some.mpr ⟨second, rfl, hsecond⟩,
      afterBraces?_eq_some.mpr ⟨inner, rfl, hinner⟩⟩

/-- No part of the text reads as a stub. -/
def HasNoStub (text : List Char) : Prop := ∀ stub, IsStub stub → ¬ stub <:+: text

theorem IsStub.openBrace_mem {stub : List Char} (h : IsStub stub) : '{' ∈ stub := by
  obtain ⟨word, first, name, second, inner, rfl, -⟩ := h
  simp

/-! ## Removing stubs -/

theorem dropStubs_eq_drop (skipped : Nat) (text : List Char) :
    dropStubs skipped text = dropStubs 0 (text.drop skipped) := by
  induction text generalizing skipped with
  | nil => simp [dropStubs]
  | cons c rest ih =>
    cases skipped with
    | zero => rfl
    | succ more => rw [dropStubs, List.drop_succ_cons, ih more]

/-- A stub that a text begins with is taken away. -/
theorem withoutStubs_of_isStub {stub : List Char} (h : IsStub stub) {rest : List Char}
    (hafter : afterStub? (stub ++ rest) = some rest) :
    withoutStubs (stub ++ rest) = withoutStubs rest := by
  obtain ⟨c, stub, rfl⟩ : ∃ c stub', stub = c :: stub' :=
    List.exists_cons_of_ne_nil (List.ne_nil_of_mem h.openBrace_mem)
  have hlength : stubLength? (c :: stub ++ rest) = some (stub.length + 1) := by
    rw [stubLength?, hafter, Option.map_some, List.length_append, List.length_cons,
      Nat.add_sub_cancel]
  rw [List.cons_append] at hlength
  rw [withoutStubs, List.cons_append, dropStubs, hlength]
  show dropStubs stub.length (stub ++ rest) = _
  rw [dropStubs_eq_drop, List.drop_left, withoutStubs]

theorem withoutStubs_cons_of_none {c : Char} {rest : List Char}
    (h : afterStub? (c :: rest) = none) :
    withoutStubs (c :: rest) = c :: withoutStubs rest := by
  have hlength : stubLength? (c :: rest) = none := by rw [stubLength?, h, Option.map_none]
  rw [withoutStubs, dropStubs, hlength, withoutStubs]

/-- Removing stubs takes away a part of the text, and with each stub an opening brace. -/
theorem withoutStubs_spec (text : List Char) :
    (withoutStubs text).Sublist text ∧
      ((withoutStubs text).count '{' = text.count '{' → HasNoStub text) := by
  induction hn : text.length using Nat.strongRecOn generalizing text with
  | _ n ih =>
    cases text with
    | nil =>
      refine ⟨List.Sublist.refl _, fun _ stub hstub hinfix => ?_⟩
      have := hinfix.subset hstub.openBrace_mem
      simp at this
    | cons c rest =>
      cases hafter : afterStub? (c :: rest) with
      | some found =>
        obtain ⟨stub, hstub, htext⟩ := afterStub?_eq_some.mp hafter
        have hbrace : 0 < stub.count '{' := List.count_pos_iff.mpr hstub.openBrace_mem
        have hshorter : found.length < n := by
          have : 0 < stub.length := List.length_pos_of_mem hstub.openBrace_mem
          rw [← hn, htext, List.length_append]
          omega
        obtain ⟨hsub, -⟩ := ih found.length hshorter found rfl
        rw [htext] at hafter ⊢
        rw [withoutStubs_of_isStub hstub hafter]
        refine ⟨hsub.trans (List.sublist_append_right stub found), fun hcount => ?_⟩
        have := hsub.count_le '{'
        rw [List.count_append] at hcount
        omega
      | none =>
        obtain ⟨hsub, hnone⟩ := ih rest.length (by rw [← hn]; simp) rest rfl
        rw [withoutStubs_cons_of_none hafter]
        refine ⟨hsub.cons_cons c, fun hcount stub hstub hinfix => ?_⟩
        have hrest : (withoutStubs rest).count '{' = rest.count '{' := by
          rw [List.count_cons, List.count_cons] at hcount
          omega
        rcases List.infix_cons_iff.mp hinfix with ⟨after, htext⟩ | hinfix
        · have := afterStub?_eq_some.mpr ⟨stub, hstub, htext.symm⟩
          rw [hafter] at this
          cases this
        · exact hnone hrest stub hstub hinfix

theorem withoutStubs_of_hasNoStub {text : List Char} (h : HasNoStub text) :
    withoutStubs text = text := by
  induction text with
  | nil => rfl
  | cons c rest ih =>
    have hafter : afterStub? (c :: rest) = none := by
      by_contra hsome
      obtain ⟨found, hfound⟩ := Option.ne_none_iff_exists'.mp hsome
      obtain ⟨stub, hstub, htext⟩ := afterStub?_eq_some.mp hfound
      exact h stub hstub ⟨[], found, by rw [htext]; rfl⟩
    rw [withoutStubs_cons_of_none hafter,
      ih fun stub hstub hinfix => h stub hstub (List.infix_cons hinfix)]

/-! ## Cleaning a document -/

theorem strip_sublist (text : List Char) : (Text.strip text).Sublist text := by
  have h := List.dropWhile_sublist (l := (text.dropWhile Text.isBlank).reverse) Text.isBlank
  have hfront := List.dropWhile_sublist (l := text) Text.isBlank
  refine List.Sublist.trans ?_ hfront
  simpa [Text.strip] using List.Sublist.reverse h

theorem count_strip (text : List Char) : (Text.strip text).count '{' = text.count '{' := by
  have hdrop : ∀ text : List Char, (text.dropWhile Text.isBlank).count '{' = text.count '{' := by
    intro text
    induction text with
    | nil => rfl
    | cons c text ih =>
      by_cases hc : Text.isBlank c = true
      · have hne : c ≠ '{' := by
          rintro rfl
          exact absurd hc (by decide)
        rw [List.dropWhile_cons_of_pos hc, ih, List.count_cons_of_ne hne]
      · rw [List.dropWhile_cons_of_neg hc]
  rw [Text.strip, List.count_reverse, hdrop, List.count_reverse, hdrop]

/-- A text without comments is cleaned of stubs and of the blanks at its ends. -/
theorem clean_of_no_sign {text : List Char} (h : '#' ∉ text) :
    clean text = Text.strip (withoutStubs text) := by
  rw [clean, withoutComments_of_no_sign h]

/-- The text of a document without comments and strings keeps all of its tokens just if no part of
it reads as a stub. -/
theorem scan_cleanText_iff {source : String} (hsign : '#' ∉ source.toList)
    (hquote : '"' ∉ source.toList) {tokens : List Token}
    (hscan : Token.scan source = some tokens) :
    Token.scan (cleanText source) = some tokens ↔ HasNoStub source.toList := by
  rw [Token.scan, cleanText, String.toList_ofList, clean_of_no_sign hsign]
  obtain ⟨hsub, hnone⟩ := withoutStubs_spec source.toList
  constructor
  · intro hclean
    have hcleaned := ((strip_sublist (withoutStubs source.toList)).trans hsub).subset
    have hbefore := Token.count_openBrace rfl hquote hsign hscan
    have hafter := Token.count_openBrace rfl (fun h => hquote (hcleaned h))
      (fun h => hsign (hcleaned h)) hclean
    apply hnone
    rw [← count_strip, ← hafter, ← hbefore]
  · intro h
    rw [withoutStubs_of_hasNoStub h]
    exact Token.scanFrom_strip hquote hsign hscan

/-- A text that spells a document has tokens. -/
theorem ne_empty_of_parse? {source : String} {document : Document}
    (h : Document.parse? source = some document) : source ≠ "" := by
  rintro rfl
  cases h

/-- A source text without comments and strings that spells a document is converted as that document,
with all of its tokens, just if no part of it reads as a stub. -/
theorem ofText_eq_schema_iff {source : String} {document : Document}
    (hsign : '#' ∉ source.toList) (hquote : '"' ∉ source.toList)
    (hparse : Document.parse? source = some document) (options : Document.Options) :
    (Document.ofText source options = document.schema options ∧
        Token.scan (cleanText source) = Token.scan source) ↔
      HasNoStub source.toList := by
  obtain ⟨tokens, hscan, hcomplete⟩ := Option.bind_eq_some_iff.mp hparse
  rw [hscan, scan_cleanText_iff hsign hquote hscan]
  refine ⟨fun h => h.2, fun h => ⟨?_, h⟩⟩
  have hclean : Document.parse? (cleanText source) = some document := by
    rw [Document.parse?, (scan_cleanText_iff hsign hquote hscan).mpr h]
    exact hcomplete
  simp only [Document.ofText]
  rw [if_neg (ne_empty_of_parse? hclean), hclean]

/-- An empty object as a fallback value is no stub where the type's name does not end in a
keyword. -/
theorem ofText_empty_fallback :
    Document.ofText "input I { a: Text = { } }" {} =
      Document.schema [.inputObject "I" [] [⟨⟨"a", .named "Text", some (.object []), []⟩, []⟩]] {} := by
  have hparse : Document.parse? "input I { a: Text = { } }" =
      some [.inputObject "I" [] [⟨⟨"a", .named "Text", some (.object []), []⟩, []⟩]] := by cbv
  have hstub : HasNoStub "input I { a: Text = { } }".toList :=
    (withoutStubs_spec _).2 (by decide)
  exact ((ofText_eq_schema_iff (by decide) (by decide) hparse {}).mpr hstub).1

/-- Not every document without comments and strings is converted as it stands: after a name that
ends in a keyword, an empty object as a fallback value is taken away with the end of the name. -/
theorem ofText_loses_name :
    ¬ ∀ (source : String) (document : Document), '#' ∉ source.toList → '"' ∉ source.toList →
      Document.parse? source = some document →
      Document.ofText source {} = document.schema {} := by
  intro h
  have hsame := h "input I { a: Mytype = { } }"
    [.inputObject "I" [] [⟨⟨"a", .named "Mytype", some (.object []), []⟩, []⟩]]
    (by decide) (by decide) (by cbv)
  have hcut : Document.ofText "input I { a: Mytype = { } }" {} =
      Document.schema [.inputObject "I" [] [⟨⟨"a", .named "My", none, []⟩, []⟩]] {} := by
    have hclean : cleanText "input I { a: Mytype = { } }" = "input I { a: My }" := by decide
    have hparse : Document.parse? "input I { a: My }" =
        some [.inputObject "I" [] [⟨⟨"a", .named "My", none, []⟩, []⟩]] := by cbv
    simp only [Document.ofText, hclean, hparse]
    rfl
  have hreference : (Document.schema
      [.inputObject "I" [] [⟨⟨"a", .named "My", none, []⟩, []⟩]] {}).result =
      (Document.schema [.inputObject "I" []
        [⟨⟨"a", .named "Mytype", some (.object []), []⟩, []⟩]] {}).result := by
    rw [← hcut, hsame]
  cases hreference

end Cleaning

end SchemaBridge
