import Mathlib
import SchemaBridge.Pattern.Matching

/-!
# The texts that a pattern takes

A pattern that asks nothing of what follows takes the same texts wherever they stand. So it has a
language, which is put together from the languages of its parts.

* `Pattern.takes_of_isPlain`: what such a pattern takes, and what it leaves.
* `Pattern.matches_nil_iff`: the whole texts that it matches.
* `Pattern.mem_inRow`, `Pattern.mem_inRow_char`: texts of a language in a row, and characters.
* `Pattern.mem_language_seq`, `Pattern.language_between` and so on: the language of a pattern by
  the languages of its parts.
* `Pattern.mem_language_exact_separated`, `Pattern.mem_language_separated`: texts with a separator
  between them.
-/

namespace SchemaBridge.Pattern

variable {R : List Char → List Char → Prop} {L : Language Char} {count : Nat → Prop}
  {s t text : List Char}

/-! ## Languages -/

/-- Texts of a language in a row, of which there are so many. -/
def inRow (L : Language Char) (count : Nat → Prop) : Language Char :=
  {text | ∃ parts : List (List Char), count parts.length ∧ (∀ part ∈ parts, part ∈ L) ∧
    text = parts.flatten}

/-- The texts that a pattern takes. Where it asks for what follows, it takes nothing. -/
def language : Pattern → Language Char
  | empty => 1
  | char set => {text | ∃ c, set.contains c = true ∧ text = [c]}
  | seq first second => first.language * second.language
  | alt first second => first.language + second.language
  | times body least most =>
    inRow body.language fun n => least ≤ n ∧ ∀ bound ∈ most, n ≤ bound
  | lastLineFinish => 1
  | ahead _ => 1

/-- The pattern asks nothing of what follows. -/
def isPlain : Pattern → Bool
  | empty | char _ => true
  | seq first second | alt first second => first.isPlain && second.isPlain
  | times body _ _ => body.isPlain
  | lastLineFinish | ahead _ => false

/-! ## Matching -/

/-- The relation leads from a text to what follows a part of the language in it. -/
def Takes (R : List Char → List Char → Prop) (L : Language Char) : Prop :=
  ∀ s t, R s t ↔ ∃ taken ∈ L, s = taken ++ t

/-- So many times in a row, so many texts are taken. -/
theorem Takes.chain_iff (h : Takes R L) {n : Nat} :
    Chain R n s t ↔ ∃ taken ∈ inRow L (· = n), s = taken ++ t := by
  induction n generalizing s with
  | zero =>
    constructor
    · rintro rfl
      exact ⟨[], ⟨[], rfl, by simp, rfl⟩, rfl⟩
    · rintro ⟨_, ⟨parts, hlength, -, rfl⟩, rfl⟩
      rw [List.length_eq_zero_iff.mp hlength]
      rfl
  | succ n ih =>
    simp only [Chain, h _ _, ih]
    constructor
    · rintro ⟨m, ⟨taken, htaken, rfl⟩, _, ⟨parts, rfl, hparts, rfl⟩, rfl⟩
      exact ⟨_, ⟨taken :: parts, rfl, List.forall_mem_cons.mpr ⟨htaken, hparts⟩, rfl⟩, by simp⟩
    · rintro ⟨_, ⟨_ | ⟨taken, parts⟩, hlength, hparts, rfl⟩, rfl⟩
      · cases hlength
      · obtain ⟨htaken, hparts⟩ := List.forall_mem_cons.mp hparts
        exact ⟨_, ⟨taken, htaken, by simp⟩, _, ⟨parts, by simpa using hlength, hparts, rfl⟩, rfl⟩

theorem Rounds.chain {n : Nat} (h : Rounds R n s t) : Chain R n s t := by
  induction n generalizing s with
  | zero => exact h
  | succ n ih =>
    obtain ⟨m, hm, -, ht⟩ := h
    exact ⟨m, hm, ih ht⟩

/-- Each text of a row takes a round, but for the empty ones. -/
theorem Takes.exists_rounds (h : Takes R L) {parts : List (List Char)}
    (hparts : ∀ part ∈ parts, part ∈ L) :
    ∃ n ≤ parts.length, Rounds R n (parts.flatten ++ t) t := by
  induction parts with
  | nil => exact ⟨0, le_rfl, rfl⟩
  | cons part rest ih =>
    obtain ⟨hpart, hrest⟩ := List.forall_mem_cons.mp hparts
    obtain ⟨n, hn, hrounds⟩ := ih hrest
    by_cases hempty : part = []
    · exact ⟨n, by simp only [List.length_cons]; omega, by simpa [hempty] using hrounds⟩
    · have hpos := List.length_pos_iff.mpr hempty
      refine ⟨n + 1, by simpa using hn, rest.flatten ++ t, ?_, ?_, hrounds⟩
      · exact (h _ _).mpr ⟨part, hpart, by simp⟩
      · simp only [List.flatten_cons, List.append_assoc, List.length_append]
        omega

theorem Takes.times {body : Pattern} (h : Takes body.Matches body.language) (least : Nat)
    (most : Option Nat) :
    Takes (times body least most).Matches (times body least most).language := by
  intro s t
  constructor
  · rintro ⟨m, n, hfirst, hbound, hrest⟩
    obtain ⟨_, ⟨parts, rfl, hparts, rfl⟩, rfl⟩ := h.chain_iff.mp hfirst
    obtain ⟨_, ⟨others, rfl, hothers, rfl⟩, rfl⟩ := h.chain_iff.mp hrest.chain
    refine ⟨_, ⟨parts ++ others, ⟨by simp, by simpa using hbound⟩, ?_, rfl⟩, by simp⟩
    exact fun part hmem => (List.mem_append.mp hmem).elim (hparts part) (hothers part)
  · rintro ⟨_, ⟨parts, ⟨hleast, hbound⟩, hparts, rfl⟩, rfl⟩
    -- The first texts are those that have to be there; the others are taken in rounds.
    have hfirst : ∀ part ∈ parts.take least, part ∈ body.language :=
      fun part hmem => hparts part (List.mem_of_mem_take hmem)
    have hrest : ∀ part ∈ parts.drop least, part ∈ body.language :=
      fun part hmem => hparts part (List.mem_of_mem_drop hmem)
    obtain ⟨n, hn, hrounds⟩ := h.exists_rounds (t := t) hrest
    rw [List.length_drop] at hn
    refine ⟨(parts.drop least).flatten ++ t, n, h.chain_iff.mpr ?_, ?_, hrounds⟩
    · refine ⟨_, ⟨parts.take least, by simpa using hleast, hfirst, rfl⟩, ?_⟩
      rw [← List.append_assoc, ← List.flatten_append, List.take_append_drop]
    · intro bound hmem
      have hle := hbound bound hmem
      omega

/-- A pattern that asks nothing of what follows takes the texts of its language. -/
theorem takes_of_isPlain {pattern : Pattern} (h : pattern.isPlain = true) :
    Takes pattern.Matches pattern.language := by
  induction pattern with
  | empty =>
    intro s t
    simp [Matches, language, Language.mem_one]
  | char set =>
    intro s t
    constructor
    · rintro ⟨c, rfl, hc⟩
      exact ⟨[c], ⟨c, hc, rfl⟩, rfl⟩
    · rintro ⟨_, ⟨c, hc, rfl⟩, rfl⟩
      exact ⟨c, rfl, hc⟩
  | seq first second ih ih' =>
    simp only [isPlain, Bool.and_eq_true] at h
    intro s t
    simp only [Matches, ih h.1 _ _, ih' h.2 _ _, language, Language.mem_mul]
    constructor
    · rintro ⟨m, ⟨u, hu, rfl⟩, v, hv, rfl⟩
      exact ⟨u ++ v, ⟨u, hu, v, hv, rfl⟩, by simp⟩
    · rintro ⟨_, ⟨u, hu, v, hv, rfl⟩, rfl⟩
      exact ⟨v ++ t, ⟨u, hu, by simp⟩, v, hv, rfl⟩
  | alt first second ih ih' =>
    simp only [isPlain, Bool.and_eq_true] at h
    intro s t
    simp only [Matches, ih h.1 _ _, ih' h.2 _ _, language, Language.mem_add, or_and_right,
      exists_or]
  | times body least most ih => exact (ih h).times least most
  | lastLineFinish => cases h
  | ahead body => cases h

theorem matches_nil_iff {pattern : Pattern} (h : pattern.isPlain = true) :
    pattern.Matches text [] ↔ text ∈ pattern.language := by
  simp [takes_of_isPlain h text []]

/-! ## Languages by their parts -/

section

variable {set : CharSet} {c : Char} {body first second : Pattern} {patterns : List Pattern}

theorem mem_inRow : text ∈ inRow L count ↔ ∃ parts : List (List Char), count parts.length ∧
    (∀ part ∈ parts, part ∈ L) ∧ text = parts.flatten := Iff.rfl

theorem inRow_one (L : Language Char) : inRow L (· = 1) = L := by
  ext text
  constructor
  · rintro ⟨parts, hlength, hparts, rfl⟩
    obtain ⟨part, rfl⟩ := List.length_eq_one_iff.mp hlength
    simpa using hparts
  · intro h
    exact ⟨[text], rfl, by simpa using h, by simp⟩

@[simp] theorem mem_language_empty : text ∈ empty.language ↔ text = [] := Language.mem_one text

@[simp] theorem mem_language_char :
    text ∈ (char set).language ↔ ∃ c, set.contains c = true ∧ text = [c] := Iff.rfl

@[simp] theorem mem_language_seq :
    text ∈ (seq first second).language
      ↔ ∃ u ∈ first.language, ∃ v ∈ second.language, text = u ++ v := by
  simp only [language, Language.mem_mul, eq_comm]

@[simp] theorem mem_language_alt :
    text ∈ (alt first second).language ↔ text ∈ first.language ∨ text ∈ second.language :=
  Language.mem_add _ _ _

@[simp] theorem mem_language_oneOf :
    text ∈ (oneOf patterns).language ↔ ∃ pattern ∈ patterns, text ∈ pattern.language := by
  induction patterns with
  | nil => simp [oneOf, CharSet.contains]
  | cons pattern rest ih =>
    cases rest with
    | nil => simp [oneOf]
    | cons next rest => simpa [oneOf] using or_congr_right ih

@[simp] theorem mem_language_inOrder_cons :
    text ∈ (inOrder (first :: patterns)).language
      ↔ ∃ u ∈ first.language, ∃ v ∈ (inOrder patterns).language, text = u ++ v :=
  mem_language_seq

@[simp] theorem mem_language_inOrder_nil : text ∈ (inOrder []).language ↔ text = [] :=
  mem_language_empty

theorem language_between (least most : Nat) : (body.between least most).language
    = inRow body.language fun n => least ≤ n ∧ n ≤ most := by
  simp [between, language]

theorem language_exact (n : Nat) : (body.exact n).language = inRow body.language (· = n) := by
  simp only [exact, language, Option.mem_some_iff, forall_eq']
  congr 1
  funext k
  exact propext ⟨fun h => by omega, fun h => by omega⟩

theorem language_zeroOrMore :
    body.zeroOrMore.language = inRow body.language fun _ => True := by
  simp [zeroOrMore, language]

theorem language_oneOrMore : body.oneOrMore.language = inRow body.language fun n => 1 ≤ n := by
  simp [oneOrMore, language]

@[simp] theorem mem_language_optional :
    text ∈ body.optional.language ↔ text = [] ∨ text ∈ body.language := by
  simp only [optional, language, mem_inRow, Option.mem_some_iff, forall_eq']
  constructor
  · rintro ⟨_ | ⟨part, _ | ⟨next, rest⟩⟩, ⟨-, hle⟩, hparts, rfl⟩
    · exact .inl rfl
    · exact .inr (by simpa using hparts)
    · simp at hle
  · rintro (rfl | h)
    · exact ⟨[], by simp⟩
    · exact ⟨[text], by simpa using h⟩

/-- Where each text is made from something, all are made from a list of such things. -/
theorem exists_eq_map {α : Type} {P : α → Prop} {make : α → List Char}
    {parts : List (List Char)} (h : ∀ part ∈ parts, ∃ a, P a ∧ part = make a) :
    ∃ sources : List α, parts = sources.map make ∧ ∀ a ∈ sources, P a := by
  induction parts with
  | nil => exact ⟨[], rfl, by simp⟩
  | cons part rest ih =>
    obtain ⟨⟨a, ha, rfl⟩, hrest⟩ := List.forall_mem_cons.mp h
    obtain ⟨sources, rfl, hsources⟩ := ih hrest
    exact ⟨a :: sources, rfl, List.forall_mem_cons.mpr ⟨ha, hsources⟩⟩

/-- A row of texts that are made from something is made from a list of such things. -/
theorem mem_inRow_of_image {α : Type} {P : α → Prop} {make : α → List Char}
    (h : ∀ text, text ∈ L ↔ ∃ a, P a ∧ text = make a) :
    text ∈ inRow L count
      ↔ ∃ sources : List α, count sources.length ∧ (∀ a ∈ sources, P a) ∧
        text = sources.flatMap make := by
  simp only [mem_inRow, h]
  constructor
  · rintro ⟨parts, hcount, hparts, rfl⟩
    obtain ⟨sources, rfl, hsources⟩ := exists_eq_map hparts
    exact ⟨sources, by simpa using hcount, hsources, (List.flatMap_def ..).symm⟩
  · rintro ⟨sources, hcount, hsources, rfl⟩
    refine ⟨sources.map make, by simpa using hcount, ?_, List.flatMap_def ..⟩
    intro part hmem
    obtain ⟨a, ha, rfl⟩ := List.mem_map.mp hmem
    exact ⟨a, hsources a ha, rfl⟩

/-- Characters of a set in a row. -/
theorem mem_inRow_char :
    text ∈ inRow (char set).language count
      ↔ count text.length ∧ ∀ c ∈ text, set.contains c = true := by
  rw [mem_inRow_of_image fun _ => mem_language_char]
  simp [List.flatMap_singleton']

/-- Where characters are wanted one after another, each of a text is in its set. -/
theorem mem_language_chars {sets : Char → CharSet} {word : List Char} :
    text ∈ (inOrder (word.map fun c => char (sets c))).language
      ↔ List.Forall₂ (fun d c => (sets c).contains d = true) text word := by
  induction word generalizing text with
  | nil => simp
  | cons c rest ih =>
    simp only [List.map_cons, mem_language_inOrder_cons, mem_language_char, ih,
      List.forall₂_cons_right_iff]
    constructor
    · rintro ⟨_, ⟨d, hd, rfl⟩, v, hv, rfl⟩
      exact ⟨d, v, hd, hv, rfl⟩
    · rintro ⟨d, v, hd, hv, rfl⟩
      exact ⟨[d], ⟨d, hd, rfl⟩, v, hv, rfl⟩

@[simp] theorem mem_language_literal {word : String} :
    text ∈ (literal word).language ↔ text = word.toList := by
  rw [literal, mem_language_chars, ← List.forall₂_eq_eq_eq]
  simp only [CharSet.contains_one]

@[simp] theorem mem_language_caselessLiteral {word : String} :
    text ∈ (caselessLiteral word).language ↔ text.map Text.fold = word.toList := by
  rw [caselessLiteral, mem_language_chars, ← List.forall₂_eq_eq_eq, List.forall₂_map_left_iff]
  simp only [CharSet.contains, CharSet.contains_one]

end

/-! ## Separators -/

section

variable {body : Pattern} {word : String}

theorem intercalate_concat (separator last : List Char) (parts : List (List Char)) :
    separator.intercalate (parts ++ [last]) = parts.flatMap (· ++ separator) ++ last := by
  induction parts with
  | nil => simp
  | cons part rest ih =>
    rw [List.cons_append, List.intercalate_cons_of_ne_nil (by simp), ih]
    simp

theorem intercalate_cons (separator first : List Char) (parts : List (List Char)) :
    separator.intercalate (first :: parts) = first ++ parts.flatMap (separator ++ ·) := by
  induction parts generalizing first with
  | nil => simp
  | cons part rest ih =>
    rw [List.intercalate_cons_cons, ih]
    simp

/-- What holds of the separator holds of the whole text just if it holds of the parts. -/
theorem forall_mem_intercalate {p : Char → Prop} {separator : List Char}
    (h : ∀ c ∈ separator, p c) {parts : List (List Char)} :
    (∀ c ∈ separator.intercalate parts, p c) ↔ ∀ part ∈ parts, ∀ c ∈ part, p c := by
  cases parts with
  | nil => simp
  | cons first rest =>
    rw [intercalate_cons, List.forall_mem_append, List.forall_mem_cons]
    simp only [List.mem_flatMap, List.mem_append]
    constructor
    · rintro ⟨hfirst, hrest⟩
      exact ⟨hfirst, fun part hpart c hc => hrest c ⟨part, hpart, .inr hc⟩⟩
    · rintro ⟨hfirst, hrest⟩
      refine ⟨hfirst, ?_⟩
      rintro c ⟨part, hpart, hc⟩
      exact hc.elim (h c) (hrest part hpart c)

/-- A text is cut in one way behind the last of its separators. -/
theorem append_inj_of_separator {c : Char} {u u' v v' : List Char} (hu : ∀ d ∈ u.getLast?, d = c)
    (hu' : ∀ d ∈ u'.getLast?, d = c) (hv : c ∉ v) (hv' : c ∉ v') (h : u ++ v = u' ++ v') :
    u = u' ∧ v = v' := by
  -- What one cut has more than the other on its left ends with the separator.
  have hnil {whole part rest : List Char} (hwhole : ∀ d ∈ whole.getLast?, d = c)
      (hpart : whole = part ++ rest) (hrest : c ∉ rest) : rest = [] := by
    by_contra hne
    obtain ⟨init, last, rfl⟩ := (List.eq_nil_or_concat' rest).resolve_left hne
    have hlast : last = c := hwhole last (by simp [hpart])
    exact hrest (by simp [hlast])
  rcases List.append_eq_append_iff.mp h with ⟨rest, hwhole, rfl⟩ | ⟨rest, hwhole, rfl⟩
  · obtain rfl := hnil hu' hwhole fun hmem => hv (List.mem_append_left _ hmem)
    exact ⟨by simpa using hwhole.symm, rfl⟩
  · obtain rfl := hnil hu hwhole fun hmem => hv' (List.mem_append_left _ hmem)
    exact ⟨by simpa using hwhole, rfl⟩

/-- Texts in a row, with a separator after each. -/
theorem mem_inRow_ended :
    text ∈ inRow (seq body (literal word)).language count ↔ ∃ parts : List (List Char),
      count parts.length ∧ (∀ part ∈ parts, part ∈ body.language) ∧
      text = parts.flatMap (· ++ word.toList) :=
  mem_inRow_of_image fun _ => by simp

/-- Texts in a row, with a separator before each. -/
theorem mem_inRow_opened :
    text ∈ inRow (seq (literal word) body).language count ↔ ∃ parts : List (List Char),
      count parts.length ∧ (∀ part ∈ parts, part ∈ body.language) ∧
      text = parts.flatMap (word.toList ++ ·) :=
  mem_inRow_of_image fun _ => by simp

/-- One text more than `n`, with a separator between them. -/
theorem mem_language_exact_separated {n : Nat} :
    text ∈ (seq ((seq body (literal word)).exact n) body).language ↔
      ∃ parts : List (List Char), parts.length = n + 1 ∧ (∀ part ∈ parts, part ∈ body.language) ∧
        text = word.toList.intercalate parts := by
  simp only [mem_language_seq, language_exact, mem_inRow_ended]
  constructor
  · rintro ⟨_, ⟨parts, rfl, hparts, rfl⟩, last, hlast, rfl⟩
    exact ⟨parts ++ [last], by simp, List.forall_mem_append.mpr ⟨hparts, by simpa using hlast⟩,
      (intercalate_concat ..).symm⟩
  · rintro ⟨parts, hlength, hparts, rfl⟩
    have hne : parts ≠ [] := List.ne_nil_of_length_eq_add_one hlength
    obtain ⟨parts, last, rfl⟩ := (List.eq_nil_or_concat' parts).resolve_left hne
    obtain ⟨hparts, hlast⟩ := List.forall_mem_append.mp hparts
    exact ⟨_, ⟨parts, by simpa using hlength, hparts, rfl⟩, last, hlast last (by simp),
      intercalate_concat ..⟩

/-- One text at least, with a separator between two. -/
theorem mem_language_separated :
    text ∈ (seq body (seq (literal word) body).zeroOrMore).language ↔
      ∃ parts : List (List Char), parts ≠ [] ∧ (∀ part ∈ parts, part ∈ body.language) ∧
        text = word.toList.intercalate parts := by
  simp only [mem_language_seq, language_zeroOrMore, mem_inRow_opened, true_and]
  constructor
  · rintro ⟨first, hfirst, _, ⟨parts, hparts, rfl⟩, rfl⟩
    exact ⟨first :: parts, by simp, List.forall_mem_cons.mpr ⟨hfirst, hparts⟩,
      (intercalate_cons ..).symm⟩
  · rintro ⟨_ | ⟨first, parts⟩, hne, hparts, rfl⟩
    · exact absurd rfl hne
    · obtain ⟨hfirst, hparts⟩ := List.forall_mem_cons.mp hparts
      exact ⟨first, hfirst, _, ⟨parts, hparts, rfl⟩, intercalate_cons ..⟩

end

end SchemaBridge.Pattern
