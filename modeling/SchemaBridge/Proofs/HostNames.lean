import Mathlib
import SchemaBridge.Format
import SchemaBridge.Proofs.Languages

/-!
# Host names

A host name is made of labels with points between them. How long it may be is asked ahead of the
labels, by a pattern that allows for one more point at the end and for a line feed after that. Neither
of them can hide anything: no label ends with a point, and none holds a line feed. So the limit is for
the name without the point at its end, whether that point is there or not.

Letters are meant in either case, and so a few characters beyond ASCII stand for letters.

* `HostName.mem_labelPattern_iff`, `HostName.mem_labelsPattern_iff`: labels, alone and in a row.
* `HostName.IsJoined.exists_matches_limit_iff`: what is asked ahead of them.
* `Format.hostname_matches_iff_isHostName`: the host names, in any script.
* `Format.hostname_matches_iff`: the host names in ASCII.
-/

namespace SchemaBridge

open Pattern

namespace HostName

variable {letter letter' : Char → Bool} {label name text : List Char} {c : Char}

/-! ## Labels -/

/-- One to 63 letters and hyphens, with a letter at both ends. Which characters count as letters is
left open; the digits are among them. -/
structure IsLabel (letter : Char → Bool) (label : List Char) : Prop where
  length_pos : 1 ≤ label.length
  length_le : label.length ≤ 63
  letters : ∀ c ∈ label, letter c = true ∨ c = '-'
  head_ne : label.head? ≠ some '-'
  getLast_ne : label.getLast? ≠ some '-'

theorem IsLabel.congr (h : IsLabel letter label) (hletter : ∀ c ∈ label, letter c = letter' c) :
    IsLabel letter' label :=
  { h with letters := fun c hc => hletter c hc ▸ h.letters c hc }

/-- The characters at the ends of a label. -/
def ends : CharSet := .union Format.letters (.range '0' '9')

/-- In ASCII, these are the letters and the digits. -/
theorem contains_ends_of_ascii (hascii : c.toNat < 0x80) : ends.contains c = c.isAlphanum := by
  have hends : ends.contains c = true ↔ (97 ≤ (Text.fold c).toNat ∧ (Text.fold c).toNat ≤ 122) ∨
      (48 ≤ c.toNat ∧ c.toNat ≤ 57) := by
    have hdigit : (CharSet.range '0' '9').contains c = true ↔ 48 ≤ c.toNat ∧ c.toNat ≤ 57 :=
      CharSet.contains_range
    have hletter : Format.letters.contains c = true ↔
        97 ≤ (Text.fold c).toNat ∧ (Text.fold c).toNat ≤ 122 := by
      rw [Format.letters, CharSet.contains, CharSet.contains_range]
      rfl
    rw [ends, CharSet.contains, Bool.or_eq_true, hletter, hdigit]
  have halphanum : c.isAlphanum = true ↔ ((65 ≤ c.toNat ∧ c.toNat ≤ 90) ∨
      (97 ≤ c.toNat ∧ c.toNat ≤ 122)) ∨ (48 ≤ c.toNat ∧ c.toNat ≤ 57) := by
    simp only [Char.isAlphanum, Char.isAlpha, Char.isUpper, Char.isLower, Char.isDigit,
      Bool.or_eq_true, Bool.and_eq_true, decide_eq_true_eq]
    exact Iff.rfl
  rw [Bool.eq_iff_iff, hends, halphanum]
  rcases Text.fold_cases c with ⟨hge, hle, hfold⟩ | ⟨-, hcapital, hfold⟩ | ⟨hbeyond, -⟩
  · omega
  · rw [hfold]
    omega
  · omega

/-- A label is one character, or two with up to 61 between them. -/
theorem mem_labelPattern_iff : text ∈ Format.labelPattern.language ↔ IsLabel ends.contains text := by
  have hhyphen : ends.contains '-' = false := by decide
  have hne {c : Char} (hc : ends.contains c = true) : c ≠ '-' := by
    rintro rfl
    exact Bool.false_ne_true (hhyphen.symm.trans hc)
  have hbetween : ∀ c, (CharSet.union ends (.one '-')).contains c = true ↔
      ends.contains c = true ∨ c = '-' := by
    intro c
    rw [CharSet.contains, Bool.or_eq_true, CharSet.contains_one]
  have hlast (c d : Char) (middle : List Char) : (c :: (middle ++ [d])).getLast? = some d := by
    rw [← List.cons_append, List.getLast?_concat]
  have hpattern : Format.labelPattern = inOrder [char ends,
      (inOrder [(char (.union ends (.one '-'))).between 0 61, char ends]).optional] := rfl
  simp only [hpattern, mem_language_inOrder_cons, mem_language_inOrder_nil, mem_language_optional,
    language_between, mem_inRow_char, mem_language_char, hbetween]
  constructor
  · rintro ⟨_, ⟨c, hc, rfl⟩, _, ⟨_, rfl | ⟨middle, ⟨⟨-, hle⟩, hmiddle⟩, _, ⟨_, ⟨d, hd, rfl⟩, _, rfl,
      rfl⟩, rfl⟩, _, rfl, rfl⟩, rfl⟩
    · exact ⟨by simp, by simp, by simp [hc], by simpa using hne hc, by simpa using hne hc⟩
    · refine ⟨by simp, by simp; omega, ?_, by simpa using hne hc, ?_⟩
      · simpa [or_imp, forall_and, hc, hd] using hmiddle
      · simpa [hlast] using hne hd
  · intro h
    obtain ⟨c, rest, rfl⟩ := List.exists_cons_of_length_pos h.length_pos
    have hc : ends.contains c = true :=
      (h.letters c (by simp)).resolve_right (by simpa using h.head_ne)
    refine ⟨_, ⟨c, hc, rfl⟩, rest, ⟨rest, ?_, [], rfl, by simp⟩, rfl⟩
    rcases rest.eq_nil_or_concat' with rfl | ⟨middle, d, rfl⟩
    · exact .inl rfl
    · have hd : ends.contains d = true :=
        (h.letters d (by simp)).resolve_right (by simpa [hlast] using h.getLast_ne)
      have hle := h.length_le
      simp only [List.length_cons, List.length_append] at hle
      refine .inr ⟨middle, ⟨⟨by omega, by omega⟩, ?_⟩, _, ⟨_, ⟨d, hd, rfl⟩, _, rfl, rfl⟩, by simp⟩
      exact fun e he => h.letters e (by simp [he])

/-! ## Labels in a row -/

/-- One label at least, with points between them. -/
def IsJoined (letter : Char → Bool) (name : List Char) : Prop :=
  ∃ labels : List (List Char), labels ≠ [] ∧ (∀ label ∈ labels, IsLabel letter label) ∧
    name = ['.'].intercalate labels

theorem mem_labelsPattern_iff :
    text ∈ Format.labelsPattern.language ↔ IsJoined ends.contains text := by
  rw [Format.labelsPattern, mem_language_separated]
  simp only [mem_labelPattern_iff, IsJoined]
  rfl

theorem isJoined_iff_of_ascii (hascii : ∀ c ∈ name, c.toNat < 0x80) :
    IsJoined ends.contains name ↔ IsJoined Char.isAlphanum name := by
  refine exists_congr fun labels => and_congr_right fun _ => and_congr_left ?_
  rintro rfl
  rw [forall_mem_intercalate (by simp)] at hascii
  refine forall₂_congr fun label hlabel => ?_
  have hletters : ∀ c ∈ label, ends.contains c = c.isAlphanum :=
    fun c hc => contains_ends_of_ascii (hascii label hlabel c hc)
  exact ⟨fun h => h.congr hletters, fun h => h.congr fun c hc => (hletters c hc).symm⟩

/-- Labels and the points between them hold nothing but letters, hyphens and points. -/
theorem IsJoined.not_mem (h : IsJoined letter name) (hletter : letter c = false) (hhyphen : c ≠ '-')
    (hpoint : c ≠ '.') : c ∉ name := by
  obtain ⟨labels, -, hlabels, rfl⟩ := h
  have hmem : ∀ d ∈ ['.'].intercalate labels, (letter d = true ∨ d = '-') ∨ d = '.' := by
    rw [forall_mem_intercalate (by simp)]
    exact fun label hlabel d hd => .inl ((hlabels label hlabel).letters d hd)
  intro hc
  rcases hmem c hc with (hc | hc) | hc
  · exact Bool.false_ne_true (hletter.symm.trans hc)
  · exact hhyphen hc
  · exact hpoint hc

/-- The last label has a last letter, and that is no point. -/
theorem IsJoined.getLast (h : IsJoined letter name) (hpoint : letter '.' = false) :
    ∃ c, name.getLast? = some c ∧ c ≠ '.' := by
  obtain ⟨labels, hne, hlabels, rfl⟩ := h
  obtain ⟨labels, label, rfl⟩ := (labels.eq_nil_or_concat').resolve_left hne
  have hlabel : IsLabel letter label := hlabels label (by simp)
  obtain ⟨init, c, rfl⟩ :=
    (label.eq_nil_or_concat').resolve_left (List.length_pos_iff.mp hlabel.length_pos)
  refine ⟨c, by rw [intercalate_concat, ← List.append_assoc, List.getLast?_concat], ?_⟩
  rintro rfl
  rcases hlabel.letters '.' (by simp) with hletter | hhyphen
  · exact Bool.false_ne_true (hpoint.symm.trans hletter)
  · exact absurd hhyphen (by decide)

theorem IsJoined.length_pos (h : IsJoined letter name) (hpoint : letter '.' = false) :
    1 ≤ name.length := by
  obtain ⟨c, hlast, -⟩ := h.getLast hpoint
  obtain ⟨init, rfl⟩ := List.getLast?_eq_some_iff.mp hlast
  simp

/-! ## The limit -/

/-- What is looked for ahead of the labels. -/
def limitPattern : Pattern :=
  inOrder [(char .visible).between 1 253, (literal ".").optional, lastLineFinish]

/-- On one line, the limit is for the text with or without a point at its end. -/
theorem exists_matches_limit_iff (hline : '\n' ∉ text) :
    (∃ rest, limitPattern.Matches text rest) ↔
      ∃ name : List Char, 1 ≤ name.length ∧ name.length ≤ 253 ∧
        (text = name ∨ text = name ++ ['.']) := by
  have hpoint : ".".toList = ['.'] := rfl
  have hvisible : ∀ c, CharSet.visible.contains c = true ↔ c ≠ '\n' := by
    intro c
    rw [CharSet.visible, CharSet.contains, Bool.not_eq_true', ← Bool.not_eq_true,
      CharSet.contains_one]
  have hname : Takes ((char .visible).between 1 253).Matches _ := takes_of_isPlain rfl
  have hlast : Takes (literal ".").optional.Matches _ := takes_of_isPlain rfl
  simp only [limitPattern, inOrder, List.foldr, Matches, hname _ _, hlast _ _, language_between,
    mem_inRow_char, hvisible, mem_language_optional, mem_language_literal, hpoint]
  constructor
  · rintro ⟨_, _, ⟨name, ⟨⟨hpos, hle⟩, -⟩, rfl⟩, rest, ⟨last, hlast, rfl⟩, _, ⟨hrest, rfl⟩, rfl⟩
    obtain rfl : rest = [] := by
      refine hrest.resolve_right ?_
      rintro rfl
      simp at hline
    rcases hlast with rfl | rfl
    · exact ⟨name, hpos, hle, .inl (by simp)⟩
    · exact ⟨name, hpos, hle, .inr (by simp)⟩
  · rintro ⟨name, hpos, hle, htext⟩
    have hvisible : ∀ c ∈ name, c ≠ '\n' := by
      rintro c hc rfl
      rcases htext with rfl | rfl <;> simp [hc] at hline
    rcases htext with rfl | rfl
    · exact ⟨[], _, ⟨text, ⟨⟨hpos, hle⟩, hvisible⟩, (List.append_nil _).symm⟩, _,
        ⟨[], .inl rfl, rfl⟩, _, ⟨.inl rfl, rfl⟩, rfl⟩
    · exact ⟨[], _, ⟨name, ⟨⟨hpos, hle⟩, hvisible⟩, rfl⟩, _, ⟨['.'], .inr rfl, by simp⟩, _,
        ⟨.inl rfl, rfl⟩, rfl⟩

/-- The point that the limit allows for is the one behind the labels, as there is none at their
end. -/
theorem IsJoined.exists_matches_limit_iff (h : IsJoined ends.contains name)
    (htext : text = name ∨ text = name ++ ['.']) :
    (∃ rest, limitPattern.Matches text rest) ↔ name.length ≤ 253 := by
  have hline : '\n' ∉ name := h.not_mem (by decide) (by decide) (by decide)
  obtain ⟨c, hlast, hc⟩ := h.getLast (by decide)
  obtain ⟨init, rfl⟩ : ∃ init, name = init ++ [c] := List.getLast?_eq_some_iff.mp hlast
  have hne (other : List Char) : init ++ [c] ≠ other ++ ['.'] :=
    fun heq => hc (List.singleton_inj.mp (List.append_inj_right' heq rfl))
  rw [HostName.exists_matches_limit_iff (by rcases htext with rfl | rfl <;> simpa using hline)]
  constructor
  · rintro ⟨other, -, hle, hother⟩
    rcases htext with rfl | rfl
    · rcases hother with rfl | hother
      · exact hle
      · exact absurd hother (hne other)
    · rcases hother with rfl | hother
      · simp only [List.length_append] at hle ⊢
        omega
      · rwa [List.append_cancel_right hother]
  · exact fun hle => ⟨init ++ [c], by simp, hle, htext⟩

theorem mem_labels_point_iff :
    text ∈ (inOrder [Format.labelsPattern, (literal ".").optional]).language ↔
      ∃ name, IsJoined ends.contains name ∧ (text = name ∨ text = name ++ ['.']) := by
  have hpoint : ".".toList = ['.'] := rfl
  simp only [mem_language_inOrder_cons, mem_language_inOrder_nil, mem_labelsPattern_iff,
    mem_language_optional, mem_language_literal, hpoint]
  refine exists_congr fun name => and_congr_right fun _ => ?_
  constructor
  · rintro ⟨_, ⟨last, rfl | rfl, _, rfl, rfl⟩, rfl⟩
    · exact .inl (by simp)
    · exact .inr (by simp)
  · rintro (rfl | rfl)
    · exact ⟨_, ⟨[], .inl rfl, _, rfl, rfl⟩, by simp⟩
    · exact ⟨_, ⟨['.'], .inr rfl, _, rfl, rfl⟩, by simp⟩

/-! ## Names -/

/-- The text without the point at its end, if there is one. -/
def withoutPoint (text : List Char) : List Char :=
  if text.getLast? = some '.' then text.dropLast else text

theorem mem_of_mem_withoutPoint (h : c ∈ withoutPoint text) : c ∈ text := by
  rw [withoutPoint] at h
  split at h
  · exact List.mem_of_mem_dropLast h
  · exact h

theorem IsJoined.eq_withoutPoint_iff (h : IsJoined letter name) (hpoint : letter '.' = false) :
    (text = name ∨ text = name ++ ['.']) ↔ name = withoutPoint text := by
  obtain ⟨c, hlast, hc⟩ := h.getLast hpoint
  constructor
  · rintro (rfl | rfl)
    · rw [withoutPoint, hlast, if_neg (by simpa using hc)]
    · rw [withoutPoint, List.getLast?_concat, if_pos rfl, List.dropLast_concat]
  · rintro rfl
    rw [withoutPoint]
    split
    · next hpoint =>
      obtain ⟨init, rfl⟩ := List.getLast?_eq_some_iff.mp hpoint
      exact .inr (by simp)
    · exact .inl rfl

/-- Up to 253 characters of labels with points between them. -/
structure IsHostName (letter : Char → Bool) (name : List Char) : Prop where
  length_pos : 1 ≤ name.length
  length_le : name.length ≤ 253
  isJoined : IsJoined letter name

end HostName

namespace Format

open HostName

/-- A text is a host name just if it is one without the point at its end. -/
theorem hostname_matches_iff_isHostName {text : String} :
    hostname.matches? text = true ↔ IsHostName ends.contains (withoutPoint text.toList) := by
  have hpattern : hostname.pattern
      = seq (ahead limitPattern) (inOrder [labelsPattern, (literal ".").optional]) := rfl
  have hmatches : hostname.matches? text = true ↔
      (∃ rest, limitPattern.Matches text.toList rest) ∧
        ∃ name, IsJoined ends.contains name ∧
          (text.toList = name ∨ text.toList = name ++ ['.']) := by
    rw [matches?_iff, hpattern, ← mem_labels_point_iff, ← matches_nil_iff (by decide)]
    constructor
    · rintro ⟨_, ⟨hlimit, rfl⟩, hlabels⟩
      exact ⟨hlimit, hlabels⟩
    · exact fun ⟨hlimit, hlabels⟩ => ⟨_, ⟨hlimit, rfl⟩, hlabels⟩
  rw [hmatches]
  constructor
  · rintro ⟨hlimit, name, hname, htext⟩
    obtain rfl := (hname.eq_withoutPoint_iff (by decide)).mp htext
    exact ⟨hname.length_pos (by decide), (hname.exists_matches_limit_iff htext).mp hlimit, hname⟩
  · rintro ⟨-, hle, hname⟩
    have htext := (hname.eq_withoutPoint_iff (by decide)).mpr rfl
    exact ⟨(hname.exists_matches_limit_iff htext).mpr hle, _, hname, htext⟩

/-- In ASCII, host names are made of letters, digits, hyphens and points. -/
theorem hostname_matches_iff {text : String} (hascii : ∀ c ∈ text.toList, c.toNat < 0x80) :
    hostname.matches? text = true ↔
      IsHostName Char.isAlphanum (withoutPoint text.toList) := by
  have hjoined : IsJoined ends.contains (withoutPoint text.toList) ↔
      IsJoined Char.isAlphanum (withoutPoint text.toList) :=
    isJoined_iff_of_ascii fun c hc => hascii c (mem_of_mem_withoutPoint hc)
  rw [hostname_matches_iff_isHostName]
  constructor
  · exact fun h => { h with isJoined := hjoined.mp h.isJoined }
  · exact fun h => { h with isJoined := hjoined.mpr h.isJoined }

/-- A single digit is a label, and a point may stand at the end. -/
theorem hostname_matches_final_point : hostname.matches? "x--Y.7." = true := by
  have hfirst : IsLabel Char.isAlphanum ['x', '-', '-', 'Y'] :=
    ⟨by decide, by decide, by simp, by simp, by simp⟩
  have hlast : IsLabel Char.isAlphanum ['7'] := ⟨by decide, by decide, by simp, by simp, by simp⟩
  refine (hostname_matches_iff (by simp)).mpr ⟨by decide, by decide, ?_⟩
  exact ⟨[['x', '-', '-', 'Y'], ['7']], by simp, by simp [hfirst, hlast], rfl⟩

end Format

end SchemaBridge
