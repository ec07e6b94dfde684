import Mathlib
import SchemaBridge.Document.Cleaning
import SchemaBridge.Document.Parser
import SchemaBridge.Proofs.Scanning
import SchemaBridge.Text.Parts

/-!
# What removing comments does to a document

Cleaning takes a comment to run to the next line feed. In a document a comment also ends at a
carriage return, and what stands between the two is code. Such code is lost, and nothing else is:
a document without strings keeps its tokens exactly if no line has code behind a comment.

* `scan_withoutComments`: the tokens that are left, line by line.
* `parse?_uncommented_iff`: when a document keeps its meaning and all of its tokens.
* `uncommented_loses_definition`: a definition behind a carriage return is lost.
-/

namespace SchemaBridge

namespace Cleaning

/-- What stands on a line behind a comment: the part after the first carriage return that follows
a number sign. -/
def afterComment (line : List Char) : List Char :=
  ((line.dropWhile (· ≠ '#')).dropWhile (· ≠ '\r')).drop 1

theorem dropComments_inside {text : List Char} (h : '\n' ∉ text) (rest : List Char) :
    dropComments true (text ++ '\n' :: rest) = '\n' :: dropComments false rest := by
  induction text with
  | nil => simp [dropComments]
  | cons c text ih =>
    simp only [List.mem_cons, not_or] at h
    rw [List.cons_append, dropComments, if_pos rfl, if_neg (Ne.symm h.1), ih h.2]

theorem dropComments_inside_end {text : List Char} (h : '\n' ∉ text) :
    dropComments true text = [] := by
  induction text with
  | nil => rfl
  | cons c text ih =>
    simp only [List.mem_cons, not_or] at h
    rw [dropComments, if_pos rfl, if_neg (Ne.symm h.1), ih h.2]

/-- Of each line, the part before the first number sign is left. -/
theorem withoutComments_append {line : List Char} (h : '\n' ∉ line) (rest : List Char) :
    withoutComments (line ++ '\n' :: rest)
      = line.takeWhile (· ≠ '#') ++ '\n' :: withoutComments rest := by
  unfold withoutComments
  induction line with
  | nil => simp [dropComments]
  | cons c line ih =>
    simp only [List.mem_cons, not_or] at h
    rw [List.cons_append, dropComments]
    by_cases hc : c = '#'
    · simp [hc, dropComments_inside h.2]
    · simp [hc, ih h.2]

theorem withoutComments_line {line : List Char} (h : '\n' ∉ line) :
    withoutComments line = line.takeWhile (· ≠ '#') := by
  unfold withoutComments
  induction line with
  | nil => rfl
  | cons c line ih =>
    simp only [List.mem_cons, not_or] at h
    rw [dropComments]
    by_cases hc : c = '#'
    · simp [hc, dropComments_inside_end h.2]
    · simp [hc, ih h.2]

/-! ## Tokens -/

open Token

/-- A comment is scanned up to a carriage return, and code after it. -/
theorem scanFrom_comment_line {body : List Char} (h : '\n' ∉ body) :
    scanFrom .comment body = scanFrom .between ((body.dropWhile (· ≠ '\r')).drop 1) := by
  induction body with
  | nil => rfl
  | cons c body ih =>
    simp only [List.mem_cons, not_or] at h
    by_cases hc : c = '\r'
    · subst hc
      rw [scanFrom_cons]
      cases hscan : scanFrom .between body <;> simp [step, isLineEnd, hscan]
    · have hend : isLineEnd c = false := by simp [isLineEnd, Ne.symm h.1, hc]
      rw [scanFrom_cons, step_comment hend, List.dropWhile_cons_of_pos (by simpa using hc)]
      simp [ih h.2]

/-- The tokens of a line are those before its first number sign, and those behind the comment. -/
theorem scanFrom_line {line : List Char} (hquote : '"' ∉ line) (hfeed : '\n' ∉ line) :
    scanFrom .between line
      = followedBy (scanFrom .between (line.takeWhile (· ≠ '#')))
          (scanFrom .between (afterComment line)) := by
  by_cases hsign : '#' ∈ line
  · obtain ⟨code, body, rfl, hcode⟩ := List.eq_append_cons_of_mem hsign
    simp only [List.mem_append, List.mem_cons, not_or] at hquote hfeed
    have hpos : ∀ c ∈ code, decide (c ≠ '#') = true := fun c hc =>
      decide_eq_true fun e => hcode (e ▸ hc)
    rw [scanFrom_append_sign rfl hquote.1 hcode, scanFrom_comment_line hfeed.2.2, afterComment,
      List.takeWhile_append_of_pos hpos, List.dropWhile_append_of_pos hpos]
    simp
  · have hpos : ∀ c ∈ line, decide (c ≠ '#') = true := fun c hc =>
      decide_eq_true fun e => hsign (e ▸ hc)
    rw [afterComment, List.takeWhile_eq_self_iff.mpr hpos, List.dropWhile_eq_nil_iff.mpr hpos]
    cases scanFrom .between line <;> simp [followedBy, scanFrom, finish]

/-- Nothing but ignored characters and comments stands behind the comments of a text. -/
def NothingHidden (text : List Char) : Prop :=
  ∀ line ∈ Text.parts '\n' text, scanFrom .between (afterComment line) = some []

/-- Of the tokens of a text without quotes, those behind a comment are lost and the others are
left. -/
theorem scan_withoutComments {text : List Char} (hquote : '"' ∉ text) {tokens : List Token}
    (hscan : scanFrom .between text = some tokens) :
    ∃ left, scanFrom .between (withoutComments text) = some left ∧ left.Sublist tokens ∧
      (left.length = tokens.length ↔ NothingHidden text) := by
  -- The text is cut at its first line feed.
  induction hn : text.length using Nat.strongRecOn generalizing text tokens with
  | _ n ih =>
    by_cases hfeed : '\n' ∈ text
    · obtain ⟨line, rest, rfl, hline⟩ := List.eq_append_cons_of_mem hfeed
      simp only [List.mem_append, List.mem_cons, not_or] at hquote
      rw [scanFrom_append_lineEnd rfl hquote.1 rfl, scanFrom_line hquote.1 hline,
        followedBy_eq_some] at hscan
      obtain ⟨before, after, hbefore, hafter, rfl⟩ := hscan
      obtain ⟨code, hidden, hcode, hhidden, rfl⟩ := followedBy_eq_some.mp hbefore
      obtain ⟨left, hleft, hsub, hlength⟩ :=
        ih rest.length (by rw [← hn, List.length_append, List.length_cons]; omega) hquote.2.2
          hafter rfl
      have htake : '"' ∉ line.takeWhile (· ≠ '#') := fun h =>
        hquote.1 ((List.takeWhile_sublist _).subset h)
      refine ⟨code ++ left, ?_, ?_, ?_⟩
      · rw [withoutComments_append hline, scanFrom_append_lineEnd rfl htake rfl]
        exact followedBy_eq_some.mpr ⟨code, left, hcode, hleft, rfl⟩
      · rw [List.append_assoc]
        exact (hsub.trans (List.sublist_append_right hidden after)).append_left code
      · have hle := hsub.length_le
        rw [NothingHidden, Text.parts_append hline, List.forall_mem_cons, hhidden, Option.some.injEq,
          ← List.length_eq_zero_iff]
        rw [NothingHidden] at hlength
        rw [← hlength]
        simp only [List.length_append]
        omega
    · rw [scanFrom_line hquote hfeed, followedBy_eq_some] at hscan
      obtain ⟨code, hidden, hcode, hhidden, rfl⟩ := hscan
      refine ⟨code, ?_, List.sublist_append_left code hidden, ?_⟩
      · rw [withoutComments_line hfeed]
        exact hcode
      · rw [NothingHidden, Text.parts_of_not_mem hfeed, List.forall_mem_singleton, hhidden,
          Option.some.injEq, ← List.length_eq_zero_iff, List.length_append]
        omega

/-- A source text without its comments. -/
def uncommented (source : String) : String := String.ofList (withoutComments source.toList)

/-- Removing the comments of a document without strings keeps the document and all of its tokens
just if nothing is hidden behind a comment: if on every line, what follows the first carriage
return after a number sign is ignored by the grammar as well. -/
theorem parse?_uncommented_iff {source : String} {document : Document}
    (hquote : '"' ∉ source.toList) (hparse : Document.parse? source = some document) :
    (Document.parse? (uncommented source) = some document ∧
        Token.scan (uncommented source) = Token.scan source) ↔
      NothingHidden source.toList := by
  obtain ⟨tokens, hscan, hdocument⟩ := Option.bind_eq_some_iff.mp hparse
  obtain ⟨left, hleft, hsub, hlength⟩ := scan_withoutComments hquote hscan
  have huncommented : Token.scan (uncommented source) = some left := by
    rw [Token.scan, uncommented, String.toList_ofList, hleft]
  rw [Document.parse?, huncommented, hscan, ← hlength]
  constructor
  · rintro ⟨-, h⟩
    rw [Option.some.inj h]
  · intro h
    obtain rfl : left = tokens := hsub.eq_of_length h
    exact ⟨hdocument, rfl⟩

/-- A carriage return with a line feed hides nothing. -/
theorem parse?_uncommented_crlf :
    Document.parse? (uncommented "scalar A # one\r\nscalar B # two") =
      some [.scalar "A" [], .scalar "B" []] := by
  have hparse : Document.parse? "scalar A # one\r\nscalar B # two" =
      some [.scalar "A" [], .scalar "B" []] := by cbv
  have hhidden : NothingHidden "scalar A # one\r\nscalar B # two".toList := by
    unfold NothingHidden
    decide
  exact ((parse?_uncommented_iff (by decide) hparse).mpr hhidden).1

/-- Not every document without strings is kept: a definition that a carriage return parts from the
comment before it is lost. -/
theorem uncommented_loses_definition :
    ¬ ∀ (source : String) (document : Document), '"' ∉ source.toList →
      Document.parse? source = some document →
      Document.parse? (uncommented source) = some document := by
  intro h
  have hkept := h "scalar A # one\rscalar B" [.scalar "A" [], .scalar "B" []] (by decide) (by cbv)
  have hlost : Document.parse? (uncommented "scalar A # one\rscalar B") = some [.scalar "A" []] := by
    cbv
  simp [hkept] at hlost

end Cleaning

end SchemaBridge
