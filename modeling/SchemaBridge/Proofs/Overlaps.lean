import Mathlib
import SchemaBridge.Proofs.HostNames

/-!
# Formats that overlap

A url is a uri with one of a few schemes, two slashes, and something behind them that begins in a
certain way. A mail address is a mailbox and a host with an at sign between them. Neither holds
another at sign, so there is one place only where the text can be cut. The host is made of labels,
as host names are; their greatest length, and the point that may stand at their end, are for host
names alone.

* `Locator.mem_uri_iff`: a uri is a scheme, a colon, and anything without blanks.
* `Locator.mem_uri_of_mem_url`: the urls are among the uris.
* `Mail.mem_email_iff`: addresses, and where they are cut.
* `Format.overlaps_agree`: urls are uris, and the hosts of mail addresses are host names.
-/

namespace SchemaBridge

open Pattern

/-! ## Addresses of resources -/

namespace Locator

variable {c : Char} {text scheme rest : List Char}

/-- The characters of a scheme behind the first one. -/
def inner : CharSet := .union Format.letters (.union (.range '0' '9') (.oneOf "+-."))

/-- A letter, and then letters, digits and a few signs. -/
def IsScheme (scheme : List Char) : Prop :=
  ∃ c rest, Format.letters.contains c = true ∧ (∀ d ∈ rest, inner.contains d = true) ∧
    scheme = c :: rest

/-- There are no blanks in the text. -/
def IsSolid (text : List Char) : Prop := ∀ c ∈ text, (CharSet.compl .blank).contains c = true

theorem isSolid_cons :
    IsSolid (c :: rest) ↔ (CharSet.compl .blank).contains c = true ∧ IsSolid rest :=
  List.forall_mem_cons

/-- The two slashes that may stand behind the colon are no blanks, so they need not be told from
what follows. -/
theorem mem_uri_iff : text ∈ Format.uri.pattern.language ↔
    ∃ scheme rest, IsScheme scheme ∧ IsSolid rest ∧ text = scheme ++ ':' :: rest := by
  have hpattern : Format.uri.pattern = inOrder [char Format.letters, (char inner).zeroOrMore,
      literal ":", (literal "//").optional, Format.solid.zeroOrMore] := rfl
  have hcolon : ":".toList = [':'] := rfl
  have hslashes : "//".toList = ['/', '/'] := rfl
  have hslash : (CharSet.compl .blank).contains '/' = true := by decide
  simp only [hpattern, mem_language_inOrder_cons, mem_language_inOrder_nil, mem_language_char,
    mem_language_literal, mem_language_optional, language_zeroOrMore, Format.solid, mem_inRow_char,
    true_and, hcolon, hslashes]
  constructor
  · rintro ⟨_, ⟨c, hc, rfl⟩, _, ⟨middle, hmiddle, _, ⟨_, rfl, _, ⟨slashes, hslashes, _, ⟨solid,
      hsolid, _, rfl, rfl⟩, rfl⟩, rfl⟩, rfl⟩, rfl⟩
    refine ⟨c :: middle, slashes ++ solid, ⟨c, middle, hc, hmiddle, rfl⟩, ?_, by simp⟩
    rcases hslashes with rfl | rfl
    · exact hsolid
    · exact isSolid_cons.mpr ⟨hslash, isSolid_cons.mpr ⟨hslash, hsolid⟩⟩
  · rintro ⟨_, rest, ⟨c, middle, hc, hmiddle, rfl⟩, hrest, rfl⟩
    exact ⟨_, ⟨c, hc, rfl⟩, _, ⟨middle, hmiddle, _, ⟨_, rfl, _, ⟨[], .inl rfl, _, ⟨rest, hrest, _,
      rfl, rfl⟩, rfl⟩, rfl⟩, rfl⟩, by simp⟩

/-- A word of small letters is a scheme, in any case. -/
theorem isScheme_of_fold {word : List Char} (h : scheme.map Text.fold = word) (hne : word ≠ [])
    (hword : ∀ d ∈ word, (CharSet.range 'a' 'z').contains d = true) : IsScheme scheme := by
  subst h
  have hletters : ∀ c ∈ scheme, Format.letters.contains c = true :=
    fun c hc => hword _ (List.mem_map_of_mem hc)
  obtain ⟨c, rest, rfl⟩ := List.exists_cons_of_ne_nil (List.map_eq_nil_iff.not.mp hne)
  obtain ⟨hc, hrest⟩ := List.forall_mem_cons.mp hletters
  refine ⟨c, rest, hc, fun d hd => ?_, rfl⟩
  rw [inner, CharSet.contains, hrest d hd, Bool.true_or]

/-- Each of the schemes of urls is one of uris, and what follows is more than uris ask for. -/
theorem mem_uri_of_mem_url (h : text ∈ Format.url.pattern.language) :
    text ∈ Format.uri.pattern.language := by
  have hpattern : Format.url.pattern = inOrder [
      alt (seq (caselessLiteral "http") (caselessLiteral "s").optional) (caselessLiteral "ftp"),
      literal "://", char (.compl (.union .blank (.oneOf "/$.?#"))), Format.solid.zeroOrMore] := rfl
  have hhttp : "http".toList = ['h', 't', 't', 'p'] := rfl
  have hs : "s".toList = ['s'] := rfl
  have hftp : "ftp".toList = ['f', 't', 'p'] := rfl
  have hsigns : "://".toList = [':', '/', '/'] := rfl
  have hslash : (CharSet.compl .blank).contains '/' = true := by decide
  simp only [hpattern, mem_language_inOrder_cons, mem_language_inOrder_nil, mem_language_alt,
    mem_language_seq, mem_language_caselessLiteral, mem_language_literal, mem_language_optional,
    mem_language_char, language_zeroOrMore, Format.solid, mem_inRow_char, true_and, hhttp, hs, hftp,
    hsigns] at h
  obtain ⟨scheme, hscheme, _, ⟨_, rfl, _, ⟨_, ⟨c, hc, rfl⟩, _, ⟨solid, hsolid, _, rfl, rfl⟩, rfl⟩,
    rfl⟩, rfl⟩ := h
  have hsolid_c : (CharSet.compl .blank).contains c = true := by
    simp only [CharSet.contains, Bool.not_eq_true', Bool.or_eq_false_iff] at hc ⊢
    exact hc.1
  refine mem_uri_iff.mpr ⟨scheme, '/' :: '/' :: c :: solid, ?_, ?_, by simp⟩
  · rcases hscheme with ⟨first, hfirst, last, rfl | hlast, rfl⟩ | hwhole
    · rw [List.append_nil]
      exact isScheme_of_fold hfirst (by decide) (by simp [CharSet.contains])
    · have hwhole : (first ++ last).map Text.fold = ['h', 't', 't', 'p', 's'] := by
        rw [List.map_append, hfirst, hlast]
        rfl
      exact isScheme_of_fold hwhole (by decide) (by simp [CharSet.contains])
    · exact isScheme_of_fold hwhole (by decide) (by simp [CharSet.contains])
  · simp only [isSolid_cons]
    exact ⟨hslash, hslash, hsolid_c, hsolid⟩

end Locator

/-! ## Addresses of mail -/

namespace Mail

open HostName

variable {mailbox host : List Char}

/-- The characters of a mailbox. -/
def signs : CharSet :=
  .union Format.letters (.union (.range '0' '9') (.oneOf ".!#$%&'*+/=?^_`\x7b|\x7d~-"))

/-- Letters, digits and signs. -/
def IsMailbox (mailbox : List Char) : Prop :=
  1 ≤ mailbox.length ∧ ∀ c ∈ mailbox, signs.contains c = true

theorem IsMailbox.not_mem_at (h : IsMailbox mailbox) : '@' ∉ mailbox := by
  intro hmem
  have hsign : signs.contains '@' = false := by decide
  exact Bool.false_ne_true (hsign.symm.trans (h.2 '@' hmem))

theorem not_mem_at_of_isJoined (h : IsJoined ends.contains host) : '@' ∉ host :=
  h.not_mem (by decide) (by decide) (by decide)

/-- An address is cut at its at sign, as there is one only. -/
theorem mem_email_iff : mailbox ++ '@' :: host ∈ Format.email.pattern.language ↔
    IsMailbox mailbox ∧ IsJoined ends.contains host := by
  have hpattern : Format.email.pattern
      = inOrder [(char signs).oneOrMore, literal "@", Format.labelsPattern] := rfl
  have hsign : "@".toList = ['@'] := rfl
  simp only [hpattern, mem_language_inOrder_cons, mem_language_inOrder_nil, language_oneOrMore,
    mem_inRow_char, mem_language_literal, mem_labelsPattern_iff, hsign]
  constructor
  · rintro ⟨mailbox', hmailbox, _, ⟨_, rfl, _, ⟨host', hhost, _, rfl, rfl⟩, rfl⟩, heq⟩
    rw [List.append_nil, List.singleton_append, eq_comm, List.append_cons_inj_of_notMem
      (IsMailbox.not_mem_at hmailbox) (not_mem_at_of_isJoined hhost)] at heq
    obtain ⟨rfl, -, rfl⟩ := heq
    exact ⟨hmailbox, hhost⟩
  · rintro ⟨hmailbox, hhost⟩
    exact ⟨mailbox, hmailbox, _, ⟨_, rfl, _, ⟨host, hhost, _, rfl, rfl⟩, rfl⟩, by simp⟩

end Mail

/-! ## Formats -/

namespace Format

open HostName Mail

theorem email_matches_iff {mailbox host : String} :
    email.matches? (mailbox ++ "@" ++ host) = true ↔
      IsMailbox mailbox.toList ∧ IsJoined ends.contains host.toList := by
  have htext : (mailbox ++ "@" ++ host).toList = mailbox.toList ++ '@' :: host.toList := by simp
  rw [matches?_iff, matches_nil_iff (by decide), htext, mem_email_iff]

/-- Without a point at its end, and if it is short enough, a text is a host name just if it is made
of labels. -/
theorem hostname_matches_iff_isJoined {host : String} (hlength : host.length ≤ 253)
    (hpoint : host.toList.getLast? ≠ some '.') :
    hostname.matches? host = true ↔ IsJoined ends.contains host.toList := by
  rw [hostname_matches_iff_isHostName, withoutPoint, if_neg hpoint]
  refine ⟨fun h => h.isJoined, fun h => ⟨h.length_pos (by decide), ?_, h⟩⟩
  rwa [String.length_toList]

/-- Formats that overlap agree. Every url is a uri. What may stand behind a mailbox and an at sign
is just what is a host name, up to the length of host names and but for the point at their end. -/
theorem overlaps_agree :
    (∀ text : String, url.matches? text = true → uri.matches? text = true) ∧
      ∀ mailbox host : String, email.matches? (mailbox ++ "@a") = true →
        host.length ≤ 253 → host.toList.getLast? ≠ some '.' →
          (email.matches? (mailbox ++ "@" ++ host) = true ↔ hostname.matches? host = true) := by
  constructor
  · intro text hurl
    rw [matches?_iff, matches_nil_iff (by decide)] at hurl ⊢
    exact Locator.mem_uri_of_mem_url hurl
  · intro mailbox host hmailbox hlength hpoint
    have hcut : mailbox ++ "@a" = mailbox ++ "@" ++ "a" := by rw [String.append_assoc]; rfl
    rw [hcut, email_matches_iff] at hmailbox
    rw [email_matches_iff, hostname_matches_iff_isJoined hlength hpoint]
    exact and_iff_right hmailbox.1

/-- The long s of a scheme and the Kelvin sign of a host are letters in both formats. -/
theorem overlaps_agree_for_foreign_letters :
    (url.matches? "http\u017f://x" = true ∧ uri.matches? "http\u017f://x" = true) ∧
      (email.matches? "o'k@a" = true ∧ "a-\u212a.b".length ≤ 253 ∧
        "a-\u212a.b".toList.getLast? ≠ some '.') ∧
      (email.matches? "o'k@a-\u212a.b" = true ↔ hostname.matches? "a-\u212a.b" = true) := by
  have hurl : url.matches? "http\u017f://x" = true := by decide +kernel
  have hmailbox : email.matches? "o'k@a" = true := by decide +kernel
  have hlength : "a-\u212a.b".length ≤ 253 := by decide
  have hpoint : "a-\u212a.b".toList.getLast? ≠ some '.' := by decide
  have hparts : "o'k" ++ "@a" = "o'k@a" := by decide
  have haddress : "o'k" ++ "@" ++ "a-\u212a.b" = "o'k@a-\u212a.b" := by decide
  have hagrees := overlaps_agree.2 "o'k" "a-\u212a.b" (hparts ▸ hmailbox) hlength hpoint
  rw [haddress] at hagrees
  exact ⟨⟨hurl, overlaps_agree.1 _ hurl⟩, ⟨hmailbox, hlength, hpoint⟩, hagrees⟩

end Format

end SchemaBridge
