import Mathlib
import SchemaBridge.Proofs.Quads

/-!
# Addresses of eight groups

An address is eight groups of hexadecimal digits, or fewer with a gap for the rest. The pattern has
one alternative for each way of bounding the groups on both sides of a gap. Together they leave room
for every pair of numbers that is not above seven, and for no other one.

The last two groups may also be written as a dotted quad, but only in some addresses: in those
without a gap, in those with up to four groups before a gap that is followed by the quad, and in
two kinds that begin with a gap and a group of its own.

* `Address.mem_addressPattern_iff`: what the pattern for an address takes.
* `Format.ipv6_hexadecimal_iff`: the addresses without a quad.
* `Format.ipv6_mixed_iff`: when a quad may stand for the last two groups.
* `Format.ipv6_refuses_mixed`: it may not always.
-/

namespace SchemaBridge

open Pattern

namespace Address

variable {text lead quad u u' v v' : List Char} {c : Char} {groups : List (List Char)}
  {count count' : Nat → Prop} {first second : Pattern}

/-! ## Groups -/

/-- One to four hexadecimal digits. -/
structure IsGroup (group : List Char) : Prop where
  length_pos : 1 ≤ group.length
  length_le : group.length ≤ 4
  digits : ∀ c ∈ group, (Text.hexValue? c).isSome = true

theorem isGroup_iff {group : List Char} : IsGroup group ↔
    1 ≤ group.length ∧ group.length ≤ 4 ∧ ∀ c ∈ group, (Text.hexValue? c).isSome = true :=
  ⟨fun h => ⟨h.length_pos, h.length_le, h.digits⟩,
    fun ⟨hpos, hle, hdigits⟩ => ⟨hpos, hle, hdigits⟩⟩

-- `List.all` keeps the test to the characters of the group: for a `∀` over characters the library
-- tries every character there is.
instance : DecidablePred IsGroup := fun group =>
  decidable_of_iff (1 ≤ group.length ∧ group.length ≤ 4 ∧
    group.all (fun c => (Text.hexValue? c).isSome) = true) (by rw [isGroup_iff, List.all_eq_true])

theorem isSome_hexValue?_iff : (Text.hexValue? c).isSome = true ↔
    (48 ≤ c.toNat ∧ c.toNat ≤ 57) ∨ (97 ≤ c.toNat ∧ c.toNat ≤ 102) ∨
      (65 ≤ c.toNat ∧ c.toNat ≤ 70) := by
  have hle (x y : Char) : x ≤ y ↔ x.toNat ≤ y.toNat := Iff.rfl
  unfold Text.hexValue?
  simp only [Bool.and_eq_true, decide_eq_true_eq, hle, Char.reduceToNat]
  split_ifs <;> simp <;> omega

/-- No character beyond ASCII is a spelling of a hexadecimal digit. -/
theorem contains_hexDigit_iff :
    (CharSet.caseless (.union (.range '0' '9') (.range 'a' 'f'))).contains c = true
      ↔ (Text.hexValue? c).isSome = true := by
  rw [isSome_hexValue?_iff, CharSet.contains, CharSet.contains, Bool.or_eq_true,
    CharSet.contains_range, CharSet.contains_range]
  simp only [Char.reduceToNat]
  rcases Text.fold_cases c with h | ⟨hascii, hcapital, hfold⟩ | h
  · omega
  · rw [hfold]
    omega
  · omega

theorem mem_group_iff : text ∈ Format.group.language ↔ IsGroup text := by
  rw [Format.group, Format.hexDigit, language_between, mem_inRow_char, isGroup_iff, and_assoc]
  simp only [contains_hexDigit_iff]

/-- Groups with colons between them. -/
def joined (groups : List (List Char)) : List Char := [':'].intercalate groups

theorem joined_concat (groups : List (List Char)) (last : List Char) :
    joined (groups ++ [last]) = groups.flatMap (· ++ [':']) ++ last :=
  intercalate_concat ..

/-- Groups, each with a colon after it. -/
theorem flatMap_ended (h : groups ≠ []) : groups.flatMap (· ++ [':']) = joined groups ++ [':'] := by
  obtain ⟨rest, last, rfl⟩ := (List.eq_nil_or_concat' groups).resolve_left h
  simp [joined_concat]

/-- Groups, each with a colon before it. -/
theorem flatMap_opened (h : groups ≠ []) : groups.flatMap ([':'] ++ ·) = ':' :: joined groups := by
  obtain ⟨first, rest, rfl⟩ := List.exists_cons_of_ne_nil h
  simp [joined, intercalate_cons]

/-! ## Gaps -/

/-- So many groups before a gap, with the first colon of the gap. -/
def beforeGap (count : Nat → Prop) : Language Char :=
  {text | ∃ groups : List (List Char), count groups.length ∧ (∀ group ∈ groups, IsGroup group) ∧
    text = joined groups ++ [':']}

/-- So many groups after a gap, with the second colon of the gap. -/
def afterGap (count : Nat → Prop) : Language Char :=
  {text | ∃ groups : List (List Char), count groups.length ∧ (∀ group ∈ groups, IsGroup group) ∧
    text = ':' :: joined groups}

/-- Groups with a gap, so many before it and so many after it. -/
def gapped (b a : Nat) : Language Char :=
  {text | ∃ before after : List (List Char), before.length = b ∧ after.length = a ∧
    (∀ group ∈ before ++ after, IsGroup group) ∧
    text = joined before ++ [':', ':'] ++ joined after}

/-- Up to seven groups with a gap for the others. -/
def IsGapped (text : List Char) : Prop := ∃ b a, b + a ≤ 7 ∧ text ∈ gapped b a

/-- What is taken up to the first colon of a gap and from the second one on. -/
theorem mem_language_seq_gap (hfirst : first.language = beforeGap count)
    (hsecond : second.language = afterGap count') :
    text ∈ (seq first second).language
      ↔ ∃ b a, (count b ∧ count' a) ∧ text ∈ gapped b a := by
  rw [mem_language_seq, hfirst, hsecond]
  constructor
  · rintro ⟨_, ⟨before, hbefore, hgroups, rfl⟩, _, ⟨after, hafter, hgroups', rfl⟩, rfl⟩
    exact ⟨_, _, ⟨hbefore, hafter⟩, before, after, rfl, rfl,
      List.forall_mem_append.mpr ⟨hgroups, hgroups'⟩, by simp⟩
  · rintro ⟨_, _, ⟨hbefore, hafter⟩, before, after, rfl, rfl, hgroups, rfl⟩
    obtain ⟨hgroups, hgroups'⟩ := List.forall_mem_append.mp hgroups
    exact ⟨_, ⟨before, hbefore, hgroups, rfl⟩, _, ⟨after, hafter, hgroups', rfl⟩, by simp⟩

theorem inRow_groupColon (hpos : ∀ n, count n → 1 ≤ n) :
    inRow Format.groupColon.language count = beforeGap count := by
  ext text
  rw [Format.groupColon, mem_inRow_ended]
  simp only [mem_group_iff]
  refine exists_congr fun groups => and_congr_right fun hcount => and_congr_right fun _ => ?_
  rw [← flatMap_ended (List.length_pos_iff.mp (hpos _ hcount))]
  rfl

theorem inRow_colonGroup (hpos : ∀ n, count n → 1 ≤ n) :
    inRow Format.colonGroup.language count = afterGap count := by
  ext text
  rw [Format.colonGroup, mem_inRow_opened]
  simp only [mem_group_iff]
  refine exists_congr fun groups => and_congr_right fun hcount => and_congr_right fun _ => ?_
  rw [← flatMap_opened (List.length_pos_iff.mp (hpos _ hcount))]
  rfl

theorem language_groupColon : Format.groupColon.language = beforeGap (· = 1) := by
  rw [← inRow_groupColon (fun n h => h.ge), inRow_one]

theorem language_colonGroup : Format.colonGroup.language = afterGap (· = 1) := by
  rw [← inRow_colonGroup (fun n h => h.ge), inRow_one]

theorem language_groupColon_between (most : Nat) :
    (Format.groupColon.between 1 most).language = beforeGap fun n => 1 ≤ n ∧ n ≤ most := by
  rw [language_between, inRow_groupColon fun n h => h.1]

theorem language_colonGroup_between (most : Nat) :
    (Format.colonGroup.between 1 most).language = afterGap fun n => 1 ≤ n ∧ n ≤ most := by
  rw [language_between, inRow_colonGroup fun n h => h.1]

/-- A colon alone is one of a gap with no groups on its side. -/
theorem language_colon : (literal ":").language = beforeGap (· = 0) := by
  ext text
  rw [mem_language_literal]
  constructor
  · rintro rfl
    exact ⟨[], rfl, by simp, rfl⟩
  · rintro ⟨groups, hlength, -, rfl⟩
    rw [List.length_eq_zero_iff.mp hlength]
    rfl

theorem beforeGap_zero : beforeGap (· = 0) = afterGap (· = 0) := by
  ext text
  refine exists_congr fun groups => and_congr_right fun hlength => and_congr_right fun _ => ?_
  rw [List.length_eq_zero_iff.mp hlength]
  rfl

theorem language_lastGap :
    (alt (Format.colonGroup.between 1 7) (literal ":")).language = afterGap (· ≤ 7) := by
  ext text
  rw [mem_language_alt, language_colonGroup_between, language_colon, beforeGap_zero]
  constructor
  · rintro (⟨groups, hcount, h⟩ | ⟨groups, hcount, h⟩)
    · exact ⟨groups, hcount.2, h⟩
    · exact ⟨groups, by omega, h⟩
  · rintro ⟨groups, hcount, h⟩
    rcases Nat.eq_zero_or_pos groups.length with hzero | hpos
    · exact .inr ⟨groups, hzero, h⟩
    · exact .inl ⟨groups, ⟨hpos, hcount⟩, h⟩

/-- The alternatives for an address with a gap. -/
def gapPatterns : List Pattern :=
  [seq (Format.groupColon.between 1 7) (literal ":"),
    seq (Format.groupColon.between 1 6) Format.colonGroup,
    seq (Format.groupColon.between 1 5) (Format.colonGroup.between 1 2),
    seq (Format.groupColon.between 1 4) (Format.colonGroup.between 1 3),
    seq (Format.groupColon.between 1 3) (Format.colonGroup.between 1 4),
    seq (Format.groupColon.between 1 2) (Format.colonGroup.between 1 5),
    seq Format.groupColon (Format.colonGroup.between 1 6),
    seq (literal ":") (alt (Format.colonGroup.between 1 7) (literal ":"))]

/-- They cover all pairs of numbers of groups that leave room for one more. -/
theorem mem_gapPatterns_iff : (∃ pattern ∈ gapPatterns, text ∈ pattern.language)
    ↔ IsGapped text := by
  simp only [gapPatterns, List.mem_cons, List.not_mem_nil, or_false, exists_eq_or_imp,
    exists_eq_left]
  rw [mem_language_seq_gap (language_groupColon_between 7) (language_colon.trans beforeGap_zero),
    mem_language_seq_gap (language_groupColon_between 6) language_colonGroup,
    mem_language_seq_gap (language_groupColon_between 5) (language_colonGroup_between 2),
    mem_language_seq_gap (language_groupColon_between 4) (language_colonGroup_between 3),
    mem_language_seq_gap (language_groupColon_between 3) (language_colonGroup_between 4),
    mem_language_seq_gap (language_groupColon_between 2) (language_colonGroup_between 5),
    mem_language_seq_gap language_groupColon (language_colonGroup_between 6),
    mem_language_seq_gap language_colon language_lastGap]
  simp only [← exists_or, ← or_and_right]
  refine exists_congr fun b => exists_congr fun a => and_congr_left fun _ => ?_
  omega

/-! ## Quads for the last two groups -/

/-- Four times the letter f, in either case. -/
def IsMark (mark : List Char) : Prop := mark.length = 4 ∧ ∀ c ∈ mark, c = 'f' ∨ c = 'F'

/-- What may stand before a quad in an address with a gap. -/
inductive IsLead : List Char → Prop
  /-- Up to four groups and the gap. -/
  | gap {groups : List (List Char)} (length_le : groups.length ≤ 4)
      (isGroup : ∀ group ∈ groups, IsGroup group) : IsLead (joined groups ++ [':', ':'])
  /-- The gap and a mark. -/
  | mapped {mark : List Char} (isMark : IsMark mark) : IsLead ([':', ':'] ++ mark ++ [':'])
  /-- The gap, a mark and a group of zeros. -/
  | translated {mark : List Char} {zeros : Nat} (isMark : IsMark mark) (zeros_pos : 1 ≤ zeros)
      (zeros_le : zeros ≤ 4) :
      IsLead ([':', ':'] ++ mark ++ ':' :: List.replicate zeros '0' ++ [':'])

/-- What stands before a quad in an address without a gap. -/
def IsFullLead (lead : List Char) : Prop :=
  ∃ groups : List (List Char), groups.length = 6 ∧ (∀ group ∈ groups, IsGroup group) ∧
    lead = groups.flatMap (· ++ [':'])

theorem fold_eq_f_iff : Text.fold c = 'f' ↔ c = 'f' ∨ c = 'F' := by
  simp only [← Char.toNat_inj, Char.reduceToNat]
  rcases Text.fold_cases c with h | ⟨hascii, hcapital, hfold⟩ | h
  · omega
  · rw [hfold]
    omega
  · omega

theorem mem_mark_iff : text ∈ (caselessLiteral "ffff").language ↔ IsMark text := by
  have hmark : "ffff".toList = List.replicate 4 'f' := rfl
  rw [mem_language_caselessLiteral, hmark, List.eq_replicate_iff]
  simp [IsMark, fold_eq_f_iff]

theorem mem_zeros_iff : text ∈ ((literal "0").between 1 4).language
    ↔ ∃ zeros, 1 ≤ zeros ∧ zeros ≤ 4 ∧ text = List.replicate zeros '0' := by
  have hzero : (literal "0").language = (char (.one '0')).language := by
    ext text
    simp [CharSet.contains_one]
  rw [language_between, hzero, mem_inRow_char]
  simp only [CharSet.contains_one]
  constructor
  · rintro ⟨⟨hpos, hle⟩, hzeros⟩
    exact ⟨text.length, hpos, hle, List.eq_replicate_iff.mpr ⟨rfl, hzeros⟩⟩
  · rintro ⟨zeros, hpos, hle, rfl⟩
    exact ⟨by simpa using ⟨hpos, hle⟩, fun c hc => List.eq_of_mem_replicate hc⟩

theorem mem_fullLead_iff : lead ∈ (Format.groupColon.exact 6).language ↔ IsFullLead lead := by
  rw [language_exact, Format.groupColon, mem_inRow_ended]
  simp only [mem_group_iff]
  rfl

/-- A mark and perhaps a group of zeros, each with a colon after it. -/
def markPattern : Pattern :=
  inOrder [caselessLiteral "ffff",
    (inOrder [literal ":", (literal "0").between 1 4]).optional, literal ":"]

theorem mem_markPattern_iff : text ∈ markPattern.language ↔ ∃ mark, IsMark mark ∧
    (text = mark ++ [':'] ∨ ∃ zeros, 1 ≤ zeros ∧ zeros ≤ 4 ∧
      text = mark ++ ':' :: List.replicate zeros '0' ++ [':']) := by
  have hcolon : ":".toList = [':'] := rfl
  simp only [markPattern, mem_language_inOrder_cons, mem_language_inOrder_nil,
    mem_language_optional, mem_mark_iff, mem_zeros_iff, mem_language_literal, hcolon]
  constructor
  · rintro ⟨mark, hmark, _, ⟨_, rfl | ⟨_, rfl, _, ⟨_, ⟨zeros, hpos, hle, rfl⟩, _, rfl, rfl⟩, rfl⟩,
      _, ⟨_, rfl, _, rfl, rfl⟩, rfl⟩, rfl⟩
    · exact ⟨mark, hmark, .inl (by simp)⟩
    · exact ⟨mark, hmark, .inr ⟨zeros, hpos, hle, by simp⟩⟩
  · rintro ⟨mark, hmark, rfl | ⟨zeros, hpos, hle, rfl⟩⟩
    · exact ⟨mark, hmark, _, ⟨[], .inl rfl, _, ⟨_, rfl, _, rfl, rfl⟩, rfl⟩, by simp⟩
    · exact ⟨mark, hmark, _, ⟨_, .inr ⟨_, rfl, _, ⟨_, ⟨zeros, hpos, hle, rfl⟩, _, rfl, rfl⟩, rfl⟩,
        _, ⟨_, rfl, _, rfl, rfl⟩, rfl⟩, by simp⟩

theorem mem_gapped_zero_iff {b : Nat} : text ∈ gapped b 0 ↔ ∃ groups : List (List Char),
    groups.length = b ∧ (∀ group ∈ groups, IsGroup group) ∧ text = joined groups ++ [':', ':'] := by
  constructor
  · rintro ⟨before, after, hbefore, hafter, hgroups, rfl⟩
    obtain rfl := List.length_eq_zero_iff.mp hafter
    exact ⟨before, hbefore, by simpa using hgroups, by simp [joined]⟩
  · rintro ⟨groups, hlength, hgroups, rfl⟩
    exact ⟨groups, [], hlength, rfl, by simpa using hgroups, by simp [joined]⟩

/-- What the two alternatives with a gap want before a quad. -/
theorem isLead_iff : IsLead lead ↔
    lead ∈ (seq (literal "::") markPattern.optional).language ∨
      lead ∈ (seq (Format.groupColon.between 1 4) (literal ":")).language := by
  have hgap : "::".toList = [':', ':'] := rfl
  rw [mem_language_seq_gap (language_groupColon_between 4) (language_colon.trans beforeGap_zero)]
  simp only [mem_language_seq, mem_language_optional, mem_markPattern_iff, mem_language_literal,
    hgap]
  constructor
  · intro h
    cases h with
    | @gap groups length_le isGroup =>
      rcases Nat.eq_zero_or_pos groups.length with hzero | hpos
      · obtain rfl := List.length_eq_zero_iff.mp hzero
        exact .inl ⟨_, rfl, [], .inl rfl, rfl⟩
      · exact .inr ⟨_, 0, ⟨⟨hpos, length_le⟩, rfl⟩,
          mem_gapped_zero_iff.mpr ⟨groups, rfl, isGroup, rfl⟩⟩
    | mapped isMark => exact .inl ⟨_, rfl, _, .inr ⟨_, isMark, .inl rfl⟩, by simp⟩
    | translated isMark zeros_pos zeros_le =>
      exact .inl ⟨_, rfl, _, .inr ⟨_, isMark, .inr ⟨_, zeros_pos, zeros_le, rfl⟩⟩, by simp⟩
  · rintro (⟨_, rfl, _, rfl | ⟨mark, hmark, rfl | ⟨zeros, hpos, hle, rfl⟩⟩, rfl⟩ |
      ⟨b, a, ⟨⟨-, hle⟩, rfl⟩, hlead⟩)
    · exact @IsLead.gap [] (by simp) (by simp)
    · simpa using IsLead.mapped hmark
    · simpa using IsLead.translated hmark hpos hle
    · obtain ⟨groups, rfl, hgroups, rfl⟩ := mem_gapped_zero_iff.mp hlead
      exact .gap hle hgroups

/-- The alternatives for an address that ends with a quad. -/
def quadPatterns : List Pattern :=
  [seq (Format.groupColon.exact 6) Format.quadPattern,
    inOrder [literal "::", markPattern.optional, Format.quadPattern],
    inOrder [Format.groupColon.between 1 4, literal ":", Format.quadPattern]]

theorem mem_language_inOrder_three {third : Pattern} :
    text ∈ (inOrder [first, second, third]).language
      ↔ ∃ u ∈ (seq first second).language, ∃ v ∈ third.language, text = u ++ v := by
  simp only [mem_language_inOrder_cons, mem_language_inOrder_nil, mem_language_seq]
  constructor
  · rintro ⟨u, hu, _, ⟨u', hu', _, ⟨v, hv, _, rfl, rfl⟩, rfl⟩, rfl⟩
    exact ⟨_, ⟨u, hu, u', hu', rfl⟩, v, hv, by simp⟩
  · rintro ⟨_, ⟨u, hu, u', hu', rfl⟩, v, hv, rfl⟩
    exact ⟨u, hu, _, ⟨u', hu', _, ⟨v, hv, _, rfl, rfl⟩, rfl⟩, by simp⟩

theorem mem_quadPatterns_iff : (∃ pattern ∈ quadPatterns, text ∈ pattern.language)
    ↔ ∃ lead quad, (IsFullLead lead ∨ IsLead lead) ∧ Quad.IsSpelled quad ∧
      text = lead ++ quad := by
  simp only [quadPatterns, List.mem_cons, List.not_mem_nil, or_false, exists_eq_or_imp,
    exists_eq_left, mem_language_inOrder_three, isLead_iff, ← mem_fullLead_iff,
    ← Quad.mem_quadPattern_iff]
  rw [mem_language_seq]
  constructor
  · rintro (⟨lead, hlead, quad, h⟩ | ⟨lead, hlead, quad, h⟩ | ⟨lead, hlead, quad, h⟩)
    · exact ⟨lead, quad, .inl hlead, h⟩
    · exact ⟨lead, quad, .inr (.inl hlead), h⟩
    · exact ⟨lead, quad, .inr (.inr hlead), h⟩
  · rintro ⟨lead, quad, hlead | hlead | hlead, h⟩
    · exact .inl ⟨lead, hlead, quad, h⟩
    · exact .inr (.inl ⟨lead, hlead, quad, h⟩)
    · exact .inr (.inr ⟨lead, hlead, quad, h⟩)

/-! ## Addresses -/

/-- Eight groups. -/
def IsFull (text : List Char) : Prop :=
  ∃ groups : List (List Char), groups.length = 8 ∧ (∀ group ∈ groups, IsGroup group) ∧
    text = joined groups

/-- What the pattern for an address takes. -/
theorem mem_addressPattern_iff : text ∈ Format.addressPattern.language ↔
    IsFull text ∨ IsGapped text ∨
      ∃ lead quad, (IsFullLead lead ∨ IsLead lead) ∧ Quad.IsSpelled quad ∧
        text = lead ++ quad := by
  have hpatterns : Format.addressPattern
      = oneOf (seq (Format.groupColon.exact 7) Format.group :: (gapPatterns ++ quadPatterns)) := rfl
  have hfull : text ∈ (seq (Format.groupColon.exact 7) Format.group).language ↔ IsFull text := by
    rw [Format.groupColon, mem_language_exact_separated]
    simp only [mem_group_iff]
    rfl
  rw [hpatterns, mem_language_oneOf, ← mem_gapPatterns_iff, ← mem_quadPatterns_iff, ← hfull]
  simp only [List.mem_cons, List.mem_append, exists_eq_left, or_and_right, exists_or]

/-- Groups with colons between them hold colons and hexadecimal digits only. -/
theorem of_mem_joined (hgroups : ∀ group ∈ groups, IsGroup group) :
    ∀ c ∈ joined groups, c = ':' ∨ (Text.hexValue? c).isSome = true := by
  rw [joined, forall_mem_intercalate (by simp)]
  exact fun group hgroup c hc => .inr ((hgroups group hgroup).digits c hc)

/-- So there is no point in an address without a quad. -/
theorem point_not_mem (h : IsFull text ∨ IsGapped text) : '.' ∉ text := by
  have hpoint : ¬('.' = ':' ∨ (Text.hexValue? '.').isSome = true) := by decide
  rcases h with ⟨groups, -, hgroups, rfl⟩ | ⟨b, a, -, before, after, -, -, hgroups, rfl⟩
  · exact fun hmem => hpoint (of_mem_joined hgroups _ hmem)
  · obtain ⟨hbefore, hafter⟩ := List.forall_mem_append.mp hgroups
    simp only [List.mem_append, not_or]
    exact ⟨⟨fun hmem => hpoint (of_mem_joined hbefore _ hmem), by decide⟩,
      fun hmem => hpoint (of_mem_joined hafter _ hmem)⟩

theorem IsLead.exists_colon (h : IsLead lead) : ∃ front, lead = front ++ [':'] := by
  cases h with
  | gap => exact ⟨_, by rw [List.append_cons]⟩
  | mapped => exact ⟨_, rfl⟩
  | translated => exact ⟨_, rfl⟩

/-- What stands before a quad ends with a colon. -/
theorem getLast_lead (h : IsFullLead lead ∨ IsLead lead) : ∀ c ∈ lead.getLast?, c = ':' := by
  rcases h with ⟨groups, -, -, rfl⟩ | h
  · rcases groups.eq_nil_or_concat' with rfl | ⟨rest, last, rfl⟩ <;> simp [eq_comm]
  · obtain ⟨front, rfl⟩ := h.exists_colon
    simp [eq_comm]

theorem mem_addressPattern_of_hexadecimal (h : IsFull text ∨ IsGapped text) :
    text ∈ Format.addressPattern.language :=
  mem_addressPattern_iff.mpr (h.imp_right .inl)

/-- What ends in a quad is an address just if the quad may stand there. -/
theorem append_quad_mem_iff (hlead : ∀ c ∈ lead.getLast?, c = ':') (hquad : Quad.IsSpelled quad) :
    lead ++ quad ∈ Format.addressPattern.language ↔ IsFullLead lead ∨ IsLead lead := by
  have hpoint : '.' ∈ lead ++ quad := List.mem_append_right _ hquad.point_mem
  rw [mem_addressPattern_iff]
  constructor
  · rintro (h | h | ⟨lead', quad', h, hquad', heq⟩)
    · exact absurd hpoint (point_not_mem (.inl h))
    · exact absurd hpoint (point_not_mem (.inr h))
    · obtain ⟨rfl, -⟩ := append_inj_of_separator hlead (getLast_lead h)
        (hquad.not_mem (by decide) (by decide)) (hquad'.not_mem (by decide) (by decide)) heq
      exact h
  · intro h
    exact .inr (.inr ⟨lead, quad, h, hquad, rfl⟩)

theorem IsGroup.not_mem {group : List Char} (h : IsGroup group)
    (hc : (Text.hexValue? c).isSome = false) : c ∉ group :=
  fun hmem => Bool.false_ne_true (hc.symm.trans (h.digits c hmem))

theorem IsMark.isGroup {mark : List Char} (h : IsMark mark) : IsGroup mark := by
  obtain ⟨hlength, hmark⟩ := h
  refine ⟨by omega, by omega, fun c hc => ?_⟩
  rcases hmark c hc with rfl | rfl <;> decide

theorem isGroup_zeros {zeros : Nat} (hpos : 1 ≤ zeros) (hle : zeros ≤ 4) :
    IsGroup (List.replicate zeros '0') := by
  refine ⟨by simpa using hpos, by simpa using hle, fun c hc => ?_⟩
  rw [List.eq_of_mem_replicate hc]
  decide

section

variable {x y : List Char}

/-- Two groups at the end of an address without a gap have six groups before them. -/
theorem isFull_append_iff (hlead : ∀ c ∈ lead.getLast?, c = ':') (hx : IsGroup x)
    (hy : IsGroup y) : IsFull (lead ++ x ++ [':'] ++ y) ↔ IsFullLead lead := by
  have hends (init : List Char) : ∀ c ∈ (init ++ [':']).getLast?, c = ':' := by simp [eq_comm]
  constructor
  · rintro ⟨groups, hlength, hgroups, heq⟩
    obtain ⟨rest, y', rfl⟩ := (groups.eq_nil_or_concat').resolve_left (by rintro rfl; cases hlength)
    obtain ⟨hrest, hy'⟩ := List.forall_mem_append.mp hgroups
    have hne : rest ≠ [] := by
      rintro rfl
      cases hlength
    obtain ⟨init, x', rfl⟩ := (rest.eq_nil_or_concat').resolve_left hne
    obtain ⟨hinit, hx'⟩ := List.forall_mem_append.mp hrest
    rw [joined_concat, flatMap_ended hne] at heq
    obtain ⟨hfront, -⟩ := append_inj_of_separator (hends _) (hends _) (hy.not_mem (by decide))
      ((hy' y' (by simp)).not_mem (by decide)) heq
    rw [List.append_left_inj, joined_concat] at hfront
    have hfull : IsFullLead (init.flatMap (· ++ [':'])) :=
      ⟨init, by simpa using hlength, hinit, rfl⟩
    obtain ⟨rfl, -⟩ := append_inj_of_separator hlead (getLast_lead (.inl hfull))
      (hx.not_mem (by decide)) ((hx' x' (by simp)).not_mem (by decide)) hfront
    exact hfull
  · rintro ⟨groups, hlength, hgroups, rfl⟩
    refine ⟨groups ++ [x] ++ [y], by simpa using hlength, ?_, ?_⟩
    · simpa [or_imp, forall_and] using ⟨hgroups, hx, hy⟩
    · rw [joined_concat, List.flatMap_append]
      simp

/-- Wherever a quad may stand after a gap, two groups may. -/
theorem IsLead.isGapped (h : IsLead lead) (hx : IsGroup x) (hy : IsGroup y) :
    IsGapped (lead ++ x ++ [':'] ++ y) := by
  cases h with
  | @gap groups length_le isGroup =>
    refine ⟨_, _, ?_, groups, [x, y], rfl, rfl, ?_, ?_⟩
    · simp only [List.length_cons, List.length_nil]
      omega
    · simpa [or_imp, forall_and] using ⟨isGroup, hx, hy⟩
    · simp [joined]
  | @mapped mark isMark =>
    refine ⟨_, _, ?_, [], [mark, x, y], rfl, rfl, ?_, ?_⟩
    · simp
    · simpa using ⟨isMark.isGroup, hx, hy⟩
    · simp [joined]
  | @translated mark zeros isMark zeros_pos zeros_le =>
    refine ⟨_, _, ?_, [], [mark, List.replicate zeros '0', x, y], rfl, rfl, ?_, ?_⟩
    · simp
    · simpa using ⟨isMark.isGroup, isGroup_zeros zeros_pos zeros_le, hx, hy⟩
    · simp [joined]

end

end Address

open Address

namespace Format

/-- Without a percent sign there is no zone, and the whole text is the address. -/
theorem ipv6_matches_iff {text : String} (hzone : '%' ∉ text.toList) :
    ipv6.matches? text = true ↔ text.toList ∈ addressPattern.language := by
  rw [matches?_iff, pattern, matches_nil_iff (by decide)]
  simp only [mem_language_seq, mem_language_optional, mem_language_literal]
  constructor
  · rintro ⟨address, haddress, _, rfl | ⟨_, rfl, zone, -, rfl⟩, htext⟩
    · rwa [htext, List.append_nil]
    · exact absurd (htext ▸ by simp) hzone
  · intro h
    exact ⟨_, h, [], .inl rfl, by simp⟩

/-- Without points and percent signs, the format takes eight groups, or up to seven with a gap. -/
theorem ipv6_hexadecimal_iff {text : String} (hpoint : '.' ∉ text.toList)
    (hzone : '%' ∉ text.toList) :
    ipv6.matches? text = true ↔ IsFull text.toList ∨ IsGapped text.toList := by
  rw [ipv6_matches_iff hzone, mem_addressPattern_iff]
  constructor
  · rintro (h | h | ⟨lead, quad, -, hquad, htext⟩)
    · exact .inl h
    · exact .inr h
    · exact absurd (htext ▸ List.mem_append_right _ hquad.point_mem) hpoint
  · rintro (h | h)
    · exact .inl h
    · exact .inr (.inl h)

/-- The gap may stand for a single group. -/
theorem ipv6_hexadecimal_single_gap : ipv6.matches? "1:2:3::5:6:7:8" = true :=
  (ipv6_hexadecimal_iff (by decide) (by decide)).mpr (.inr ⟨3, 4, by decide,
    [['1'], ['2'], ['3']], [['5'], ['6'], ['7'], ['8']], rfl, rfl, by simp; decide, rfl⟩)

/-- A dotted quad may stand for the last two groups of an address if there is no gap, or if what
comes before it is one of the leads. -/
theorem ipv6_mixed_iff {lead x y quad : String} (hlead : ∀ c ∈ lead.toList.getLast?, c = ':')
    (hzone : '%' ∉ lead.toList) (hx : IsGroup x.toList) (hy : IsGroup y.toList)
    (hquad : Quad.IsCanonical quad.toList) :
    ipv6.matches? (lead ++ quad) = true ↔
      ipv6.matches? (lead ++ x ++ ":" ++ y) = true ∧
        (IsFull (lead ++ x ++ ":" ++ y).toList ∨ IsLead lead.toList) := by
  have hcolon : ":".toList = [':'] := rfl
  have hspelled : Quad.IsSpelled quad.toList := (Quad.isCanonical_iff.mp hquad).1
  have hmixed : '%' ∉ (lead ++ quad).toList := by
    simpa [hzone] using hspelled.not_mem (by decide) (by decide)
  have hzoneX : '%' ∉ x.toList := hx.not_mem (by decide)
  have hzoneY : '%' ∉ y.toList := hy.not_mem (by decide)
  have hplain : '%' ∉ (lead ++ x ++ ":" ++ y).toList := by
    simp [hzone, hcolon, hzoneX, hzoneY]
  rw [ipv6_matches_iff hmixed, ipv6_matches_iff hplain]
  simp only [String.toList_append, hcolon, append_quad_mem_iff hlead hspelled,
    isFull_append_iff hlead hx hy]
  constructor
  · rintro (h | h)
    · have hfull := (isFull_append_iff hlead hx hy).mpr h
      exact ⟨mem_addressPattern_of_hexadecimal (.inl hfull), .inl h⟩
    · exact ⟨mem_addressPattern_of_hexadecimal (.inr (h.isGapped hx hy)), .inr h⟩
  · exact fun h => h.2

/-- Four groups before the gap are not too many. -/
theorem ipv6_mixed_four_groups : ipv6.matches? ("1:22:333:4444::" ++ "192.0.2.255") = true := by
  have hlead : IsLead "1:22:333:4444::".toList := by
    refine @IsLead.gap ["1".toList, "22".toList, "333".toList, "4444".toList] (by decide) ?_
    simp
    decide
  have hquad : Quad.IsCanonical "192.0.2.255".toList :=
    ⟨[192, 0, 2, 255], rfl, by simp, by decide⟩
  exact (ipv6_mixed_iff (x := "c000") (y := "2FF") (by simp) (by decide) (by decide) (by decide)
    hquad).mpr ⟨by decide +kernel, .inr hlead⟩

/-- A group between the gap and the quad is refused. -/
theorem ipv6_refuses_mixed :
    ¬∀ lead x y quad : String, (∀ c ∈ lead.toList.getLast?, c = ':') → '.' ∉ lead.toList →
      '%' ∉ lead.toList → IsGroup x.toList → IsGroup y.toList → Quad.IsCanonical quad.toList →
      ipv6.matches? (lead ++ x ++ ":" ++ y) = true → ipv6.matches? (lead ++ quad) = true := by
  intro h
  have hquad : Quad.IsCanonical "1.2.3.4".toList := ⟨[1, 2, 3, 4], rfl, by simp, by decide⟩
  have htakes := h "::1:" "2" "3" "1.2.3.4" (by simp) (by decide) (by decide) (by decide)
    (by decide) hquad (by decide +kernel)
  have hrefuses : ipv6.matches? ("::1:" ++ "1.2.3.4") = false := by decide +kernel
  exact Bool.false_ne_true (hrefuses.symm.trans htakes)

end Format

end SchemaBridge
