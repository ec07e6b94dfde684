import Mathlib
import SchemaBridge.Document.Token
import SchemaBridge.Text.Blank

/-!
# Scanning a text in pieces

A text without quotes has no strings, so its tokens end at every line end and at every number sign
that begins a comment. There the machine can be stopped and started again: the tokens of the whole
are those of the pieces, one after another.

* `scanFrom_append_lineEnd`: a text is scanned up to a line end and after it.
* `scanFrom_append_sign`: code is scanned up to a number sign, and a comment after it.
-/

namespace SchemaBridge.Token

/-! ## Readings outside of strings -/

/-- The machine is not inside of a string. -/
def Reading.isPlain : Reading → Bool
  | .between | .comment | .points _ | .name _ | .number _ _ => true
  | _ => false

/-- The machine is neither inside of a string nor inside of a comment. -/
def Reading.isCode : Reading → Bool
  | .between | .points _ | .name _ | .number _ _ => true
  | _ => false

theorem Reading.isPlain_of_isCode {reading : Reading} (h : reading.isCode = true) :
    reading.isPlain = true := by
  cases reading <;> simp_all [isCode, isPlain]

/-- A character that is no quote begins no string, and begins a comment only as a number sign. -/
theorem begin_next {c : Char} {tokens : List Token} {next : Reading} (hquote : c ≠ '"')
    (h : begin c = some (tokens, next)) :
    next.isPlain = true ∧ (c ≠ '#' → next.isCode = true) := by
  unfold begin at h
  split_ifs at h with h1 h2
  any_goals
    obtain ⟨-, rfl⟩ : tokens = _ ∧ _ = next := by simpa using h
    simp_all [Reading.isPlain, Reading.isCode]
  obtain ⟨_, -, h⟩ := Option.map_eq_some_iff.mp h
  obtain ⟨-, rfl⟩ : _ ∧ Reading.between = next := by simpa using h
  simp [Reading.isPlain, Reading.isCode]

theorem thenBegin_next {token : Token} {c : Char} {tokens : List Token} {next : Reading}
    (hquote : c ≠ '"') (h : thenBegin token c = some (tokens, next)) :
    next.isPlain = true ∧ (c ≠ '#' → next.isCode = true) := by
  obtain ⟨⟨first, reading⟩, hbegin, h⟩ := Option.map_eq_some_iff.mp h
  obtain ⟨-, rfl⟩ : token :: first = tokens ∧ reading = next := by simpa using h
  exact begin_next hquote hbegin

/-- Outside of strings the machine stays outside of them as long as there is no quote, and outside
of comments as long as there is no number sign. -/
theorem step_next {reading next : Reading} {c : Char} {tokens : List Token} (hquote : c ≠ '"')
    (hplain : reading.isPlain = true) (h : step reading c = some (tokens, next)) :
    next.isPlain = true ∧ (reading.isCode = true → c ≠ '#' → next.isCode = true) := by
  cases reading with
  | between => exact ⟨(begin_next hquote h).1, fun _ => (begin_next hquote h).2⟩
  | comment =>
    simp only [step, Option.some.injEq, Prod.mk.injEq] at h
    obtain ⟨-, rfl⟩ := h
    refine ⟨?_, by simp [Reading.isCode]⟩
    split_ifs <;> rfl
  | points seen =>
    simp only [step] at h
    split_ifs at h <;> cases h <;> simp [Reading.isPlain, Reading.isCode]
  | name read =>
    simp only [step] at h
    split_ifs at h
    · cases h
      simp [Reading.isPlain, Reading.isCode]
    · exact ⟨(thenBegin_next hquote h).1, fun _ => (thenBegin_next hquote h).2⟩
  | number part read =>
    simp only [step, stepNumber] at h
    split at h
    · cases h
      simp [Reading.isPlain, Reading.isCode]
    · split_ifs at h
      obtain ⟨token, -, h⟩ := Option.bind_eq_some_iff.mp h
      exact ⟨(thenBegin_next hquote h).1, fun _ => (thenBegin_next hquote h).2⟩
  | _ => simp [Reading.isPlain] at hplain

/-! ## Where a token ends -/

/-- The character belongs to no name, to no number and to no row of points. -/
def isBreak (c : Char) : Bool :=
  !isNamePart c && c ≠ '.' && c ≠ '+' && c ≠ '-'

theorem next?_of_isBreak {c : Char} (hc : isBreak c = true) (part : NumberPart) :
    part.next? c = none := by
  have hdigit : c.isDigit = false := by
    by_contra h
    simp_all [isBreak, isNamePart, Char.isAlphanum]
  have he : c ≠ 'e' ∧ c ≠ 'E' ∧ c ≠ '0' := by
    refine ⟨?_, ?_, ?_⟩ <;> rintro rfl <;> simp [isBreak, isNamePart] at hc
  simp only [isBreak, Bool.and_eq_true, decide_eq_true_eq] at hc
  cases part <;> simp [NumberPart.next?, hdigit, he, hc]

/-- A character that belongs to no token at hand ends it and begins what it begins. -/
theorem step_of_isBreak {reading after : Reading} {c : Char} (hcode : reading.isCode = true)
    (hc : isBreak c = true) (hbegin : begin c = some ([], after)) :
    step reading c = (finish reading).map (·, after) := by
  have hpart : isNamePart c = false := by simp_all [isBreak]
  have hpoint : c ≠ '.' := by simp_all [isBreak]
  cases reading with
  | between => simp [step, hbegin, finish]
  | points seen => simp [step, hpoint, finish]
  | name read => simp [step, hpart, thenBegin, hbegin, finish]
  | number part read =>
    have hdigit : c.isDigit = false := by simp_all [isNamePart, Char.isAlphanum]
    have hstart : isNameStart c = false := by simp_all [isNamePart, isNameStart, Char.isAlphanum]
    simp only [step, stepNumber, next?_of_isBreak hc, hdigit, hpoint, hstart, finish]
    cases part.token? read <;> simp [thenBegin, hbegin]
  | _ => simp [Reading.isCode] at hcode

theorem begin_of_isIgnored {c : Char} (h : isIgnored c = true) : begin c = some ([], .between) := by
  simp [begin, h]

theorem isBreak_of_isIgnored {c : Char} (h : isIgnored c = true) : isBreak c = true := by
  simp only [isIgnored, Bool.or_eq_true, beq_iff_eq] at h
  rcases h with ((((rfl | rfl) | rfl) | rfl) | rfl) | rfl <;> decide

/-- An ignored character ends the token at hand. -/
theorem step_of_isIgnored {reading : Reading} {c : Char} (hcode : reading.isCode = true)
    (hc : isIgnored c = true) : step reading c = (finish reading).map (·, .between) :=
  step_of_isBreak hcode (isBreak_of_isIgnored hc) (begin_of_isIgnored hc)

/-- A number sign ends the token at hand and begins a comment. -/
theorem step_sign {reading : Reading} (hcode : reading.isCode = true) :
    step reading '#' = (finish reading).map (·, .comment) :=
  step_of_isBreak hcode (by decide) rfl

/-- A line end ends the token or the comment at hand. -/
theorem step_lineEnd {reading : Reading} {c : Char} (hplain : reading.isPlain = true)
    (hc : isLineEnd c = true) : step reading c = (finish reading).map (·, .between) := by
  have hignored : isIgnored c = true := by
    simp only [isLineEnd, Bool.or_eq_true, beq_iff_eq] at hc
    rcases hc with rfl | rfl <;> decide
  cases reading with
  | comment => simp [step, hc, finish]
  | between | points _ | name _ | number _ _ => exact step_of_isIgnored rfl hignored
  | _ => simp [Reading.isPlain] at hplain

/-! ## Scanning up to a break -/

/-- Two scans, one after the other. -/
def followedBy (first second : Option (List Token)) : Option (List Token) :=
  first.bind fun tokens => second.map (tokens ++ ·)

theorem followedBy_eq_some {first second : Option (List Token)} {tokens : List Token} :
    followedBy first second = some tokens ↔
      ∃ before after, first = some before ∧ second = some after ∧ tokens = before ++ after := by
  cases first <;> cases second <;> simp [followedBy, eq_comm]

/-- If a character stops the machine in all the readings that `P` holds of, and the text before it
keeps `P`, the machine can be started anew after it. -/
theorem scanFrom_append_break {P : Reading → Prop} {c : Char} {after : Reading}
    (hbreak : ∀ reading, P reading → step reading c = (finish reading).map (·, after))
    {text : List Char}
    (hstep : ∀ d ∈ text, ∀ reading tokens next, P reading → step reading d = some (tokens, next) →
      P next)
    {reading : Reading} (hreading : P reading) (rest : List Char) :
    scanFrom reading (text ++ c :: rest)
      = followedBy (scanFrom reading text) (scanFrom after rest) := by
  induction text generalizing reading with
  | nil =>
    rw [List.nil_append, scanFrom_cons, hbreak reading hreading, scanFrom, followedBy]
    cases finish reading <;> rfl
  | cons d text ih =>
    rw [List.cons_append, scanFrom_cons, scanFrom_cons]
    cases hd : step reading d with
    | none => rfl
    | some result =>
      obtain ⟨tokens, next⟩ := result
      have hnext := hstep d (by simp) reading tokens next hreading hd
      have hrest := ih (fun e he => hstep e (List.mem_cons_of_mem d he)) hnext
      simp only [Option.bind_some, hrest]
      cases scanFrom next text <;> cases scanFrom after rest <;> simp [followedBy]

/-- A text without quotes is scanned up to a line end and after it. -/
theorem scanFrom_append_lineEnd {reading : Reading} {text : List Char} {c : Char}
    (hplain : reading.isPlain = true) (hquote : '"' ∉ text) (hc : isLineEnd c = true)
    (rest : List Char) :
    scanFrom reading (text ++ c :: rest)
      = followedBy (scanFrom reading text) (scanFrom .between rest) := by
  refine scanFrom_append_break (P := fun reading => reading.isPlain = true)
    (fun reading h => step_lineEnd h hc) (fun d hd reading tokens next h hstep => ?_) hplain rest
  exact (step_next (fun e => hquote (e ▸ hd)) h hstep).1

/-- A text without quotes and number signs is scanned up to a number sign, and what follows as a
comment. -/
theorem scanFrom_append_sign {reading : Reading} {text : List Char}
    (hcode : reading.isCode = true) (hquote : '"' ∉ text) (hsign : '#' ∉ text)
    (rest : List Char) :
    scanFrom reading (text ++ '#' :: rest)
      = followedBy (scanFrom reading text) (scanFrom .comment rest) := by
  refine scanFrom_append_break (P := fun reading => reading.isCode = true)
    (fun reading h => step_sign h) (fun d hd reading tokens next h hstep => ?_) hcode rest
  exact (step_next (fun e => hquote (e ▸ hd)) (Reading.isPlain_of_isCode h) hstep).2 h
    fun e => hsign (e ▸ hd)

/-! ## Counting braces -/

theorem mark?_eq_openBrace {c : Char} : mark? c = some .openBrace ↔ c = '{' := by
  constructor
  · intro h
    unfold mark? at h
    split at h <;> simp_all
  · rintro rfl
    rfl

theorem count_begin {c : Char} {tokens : List Token} {next : Reading}
    (h : begin c = some (tokens, next)) :
    tokens.count (.mark .openBrace) = if c = '{' then 1 else 0 := by
  by_cases hc : c = '{'
  · subst hc
    obtain ⟨rfl, -⟩ : [Token.mark .openBrace] = tokens ∧ Reading.between = next := by
      simpa using (show begin '{' = some ([.mark .openBrace], .between) from rfl).symm.trans h
    rfl
  · rw [if_neg hc]
    unfold begin at h
    split_ifs at h
    any_goals
      cases h
      rfl
    obtain ⟨value, hvalue, h⟩ := Option.map_eq_some_iff.mp h
    have hother : value ≠ .openBrace := fun e => hc (mark?_eq_openBrace.mp (e ▸ hvalue))
    cases h
    rw [List.count_cons_of_ne (by simpa using hother), List.count_nil]

theorem count_thenBegin {token : Token} (htoken : token ≠ .mark .openBrace) {c : Char}
    {tokens : List Token} {next : Reading} (h : thenBegin token c = some (tokens, next)) :
    tokens.count (.mark .openBrace) = if c = '{' then 1 else 0 := by
  obtain ⟨⟨first, reading⟩, hbegin, h⟩ := Option.map_eq_some_iff.mp h
  cases h
  rw [List.count_cons_of_ne htoken]
  exact count_begin hbegin

theorem NumberPart.token?_ne {part : NumberPart} {read : List Char} {token : Token}
    (h : part.token? read = some token) : token ≠ .mark .openBrace := by
  cases part <;> simp [NumberPart.token?] at h <;> subst h <;> simp

theorem count_step {reading next : Reading} {c : Char} {tokens : List Token}
    (hcode : reading.isCode = true) (h : step reading c = some (tokens, next)) :
    tokens.count (.mark .openBrace) = if c = '{' then 1 else 0 := by
  cases reading with
  | between => exact count_begin h
  | points seen =>
    simp only [step] at h
    split_ifs at h with hc
    · cases h
      simp [hc]
    · cases h
      simp [hc]
  | name read =>
    simp only [step] at h
    split_ifs at h with hpart
    · cases h
      have hc : c ≠ '{' := by
        rintro rfl
        simp [isNamePart] at hpart
      simp [hc]
    · exact count_thenBegin (by simp) h
  | number part read =>
    simp only [step, stepNumber] at h
    split at h
    · next part' hnext =>
      cases h
      have hc : c ≠ '{' := by
        rintro rfl
        rw [next?_of_isBreak (by decide)] at hnext
        cases hnext
      simp [hc]
    · split_ifs at h
      obtain ⟨token, htoken, h⟩ := Option.bind_eq_some_iff.mp h
      exact count_thenBegin (NumberPart.token?_ne htoken) h
  | _ => simp [Reading.isCode] at hcode

/-- In code, each opening brace is a token of its own. -/
theorem count_openBrace {reading : Reading} (hcode : reading.isCode = true) {text : List Char}
    (hquote : '"' ∉ text) (hsign : '#' ∉ text) {tokens : List Token}
    (h : scanFrom reading text = some tokens) :
    tokens.count (.mark .openBrace) = text.count '{' := by
  induction text generalizing reading tokens with
  | nil =>
    rw [scanFrom] at h
    cases reading with
    | number part read =>
      obtain ⟨token, htoken, rfl⟩ := Option.map_eq_some_iff.mp h
      rw [List.count_cons_of_ne (NumberPart.token?_ne htoken), List.count_nil, List.count_nil]
    | between | name read =>
      cases h
      simp
    | points seen => cases h
    | _ => simp [Reading.isCode] at hcode
  | cons c text ih =>
    simp only [List.mem_cons, not_or] at hquote hsign
    rw [scanFrom_cons] at h
    obtain ⟨⟨first, next⟩, hstep, h⟩ := Option.bind_eq_some_iff.mp h
    obtain ⟨rest, hrest, rfl⟩ := Option.map_eq_some_iff.mp h
    have hnext := (step_next (Ne.symm hquote.1) (Reading.isPlain_of_isCode hcode) hstep).2 hcode
      (Ne.symm hsign.1)
    rw [List.count_append, count_step hcode hstep, ih hnext hquote.2 hsign.2 hrest, List.count_cons]
    by_cases hc : c = '{' <;> simp [hc, Nat.add_comm]

/-! ## Blanks at the ends -/

theorem isNamePart_of_isBlank {c : Char} (h : Text.isBlank c = true) : isNamePart c = false := by
  simp only [Text.isBlank, Bool.or_eq_true, Bool.and_eq_true, decide_eq_true_eq, beq_iff_eq] at h
  have hunderscore : c ≠ '_' := by
    rintro rfl
    simp at h
  simp only [isNamePart, Char.isAlphanum, Char.isAlpha, Char.isUpper, Char.isLower, Char.isDigit,
    Bool.or_eq_false_iff, Bool.and_eq_false_iff, decide_eq_false_iff_not, beq_eq_false_iff_ne,
    ge_iff_le, UInt32.le_iff_toNat_le, hunderscore, ne_eq, not_false_eq_true, and_true]
  simp
  omega

/-- A blank that the grammar does not ignore begins nothing. -/
theorem isIgnored_of_isBlank {c : Char} (hblank : Text.isBlank c = true)
    (h : begin c ≠ none) : isIgnored c = true := by
  have hpart := isNamePart_of_isBlank hblank
  have hdigit : c.isDigit = false := by simp_all [isNamePart, Char.isAlphanum]
  have hstart : isNameStart c = false := by simp_all [isNamePart, isNameStart, Char.isAlphanum]
  by_contra hignored
  apply h
  unfold begin
  rw [if_neg hignored]
  split_ifs with h1 h2 h3 h4 h5
  any_goals
    subst c
    exact absurd hblank (by decide)
  · simp_all
  · simp_all
  rw [Option.map_eq_none_iff]
  unfold mark?
  split <;> first | rfl | exact absurd hblank (by decide)

theorem isBreak_of_isBlank {c : Char} (h : Text.isBlank c = true) : isBreak c = true := by
  have hpart := isNamePart_of_isBlank h
  have hmarks : c ≠ '.' ∧ c ≠ '+' ∧ c ≠ '-' := by
    refine ⟨?_, ?_, ?_⟩ <;> rintro rfl <;> exact absurd h (by decide)
  simp [isBreak, hpart, hmarks]

theorem step_eq_none_of_isBreak {reading : Reading} {c : Char} (hcode : reading.isCode = true)
    (hc : isBreak c = true) (hbegin : begin c = none) : step reading c = none := by
  have hpart : isNamePart c = false := by simp_all [isBreak]
  have hpoint : c ≠ '.' := by simp_all [isBreak]
  cases reading with
  | between => exact hbegin
  | points seen => simp [step, hpoint]
  | name read => simp [step, hpart, thenBegin, hbegin]
  | number part read =>
    simp only [step, stepNumber, next?_of_isBreak hc, thenBegin, hbegin, Option.map_none]
    split_ifs <;> simp
  | _ => simp [Reading.isCode] at hcode

/-- Wherever code goes on after a blank, the grammar ignores the blank. -/
theorem isIgnored_of_scanFrom {reading : Reading} (hcode : reading.isCode = true)
    {text rest : List Char} {c : Char} (hquote : '"' ∉ text) (hsign : '#' ∉ text)
    (hblank : Text.isBlank c = true) (h : scanFrom reading (text ++ c :: rest) ≠ none) :
    isIgnored c = true := by
  induction text generalizing reading with
  | nil =>
    refine isIgnored_of_isBlank hblank fun hbegin => h ?_
    rw [List.nil_append, scanFrom_cons,
      step_eq_none_of_isBreak hcode (isBreak_of_isBlank hblank) hbegin, Option.bind_none]
  | cons d text ih =>
    simp only [List.mem_cons, not_or] at hquote hsign
    rw [List.cons_append, scanFrom_cons] at h
    cases hstep : step reading d with
    | none => simp [hstep] at h
    | some result =>
      obtain ⟨tokens, next⟩ := result
      have hnext := (step_next (Ne.symm hquote.1) (Reading.isPlain_of_isCode hcode) hstep).2 hcode
        (Ne.symm hsign.1)
      exact ih hnext hquote.2 hsign.2 fun hnone => h (by simp [hstep, hnone])

/-- In code, an ignored character parts the tokens before it from those after it. -/
theorem scanFrom_append_ignored {reading : Reading} (hcode : reading.isCode = true)
    {text : List Char} (hquote : '"' ∉ text) (hsign : '#' ∉ text) {c : Char}
    (hc : isIgnored c = true) (rest : List Char) :
    scanFrom reading (text ++ c :: rest)
      = followedBy (scanFrom reading text) (scanFrom .between rest) := by
  refine scanFrom_append_break (P := fun reading => reading.isCode = true)
    (fun reading h => step_of_isIgnored h hc) (fun d hd reading tokens next h hstep => ?_) hcode rest
  exact (step_next (fun e => hquote (e ▸ hd)) (Reading.isPlain_of_isCode h) hstep).2 h
    fun e => hsign (e ▸ hd)

theorem scanFrom_dropWhile_isBlank {text : List Char} {tokens : List Token}
    (h : scanFrom .between text = some tokens) :
    scanFrom .between (text.dropWhile Text.isBlank) = some tokens := by
  induction text with
  | nil => exact h
  | cons c text ih =>
    by_cases hblank : Text.isBlank c = true
    · have hc := isIgnored_of_scanFrom rfl (List.not_mem_nil) (List.not_mem_nil) hblank
        (by rw [List.nil_append, h]; simp)
      rw [List.dropWhile_cons_of_pos hblank]
      apply ih
      simpa [scanFrom_cons, step, begin_of_isIgnored hc] using h
    · rw [List.dropWhile_cons_of_neg hblank]
      exact h

theorem scanFrom_dropWhile_isBlank_end {text : List Char} (hquote : '"' ∉ text)
    (hsign : '#' ∉ text) {tokens : List Token} (h : scanFrom .between text = some tokens) :
    scanFrom .between (text.reverse.dropWhile Text.isBlank).reverse = some tokens := by
  induction text using List.reverseRecOn with
  | nil => exact h
  | append_singleton text c ih =>
    simp only [List.mem_append, not_or] at hquote hsign
    rw [List.reverse_append, List.reverse_singleton, List.singleton_append]
    by_cases hblank : Text.isBlank c = true
    · have hc := isIgnored_of_scanFrom rfl hquote.1 hsign.1 hblank (by rw [h]; simp)
      rw [scanFrom_append_ignored rfl hquote.1 hsign.1 hc, followedBy_eq_some] at h
      obtain ⟨before, after, hbefore, hafter, rfl⟩ := h
      cases hafter
      rw [List.dropWhile_cons_of_pos hblank]
      exact ih hquote.1 hsign.1 (by rw [hbefore, List.append_nil])
    · rw [List.dropWhile_cons_of_neg hblank, List.reverse_cons, List.reverse_reverse]
      exact h

/-- The blanks at both ends of a document without strings and comments are no part of a token. -/
theorem scanFrom_strip {text : List Char} (hquote : '"' ∉ text) (hsign : '#' ∉ text)
    {tokens : List Token} (h : scanFrom .between text = some tokens) :
    scanFrom .between (Text.strip text) = some tokens := by
  have hsub := (List.dropWhile_sublist (l := text) Text.isBlank).subset
  exact scanFrom_dropWhile_isBlank_end (fun hmem => hquote (hsub hmem)) (fun hmem => hsign (hsub hmem))
    (scanFrom_dropWhile_isBlank h)

end SchemaBridge.Token
