import Mathlib
import SchemaBridge.Document.Parser
import SchemaBridge.Proofs.Definitions

/-!
# Names in parsed documents

The scanner makes names of letters, digits and underscores, and the parser takes the names of types
and fields from its tokens. So the names in a parsed document stand for themselves in references.
What stands on a field is constant: there are no variables in it.

* `Token.areNamed_of_scan`: what the names among the tokens of a text are made of.
* `Parser.Yields`: what a parser reads from such tokens, with a rule for each way of combining
  parsers.
* `Document.isSpelled_of_parse?`: the names and the constants in a parsed document.
* `Document.isPlain_of_parse?`: the names of types in a parsed document are plain.
-/

namespace SchemaBridge

/-! ## Names among tokens -/

/-- The text is made of characters that may stand in a name. -/
def Token.IsName (name : String) : Prop := ∀ c ∈ name.toList, Token.isNamePart c = true

/-- A name among tokens is made of characters that may stand in it. -/
def Token.IsNamed : Token → Prop
  | name value => Token.IsName value
  | _ => True

/-- All names among the tokens are. -/
def Token.AreNamed (tokens : List Token) : Prop := ∀ token ∈ tokens, token.IsNamed

namespace Token

theorem isPlain_of_isName {name : String} (h : IsName name) : Reference.IsPlain name := by
  have habsent {c : Char} (hc : isNamePart c = false) : c ∉ name.toList := fun hmem => by
    rw [h c hmem] at hc
    cases hc
  exact ⟨habsent (by decide), habsent (by decide), habsent (by decide)⟩

/-- What has been read of a name is made of characters that may stand in it. -/
def Reading.IsNamed : Reading → Prop
  | .name read => ∀ c ∈ read, isNamePart c = true
  | _ => True

theorem isNamePart_of_isNameStart {c : Char} (h : isNameStart c = true) :
    isNamePart c = true := by
  unfold isNameStart isNamePart Char.isAlphanum at *
  grind

theorem isName_textOf {read : List Char} (h : ∀ c ∈ read, isNamePart c = true) :
    IsName (textOf read) := by
  intro c hc
  rw [textOf, String.toList_ofList, List.mem_reverse] at hc
  exact h c hc

/-- A step gives such tokens, and leads to such a reading. -/
def Step.IsNamed (step : Step) : Prop :=
  ∀ tokens reading, step = some (tokens, reading) → AreNamed tokens ∧ reading.IsNamed

theorem areNamed_nil : AreNamed [] := fun _ h => absurd h List.not_mem_nil

theorem areNamed_cons {token : Token} {tokens : List Token} :
    AreNamed (token :: tokens) ↔ token.IsNamed ∧ AreNamed tokens := List.forall_mem_cons

theorem isNamed_none : Step.IsNamed none := fun _ _ h => by cases h

theorem isNamed_some {tokens : List Token} {reading : Reading} (h : AreNamed tokens)
    (hreading : reading.IsNamed) : Step.IsNamed (some (tokens, reading)) := fun _ _ heq => by
  cases heq
  exact ⟨h, hreading⟩

theorem isNamed_map {α : Type} {found : Option α} {next : α → List Token × Reading}
    (h : ∀ value, Step.IsNamed (some (next value))) : Step.IsNamed (found.map next) := by
  cases found with
  | none => exact isNamed_none
  | some value => exact h value

theorem isNamed_bind {α : Type} {found : Option α} {next : α → Step}
    (h : ∀ value, Step.IsNamed (next value)) : Step.IsNamed (found.bind next) := by
  cases found with
  | none => exact isNamed_none
  | some value => exact h value

theorem isNamed_begin (c : Char) : Step.IsNamed (begin c) := by
  have hname (hstart : isNameStart c = true) : (Reading.name [c]).IsNamed := fun d hd => by
    rw [List.mem_singleton.mp hd]
    exact isNamePart_of_isNameStart hstart
  have hmark (mark : Mark) : Step.IsNamed (some ([.mark mark], .between)) :=
    isNamed_some (areNamed_cons.mpr ⟨trivial, areNamed_nil⟩) trivial
  unfold begin
  split_ifs with _ _ _ _ _ _ _ hstart
  all_goals first
    | exact isNamed_some areNamed_nil (hname hstart)
    | exact isNamed_map hmark
    | exact isNamed_some areNamed_nil trivial

theorem isNamed_thenBegin {token : Token} (h : token.IsNamed) (c : Char) :
    Step.IsNamed (thenBegin token c) := by
  unfold thenBegin
  have hbegin := isNamed_begin c
  cases hfound : begin c with
  | none => exact isNamed_none
  | some next =>
    obtain ⟨htokens, hreading⟩ := hbegin next.1 next.2 hfound
    exact isNamed_some (areNamed_cons.mpr ⟨h, htokens⟩) hreading

theorem isNamed_stepNumber (part : NumberPart) (read : List Char) (c : Char) :
    Step.IsNamed (stepNumber part read c) := by
  unfold stepNumber
  split
  · exact isNamed_some areNamed_nil trivial
  · split_ifs
    · exact isNamed_none
    · cases htoken : part.token? read with
      | none => exact isNamed_none
      | some token =>
        refine isNamed_thenBegin ?_ c
        cases part <;> cases htoken <;> exact trivial

/-- Within strings there are no names. -/
theorem isNamed_stepText (read : List Char) (c : Char) : Step.IsNamed (stepText read c) := by
  unfold stepText
  split_ifs
  · exact isNamed_some (areNamed_cons.mpr ⟨trivial, areNamed_nil⟩) trivial
  · exact isNamed_some areNamed_nil trivial
  · exact isNamed_none
  · exact isNamed_some areNamed_nil trivial

theorem isNamed_stepCode (read : List Char) (lead : Option Nat) (code : Nat) :
    Step.IsNamed (stepCode read lead code) := by
  unfold stepCode
  split <;> split_ifs
  · exact isNamed_map fun _ => isNamed_some areNamed_nil trivial
  · exact isNamed_none
  · exact isNamed_some areNamed_nil trivial
  · exact isNamed_map fun _ => isNamed_some areNamed_nil trivial

theorem isNamed_stepBlock (read : List Char) (pending : Pending) (c : Char) :
    Step.IsNamed (stepBlock read pending c) := by
  have hplain (read : List Char) : Step.IsNamed (stepBlockPlain read c) := by
    unfold stepBlockPlain
    split_ifs <;> exact isNamed_some areNamed_nil trivial
  cases pending with
  | none => exact hplain read
  | twoQuotes =>
    simp only [stepBlock]
    split_ifs
    · exact isNamed_some (areNamed_cons.mpr ⟨trivial, areNamed_nil⟩) trivial
    · exact hplain _
  | _ =>
    simp only [stepBlock]
    split_ifs
    · exact isNamed_some areNamed_nil trivial
    · exact hplain _

/-- The step that each character takes keeps to names. -/
theorem isNamed_step {reading : Reading} (h : reading.IsNamed) (c : Char) :
    Step.IsNamed (step reading c) := by
  cases reading with
  | between => exact isNamed_begin c
  | comment =>
    simp only [step]
    split_ifs <;> exact isNamed_some areNamed_nil trivial
  | points seen =>
    simp only [step]
    split_ifs
    · exact isNamed_some (areNamed_cons.mpr ⟨trivial, areNamed_nil⟩) trivial
    · exact isNamed_some areNamed_nil trivial
    · exact isNamed_none
  | name read =>
    simp only [step]
    split_ifs with hpart
    · exact isNamed_some areNamed_nil (List.forall_mem_cons.mpr ⟨hpart, h⟩)
    · have hname : IsNamed (.name (textOf read)) := isName_textOf h
      exact isNamed_thenBegin hname c
  | number part read => exact isNamed_stepNumber part read c
  | quote =>
    simp only [step]
    split_ifs
    · exact isNamed_some areNamed_nil trivial
    · exact isNamed_stepText [] c
  | twoQuotes =>
    simp only [step]
    split_ifs
    · exact isNamed_some areNamed_nil trivial
    · have htext : IsNamed (.text "") := trivial
      exact isNamed_thenBegin htext c
  | text read => exact isNamed_stepText read c
  | escape read =>
    simp only [step]
    split_ifs
    · exact isNamed_some areNamed_nil trivial
    · exact isNamed_map fun _ => isNamed_some areNamed_nil trivial
  | code read lead digits =>
    simp only [step]
    split_ifs
    · exact isNamed_some areNamed_nil trivial
    · exact isNamed_bind fun digit => isNamed_stepCode read lead _
    · exact isNamed_bind fun digit => isNamed_some areNamed_nil trivial
  | bracedCode read digits =>
    simp only [step]
    split_ifs
    · exact isNamed_none
    · exact isNamed_map fun _ => isNamed_some areNamed_nil trivial
    · exact isNamed_bind fun digit => isNamed_some areNamed_nil trivial
    · exact isNamed_bind fun digit => isNamed_none
  | afterLead read lead slash =>
    simp only [step]
    split_ifs <;> first
      | exact isNamed_none
      | exact isNamed_some areNamed_nil trivial
  | block read pending => exact isNamed_stepBlock read pending c

theorem areNamed_finish {reading : Reading} (h : reading.IsNamed) {tokens : List Token}
    (hfinish : finish reading = some tokens) : AreNamed tokens := by
  cases reading with
  | between | comment =>
    cases hfinish
    exact areNamed_nil
  | name read =>
    cases hfinish
    exact areNamed_cons.mpr ⟨isName_textOf h, areNamed_nil⟩
  | number part read =>
    obtain ⟨token, htoken, rfl⟩ := Option.map_eq_some_iff.mp hfinish
    refine areNamed_cons.mpr ⟨?_, areNamed_nil⟩
    cases part <;> cases htoken <;> exact trivial
  | twoQuotes =>
    cases hfinish
    exact areNamed_cons.mpr ⟨trivial, areNamed_nil⟩
  | _ => cases hfinish

theorem areNamed_scanFrom {reading : Reading} (h : reading.IsNamed) {text : List Char}
    {tokens : List Token} (hscan : scanFrom reading text = some tokens) : AreNamed tokens := by
  induction text generalizing reading tokens with
  | nil => exact areNamed_finish h hscan
  | cons c rest ih =>
    rw [scanFrom_cons] at hscan
    obtain ⟨⟨first, next⟩, hstep, hrest⟩ := Option.bind_eq_some_iff.mp hscan
    obtain ⟨later, hlater, rfl⟩ := Option.map_eq_some_iff.mp hrest
    obtain ⟨hfirst, hnext⟩ := isNamed_step h c first next hstep
    exact List.forall_mem_append.mpr ⟨hfirst, ih hnext hlater⟩

/-- The names among the tokens of a text are made of characters that may stand in a name. -/
theorem areNamed_of_scan {text : String} {tokens : List Token} (h : scan text = some tokens) :
    AreNamed tokens := by
  have hbetween : Reading.between.IsNamed := trivial
  exact areNamed_scanFrom hbetween h

end Token

/-! ## Constants -/

/-- A constant of the grammar: there are no variables in it, and the fields of its objects have
names. -/
inductive Literal.IsConstant : Literal → Prop
  | int (spelling : String) : IsConstant (.int spelling)
  | float (spelling : String) : IsConstant (.float spelling)
  | text (value : String) : IsConstant (.text value)
  | boolean (value : Bool) : IsConstant (.boolean value)
  | null : IsConstant .null
  | enum (name : String) : IsConstant (.enum name)
  | list {items : List Literal} (hitems : ∀ item ∈ items, IsConstant item) :
      IsConstant (.list items)
  | object {fields : List (String × Literal)} (hnames : ∀ field ∈ fields, Token.IsName field.1)
      (hvalues : ∀ field ∈ fields, IsConstant field.2) : IsConstant (.object fields)

/-- The arguments of a directive are constants. -/
def Directive.IsConstant (directive : Directive) : Prop :=
  ∀ argument ∈ directive.arguments, argument.value.IsConstant

/-! ## Reading from such tokens -/

namespace Parser

open Token

variable {α β : Type}

/-- From tokens with such names a parser reads what is wanted, and such tokens are left. -/
def Yields (parser : Parser α) (wanted : α → Prop) : Prop :=
  ∀ tokens value rest, AreNamed tokens → parser tokens = some (value, rest) →
    AreNamed rest ∧ wanted value

/-- A parser of which nothing is wanted but that it leaves such tokens. -/
def Keeps (parser : Parser α) : Prop := parser.Yields fun _ => True

variable {parser : Parser α} {wanted : α → Prop} {wanted' : β → Prop}

theorem Yields.mono {wanted' : α → Prop} (h : parser.Yields wanted)
    (himp : ∀ value, wanted value → wanted' value) : parser.Yields wanted' :=
  fun tokens value rest htokens hread =>
    (h tokens value rest htokens hread).imp_right (himp value)

theorem Yields.keeps (h : parser.Yields wanted) : parser.Keeps := h.mono fun _ _ => trivial

theorem yields_pure {value : α} (h : wanted value) : (pure value : Parser α).Yields wanted := by
  intro tokens value' rest htokens hread
  cases hread
  exact ⟨htokens, h⟩

theorem keeps_pure (value : α) : (pure value : Parser α).Keeps := yields_pure trivial

theorem yields_failure : (failure : Parser α).Yields wanted := by
  intro tokens value rest htokens hread
  cases hread

theorem Yields.bind {after : α → Parser β} (h : parser.Yields wanted)
    (hafter : ∀ value, wanted value → (after value).Yields wanted') :
    (parser >>= after).Yields wanted' := by
  intro tokens value rest htokens hread
  obtain ⟨⟨middle, left⟩, hfirst, hread⟩ := Option.bind_eq_some_iff.mp hread
  obtain ⟨hleft, hmiddle⟩ := h tokens middle left htokens hfirst
  exact hafter middle hmiddle left value rest hleft hread

/-- Whatever is read first, the rest does what is wanted. -/
theorem Keeps.bind {after : α → Parser β} (h : parser.Keeps)
    (hafter : ∀ value, (after value).Yields wanted') : (parser >>= after).Yields wanted' :=
  Yields.bind h fun value _ => hafter value

theorem Keeps.discard (h : parser.Keeps) : (discard parser).Keeps := by
  intro tokens value rest htokens hread
  obtain ⟨⟨middle, left⟩, hfirst, hread⟩ := Option.bind_eq_some_iff.mp hread
  cases hread
  exact ⟨(h tokens middle rest htokens hfirst).1, trivial⟩

theorem yields_ite {condition : Prop} [Decidable condition] {first second : Parser α}
    (h : first.Yields wanted) (h' : second.Yields wanted) :
    (if condition then first else second).Yields wanted := by
  split_ifs
  · exact h
  · exact h'

theorem yields_get : (get : Parser (List Token)).Yields AreNamed := by
  intro tokens value rest htokens hread
  cases hread
  exact ⟨htokens, htokens⟩

theorem keeps_set {tokens : List Token} (h : AreNamed tokens) :
    (set tokens : Parser PUnit).Keeps := by
  intro tokens' value rest htokens hread
  cases hread
  exact ⟨h, trivial⟩

/-! ### Single tokens -/

theorem yields_next : next.Yields IsNamed := by
  refine yields_get.bind fun tokens htokens => ?_
  cases tokens with
  | nil => exact yields_failure
  | cons token rest =>
    obtain ⟨htoken, hrest⟩ := areNamed_cons.mp htokens
    exact (keeps_set hrest).bind fun _ => yields_pure htoken

theorem keeps_peek : peek.Keeps := yields_get.keeps.bind fun _ => keeps_pure _

theorem keeps_skip (token : Token) : (skip token).Keeps := by
  refine yields_get.bind fun tokens htokens => ?_
  cases tokens with
  | nil => exact keeps_pure _
  | cons head rest =>
    exact yields_ite ((keeps_set (areNamed_cons.mp htokens).2).bind fun _ => keeps_pure _)
      (keeps_pure _)

theorem keeps_expect (token : Token) : (expect token).Keeps :=
  (keeps_skip token).bind fun _ => yields_ite (keeps_pure _) yields_failure

theorem keeps_mark (value : Mark) : (mark value).Keeps := keeps_expect _

theorem keeps_skipMark (value : Mark) : (skipMark value).Keeps := keeps_skip _

theorem yields_name : name.Yields IsName := by
  refine yields_next.bind fun token htoken => ?_
  cases token with
  | name value => exact yields_pure htoken
  | _ => exact yields_failure

theorem keeps_description : description.Keeps := by
  refine keeps_peek.bind fun found => ?_
  split
  · exact yields_next.keeps.discard.bind fun _ => keeps_pure _
  · exact keeps_pure _

theorem keeps_fuel : fuel.Keeps := yields_get.keeps.bind fun _ => keeps_pure _

/-! ### Lists -/

section

variable {item : Parser α}

theorem yields_untilMark (h : item.Yields wanted) (close : Mark) (fuel : Nat) :
    (untilMark close item fuel).Yields fun values => ∀ value ∈ values, wanted value := by
  induction fuel with
  | zero => exact yields_failure
  | succ fuel ih =>
    refine (keeps_skipMark close).bind fun closed => yields_ite (yields_pure (by simp)) ?_
    exact h.bind fun _ hfirst => ih.bind fun _ hrest =>
      yields_pure (List.forall_mem_cons.mpr ⟨hfirst, hrest⟩)

theorem yields_any (h : item.Yields wanted) (close : Mark) :
    (any close item).Yields fun values => ∀ value ∈ values, wanted value :=
  keeps_fuel.bind fun fuel => yields_untilMark h close fuel

theorem keeps_any (h : item.Keeps) (close : Mark) : (any close item).Keeps :=
  (yields_any h close).keeps

theorem yields_many (h : item.Yields wanted) (close : Mark) :
    (many close item).Yields fun values => ∀ value ∈ values, wanted value :=
  h.bind fun _ hfirst => (yields_any h close).bind fun _ hrest =>
    yields_pure (List.forall_mem_cons.mpr ⟨hfirst, hrest⟩)

theorem yields_block (h : item.Yields wanted) (openMark close : Mark) :
    (block openMark close item).Yields fun values => ∀ value ∈ values, wanted value :=
  (keeps_mark openMark).bind fun _ => yields_many h close

theorem yields_optionalBlock (h : item.Yields wanted) (openMark close : Mark) :
    (optionalBlock openMark close item).Yields fun values => ∀ value ∈ values, wanted value :=
  (keeps_skipMark openMark).bind fun _ => yields_ite (yields_many h close) (yields_pure (by simp))

theorem yields_afterMarks (h : item.Yields wanted) (separator : Mark) (fuel : Nat) :
    (afterMarks separator item fuel).Yields fun values => ∀ value ∈ values, wanted value := by
  induction fuel with
  | zero => exact yields_failure
  | succ fuel ih =>
    refine (keeps_skipMark separator).bind fun found => yields_ite ?_ (yields_pure (by simp))
    exact h.bind fun _ hfirst => ih.bind fun _ hrest =>
      yields_pure (List.forall_mem_cons.mpr ⟨hfirst, hrest⟩)

theorem yields_separated (h : item.Yields wanted) (separator : Mark) :
    (separated separator item).Yields fun values => ∀ value ∈ values, wanted value :=
  (keeps_skipMark separator).discard.bind fun _ => h.bind fun _ hfirst =>
    keeps_fuel.bind fun fuel => (yields_afterMarks h separator fuel).bind fun _ hrest =>
      yields_pure (List.forall_mem_cons.mpr ⟨hfirst, hrest⟩)

end

/-! ### Types, values and directives -/

/-- The name of a type reference is a name. -/
def HasName (type : TypeRef) : Prop := ∀ name ∈ type.name?, IsName name

theorem yields_required {type : TypeRef} (h : HasName type) : (required type).Yields HasName :=
  (keeps_skipMark .bang).bind fun _ => yields_ite (yields_pure h) (yields_pure h)

theorem hasName_named {name : String} (h : IsName name) : HasName (.named name) := by
  intro name' hname'
  cases hname'
  exact h

theorem yields_typeRefWithin (levels : Nat) : (typeRefWithin levels).Yields HasName := by
  induction levels with
  | zero => exact yields_name.bind fun name hname => yields_required (hasName_named hname)
  | succ levels ih =>
    refine (keeps_skipMark .openBracket).bind fun isList => yields_ite ?_ ?_
    · exact ih.bind fun item hitem => (keeps_mark .closeBracket).bind fun _ =>
        yields_required hitem
    · exact yields_name.bind fun name hname => yields_required (hasName_named hname)

theorem yields_typeRef : typeRef.Yields HasName := yields_typeRefWithin deepest

theorem yields_scalar (constant : Bool) :
    (scalar constant).Yields fun literal => constant = true → literal.IsConstant := by
  refine yields_next.keeps.bind fun token => ?_
  split
  · split_ifs with hconstant
    · exact yields_failure
    · exact yields_name.keeps.bind fun _ => yields_pure fun h => absurd h hconstant
  all_goals first
    | exact yields_pure fun _ => by constructor
    | exact yields_failure

theorem yields_literalWithin (constant : Bool) (levels : Nat) :
    (literalWithin constant levels).Yields fun literal =>
      constant = true → literal.IsConstant := by
  induction levels with
  | zero => exact yields_scalar constant
  | succ levels ih =>
    have hfield : Yields (do
        let key ← name
        mark .colon
        return (key, ← literalWithin constant levels)) fun field =>
          IsName field.1 ∧ (constant = true → field.2.IsConstant) :=
      yields_name.bind fun _ hname => (keeps_mark .colon).bind fun _ => ih.bind fun _ hvalue =>
        yields_pure ⟨hname, hvalue⟩
    refine (keeps_skipMark .openBracket).bind fun _ => yields_ite
      ((yields_any ih .closeBracket).bind fun items hitems => yields_pure fun h =>
        .list fun item hitem => hitems item hitem h) ?_
    exact (keeps_skipMark .openBrace).bind fun _ => yields_ite
      ((yields_any hfield .closeBrace).bind fun fields hfields => yields_pure fun h =>
        .object (fun field hmem => (hfields field hmem).1) fun field hmem =>
          (hfields field hmem).2 h)
      (yields_scalar constant)

theorem yields_arguments (constant : Bool) (levels : Nat) :
    (arguments constant levels).Yields fun arguments => ∀ argument ∈ arguments,
      constant = true → argument.value.IsConstant := by
  have hargument : (argument constant levels).Yields fun argument =>
      constant = true → argument.value.IsConstant :=
    yields_name.keeps.bind fun _ => (keeps_mark .colon).bind fun _ =>
      (yields_literalWithin constant levels).bind fun _ hvalue => yields_pure hvalue
  exact yields_optionalBlock hargument .openParen .closeParen

theorem yields_directivesUpTo (constant : Bool) (levels fuel : Nat) :
    (directivesUpTo constant levels fuel).Yields fun directives => ∀ directive ∈ directives,
      constant = true → directive.IsConstant := by
  induction fuel with
  | zero => exact yields_failure
  | succ fuel ih =>
    refine (keeps_skipMark .at).bind fun _ => yields_ite ?_ (yields_pure (by simp))
    exact yields_name.keeps.bind fun _ => (yields_arguments constant levels).bind fun _ hgiven =>
      ih.bind fun _ hrest => yields_pure (List.forall_mem_cons.mpr
        ⟨fun h argument hmem => hgiven argument hmem h, hrest⟩)

theorem yields_directivesWithin (constant : Bool) (levels : Nat) :
    (directivesWithin constant levels).Yields fun directives => ∀ directive ∈ directives,
      constant = true → directive.IsConstant :=
  keeps_fuel.bind fun fuel => yields_directivesUpTo constant levels fuel

/-- The directives outside of executable definitions have constants. -/
theorem yields_directives : (directives true).Yields fun directives =>
    ∀ directive ∈ directives, directive.IsConstant :=
  (yields_directivesWithin true deepest).mono fun _ h directive hmem => h directive hmem rfl

theorem keeps_arguments (constant : Bool) (levels : Nat) : (arguments constant levels).Keeps :=
  (yields_arguments constant levels).keeps

theorem keeps_directivesWithin (constant : Bool) (levels : Nat) :
    (directivesWithin constant levels).Keeps :=
  (yields_directivesWithin constant levels).keeps

theorem keeps_directives (constant : Bool) : (directives constant).Keeps :=
  keeps_directivesWithin constant deepest

/-! ### Executable definitions -/

theorem keeps_fragmentName : fragmentName.Keeps :=
  yields_name.keeps.bind fun _ => yields_ite yields_failure (keeps_pure _)

theorem keeps_selectionsWithin (levels : Nat) : (selectionsWithin levels).Keeps := by
  induction levels with
  | zero => exact yields_failure
  | succ levels ih =>
    have hdirectives := (keeps_directivesWithin false levels).discard
    refine (keeps_mark .openBrace).bind fun _ => (keeps_any ?_ .closeBrace).discard
    refine (keeps_skipMark .spread).bind fun _ => yields_ite ?_ ?_
    · refine (keeps_skip _).bind fun _ => yields_ite ?_ ?_
      · exact yields_name.keeps.discard.bind fun _ => hdirectives.bind fun _ => ih
      · refine keeps_peek.bind fun found => ?_
        split
        · exact keeps_fragmentName.bind fun _ => hdirectives
        · exact hdirectives.bind fun _ => ih
    · have hrest : Keeps (do
          discard (arguments false levels)
          discard (directivesWithin false levels)
          if (← peek) = some (.mark .openBrace) then selectionsWithin levels) :=
        (keeps_arguments false levels).discard.bind fun _ => hdirectives.bind fun _ =>
          keeps_peek.bind fun _ => yields_ite ih (keeps_pure _)
      refine yields_name.keeps.discard.bind fun _ => (keeps_skipMark .colon).bind fun _ => ?_
      exact yields_ite (yields_name.keeps.discard.bind fun _ => hrest) hrest

theorem keeps_selections : selections.Keeps := keeps_selectionsWithin deepest

theorem keeps_fallback : fallback.Keeps :=
  (keeps_skipMark .equals).bind fun _ => yields_ite
    ((yields_literalWithin true deepest).keeps.bind fun _ => keeps_pure _) (keeps_pure _)

theorem keeps_variableDefinition : variableDefinition.Keeps :=
  keeps_description.discard.bind fun _ => (keeps_mark .dollar).bind fun _ =>
    yields_name.keeps.discard.bind fun _ => (keeps_mark .colon).bind fun _ =>
      yields_typeRef.keeps.discard.bind fun _ => keeps_fallback.discard.bind fun _ =>
        (keeps_directives true).discard

/-! ### Type system definitions -/

/-- A definition of a type has a name, and so have the types in it. -/
structure HasNames (definition : Definition) : Prop where
  own : ∀ name ∈ definition.typeName?, IsName name
  types : ∀ type ∈ definition.types, HasName type

/-- A field with a name, a type that has one, and constants in its directives. -/
structure IsField (value : InputValue) : Prop where
  own : IsName value.name
  type : HasName value.type
  directives : ∀ directive ∈ value.directives, directive.IsConstant

/-- What the grammar says of a definition: of its names, and of what stands on its fields. -/
structure IsSpelled (definition : Definition) : Prop extends HasNames definition where
  fields : ∀ field ∈ definition.fields, IsField field.toInputValue

/-- What is no definition of a type has no types in it. -/
theorem isSpelled_of_none {definition : Definition} (h : definition.typeName? = none) :
    IsSpelled definition := by
  cases definition with
  | directive | other =>
    exact ⟨⟨fun _ hname => absurd hname (Option.not_mem_none _),
      fun _ htype => absurd htype List.not_mem_nil⟩, fun _ hfield => absurd hfield List.not_mem_nil⟩
  | _ => cases h

theorem isSpelled_of_members {definition : Definition} {name : String}
    (hname : definition.typeName? = some name) (hown : IsName name) (h : definition.fields = [])
    (hmembers : ∀ member ∈ definition.members, HasName member) : IsSpelled definition := by
  refine ⟨⟨fun name' hname' => ?_, fun type htype => ?_⟩, fun field hfield => ?_⟩
  · rw [hname] at hname'
    cases hname'
    exact hown
  · rw [Definition.types, h, List.map_nil, List.nil_append] at htype
    exact hmembers type htype
  · rw [h] at hfield
    cases hfield

theorem isSpelled_of_fields {definition : Definition} {name : String}
    (hname : definition.typeName? = some name) (hown : IsName name) (h : definition.members = [])
    (hfields : ∀ field ∈ definition.fields, IsField field.toInputValue) : IsSpelled definition := by
  refine ⟨⟨fun name' hname' => ?_, fun type htype => ?_⟩, hfields⟩
  · rw [hname] at hname'
    cases hname'
    exact hown
  · rw [Definition.types, h, List.append_nil] at htype
    obtain ⟨field, hfield, rfl⟩ := List.mem_map.mp htype
    exact (hfields field hfield).type

theorem yields_operation : operation.Yields IsSpelled := by
  have hrest : Yields (do
      discard (optionalBlock .openParen .closeParen variableDefinition)
      discard (directives false)
      selections
      return .other .operationDefinition) IsSpelled :=
    (yields_optionalBlock keeps_variableDefinition .openParen .closeParen).keeps.discard.bind
      fun _ => (keeps_directives false).discard.bind fun _ => keeps_selections.bind fun _ =>
        yields_pure (isSpelled_of_none rfl)
  refine keeps_peek.bind fun found => ?_
  dsimp only
  split
  · exact yields_name.keeps.discard.bind fun _ => hrest
  · exact hrest

theorem yields_fragment : fragment.Yields IsSpelled :=
  keeps_fragmentName.bind fun _ => (keeps_expect _).bind fun _ =>
    yields_name.keeps.discard.bind fun _ => (keeps_directives false).discard.bind fun _ =>
      keeps_selections.bind fun _ => yields_pure (isSpelled_of_none rfl)

theorem yields_inputValue : inputValue.Yields IsField :=
  keeps_description.discard.bind fun _ => yields_name.bind fun _ hname =>
    (keeps_mark .colon).bind fun _ => yields_typeRef.bind fun _ htype =>
      keeps_fallback.bind fun _ => yields_directives.bind fun _ hdirectives =>
        yields_pure ⟨hname, htype, hdirectives⟩

theorem keeps_argumentDefinitions : argumentDefinitions.Keeps :=
  (yields_optionalBlock yields_inputValue .openParen .closeParen).keeps

theorem yields_fields :
    fields.Yields fun fields => ∀ field ∈ fields, IsField field.toInputValue := by
  have hfield : fieldDefinition.Yields fun field => IsField field.toInputValue :=
    keeps_description.discard.bind fun _ => yields_name.bind fun _ hname =>
      keeps_argumentDefinitions.bind fun _ => (keeps_mark .colon).bind fun _ =>
        yields_typeRef.bind fun _ htype => yields_directives.bind fun _ hdirectives =>
          yields_pure ⟨hname, htype, hdirectives⟩
  exact yields_optionalBlock hfield .openBrace .closeBrace

theorem yields_inputFields :
    inputFields.Yields fun fields => ∀ field ∈ fields, IsField field.toInputValue := by
  have hfield : Yields (do return (⟨← inputValue, []⟩ : Field)) fun field =>
      IsField field.toInputValue :=
    yields_inputValue.bind fun _ hvalue => yields_pure hvalue
  exact yields_optionalBlock hfield .openBrace .closeBrace

theorem keeps_interfaces : interfaces.Keeps :=
  (keeps_skip _).bind fun _ => yields_ite (yields_separated yields_name .ampersand).keeps
    (keeps_pure _)

theorem keeps_enumValues : enumValues.Keeps := by
  have hvalue : enumValue.Keeps :=
    keeps_description.discard.bind fun _ => yields_name.keeps.bind fun _ =>
      yields_ite yields_failure ((keeps_directives true).bind fun _ => keeps_pure _)
  exact (yields_optionalBlock hvalue .openBrace .closeBrace).keeps

theorem yields_members : members.Yields fun members => ∀ member ∈ members, HasName member := by
  have hmember : Yields (do return .named (← name)) HasName :=
    yields_name.bind fun _ hname => yields_pure (hasName_named hname)
  exact (keeps_skipMark .equals).bind fun _ =>
    yields_ite (yields_separated hmember .bar) (yields_pure (by simp))

theorem keeps_operationType : operationType.Keeps :=
  yields_name.keeps.bind fun _ => yields_ite
    ((keeps_mark .colon).bind fun _ => yields_name.keeps.discard) yields_failure

theorem yields_schemaDefinition : schemaDefinition.Yields IsSpelled :=
  (keeps_directives true).discard.bind fun _ =>
    (yields_block keeps_operationType .openBrace .closeBrace).keeps.discard.bind fun _ =>
      yields_pure (isSpelled_of_none rfl)

theorem yields_directiveDefinition : directiveDefinition.Yields IsSpelled := by
  have hlocation : location.Keeps :=
    yields_name.keeps.bind fun _ => yields_ite (keeps_pure _) yields_failure
  exact (keeps_mark .at).bind fun _ => yields_name.keeps.bind fun _ =>
    keeps_argumentDefinitions.bind fun _ => (keeps_directives true).discard.bind fun _ =>
      (keeps_skip _).bind fun _ => (keeps_expect _).bind fun _ =>
        (yields_separated hlocation .bar).keeps.bind fun _ =>
          yields_pure (isSpelled_of_none rfl)

theorem yields_typeDefinition (word : String) : (typeDefinition word).Yields IsSpelled := by
  unfold typeDefinition
  split
  · exact yields_name.bind fun _ hname => (keeps_directives true).bind fun _ =>
      yields_pure (isSpelled_of_members rfl hname rfl fun _ h => absurd h List.not_mem_nil)
  · exact yields_name.bind fun _ hname => keeps_interfaces.bind fun _ =>
      (keeps_directives true).bind fun _ => yields_fields.bind fun _ hfields =>
        yields_pure (isSpelled_of_fields rfl hname rfl hfields)
  · exact yields_name.bind fun _ hname => keeps_interfaces.bind fun _ =>
      (keeps_directives true).bind fun _ => yields_fields.bind fun _ hfields =>
        yields_pure (isSpelled_of_fields rfl hname rfl hfields)
  · exact yields_name.bind fun _ hname => (keeps_directives true).bind fun _ =>
      yields_members.bind fun _ hmembers =>
        yields_pure (isSpelled_of_members rfl hname rfl hmembers)
  · exact yields_name.bind fun _ hname => (keeps_directives true).bind fun _ =>
      keeps_enumValues.bind fun _ =>
        yields_pure (isSpelled_of_members rfl hname rfl fun _ h => absurd h List.not_mem_nil)
  · exact yields_name.bind fun _ hname => (keeps_directives true).bind fun _ =>
      yields_inputFields.bind fun _ hfields =>
        yields_pure (isSpelled_of_fields rfl hname rfl hfields)
  · exact yields_failure

theorem yields_extension : extension.Yields IsSpelled := by
  have hschema : schemaExtension.Yields IsSpelled :=
    (keeps_directives true).bind fun _ =>
      (yields_optionalBlock keeps_operationType .openBrace .closeBrace).keeps.bind fun _ =>
        yields_ite yields_failure (yields_pure (isSpelled_of_none rfl))
  have hdirective : directiveExtension.Yields IsSpelled :=
    (keeps_mark .at).bind fun _ => yields_name.keeps.discard.bind fun _ =>
      (keeps_directives true).bind fun _ =>
        yields_ite yields_failure (yields_pure (isSpelled_of_none rfl))
  exact yields_name.keeps.bind fun word => yields_ite hschema <| yields_ite hdirective <|
    (yields_typeDefinition word).keeps.bind fun _ =>
      yields_ite (yields_pure (isSpelled_of_none rfl)) yields_failure

/-! ### Documents -/

theorem yields_definition : definition.Yields IsSpelled := by
  refine keeps_peek.bind fun found => yields_ite ?_ ?_
  · exact keeps_selections.bind fun _ => yields_pure (isSpelled_of_none rfl)
  · exact keeps_description.bind fun _ => yields_name.keeps.bind fun word =>
      yields_ite yields_schemaDefinition <| yields_ite yields_directiveDefinition <|
        yields_ite yields_operation <| yields_ite yields_fragment <|
          yields_ite yields_extension (yields_typeDefinition word)

theorem yields_definitionsUpTo (fuel : Nat) :
    (definitionsUpTo fuel).Yields fun definitions =>
      ∀ definition ∈ definitions, IsSpelled definition := by
  induction fuel with
  | zero => exact yields_failure
  | succ fuel ih =>
    refine yields_get.keeps.bind fun _ => yields_ite (yields_pure (by simp)) ?_
    exact yields_definition.bind fun _ hfirst => ih.bind fun _ hrest =>
      yields_pure (List.forall_mem_cons.mpr ⟨hfirst, hrest⟩)

theorem yields_document : document.Yields fun document =>
    ∀ definition ∈ document, IsSpelled definition :=
  yields_definition.bind fun _ hfirst => keeps_fuel.bind fun fuel =>
    (yields_definitionsUpTo fuel).bind fun _ hrest =>
      yields_pure (List.forall_mem_cons.mpr ⟨hfirst, hrest⟩)

end Parser

theorem Document.isSpelled_of_parse? {text : String} {document : Document}
    (h : Document.parse? text = some document) :
    ∀ definition ∈ document, Parser.IsSpelled definition := by
  obtain ⟨tokens, hscan, hparse⟩ := Option.bind_eq_some_iff.mp h
  have hread : Parser.document tokens = some (document, []) := by
    unfold Parser.complete at hparse
    split at hparse
    · next heq =>
      cases hparse
      exact heq
    · cases hparse
  exact (Parser.yields_document tokens document [] (Token.areNamed_of_scan hscan) hread).2

theorem Document.hasNames_of_parse? {text : String} {document : Document}
    (h : Document.parse? text = some document) :
    ∀ definition ∈ document, Parser.HasNames definition := fun definition hmem =>
  (isSpelled_of_parse? h definition hmem).toHasNames

/-- The names of types in a parsed document stand for themselves in references. -/
theorem Document.isPlain_of_parse? {text : String} {document : Document}
    (h : Document.parse? text = some document) : document.IsPlain := by
  intro definition hdefinition type htype name hname
  have hnames := hasNames_of_parse? h definition hdefinition
  exact Token.isPlain_of_isName (hnames.types type htype name hname)

/-- So do the names of the definitions. -/
theorem Document.isPlain_typeName_of_parse? {text : String} {document : Document}
    (h : Document.parse? text = some document) {definition : Definition}
    (hdefinition : definition ∈ document) {name : String}
    (hname : definition.typeName? = some name) : Reference.IsPlain name :=
  Token.isPlain_of_isName ((hasNames_of_parse? h definition hdefinition).own name hname)

end SchemaBridge
