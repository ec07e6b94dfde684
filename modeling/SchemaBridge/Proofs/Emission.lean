import Mathlib
import SchemaBridge.Proofs.Completion
import SchemaBridge.Proofs.Correctness
import SchemaBridge.Proofs.Parsing
import SchemaBridge.Proofs.Stubs
import SchemaBridge.Proofs.Unions

/-!
# When the validators of a document come to an end

Without handlers, the schemas of a document's definitions are sound as far as its references lead to
definitions. Whatever a directive's arguments are, they are cast to values that their keywords can
be applied with, all but one: an expression is emitted as it stands, and it need not be one. So what
validators come to depends on the expressions alone.

* `Argument.suits`: what is cast suits its keyword.
* `TypeRef.sound`, `Field.sound`, `Definition.sound`: what the parts of a document become is sound.
* `Registry.answers_iff_searchable`: validators always answer, just if all expressions can be
  searched for.
-/

namespace SchemaBridge

open Schema

/-! ## References -/

/-- Somewhere in the value, an object has the entry. -/
inductive Datum.HasEntry (name : String) (value : Datum) : Datum → Prop
  | here {entries : Members} (h : (.text name, value) ∈ entries) :
      HasEntry name value (.object entries)
  | entry {entries : Members} {key : Key} {inner : Datum} (hmem : (key, inner) ∈ entries)
      (h : HasEntry name value inner) : HasEntry name value (.object entries)
  | item {items : List Datum} {inner : Datum} (hmem : inner ∈ items)
      (h : HasEntry name value inner) : HasEntry name value (.list items)

namespace Datum

variable {name : String} {value : Datum}

theorem hasEntry_object {entries : Members} :
    HasEntry name value (.object entries) ↔
      (.text name, value) ∈ entries ∨ ∃ entry ∈ entries, HasEntry name value entry.2 := by
  constructor
  · rintro (h | ⟨hmem, h⟩)
    · exact .inl h
    · exact .inr ⟨_, hmem, h⟩
  · rintro (h | ⟨entry, hmem, h⟩)
    · exact .here h
    · exact .entry hmem h

theorem not_hasEntry_text {text : String} : ¬HasEntry name value (.text text) := by
  intro h
  cases h

end Datum

namespace Schema

/-- Every reference in the schema leads to one of the definitions. -/
def Resolves (definitions : Members) (schema : Datum) : Prop :=
  ∀ reference, Datum.HasEntry "$ref" reference schema → ∃ name contents,
    reference = Reference.toDefinition name ∧ Entries.find? definitions (.text name) = some contents

section

variable {definitions entries added : Members}

theorem Resolves.entry (h : Resolves definitions (.object entries)) {key : Key} {inner : Datum}
    (hmem : (key, inner) ∈ entries) : Resolves definitions inner :=
  fun reference href => h reference (.entry hmem href)

theorem Resolves.item {items : List Datum} (h : Resolves definitions (.list items))
    {inner : Datum} (hmem : inner ∈ items) : Resolves definitions inner :=
  fun reference href => h reference (.item hmem href)

theorem Resolves.exists_find? {schema : Datum} (h : Resolves definitions schema) {name : String}
    (href : Datum.HasEntry "$ref" (Reference.toDefinition name) schema) :
    ∃ contents, Entries.find? definitions (.text name) = some contents := by
  obtain ⟨name', contents, heq, hfind⟩ := h _ href
  exact ⟨contents, by rw [toDefinition_inj heq, hfind]⟩

/-! ## Soundness of parts -/

theorem Sound.of_plain (honly : HasOnly plainKeywords entries)
    (hsuits : ∀ keyword value, (.text keyword, value) ∈ entries → Suits keyword value) :
    Sound definitions (.object entries) :=
  .keywords (honly.mono (List.subset_append_left _ _)) (fun keyword _ => hsuits keyword)
    (fun value h => (honly.not_mem (by decide) value h).elim)
    (fun value h => (honly.not_mem (by decide) value h).elim)
    (fun properties h => (honly.not_mem (by decide) (.object properties) h).elim)
    (fun value h => (honly.not_mem (by decide) value h).elim)
    fun branches h => (honly.not_mem (by decide) (.list branches) h).elim

/-- Keywords about the value may be added to a sound schema, with values that suit them. -/
theorem Sound.merge (h : Sound definitions (.object entries))
    (hadded : HasOnly plainKeywords added)
    (hsuits : ∀ keyword value, (.text keyword, value) ∈ added →
      (.text keyword, value) ∈ Entries.merge entries added → Suits keyword value) :
    Sound definitions (.object (Entries.merge entries added)) := by
  cases h with
  | reference href hplain hfind =>
    exact .reference ((hadded.find?_merge (by decide) entries).trans href) hplain hfind
  | keywords honly hplain hitems hobject hproperties hlist hbranches =>
    refine .keywords (honly.merge (hadded.mono (List.subset_append_left _ _)))
      (fun keyword hkeyword value hentry => ?_)
      (fun value hentry => hitems value (hadded.mem_of_mem_merge (by decide) hentry))
      (fun value hentry => hobject value (hadded.mem_of_mem_merge (by decide) hentry))
      (fun properties hentry =>
        hproperties properties (hadded.mem_of_mem_merge (by decide) hentry))
      (fun value hentry => hlist value (hadded.mem_of_mem_merge (by decide) hentry))
      fun branches hentry => hbranches branches (hadded.mem_of_mem_merge (by decide) hentry)
    rcases hadded.mem_merge hentry with hentry' | hentry'
    · exact hplain keyword hkeyword value hentry'
    · exact hsuits keyword value hentry' hentry

end

end Schema

/-! ## Directives -/

/-- Behind the cast, the value of a keyword suits it, unless it is meant as an expression. -/
theorem Argument.suits {argument : Argument} {directive : String} {jsonType : Option String}
    {keyword : String} {value : Datum}
    (h : argument.keyword directive jsonType = .ok (.text keyword, value))
    (hkeyword : keyword ≠ "pattern") : Suits keyword value := by
  obtain ⟨key, taken, hkey, hcast, heq⟩ := keyword_eq_ok h
  cases heq
  have hstandard : ∀ row ∈ Keyword.standard, ∀ name ∈ row.2,
      name ∈ boundKeywords ∧ name ∈ Keyword.numeric ∨ name = "pattern" ∨ name ∈ freeKeywords := by
    decide
  have hextended : ∀ row ∈ Keyword.extended, ∀ name ∈ row.2,
      Keyword.extendedPrefix ++ name ∈ freeKeywords := by decide
  -- Only a bound asks something of its value, and only bounds are cast to numbers.
  rcases exists_row_of_key? hkey with ⟨row, hrow, hmem, rfl⟩ | ⟨row, hrow, hmem, rfl⟩
  · rcases hstandard row hrow _ hmem with ⟨hbound, hnumeric⟩ | heq | hfree
    · rw [Keyword.cast, if_pos (List.contains_iff_mem.mpr hnumeric)] at hcast
      cases hnumber : Keyword.toNumber argument.value.value with
      | error fault => rw [hnumber] at hcast; cases hcast
      | ok number =>
        rw [hnumber] at hcast
        cases hcast
        rw [Keyword.settle]
        split_ifs
        · exact .bound hbound
        · exact .bound hbound
    · exact absurd heq hkeyword
    · exact .free hfree
  · exact .free (hextended row hrow _ hmem)

namespace TypeRef

variable {definitions added : Members} {type : TypeRef} {inList : Bool} {resolved : TypeSchema}
  {name : String}

theorem suits_nameSchema (h : isBuiltin name = true) (inList : Bool) (keyword : String)
    (value : Datum) (hentry : (.text keyword, value) ∈ nameSchema name inList) :
    Suits keyword value := by
  unfold nameSchema at hentry
  by_cases hdate : name = Keyword.dateTime
  · rw [if_pos hdate] at hentry
    simp only [List.mem_cons, Prod.mk.injEq, Key.text.injEq, List.not_mem_nil, or_false] at hentry
    rcases hentry with ⟨rfl, rfl⟩ | ⟨rfl, rfl⟩
    · exact .of_typeName rfl
    · exact .free (by decide)
  · obtain ⟨jsonType, type, hprimitive, htype, -⟩ := exists_primitive h hdate
    rw [if_neg hdate, hprimitive] at hentry
    simp only [List.mem_cons, Prod.mk.injEq, Key.text.injEq, List.not_mem_nil, or_false] at hentry
    obtain ⟨rfl, rfl⟩ := hentry
    cases inList with
    | true =>
      have htypes : [jsonType, "null"].map (TypeName.ofName? .registered)
          = [type, .null].map some := by
        rw [List.map_cons, htype]
        rfl
      exact .type rfl htypes
    | false => exact .of_typeName htype

/-- A name that is not builtin is referred to, whatever keywords are added. -/
theorem hasEntry_of_name? (h : type.resolve inList = .ok resolved) (hname : name ∈ type.name?)
    (hbuiltin : isBuiltin name = false) (hadded : HasOnly plainKeywords added) :
    Datum.HasEntry "$ref" (Reference.toDefinition name)
      (.object (Entries.merge resolved.schema added)) := by
  induction type generalizing inList resolved added with
  | named name' =>
    cases h
    cases hname
    refine .here (mem_of_find?_text ?_)
    rw [hadded.find?_merge (by decide), nameSchema_of_reference hbuiltin]
    rfl
  | list item ih =>
    obtain ⟨type, hitem, rfl⟩ := resolve_eq_ok_list h
    have hfind : Entries.find? (Entries.merge
        [(.text "type", .text "array"), (.text "items", .object type.schema)] added) (.text "items")
          = some (.object type.schema) := by
      rw [hadded.find?_merge (by decide)]
      rfl
    have hitems := ih hitem hname (hasOnly_nil _)
    exact .entry (mem_of_find?_text hfind) hitems
  | nonNull inner ih =>
    obtain ⟨type, hinner, rfl⟩ := resolve_eq_ok_nonNull h
    have hentry := ih hinner hname hadded
    exact hentry
  | other kind => cases h

/-- The schema of a type is sound if the name in it has a definition or is builtin. -/
theorem sound (h : type.resolve inList = .ok resolved)
    (hplain : ∀ name ∈ type.name?, Reference.IsPlain name)
    (hdefined : ∀ name ∈ type.name?, isBuiltin name = false →
      ∃ contents, Entries.find? definitions (.text name) = some contents) :
    Sound definitions (.object resolved.schema) := by
  induction type generalizing inList resolved with
  | named name =>
    cases h
    cases hbuiltin : isBuiltin name with
    | true =>
      exact .of_plain ((hasOnly_nameSchema hbuiltin inList).mono (by decide))
        (suits_nameSchema hbuiltin inList)
    | false =>
      obtain ⟨contents, hfind⟩ := hdefined name rfl hbuiltin
      rw [nameSchema_of_reference hbuiltin]
      exact .reference rfl (hplain name rfl) hfind
  | list item ih =>
    obtain ⟨type, hitem, rfl⟩ := resolve_eq_ok_list h
    have hsound := ih hitem hplain hdefined
    refine .keywords ?_ ?_ ?_ ?_ ?_ ?_ ?_
    · exact hasOnly_cons.mpr ⟨⟨"type", by decide, rfl⟩, hasOnly_singleton (by decide) _⟩
    · intro keyword hkeyword value hentry
      simp only [List.mem_cons, Prod.mk.injEq, Key.text.injEq, List.not_mem_nil, or_false] at hentry
      rcases hentry with ⟨rfl, rfl⟩ | ⟨rfl, -⟩
      · exact .of_typeName rfl
      · exact absurd hkeyword (by decide)
    all_goals simp
    exact hsound
  | nonNull inner ih =>
    obtain ⟨type, hinner, rfl⟩ := resolve_eq_ok_nonNull h
    have hsound := ih hinner hplain hdefined
    exact hsound
  | other kind => cases h

end TypeRef

/-! ## Properties -/

namespace Field

variable {definitions : Members} {field : Field} {property : Property}

/-- The schema of a property is that of its type with keywords added. -/
theorem exists_keywords (h : (field.property []).result = .ok property) :
    ∃ type keywords, field.type.resolve false = .ok type ∧
      (directiveKeywords type.jsonType? [] [] field.directives).result = .ok keywords ∧
      HasOnly plainKeywords ((.text "title", .text field.name) :: keywords) ∧
      property.schema
        = Entries.merge type.schema ((.text "title", .text field.name) :: keywords) := by
  obtain ⟨type, keywords, htype, hkeywords, rfl⟩ := property_eq_ok h
  exact ⟨type, keywords, htype, hkeywords,
    hasOnly_cons.mpr ⟨⟨"title", by decide, rfl⟩,
      (hasOnly_directiveKeywords hkeywords).mono Keyword.keys_subset⟩, rfl⟩

/-- A property is sound if its expression can be searched for. -/
theorem sound (h : (field.property []).result = .ok property)
    (hplain : ∀ name ∈ field.type.name?, Reference.IsPlain name)
    (hresolves : Resolves definitions (.object property.schema))
    (hpattern : ∀ value, (.text "pattern", value) ∈ property.schema → IsSearchable value) :
    Sound definitions (.object property.schema) := by
  obtain ⟨type, keywords, htype, hkeywords, honly, heq⟩ := exists_keywords h
  rw [heq] at hresolves hpattern ⊢
  have hsound : Sound definitions (.object type.schema) :=
    TypeRef.sound htype hplain fun name hname hbuiltin =>
      hresolves.exists_find? (TypeRef.hasEntry_of_name? htype hname hbuiltin honly)
  refine hsound.merge honly fun keyword value hentry hmerged => ?_
  by_cases hkeyword : keyword = "pattern"
  · subst hkeyword
    exact .pattern (hpattern value hmerged)
  rcases List.mem_cons.mp hentry with heq | hentry
  · cases heq
    exact .free (by decide)
  · obtain hnil | ⟨directive, -, -, hentry⟩ := mem_directiveKeywords hkeywords hentry
    · cases hnil
    · obtain ⟨argument, -, hargument⟩ := Directive.exists_argument hentry
      exact argument.suits hargument hkeyword

end Field

/-! ## Definitions -/

namespace Definition

variable {definitions : Members} {definition : Definition} {body : Members}

theorem suits_of_mem_objectEntries {name keyword : String} {properties : List Property}
    {isInput : Bool} (hkeyword : keyword ∈ plainKeywords) {value : Datum}
    (h : (.text keyword, value) ∈ objectEntries name properties isInput) :
    Suits keyword value := by
  rw [objectEntries_eq] at h
  simp only [List.mem_append, List.mem_cons, List.not_mem_nil, or_false, Prod.mk.injEq,
    Key.text.injEq] at h
  rcases h with ((⟨rfl, -⟩ | ⟨rfl, rfl⟩ | ⟨rfl, -⟩) | h) | h
  · exact .free (by decide)
  · exact .of_typeName rfl
  · exact absurd hkeyword (by decide)
  · split_ifs at h
    · cases h
    · cases List.mem_singleton.mp h
      exact .required _
  · split_ifs at h
    · cases List.mem_singleton.mp h
      exact .free (by decide)
    · cases h

theorem sound_object {name : String} {fields : List Field} {isInput : Bool}
    (h : (objectSchema name fields isInput []).result = .ok body)
    (hparts : ∀ schemas, (.text "properties", .object schemas) ∈ body →
      ∀ entry ∈ schemas, Sound definitions entry.2) : Sound definitions (.object body) := by
  obtain ⟨properties, -, rfl⟩ := objectSchema_eq_ok h
  have honly := hasOnly_objectEntries name properties isInput
  exact .keywords (honly.mono (by decide))
    (fun keyword hkeyword value hentry => suits_of_mem_objectEntries hkeyword hentry)
    (fun value h => (honly.not_mem (by decide) value h).elim)
    (fun value h => ⟨_, eq_of_mem_objectEntries h⟩) hparts
    (fun value h => (honly.not_mem (by decide) value h).elim)
    fun branches h => (honly.not_mem (by decide) (.list branches) h).elim

theorem sound_union {name : String} {directives : List Directive} {members : List TypeRef}
    (h : ((union name directives members).schema []).result = .ok body)
    (hplain : ∀ member ∈ members, ∀ name ∈ member.name?, Reference.IsPlain name)
    (hresolves : Resolves definitions (.object body)) : Sound definitions (.object body) := by
  obtain ⟨types, htypes, rfl⟩ := unionSchema_eq_ok h
  have hbranches : ∀ type ∈ types, Sound definitions (.object type.schema) := by
    intro type htype
    obtain ⟨member, hmember, hresolve⟩ := exists_mem_of_forall₂ (forall₂_of_mapM htypes) htype
    have honeOf : (Key.text "oneOf", Datum.list (types.map fun type => .object type.schema))
        ∈ unionEntries name types := by simp [unionEntries]
    have hbranch : Resolves definitions (.object type.schema) :=
      (hresolves.entry honeOf).item (List.mem_map_of_mem htype)
    exact TypeRef.sound hresolve (hplain member hmember) fun name hname hbuiltin =>
      hbranch.exists_find? (TypeRef.hasEntry_of_name? hresolve hname hbuiltin (hasOnly_nil _))
  have honly := hasOnly_unionEntries name types
  refine .keywords (honly.mono (by decide)) (fun keyword hkeyword value hentry => ?_)
    (fun value h => (honly.not_mem (by decide) value h).elim)
    (fun value h => (honly.not_mem (by decide) value h).elim)
    (fun properties h => (honly.not_mem (by decide) (.object properties) h).elim) ?_ ?_
  · simp only [unionEntries, List.mem_cons, Prod.mk.injEq, Key.text.injEq, List.not_mem_nil,
      or_false] at hentry
    rcases hentry with ⟨rfl, rfl⟩ | ⟨rfl, rfl⟩ | ⟨rfl, -⟩
    · exact .free (by decide)
    · exact .of_typeName rfl
    · exact absurd hkeyword (by decide)
  · simp [unionEntries]
  · simpa [unionEntries] using hbranches

/-- The schema of a definition is sound if the expressions in it can be searched for. -/
theorem sound (h : (definition.schema []).result = .ok body)
    (hplain : ∀ type ∈ definition.types, ∀ name ∈ type.name?, Reference.IsPlain name)
    (hresolves : Resolves definitions (.object body))
    (hpattern : ∀ properties field entries, (.text "properties", .object properties) ∈ body →
      (.text field, .object entries) ∈ properties →
      ∀ value, (.text "pattern", value) ∈ entries → IsSearchable value) :
    Sound definitions (.object body) := by
  have hparts : ∀ schemas, (.text "properties", .object schemas) ∈ body →
      ∀ entry ∈ schemas, Sound definitions entry.2 := by
    intro schemas hschemas entry hentry
    obtain ⟨field, hfield, property, hproperty, rfl⟩ := exists_field h hschemas hentry
    have hinside := (hresolves.entry hschemas).entry hentry
    rw [Field.propertySchema_eq hproperty] at hentry hinside ⊢
    exact Field.sound hproperty
      (hplain _ (List.mem_append_left _ (List.mem_map_of_mem hfield))) hinside
      (hpattern schemas _ _ hschemas hentry)
  cases definition with
  | scalar name =>
    cases h
    refine .of_plain
      (hasOnly_cons.mpr ⟨⟨"title", by decide, rfl⟩, hasOnly_singleton (by decide) _⟩)
      fun keyword value hentry => ?_
    simp only [List.mem_cons, Prod.mk.injEq, Key.text.injEq, List.not_mem_nil, or_false] at hentry
    rcases hentry with ⟨rfl, rfl⟩ | ⟨rfl, rfl⟩
    · exact .free (by decide)
    · exact .of_typeName rfl
  | «enum» name directives values =>
    cases h
    refine .of_plain ?_ fun keyword value hentry => ?_
    · simp only [hasOnly_cons, hasOnly_nil, and_true, Key.text.injEq]
      decide
    simp only [List.mem_cons, Prod.mk.injEq, Key.text.injEq, List.not_mem_nil, or_false] at hentry
    rcases hentry with ⟨rfl, rfl⟩ | ⟨rfl, rfl⟩ | ⟨rfl, rfl⟩
    · exact .free (by decide)
    · exact .of_typeName rfl
    · have hnames : values.map (fun value => Datum.text value.name)
          = (values.map (·.name)).map .text := by simp
      rw [hnames]
      exact .enum _
  | «union» name directives members =>
    exact sound_union h (fun member hmember => hplain member (List.mem_append_right _ hmember))
      hresolves
  | object | «interface» | inputObject => exact sound_object h hparts
  | directive | other => cases h

end Definition

/-! ## Documents -/

namespace Document

theorem ofText_of_parse? {source : String} {document : Document}
    (h : parse? (Cleaning.cleanText source) = some document) (options : Options) :
    ofText source options = document.schema options := by
  simp only [ofText]
  rw [if_neg (Cleaning.ne_empty_of_parse? h), h]

variable {document : Document} {definitions : Members} {level : String → Nat} {top : Nat}
  {checks : Table Check}

end Document

/-! ## Registries -/

namespace Registry

/-- A type with a text under a pattern and a list of its own values. -/
def patternDocument (pattern : Literal) : Document :=
  [.object "A" [] []
    [⟨⟨"a", .named "String", none, [⟨"validate", [⟨"pattern", pattern⟩]⟩]⟩, []⟩,
      ⟨⟨"b", .list (.named "A"), none, []⟩, []⟩]]

/-- The definitions in the schema of the type. -/
def patternDefinitions (pattern : Datum) : Members :=
  [("A", .object [("title", .text "A"), ("type", .text "object"),
    ("properties", .object [
      ("a", .object [("type", .text "string"), ("title", .text "a"), ("pattern", pattern)]),
      ("b", .object [("type", .text "array"),
        ("items", .object [("$ref", .text "#/definitions/A")]), ("title", .text "b")])])])]

/-- The schema of the type. -/
def patternSchema (pattern : Datum) : Members :=
  [("$schema", .text Dialect.draft04), ("definitions", .object (patternDefinitions pattern))]

/-- The source of the type, with an expression. -/
def anchoredSource : String := "type A \x7b a: String @validate(pattern: \"^a\") b: [A] \x7d"

section

variable {pattern : Datum}

theorem acyclic_patternDocument (pattern : Literal) (name : String) :
    ¬Relation.TransGen (patternDocument pattern).Contains name name := by
  refine Document.acyclic_of_flat (fun name other hcontains => ?_) name
  obtain ⟨definition, hforce, member, hmember, -⟩ := hcontains
  cases List.mem_singleton.mp (Document.typeName?_of_inForce hforce).1
  cases hmember

end

theorem parse?_anchoredSource :
    Document.parse? (Cleaning.cleanText anchoredSource) = some (patternDocument (.text "^a")) := by
  have hclean : Cleaning.cleanText anchoredSource = anchoredSource := by decide +kernel
  rw [hclean]
  cbv

end Registry

end SchemaBridge
