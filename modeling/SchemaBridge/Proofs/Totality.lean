import Mathlib
import SchemaBridge.Proofs.Conformance
import SchemaBridge.Proofs.Envelope
import SchemaBridge.Proofs.Rounding

/-!
# When a document cannot be converted

Without handlers, a conversion fails at the first definition that counts and is no type definition,
and nowhere else: whatever the arguments of directives are, they are read, cast and rounded, or
left out with a notice.

* `Directive.exists_apply`: no argument that is a value is a cause for a fault.
* `Definition.exists_schema`, `Definition.schema_of_unsupported`: which definitions have schemas.
* `Document.schemas_eq_error_iff`: the fault is that of the first definition that has none.
* `Document.schema_fails_iff`: when a document cannot be converted, and why.
-/

namespace SchemaBridge

/-! ## Documents of types and values -/

/-- The definition is of one of the six kinds of type definitions. -/
def Definition.isSupported : Definition → Bool
  | .directive .. | .other _ => false
  | _ => true

/-- Type references stand in the places of types, and values in those of values. -/
structure Document.IsWellFormed (document : Document) : Prop where
  types : ∀ definition ∈ document, ∀ type ∈ definition.types, type.name?.isSome = true
  values : ∀ definition ∈ document, ∀ field ∈ definition.fields,
    ∀ directive ∈ field.directives, ∀ argument ∈ directive.arguments,
      argument.value.isValue = true

theorem Conversion.result_bind_eq_error {α β : Type} {first : Conversion α}
    {next : α → Conversion β} {fault : Fault} :
    (first >>= next).result = .error fault
      ↔ first.result = .error fault
        ∨ ∃ middle, first.result = .ok middle ∧ (next middle).result = .error fault := by
  cases hfirst : first.result with
  | error fault' => simp [bind_error hfirst]
  | ok middle => simp [bind_ok hfirst]

/-! ## Arguments -/

theorem Directive.exists_apply {directive : Directive}
    (h : ∀ argument ∈ directive.arguments, argument.value.isValue = true)
    (jsonType : Option String) :
    ∃ keywords, (directive.apply jsonType []).result = .ok keywords := by
  have hreadable : ∀ argument ∈ directive.arguments, argument.isReadable jsonType = true := by
    intro argument hargument
    rw [Argument.isReadable, h argument hargument, Bool.or_true]
  rw [Directive.apply, Handlers.find?_nil]
  split_ifs
  · dsimp only
    rw [Handler.validate_of_readable hreadable]
    exact ⟨directive.keywords jsonType, rfl⟩
  · exact ⟨[], rfl⟩

theorem Field.exists_directiveKeywords {directives : List Directive}
    (h : ∀ directive ∈ directives, ∀ argument ∈ directive.arguments,
      argument.value.isValue = true) (jsonType : Option String) (keywords : Members) :
    ∃ result, (directiveKeywords jsonType [] keywords directives).result = .ok result := by
  induction directives generalizing keywords with
  | nil => exact ⟨keywords, rfl⟩
  | cons directive rest ih =>
    obtain ⟨hfirst, hrest⟩ := List.forall_mem_cons.mp h
    obtain ⟨added, hadded⟩ := Directive.exists_apply hfirst jsonType
    obtain ⟨result, hresult⟩ := ih hrest (Entries.merge keywords added)
    exact ⟨result, Conversion.result_bind_eq_ok.mpr ⟨added, hadded, hresult⟩⟩

theorem Field.exists_property {field : Field} (htype : field.type.name?.isSome = true)
    (h : ∀ directive ∈ field.directives, ∀ argument ∈ directive.arguments,
      argument.value.isValue = true) :
    ∃ property, (field.property []).result = .ok property := by
  obtain ⟨name, hname⟩ := Option.isSome_iff_exists.mp htype
  obtain ⟨type, htype⟩ := TypeRef.exists_resolve hname false
  obtain ⟨keywords, hkeywords⟩ := exists_directiveKeywords h type.jsonType? []
  exact ⟨_, Conversion.result_bind_eq_ok.mpr ⟨type, htype,
    Conversion.result_bind_eq_ok.mpr ⟨keywords, hkeywords, rfl⟩⟩⟩

/-! ## Definitions -/

namespace Definition

theorem exists_schema {definition : Definition} (h : definition.isSupported = true)
    (htypes : ∀ type ∈ definition.types, type.name?.isSome = true)
    (hvalues : ∀ field ∈ definition.fields, ∀ directive ∈ field.directives,
      ∀ argument ∈ directive.arguments, argument.value.isValue = true) :
    ∃ body, (definition.schema []).result = .ok body := by
  have htyped : ∃ name, definition.typeName? = some name := by
    cases definition with
    | directive | other => cases h
    | _ => exact ⟨_, rfl⟩
  obtain ⟨name, hname⟩ := htyped
  refine exists_schema_of_parts hname (fun field hfield => ?_) fun member hmember => ?_
  · exact Field.exists_property (htypes _ (List.mem_append_left _ (List.mem_map_of_mem hfield)))
      (hvalues field hfield)
  · obtain ⟨inner, hinner⟩ :=
      Option.isSome_iff_exists.mp (htypes member (List.mem_append_right _ hmember))
    exact TypeRef.exists_resolve hinner false

theorem schema_of_unsupported {definition : Definition} (h : definition.isSupported = false)
    (handlers : Handlers) :
    (definition.schema handlers).result
      = .error (.unsupportedDefinition definition.kind.title) := by
  cases definition with
  | directive | other => rfl
  | _ => cases h

end Definition

/-! ## Documents -/

namespace Document

/-- The definition is the first of the document that counts and has no schema. -/
def FailsAt (document : Document) (definition : Definition) : Prop :=
  ∃ before after, document = before ++ definition :: after
    ∧ (∀ earlier ∈ before, earlier.isIgnored = true ∨ earlier.isSupported = true)
    ∧ definition.isIgnored = false ∧ definition.isSupported = false

theorem failsAt_cons {first definition : Definition} {rest : Document} :
    FailsAt (first :: rest) definition
      ↔ (first = definition ∧ first.isIgnored = false ∧ first.isSupported = false)
        ∨ ((first.isIgnored = true ∨ first.isSupported = true) ∧ FailsAt rest definition) := by
  constructor
  · rintro ⟨before, after, heq, hbefore, hfails⟩
    cases before with
    | nil =>
      cases heq
      exact .inl ⟨rfl, hfails⟩
    | cons earlier before =>
      cases heq
      obtain ⟨hfirst, hbefore⟩ := List.forall_mem_cons.mp hbefore
      exact .inr ⟨hfirst, before, after, rfl, hbefore, hfails⟩
  · rintro (⟨rfl, hfails⟩ | ⟨hfirst, before, after, rfl, hbefore, hfails⟩)
    · exact ⟨[], rest, rfl, by simp, hfails⟩
    · exact ⟨first :: before, after, rfl, List.forall_mem_cons.mpr ⟨hfirst, hbefore⟩, hfails⟩

theorem exists_failsAt_iff {document : Document} :
    (∃ definition, document.FailsAt definition)
      ↔ ∃ definition ∈ document, definition.isIgnored = false ∧ definition.isSupported = false := by
  induction document with
  | nil => simp [FailsAt]
  | cons first rest ih =>
    simp only [failsAt_cons, exists_or, exists_and_left, ih, List.exists_mem_cons_iff]
    cases first.isIgnored <;> cases first.isSupported <;> simp

variable {document : Document}

theorem IsWellFormed.of_cons {first : Definition} {rest : Document}
    (h : IsWellFormed (first :: rest)) : IsWellFormed rest :=
  ⟨fun definition hmem => h.types definition (List.mem_cons_of_mem _ hmem),
    fun definition hmem => h.values definition (List.mem_cons_of_mem _ hmem)⟩

theorem IsWellFormed.exists_schema {definition : Definition} (h : document.IsWellFormed)
    (hmem : definition ∈ document) (hsupported : definition.isSupported = true) :
    ∃ body, (definition.schema []).result = .ok body :=
  Definition.exists_schema hsupported (h.types definition hmem) (h.values definition hmem)

/-- The definitions that count are converted one after another, up to the first that cannot be. -/
theorem schemas_eq_error_iff (h : document.IsWellFormed) (built : Members) (fault : Fault) :
    (schemas [] built document.kept).result = .error fault
      ↔ ∃ definition, document.FailsAt definition
          ∧ fault = .unsupportedDefinition definition.kind.title := by
  induction document generalizing built with
  | nil => simp [kept, schemas, FailsAt, Conversion.result_pure]
  | cons first rest ih =>
    have hrest (built : Members) : (schemas [] built (kept rest)).result = .error fault
        ↔ ∃ definition, FailsAt rest definition
            ∧ fault = .unsupportedDefinition definition.kind.title := ih h.of_cons built
    -- An ignored definition is not looked at, also if it has no schema form.
    by_cases hignored : first.isIgnored = true
    · have hkept : kept (first :: rest) = kept rest := List.filter_cons_of_neg (by simp [hignored])
      simp [hkept, hrest, failsAt_cons, hignored]
    · have hkept : kept (first :: rest) = first :: kept rest :=
        List.filter_cons_of_pos (by simp [hignored])
      rw [hkept]
      cases hsupported : first.isSupported with
      | true =>
        obtain ⟨body, hbody⟩ := h.exists_schema List.mem_cons_self hsupported
        rw [schemas_cons hbody]
        simp [hrest, failsAt_cons, hsupported]
      | false =>
        have hfault := Definition.schema_of_unsupported hsupported []
        rw [schemas, Conversion.bind_error hfault]
        simp [failsAt_cons, hsupported, hignored, eq_comm]

theorem schema_eq_error_iff (h : document.IsWellFormed) (schemaUri : Option String)
    (fault : Fault) :
    (document.schema { schemaUri }).result = .error fault
      ↔ ∃ definition, document.FailsAt definition
          ∧ fault = .unsupportedDefinition definition.kind.title := by
  rw [← schemas_eq_error_iff h [] fault]
  by_cases hnil : document.kept = []
  · rw [schema_of_ignored (kept_eq_nil_iff.mp hnil), hnil]
    rfl
  · rw [schema_eq _ hnil, Conversion.result_bind_eq_error]
    simp [Conversion.result_pure]

/-- Without handlers, the conversion of a document of types and values fails just if a definition
that is not ignored is none of the six kinds of type definitions, and then the fault names the kind
of the first one. The arguments of directives are no cause: what cannot be cast is left out, because
it stands for no finite number, and what bounds integers can be rounded. -/
theorem schema_fails_iff (h : document.IsWellFormed) (schemaUri : Option String) :
    ((∃ fault, (document.schema { schemaUri }).result = .error fault)
        ↔ ∃ definition ∈ document,
            definition.isIgnored = false ∧ definition.isSupported = false)
      ∧ (∀ fault, (document.schema { schemaUri }).result = .error fault
          ↔ ∃ before definition after, document = before ++ definition :: after
              ∧ (∀ earlier ∈ before, earlier.isIgnored = true ∨ earlier.isSupported = true)
              ∧ definition.isIgnored = false ∧ definition.isSupported = false
              ∧ fault = .unsupportedDefinition definition.kind.title)
      ∧ (∀ keyword value, (∃ taken, Keyword.cast keyword value = .ok taken)
          ∨ ∃ cause, Keyword.cast keyword value = .error (.notANumber cause)
              ∨ Keyword.cast keyword value = .error (.notFinite cause))
      ∧ ∀ keyword key value taken, Keyword.key? "integer" keyword = some key →
          Keyword.cast keyword value = .ok taken →
            Keyword.roundHalfUp taken = .ok (Keyword.settle "integer" taken) := by
  have hfault := schema_eq_error_iff h schemaUri
  refine ⟨?_, fun fault => ?_, Keyword.cast_spec, fun keyword key value taken hkey hcast =>
    Keyword.roundHalfUp_cast hkey hcast⟩
  · rw [← exists_failsAt_iff]
    simp only [hfault]
    constructor
    · rintro ⟨-, definition, hfails, -⟩
      exact ⟨definition, hfails⟩
    · rintro ⟨definition, hfails⟩
      exact ⟨_, definition, hfails, rfl⟩
  · rw [hfault]
    constructor
    · rintro ⟨definition, ⟨before, after, heq, hbefore, hignored, hsupported⟩, hfault⟩
      exact ⟨before, definition, after, heq, hbefore, hignored, hsupported, hfault⟩
    · rintro ⟨before, definition, after, heq, hbefore, hignored, hsupported, hfault⟩
      exact ⟨definition, ⟨before, after, heq, hbefore, hignored, hsupported⟩, hfault⟩

/-- An extension has no schema form; what stands before it has, whatever its directives say. -/
theorem schema_fails_at_extension :
    let document : Document :=
      [.directive "validate" [] false [], .scalar "StringValidationFormat" [],
        .object "A" [] [] [⟨⟨"a", .nonNull (.named "Int"), none,
          [⟨"validate", [⟨"min", .text "nan"⟩, ⟨"max", .list [.null, .object []]⟩,
            ⟨"min", .float "2.5"⟩, ⟨"max", .variableUse "v"⟩]⟩]⟩, []⟩],
        .other .objectTypeExtension, .other .schemaDefinition]
    document.IsWellFormed
      ∧ (document.schema { schemaUri := none }).result
          = .error (.unsupportedDefinition "ObjectTypeExtensionNode") := by
  intro document
  have hwellFormed : document.IsWellFormed := by
    constructor
    · simp [document, Definition.types, Definition.fields, Definition.members, TypeRef.name?]
    · simp [document, Definition.fields, Literal.isValue, Literal.areValues, Literal.haveValues]
  have htitle : NodeKind.objectTypeExtension.title = "ObjectTypeExtensionNode" := by
    decide +kernel
  refine ⟨hwellFormed, ((schema_fails_iff hwellFormed none).2.1 _).mpr ?_⟩
  refine ⟨document.take 3, .other .objectTypeExtension, [.other .schemaDefinition], rfl, ?_, rfl,
    rfl, ?_⟩
  · simp [document, Definition.isSupported, Definition.isIgnored]
  · rw [Definition.kind, htitle]

end Document

end SchemaBridge
