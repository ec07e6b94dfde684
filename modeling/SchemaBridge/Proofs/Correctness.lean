import Mathlib
import SchemaBridge.Proofs.Conformance
import SchemaBridge.Proofs.Decisions
import SchemaBridge.Proofs.Parsing

/-!
# Schemas of closed documents

The schema of a definition allows just the values that conform to the definition. It is proved for
one value at a time, given it for all values that are less deep: first for the definitions that are
no unions, then for what refers to them, then for unions, then for everything.

* `Rendering.types_judge`: the schema of a type reference, given those of the definitions.
* `Rendering.definition_judges`, `Rendering.union_judges`: the schema of a definition.
* `Rendering.all_judge`: all schemas, for values of every depth.
* `Document.IsClosed.isValid_iff_conforms`: the answer of a validator.
* `Document.answers_iff_conforms_of_parse?`: the same for a document that is read from a text, whose
  names need not be asked about.
-/

namespace SchemaBridge

open Outcome Schema

/-! ## Types -/

namespace TypeName

variable {data : Datum}

theorem accepts_null_iff : accepts null data = true ↔ data = .null := by
  cases data <;> simp [accepts]

theorem accepts_string_iff : accepts string data = true ↔ ∃ value, data = .text value := by
  cases data <;> simp [accepts]

theorem accepts_anything : accepts anything data = true := by
  cases data <;> rfl

end TypeName

/-- A builtin scalar other than `DateTime` has a type by its name. -/
theorem TypeRef.exists_primitive {name : String} (h : isBuiltin name = true)
    (hname : name ≠ Keyword.dateTime) :
    ∃ jsonType type, Entries.find? Keyword.primitives name = some jsonType ∧
      TypeName.ofName? .registered jsonType = some type ∧
      ∀ data, type.accepts data = true ↔ IsScalar name data := by
  rw [isBuiltin, Bool.or_eq_true, decide_eq_true_iff] at h
  obtain ⟨jsonType, hfind⟩ := Option.isSome_iff_exists.mp (h.resolve_left hname)
  refine ⟨jsonType, ?_⟩
  obtain ⟨key, hmem, hkey⟩ := Entries.mem_of_find? hfind
  rw [beq_iff_eq] at hkey
  subst hkey
  simp only [Keyword.primitives, List.mem_cons, Prod.mk.injEq, List.not_mem_nil, or_false] at hmem
  rcases hmem with ⟨rfl, rfl⟩ | ⟨rfl, rfl⟩ | ⟨rfl, rfl⟩ | ⟨rfl, rfl⟩ | ⟨rfl, rfl⟩
  · refine ⟨.integer, rfl, rfl, fun data => ?_⟩
    cases data with
    | number value => cases value <;> simp [TypeName.accepts, IsScalar, Datum.int]
    | _ => simp [TypeName.accepts, IsScalar, Datum.int]
  · refine ⟨.number, rfl, rfl, fun data => ?_⟩
    cases data <;> simp [TypeName.accepts, IsScalar]
  · refine ⟨.string, rfl, rfl, fun data => ?_⟩
    cases data <;> simp [TypeName.accepts, IsScalar]
  · refine ⟨.boolean, rfl, rfl, fun data => ?_⟩
    cases data <;> simp [TypeName.accepts, IsScalar]
  · refine ⟨.string, rfl, rfl, fun data => ?_⟩
    cases data <;> simp [TypeName.accepts, IsScalar]

/-! ## Renderings -/

/-- A closed document, with the schemas of its definitions in layers, and with checks that have
nothing to do with them. -/
structure Rendering (document : Document) (checks : Table Check) (definitions : Members)
    (level : String → Nat) (top : Nat) : Prop where
  closed : document.IsClosed
  renders : document.Renders [] definitions
  layered : Layered level top definitions
  top_le : top ≤ 2 * definitions.length + 3
  level_lt : ∀ name, level name < top
  silent : ∀ name, name ≠ ExtendedFormat.keyword → Entries.find? checks name = none

/-- The schema has nothing to report of the value just if the condition holds. -/
def Judges (checks : Table Check) (definitions entries : Members) (data : Datum)
    (condition : Prop) : Prop :=
  ∀ extent, Decides (report checks definitions extent (.object entries) data) condition

/-- Every schema of a type reference says of the value whether it conforms to the type. If not
`deep`, only references to definitions that are no unions are meant. -/
def TypesJudge (document : Document) (checks : Table Check) (definitions : Members) (deep : Bool)
    (data : Datum) : Prop :=
  ∀ ⦃type : TypeRef⦄ ⦃inList : Bool⦄ ⦃resolved : TypeSchema⦄,
    type.resolve inList = .ok resolved → document.Admits type →
    (deep = false → ∀ name ∈ type.reference?, ∀ definition,
      document.inForce name = some definition → definition.isUnion = false) →
    Judges checks definitions resolved.schema data (type.Conforms document deep inList data)

/-- Every schema of a definition says of the value whether it conforms to the definition. If not
`deep`, only definitions that are no unions are meant. -/
def DefinitionsJudge (document : Document) (checks : Table Check) (definitions : Members)
    (deep : Bool) (data : Datum) : Prop :=
  ∀ ⦃name : String⦄ ⦃definition : Definition⦄ ⦃entries : Members⦄,
    document.inForce name = some definition →
    Entries.find? definitions name = some (.object entries) →
    (deep = false → definition.isUnion = false) →
    Judges checks definitions entries data (definition.Conforms document deep data)

namespace Rendering

variable {document : Document} {checks : Table Check} {definitions : Members}
  {level : String → Nat} {top bound : Nat} {entries : Members} {data : Datum} {condition : Prop}

theorem top_pos (h : Rendering document checks definitions level top) : 0 < top :=
  Nat.zero_lt_of_lt (h.level_lt "")

/-- What a schema says is what its entries say. -/
theorem judges_of_entries (h : Rendering document checks definitions level top)
    (honly : HasOnly generatedKeywords entries)
    (hgen : Generated level top bound (.object entries)) (hbound : bound ≤ top)
    (hentries : ∀ extent, Decides (.each extent entries fun entry =>
      entryOutcome (bare checks definitions) (reportTask checks definitions extent entries data)
        entry.1 entry.2) condition) :
    Judges checks definitions entries data condition := by
  intro extent
  rw [report_of_keywords h.layered h.top_le honly hgen hbound]
  exact hentries extent

theorem entry_decides (h : Rendering document checks definitions level top) {name : String}
    (hname : name ≠ ExtendedFormat.keyword) {rule : Rule}
    (hrule : Vocabulary.rule? .draft4 name = some rule) {extent : Extent} {value : Datum}
    (hdecides : Decides (rule (reportTask checks definitions extent entries data) value) condition) :
    Decides (entryOutcome (bare checks definitions)
      (reportTask checks definitions extent entries data) (.text name) value) condition := by
  rw [entryOutcome_report (h.silent name hname), hrule]
  exact hdecides.inside _ _

theorem unknown_decides (h : Rendering document checks definitions level top) {name : String}
    (hname : name ≠ ExtendedFormat.keyword) (hrule : Vocabulary.rule? .draft4 name = none)
    {extent : Extent} {value : Datum} :
    Decides (entryOutcome (bare checks definitions)
      (reportTask checks definitions extent entries data) (.text name) value) True := by
  rw [entryOutcome_of_unknown rfl (h.silent name hname) hrule]
  exact .valid

/-- The entry for a single type. -/
theorem type_decides (h : Rendering document checks definitions level top) {name : String}
    {type : TypeName} (htype : TypeName.ofName? .registered name = some type) (extent : Extent) :
    Decides (entryOutcome (bare checks definitions)
      (reportTask checks definitions extent entries data) (.text "type") (.text name))
      (type.accepts data = true) := by
  have hnames : TypeName.names? (.text name) = some ([name].map .text) := rfl
  have htypes : [name].map (TypeName.ofName? .registered) = [type].map some := by simp [htype]
  exact h.entry_decides (by decide) rfl
    ((typeOutcome_decides hnames htypes data).congr (by simp))

/-! ### Type references -/

theorem builtin_judges (h : Rendering document checks definitions level top) {name : String}
    (hbuiltin : TypeRef.isBuiltin name = true) (inList : Bool) (data : Datum) :
    Judges checks definitions (TypeRef.nameSchema name inList) data
      (TypeRef.IsScalar name data ∨
        (inList = true ∧ name ≠ Keyword.dateTime ∧ data = .null)) := by
  have honly := TypeRef.hasOnly_nameSchema hbuiltin inList
  refine h.judges_of_entries (honly.mono (by decide)) (.of_plain (honly.mono (by decide)) h.top_pos)
    le_rfl fun extent => ?_
  by_cases hdate : name = Keyword.dateTime
  · subst hdate
    have hschema : TypeRef.nameSchema Keyword.dateTime inList
        = [(.text "type", .text "string"), (.text "format", .text "date-time")] := rfl
    rw [hschema]
    refine Decides.congr (.cons (h.type_decides rfl extent)
      (.cons (h.unknown_decides (by decide) rfl) (.nil _ _))) ?_
    simp [TypeName.accepts_string_iff, TypeRef.IsScalar, Keyword.dateTime]
  · obtain ⟨jsonType, type, hfind, htype, haccepts⟩ := TypeRef.exists_primitive hbuiltin hdate
    have hschema : TypeRef.nameSchema name inList
        = [(.text "type", if inList then .list [.text jsonType, .text "null"]
            else .text jsonType)] := by
      rw [TypeRef.nameSchema, if_neg hdate, hfind]
    rw [hschema]
    cases inList with
    | false =>
      refine Decides.congr (.cons (h.type_decides htype extent) (.nil _ _)) ?_
      simp [haccepts]
    | true =>
      have hnames : TypeName.names? (.list [.text jsonType, .text "null"])
          = some ([jsonType, "null"].map .text) := rfl
      have htypes : [jsonType, "null"].map (TypeName.ofName? .registered)
          = [type, .null].map some := by
        rw [List.map_cons, htype]
        rfl
      refine Decides.congr (.cons (h.entry_decides (by decide) rfl
        (typeOutcome_decides hnames htypes data)) (.nil _ _)) ?_
      simp [haccepts, TypeName.accepts_null_iff, hdate]

theorem list_judges (h : Rendering document checks definitions level top) {item : Members}
    (hgen : Generated level top top (.object item)) {condition : Datum → Prop}
    (hitem : ∀ element, element.depth < data.depth →
      Judges checks definitions item element (condition element)) :
    Judges checks definitions [(.text "type", .text "array"), (.text "items", .object item)] data
      (∃ items, data = .list items ∧ ∀ element ∈ items, condition element) := by
  have honly : HasOnly generatedKeywords
      [(.text "type", .text "array"), (.text "items", .object item)] :=
    hasOnly_cons.mpr ⟨⟨"type", by decide, rfl⟩,
      hasOnly_cons.mpr ⟨⟨"items", by decide, rfl⟩, hasOnly_nil _⟩⟩
  refine h.judges_of_entries honly (.keywords h.top_pos honly ?_ ?_ ?_) le_rfl fun extent => ?_
  · simpa using hgen
  · simp
  · simp
  · have hitems (entries : Members) :
        Decides (itemsOutcome (reportTask checks definitions extent entries data) (.object item))
          (∀ items, data = .list items → ∀ element ∈ items, condition element) :=
      itemsOutcome_decides rfl hgen fun items hdata element helement =>
        hitem element (by
          cases hdata
          exact Datum.depth_lt_of_mem_list helement) extent
    refine Decides.congr (.cons (h.type_decides rfl extent)
      (.cons (h.entry_decides (by decide) rfl (hitems _)) (.nil _ _))) ?_
    cases data <;> simp [TypeName.accepts]

theorem generated (h : Rendering document checks definitions level top) {type : TypeRef}
    {inList : Bool} {resolved : TypeSchema} (hresolve : type.resolve inList = .ok resolved)
    (hadmits : document.Admits type) :
    Generated level top top (.object resolved.schema) := by
  obtain ⟨name, hname, -, hplain⟩ := hadmits
  refine TypeRef.generated hresolve (fun name' hname' => ?_) h.level_lt h.top_pos
    fun name _ => h.level_lt name
  rw [Option.mem_def] at hname hname'
  rw [hname] at hname'
  cases hname'
  exact hplain

/-- The schema of a type reference, given those of the definitions, and of all that is for values
less deep. -/
theorem types_judge (h : Rendering document checks definitions level top) {deep : Bool}
    (hdefinitions : DefinitionsJudge document checks definitions deep data)
    (hparts : ∀ part : Datum, part.depth < data.depth →
      TypesJudge document checks definitions true part) :
    TypesJudge document checks definitions deep data := by
  intro type inList resolved hresolve hadmits hflat
  induction type generalizing inList resolved with
  | named name =>
    cases hresolve
    cases hbuiltin : TypeRef.isBuiltin name with
    | true =>
      rw [TypeRef.conforms_builtin hbuiltin]
      exact h.builtin_judges hbuiltin inList data
    | false =>
      obtain ⟨name', hname, hknows, hplain⟩ := hadmits
      cases hname
      obtain ⟨definition, hforce⟩ := h.closed.exists_inForce hbuiltin hknows
      obtain ⟨entries, hentries, hfind⟩ := h.renders.find?_of_inForce hforce
      rw [TypeRef.conforms_named hbuiltin, TypeRef.nameSchema_of_reference hbuiltin]
      intro extent
      have hgen : Generated level top top (.object [(.text "$ref", Reference.toDefinition name)]) :=
        .reference rfl rfl hplain (h.level_lt name)
      rw [report_reference h.layered h.top_le (h.silent _ (by decide)) rfl hgen le_rfl hplain hfind]
      have hunion : deep = false → definition.isUnion = false := fun hdeep =>
        hflat hdeep name (by simp [TypeRef.reference?, hbuiltin]) definition hforce
      refine (hdefinitions hforce hfind hunion extent).congr ?_
      simp [hforce]
  | list item ih =>
    obtain ⟨type, hitem, rfl⟩ := TypeRef.resolve_eq_ok_list hresolve
    rw [TypeRef.conforms_list]
    exact h.list_judges (h.generated hitem hadmits) fun element helement =>
      hparts element helement hitem hadmits fun hdeep => absurd hdeep (by decide)
  | nonNull inner ih =>
    obtain ⟨type, hinner, rfl⟩ := TypeRef.resolve_eq_ok_nonNull hresolve
    have hinner_judges := ih hinner hadmits hflat
    rwa [← TypeRef.conforms_nonNull] at hinner_judges
  | other kind => cases hresolve

/-! ### Definitions -/

/-- The schema of a property is that of the type of its field, apart from the title. -/
theorem property_judges (h : Rendering document checks definitions level top) {field : Field}
    {property : Property} (hproperty : (field.property []).result = .ok property)
    (hundirected : field.directives = []) (hadmits : document.Admits field.type) :
    property.name = field.name ∧ property.required = field.type.isRequired ∧
      ∀ value, TypesJudge document checks definitions true value → ∀ extent,
        Decides (report checks definitions extent (Definition.propertySchema property) value)
          (field.type.Conforms document true false value) := by
  rw [Field.propertySchema_eq hproperty]
  obtain ⟨type, keywords, htype, hkeywords, rfl⟩ := Field.property_eq_ok hproperty
  rw [hundirected] at hkeywords
  cases hkeywords
  have hgen := h.generated htype hadmits
  refine ⟨rfl, TypeRef.required_eq htype, fun value hvalue extent => ?_⟩
  dsimp only
  rw [Entries.merge_nil, report_insert_title h.layered h.top_le (TypeRef.hasOnly_resolve htype)
    (fun keyword hkeyword => h.silent keyword ?_) hgen le_rfl]
  · exact hvalue htype hadmits (fun hdeep => absurd hdeep (by decide)) extent
  · rintro rfl
    exact absurd hkeyword (by decide)

theorem required_judges (h : Rendering document checks definitions level top) (names : List String)
    (extent : Extent) :
    Decides (.each extent (if names.isEmpty then []
        else [(Key.text "required", Datum.list (names.map .text))]) fun entry =>
      entryOutcome (bare checks definitions) (reportTask checks definitions extent entries data)
        entry.1 entry.2)
      (∀ entries, data = .object entries → ∀ name ∈ names, Entries.has entries (.text name) = true) := by
  cases names with
  | nil => exact (Decides.nil _ _).congr (by simp)
  | cons name rest =>
    exact Decides.congr (.cons (h.entry_decides (by decide) rfl
      (requiredOutcome_decides (name :: rest) extent data)) (.nil _ _)) (by simp)

theorem mark_judges (h : Rendering document checks definitions level top) (isInput : Bool)
    (extent : Extent) :
    Decides (.each extent (if isInput then [(Key.text "input", Datum.bool true)] else [])
      fun entry => entryOutcome (bare checks definitions)
        (reportTask checks definitions extent entries data) entry.1 entry.2) True := by
  cases isInput with
  | false => exact .nil _ _
  | true =>
    exact Decides.congr (.cons (h.unknown_decides (by decide) rfl) (.nil _ _)) (and_self_iff)

/-- The schema of a type with fields. -/
theorem fields_judge (h : Rendering document checks definitions level top) {name : String}
    {fields : List Field} {isInput : Bool}
    (hbody : (Definition.objectSchema name fields isInput []).result = .ok entries)
    (hgen : Generated level top bound (.object entries)) (hbound : bound ≤ top)
    (hnames : (fields.map (·.name)).Nodup)
    (hfields : ∀ field ∈ fields, field.directives = [] ∧ document.Admits field.type)
    (hparts : ∀ part : Datum, part.depth < data.depth →
      TypesJudge document checks definitions true part) :
    Judges checks definitions entries data (HasFields document fields data) := by
  obtain ⟨properties, hproperties, rfl⟩ := Definition.objectSchema_eq_ok hbody
  have hall := (List.forall₂_and_left _ _).mpr ⟨hfields, Conversion.forall₂_of_mapM hproperties⟩
  have hjudges := hall.flip.imp fun property field hfield =>
    h.property_judges hfield.2 hfield.1.1 hfield.1.2
  have hnames' : properties.map (·.name) = fields.map (·.name) := by
    rw [← List.forall₂_eq_eq_eq, List.forall₂_map_left_iff, List.forall₂_map_right_iff]
    exact hjudges.imp fun _ _ hfield => hfield.1
  have honly : HasOnly generatedKeywords (Definition.objectEntries name properties isInput) :=
    (hasOnly_objectEntries _ _ _).mono (by decide)
  have hschemas := hgen.properties honly (mem_objectEntries name properties isInput)
  rw [ofPairs_properties (hnames' ▸ hnames)] at hschemas
  have hvalues (extent : Extent) (entries : Members) :
      Decides (propertiesOutcome (reportTask checks definitions extent entries data)
          (.object (Entries.ofPairs (properties.map fun property =>
            (Key.text property.name, Definition.propertySchema property)))))
        (∀ entries, data = .object entries → ∀ field ∈ fields, ∀ value,
          Entries.find? entries (.text field.name) = some value →
          field.type.Conforms document true false value) := by
    rw [ofPairs_properties (hnames' ▸ hnames)]
    refine propertiesOutcome_decides rfl hschemas (List.forall₂_map_left_iff.mpr
      (hjudges.imp fun property field hfield => ?_))
    obtain ⟨hname, -, hvalue⟩ := hfield
    refine ⟨by rw [hname], fun entries value hdata hfind => ?_⟩
    cases hdata
    exact hvalue value (hparts value (Datum.depth_lt_of_find? hfind)) extent
  have hrequired (entries : Members) :
      (∀ name ∈ (properties.filter (·.required)).map (·.name),
          Entries.has entries (.text name) = true) ↔
        ∀ field ∈ fields, field.type.isRequired = true → Entries.has entries field.name = true := by
    rw [List.forall_mem_map, List.forall_mem_filter]
    refine forall_mem_congr_of_forall₂ (hjudges.imp fun property field hfield => ?_)
    rw [hfield.1, hfield.2.1]
  refine h.judges_of_entries honly hgen hbound fun extent => ?_
  rw [objectEntries_eq]
  refine Decides.congr (.append (.append (.cons (h.unknown_decides (by decide) rfl)
    (.cons (h.type_decides rfl extent)
      (.cons (h.entry_decides (by decide) rfl (hvalues extent _)) (.nil _ _))))
    (h.required_judges _ extent)) (h.mark_judges isInput extent)) ?_
  cases data with
  | object entries =>
    simp only [HasFields, TypeName.accepts, Datum.object.injEq, forall_eq', exists_eq_left',
      true_and, hrequired, forall_and, and_comm]
  | _ => simp [HasFields, TypeName.accepts]

/-- The schema of a definition that is no union. -/
theorem definition_judges (h : Rendering document checks definitions level top) {name : String}
    {definition : Definition} (hforce : document.inForce name = some definition)
    (hfind : Entries.find? definitions name = some (.object entries))
    (hunion : definition.isUnion = false) (deep : Bool)
    (hparts : ∀ part : Datum, part.depth < data.depth →
      TypesJudge document checks definitions true part) :
    Judges checks definitions entries data (definition.Conforms document deep data) := by
  obtain ⟨body, hbody, hfind'⟩ := h.renders.find?_of_inForce hforce
  rw [hfind] at hfind'
  cases hfind'
  have hgen := h.layered name _ hfind
  have hbound := (h.level_lt name).le
  have hmem := (Document.typeName?_of_inForce hforce).1
  have honly : HasOnly generatedKeywords entries :=
    (Definition.hasOnly_schema hbody).mono (by decide)
  cases definition with
  | scalar =>
    cases hbody
    refine h.judges_of_entries honly hgen hbound fun extent => ?_
    refine Decides.congr (.cons (h.unknown_decides (by decide) rfl)
      (.cons (h.type_decides rfl extent) (.nil _ _))) ?_
    simp [TypeName.accepts_anything, Definition.conforms_scalar]
  | «enum» name directives values =>
    cases hbody
    have hvalues := enumOutcome_decides (values.map (·.name)) data
    rw [List.map_map] at hvalues
    refine h.judges_of_entries honly hgen hbound fun extent => ?_
    refine Decides.congr (.cons (h.unknown_decides (by decide) rfl)
      (.cons (h.type_decides rfl extent)
        (.cons (h.entry_decides (by decide) rfl hvalues) (.nil _ _)))) ?_
    simp [TypeName.accepts_anything, Definition.conforms_enum]
  | object name _ _ fields | «interface» name _ _ fields | inputObject name _ fields =>
    rw [Definition.conforms_fields rfl]
    refine h.fields_judge hbody hgen hbound (h.closed.distinctFields _ hmem) (fun field hfield => ?_)
      hparts
    exact ⟨h.closed.undirected _ hmem field hfield, h.closed.admits hmem
      (List.mem_append_left _ (List.mem_map_of_mem hfield))⟩
  | «union» => cases hunion
  | directive | other => cases hbody

/-- The schema of a union, given those of its members. -/
theorem union_judges (h : Rendering document checks definitions level top) {name union : String}
    {directives : List Directive} {members : List TypeRef}
    (hforce : document.inForce name = some (.union union directives members))
    (hfind : Entries.find? definitions name = some (.object entries))
    (hmembers : TypesJudge document checks definitions false data) :
    Judges checks definitions entries data
      ((Definition.union union directives members).Conforms document true data) := by
  obtain ⟨body, hbody, hfind'⟩ := h.renders.find?_of_inForce hforce
  rw [hfind] at hfind'
  cases hfind'
  obtain ⟨types, htypes, rfl⟩ := Definition.unionSchema_eq_ok hbody
  have hgen := h.layered name _ hfind
  have hmem := (Document.typeName?_of_inForce hforce).1
  have honly : HasOnly generatedKeywords (Definition.unionEntries union types) :=
    (Definition.hasOnly_schema hbody).mono (by decide)
  let branches : List Datum := types.map fun type => .object type.schema
  have hvalue : (Datum.list branches).items? = some branches := rfl
  have hentry : (.text "oneOf", .list branches) ∈ Definition.unionEntries union types := by
    simp [Definition.unionEntries, branches]
  obtain ⟨inner, -, hbranches⟩ := hgen.branches honly hentry hvalue
  have hmeant : ∀ member ∈ members, document.Admits member ∧ ∀ name ∈ member.reference?,
      ∀ definition, document.inForce name = some definition → definition.isUnion = false := by
    intro member hmember
    refine ⟨h.closed.admits hmem (List.mem_append_right _ hmember), ?_⟩
    intro name hname definition hforce
    obtain ⟨hmem', hname'⟩ := Document.typeName?_of_inForce hforce
    exact h.closed.flat _ hmem member hmember name hname definition hmem' hname'
  have hall := (List.forall₂_and_left _ _).mpr ⟨hmeant, forall₂_of_mapM htypes⟩
  -- Every branch says whether the value conforms to the member at its position.
  have hjudges : List.Forall₂ (fun branch member => ∀ extent,
      Decides (report checks definitions extent branch data)
        (TypeRef.Conforms document false false member data)) branches members :=
    List.forall₂_map_left_iff.mpr (hall.flip.imp fun type member hmember =>
      hmembers hmember.2 hmember.1.1 fun _ => hmember.1.2)
  have honeOf (extent : Extent) (entries : Members) :
      Decides (oneOfOutcome (reportTask checks definitions extent entries data) (.list branches))
        (∃! position : Nat, ∃ member, members[position]? = some member ∧
          TypeRef.Conforms document false false member data) :=
    oneOfOutcome_decides rfl hvalue hbranches hjudges
  rw [Definition.conforms_union]
  refine h.judges_of_entries honly hgen (h.level_lt name).le fun extent => ?_
  refine Decides.congr (.cons (h.unknown_decides (by decide) rfl)
    (.cons (h.type_decides rfl extent)
      (.cons (h.entry_decides (by decide) rfl (honeOf extent _)) (.nil _ _)))) ?_
  simp [TypeName.accepts_anything]

/-- The schemas of all definitions and type references, for values of every depth. -/
theorem all_judge (h : Rendering document checks definitions level top) (data : Datum) :
    DefinitionsJudge document checks definitions true data ∧
      TypesJudge document checks definitions true data := by
  induction hdepth : data.depth using Nat.strong_induction_on generalizing data with
  | _ depth ih =>
    subst hdepth
    have hparts : ∀ part : Datum, part.depth < data.depth →
        TypesJudge document checks definitions true part := fun part hpart =>
      (ih part.depth hpart part rfl).2
    have hplain : DefinitionsJudge document checks definitions false data :=
      fun name definition entries hforce hfind hunion =>
        h.definition_judges hforce hfind (hunion rfl) false hparts
    have hmembers := h.types_judge hplain hparts
    have hdefinitions : DefinitionsJudge document checks definitions true data := by
      intro name definition entries hforce hfind _
      cases hunion : definition.isUnion with
      | false => exact h.definition_judges hforce hfind hunion true hparts
      | true =>
        cases definition with
        | «union» => exact h.union_judges hforce hfind hmembers
        | _ => cases hunion
    exact ⟨hdefinitions, h.types_judge hdefinitions hparts⟩

end Rendering

/-! ## Answers -/

namespace Document

variable {document : Document}

/-- For a definition of a closed document the validator answers whether a value conforms. -/
theorem IsClosed.exists_answer (h : document.IsClosed) {schemaUri : Option String} {schema : Members}
    (hschema : (document.schema { schemaUri }).result = .ok schema) {definition : Definition}
    (hmem : definition ∈ document) {name : String} (hname : definition.typeName? = some name)
    (data : Datum) :
    ∃ answer,
      (({} : Registry).validatorFor (.object schema) name).1.bind (·.isValid data) = .ok answer ∧
        (answer = true ↔ definition.Conforms document true data) := by
  have hforce := h.inForce_eq hmem hname
  obtain ⟨definitions, hdefinitions, hrenders⟩ := renders_of_schema hschema hforce
  obtain ⟨level, top, hlayered, htop, hlevel⟩ := exists_layered hrenders h.plain h.acyclic
  obtain ⟨body, hbody, hfind⟩ := hrenders.find?_of_inForce hforce
  have hrendering : Rendering document [] definitions level top :=
    ⟨h, hrenders, hlayered, htop, hlevel, Registry.reads_empty.silent⟩
  rw [Registry.isValid_eq_report Registry.reads_empty hdefinitions hfind
    (Definition.hasOnly_schema hbody) hlayered htop (hlevel name).le]
  have hdeep : true = false → definition.isUnion = false := fun hdeep => absurd hdeep (by decide)
  exact ((hrendering.all_judge data).1 hforce hfind hdeep .first).verdict

/-- The names in a document that is read stand for themselves in references. So it has a schema and
answers, if the definitions have names of their own that are not reserved, their fields have names
of their own and no directives, every name that is referred to is defined or builtin, and members of
unions are no unions. -/
theorem answers_iff_conforms_of_parse? {text : String}
    (hparse : Document.parse? text = some document)
    (hnamed : ∀ definition ∈ document, ∃ name ∈ definition.typeName?,
      name ∉ Definition.reservedNames)
    (hdistinct : (document.map (·.typeName?)).Nodup)
    (hfields : ∀ definition ∈ document, (definition.fields.map (·.name)).Nodup)
    (hundirected : ∀ definition ∈ document, ∀ field ∈ definition.fields, field.directives = [])
    (hknown : ∀ definition ∈ document, ∀ type ∈ definition.types, ∃ name ∈ type.name?,
      document.Knows name)
    (hflat : ∀ definition ∈ document, ∀ member ∈ definition.members, ∀ name ∈ member.reference?,
      ∀ other ∈ document, other.typeName? = some name → other.isUnion = false)
    (schemaUri : Option String) :
    ∃ schema, (document.schema { schemaUri }).result = .ok schema ∧
      ∀ definition ∈ document, ∀ name, definition.typeName? = some name → ∀ data : Datum,
        ∃ answer,
          (({} : Registry).validatorFor (.object schema) name).1.bind (·.isValid data) = .ok answer ∧
          (answer = true ↔ definition.Conforms document true data) := by
  have hclosed : document.IsClosed :=
    ⟨hnamed, hdistinct, hfields, hundirected, hknown, hflat, isPlain_of_parse? hparse⟩
  obtain ⟨schema, hschema⟩ := hclosed.exists_document_schema { schemaUri }
  exact ⟨schema, hschema, fun definition hmem name hname data =>
    hclosed.exists_answer hschema hmem hname data⟩

end Document

end SchemaBridge
