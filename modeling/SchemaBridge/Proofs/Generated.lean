import Mathlib
import SchemaBridge.Proofs.References
import SchemaBridge.Proofs.Reports
import SchemaBridge.Validation.Evaluation

/-!
# Generated schemas

The schemas that documents become use few of the keywords there are. A reference in them leads to a
definition and stands alone; any other schema says something of the value itself, of the items or
the entries of the value, or has branches for the same value. None has an identifier or a dialect of
its own, so all of them are applied at one place and by one set of rules.

References and branches at the same value must not go round in a circle. `Generated` therefore
counts them: every definition has a level, and a schema under a bound refers only to definitions of
lower levels, unless there is a step into the value between.

* `Generated.enter`, `Generated.branch`: the setting does not change from schema to schema.
* `descend_eq`, `allows_eq`, `listing_eq`: what a task for a part of the schema comes to.
* `follow_toDefinition`: what a task for a definition comes to, be it entered before or not.
-/

namespace SchemaBridge

/-- All the entries stand under some of the names. -/
def HasOnly (names : List String) (entries : Members) : Prop :=
  ∀ entry ∈ entries, ∃ name ∈ names, entry.1 = .text name

theorem HasOnly.find?_eq_none {names : List String} {entries : Members} (h : HasOnly names entries)
    {name : String} (hname : name ∉ names) : Entries.find? entries name = none := by
  rw [Entries.find?_eq_none, Entries.keys, List.any_map, List.any_eq_false]
  rintro entry hentry
  obtain ⟨name', hname', heq⟩ := h entry hentry
  simp only [Function.comp_apply, heq, Key.beq_text, Key.text.injEq]
  rintro rfl
  exact hname hname'

section

variable {names : List String} {entries added : Members} {name : String}

theorem hasOnly_nil (names : List String) : HasOnly names [] :=
  fun _ h => absurd h List.not_mem_nil

theorem hasOnly_cons {entry : Key × Datum} :
    HasOnly names (entry :: entries) ↔
      (∃ name ∈ names, entry.1 = .text name) ∧ HasOnly names entries :=
  List.forall_mem_cons

theorem hasOnly_singleton (hname : name ∈ names) (value : Datum) :
    HasOnly names [(.text name, value)] :=
  hasOnly_cons.mpr ⟨⟨name, hname, rfl⟩, hasOnly_nil _⟩

theorem HasOnly.mono {names' : List String} (h : HasOnly names entries) (hle : names ⊆ names') :
    HasOnly names' entries := by
  intro entry hentry
  obtain ⟨name, hname, heq⟩ := h entry hentry
  exact ⟨name, hle hname, heq⟩

theorem HasOnly.not_mem (h : HasOnly names entries) (hname : name ∉ names) (value : Datum) :
    (.text name, value) ∉ entries := by
  intro hentry
  obtain ⟨name', hname', heq⟩ := h _ hentry
  cases heq
  exact hname hname'

/-- After a merge, an entry is one that was there or one that was written. -/
theorem HasOnly.mem_merge (hadded : HasOnly names added) {entry : Key × Datum}
    (hentry : entry ∈ Entries.merge entries added) : entry ∈ entries ∨ entry ∈ added := by
  rcases Entries.mem_merge hentry with hentry | ⟨pair, hpair, hvalue, hkey⟩
  · exact .inl hentry
  · obtain ⟨name, -, heq⟩ := hadded pair hpair
    rw [heq, Key.beq_text, or_self, ← heq] at hkey
    exact .inr (Prod.ext hkey hvalue ▸ hpair)

/-- An entry is an old one if nothing is written under its name. -/
theorem HasOnly.mem_of_mem_merge (hadded : HasOnly names added) (hname : name ∉ names)
    {value : Datum} (hentry : (.text name, value) ∈ Entries.merge entries added) :
    (.text name, value) ∈ entries :=
  (hadded.mem_merge hentry).resolve_right (hadded.not_mem hname value)

/-- An entry is kept if nothing is written under its name. -/
theorem HasOnly.mem_merge_of_mem (hadded : HasOnly names added) (hname : name ∉ names)
    {value : Datum} (hmem : (.text name, value) ∈ entries) :
    (.text name, value) ∈ Entries.merge entries added := by
  induction added generalizing entries with
  | nil => exact hmem
  | cons entry rest ih =>
    obtain ⟨⟨name', hname', hkey⟩, hrest⟩ := hasOnly_cons.mp hadded
    refine ih hrest (Entries.mem_insert_of_mem hmem ?_)
    rw [hkey, Bool.eq_false_iff, ne_eq, Key.beq_text, Key.text.injEq]
    rintro rfl
    exact hname hname'

theorem HasOnly.find?_merge (hadded : HasOnly names added) (hname : name ∉ names)
    (entries : Members) :
    Entries.find? (Entries.merge entries added) name = Entries.find? entries name := by
  have hreverse : HasOnly names added.reverse := fun entry hentry =>
    hadded entry (List.mem_reverse.mp hentry)
  rw [Entries.find?_merge, hreverse.find?_eq_none hname, Option.none_or]

theorem HasOnly.merge (h : HasOnly names entries) (hadded : HasOnly names added) :
    HasOnly names (Entries.merge entries added) := fun entry hentry =>
  (hadded.mem_merge hentry).elim (h entry) (hadded entry)

theorem HasOnly.insert (h : HasOnly names entries) (hname : name ∈ names) (value : Datum) :
    HasOnly names (Entries.insert entries name value) :=
  h.merge (hasOnly_singleton hname value)

end

namespace Schema

theorem mem_of_find?_text {entries : Members} {name : String} {value : Datum}
    (h : Entries.find? entries (.text name) = some value) : (.text name, value) ∈ entries := by
  obtain ⟨key, hmem, hkey⟩ := Entries.mem_of_find? h
  rwa [Key.beq_text.mp hkey] at hmem

/-- Keywords about the value itself. -/
def plainKeywords : List String :=
  ["title", "type", "format", "ext_format", "minimum", "maximum", "minLength", "maxLength",
   "pattern", "minItems", "maxItems", "uniqueItems", "required", "input", "enum"]

/-- The keywords of generated schemas other than references. -/
def generatedKeywords : List String := plainKeywords ++ ["items", "properties", "oneOf"]

/-- Where no reference stands alone, all entries count. -/
theorem effective_of_missing {entries : Members} (h : Entries.find? entries "$ref" = none)
    (alone : Bool) : effective alone entries = entries := by
  cases alone <;> simp [effective, h]

/-- A schema as documents lead to it. At the same value it refers to definitions of levels below the
bound only; after a step into the value, to definitions below `top`. -/
inductive Generated (level : String → Nat) (top : Nat) : Nat → Datum → Prop
  | reference {bound : Nat} {entries : Members} {name : String}
      (href : Entries.find? entries "$ref" = some (Reference.toDefinition name))
      (hdialect : Entries.find? entries "$schema" = none)
      (hplain : Reference.IsPlain name)
      (hlevel : level name < bound) : Generated level top bound (.object entries)
  | keywords {bound inner : Nat} {entries : Members}
      (hinner : inner < bound)
      (honly : HasOnly generatedKeywords entries)
      (hitems : ∀ value, (.text "items", value) ∈ entries → Generated level top top value)
      (hproperties : ∀ properties, (.text "properties", .object properties) ∈ entries →
        ∀ property ∈ properties, Generated level top top property.2)
      (hbranches : ∀ value branches, (.text "oneOf", value) ∈ entries →
        value.items? = some branches → ∀ branch ∈ branches, Generated level top inner branch) :
      Generated level top bound (.object entries)

end Schema

/-- The setting of a schema without an address, under the rules of a registry. -/
def Setting.outset (entered : List Visit) : Setting := { place := .outset, entered }

/-- A reference to a definition that was followed for a report. -/
def Visit.toDefinition (extent : Extent) (name : String) : Visit where
  address := []
  fragment := Reference.fragment name
  isExplored := false
  scope := 0
  rules := .registered
  purpose := extent.purpose

namespace Schema.Generated

variable {level : String → Nat} {top bound : Nat} {schema : Datum}

theorem exists_object (h : Generated level top bound schema) :
    ∃ entries, schema = .object entries := by
  cases h with
  | reference | keywords => exact ⟨_, rfl⟩

theorem identifier? (h : Generated level top bound schema) :
    Resource.identifier? ⟨schema, .draft4⟩ = .ok none := by
  cases h with
  | reference href => exact Resource.identifier?_of_reference rfl (by simp [Entries.has, href])
  | keywords _ honly => exact Resource.identifier?_of_missing (honly.find?_eq_none (by decide))

theorem given? (h : Generated level top bound schema) : Resource.given? schema = .ok none := by
  cases h with
  | reference _ hdialect => simp [Resource.given?, hdialect]
  | keywords _ honly =>
    have hname : "$schema" ∉ generatedKeywords := by decide
    simp [Resource.given?, honly.find?_eq_none hname]

theorem rulesOf (h : Generated level top bound schema) (entered : List Visit) :
    (Setting.outset entered).rulesOf schema = .ok .registered := by
  rw [Setting.rulesOf, h.given?]
  rfl

theorem enter (h : Generated level top bound schema) (entered : List Visit) :
    (Setting.outset entered).enter schema = .ok (.outset entered) := by
  have hplace : Reference.Place.outset.inside ⟨schema, .draft4⟩ = .ok .outset := by
    simp only [Reference.Place.inside, Resource.addressFrom, h.identifier?, bind, Except.bind]
    rfl
  have hrules := h.rulesOf entered
  simp only [Setting.outset] at hrules ⊢
  simp only [Setting.enter, Rules.dialect, hplace, hrules, bind, Except.bind]
  rfl

theorem branch (h : Generated level top bound schema) (entered : List Visit) :
    (Setting.outset entered).branch schema = .ok (.outset entered) := by
  rw [Setting.branch, h.rulesOf]
  rfl

/-! ### Parts -/

section

variable {entries : Members}

theorem branches (h : Generated level top bound (.object entries))
    (honly : HasOnly generatedKeywords entries) {value : Datum} {branches : List Datum}
    (hmem : (.text "oneOf", value) ∈ entries) (hitems : value.items? = some branches) :
    ∃ inner < bound, ∀ branch ∈ branches, Generated level top inner branch := by
  cases h with
  | reference href =>
    rw [honly.find?_eq_none (by decide)] at href
    cases href
  | keywords hinner _ _ _ hbranches => exact ⟨_, hinner, hbranches value branches hmem hitems⟩

theorem items (h : Generated level top bound (.object entries))
    (honly : HasOnly generatedKeywords entries) {value : Datum}
    (hmem : (.text "items", value) ∈ entries) : Generated level top top value := by
  cases h with
  | reference href =>
    rw [honly.find?_eq_none (by decide)] at href
    cases href
  | keywords _ _ hitems => exact hitems value hmem

theorem properties (h : Generated level top bound (.object entries))
    (honly : HasOnly generatedKeywords entries) {properties : Members}
    (hmem : (.text "properties", .object properties) ∈ entries) :
    ∀ property ∈ properties, Generated level top top property.2 := by
  cases h with
  | reference href =>
    rw [honly.find?_eq_none (by decide)] at href
    cases href
  | keywords _ _ _ hproperties => exact hproperties properties hmem

end

/-! ### Entries added -/

section

variable {entries added : Members} {name : String}

theorem of_plain (honly : HasOnly plainKeywords entries) (hpos : 0 < bound) :
    Generated level top bound (.object entries) :=
  .keywords hpos (honly.mono (List.subset_append_left _ _))
    (fun value h => (honly.not_mem (by decide) value h).elim)
    (fun properties h => (honly.not_mem (by decide) (.object properties) h).elim)
    fun value _ h => (honly.not_mem (by decide) value h).elim

/-- Keywords about the value may be added to any schema. -/
theorem merge (h : Generated level top bound (.object entries))
    (hadded : HasOnly plainKeywords added) :
    Generated level top bound (.object (Entries.merge entries added)) := by
  have hfind {name : String} (hname : name ∉ plainKeywords) :
      Entries.find? (Entries.merge entries added) name = Entries.find? entries name :=
    hadded.find?_merge hname entries
  cases h with
  | reference href hdialect hplain hlevel =>
    exact .reference ((hfind (by decide)).trans href) ((hfind (by decide)).trans hdialect) hplain
      hlevel
  | keywords hinner honly hitems hproperties hbranches =>
    exact .keywords hinner (honly.merge (hadded.mono (List.subset_append_left _ _)))
      (fun value hentry => hitems value (hadded.mem_of_mem_merge (by decide) hentry))
      (fun properties hentry =>
        hproperties properties (hadded.mem_of_mem_merge (by decide) hentry))
      fun value branches hentry =>
        hbranches value branches (hadded.mem_of_mem_merge (by decide) hentry)

theorem insert (h : Generated level top bound (.object entries)) (hname : name ∈ plainKeywords)
    (value : Datum) : Generated level top bound (.object (Entries.insert entries name value)) :=
  h.merge (hasOnly_singleton hname value)

end

end Schema.Generated

/-! ## Tasks -/

namespace Task

open Schema

variable {level : String → Nat} {top bound : Nat} {schema : Datum} {task : Task}
  {entered : List Visit}

/-- With nothing passed through, a reference is followed once and no more. -/
theorem isStuck_toDefinition {extent : Extent} {name : String} :
    (Setting.outset entered).isStuck (.toDefinition extent name) = true
      ↔ Visit.toDefinition extent name ∈ entered := by
  refine ⟨fun hstuck => ?_, fun hmem => Setting.isStuck_of_entered hmem rfl⟩
  by_contra hmem
  have hcount : entered.count (.toDefinition extent name) = 0 := List.count_eq_zero.mpr hmem
  simp [Setting.isStuck, Setting.outset, hcount] at hstuck

/-- Behind a step into the value, nothing counts as entered. -/
theorem setting_into (hsetting : task.setting = .outset entered) (data : Datum) :
    (task.into data).setting = .outset [] := by
  rw [into, hsetting]
  rfl

/-- A part of the schema is applied to the value in the setting of the whole. -/
theorem descend_eq (h : Generated level top bound schema) (hsetting : task.setting = .outset entered)
    (path schemaPath : List PathStep) :
    task.descend schema path schemaPath
      = (task.next task.extent (.outset entered) schema task.data).inside path schemaPath := by
  obtain ⟨entries, rfl⟩ := h.exists_object
  simp only [descend, hsetting, h.enter, Outcome.ofExcept]

theorem listing_eq (h : Generated level top bound schema)
    (hsetting : task.setting = .outset entered) :
    task.listing schema = (task.next .all (.outset entered) schema task.data).listing := by
  let full : Task := { task with extent := .all }
  have hfull : full.setting = .outset entered := hsetting
  rw [listing, descend_eq h hfull, Outcome.inside_nil]

theorem allows_eq (h : Generated level top bound schema)
    (hsetting : task.setting = .outset entered) :
    task.allows schema = (task.next .trial (.outset entered) schema task.data).verdict := by
  simp only [allows, hsetting, h.branch, bind, Except.bind]

/-- What a reference to a definition leads to. It is applied once; when it is followed again at the
same value, and for the same, this would go on for ever. -/
theorem follow_toDefinition (h : Generated level top bound schema)
    (hsetting : task.setting = .outset entered) (name : String) :
    task.follow { address := [], fragment := Reference.fragment name,
                  target := { contents := schema, place := .outset } }
      = if Visit.toDefinition task.extent name ∈ entered then .stopped .endless
        else task.next task.extent (.outset (Visit.toDefinition task.extent name :: entered)) schema
          task.data := by
  obtain ⟨entries, rfl⟩ := h.exists_object
  have hrules := h.rulesOf entered
  have hfollow : (Setting.outset entered).follow task.extent.purpose
        { address := [], fragment := Reference.fragment name,
          target := { contents := .object entries, place := .outset } }
      = if (Setting.outset entered).isStuck (.toDefinition task.extent name) then .error .endless
        else .ok (.outset (Visit.toDefinition task.extent name :: entered)) := by
    simp only [Setting.follow, hrules, bind, Except.bind]
    change (if (Setting.outset entered).isStuck (.toDefinition task.extent name) then _ else _) = _
    split_ifs <;> rfl
  simp only [follow, hsetting, hfollow, isStuck_toDefinition]
  split_ifs <;> rfl

/-- A reference to a definition that was not entered before, at this value, applies it. -/
theorem follow_eq {name : String} (h : Generated level top bound schema)
    (hsetting : task.setting = .outset entered)
    (hnew : ∀ visit ∈ entered, visit.fragment ≠ Reference.fragment name) :
    ∃ visit : Visit, visit.fragment = Reference.fragment name ∧
      task.follow { address := [], fragment := Reference.fragment name,
                    target := { contents := schema, place := .outset } }
        = task.next task.extent (.outset (visit :: entered)) schema task.data := by
  refine ⟨.toDefinition task.extent name, rfl, ?_⟩
  rw [follow_toDefinition h hsetting, if_neg fun hmem => hnew _ hmem rfl]

end Task

end SchemaBridge
