/-!
# Parts of texts

A text cut at the first character of a kind, and a text read as parts between separators.

* `joined_parts`: the parts of a text make up the text.
* `parts_joined`: parts with separators between them are read back, if they have none themselves.
* `parts_append`: the first part ends at the first separator.
* `cut_spec`: a text is cut at the first occurrence of the character.
-/

namespace SchemaBridge.Text

/-- The text before the first occurrence of a character, and the text after it, if it occurs. -/
def cut (separator : Char) : List Char → List Char × Option (List Char)
  | [] => ([], none)
  | c :: rest =>
    if c = separator then ([], some rest)
    else
      let (before, after) := cut separator rest
      (c :: before, after)

/-- The parts between the separators of a text. -/
def parts (separator : Char) : List Char → List (List Char)
  | [] => [[]]
  | c :: rest =>
    if c = separator then [] :: parts separator rest
    else
      match parts separator rest with
      | [] => [[c]]
      | first :: others => (c :: first) :: others

/-- Parts with separators between them. -/
def joined (separator : Char) (parts : List (List Char)) : List Char := [separator].intercalate parts

theorem parts_ne_nil (separator : Char) (text : List Char) : parts separator text ≠ [] := by
  cases text with
  | nil => simp [parts]
  | cons c rest =>
    unfold parts
    split
    · simp
    · split <;> simp

theorem joined_parts (separator : Char) (text : List Char) :
    joined separator (parts separator text) = text := by
  induction text with
  | nil => rfl
  | cons c rest ih =>
    unfold parts
    cases h : parts separator rest with
    | nil => exact absurd h (parts_ne_nil separator rest)
    | cons first others =>
      rw [h] at ih
      split
      · next hc =>
        subst hc
        rw [← ih]
        rfl
      · rw [← ih]
        cases others <;> rfl

theorem cut_spec (separator : Char) (text : List Char) :
    separator ∉ (cut separator text).1 ∧
      (cut separator text).1 ++ (cut separator text).2.elim [] (separator :: ·) = text := by
  induction text with
  | nil => exact ⟨List.not_mem_nil, rfl⟩
  | cons c rest ih =>
    obtain ⟨hbefore, happend⟩ := ih
    rw [cut]
    split
    · next hc => exact ⟨List.not_mem_nil, hc ▸ rfl⟩
    · next hc =>
      refine ⟨?_, ?_⟩
      · rw [List.mem_cons, not_or]
        exact ⟨Ne.symm hc, hbefore⟩
      · rw [List.cons_append, happend]

theorem parts_of_not_mem {separator : Char} {text : List Char} (h : separator ∉ text) :
    parts separator text = [text] := by
  induction text with
  | nil => rfl
  | cons c rest ih =>
    simp only [List.mem_cons, not_or] at h
    rw [parts, if_neg (Ne.symm h.1), ih h.2]

theorem parts_append {separator : Char} {text : List Char} (h : separator ∉ text)
    (rest : List Char) :
    parts separator (text ++ separator :: rest) = text :: parts separator rest := by
  induction text with
  | nil => simp [parts]
  | cons c text ih =>
    simp only [List.mem_cons, not_or] at h
    rw [List.cons_append, parts, if_neg (Ne.symm h.1), ih h.2]

theorem parts_joined {separator : Char} {texts : List (List Char)} (hne : texts ≠ [])
    (h : ∀ text ∈ texts, separator ∉ text) : parts separator (joined separator texts) = texts := by
  induction texts with
  | nil => exact absurd rfl hne
  | cons first rest ih =>
    have hfirst := h first List.mem_cons_self
    cases rest with
    | nil =>
      have hjoined : joined separator [first] = first := List.append_nil first
      rw [hjoined, parts_of_not_mem hfirst]
    | cons second others =>
      have hjoined : joined separator (first :: second :: others)
          = first ++ separator :: joined separator (second :: others) := rfl
      rw [hjoined, parts_append hfirst,
        ih (List.cons_ne_nil _ _) fun text hmem => h text (List.mem_cons_of_mem _ hmem)]

end SchemaBridge.Text
