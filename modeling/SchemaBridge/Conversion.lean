import SchemaBridge.Fault

/-!
# Conversions and their notices

A conversion has a result or a fault, and on its way it gives notice of what it leaves out. The
notices that were given before a fault are kept.

* `bind_ok`: two steps give their notices in order.
* `bind_error`: a fault ends a conversion and keeps the notices so far.
* `result_bind_eq_ok`: what two steps lead to.
* The instance of `LawfulMonad`: how the steps of a conversion are grouped does not matter.
-/

namespace SchemaBridge

/-- Something that a conversion leaves out or replaces. -/
inductive Notice where
  /-- An argument that the type has no keyword for. -/
  | notApplicable (argument directive : String) (jsonType : Option String)
  /-- An argument whose value is not constant. -/
  | noValue (argument directive : String)
  /-- An argument whose value the keyword cannot take. -/
  | notCast (argument directive : String) (cause : Fault)
  /-- A definition that stands in the place of an earlier one of the same title. -/
  | overwritten (title : String)

namespace Notice

/-- How much a notice matters. -/
inductive Level where
  | detail | warning
deriving DecidableEq

/-- What a notice is about: an argument of a directive, or a definition of a document. -/
inductive Subject where
  | argument | definition
deriving DecidableEq

/-- Only a value that cannot be taken is worth a warning. -/
def level : Notice → Level
  | notCast .. => .warning
  | _ => .detail

/-- What the notice is about. -/
def subject : Notice → Subject
  | overwritten _ => .definition
  | _ => .argument

/-- The words of a notice. -/
def message : Notice → String
  | notApplicable argument directive jsonType =>
    "Ignoring argument " ++ argument ++ " of @" ++ directive ++ " on " ++ jsonType.getD "None"
  | noValue argument directive =>
    "Ignoring argument " ++ argument ++ " of @" ++ directive ++ ": no constant value"
  | notCast argument directive cause =>
    "Ignoring argument " ++ argument ++ " of @" ++ directive ++ ": " ++ cause.message.getD ""
  | overwritten title => "Overwriting definition " ++ title

end Notice

/-- A result or a fault, and the notices given on the way. -/
structure Conversion (α : Type) where
  result : Except Fault α
  notices : List Notice

namespace Conversion

variable {α β : Type}

instance : Monad Conversion where
  pure value := ⟨.ok value, []⟩
  bind first next :=
    match first.result with
    | .ok value => ⟨(next value).result, first.notices ++ (next value).notices⟩
    | .error fault => ⟨.error fault, first.notices⟩

/-- A result or fault that gives no notice. -/
def ofExcept (result : Except Fault α) : Conversion α := ⟨result, []⟩

/-- Give notice. -/
def notify (notice : Notice) : Conversion Unit := ⟨.ok (), [notice]⟩

theorem bind_ok {first : Conversion α} {next : α → Conversion β} {value : α}
    (h : first.result = .ok value) :
    first >>= next = ⟨(next value).result, first.notices ++ (next value).notices⟩ := by
  simp [bind, h]

theorem bind_error {first : Conversion α} {next : α → Conversion β} {fault : Fault}
    (h : first.result = .error fault) : first >>= next = ⟨.error fault, first.notices⟩ := by
  simp [bind, h]

theorem result_bind_eq_ok {first : Conversion α} {next : α → Conversion β} {value : β} :
    (first >>= next).result = .ok value
      ↔ ∃ middle, first.result = .ok middle ∧ (next middle).result = .ok value := by
  obtain ⟨result | middle, notices⟩ := first <;> simp [bind]

theorem result_pure {value : α} : (pure value : Conversion α).result = .ok value := rfl

instance : LawfulMonad Conversion := LawfulMonad.mk' Conversion
  (fun step => by
    obtain ⟨result | value, notices⟩ := step <;> simp [Functor.map])
  (fun value next => by simp [bind, pure])
  (fun step next last => by
    obtain ⟨result | value, notices⟩ := step
    · simp [bind]
    · rcases h : (next value).result with fault | value' <;> simp [bind, h])

end Conversion

end SchemaBridge
