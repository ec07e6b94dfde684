import Mathlib
import SchemaBridge.Proofs.Halves

/-!
# Bounds for integers keep their order

A lower and an upper bound for integers may be numbers of different kinds, and each of them is
rounded on its own. Rounding keeps their order, also where it does not lead to the nearest integer:
a number that is at least the greatest one below one half is the same, or it is at least one half,
and both go up to one. So bounds that leave some number between them leave some integer.

* `Number.half_le_value`: what lies above the greatest number below one half.
* `Number.roundHalfUp?_mono`: numbers are rounded in order.
* `Directive.find?_keywords_of_last`: the last argument for a key counts.
* `Handler.validate_keeps_order`: the bounds that a directive adds for integers.
-/

namespace SchemaBridge

open Binary64 (belowHalf)

namespace Number

variable {low high : Number}

/-- Above the greatest number below one half, there is none below one half. -/
theorem half_le_value (h : belowHalf.value < high.value) : 1 / 2 ≤ high.value := by
  match high with
  | .int n =>
    rw [Binary64.value_belowHalf] at h
    have hpos : (0 : ℚ) < n := lt_trans (by norm_num) h
    have hone : (1 : ℚ) ≤ n := by exact_mod_cast hpos
    rw [value]
    linarith
  | .float (.finite x) => exact Binary64.half_le_value h
  | .float (.infinite _) | .float .nan =>
    change belowHalf.value < 0 at h
    rw [Binary64.value_belowHalf] at h
    norm_num at h

/-- Numbers are rounded in order, also one that is not rounded to the nearest integer. -/
theorem roundHalfUp?_mono (hlow : (Datum.number low).IsBound) (hhigh : (Datum.number high).IsBound)
    (hle : low.value ≤ high.value) :
    ∃ minimum maximum, low.roundHalfUp? = some minimum ∧ high.roundHalfUp? = some maximum ∧
      minimum ≤ maximum := by
  refine ⟨_, _, roundHalfUp?_eq hlow, roundHalfUp?_eq hhigh, ?_⟩
  split_ifs with hlow_eq hhigh_eq hhigh_eq
  · exact le_rfl
  · have hhalf := half_le_value (lt_of_le_of_ne (hlow_eq ▸ hle) (Ne.symm hhigh_eq))
    exact Int.le_floor.mpr (by push_cast; linarith)
  · have hlt : low.value + 1 / 2 < 1 := by
      rw [hhigh_eq, Binary64.value_belowHalf] at hle
      linarith
    have hfloor : ⌊low.value + 1 / 2⌋ < 1 := Int.floor_lt.mpr (by exact_mod_cast hlt)
    exact hfloor.le
  · exact Int.floor_mono (by linarith)

end Number

/-! ## The last argument for a key -/

namespace Directive

variable {directive : Directive} {jsonType : Option String} {key : String} {argument : Argument}

/-- The last argument that means a key. -/
def last? (directive : Directive) (jsonType : Option String) (key : String) : Option Argument :=
  (directive.arguments.filter (·.key? jsonType == some key)).getLast?

theorem key?_of_last (h : directive.last? jsonType key = some argument) :
    argument.key? jsonType = some key := by
  simpa using (List.mem_filter.mp (List.mem_of_getLast? h)).2

/-- What the last argument for a key contributes stands under the key. -/
theorem find?_keywords_of_last {value : Datum}
    (hlast : directive.last? jsonType key = some argument)
    (hkeyword : argument.keyword directive.name jsonType = .ok (.text key, value)) :
    Entries.find? (directive.keywords jsonType) (.text key) = some value := by
  have hvalue (last : Argument) (h : directive.last? jsonType key = some last) :
      ∃ value, last.keyword directive.name jsonType = .ok (.text key, value) := by
    cases hlast.symm.trans h
    exact ⟨value, hkeyword⟩
  have hfind := Argument.find?_last hvalue
  rw [last?] at hlast
  rw [keywords, Entries.find?_ofPairs, contributions, hfind, hlast, Option.bind_some, hkeyword]
  rfl

/-- The last bound for integers is rounded. -/
theorem find?_keywords_of_bound {number : Number} {rounded : Int}
    (hlast : directive.last? (some "integer") key = some argument) (hkey : key ∈ Keyword.numeric)
    (hnumber : Keyword.toNumber argument.value.value = .ok number)
    (hrounded : number.roundHalfUp? = some rounded) :
    Entries.find? (directive.keywords (some "integer")) (.text key) = some (.int rounded) := by
  have hkeyword := Argument.keyword_of_toNumber (key?_of_last hlast) hkey hnumber directive.name
  have hsettle : Keyword.settle "integer" (.number number) = .int rounded := by
    rw [Keyword.settle, if_pos rfl, hrounded, Option.getD_some]
  rw [Option.getD_some, hsettle] at hkeyword
  exact find?_keywords_of_last hlast hkeyword

end Directive

/-! ## Both bounds -/

/-- Numbers in order are rounded to integers in order, whatever values they are read from. So the
bounds that a directive adds for integers are integers in the order of what the last arguments for
them stand for. -/
theorem Handler.validate_keeps_order {a b : Datum} {low high : Number}
    (hlow : Keyword.toNumber a = .ok low) (hhigh : Keyword.toNumber b = .ok high)
    (hle : low.value ≤ high.value) :
    ∃ minimum maximum : Int,
      Keyword.roundHalfUp (.number low) = .ok (.int minimum) ∧
      Keyword.roundHalfUp (.number high) = .ok (.int maximum) ∧ minimum ≤ maximum ∧
      ∀ (directive : Directive) (lower upper : Argument),
        (∀ argument ∈ directive.arguments, argument.isReadable (some "integer") = true) →
        directive.last? (some "integer") "minimum" = some lower → lower.value.value = a →
        directive.last? (some "integer") "maximum" = some upper → upper.value.value = b →
        ∃ keywords, (Handler.validate directive (some "integer")).result = .ok (.object keywords) ∧
          Entries.find? keywords "minimum" = some (.int minimum) ∧
          Entries.find? keywords "maximum" = some (.int maximum) := by
  obtain ⟨minimum, maximum, hminimum, hmaximum, horder⟩ := Number.roundHalfUp?_mono
    (Keyword.isBound_of_toNumber hlow) (Keyword.isBound_of_toNumber hhigh) hle
  refine ⟨minimum, maximum, by rw [Keyword.roundHalfUp, hminimum],
    by rw [Keyword.roundHalfUp, hmaximum], horder, ?_⟩
  rintro directive lower upper hreadable hlower rfl hupper rfl
  refine ⟨directive.keywords (some "integer"), by rw [validate_of_readable hreadable], ?_, ?_⟩
  · exact Directive.find?_keywords_of_bound hlower (by decide) hlow hminimum
  · exact Directive.find?_keywords_of_bound hupper (by decide) hhigh hmaximum

/-- One half. -/
def Binary64.half : Binary64.Finite := ⟨false, 2 ^ 52, -53, by decide⟩

/-- The greatest number below one half as a lower bound, and one half in a text as an upper one. -/
def Directive.aroundHalf : Directive :=
  ⟨validate, [⟨"max", .text " 0.5"⟩, ⟨"minimum", .int "7"⟩, ⟨"min", .float "0.49999999999999994"⟩]⟩

theorem Handler.validate_keeps_order_around_half : ∃ keywords,
    (Handler.validate Directive.aroundHalf (some "integer")).result = .ok (.object keywords) ∧
      Entries.find? keywords "minimum" = some (.int 1) ∧
      Entries.find? keywords "maximum" = some (.int 1) := by
  have hlow : Keyword.toNumber (Literal.float "0.49999999999999994").value
      = .ok (.float (.finite belowHalf)) := rfl
  have hhigh : Keyword.toNumber (.text " 0.5") = .ok (.float (.finite Binary64.half)) := rfl
  have hle : Number.value (.float (.finite belowHalf))
      ≤ Number.value (.float (.finite Binary64.half)) := by
    rw [Number.value, Number.value, Binary64.value_belowHalf, Binary64.Finite.value_eq]
    norm_num [Binary64.Finite.coefficient, Binary64.half]
  have hreadable : ∀ argument ∈ Directive.aroundHalf.arguments,
      argument.isReadable (some "integer") = true := by
    simp [Directive.aroundHalf, Argument.isReadable, Literal.isValue]
  obtain ⟨minimum, maximum, hminimum, hmaximum, -, hbounds⟩ :=
    validate_keeps_order hlow hhigh hle
  have hbelow : Keyword.roundHalfUp (.number (.float (.finite belowHalf))) = .ok (.int 1) := rfl
  have hhalf : Keyword.roundHalfUp (.number (.float (.finite Binary64.half))) = .ok (.int 1) := rfl
  cases hbelow.symm.trans hminimum
  cases hhalf.symm.trans hmaximum
  exact hbounds Directive.aroundHalf _ _ hreadable rfl rfl rfl rfl

end SchemaBridge
