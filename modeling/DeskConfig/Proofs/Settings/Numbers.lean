import DeskConfig.Proofs.Text.Numerals
import DeskConfig.Reading

/-!
Numbers in attributes. An attribute declares a number if it is there and its value, less the
blanks around it, is a numeral within the range. A value that is none is reported and counts as
if it were not there.
-/

namespace DeskConfig.Reading

open Markup (Element)

/-- The number that an attribute declares. -/
def declared? (e : Element) (name : String) (low high : Nat) : Option Nat :=
  (e.attribute? name).bind fun value => Text.naturalIn? low high (Text.trim value.toList)

/-- The report of an attribute that is there and declares no number. -/
def misdeclared? (e : Element) (name : String) (low high : Nat) : Option Diagnostic :=
  (e.attribute? name).bind fun value =>
    match Text.naturalIn? low high (Text.trim value.toList) with
    | some _ => none
    | none => some (.located e.origin (.invalidValue (e.name ++ " " ++ name) value))

section Numbers

variable {e : Element} {name : String} {low high : Nat}

theorem declared?_eq_some_iff {n : Nat} :
    declared? e name low high = some n ↔ ∃ value, e.attribute? name = some value ∧
      Text.Numeral (Text.trim value.toList) n ∧ low ≤ n ∧ n ≤ high := by
  simp only [declared?, Option.bind_eq_some_iff, Text.naturalIn?_eq_some_iff]

theorem misdeclared?_eq_some_iff {d : Diagnostic} :
    misdeclared? e name low high = some d ↔ declared? e name low high = none ∧
      ∃ value, e.attribute? name = some value ∧
        d = .located e.origin (.invalidValue (e.name ++ " " ++ name) value) := by
  unfold misdeclared? declared?
  cases e.attribute? name with
  | none => simp
  | some value =>
    cases hvalue : Text.naturalIn? low high (Text.trim value.toList) <;>
      simp [hvalue, eq_comm]

theorem value_naturalAttribute (e : Element) (name : String) (low high default : Nat) :
    (naturalAttribute e name low high default).value =
      (declared? e name low high).getD default := by
  unfold naturalAttribute declared?
  cases e.attribute? name with
  | none => rfl
  | some value =>
    cases hvalue : Text.naturalIn? low high (Text.trim value.toList) <;>
      simp [natural, hvalue]

theorem warnings_naturalAttribute (e : Element) (name : String) (low high default : Nat) :
    (naturalAttribute e name low high default).warnings =
      (misdeclared? e name low high).toList := by
  unfold naturalAttribute misdeclared?
  cases e.attribute? name with
  | none => rfl
  | some value =>
    cases hvalue : Text.naturalIn? low high (Text.trim value.toList) with
    | some n => simp [natural, hvalue]
    | none =>
      simp only [Option.bind_some, natural, hvalue, warnings_bind, warnings_warn,
        warnings_pure, List.append_nil, Option.toList_some]
      rfl

end Numbers

end DeskConfig.Reading
