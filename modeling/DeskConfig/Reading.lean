import DeskConfig.Diagnostic
import DeskConfig.Text.Numeral

/-!
Reading a value from an element. Reading always gives a value and, beside it, the
warnings met on the way, in order. What is read in sequence warns in sequence.
-/

namespace DeskConfig

open Markup (Element Tag)

structure Reading (α : Type) where
  value : α
  warnings : List Diagnostic := []

namespace Reading

def bind (r : Reading α) (f : α → Reading β) : Reading β :=
  let s := f r.value
  { value := s.value, warnings := r.warnings ++ s.warnings }

instance : Monad Reading where
  pure a := { value := a }
  bind := bind

@[simp] theorem value_pure (a : α) : (pure a : Reading α).value = a := rfl

@[simp] theorem warnings_pure (a : α) : (pure a : Reading α).warnings = [] := rfl

@[simp] theorem value_bind (r : Reading α) (f : α → Reading β) :
    (r >>= f).value = (f r.value).value := rfl

@[simp] theorem warnings_bind (r : Reading α) (f : α → Reading β) :
    (r >>= f).warnings = r.warnings ++ (f r.value).warnings := rfl

@[simp] theorem value_map (g : α → β) (r : Reading α) : (g <$> r).value = g r.value := rfl

@[simp] theorem warnings_map (g : α → β) (r : Reading α) :
    (g <$> r).warnings = r.warnings := by
  show r.warnings ++ [] = r.warnings
  simp

/-- Notes a problem with an element. -/
def warn (e : Element) (problem : Problem) : Reading Unit :=
  { value := (), warnings := [.located e.origin problem] }

@[simp] theorem warnings_warn (e : Element) (p : Problem) :
    (warn e p).warnings = [.located e.origin p] := rfl

/-- Notes a tag that has no place inside `parent`. -/
def invalidTag (parent : Tag) (e : Element) : Reading Unit :=
  warn e (.invalidTag parent.spelling e.name)

/-- The text of an element that should have some. -/
def requiredText (e : Element) : Reading (Option String) :=
  match e.text with
  | some text => pure (some text)
  | none => do
    warn e (.missingText e.name)
    return none

/-- A number without a minus between `low` and `high`. -/
def natural (e : Element) (what value : String) (low high : Nat) : Reading (Option Nat) :=
  match Text.naturalIn? low high (Text.trim value.toList) with
  | some n => pure (some n)
  | none => do
    warn e (.invalidValue what value)
    return none

/-- A number with an optional sign between `low` and `high`. -/
def integer (e : Element) (what value : String) (low high : Int) : Reading (Option Int) :=
  match Text.integerIn? low high (Text.trim value.toList) with
  | some n => pure (some n)
  | none => do
    warn e (.invalidValue what value)
    return none

/-- A number attribute, or `default` if it is absent or bad. -/
def naturalAttribute (e : Element) (name : String) (low high default : Nat) : Reading Nat :=
  match e.attribute? name with
  | none => pure default
  | some value => do
    return (← natural e s!"{e.name} {name}" value low high).getD default

def integerAttribute (e : Element) (name : String) (low high default : Int) : Reading Int :=
  match e.attribute? name with
  | none => pure default
  | some value => do
    return (← integer e s!"{e.name} {name}" value low high).getD default

/-- One of a fixed set of words, or `default` if the attribute is absent or bad. -/
def choiceAttribute (e : Element) (name what : String) (choose : String → Option α)
    (default : α) : Reading α :=
  match e.attribute? name with
  | none => pure default
  | some value =>
    match choose value with
    | some a => pure a
    | none => do
      warn e (.invalidValue what value)
      return default

end Reading

end DeskConfig
