import DeskConfig.Include.Environment
import DeskConfig.Text.WordChar

/-!
References to files. A reference is a sequence of literal characters and variables;
a variable is written `$name`, `${name}` or `${name:-default}`, and a doubled dollar
sign stands for itself. Values are taken as they are. A tilde at the start that
stands alone or before a slash is the home directory.
-/

namespace DeskConfig.Reference

open Text

inductive Part where
  | literal (cs : List Char)
  | variable (name : List Char) (default? : Option (List Char))
deriving DecidableEq, Repr

/-- Splits at the first `:-`. -/
def splitDefault : List Char → Option (List Char × List Char)
  | [] => none
  | ':' :: '-' :: cs => some ([], cs)
  | c :: cs => (splitDefault cs).map fun (name, rest) => (c :: name, rest)

/-- What stands in braces. A default needs a name before it. -/
def braced (body : List Char) : Part :=
  match splitDefault body with
  | some (c :: name, rest) => .variable (c :: name) (some rest)
  | _ => .variable body none

/-- The first part of a non-empty reference, and what is left of it. -/
def nextPart : List Char → Part × List Char
  | '$' :: '{' :: cs =>
    if '}' ∈ cs then (braced (cs.takeWhile (· != '}')), (cs.dropWhile (· != '}')).drop 1)
    else (.literal ['$', '{'], cs)
  | '$' :: '$' :: cs => (.literal ['$'], cs)
  | '$' :: cs =>
    match cs.takeWhile isWordChar with
    | [] => (.literal ['$'], cs)
    | name => (.variable name none, cs.dropWhile isWordChar)
  | cs => (.literal (cs.takeWhile (· != '$')), cs.dropWhile (· != '$'))

/-- Reads at most `count` parts. -/
def partsFrom : (count : Nat) → List Char → List Part
  | 0, _ => []
  | _ + 1, [] => []
  | count + 1, c :: cs =>
    let (part, rest) := nextPart (c :: cs)
    part :: partsFrom count rest

/-- Every part takes at least one character of the reference. -/
def parts (cs : List Char) : List Part := partsFrom cs.length cs

/-- The text of a part, or the name of a variable that has no value. -/
def Part.value (env : Environment) : Part → Except (List Char) (List Char)
  | .literal cs => .ok cs
  | .variable name default? =>
    match env.value? name, default? with
    | some value, _ => .ok value
    | none, some value => .ok value
    | none, none => .error name

def substitute (env : Environment) : List Part → Except (List Char) (List Char)
  | [] => .ok []
  | part :: rest => do
    let value ← part.value env
    return value ++ (← substitute env rest)

def expandHome (env : Environment) : List Char → List Char
  | ['~'] => env.home?.getD ['~']
  | '~' :: '/' :: cs =>
    match env.home? with
    | some home => home ++ '/' :: cs
    | none => '~' :: '/' :: cs
  | cs => cs

/-- A tilde that a variable brought to the start is not the home directory. -/
def expandFrom (env : Environment) (cs : List Char) : Except (List Char) (List Char) := do
  let path ← substitute env (parts cs)
  return if path.head? = some '~' ∧ cs.head? ≠ some '~' then path else expandHome env path

/-- The path a reference names, or a variable in it that is not set. -/
def expand (env : Environment) (reference : String) : Except String String :=
  match expandFrom env reference.toList with
  | .ok path => .ok (String.ofList path)
  | .error name => .error (String.ofList name)

end DeskConfig.Reference
