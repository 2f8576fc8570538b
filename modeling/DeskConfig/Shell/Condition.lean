import DeskConfig.Shell.Variables

/-!
Conditions on words: comparing texts and numbers, asking for files, and joining
conditions. A condition that cannot be read, and a number that is none, is a mistake.
-/

namespace DeskConfig.Shell

/-- What a word can be in a condition. -/
inductive ConditionWord where
  | operand
  | unary (letter : Char)
  | binary (operator : String)
  | both
  | either
  | negation
  | opening
  | closing
  | ended
deriving DecidableEq

namespace Condition

def unaryLetters : Text := "rwxefdcbpugksetznhOGLS".toList

def binaryOperators : List String :=
  ["=", "!=", "<", ">", "-eq", "-ne", "-ge", "-gt", "-le", "-lt", "-nt", "-ot", "-ef"]

/-- What a word means if it is no operand. -/
def operator? (w : Text) : Option ConditionWord :=
  let spelled := String.ofList w
  if binaryOperators.contains spelled then some (.binary spelled)
  else
    match w with
    | ['-', 'a'] => some .both
    | ['-', 'o'] => some .either
    | ['!'] => some .negation
    | ['('] => some .opening
    | [')'] => some .closing
    | ['-', c] => if unaryLetters.contains c then some (.unary c) else none
    | _ => none

def isBinary (w : Text) : Bool := binaryOperators.contains (String.ofList w)

/-- What the first word is, in view of those behind it: an operator without anything to
apply to is an operand. -/
def kind : List Text → ConditionWord
  | [] => .ended
  | w :: rest =>
    match operator? w, rest with
    | some (.unary c), x :: more =>
      if !more.isEmpty && isBinary x then .operand else .unary c
    | some (.unary _), [] => .operand
    | some .opening, [] => .operand
    | some k, _ => k
    | none, _ => .operand

end Condition

namespace Act

open Condition

def fileCondition (letter : Char) (w : Text) : Act Bool := do
  let e ← entryOf w
  let isThere := e ≠ .nothing
  return match letter, e with
    | 'f', .file _ | 'd', .folder _ | 'x', .folder _ | 's', .folder _ => true
    | 's', .file content => !content.isEmpty
    | letter, _ => "erw".toList.contains letter && isThere

def unaryCondition (letter : Char) (w : Text) : Act Bool := do
  match letter with
  | 'z' => return w.isEmpty
  | 'n' => return !w.isEmpty
  | 't' => do
    let _ ← orFail (integer? false w)
    return false
  | letter => fileCondition letter w

def binaryCondition (operator : String) (a b : Text) : Act Bool := do
  let numbers (f : Int → Int → Bool) : Act Bool := do
    return f (← orFail (integer? false a)) (← orFail (integer? false b))
  match operator with
  | "=" => return a == b
  | "!=" => return a != b
  | "<" => return textLess a b
  | ">" => return textLess b a
  | "-eq" => numbers (· == ·)
  | "-ne" => numbers (· != ·)
  | "-ge" => numbers (· ≥ ·)
  | "-gt" => numbers (· > ·)
  | "-le" => numbers (· ≤ ·)
  | "-lt" => numbers (· < ·)
  | _ => return false

/-- A part of a condition, and the words from its last one on. -/
abbrev ConditionReader := List Text → Act (Bool × List Text)

def basicCondition (inner : ConditionReader) : ConditionReader := fun ws => do
  match kind ws, ws with
  | .ended, _ | _, [] => return (false, ws)
  | .opening, _ :: rest =>
    if kind rest = .closing then return (false, rest)
    let (value, last) ← inner rest
    if kind (last.drop 1) ≠ .closing then fail
    return (value, last.drop 1)
  | .unary letter, _ :: rest =>
    match rest with
    | [] => fail
    | w :: _ => return (← unaryCondition letter w, rest)
  | _, w :: rest =>
    match kind rest, rest with
    | .binary operator, _ :: behind =>
      match behind with
      | [] => fail
      | b :: _ => return (← binaryCondition operator w b, behind)
    | _, _ => return (!w.isEmpty, ws)

mutual

def anyCondition : (bound : Nat) → ConditionReader
  | 0, _ => fail
  | n + 1, ws => do
    let (a, last) ← allConditions n ws
    if kind (last.drop 1) ≠ .either then return (a, last)
    let (b, last) ← anyCondition n (last.drop 2)
    return (a || b, last)

def allConditions : (bound : Nat) → ConditionReader
  | 0, _ => fail
  | n + 1, ws => do
    let (a, last) ← negatedCondition n ws
    if kind (last.drop 1) ≠ .both then return (a, last)
    let (b, last) ← allConditions n (last.drop 2)
    return (a && b, last)

def negatedCondition : (bound : Nat) → ConditionReader
  | 0, _ => fail
  | n + 1, ws => do
    if kind ws = .negation then
      let (value, last) ← negatedCondition n (ws.drop 1)
      return (!value, last)
    basicCondition (anyCondition n) ws

end

/-- A whole condition. Few words have a meaning of their own: with three, an operator in
the middle counts; with three or four, parentheses around them and a negation in front
come first. -/
def conditionOf : (bound : Nat) → List Text → Act Bool
  | 0, _ => fail
  | n + 1, ws => do
    let whole : Act Bool := do
      let (value, last) ← anyCondition (4 * (ws.length + 2)) ws
      if last.length > 1 then fail
      return value
    match ws with
    | [] => return false
    | [a, o, b] =>
      if isBinary o then binaryCondition (String.ofList o) a b
      else if a == ['('] && b == [')'] then conditionOf n [o]
      else if a == ['!'] then return !(← conditionOf n [o, b])
      else whole
    | [a, o, p, b] =>
      if a == ['('] && b == [')'] then conditionOf n [o, p]
      else if a == ['!'] then return !(← conditionOf n [o, p, b])
      else whole
    | _ => whole

def condition (bracket : Bool) (ws : List Text) : Act Bool := do
  if !bracket then conditionOf (ws.length + 1) ws
  else
    match ws.getLast? with
    | some (']' :: _) => conditionOf (ws.length + 1) ws.dropLast
    | _ => fail

end Act

end DeskConfig.Shell
