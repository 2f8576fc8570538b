import DeskConfig.Shell.Syntax

/-!
Arithmetic on whole numbers of 64 bits: variables, the usual operators from assignment
down to negation, and parentheses. A text is first read as an expression, which is
computed afterwards, so that the side of a choice that is not taken does nothing.
-/

namespace DeskConfig.Shell

inductive Operator where
  | times
  | divided
  | remainder
  | plus
  | minus
  | left
  | right
  | less
  | atMost
  | greater
  | atLeast
  | equal
  | different
  | bitAnd
  | bitXor
  | bitOr
deriving DecidableEq

inductive Sum where
  | number (n : Int)
  | variable (name : Text)
  | negated (a : Sum)
  | complement (a : Sum)
  | not (a : Sum)
  | operation (o : Operator) (a b : Sum)
  | both (a b : Sum)
  | either (a b : Sum)
  | choice (condition a b : Sum)
  | assignment (name : Text) (o : Option Operator) (a : Sum)

namespace Operator

/-- How tightly an operator binds. -/
def strength : Operator → Nat
  | times | divided | remainder => 8
  | plus | minus => 7
  | left | right => 6
  | less | atMost | greater | atLeast => 5
  | equal | different => 4
  | bitAnd => 3
  | bitXor => 2
  | bitOr => 1

def spellings : List (String × Operator) :=
  [("*", times), ("/", divided), ("%", remainder), ("+", plus), ("-", minus), ("<<", left),
    (">>", right), ("<=", atMost), (">=", atLeast), ("<", less), (">", greater),
    ("==", equal), ("!=", different), ("&", bitAnd), ("^", bitXor), ("|", bitOr)]

def mayAssign (o : Operator) : Bool :=
  [times, divided, remainder, plus, minus, left, right, bitAnd, bitXor, bitOr].contains o

end Operator

/-- The signs and names of an expression. -/
inductive SumToken where
  | number (n : Int)
  | name (cs : Text)
  | operator (o : Operator)
  | assign (o : Option Operator)
  | sign (s : String)
deriving DecidableEq

namespace Sum

def digitValue (c : Char) : Nat :=
  if c.isDigit then c.toNat - '0'.toNat
  else if 'a' ≤ c ∧ c ≤ 'f' then c.toNat - 'a'.toNat + 10
  else if 'A' ≤ c ∧ c ≤ 'F' then c.toNat - 'A'.toNat + 10
  else 99

def digitsIn (base : Nat) (value : Nat) : Text → Nat × Text
  | [] => (value, [])
  | c :: cs =>
    if digitValue c < base then digitsIn base (base * value + digitValue c) cs
    else (value, c :: cs)

/-- The number that a text starts with, whose base its first characters tell. -/
def magnitude : Text → Nat × Text
  | '0' :: x :: d :: cs =>
    if (x = 'x' ∨ x = 'X') ∧ digitValue d < 16 then digitsIn 16 0 (d :: cs)
    else digitsIn 8 0 (x :: d :: cs)
  | '0' :: cs => digitsIn 8 0 cs
  | cs => digitsIn 10 0 cs

def largest : Nat := 9223372036854775807

def clamped (n : Int) : Int := max (-9223372036854775808) (min largest n)

/-- Results have 64 bits and wrap around. -/
def wrap (n : Int) : Int := Int.bmod n 18446744073709551616

def bits (n : Int) : Nat := (n % 18446744073709551616).toNat

def isBlank (c : Char) : Bool := c == ' ' || c == '\t' || c == '\n'

def operatorAt? (cs : Text) : Option (Operator × Text) :=
  Operator.spellings.findSome? fun (s, o) =>
    if s.toList.isPrefixOf cs then some (o, cs.drop s.length) else none

def tokens : (bound : Nat) → Text → Option (List SumToken)
  | 0, _ => none
  | _, [] => some []
  | n + 1, c :: cs =>
    let put (t : SumToken) (rest : Text) : Option (List SumToken) :=
      (tokens n rest).map (t :: ·)
    if isBlank c then tokens n cs
    else if c.isDigit then
      let (value, rest) := magnitude (c :: cs)
      put (.number (clamped value)) rest
    else if isNameStart c then
      let name := leadingName (c :: cs)
      put (.name name) (cs.drop (name.length - 1))
    else
      match c, cs with
      | '|', '|' :: rest => put (.sign "||") rest
      | '&', '&' :: rest => put (.sign "&&") rest
      | _, _ =>
        match operatorAt? (c :: cs) with
        | some (o, '=' :: rest) =>
          if o.mayAssign then put (.assign (some o)) rest else put (.operator o) ('=' :: rest)
        | some (o, rest) => put (.operator o) rest
        | none =>
          if c = '=' then put (.assign none) cs
          else if "()?:~!".toList.contains c then put (.sign (String.singleton c)) cs
          else none

abbrev Reader := List SumToken → Option (Sum × List SumToken)

mutual

def expression : Nat → Reader
  | 0, _ => none
  | n + 1, .name name :: .assign o :: rest =>
    (expression n rest).map fun (a, rest) => (.assignment name o a, rest)
  | n + 1, ts => chosen n ts

def chosen : Nat → Reader
  | 0, _ => none
  | n + 1, ts => do
    let (a, rest) ← alternatives n ts
    match rest with
    | .sign "?" :: rest =>
      let (b, rest) ← expression n rest
      match rest with
      | .sign ":" :: rest =>
        let (c, rest) ← chosen n rest
        return (.choice a b c, rest)
      | _ => none
    | rest => return (a, rest)

def alternatives : Nat → Reader
  | 0, _ => none
  | n + 1, ts => do
    let (a, rest) ← conjunction n ts
    match rest with
    | .sign "||" :: rest =>
      let (b, rest) ← alternatives n rest
      return (.either a b, rest)
    | rest => return (a, rest)

def conjunction : Nat → Reader
  | 0, _ => none
  | n + 1, ts => do
    let (first, rest) ← operand n ts
    let (a, rest) ← operations n 0 first rest
    match rest with
    | .sign "&&" :: rest =>
      let (b, rest) ← conjunction n rest
      return (.both a b, rest)
    | rest => return (a, rest)

/-- What follows an operand, as long as it binds more tightly than what is before. -/
def operations : Nat → (strength : Nat) → Sum → Reader
  | 0, _, _, _ => none
  | n + 1, strength, a, .operator o :: rest =>
    if o.strength ≤ strength then some (a, .operator o :: rest)
    else do
      let (b, rest) ← operand n rest
      let (b, rest) ← operations n o.strength b rest
      operations n strength (.operation o a b) rest
  | _, _, a, rest => some (a, rest)

def operand : Nat → Reader
  | n + 1, .sign "(" :: rest => do
    let (a, rest) ← expression n rest
    match rest with
    | .sign ")" :: rest => return (a, rest)
    | _ => none
  | _, .number k :: rest => some (.number k, rest)
  | _, .name name :: rest => some (.variable name, rest)
  | n + 1, .operator .plus :: rest => operand n rest
  | n + 1, .operator .minus :: rest => (operand n rest).map fun (a, rest) => (.negated a, rest)
  | n + 1, .sign "!" :: rest => (operand n rest).map fun (a, rest) => (.not a, rest)
  | n + 1, .sign "~" :: rest => (operand n rest).map fun (a, rest) => (.complement a, rest)
  | _, _ => none

end

def ofText? (cs : Text) : Option Sum := do
  let ts ← tokens (cs.length + 1) cs
  match ← expression (8 * (ts.length + 1)) ts with
  | (a, []) => some a
  | _ => none

def truth (b : Bool) : Int := if b then 1 else 0

/-- Whether there is no result, and one that is too large: division by zero fails, and a
division whose result has no 64 bits ends the shell. -/
inductive Outcome where
  | value (n : Int)
  | undefined
  | overflow

def quotient (result : Int) (a b : Int) : Outcome :=
  if b = 0 then .undefined
  else if b = -1 ∧ a = -9223372036854775808 then .overflow
  else .value result

def compute (o : Operator) (a b : Int) : Outcome :=
  match o with
  | .times => .value (wrap (a * b))
  | .divided => quotient (Int.tdiv a b) a b
  | .remainder => quotient (Int.tmod a b) a b
  | .plus => .value (wrap (a + b))
  | .minus => .value (wrap (a - b))
  | .left => .value (wrap (Nat.shiftLeft (bits a) (b % 64).toNat))
  | .right => .value (Int.shiftRight a (b % 64).toNat)
  | .less => .value (truth (a < b))
  | .atMost => .value (truth (a ≤ b))
  | .greater => .value (truth (a > b))
  | .atLeast => .value (truth (a ≥ b))
  | .equal => .value (truth (a == b))
  | .different => .value (truth (a != b))
  | .bitAnd => .value (wrap (Nat.land (bits a) (bits b)))
  | .bitXor => .value (wrap (Nat.xor (bits a) (bits b)))
  | .bitOr => .value (wrap (Nat.lor (bits a) (bits b)))

end Sum

def isNumberBlank (c : Char) : Bool := c == ' ' || ('\t' ≤ c && c ≤ '\r')

/-- A whole text as a number of 64 bits with a sign: with `anyBase` its first digits tell
its base, and no text at all is zero. -/
def integer? (anyBase : Bool) (cs : Text) : Option Int :=
  let cs := cs.dropWhile isNumberBlank
  let (negative, digits) := match cs with
    | '-' :: rest => (true, rest)
    | '+' :: rest => (false, rest)
    | cs => (false, cs)
  let (n, rest) := if anyBase then Sum.magnitude digits else Sum.digitsIn 10 0 digits
  let value : Int := if negative then -(n : Int) else n
  if !digits.any Char.isDigit || !(digits.head?.any Char.isDigit) then
    if anyBase && (cs.all isNumberBlank) then some 0 else none
  else if !rest.all isNumberBlank || Sum.clamped value ≠ value then none
  else some value

def count? (w : Text) : Option Nat :=
  match integer? false w with
  | some n => if 0 ≤ n && n < 2147483648 then some n.toNat else none
  | none => none

def integerText (n : Int) : Text :=
  if n < 0 then '-' :: Nat.toDigits 10 n.natAbs else Nat.toDigits 10 n.natAbs

end DeskConfig.Shell
