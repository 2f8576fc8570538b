import DeskConfig.Text.Quoted
import DeskConfig.Text.Utf8

/-!
Escapes in running text and attribute values. An ampersand and a semicolon enclose
a name: one of five fixed ones, or a number sign and the decimal or hexadecimal
code of a character. Errors carry byte positions within the text that was read.
-/

namespace DeskConfig.Markup

open Text

inductive EscapeError where
  | unterminated (start stop : Nat)
  | unknownName (start stop : Nat) (name : List Char)
  | codeZero (start stop : Nat)
  | longDecimal
  | longHexadecimal
  | notDecimal (c : Char)
  | notHexadecimal (c : Char)
  | noCharacter (code : Nat)
deriving DecidableEq, Repr

def EscapeError.inRange (start stop : Nat) (what : String) : String :=
  s!"Error while escaping character at range {start}..{stop}: " ++ what

def EscapeError.message : EscapeError → String
  | .unterminated start stop => EscapeError.inRange start stop "Cannot find ';' after '&'"
  | .unknownName start stop name =>
    EscapeError.inRange start stop ("Unrecognized escape symbol: " ++ String.ofList (quoted name))
  | .codeZero start stop => EscapeError.inRange start stop "Null character entity not allowed"
  | .longDecimal => "Cannot convert decimal to utf8"
  | .longHexadecimal => "Cannot convert hexadecimal to utf8"
  | .notDecimal c => s!"'{c}' is not a valid decimal character"
  | .notHexadecimal c => s!"'{c}' is not a valid hexadecimal character"
  | .noCharacter code => s!"'{code}' is not a valid codepoint"

def named? : List Char → Option Char
  | ['l', 't'] => some '<'
  | ['g', 't'] => some '>'
  | ['a', 'm', 'p'] => some '&'
  | ['a', 'p', 'o', 's'] => some '\x27'
  | ['q', 'u', 'o', 't'] => some '"'
  | _ => none

def hexDigit? (c : Char) : Option Nat :=
  if c.isDigit then some (c.toNat - '0'.toNat)
  else if 'a' ≤ c ∧ c ≤ 'f' then some (c.toNat - 'a'.toNat + 10)
  else if 'A' ≤ c ∧ c ≤ 'F' then some (c.toNat - 'A'.toNat + 10)
  else none

def decimalDigit? (c : Char) : Option Nat :=
  if c.isDigit then some (c.toNat - '0'.toNat) else none

/-- The number that digits of a base denote; no digits denote zero. A character
that is no digit is reported by its first byte. -/
def codeFrom (base : Nat) (digit? : Char → Option Nat) (wrong : Char → EscapeError)
    (value : Nat) : List Char → Except EscapeError Nat
  | [] => .ok value
  | c :: cs =>
    match digit? c with
    | some d => codeFrom base digit? wrong (base * value + d) cs
    | none => .error (wrong (leadChar c))

/-- At most seven bytes. -/
def decimalCode (digits : List Char) : Except EscapeError Nat :=
  if byteSize digits > 7 then .error .longDecimal
  else codeFrom 10 decimalDigit? .notDecimal 0 digits

/-- At most six bytes. -/
def hexadecimalCode (digits : List Char) : Except EscapeError Nat :=
  if byteSize digits > 6 then .error .longHexadecimal
  else codeFrom 16 hexDigit? .notHexadecimal 0 digits

def character (start stop code : Nat) : Except EscapeError Char :=
  if code = 0 then .error (.codeZero start stop)
  else if code.isValidChar then .ok (Char.ofNat code)
  else .error (.noCharacter code)

/-- The character that an escape stands for; the ampersand is at `start` and the
semicolon at `stop`. -/
def entity (start stop : Nat) : List Char → Except EscapeError Char
  | '#' :: 'x' :: digits => do character start stop (← hexadecimalCode digits)
  | '#' :: digits => do character start stop (← decimalCode digits)
  | name =>
    match named? name with
    | some c => .ok c
    | none => .error (.unknownName (start + 1) stop name)

/-- Reads on at byte `pos`. Inside an escape, `open?` holds where it started and
the characters since, last one first. -/
def unescapeFrom (size : Nat) :
    (open? : Option (Nat × List Char)) → (pos : Nat) → List Char → Except EscapeError (List Char)
  | none, _, [] => .ok []
  | none, pos, c :: cs =>
    if c = '&' then unescapeFrom size (some (pos, [])) (pos + 1) cs
    else do return c :: (← unescapeFrom size none (pos + c.utf8Size) cs)
  | some (start, _), _, [] => .error (.unterminated start size)
  | some (start, name), pos, c :: cs =>
    if c = '&' then .error (.unterminated start size)
    else if c = ';' then do
      let decoded ← entity start pos name.reverse
      return decoded :: (← unescapeFrom size none (pos + 1) cs)
    else unescapeFrom size (some (start, c :: name)) (pos + c.utf8Size) cs

def unescape (raw : List Char) : Except EscapeError (List Char) :=
  unescapeFrom (byteSize raw) none 0 raw

end DeskConfig.Markup
