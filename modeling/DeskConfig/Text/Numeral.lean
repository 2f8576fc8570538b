import DeskConfig.Text.Blank

/-!
Numbers in attributes and text: an optional sign and one or more decimal digits,
with blanks allowed around them. The value is taken as a whole, however many
digits there are, and then compared with the range the setting allows.
-/

namespace DeskConfig.Text

def digit? (c : Char) : Option Nat :=
  if c.isDigit then some (c.toNat - '0'.toNat) else none

def digitsFrom (value : Nat) : List Char → Option Nat
  | [] => some value
  | c :: cs => (digit? c).bind fun d => digitsFrom (10 * value + d) cs

/-- The value of a non-empty run of digits. -/
def digits? : List Char → Option Nat
  | [] => none
  | cs => digitsFrom 0 cs

/-- A number without a minus; a plus may stand before it. -/
def natural? : List Char → Option Nat
  | '+' :: cs => digits? cs
  | cs => digits? cs

/-- A number with an optional sign. -/
def integer? : List Char → Option Int
  | '-' :: cs => (digits? cs).map fun n => -(n : Int)
  | cs => (natural? cs).map fun n => (n : Int)

def naturalIn? (low high : Nat) (cs : List Char) : Option Nat :=
  (natural? cs).filter fun n => low ≤ n && n ≤ high

def integerIn? (low high : Int) (cs : List Char) : Option Int :=
  (integer? cs).filter fun n => low ≤ n && n ≤ high

/-- The largest number a 32-bit setting holds. -/
def maxWord : Nat := 4294967295

end DeskConfig.Text
