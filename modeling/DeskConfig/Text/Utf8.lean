/-!
Characters and the bytes that encode them. Positions in markup count bytes, so a
character has a width; files hold bytes, so reading them decodes. Decoding never
fails: every longest run of bytes that begins a character and does not finish it
becomes one replacement character.
-/

namespace DeskConfig.Text

/-- Number of bytes that encode a text. -/
def byteSize : List Char → Nat
  | [] => 0
  | c :: cs => c.utf8Size + byteSize cs

@[simp] theorem byteSize_append (a b : List Char) :
    byteSize (a ++ b) = byteSize a + byteSize b := by
  induction a with
  | nil => simp [byteSize]
  | cons c cs ih => simp [byteSize, ih, Nat.add_assoc]

/-- First of the bytes that encode a character. -/
def leadByte (c : Char) : Nat :=
  let n := c.toNat
  if n < 0x80 then n
  else if n < 0x800 then 0xC0 + n / 0x40
  else if n < 0x10000 then 0xE0 + n / 0x1000
  else 0xF0 + n / 0x40000

/-- The first byte of a character, read as a character of its own. -/
def leadChar (c : Char) : Char := Char.ofNat (leadByte c)

def replacement : Char := Char.ofNat 0xFFFD

/-- A character whose first bytes were read: `value` holds their bits, `missing`
bytes are to come, and the next of them lies between `low` and `high`. -/
structure Partial where
  value : Nat
  missing : Nat
  low : Nat := 0x80
  high : Nat := 0xBF

/-- What a byte begins: a whole character, a longer one, or nothing. -/
inductive Opening where
  | whole (c : Char)
  | longer (p : Partial)
  | nothing

def opening (byte : Nat) : Opening :=
  if byte < 0x80 then .whole (Char.ofNat byte)
  else if 0xC2 ≤ byte ∧ byte ≤ 0xDF then .longer { value := byte - 0xC0, missing := 1 }
  else if byte = 0xE0 then .longer { value := 0, missing := 2, low := 0xA0 }
  else if byte = 0xED then .longer { value := 0xD, missing := 2, high := 0x9F }
  else if 0xE1 ≤ byte ∧ byte ≤ 0xEF then .longer { value := byte - 0xE0, missing := 2 }
  else if byte = 0xF0 then .longer { value := 0, missing := 3, low := 0x90 }
  else if 0xF1 ≤ byte ∧ byte ≤ 0xF3 then .longer { value := byte - 0xF0, missing := 3 }
  else if byte = 0xF4 then .longer { value := 4, missing := 3, high := 0x8F }
  else .nothing

def decodeFrom : Option Partial → List UInt8 → List Char
  | none, [] => []
  | some _, [] => [replacement]
  | none, b :: bytes => start b bytes
  | some p, b :: bytes =>
    let byte := b.toNat
    if p.low ≤ byte ∧ byte ≤ p.high then
      let value := p.value * 0x40 + (byte - 0x80)
      if p.missing ≤ 1 then Char.ofNat value :: decodeFrom none bytes
      else decodeFrom (some { value := value, missing := p.missing - 1 }) bytes
    else replacement :: start b bytes
where
  start (b : UInt8) (bytes : List UInt8) : List Char :=
    match opening b.toNat with
    | .whole c => c :: decodeFrom none bytes
    | .longer p => decodeFrom (some p) bytes
    | .nothing => replacement :: decodeFrom none bytes

def decode (bytes : List UInt8) : List Char := decodeFrom none bytes

end DeskConfig.Text
