import DeskConfig.Shell.Syntax

/-!
Patterns: a star for any text, a question mark for one byte, brackets for one of
several. A backslash takes its meaning from the byte behind it.
-/

namespace DeskConfig.Shell

/-- One byte, or what stands for one. -/
inductive PatternItem where
  | exactly (c : Char)
  | one
  | many
  | among (negated : Bool) (choices : List (Char → Bool))

namespace Pattern

/-- Bytes from 128 on count as negative in ranges. -/
def order (c : Char) : Int := if c.toNat < 128 then c.toNat else (c.toNat : Int) - 256

def isUpper (c : Char) : Bool := 'A' ≤ c && c ≤ 'Z'

def isLower (c : Char) : Bool := 'a' ≤ c && c ≤ 'z'

def isGraph (c : Char) : Bool := '!' ≤ c && c ≤ '~'

def isAlnum (c : Char) : Bool := isUpper c || isLower c || c.isDigit

def kinds : List (String × (Char → Bool)) :=
  [("alnum", isAlnum), ("cntrl", fun c => c < ' ' || c == '\x7f'), ("lower", isLower),
    ("space", fun c => c == ' ' || ('\t' ≤ c && c ≤ '\r')),
    ("alpha", fun c => isUpper c || isLower c), ("digit", Char.isDigit),
    ("print", fun c => c == ' ' || isGraph c), ("upper", isUpper),
    ("blank", fun c => c == ' ' || c == '\t'), ("graph", isGraph),
    ("punct", fun c => isGraph c && !isAlnum c),
    ("xdigit", fun c => c.isDigit || ('a' ≤ c && c ≤ 'f') || ('A' ≤ c && c ≤ 'F'))]

def kindAt? (cs : Text) : Option ((Char → Bool) × Text) :=
  kinds.findSome? fun (name, f) =>
    let spelled := ":".toList ++ name.toList ++ ":]".toList
    if spelled.isPrefixOf cs then some (f, cs.drop spelled.length) else none

/-- What stands in brackets, and what follows them. A closing bracket at the very start
is one of the bytes. -/
def choices : (bound : Nat) → (first : Bool) → Text → Option (List (Char → Bool) × Text)
  | 0, _, _ => none
  | _, _, [] => none
  | n + 1, first, c :: cs =>
    if c = ']' ∧ !first then some ([], cs)
    else
      match if c = '[' then kindAt? cs else none with
      | some (f, rest) => (choices n false rest).map fun (fs, rest) => (f :: fs, rest)
      | none =>
        let (c, cs) := if c = '\\' then (cs.headD '\x00', cs.drop 1) else (c, cs)
        match cs with
        | '-' :: d :: rest =>
          if d = ']' then single n c ('-' :: d :: rest)
          else
            let (d, rest) := if d = '\\' then (rest.headD '\x00', rest.drop 1) else (d, rest)
            (choices n false rest).map fun (fs, rest) =>
              ((fun x => order c ≤ order x && order x ≤ order d) :: fs, rest)
        | cs => single n c cs
where
  single (n : Nat) (c : Char) (cs : Text) : Option (List (Char → Bool) × Text) :=
    (choices n false cs).map fun (fs, rest) => ((· == c) :: fs, rest)

def among? (cs : Text) : Option (PatternItem × Text) :=
  let negated := cs.head? == some '!'
  let cs := if negated then cs.drop 1 else cs
  (choices (cs.length + 1) true cs).map fun (fs, rest) => (.among negated fs, rest)

def itemsFrom : (bound : Nat) → Text → List PatternItem
  | 0, _ => []
  | _, [] => []
  | n + 1, '*' :: cs => .many :: itemsFrom n cs
  | n + 1, '?' :: cs => .one :: itemsFrom n cs
  | n + 1, '\\' :: c :: cs => .exactly c :: itemsFrom n cs
  | n + 1, '[' :: cs =>
    match among? cs with
    | some (item, rest) => item :: itemsFrom n rest
    | none => .exactly '[' :: itemsFrom n cs
  | n + 1, c :: cs => .exactly c :: itemsFrom n cs

def items (cs : Text) : List PatternItem := itemsFrom (cs.length + 1) cs

/-- A text and what is left of it after one, two and more bytes. -/
def suffixes : Text → List Text
  | [] => [[]]
  | c :: cs => (c :: cs) :: suffixes cs

def isMatch : List PatternItem → Text → Bool
  | [], cs => cs.isEmpty
  | .many :: ps, cs => (suffixes cs).any fun rest => isMatch ps rest
  | .exactly p :: ps, c :: cs => p == c && isMatch ps cs
  | .one :: ps, _ :: cs => isMatch ps cs
  | .among negated fs :: ps, c :: cs => fs.any (· c) != negated && isMatch ps cs
  | _ :: _, [] => false

def fits (pattern text : Text) : Bool := isMatch (items pattern) text

def isPlain : Text → Bool
  | [] => true
  | '\\' :: _ :: cs => isPlain cs
  | c :: cs => !(c == '*' || c == '?' || c == '[') && isPlain cs

/-- A pattern without its backslashes. -/
def spelling : Text → Text
  | [] => []
  | '\\' :: c :: cs => c :: spelling cs
  | c :: cs => c :: spelling cs

end Pattern

end DeskConfig.Shell
