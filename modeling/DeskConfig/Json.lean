/-!
JSON values and their written form: two blanks of indentation a level, members in
the order given, and nothing between the brackets of an empty array or object.
Characters are written as themselves except for quotes, backslashes and controls.
-/

namespace DeskConfig

inductive Json where
  | null
  | bool (b : Bool)
  | num (n : Int)
  | str (s : String)
  | arr (items : List Json)
  | obj (members : List (String × Json))

namespace Json

def ofNat (n : Nat) : Json := .num n

def strings (ss : List String) : Json := .arr (ss.map .str)

/-- An absent value is written as null. -/
def ofOption (f : α → Json) : Option α → Json
  | none => .null
  | some a => f a

def optionalString : Option String → Json := ofOption .str

/-- Two hexadecimal digits. -/
def hexByte (n : Nat) : List Char := [Nat.digitChar (n / 16), Nat.digitChar (n % 16)]

def escaped (c : Char) : List Char :=
  if c = '"' then ['\\', '"']
  else if c = '\\' then ['\\', '\\']
  else if c = '\x08' then ['\\', 'b']
  else if c = '\t' then ['\\', 't']
  else if c = '\n' then ['\\', 'n']
  else if c = '\x0c' then ['\\', 'f']
  else if c = '\r' then ['\\', 'r']
  else if c.toNat < 0x20 then ['\\', 'u', '0', '0'] ++ hexByte c.toNat
  else [c]

def quoted (s : String) : List Char := '"' :: (s.toList.flatMap escaped ++ ['"'])

def decimal (n : Int) : List Char :=
  if n < 0 then '-' :: Nat.toDigits 10 n.natAbs else Nat.toDigits 10 n.natAbs

/-- A line feed and the indentation of a level. -/
def newLine (level : Nat) : List Char := '\n' :: List.replicate (2 * level) ' '

mutual

def renderFrom (level : Nat) : Json → List Char
  | .null => ['n', 'u', 'l', 'l']
  | .bool true => ['t', 'r', 'u', 'e']
  | .bool false => ['f', 'a', 'l', 's', 'e']
  | .num n => decimal n
  | .str s => quoted s
  | .arr items =>
    if items.isEmpty then ['[', ']']
    else '[' :: (renderItems (level + 1) [] items ++ (newLine level ++ [']']))
  | .obj members =>
    if members.isEmpty then ['\x7b', '\x7d']
    else '\x7b' :: (renderMembers (level + 1) [] members ++ (newLine level ++ ['\x7d']))

/-- Each item on a line of its own, `separator` before the first. -/
def renderItems (level : Nat) (separator : List Char) : List Json → List Char
  | [] => []
  | item :: items =>
    separator ++ (newLine level ++ (renderFrom level item ++ renderItems level [','] items))

def renderMembers (level : Nat) (separator : List Char) : List (String × Json) → List Char
  | [] => []
  | (name, value) :: members =>
    separator ++ (newLine level ++ (quoted name ++ (':' :: ' ' ::
      (renderFrom level value ++ renderMembers level [','] members))))

end

def render (j : Json) : String := String.ofList (renderFrom 0 j)

end Json

end DeskConfig
