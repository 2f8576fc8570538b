import DeskConfig.Markup.Escape

/-!
The attributes of a tag: names, an equals sign and a value in quotes, separated by
blanks that may be left out after a closing quote. Names may repeat and keep their
order. Reading goes character by character, and positions count the bytes from the
start of the tag's name.
-/

namespace DeskConfig.Markup

open Text

structure Attribute where
  name : String
  value : String
deriving DecidableEq, Repr

/-- The blanks of markup, fewer than those of running text. -/
def isSpace (c : Char) : Bool := c == ' ' || c == '\t' || c == '\r' || c == '\n'

inductive AttributeError where
  | missingEquals (pos : Nat)
  | missingValue (pos : Nat)
  | missingQuote (pos : Nat)
  | openQuote (pos : Nat) (quote : Char)
deriving DecidableEq, Repr

def AttributeError.message : AttributeError → String
  | .missingEquals pos =>
    s!"position {pos}: attribute key must be directly followed by `=` or space"
  | .missingValue pos => s!"position {pos}: `=` must be followed by an attribute value"
  | .missingQuote pos => s!"position {pos}: attribute value must be enclosed in `\"` or `'`"
  | .openQuote pos quote =>
    s!"position {pos}: missing closing quote `{quote}` in attribute value"

/-- An attribute as written: its value may still hold escapes. -/
structure RawAttribute where
  name : List Char
  value : List Char
deriving DecidableEq, Repr

/-- What was read of the attribute that is being read. Names and values under way
have their last character first. -/
inductive AttributeState where
  | between
  | name (name : List Char)
  | beforeEquals (name : List Char)
  | beforeValue (name : List Char)
  | value (name : List Char) (quote : Char) (value : List Char)

/-- The attributes up to the first error, and that error. -/
structure AttributeScan where
  attributes : List RawAttribute
  failure : Option AttributeError := none

def AttributeScan.cons (a : RawAttribute) (s : AttributeScan) : AttributeScan :=
  { s with attributes := a :: s.attributes }

/-- The error of a tag that ends, after `size` bytes, in the given state. -/
def AttributeState.unfinished? (size : Nat) : AttributeState → Option AttributeError
  | .between => none
  | .name _ => some (.missingEquals size)
  | .beforeEquals _ => some (.missingEquals size)
  | .beforeValue _ => some (.missingValue size)
  | .value _ quote _ => some (.openQuote size quote)

def scanAttributesFrom (size : Nat) :
    AttributeState → (pos : Nat) → List Char → AttributeScan
  | state, _, [] => { attributes := [], failure := state.unfinished? size }
  | .between, pos, c :: cs =>
    if isSpace c then scanAttributesFrom size .between (pos + 1) cs
    else scanAttributesFrom size (.name [c]) (pos + c.utf8Size) cs
  | .name name, pos, c :: cs =>
    if c = '=' then scanAttributesFrom size (.beforeValue name) (pos + 1) cs
    else if isSpace c then scanAttributesFrom size (.beforeEquals name) (pos + 1) cs
    else scanAttributesFrom size (.name (c :: name)) (pos + c.utf8Size) cs
  | .beforeEquals name, pos, c :: cs =>
    if c = '=' then scanAttributesFrom size (.beforeValue name) (pos + 1) cs
    else if isSpace c then scanAttributesFrom size (.beforeEquals name) (pos + 1) cs
    else { attributes := [], failure := some (.missingEquals pos) }
  | .beforeValue name, pos, c :: cs =>
    if isSpace c then scanAttributesFrom size (.beforeValue name) (pos + 1) cs
    else if c = '"' ∨ c = '\x27' then scanAttributesFrom size (.value name c []) (pos + 1) cs
    else { attributes := [], failure := some (.missingQuote pos) }
  | .value name quote value, pos, c :: cs =>
    if c = quote then
      (scanAttributesFrom size .between (pos + 1) cs).cons
        { name := name.reverse, value := value.reverse }
    else scanAttributesFrom size (.value name quote (c :: value)) (pos + c.utf8Size) cs

/-- The name of a tag: all up to the first blank. -/
def tagName (content : List Char) : List Char := content.takeWhile (!isSpace ·)

def scanAttributes (content : List Char) : AttributeScan :=
  scanAttributesFrom (byteSize content) .between (byteSize (tagName content))
    (content.dropWhile (!isSpace ·))

end DeskConfig.Markup
