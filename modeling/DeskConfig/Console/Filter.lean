import DeskConfig.Console.Entry
import DeskConfig.Console.ValuePattern
import DeskConfig.Include.Environment
import DeskConfig.Text.Blank
import DeskConfig.Text.Numeral
import DeskConfig.Text.WordChar

/-!
Which messages the console shows. A filter is a list of directives between commas: a
level for all channels, or a channel with a level of its own, which then counts for
every channel that begins with it. A directive may ask for a span or a field in
brackets; messages have one field and are in no span. The longest channel that fits
decides, then the one with a field, and of two directives that ask for the same the
later one.
-/

namespace DeskConfig

/-- A threshold is a number of levels: zero shows nothing, one errors only. -/
structure Directive where
  channel : Option (List Char) := none
  threshold : Nat := 5
  span : Option (List Char) := none
  fields : List (List Char) := []
  /-- Whether a field has to have a certain value. -/
  hasValue : Bool := false
deriving DecidableEq, Repr

abbrev Filter := List Directive

namespace Directive

def levelNames : List (String × Nat) :=
  [("off", 0), ("error", 1), ("warn", 2), ("info", 3), ("debug", 4), ("trace", 5)]

/-- A level by its number or its name. -/
def level? (cs : List Char) : Option Nat :=
  match Text.naturalIn? 0 5 cs with
  | some n => some n
  | none => (levelNames.find? (·.1.toList == cs.map Char.toLower)).map (·.2)

/-- Where the reading of a directive stands, and where the part began that is read. -/
inductive Place where
  | start
  | name (start : Nat)
  | span (start : Nat)
  | field (start : Nat)
  | fieldEnd
  | spanEnd
  | level (start : Nat)
deriving DecidableEq

/-- The characters of a text that begin at one byte or behind it, but before another. -/
def between (first last : Nat) (cs : List Char) : List Char :=
  let rec go : (position : Nat) → List Char → List Char
    | _, [] => []
    | position, c :: cs =>
      if first ≤ position && position < last then c :: go (position + c.utf8Size) cs
      else go (position + c.utf8Size) cs
  go 0 cs

/-- A field, perhaps with a value, that a directive asks for. -/
def withField (d : Directive) (cs : List Char) : Option Directive :=
  let name := cs.takeWhile (· != '=')
  match cs.drop name.length with
  | [] => if cs.isEmpty then none else some { d with fields := d.fields ++ [name] }
  | _ :: rest =>
    if ValuePattern.isValue (rest.takeWhile (· != '=')) then
      some { d with fields := d.fields ++ [name], hasValue := true }
    else none

def isNameStart (c : Char) : Bool := Text.isWordChar c || c == '-' || c == ':'

/-- Reads one character, which is at the given place of the text. -/
def step (text : List Char) (place : Place) (d : Directive) (i : Nat) (c : Char) :
    Option (Place × Directive) :=
  match place, c with
  | .start, '[' => some (.span (i + 1), d)
  | .start, c => if isNameStart c then some (.name i, d) else none
  | .name start, '=' => some (.level (i + 1), { d with channel := some (between start i text) })
  | .name start, '[' => some (.span (i + 1), { d with channel := some (between start i text) })
  | .span start, ']' => some (.spanEnd, { d with span := some (between start i text) })
  | .span start, '{' =>
    let name := between start i text
    some (.field (i + 1), { d with span := if name.isEmpty then none else some name })
  | .field start, '}' => (d.withField (between start i text)).map fun d => (.fieldEnd, d)
  | .fieldEnd, ']' => some (.spanEnd, d)
  | .spanEnd, '=' => some (.level (i + 1), d)
  | .fieldEnd, _ => none
  | .spanEnd, _ => none
  | place, _ => some (place, d)

/-- The directive at the end of its text. Without a level it means all levels. -/
def finish (text : List Char) (place : Place) (d : Directive) : Option Directive :=
  let rest (start : Nat) : List Char := text.drop (between 0 start text).length
  match place with
  | .name start =>
    match level? (rest start) with
    | some threshold => some { d with threshold }
    | none => some { d with channel := some (rest start) }
  | .level start =>
    if (rest start).isEmpty then some d
    else (level? (rest start)).map fun threshold => { d with threshold }
  | .spanEnd => some d
  | _ => none

def readFrom (text : List Char) : Place → Directive → (i : Nat) → List Char → Option Directive
  | place, d, _, [] => finish text place d
  | place, d, i, c :: cs =>
    match step text place d i c with
    | some (place, d) => readFrom text place d (i + c.utf8Size) cs
    | none => none

/-- Reads a directive. The places of its parts are counted without the blanks around it,
but the parts are taken from the text as it is. -/
def ofText? (text : List Char) : Option Directive := readFrom text .start {} 0 (Text.trim text)

/-- The fields that messages have. -/
def messageFields : List (List Char) := ["message".toList]

/-- Whether a directive has a say about messages of a channel. -/
def fits (channel : List Char) (d : Directive) : Bool :=
  d.span.isNone && !d.hasValue && d.fields.all messageFields.contains &&
    d.channel.all (·.isPrefixOf channel)

/-- How much a directive asks for: without a channel the least. -/
def detail (d : Directive) : Nat × Nat :=
  ((d.channel.map fun name => name.length + 1).getD 0, d.fields.length)

/-- Whether a directive asks for less than another. -/
def isLess (d other : Directive) : Bool :=
  d.detail.1 < other.detail.1 ||
    (d.detail.1 = other.detail.1 && d.detail.2 < other.detail.2)

end Directive

namespace Filter

def splitCommasFrom (part : List Char) : List Char → List (List Char)
  | [] => [part.reverse]
  | c :: cs =>
    if c = ',' then part.reverse :: splitCommasFrom [] cs else splitCommasFrom (c :: part) cs

/-- All directives of a text, or none if one of them cannot be read. -/
def parse? (text : List Char) : Option Filter :=
  ((splitCommasFrom [] text).filter (!·.isEmpty)).mapM Directive.ofText?

/-- A verbose console shows debug messages, another one stops at information. -/
def default (verbose : Bool) : Filter := [{ threshold := if verbose then 4 else 3 }]

/-- The environment may replace the default filter. -/
def ofEnvironment (env : Environment) (verbose : Bool) : Filter :=
  match (env.value? "JWMRC_LOG".toList).bind parse? with
  | none => default verbose
  | some [] => default verbose
  | some directives => directives

def better (best : Option Directive) (d : Directive) : Option Directive :=
  match best with
  | some other => if d.isLess other then some other else some d
  | none => some d

def threshold (f : Filter) (channel : String) : Nat :=
  (((f.filter (Directive.fits channel.toList)).foldl better none).map (·.threshold)).getD 0

def shows (f : Filter) (e : Entry) : Bool := e.level.rank ≤ f.threshold e.channel

end Filter

end DeskConfig
