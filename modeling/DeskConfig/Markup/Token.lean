import DeskConfig.Markup.Attribute

/-!
Markup as a sequence of tokens. Text reaches to the next less-than sign; the
character after that sign chooses between a tag, a closing tag, an instruction and
the three kinds of section that start with an exclamation mark. Scanning knows
nothing of nesting and stops at the first token that cannot be finished.
-/

namespace DeskConfig.Markup

open Text

inductive Piece where
  | opening (content : List Char)
  | selfClosing (content : List Char)
  | closing (content : List Char)
  | text (raw : List Char)
  | cdata (body : List Char)
  /-- A comment, an instruction or a document type. -/
  | aside
deriving DecidableEq, Repr

/-- A piece and the byte position it ends at. For text that is the position of the
less-than sign after it or, at the end of the input, of the last byte. -/
structure Token where
  piece : Piece
  stop : Nat
deriving DecidableEq, Repr

inductive Section where
  | cdata
  | comment
  | doctype
deriving DecidableEq, Repr

def Section.ofChar? : Char → Option Section
  | '[' => some .cdata
  | '-' => some .comment
  | 'D' => some .doctype
  | 'd' => some .doctype
  | _ => none

inductive ScanError where
  | openTag
  | openSection
  | badSection (kind : Section)
  | badInstruction
  | emptyDoctype
  | unknownSection (symbol : Char)
deriving DecidableEq, Repr

def ScanError.message : ScanError → String
  | .openTag => "Unexpected EOF during reading Element"
  | .openSection => "Unexpected EOF during reading Bang"
  | .badSection .cdata => "Unexpected EOF during reading CData"
  | .badSection .comment => "Unexpected EOF during reading Comment"
  | .badSection .doctype => "Unexpected EOF during reading DOCTYPE"
  | .badInstruction => "Unexpected EOF during reading XmlDecl"
  | .emptyDoctype => "DOCTYPE declaration must not be empty"
  | .unknownSection symbol =>
    "Only Comment (`--`), CDATA (`[CDATA[`) and DOCTYPE (`DOCTYPE`) nodes can start " ++
      s!"with a '!', but symbol `{symbol}` found"

/-- Splits at the first `>` that stands outside quotes. -/
def cutTag (quote : Option Char) : List Char → Option (List Char × List Char)
  | [] => none
  | c :: cs =>
    match quote with
    | none =>
      if c = '>' then some ([], cs)
      else
        (cutTag (if c = '"' ∨ c = '\x27' then some c else none) cs).map
          fun (content, rest) => (c :: content, rest)
    | some q =>
      (cutTag (if c = q then none else some q) cs).map
        fun (content, rest) => (c :: content, rest)

/-- Splits at the first `>`, or takes everything if there is none. -/
def cutOrAll : List Char → List Char × List Char × Bool
  | [] => ([], [], false)
  | c :: cs =>
    if c = '>' then ([], cs, true)
    else
      let (content, rest, found) := cutOrAll cs
      (c :: content, rest, found)

/-- Whether a `>` after the given content, last character first, ends the section. -/
def Section.endsAfter : Section → List Char → Bool
  | .cdata, ']' :: ']' :: _ => true
  | .cdata, _ => false
  | .comment, '-' :: '-' :: _ :: _ :: _ :: _ => true
  | .comment, _ => false
  | .doctype, before => before.count '<' == before.count '>'

def cutSection (kind : Section) (before : List Char) :
    List Char → Option (List Char × List Char)
  | [] => none
  | c :: cs =>
    if c = '>' ∧ kind.endsAfter before then some (before.reverse, cs)
    else cutSection kind (c :: before) cs

def lowerCase (cs : List Char) : List Char := cs.map Char.toLower

/-- The piece that a whole section is, its content starting with `!`. -/
def Section.piece (kind : Section) (content : List Char) : Except ScanError Piece :=
  match kind with
  | .comment =>
    if ['!', '-', '-'].isPrefixOf content then .ok .aside else .error (.badSection .comment)
  | .cdata =>
    if ['!', '[', 'c', 'd', 'a', 't', 'a', '['].isPrefixOf (lowerCase content) then
      .ok (.cdata (content.drop 8).dropLast.dropLast)
    else .error (.badSection .cdata)
  | .doctype =>
    if ['!', 'd', 'o', 'c', 't', 'y', 'p', 'e'].isPrefixOf (lowerCase content) then
      if (content.drop 8).all isSpace then .error .emptyDoctype else .ok .aside
    else .error (.badSection .doctype)

inductive Step where
  | token (token : Token) (rest : List Char)
  | failed (cause : ScanError) (pos : Nat)
  | finished

/-- A section; `pos` is the position of its exclamation mark. -/
def sectionStep (pos : Nat) (cs : List Char) : Step :=
  match cs.drop 1 with
  | [] => .failed .openSection pos
  | c :: _ =>
    match Section.ofChar? c with
    | none => .failed (.unknownSection (leadChar c)) pos
    | some kind =>
      match cutSection kind [] cs with
      | none => .failed (.badSection kind) pos
      | some (content, rest) =>
        let stop := pos + byteSize content + 1
        match kind.piece content with
        | .ok piece => .token { piece := piece, stop := stop } rest
        | .error cause => .failed cause stop

/-- An instruction; `pos` is the position of its question mark. -/
def instructionStep (pos : Nat) (cs : List Char) : Step :=
  let (content, rest, found) := cutOrAll cs
  let stop := pos + byteSize content + (if found then 1 else 0)
  if byteSize content > 2 ∧ content.getLast? = some '?' then
    .token { piece := .aside, stop := stop } rest
  else .failed .badInstruction (stop - byteSize content)

/-- A closing tag; `pos` is the position after its slash. -/
def closingStep (pos : Nat) (cs : List Char) : Step :=
  let (content, rest, found) := cutOrAll cs
  let stop := pos + byteSize content + (if found then 1 else 0)
  .token { piece := .closing content, stop := stop } rest

/-- A tag that opens an element; `pos` is the position of its name. -/
def tagStep (pos : Nat) (cs : List Char) : Step :=
  match cutTag none cs with
  | none => .failed .openTag pos
  | some (content, rest) =>
    let stop := pos + byteSize content + 1
    if content.getLast? = some '/' then
      .token { piece := .selfClosing content.dropLast, stop := stop } rest
    else .token { piece := .opening content, stop := stop } rest

def textStep (pos : Nat) (cs : List Char) : Step :=
  let raw := cs.takeWhile (· != '<')
  let rest := cs.dropWhile (· != '<')
  let stop := if rest.isEmpty then pos + byteSize raw - 1 else pos + byteSize raw
  .token { piece := .text raw, stop := stop } rest

/-- The token that begins at byte `pos`. A lone `<` at the very end is no token. -/
def step (pos : Nat) : List Char → Step
  | [] => .finished
  | ['<'] => .finished
  | '<' :: '!' :: cs => sectionStep (pos + 1) ('!' :: cs)
  | '<' :: '/' :: cs => closingStep (pos + 2) cs
  | '<' :: '?' :: cs => instructionStep (pos + 1) ('?' :: cs)
  | '<' :: cs => tagStep (pos + 1) cs
  | cs => textStep pos cs

/-- The tokens up to the first error, and that error with its position. -/
structure Scan where
  tokens : List Token
  failure : Option (ScanError × Nat) := none

def Scan.cons (t : Token) (s : Scan) : Scan := { s with tokens := t :: s.tokens }

/-- Reads at most `count` tokens. -/
def scanFrom : (count : Nat) → (pos : Nat) → List Char → Scan
  | 0, _, _ => { tokens := [] }
  | count + 1, pos, cs =>
    match step pos cs with
    | .token token rest => (scanFrom count token.stop rest).cons token
    | .failed cause place => { tokens := [], failure := some (cause, place) }
    | .finished => { tokens := [] }

/-- Every token takes at least one character, so there are no more tokens than
characters. -/
def scan (cs : List Char) : Scan := scanFrom cs.length 0 cs

end DeskConfig.Markup
