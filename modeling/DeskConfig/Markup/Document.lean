import DeskConfig.Markup.Element
import DeskConfig.Markup.Line
import DeskConfig.Markup.Token
import DeskConfig.Text.Blank

/-!
Documents: the top-level elements that the tokens of a text form. Closing tags must
name the innermost open element, escapes are decoded, and an element's text is what
stands directly inside it, joined and trimmed. The first fault in the order of the
text is the one reported.
-/

namespace DeskConfig.Markup

open Text

/-- Deepest nesting of elements with a closing tag of their own. -/
def maxNesting : Nat := 256

inductive Fault where
  | scan (cause : ScanError)
  | attribute (cause : AttributeError)
  | escape (cause : EscapeError)
  | mismatch (expected found : String)
  | tooDeep
  | unclosed (name : String)
deriving DecidableEq, Repr

def Fault.message : Fault → String
  | .scan cause => cause.message
  | .attribute cause => cause.message
  | .escape cause => cause.message
  | .mismatch expected found => s!"Expecting </{expected}> found </{found}>"
  | .tooDeep => s!"tags nested deeper than {maxNesting} levels"
  | .unclosed name => s!"unexpected end of file: unclosed tag <{name}>"

/-- A fault and the place it was found at. -/
structure MarkupError where
  origin : Origin
  fault : Fault
deriving DecidableEq, Repr

def MarkupError.message (e : MarkupError) : String :=
  s!"{e.origin.file}[{e.origin.line}]: " ++ e.fault.message

/-- Decodes attributes in order. A bad escape is reported before a fault in the
attributes that follow it. -/
def decodeAttributes (failure : Option AttributeError) :
    List RawAttribute → Except Fault (List Attribute)
  | [] =>
    match failure with
    | some cause => .error (.attribute cause)
    | none => .ok []
  | raw :: raws =>
    match unescape raw.value with
    | .error cause => .error (.escape cause)
    | .ok value => do
      let decoded : Attribute := { name := String.ofList raw.name, value := String.ofList value }
      return decoded :: (← decodeAttributes failure raws)

def readAttributes (content : List Char) : Except Fault (List Attribute) :=
  let scanned := scanAttributes content
  decodeAttributes scanned.failure scanned.attributes

/-- An element whose closing tag has not been met. Its children have the last one
first, and its text is not trimmed yet. -/
structure OpenElement where
  tag : Tag
  attributes : List Attribute
  origin : Origin
  text : List Char := []
  children : List Element := []

def trimmedText (cs : List Char) : Option String :=
  match trim cs with
  | [] => none
  | cs => some (String.ofList cs)

def OpenElement.close (o : OpenElement) : Element where
  tag := o.tag
  text := trimmedText o.text
  attributes := o.attributes
  children := o.children.reverse
  origin := o.origin

/-- The element a tag opens, or the fault in its attributes. -/
def openElement (content : List Char) (origin : Origin) : Except Fault OpenElement := do
  let attributes ← readAttributes content
  return { tag := Tag.ofSpelling (String.ofList (tagName content)), attributes, origin }

/-- Elements under construction: the open ones, innermost first, and the finished
top-level ones, last first. -/
structure Forest where
  stack : List OpenElement
  roots : List Element

def Forest.attach (f : Forest) (e : Element) : Forest :=
  match f.stack with
  | [] => { f with roots := e :: f.roots }
  | top :: below => { f with stack := { top with children := e :: top.children } :: below }

/-- Adds to the text of the innermost open element; outside all elements, text is
dropped. -/
def Forest.addText (f : Forest) (cs : List Char) : Forest :=
  match f.stack with
  | [] => f
  | top :: below => { f with stack := { top with text := top.text ++ cs } :: below }

/-- Blanks after the name in a closing tag do not count, unless there is no name. -/
def closingName (content : List Char) : List Char :=
  match (content.reverse.dropWhile isSpace).reverse with
  | [] => content
  | name => name

/-- Takes in one token. A fault comes with the line it is reported on. -/
def Forest.add (file : String) (f : Forest) (token : Token) (lines : LineCursor) :
    Except (Nat × Fault) Forest × LineCursor :=
  match token.piece with
  | .opening content =>
    let (line, lines) := lines.tagLine token.stop
    if maxNesting ≤ f.stack.length then (.error (line, .tooDeep), lines)
    else
      match openElement content { file, line } with
      | .error fault => (.error (line, fault), lines)
      | .ok opened => (.ok { f with stack := opened :: f.stack }, lines)
  | .selfClosing content =>
    let (line, lines) := lines.tagLine token.stop
    match openElement content { file, line } with
    | .error fault => (.error (line, fault), lines)
    | .ok opened => (.ok (f.attach opened.close), lines)
  | .closing content =>
    let fault (expected : String) (found : List Char) :=
      let (line, lines) := lines.lineAt (token.stop - (byteSize content + 1))
      (.error (line, .mismatch expected (String.ofList found)), lines)
    match f.stack with
    | [] => fault "" content
    | top :: below =>
      let name := closingName content
      if top.tag.spelling = String.ofList name then
        (.ok (Forest.attach { f with stack := below } top.close), lines)
      else fault top.tag.spelling name
  | .text raw =>
    match f.stack with
    | [] => (.ok f, lines)
    | _ :: _ =>
      let (line, lines) := lines.lineAt token.stop
      match unescape raw with
      | .error cause => (.error (line, .escape cause), lines)
      | .ok text => (.ok (f.addText text), lines)
  | .cdata body => (.ok (f.addText body), lines)
  | .aside => (.ok f, lines)

def Forest.addAll (file : String) :
    List Token → Forest → LineCursor → Except (Nat × Fault) Forest × LineCursor
  | [], f, lines => (.ok f, lines)
  | token :: tokens, f, lines =>
    match f.add file token lines with
    | (.error fault, lines) => (.error fault, lines)
    | (.ok f, lines) => f.addAll file tokens lines

/-- The finished elements, unless scanning failed or an element is still open. -/
def Forest.finish (f : Forest) (failure : Option (ScanError × Nat)) (size : Nat)
    (lines : LineCursor) : Except (Nat × Fault) (List Element) :=
  match failure, f.stack with
  | some (cause, pos), _ => .error ((lines.lineAt pos).1, .scan cause)
  | none, top :: _ => .error ((lines.lineAt size).1, .unclosed top.tag.spelling)
  | none, [] => .ok f.roots.reverse

/-- A byte order mark at the start is no part of the markup. -/
def dropMark : List Char → List Char
  | c :: cs => if c.toNat = 0xFEFF then cs else c :: cs
  | [] => []

/-- Positions are counted from behind the byte order mark, lines from the start of
the text: after a mark, a position lies three bytes too low in the text. -/
def elementsOf (file : String) (text : List Char) : Except (Nat × Fault) (List Element) :=
  let scanned := scan (dropMark text)
  match Forest.addAll file scanned.tokens { stack := [], roots := [] } (LineCursor.start text) with
  | (.error fault, _) => .error fault
  | (.ok f, lines) => f.finish scanned.failure (byteSize text) lines

/-- The top-level elements of a text in document order. -/
def parse (file text : String) : Except MarkupError (List Element) :=
  match elementsOf file text.toList with
  | .ok es => .ok es
  | .error (line, fault) => .error { origin := { file, line }, fault }

end DeskConfig.Markup
