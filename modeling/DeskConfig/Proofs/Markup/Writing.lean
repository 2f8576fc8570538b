import DeskConfig.Markup.Document

/-!
Documents as they are written. What stands in an element is any mixture of text,
character data, comments, instructions and further elements. Text and attribute
values are arbitrary: the five characters that markup needs for itself are escaped.
Every other part carries the proof that it contains nothing that would end it.
-/

namespace DeskConfig.Markup

open Text

/-- The characters of a name are no blanks and none that markup needs for itself. -/
def isNameChar (c : Char) : Bool :=
  !isSpace c && c != '<' && c != '>' && c != '/' && c != '=' && c != '\x27' && c != '"' &&
    c != '&' && c != '!' && c != '?'

structure PlainName where
  chars : List Char
  ne_nil : chars ≠ []
  plain : ∀ c ∈ chars, isNameChar c = true

structure CharacterData where
  body : List Char
  unended : ¬ [']', ']', '>'] <:+: body

structure Comment where
  body : List Char
  plain : ∀ c ∈ body, c ≠ '-' ∧ c ≠ '>'

structure Instruction where
  body : List Char
  ne_nil : body ≠ []
  plain : ∀ c ∈ body, c ≠ '?' ∧ c ≠ '>'

/-- A name and a value that is still to be escaped. -/
structure NamedValue where
  name : PlainName
  value : List Char

/-- A part of the content of an element. An element without content can be written as
a single tag. -/
inductive Node where
  | text (s : List Char)
  | cdata (d : CharacterData)
  | comment (c : Comment)
  | instruction (i : Instruction)
  | element (name : PlainName) (attributes : List NamedValue) (content : List Node)
      (short : Bool)

/-- Induction on the content of elements and on what is inside the elements in it. -/
theorem content_induction {motive : List Node → Prop} (nil : motive [])
    (text : ∀ s ns, motive ns → motive (.text s :: ns))
    (cdata : ∀ d ns, motive ns → motive (.cdata d :: ns))
    (comment : ∀ c ns, motive ns → motive (.comment c :: ns))
    (instruction : ∀ i ns, motive ns → motive (.instruction i :: ns))
    (element : ∀ name attributes content short ns, motive content → motive ns →
      motive (.element name attributes content short :: ns)) : ∀ ns, motive ns := by
  intro ns
  have hnode : ∀ n ns, motive ns → motive (n :: ns) := by
    intro n
    induction n using Node.rec (motive_2 := motive) with
    | text s => exact text s
    | cdata d => exact cdata d
    | comment c => exact comment c
    | instruction i => exact instruction i
    | element name attributes content short ih =>
      exact fun ns => element name attributes content short ns ih
    | nil => exact nil
    | cons n ns ihn ihns => exact ihn ns ihns
  induction ns with
  | nil => exact nil
  | cons n ns ih => exact hnode n ns ih

def escapeChar : Char → List Char
  | '&' => ['&', 'a', 'm', 'p', ';']
  | '<' => ['&', 'l', 't', ';']
  | '>' => ['&', 'g', 't', ';']
  | '"' => ['&', 'q', 'u', 'o', 't', ';']
  | '\x27' => ['&', 'a', 'p', 'o', 's', ';']
  | c => [c]

def escape (s : List Char) : List Char := s.flatMap escapeChar

def NamedValue.written (a : NamedValue) : List Char :=
  ' ' :: a.name.chars ++ ['=', '"'] ++ escape a.value ++ ['"']

/-- What stands between the angle brackets of an opening tag. -/
def tagContent (name : PlainName) (attributes : List NamedValue) : List Char :=
  name.chars ++ attributes.flatMap NamedValue.written

/-- What a document is written as, one after the other. -/
inductive Mark where
  | text (s : List Char)
  | cdata (d : CharacterData)
  | comment (c : Comment)
  | instruction (i : Instruction)
  | opening (name : PlainName) (attributes : List NamedValue)
  | short (name : PlainName) (attributes : List NamedValue)
  | closing (name : PlainName)

def Mark.written : Mark → List Char
  | .text s => escape s
  | .cdata d => ['<', '!', '[', 'C', 'D', 'A', 'T', 'A', '['] ++ d.body ++ [']', ']', '>']
  | .comment c => ['<', '!', '-', '-'] ++ c.body ++ ['-', '-', '>']
  | .instruction i => ['<', '?'] ++ i.body ++ ['?', '>']
  | .opening name attributes => '<' :: tagContent name attributes ++ ['>']
  | .short name attributes => '<' :: tagContent name attributes ++ ['/', '>']
  | .closing name => ['<', '/'] ++ name.chars ++ ['>']

def writtenAll (marks : List Mark) : List Char := marks.flatMap Mark.written

mutual

def Node.marks : Node → List Mark
  | .text s => [.text s]
  | .cdata d => [.cdata d]
  | .comment c => [.comment c]
  | .instruction i => [.instruction i]
  | .element name attributes content short =>
    if short && content.isEmpty then [.short name attributes]
    else .opening name attributes :: marksOf content ++ [.closing name]

def marksOf : List Node → List Mark
  | [] => []
  | n :: ns => n.marks ++ marksOf ns

end

/-- The text and the character data that stand directly in the content of an element. -/
def ownText : List Node → List Char
  | [] => []
  | .text s :: ns => s ++ ownText ns
  | .cdata d :: ns => d.body ++ ownText ns
  | _ :: ns => ownText ns

def NamedValue.toAttribute (a : NamedValue) : Attribute where
  name := String.ofList a.name.chars
  value := String.ofList a.value

/-- Line feeds in what is written for a part of a document. -/
def feedsIn (marks : List Mark) : Nat := (writtenAll marks).count '\n'

mutual

/-- The element that a node stands for, if any, when `feeds` line feeds are before it. -/
def Node.elements (file : String) (feeds : Nat) : Node → List Element
  | .element name attributes content _ =>
    [{ tag := .ofSpelling (String.ofList name.chars)
       text := trimmedText (ownText content)
       attributes := attributes.map NamedValue.toAttribute
       children := elementsIn file (feeds + feedsIn [.opening name attributes]) content
       origin := { file, line := min maxLine (1 + feeds) } }]
  | _ => []

def elementsIn (file : String) (feeds : Nat) : List Node → List Element
  | [] => []
  | n :: ns => n.elements file feeds ++ elementsIn file (feeds + feedsIn n.marks) ns

end

mutual

/-- How many elements are nested in each other. -/
def Node.nesting : Node → Nat
  | .element _ _ content _ => nestingOf content + 1
  | _ => 0

def nestingOf : List Node → Nat
  | [] => 0
  | n :: ns => max n.nesting (nestingOf ns)

end

/-- Outside all elements, text consists of spaces and line feeds. -/
def Node.IsTop : Node → Prop
  | .text s => ∀ c ∈ s, c = ' ' ∨ c = '\n'
  | _ => True

structure Document where
  nodes : List Node
  top : ∀ n ∈ nodes, n.IsTop
  nested : nestingOf nodes ≤ maxNesting

namespace Document

def written (d : Document) : List Char := writtenAll (marksOf d.nodes)

/-- The top-level elements, with the given label. -/
def elements (d : Document) (file : String) : List Element := elementsIn file 0 d.nodes

end Document

end DeskConfig.Markup
