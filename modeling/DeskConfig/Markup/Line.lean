import DeskConfig.Text.Utf8

/-!
Line numbers of byte positions. A cursor stands between two characters of the text
and knows its line; asked for a position, it walks there from where it stands, in
either direction, so that a whole document is walked about once.
-/

namespace DeskConfig.Markup

open Text

/-- Line numbers stop growing at the largest 32-bit number. -/
def maxLine : Nat := 4294967295

/-- `before` has the last character first; `pos` is its size in bytes, and `feeds`
counts its line feeds. -/
structure LineCursor where
  before : List Char
  after : List Char
  pos : Nat
  feeds : Nat

namespace LineCursor

def start (text : List Char) : LineCursor := { before := [], after := text, pos := 0, feeds := 0 }

def line (c : LineCursor) : Nat := min maxLine (c.feeds + 1)

/-- Passes every character that starts before byte `target`. -/
def forwardFrom (target : Nat) (before : List Char) (pos feeds : Nat) :
    List Char → LineCursor
  | [] => { before := before, after := [], pos := pos, feeds := feeds }
  | c :: cs =>
    if pos < target then
      forwardFrom target (c :: before) (pos + c.utf8Size) (if c = '\n' then feeds + 1 else feeds) cs
    else { before := before, after := c :: cs, pos := pos, feeds := feeds }

/-- Takes back every character that starts at byte `target` or later. -/
def backwardFrom (target : Nat) (after : List Char) (pos feeds : Nat) :
    List Char → LineCursor
  | [] => { before := [], after := after, pos := pos, feeds := feeds }
  | c :: cs =>
    if target ≤ pos - c.utf8Size then
      backwardFrom target (c :: after) (pos - c.utf8Size)
        (if c = '\n' then feeds - 1 else feeds) cs
    else { before := c :: cs, after := after, pos := pos, feeds := feeds }

/-- Moves to where every character that starts before byte `target` is behind. -/
def seek (target : Nat) (c : LineCursor) : LineCursor :=
  if c.pos < target then forwardFrom target c.before c.pos c.feeds c.after
  else backwardFrom target c.after c.pos c.feeds c.before

/-- Steps back until a less-than sign was the last one taken back. -/
def openSignFrom (after : List Char) (pos feeds : Nat) : List Char → Option LineCursor
  | [] => none
  | c :: cs =>
    let pos := pos - c.utf8Size
    if c = '<' then some { before := cs, after := c :: after, pos := pos, feeds := feeds }
    else openSignFrom (c :: after) pos (if c = '\n' then feeds - 1 else feeds) cs

def lineAt (target : Nat) (c : LineCursor) : Nat × LineCursor :=
  let c := c.seek target
  (c.line, c)

/-- The line of the last less-than sign before byte `stop`, where a tag that ends
there was opened; without such a sign, the line of `stop`. -/
def tagLine (stop : Nat) (c : LineCursor) : Nat × LineCursor :=
  let c := c.seek stop
  let c := (openSignFrom c.after c.pos c.feeds c.before).getD c
  (c.line, c)

end LineCursor

/-- The characters that start before byte `target`. -/
def startingBefore (target : Nat) : List Char → List Char
  | [] => []
  | c :: cs => if target = 0 then [] else c :: startingBefore (target - c.utf8Size) cs

/-- The line of a byte position, counted from the start of the text. -/
def lineOf (text : List Char) (target : Nat) : Nat :=
  min maxLine (1 + (startingBefore target text).count '\n')

end DeskConfig.Markup
