import DeskConfig.Shell.Syntax

/-!
From an expanded word to fields. An expansion keeps which bytes were quoted, and where
what was computed outside quotes begins and ends: only there a field may end at a
separator.
-/

namespace DeskConfig.Shell

inductive Glyph where
  | byte (c : Char) (quoted : Bool)
  /-- The beginning or the end of quotes, which make a field even if it is empty. -/
  | mark
  /-- The beginning of a computed stretch. A firm one only ends fields where the
  arguments of the shell do. -/
  | enter (firm : Bool)
  | leave
  /-- The end of an argument. -/
  | cut
deriving DecidableEq

abbrev Glyphs := List Glyph

namespace Glyphs

def ofText (quoted : Bool) (cs : Text) : Glyphs := cs.map fun c => .byte c quoted

/-- A stretch that may be split. -/
def stretch (firm : Bool) (gs : Glyphs) : Glyphs := .enter firm :: gs ++ [.leave]

def text : Glyphs → Text
  | [] => []
  | .byte c _ :: gs => c :: text gs
  | _ :: gs => text gs

def isPatternSign (c : Char) : Bool := "!*?[=~:/-]\\".toList.contains c

/-- The pattern that a word stands for: what is quoted means itself. -/
def pattern : Glyphs → Text
  | [] => []
  | .byte '\\' false :: .byte c _ :: gs => '\\' :: c :: pattern gs
  | .byte c quoted :: gs =>
    if quoted && isPatternSign c then '\\' :: c :: pattern gs else c :: pattern gs
  | _ :: gs => pattern gs

end Glyphs

def blankSeparators : Text := [' ', '\t', '\n']

/-- Where splitting stands: the field that has begun, the newest glyph first, and what
has happened since. -/
structure Splitting where
  fields : List Glyphs := []
  field : Glyphs := []
  /-- Blanks have ended a field, so that a separator behind them ends no other. -/
  blank : Bool := false
  inside : Bool := false
  firm : Bool := false
  /-- Whether the stretch before was firm. -/
  afterFirm : Bool := false
  /-- How many fields may be begun from here on, if there is a limit. The last one has
  the separators in it. -/
  left : Option Nat := none
  /-- How long the last field is without the separators at its end. -/
  kept : Option Nat := none

namespace Splitting

def begun (s : Splitting) : Bool := !s.field.isEmpty

def put (s : Splitting) (g : Glyph) : Splitting := { s with field := g :: s.field }

def close (s : Splitting) : Splitting :=
  { s with fields := s.field.reverse :: s.fields, field := [] }

/-- A separator that may end a field; a blank one only counts between other text. -/
def separate (s : Splitting) (g : Glyph) (isBlank : Bool) : Splitting :=
  if s.blank then { s with field := [], blank := isBlank }
  else
    let blank := isBlank && !(s.afterFirm || s.firm)
    if blank && !s.begun then { s with field := [] }
    else
      match s.left with
      | none => { s.close with blank }
      | some n =>
        if n ≤ 1 then { s.put g with blank, left := some 0, kept := some s.field.length }
        else { s.close with blank, left := some (n - 1) }

/-- A byte of the last field. Blanks at its end go, and so does a separator that only
blanks stand before. -/
def putLast (s : Splitting) (g : Glyph) (isSeparator isBlank : Bool) : Splitting :=
  let kept := if isBlank then some (s.kept.getD s.field.length)
    else if isSeparator && s.blank then s.kept else none
  { s.put g with kept, blank := s.blank && isBlank }

def step (separators : Text) (s : Splitting) : Glyph → Splitting
  | .enter firm => { s with inside := true, afterFirm := s.firm, firm, blank := false }
  | .leave => { s with inside := false }
  | .mark => s.put .mark
  | .cut => s.separate .cut true
  | .byte c quoted =>
    let g : Glyph := .byte c quoted
    let isSeparator := separators.contains c
    let isBlank := isSeparator && blankSeparators.contains c
    if !s.inside || s.firm then s.put g
    else if s.left = some 0 then s.putLast g isSeparator isBlank
    else if isSeparator then s.separate g isBlank
    else { s.put g with blank := false }

/-- The fields in order. All arguments in quotes make a last field even if it is empty. -/
def finish (s : Splitting) : List Glyphs :=
  let field := match s.kept with
    | some n => s.field.drop (s.field.length - n)
    | none => s.field
  let s := { s with field }
  let s := if s.begun || s.firm then s.close else s
  s.fields.reverse

end Splitting

def fieldsOf (separators : Text) (gs : Glyphs) : List Glyphs :=
  (gs.foldl (Splitting.step separators) {}).finish

/-- A line in which the bytes that are not quoted make stretches that may be split. -/
def lineStretches : (inside : Bool) → Glyphs → Glyphs
  | inside, [] => if inside then [.leave] else []
  | inside, .byte c false :: gs =>
    (if inside then [] else [.enter false]) ++ .byte c false :: lineStretches true gs
  | inside, g :: gs => (if inside then [.leave] else []) ++ g :: lineStretches false gs

/-- A line of input as so many fields, some of which may be empty. The last one has all
that is left. -/
def lineFields (separators : Text) (count : Nat) (gs : Glyphs) : List Text :=
  let start : Splitting := { left := some count }
  let fields := ((lineStretches false gs).foldl (Splitting.step separators) start).finish
  fields.map Glyphs.text ++ List.replicate (count - fields.length) []

end DeskConfig.Shell
