import DeskConfig.Reading

/-!
What the pointer does: which window has the focus, what windows snap to, how they
look while they are moved or resized, and what counts as a double click.
-/

namespace DeskConfig

open Markup (Element)

inductive FocusModel where
  | sloppy
  | click
deriving DecidableEq, Repr

namespace FocusModel

def name : FocusModel → String
  | sloppy => "sloppy"
  | click => "click"

def ofName? : String → Option FocusModel
  | "sloppy" => some .sloppy
  | "click" => some .click
  | _ => none

def read (e : Element) (f : FocusModel) : Reading FocusModel :=
  match e.text with
  | none => do
    Reading.warn e (.missingMode "focus model")
    return f
  | some text =>
    match ofName? text with
    | some f => return f
    | none => do
      Reading.warn e (.invalidValue "focus model" text)
      return f

end FocusModel

inductive SnapMode where
  | none
  | screen
  | border
deriving DecidableEq, Repr

namespace SnapMode

def name : SnapMode → String
  | none => "none"
  | screen => "screen"
  | border => "border"

def ofName? : String → Option SnapMode
  | "none" => some .none
  | "screen" => some .screen
  | "border" => some .border
  | _ => Option.none

end SnapMode

/-- The mode an element's text names, with a warning if there is none. -/
def readMode (e : Element) (what : String) (choose : String → Option α) :
    Reading (Option α) :=
  match e.text with
  | none => do
    Reading.warn e (.missingMode (what ++ " mode"))
    return none
  | some text =>
    match choose text with
    | some mode => return some mode
    | none => do
      Reading.warn e (.invalidMode what text)
      return none

/-- What windows snap to, and from how many pixels away. -/
structure Snap where
  mode : SnapMode := .border
  distance : Nat := 5
deriving DecidableEq, Repr

namespace Snap

/-- The distance where an element does not give it. -/
def defaultDistance : Nat := 5

/-- The distance counts even when the mode is bad. -/
def read (e : Element) (s : Snap) : Reading Snap := do
  let distance ← Reading.naturalAttribute e "distance" 1 32 defaultDistance
  let mode ← readMode e "snap" SnapMode.ofName?
  return { mode := mode.getD s.mode, distance }

end Snap

/-- What is drawn of a window that is moved or resized. -/
inductive DragMode where
  | outline
  | solid
deriving DecidableEq, Repr

namespace DragMode

def name : DragMode → String
  | outline => "outline"
  | solid => "opaque"

def ofName? : String → Option DragMode
  | "outline" => some .outline
  | "opaque" => some .solid
  | _ => none

end DragMode

/-- Where the coordinates of a window that is moved or resized are shown. -/
inductive Coordinates where
  | off
  | screen
  | window
  | corner
deriving DecidableEq, Repr

namespace Coordinates

def name : Coordinates → String
  | off => "off"
  | screen => "screen"
  | window => "window"
  | corner => "corner"

def ofName? : String → Option Coordinates
  | "off" => some .off
  | "screen" => some .screen
  | "window" => some .window
  | "corner" => some .corner
  | _ => none

end Coordinates

structure Drag where
  mode : DragMode := .solid
  coordinates : Coordinates := .screen
deriving DecidableEq, Repr

namespace Drag

/-- An absent attribute means the screen, a bad one leaves things as they are. -/
def readCoordinates (e : Element) (current : Coordinates) : Reading Coordinates :=
  match e.attribute? "coordinates" with
  | none => return .screen
  | some _ => Reading.choiceAttribute e "coordinates" "coordinates" Coordinates.ofName? current

/-- `what` is the operation, a move or a resize. -/
def read (what : String) (e : Element) (d : Drag) : Reading Drag := do
  let coordinates ← readCoordinates e d.coordinates
  let mode ← readMode e what DragMode.ofName?
  return { mode := mode.getD d.mode, coordinates }

end Drag

/-- The most milliseconds and the most pixels between the clicks of a double click. -/
structure DoubleClick where
  speed : Nat := 400
  delta : Nat := 2
deriving DecidableEq, Repr

namespace DoubleClick

/-- The number in an element's text. -/
def readNumber (e : Element) (what : String) (low high : Nat) : Reading (Option Nat) := do
  match ← Reading.requiredText e with
  | none => return none
  | some value => Reading.natural e what value low high

def readSpeed (e : Element) (d : DoubleClick) : Reading DoubleClick := do
  return { d with speed := (← readNumber e "double click speed" 1 2000).getD d.speed }

def readDelta (e : Element) (d : DoubleClick) : Reading DoubleClick := do
  return { d with delta := (← readNumber e "double click delta" 0 32).getD d.delta }

end DoubleClick

end DeskConfig
