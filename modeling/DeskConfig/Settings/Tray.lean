import DeskConfig.Reading

/-!
Trays: panels and the components they host. A client is swallowed at most once and
there is at most one dock, counted over all trays; the first one stays.
-/

namespace DeskConfig

open Markup (Element Origin)

inductive VerticalAlignment where
  | top
  | center
  | bottom
  | fixed
deriving DecidableEq, Repr

namespace VerticalAlignment

def name : VerticalAlignment → String
  | top => "top"
  | center => "center"
  | bottom => "bottom"
  | fixed => "fixed"

def ofName? : String → Option VerticalAlignment
  | "top" => some .top
  | "center" => some .center
  | "bottom" => some .bottom
  | "fixed" => some .fixed
  | _ => none

end VerticalAlignment

inductive HorizontalAlignment where
  | left
  | center
  | right
  | fixed
deriving DecidableEq, Repr

namespace HorizontalAlignment

def name : HorizontalAlignment → String
  | left => "left"
  | center => "center"
  | right => "right"
  | fixed => "fixed"

def ofName? : String → Option HorizontalAlignment
  | "left" => some .left
  | "center" => some .center
  | "right" => some .right
  | "fixed" => some .fixed
  | _ => none

end HorizontalAlignment

inductive TrayLayout where
  | horizontal
  | vertical
deriving DecidableEq, Repr

namespace TrayLayout

def name : TrayLayout → String
  | horizontal => "horizontal"
  | vertical => "vertical"

def ofName? : String → Option TrayLayout
  | "horizontal" => some .horizontal
  | "vertical" => some .vertical
  | _ => none

end TrayLayout

/-- A requested size in pixels; zero leaves it open. -/
structure Size where
  width : Nat := 0
  height : Nat := 0
deriving DecidableEq, Repr

structure TrayButton where
  icon : Option String
  label : Option String
  action : Option String
  popup : Option String
  size : Size
  origin : Origin
deriving DecidableEq, Repr

inductive TrayComponent where
  | pager
  | taskList (maxItemWidth : Nat)
  | swallow (name : String) (command : Option String) (size : Size)
  | button (button : TrayButton)
  | clock (format command : Option String) (size : Size)
  | dock
deriving DecidableEq, Repr

structure Tray where
  autohide : Bool := false
  x : Int := 0
  y : Int := -1
  size : Size := {}
  valign : VerticalAlignment := .fixed
  halign : HorizontalAlignment := .fixed
  layout : TrayLayout := .horizontal
  layer : Nat := 8
  border : Nat := 1
  components : List TrayComponent := []
deriving DecidableEq, Repr

namespace TrayComponent

def button? : TrayComponent → Option TrayButton
  | .button b => some b
  | _ => none

def swallows (name : String) : TrayComponent → Bool
  | .swallow other _ _ => other == name
  | _ => false

end TrayComponent

namespace Tray

def buttons (t : Tray) : List TrayButton := t.components.filterMap TrayComponent.button?

def leastInteger : Int := -2147483648

def greatestInteger : Int := 2147483647

def readSize (e : Element) : Reading Size := do
  let width ← Reading.naturalAttribute e "width" 0 Text.maxWord 0
  let height ← Reading.naturalAttribute e "height" 0 Text.maxWord 0
  return { width, height }

def readTaskList (e : Element) : Reading TrayComponent :=
  match e.attribute? "maxwidth" with
  | none => return .taskList 0
  | some value => do
    let width ← Reading.natural e "maxwidth for TaskList" value 0 Text.maxWord
    return .taskList (width.getD 0)

/-- `earlier` holds the components of all trays before this one. -/
def readSwallow (earlier : List TrayComponent) (e : Element) : Reading (Option TrayComponent) :=
  match (e.attribute? "name").or e.text with
  | none => do
    Reading.warn e .namelessSwallow
    return none
  | some name =>
    if earlier.any (·.swallows name) then do
      Reading.warn e (.repeatedSwallow name)
      return none
    else do
      return some (.swallow name e.text (← readSize e))

def readButton (e : Element) : Reading (Option TrayComponent) := do
  let icon := e.attribute? "icon"
  let label := e.attribute? "label"
  if icon.isNone && label.isNone then
    Reading.warn e .faceless
    return none
  let size ← readSize e
  return some (.button {
    icon, label, size,
    action := e.text,
    popup := e.attribute? "popup",
    origin := e.origin })

def readClock (e : Element) : Reading TrayComponent := do
  return .clock (e.attribute? "format") e.text (← readSize e)

def readDock (earlier : List TrayComponent) (e : Element) : Reading (Option TrayComponent) :=
  if earlier.contains .dock then do
    Reading.warn e .repeatedDock
    return none
  else return some .dock

def readComponent (parent : Markup.Tag) (earlier : List TrayComponent) (e : Element) :
    Reading (Option TrayComponent) :=
  match e.tag with
  | .pager => return some .pager
  | .taskList => some <$> readTaskList e
  | .swallow => readSwallow earlier e
  | .trayButton => readButton e
  | .clock => some <$> readClock e
  | .dock => readDock earlier e
  | _ => do
    Reading.invalidTag parent e
    return none

/-- The components that elements add after the earlier ones, in order. -/
def readComponents (parent : Markup.Tag) :
    (earlier : List TrayComponent) → List Element → Reading (List TrayComponent)
  | _, [] => return []
  | earlier, e :: es => do
    let added := (← readComponent parent earlier e).toList
    return added ++ (← readComponents parent (earlier ++ added) es)

/-- `before` holds the trays declared so far. -/
def read (before : List Tray) (e : Element) : Reading Tray := do
  let x ← Reading.integerAttribute e "x" leastInteger greatestInteger 0
  let y ← Reading.integerAttribute e "y" leastInteger greatestInteger (-1)
  let size ← readSize e
  let layer ← Reading.naturalAttribute e "layer" 0 12 8
  let border ← Reading.naturalAttribute e "border" 0 32 1
  let valign ← Reading.choiceAttribute e "valign" "tray valign" VerticalAlignment.ofName? .fixed
  let halign ← Reading.choiceAttribute e "halign" "tray halign" HorizontalAlignment.ofName? .fixed
  let layout ← Reading.choiceAttribute e "layout" "tray layout" TrayLayout.ofName? .horizontal
  let components ← readComponents e.tag (before.flatMap (·.components)) e.children
  return {
    autohide := e.attribute? "autohide" == some "true",
    x, y, size, layer, border, valign, halign, layout, components }

end Tray

end DeskConfig
