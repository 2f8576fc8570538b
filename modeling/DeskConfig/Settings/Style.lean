import DeskConfig.Reading
import DeskConfig.Table

/-!
Style blocks: fonts, colors and the size of window frames. Each block maps the tags
inside it to settings; what a tag sets depends on the block it stands in.
-/

namespace DeskConfig

open Markup (Element Tag)

inductive FontRole where
  | border
  | menu
  | task
  | tray
  | popup
  | clock
  | trayButton
deriving DecidableEq, Repr

namespace FontRole

def all : List FontRole := [.border, .menu, .task, .tray, .popup, .clock, .trayButton]

def name : FontRole → String
  | border => "border"
  | menu => "menu"
  | task => "task"
  | tray => "tray"
  | popup => "popup"
  | clock => "clock"
  | trayButton => "tray_button"

def ofName? (name : String) : Option FontRole := all.find? (·.name == name)

instance : Ranked FontRole where
  rank r := r.ctorIdx
  rank_injective := by intro a b h; revert h; cases a <;> cases b <;> decide

end FontRole

inductive ColorRole where
  | borderForeground
  | borderBackground
  | borderActiveForeground
  | borderActiveBackground
  | taskForeground
  | taskBackground
  | taskActiveForeground
  | taskActiveBackground
  | trayForeground
  | trayBackground
  | pagerOutline
  | pagerForeground
  | pagerBackground
  | pagerActiveForeground
  | pagerActiveBackground
  | menuForeground
  | menuBackground
  | menuActiveForeground
  | menuActiveBackground
  | popupOutline
  | popupForeground
  | popupBackground
  | clockForeground
  | clockBackground
  | trayButtonForeground
  | trayButtonBackground
deriving DecidableEq, Repr

namespace ColorRole

def all : List ColorRole := [
    .borderForeground, .borderBackground, .borderActiveForeground, .borderActiveBackground,
    .taskForeground, .taskBackground, .taskActiveForeground, .taskActiveBackground,
    .trayForeground, .trayBackground, .pagerOutline, .pagerForeground, .pagerBackground,
    .pagerActiveForeground, .pagerActiveBackground, .menuForeground, .menuBackground,
    .menuActiveForeground, .menuActiveBackground, .popupOutline, .popupForeground,
    .popupBackground, .clockForeground, .clockBackground, .trayButtonForeground,
    .trayButtonBackground
  ]

def name : ColorRole → String
  | borderForeground => "border_foreground"
  | borderBackground => "border_background"
  | borderActiveForeground => "border_active_foreground"
  | borderActiveBackground => "border_active_background"
  | taskForeground => "task_foreground"
  | taskBackground => "task_background"
  | taskActiveForeground => "task_active_foreground"
  | taskActiveBackground => "task_active_background"
  | trayForeground => "tray_foreground"
  | trayBackground => "tray_background"
  | pagerOutline => "pager_outline"
  | pagerForeground => "pager_foreground"
  | pagerBackground => "pager_background"
  | pagerActiveForeground => "pager_active_foreground"
  | pagerActiveBackground => "pager_active_background"
  | menuForeground => "menu_foreground"
  | menuBackground => "menu_background"
  | menuActiveForeground => "menu_active_foreground"
  | menuActiveBackground => "menu_active_background"
  | popupOutline => "popup_outline"
  | popupForeground => "popup_foreground"
  | popupBackground => "popup_background"
  | clockForeground => "clock_foreground"
  | clockBackground => "clock_background"
  | trayButtonForeground => "tray_button_foreground"
  | trayButtonBackground => "tray_button_background"

def ofName? (name : String) : Option ColorRole := all.find? (·.name == name)

instance : Ranked ColorRole where
  rank r := r.ctorIdx
  rank_injective := by intro a b h; revert h; cases a <;> cases b <;> decide

end ColorRole

/-- Where new entries of the task list go. -/
inductive TaskInsert where
  | left
  | right
deriving DecidableEq, Repr

namespace TaskInsert

def name : TaskInsert → String
  | left => "left"
  | right => "right"

def ofName? : String → Option TaskInsert
  | "left" => some .left
  | "right" => some .right
  | _ => none

end TaskInsert

/-- Sizes of a window frame in pixels. -/
structure Border where
  width : Nat := 4
  titleHeight : Nat := 20
deriving DecidableEq, Repr

/-- Tooltips; the delay is in milliseconds. -/
structure Popup where
  enabled : Bool := true
  delay : Nat := 600
deriving DecidableEq, Repr

structure Style where
  fonts : Table FontRole String := .empty
  colors : Table ColorRole String := .empty
  border : Border := {}
  popup : Popup := {}
  taskInsert : TaskInsert := .right
deriving DecidableEq

namespace Style

/-- What one tag in a style block sets. -/
inductive Setting where
  | font (role : FontRole)
  | color (role : ColorRole)
  | borderWidth
  | titleHeight
deriving DecidableEq, Repr

/-- The settings of a block by the tags inside it; none if the tag is no style block. -/
def block? : Tag → Option (List (Tag × Setting))
  | .borderStyle => some [
      (.font, .font .border),
      (.width, .borderWidth),
      (.height, .titleHeight),
      (.foreground, .color .borderForeground),
      (.background, .color .borderBackground),
      (.activeForeground, .color .borderActiveForeground),
      (.activeBackground, .color .borderActiveBackground)]
  | .taskListStyle => some [
      (.font, .font .task),
      (.foreground, .color .taskForeground),
      (.background, .color .taskBackground),
      (.activeForeground, .color .taskActiveForeground),
      (.activeBackground, .color .taskActiveBackground)]
  | .trayStyle => some [
      (.font, .font .tray),
      (.foreground, .color .trayForeground),
      (.background, .color .trayBackground)]
  | .pagerStyle => some [
      (.outline, .color .pagerOutline),
      (.foreground, .color .pagerForeground),
      (.background, .color .pagerBackground),
      (.activeForeground, .color .pagerActiveForeground),
      (.activeBackground, .color .pagerActiveBackground)]
  | .menuStyle => some [
      (.font, .font .menu),
      (.foreground, .color .menuForeground),
      (.background, .color .menuBackground),
      (.activeForeground, .color .menuActiveForeground),
      (.activeBackground, .color .menuActiveBackground)]
  | .popupStyle => some [
      (.font, .font .popup),
      (.outline, .color .popupOutline),
      (.foreground, .color .popupForeground),
      (.background, .color .popupBackground)]
  | .clockStyle => some [
      (.font, .font .clock),
      (.foreground, .color .clockForeground),
      (.background, .color .clockBackground)]
  | .trayButtonStyle => some [
      (.font, .font .trayButton),
      (.foreground, .color .trayButtonForeground),
      (.background, .color .trayButtonBackground)]
  | _ => none

def setting? (settings : List (Tag × Setting)) (tag : Tag) : Option Setting :=
  (settings.find? (·.1 == tag)).map (·.2)

def setFont (s : Style) (role : FontRole) (value : String) : Style :=
  { s with fonts := s.fonts.insert role value }

def setColor (s : Style) (role : ColorRole) (value : String) : Style :=
  { s with colors := s.colors.insert role value }

def apply (s : Style) (e : Element) (setting : Setting) : Reading Style := do
  match ← Reading.requiredText e with
  | none => return s
  | some value =>
    match setting with
    | .font role => return s.setFont role value
    | .color role => return s.setColor role value
    | .borderWidth =>
      let width ← Reading.natural e "border width" value 1 32
      return { s with border.width := width.getD s.border.width }
    | .titleHeight =>
      let height ← Reading.natural e "title height" value 2 64
      return { s with border.titleHeight := height.getD s.border.titleHeight }

/-- Reads the tags of a block in order. -/
def applyAll (block : Tag) (settings : List (Tag × Setting)) :
    List Element → Style → Reading Style
  | [], s => return s
  | e :: es, s =>
    match setting? settings e.tag with
    | some setting => do applyAll block settings es (← s.apply e setting)
    | none => do
      Reading.invalidTag block e
      applyAll block settings es s

def readTaskInsert (e : Element) (s : Style) : Reading Style := do
  let insert ← Reading.choiceAttribute e "insert" "insert mode" TaskInsert.ofName? s.taskInsert
  return { s with taskInsert := insert }

def enabledOfName? : String → Option Bool
  | "true" => some true
  | "false" => some false
  | _ => none

def readDelay (e : Element) (current : Nat) : Reading Nat :=
  match e.attribute? "delay" with
  | none => return current
  | some value => do
    return (← Reading.natural e "popup delay" value 0 Text.maxWord).getD current

def readPopup (e : Element) (s : Style) : Reading Style := do
  let enabled ← Reading.choiceAttribute e "enabled" "enabled value" enabledOfName? s.popup.enabled
  let delay ← readDelay e s.popup.delay
  return { s with popup := { enabled, delay } }

/-- The attributes of a block come before the tags inside it. -/
def readAttributes (e : Element) (s : Style) : Reading Style :=
  match e.tag with
  | .taskListStyle => readTaskInsert e s
  | .popupStyle => readPopup e s
  | _ => return s

def read (e : Element) (s : Style) : Reading Style :=
  match block? e.tag with
  | none => return s
  | some settings => do applyAll e.tag settings e.children (← readAttributes e s)

end Style

end DeskConfig
