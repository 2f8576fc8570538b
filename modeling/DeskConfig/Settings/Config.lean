import DeskConfig.Settings.Desktops
import DeskConfig.Settings.Group
import DeskConfig.Settings.Key
import DeskConfig.Settings.Menu
import DeskConfig.Settings.Pointer
import DeskConfig.Settings.Style
import DeskConfig.Settings.Tray

/-!
The configuration that a document sets. Every element of a document but a root menu
or an include is a declaration: it changes its own part of the configuration and
nothing else.
-/

namespace DeskConfig

open Markup (Element Tag)

/-- Commands run when the window manager starts, restarts and leaves. -/
structure LifecycleCommands where
  startup : List String := []
  restart : List String := []
  shutdown : List String := []
deriving DecidableEq, Repr

structure Config where
  style : Style := {}
  desktops : Desktops := {}
  focusModel : FocusModel := .sloppy
  snap : Snap := {}
  moveMode : Drag := {}
  resizeMode : Drag := {}
  doubleClick : DoubleClick := {}
  iconPaths : List String := []
  themePaths : List String := []
  theme : Option String := none
  commands : LifecycleCommands := {}
  rootMenus : RootMenus := {}
  keys : List KeyBinding := []
  groups : List Group := []
  trays : List Tray := []
  /-- Whether leaving is to be confirmed. The last exit entry built decides. -/
  confirmExit : Bool := true

namespace Config

/-- The path an element's text names, expanded. -/
def readPath (world : World) (e : Element) : Reading (Option String) := do
  match ← Reading.requiredText e with
  | none => return none
  | some text =>
    match world.expandPath text with
    | .ok path => return some path
    | .error cause =>
      Reading.warn e (.failedInclude cause)
      return none

/-- A list that gains one more entry, if there is one. -/
def extend (entries : List α) (entry : Option α) : List α := entries ++ entry.toList

/-- Applies a declaration that stands inside `parent`. -/
def declare (world : World) (parent : Tag) (e : Element) (c : Config) : Reading Config :=
  match e.tag with
  | .borderStyle | .clockStyle | .menuStyle | .pagerStyle | .popupStyle | .taskListStyle
  | .trayButtonStyle | .trayStyle => do
    return { c with style := ← Style.read e c.style }
  | .desktops => do
    return { c with desktops := ← Desktops.read e c.desktops }
  | .doubleClickSpeed => do
    return { c with doubleClick := ← DoubleClick.readSpeed e c.doubleClick }
  | .doubleClickDelta => do
    return { c with doubleClick := ← DoubleClick.readDelta e c.doubleClick }
  | .focusModel => do
    return { c with focusModel := ← FocusModel.read e c.focusModel }
  | .snapMode => do
    return { c with snap := ← Snap.read e c.snap }
  | .moveMode => do
    return { c with moveMode := ← Drag.read "move" e c.moveMode }
  | .resizeMode => do
    return { c with resizeMode := ← Drag.read "resize" e c.resizeMode }
  | .group => do
    return { c with groups := c.groups ++ [← Group.read e] }
  | .key => do
    return { c with keys := extend c.keys (← KeyBinding.read e) }
  | .mouse => return c
  | .tray => do
    return { c with trays := c.trays ++ [← Tray.read c.trays e] }
  | .iconPath => do
    return { c with iconPaths := extend c.iconPaths (← readPath world e) }
  | .themePath => do
    return { c with themePaths := extend c.themePaths (← readPath world e) }
  | .theme => do
    return { c with theme := (← Reading.requiredText e).or c.theme }
  | .startupCommand => do
    return { c with commands.startup := extend c.commands.startup (← Reading.requiredText e) }
  | .restartCommand => do
    return { c with commands.restart := extend c.commands.restart (← Reading.requiredText e) }
  | .shutdownCommand => do
    return { c with commands.shutdown := extend c.commands.shutdown (← Reading.requiredText e) }
  | _ => do
    Reading.invalidTag parent e
    return c

end Config

end DeskConfig
