import DeskConfig.Include.Source
import DeskConfig.Reading

/-!
Key bindings. The text of a binding names an action: a command to run, a root menu
to show, one of a fixed list, or a numbered desktop. Whether the key itself makes
sense is left for the end of the load.
-/

namespace DeskConfig

open Markup (Element Origin)

inductive KeyAction where
  | up
  | down
  | right
  | left
  | escape
  | select
  | next
  | nextStacked
  | close
  | minimize
  | maximize
  | shade
  | move
  | resize
  | window
  | restart
  | exit
  /-- Without a number, the key itself gives it. -/
  | desktop (number : Option Nat)
  | exec
  | root
deriving DecidableEq, Repr

namespace KeyAction

def ofWord? : String → Option KeyAction
  | "up" => some .up
  | "down" => some .down
  | "right" => some .right
  | "left" => some .left
  | "escape" => some .escape
  | "select" => some .select
  | "next" => some .next
  | "nextstacked" => some .nextStacked
  | "close" => some .close
  | "minimize" => some .minimize
  | "maximize" => some .maximize
  | "shade" => some .shade
  | "move" => some .move
  | "resize" => some .resize
  | "window" => some .window
  | "restart" => some .restart
  | "exit" => some .exit
  | "desktop" => some (.desktop none)
  | "desktop#" => some (.desktop none)
  | _ => none

/-- Marks an action that shows root menus. -/
def rootMark : String := "root:"

def desktopMark : String := "desktop#"

/-- An action and, for a command or a root menu, the text after its mark. -/
def ofText? (text : String) : Option (KeyAction × Option String) :=
  match Environment.after? Source.execMark.toList text.toList with
  | some command => some (.exec, some (String.ofList command))
  | none =>
    match Environment.after? rootMark.toList text.toList with
    | some slots => some (.root, some (String.ofList slots))
    | none =>
      match ofWord? text with
      | some action => some (action, none)
      | none => do
        let number ← Environment.after? desktopMark.toList text.toList
        let n ← Text.naturalIn? 0 Text.maxWord number
        return (.desktop (some n), none)

end KeyAction

structure KeyBinding where
  action : KeyAction
  mask : Option String
  key : Option String
  keycode : Option String
  command : Option String
  origin : Origin
deriving DecidableEq, Repr

namespace KeyBinding

def read (e : Element) : Reading (Option KeyBinding) :=
  match e.text with
  | none => do
    Reading.warn e .missingAction
    return none
  | some text =>
    match KeyAction.ofText? text with
    | none => do
      Reading.warn e (.invalidValue "Key action" text)
      return none
    | some (action, command) =>
      return some {
        action, command,
        mask := e.attribute? "mask",
        key := e.attribute? "key",
        keycode := e.attribute? "keycode",
        origin := e.origin }

end KeyBinding

end DeskConfig
