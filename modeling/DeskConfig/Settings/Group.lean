import DeskConfig.Include.Environment
import DeskConfig.Reading
import DeskConfig.Table

/-!
Window groups: the classes and names that select windows, and the options that apply
to them. An option is a flag or a value; of several values of a kind the last counts.
-/

namespace DeskConfig

open Markup (Element Tag)

inductive GroupFlag where
  | sticky
  | noList
  | border
  | noBorder
  | title
  | noTitle
  | pIgnore
  | maximized
  | minimized
  | shaded
deriving DecidableEq, Repr

namespace GroupFlag

def name : GroupFlag → String
  | sticky => "sticky"
  | noList => "no_list"
  | border => "border"
  | noBorder => "no_border"
  | title => "title"
  | noTitle => "no_title"
  | pIgnore => "p_ignore"
  | maximized => "maximized"
  | minimized => "minimized"
  | shaded => "shaded"

/-- The words of a document, written together. -/
def ofWord? : String → Option GroupFlag
  | "sticky" => some .sticky
  | "nolist" => some .noList
  | "border" => some .border
  | "noborder" => some .noBorder
  | "title" => some .title
  | "notitle" => some .noTitle
  | "pignore" => some .pIgnore
  | "maximized" => some .maximized
  | "minimized" => some .minimized
  | "shaded" => some .shaded
  | _ => none

instance : Ranked GroupFlag where
  rank f := f.ctorIdx
  rank_injective := by intro a b h; revert h; cases a <;> cases b <;> decide

end GroupFlag

inductive GroupValue where
  | layer
  | desktop
  | icon
deriving DecidableEq, Repr

namespace GroupValue

def name : GroupValue → String
  | layer => "layer"
  | desktop => "desktop"
  | icon => "icon"

instance : Ranked GroupValue where
  rank v := v.ctorIdx
  rank_injective := by intro a b h; revert h; cases a <;> cases b <;> decide

end GroupValue

inductive GroupOption where
  | flag (f : GroupFlag)
  | value (kind : GroupValue) (text : String)
deriving DecidableEq, Repr

namespace GroupOption

/-- The text after a kind of value and a colon. -/
def valueOf? (kind : GroupValue) (text : List Char) : Option GroupOption :=
  (Environment.after? (kind.name.toList ++ [':']) text).map fun rest =>
    .value kind (String.ofList rest)

def ofText? (text : String) : Option GroupOption :=
  match GroupFlag.ofWord? text with
  | some f => some (.flag f)
  | none => [GroupValue.layer, .desktop, .icon].findSome? (valueOf? · text.toList)

end GroupOption

structure Group where
  classes : List String := []
  names : List String := []
  flags : Table GroupFlag Unit := .empty
  values : Table GroupValue String := .empty
deriving DecidableEq

namespace Group

def setOption (g : Group) : GroupOption → Group
  | .flag flag => { g with flags := g.flags.insert flag () }
  | .value kind text => { g with values := g.values.insert kind text }

def readChild (parent : Tag) (e : Element) (g : Group) : Reading Group :=
  match e.tag with
  | .windowClass => do
    match ← Reading.requiredText e with
    | some text => return { g with classes := g.classes ++ [text] }
    | none => return g
  | .name => do
    match ← Reading.requiredText e with
    | some text => return { g with names := g.names ++ [text] }
    | none => return g
  | .option => do
    match ← Reading.requiredText e with
    | none => return g
    | some text =>
      match GroupOption.ofText? text with
      | some option => return g.setOption option
      | none =>
        Reading.warn e (.invalidOption text)
        return g
  | _ => do
    Reading.invalidTag parent e
    return g

def readChildren (parent : Tag) : List Element → Group → Reading Group
  | [], g => return g
  | e :: es, g => do readChildren parent es (← readChild parent e g)

def read (e : Element) : Reading Group := readChildren e.tag e.children {}

end Group

end DeskConfig
