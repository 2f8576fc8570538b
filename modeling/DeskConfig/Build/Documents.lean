import DeskConfig.Build.MenuItems
import DeskConfig.Settings.Config

/-!
Documents. The top-level elements of a document hold declarations, root menus and
includes; an included document is walked in the place of its include. A walk keeps
what it has built even when the include limit stops it.
-/

namespace DeskConfig

open Markup (Element Tag)

/-- How far a walk has come. -/
structure Progress where
  config : Config
  journal : Journal := []
  stopped : Bool := false

namespace Progress

/-- A step after this one, which starts out knowing the commands run so far. -/
def andThen (p : Progress) (history : List Call) (next : Config → List Call → Progress) :
    Progress :=
  if p.stopped then p
  else
    let q := next p.config (history ++ p.journal.calls)
    { q with journal := p.journal ++ q.journal }

def noting (events : Journal) (p : Progress) : Progress :=
  { p with journal := events ++ p.journal }

def ofReading (r : Reading Config) : Progress where
  config := r.value
  journal := .ofWarnings r.warnings

def ofWarning (c : Config) (e : Element) (p : Problem) : Progress where
  config := c
  journal := [.warned (.located e.origin p)]

end Progress

/-- What a load may ask of its surroundings. -/
structure Limits where
  shell : String
  includeDepth : Nat

/-- How the two kinds of includes in a document are carried out. -/
structure Includes where
  inMenu : MenuInclude
  inDocument : Element → Config → (history : List Call) → Progress

/-- Binds a menu to slots; without slots it is dropped. -/
def Config.bindMenu (c : Config) (slots : List Nat) (menu : Menu) : Config :=
  if slots.isEmpty then c else { c with rootMenus := c.rootMenus.set slots menu }

/-- Builds a root menu and binds it. A menu whose building was stopped is not bound,
but its exit entries have had their say. -/
def rootMenu (onInclude : MenuInclude) (e : Element) (c : Config) (history : List Call) :
    Progress :=
  let height := Menu.heightOf e 0
  let items := itemsOf onInclude 0 height.value history e.children
  let y := items.noting (.ofWarnings height.warnings)
  let c := { c with confirmExit := y.confirm.getD c.confirmExit }
  if y.stopped then { config := c, journal := y.journal, stopped := true }
  else
    let slots := Menu.slotsOf e
    { config := c.bindMenu slots.value
        { label := Menu.titleOf e, itemHeight := height.value, items := y.items }
      journal := y.journal ++ .ofWarnings slots.warnings }

/-- One element inside `parent`, a top-level element. -/
def walkElement (world : World) (includes : Includes) (parent : Tag) (e : Element) (c : Config)
    (history : List Call) : Progress :=
  match e.tag with
  | .rootMenu => rootMenu includes.inMenu e c history
  | .include => includes.inDocument e c history
  | _ => .ofReading (c.declare world parent e)

def walkElements (world : World) (includes : Includes) (parent : Tag) :
    List Element → Config → (history : List Call) → Progress
  | [], c, _ => { config := c }
  | e :: es, c, history =>
    (walkElement world includes parent e c history).andThen history
      (walkElements world includes parent es)

/-- A top-level element and all inside it. -/
def walkRoot (world : World) (includes : Includes) (e : Element) :
    Config → (history : List Call) → Progress :=
  walkElements world includes e.tag e.children

/-- The top-level elements of a document; those of a wrong tag are skipped. -/
def walkDocument (world : World) (includes : Includes) :
    List Element → Config → (history : List Call) → Progress
  | [], c, _ => { config := c }
  | e :: es, c, history =>
    let p := if e.tag = .jwm then walkRoot world includes e c history
      else .ofWarning c e (.invalidStartTag e.name)
    p.andThen history (walkDocument world includes es)

/-- The outcome of an include, given the document it names. -/
def includedDocument (walk : List Element → Config → (history : List Call) → Progress)
    (e : Element) (label : String) (c : Config) (history : List Call) :
    Except IncludeError (List Element) → Progress
  | .ok document => walk document c history
  | .error (.markup cause) => { config := c, journal := [.warned (.ofMarkup cause)] }
  | .error _ => .ofWarning c e (.unreadableInclude label)

/-- An include in a document at `depth`. At most `budget` includes are entered one
inside the other. -/
def documentInclude (world : World) (limits : Limits) :
    (budget depth : Nat) → Element → Config → (history : List Call) → Progress
  | budget, depth, e, c, history =>
    match e.text with
    | none => .ofWarning c e (.missingText e.name)
    | some reference =>
      match enter? limits.includeDepth depth, budget with
      | none, _ => { config := c, stopped := true }
      | some _, 0 => { config := c, stopped := true }
      | some next, budget + 1 =>
        match Source.ofReference world reference with
        | .error cause => .ofWarning c e (.failedInclude cause)
        | .ok source =>
          let (document, events) := resolve world limits.shell history source
          let includes : Includes :=
            { inMenu := menuInclude world limits.shell limits.includeDepth budget next
              inDocument := documentInclude world limits budget next }
          (includedDocument (walkDocument world includes) e source.label c
              (history ++ Journal.calls events) document).noting
            (.including source.label next :: events)

def includesAt (world : World) (limits : Limits) (budget depth : Nat) : Includes where
  inMenu := menuInclude world limits.shell limits.includeDepth budget depth
  inDocument := documentInclude world limits budget depth

/-- A limit below the largest 32-bit number is reached after that many includes at
most. At the largest one the depth no longer grows, so a walk there gets as many
includes again. -/
def Limits.budget (limits : Limits) (depth : Nat) : Nat :=
  if limits.includeDepth < Text.maxWord then limits.includeDepth - depth else 2 * Text.maxWord

end DeskConfig
