import DeskConfig.Reading

/-!
Menus. A menu owns its items and an item that opens a submenu owns that submenu, so
a menu is a tree. Root menus are bound to numbered slots; a slot that is bound again
leaves the menu it was bound to before.
-/

namespace DeskConfig

open Markup (Element Tag)

/-- What choosing an entry does. -/
inductive MenuAction where
  | execute (command : String)
  | exit (command : Option String)
  | restart
  | desktop
  | stick
  | maximize
  | minimize
  | shade
  | move
  | resize
  | kill
  | close
deriving DecidableEq, Repr

inductive MenuItem where
  | entry (name icon : Option String) (action : MenuAction)
  | submenu (name icon label : Option String) (itemHeight : Nat) (items : List MenuItem)
  | separator

/-- A height of zero leaves it open. -/
structure Menu where
  label : Option String := none
  itemHeight : Nat := 0
  items : List MenuItem := []

structure RootMenu where
  slots : List Nat
  menu : Menu

structure RootMenus where
  entries : List RootMenu := []

namespace RootMenus

/-- Takes slots away from the menus that have them; a menu without slots goes. -/
def unbind (m : RootMenus) (slots : List Nat) : RootMenus where
  entries := (m.entries.map fun r => { r with slots := r.slots.filter (!slots.contains ·) }).filter
    (!·.slots.isEmpty)

def set (m : RootMenus) (slots : List Nat) (menu : Menu) : RootMenus where
  entries := (m.unbind slots).entries ++ [{ slots, menu }]

def get? (m : RootMenus) (slot : Nat) : Option Menu :=
  (m.entries.find? (·.slots.contains slot)).map (·.menu)

def isDefined (m : RootMenus) (slot : Nat) : Bool := (m.get? slot).isSome

end RootMenus

namespace Menu

/-- The title of a labeled menu that has no label of its own. -/
def defaultTitle : String := "JWM"

/-- The slots of a root menu that does not name any. -/
def defaultSlots : String := "123"

/-- Deepest nesting of submenus under a root menu. -/
def maxLevel : Nat := 64

/-- The title shown above the items of a menu. -/
def titleOf (e : Element) : Option String :=
  if e.attribute? "labeled" = some "true" then
    some ((e.attribute? "label").getD defaultTitle)
  else none

def heightOf (e : Element) (inherited : Nat) : Reading Nat :=
  Reading.naturalAttribute e "height" 0 Text.maxWord inherited

/-- The slots that digits name, each once. Other characters are reported. -/
def slotsFrom (e : Element) : (found : List Nat) → List Char → Reading (List Nat)
  | found, [] => return found
  | found, c :: cs =>
    match Text.digit? c with
    | some slot =>
      if found.contains slot then slotsFrom e found cs
      else slotsFrom e (found ++ [slot]) cs
    | none => do
      Reading.warn e (.invalidSlot c)
      slotsFrom e found cs

def slotsOf (e : Element) : Reading (List Nat) := do
  let text := (e.attribute? "onroot").getD defaultSlots
  let slots ← slotsFrom e [] text.toList
  if slots.isEmpty then
    Reading.warn e (.noSlots text)
  return slots

/-- The action of a tag that does something to a window. -/
def windowAction? : Tag → Option MenuAction
  | .desktops => some .desktop
  | .stick => some .stick
  | .maximize => some .maximize
  | .minimize => some .minimize
  | .shade => some .shade
  | .move => some .move
  | .resize => some .resize
  | .kill => some .kill
  | .close => some .close
  | _ => none

/-- An entry named by its label or else by its tag. -/
def namedEntry (e : Element) (action : MenuAction) : MenuItem :=
  .entry (some ((e.attribute? "label").getD e.name)) (e.attribute? "icon") action

/-- A program without a command runs the empty one. -/
def programEntry (e : Element) : MenuItem :=
  .entry ((e.attribute? "label").or e.text) (e.attribute? "icon") (.execute (e.text.getD ""))

/-- The item of a tag that holds no other items. -/
def leafItem (e : Element) : Reading (Option MenuItem) :=
  match e.tag with
  | .program => return some (programEntry e)
  | .separator => return some .separator
  | .exit => return some (namedEntry e (.exit e.text))
  | .restart => return some (namedEntry e .restart)
  | tag =>
    match windowAction? tag with
    | some action => return some (namedEntry e action)
    | none => do
      Reading.invalidTag .menu e
      return none

/-- Whether leaving is to be confirmed, where an element says so. -/
def confirmation? (e : Element) : Option Bool :=
  if e.tag = .exit then some (e.attribute? "confirm" != some "false") else none

end Menu

end DeskConfig
