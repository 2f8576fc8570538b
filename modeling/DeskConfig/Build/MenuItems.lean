import DeskConfig.Build.Resolve
import DeskConfig.Settings.Menu

/-!
The items of a menu. Items are built in document order; an included menu puts its
items in the place of the include, at the same level and with the same height to
inherit. What is built depends on the elements, the world and the commands run
before, and on no part of the configuration.
-/

namespace DeskConfig

open Markup (Element)

/-- What building a sequence of items gives: the items, the last say on confirming
exits, what happened, and whether the include limit stopped it. -/
structure MenuYield where
  items : List MenuItem := []
  confirm : Option Bool := none
  journal : Journal := []
  stopped : Bool := false

namespace MenuYield

/-- A step after this one, which starts out knowing the commands run so far. -/
def andThen (y : MenuYield) (history : List Call) (next : List Call → MenuYield) : MenuYield :=
  if y.stopped then y
  else
    let z := next (history ++ y.journal.calls)
    { items := y.items ++ z.items
      confirm := z.confirm.or y.confirm
      journal := y.journal ++ z.journal
      stopped := z.stopped }

def noting (events : Journal) (y : MenuYield) : MenuYield :=
  { y with journal := events ++ y.journal }

def ofReading (r : Reading (Option MenuItem)) : MenuYield where
  items := r.value.toList
  journal := .ofWarnings r.warnings

def ofWarning (e : Element) (p : Problem) : MenuYield where
  journal := [.warned (.located e.origin p)]

/-- The items of a submenu become one item, unless building them was stopped. -/
def asSubmenu (e : Element) (itemHeight : Nat) (y : MenuYield) : MenuYield :=
  { y with
    items :=
      if y.stopped then []
      else [.submenu (e.attribute? "label") (e.attribute? "icon") (Menu.titleOf e) itemHeight
        y.items] }

end MenuYield

/-- How an include inside a menu is carried out, given its level, the height it
inherits and the commands run before. -/
abbrev MenuInclude := Element → (level height : Nat) → (history : List Call) → MenuYield

mutual

def itemsOf (onInclude : MenuInclude) (level height : Nat) :
    (history : List Call) → List Element → MenuYield
  | _, [] => {}
  | history, e :: es =>
    (itemOf onInclude level height history e).andThen history fun history =>
      itemsOf onInclude level height history es

def itemOf (onInclude : MenuInclude) (level height : Nat) (history : List Call) :
    Element → MenuYield
  | ⟨tag, text, attributes, children, origin⟩ =>
    let e : Element := ⟨tag, text, attributes, children, origin⟩
    match tag with
    | .include => onInclude e level height history
    | .menu =>
      if Menu.maxLevel ≤ level then .ofWarning e (.menuTooDeep Menu.maxLevel)
      else
        let itemHeight := Menu.heightOf e height
        ((itemsOf onInclude (level + 1) itemHeight.value history children).asSubmenu e
          itemHeight.value).noting (.ofWarnings itemHeight.warnings)
    | _ => { MenuYield.ofReading (Menu.leafItem e) with confirm := Menu.confirmation? e }

end

/-- The items of the document that an include names. Only its first element counts,
and that has to be a menu. -/
def includedItems (items : (history : List Call) → List Element → MenuYield) (e : Element)
    (reference : String) (history : List Call) :
    Except IncludeError (List Element) → MenuYield
  | .error (.markup cause) =>
    (MenuYield.ofWarning e (.invalidMenu reference)).noting [.warned (.ofMarkup cause)]
  | .error cause => .ofWarning e (.failedInclude cause)
  | .ok [] => .ofWarning e (.invalidMenu reference)
  | .ok (root :: _) =>
    if root.tag = .menu then items history root.children
    else .ofWarning e (.invalidMenu reference)

/-- An include inside a menu of a document at `depth`. At most `budget` includes are
entered one inside the other. -/
def menuInclude (world : World) (shell : String) (limit : Nat) :
    (budget depth : Nat) → MenuInclude
  | budget, depth, e, level, height, history =>
    match e.text with
    | none => .ofWarning e (.missingText e.name)
    | some reference =>
      match enter? limit depth, budget with
      | none, _ => { stopped := true }
      | some _, 0 => { stopped := true }
      | some next, budget + 1 =>
        match Source.ofMenuReference world reference with
        | .error cause => .ofWarning e (.failedInclude cause)
        | .ok source =>
          let (document, events) := resolve world shell history source
          (includedItems
              (itemsOf (menuInclude world shell limit budget next) level height)
              e reference (history ++ Journal.calls events) document).noting
            (.includingMenu source.label next :: events)

end DeskConfig
