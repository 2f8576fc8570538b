import DeskConfig.Settings.Config

/-!
Checks at the end of a load. Only then is it known which root menus there are, so
references to them are checked against the finished registry. Key bindings without
a usable key are removed; everything else only warns.
-/

namespace DeskConfig

/-- What is wrong with a text that names root menus by their slots: the first slot
without a menu. -/
def missingMenu? (menus : RootMenus) (slots : String) : Option MissingMenu :=
  if slots.isEmpty then some .noneGiven
  else
    (slots.toList.find? fun c => !((Text.digit? c).any menus.isDefined)).map .undefined

/-- The letters and digits that stand for modifier keys. -/
def modifiers : List Char := ['A', 'C', 'S', '1', '2', '3', '4', '5']

namespace KeyBinding

/-- What makes a binding useless. -/
def flaw? (b : KeyBinding) : Option Problem :=
  match b.keycode with
  | none => if b.key.isNone then some .keyless else none
  | some code =>
    if (Text.naturalIn? 0 Text.maxWord (Text.trim code.toList)).isNone then
      some (.invalidValue "keycode" code)
    else none

def badModifiers (b : KeyBinding) : List Problem :=
  (((b.mask.getD "").toList).filter (!modifiers.contains ·)).map .invalidModifier

def missingMenu? (menus : RootMenus) (b : KeyBinding) : Option Problem :=
  if b.action = .root then
    (DeskConfig.missingMenu? menus (b.command.getD "")).map (.missingMenu .keyBinding)
  else none

def check (menus : RootMenus) (b : KeyBinding) : Reading (Option KeyBinding) :=
  match b.flaw? with
  | some flaw => { value := none, warnings := [.located b.origin flaw] }
  | none =>
    { value := some b
      warnings := (b.badModifiers ++ (b.missingMenu? menus).toList).map (.located b.origin) }

def checkAll (menus : RootMenus) : List KeyBinding → Reading (List KeyBinding)
  | [] => return []
  | b :: bs => do
    let kept ← check menus b
    return kept.toList ++ (← checkAll menus bs)

end KeyBinding

namespace TrayButton

def missingMenu? (menus : RootMenus) (b : TrayButton) : Option Diagnostic := do
  let action ← b.action
  let slots ← Environment.after? KeyAction.rootMark.toList action.toList
  let cause ← DeskConfig.missingMenu? menus (String.ofList slots)
  return .located b.origin (.missingMenu .trayButton cause)

end TrayButton

namespace Config

def checkKeys (c : Config) : Reading Config := do
  return { c with keys := ← KeyBinding.checkAll c.rootMenus c.keys }

def checkTrayButtons (c : Config) : List Diagnostic :=
  (c.trays.flatMap Tray.buttons).filterMap (TrayButton.missingMenu? c.rootMenus)

end Config

end DeskConfig
