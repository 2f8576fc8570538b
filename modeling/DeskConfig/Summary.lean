import DeskConfig.Load

/-!
The summary of a configuration: how many parts of each kind were found.
-/

namespace DeskConfig

def count (n : Nat) (what : String) : String := s!"{n} {what}(s)"

/-- One line per kind of part; the last one counts the warnings. -/
def summary (c : Config) (warnings : Nat) : List String :=
  let menus := c.rootMenus.entries
  let slots := menus.flatMap fun r => r.slots.map fun slot => s!"{slot}"
  let buttons := (c.trays.flatMap fun t => t.buttons).length
  [count menus.length "root menu" ++ " on slots " ++ ",".intercalate slots,
    count c.keys.length "key binding",
    count c.groups.length "group",
    count c.trays.length "tray" ++ ", " ++ count buttons "button",
    count c.desktops.count "desktop",
    count warnings "warning"]

end DeskConfig
