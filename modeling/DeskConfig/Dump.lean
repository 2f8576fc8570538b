import DeskConfig.Json
import DeskConfig.Settings.Config

/-!
The written form of a configuration. Every part has its member, in a fixed order,
and what is not set is written as null, so a configuration can be read back from it.
-/

namespace DeskConfig

open Json (ofNat optionalString strings)

def Markup.Origin.toJson (o : Markup.Origin) : Json :=
  .obj [("file", .str o.file), ("line", ofNat o.line)]

namespace Style

def fontsJson (s : Style) : Json := .obj (s.fonts.entries.map fun (r, v) => (r.name, .str v))

def colorsJson (s : Style) : Json := .obj (s.colors.entries.map fun (r, v) => (r.name, .str v))

end Style

def Border.toJson (b : Border) : Json :=
  .obj [("width", ofNat b.width), ("title_height", ofNat b.titleHeight)]

def Popup.toJson (p : Popup) : Json :=
  .obj [("enabled", .bool p.enabled), ("delay", ofNat p.delay)]

def Desktops.toJson (d : Desktops) : Json :=
  .obj [("count", ofNat d.count),
    ("names", .obj (d.names.entries.map fun (i, v) =>
      (String.ofList (Nat.toDigits 10 i), .str v)))]

def Snap.toJson (s : Snap) : Json :=
  .obj [("mode", .str s.mode.name), ("distance", ofNat s.distance)]

def Drag.toJson (d : Drag) : Json :=
  .obj [("mode", .str d.mode.name), ("coordinates", .str d.coordinates.name)]

def DoubleClick.toJson (d : DoubleClick) : Json :=
  .obj [("speed", ofNat d.speed), ("delta", ofNat d.delta)]

def LifecycleCommands.toJson (c : LifecycleCommands) : Json :=
  .obj [("startup", strings c.startup), ("restart", strings c.restart),
    ("shutdown", strings c.shutdown)]

namespace MenuAction

/-- An action is written as its kind and, where it has one, its value. -/
def tagged (kind : String) : Json := .obj [("type", .str kind)]

def toJson : MenuAction → Json
  | execute command => .obj [("type", .str "execute"), ("value", .str command)]
  | exit command => .obj [("type", .str "exit"), ("value", optionalString command)]
  | restart => tagged "restart"
  | desktop => tagged "desktop"
  | stick => tagged "stick"
  | maximize => tagged "maximize"
  | minimize => tagged "minimize"
  | shade => tagged "shade"
  | move => tagged "move"
  | resize => tagged "resize"
  | kill => tagged "kill"
  | close => tagged "close"

end MenuAction

def menuMembers (label : Option String) (itemHeight : Nat) (items : List Json) :
    List (String × Json) :=
  [("label", optionalString label), ("item_height", ofNat itemHeight), ("items", .arr items)]

mutual

def MenuItem.toJson : MenuItem → Json
  | .entry name icon action =>
    .obj [("kind", .str "normal"), ("name", optionalString name), ("icon", optionalString icon),
      ("action", action.toJson), ("submenu", .null)]
  | .submenu name icon label itemHeight items =>
    .obj [("kind", .str "submenu"), ("name", optionalString name), ("icon", optionalString icon),
      ("action", MenuAction.tagged "none"),
      ("submenu", .obj (menuMembers label itemHeight (menuItemsJson items)))]
  | .separator =>
    .obj [("kind", .str "separator"), ("name", .null), ("icon", .null),
      ("action", MenuAction.tagged "none"), ("submenu", .null)]

def menuItemsJson : List MenuItem → List Json
  | [] => []
  | item :: items => item.toJson :: menuItemsJson items

end

def Menu.toJson (m : Menu) : Json :=
  .obj (menuMembers m.label m.itemHeight (menuItemsJson m.items))

def RootMenu.toJson (r : RootMenu) : Json :=
  .obj [("slots", .arr (r.slots.map ofNat)), ("menu", r.menu.toJson)]

def RootMenus.toJson (m : RootMenus) : Json :=
  .obj [("entries", .arr (m.entries.map RootMenu.toJson))]

def KeyAction.toJson : KeyAction → Json
  | .up => .str "up"
  | .down => .str "down"
  | .right => .str "right"
  | .left => .str "left"
  | .escape => .str "escape"
  | .select => .str "select"
  | .next => .str "next"
  | .nextStacked => .str "next_stacked"
  | .close => .str "close"
  | .minimize => .str "minimize"
  | .maximize => .str "maximize"
  | .shade => .str "shade"
  | .move => .str "move"
  | .resize => .str "resize"
  | .window => .str "window"
  | .restart => .str "restart"
  | .exit => .str "exit"
  | .desktop number => .obj [("desktop", Json.ofOption ofNat number)]
  | .exec => .str "exec"
  | .root => .str "root"

def KeyBinding.toJson (b : KeyBinding) : Json :=
  .obj [("action", b.action.toJson), ("mask", optionalString b.mask),
    ("key", optionalString b.key), ("keycode", optionalString b.keycode),
    ("command", optionalString b.command), ("origin", b.origin.toJson)]

def Group.toJson (g : Group) : Json :=
  .obj [("classes", strings g.classes), ("names", strings g.names),
    ("options", .arr (g.flags.entries.map fun (f, _) => .str f.name)),
    ("values", .obj (g.values.entries.map fun (k, v) => (k.name, .str v)))]

def Size.members (s : Size) : List (String × Json) :=
  [("width", ofNat s.width), ("height", ofNat s.height)]

namespace TrayComponent

def toJson : TrayComponent → Json
  | pager => .obj [("type", .str "pager")]
  | taskList width => .obj [("type", .str "task_list"), ("max_item_width", ofNat width)]
  | swallow name command size =>
    .obj ([("type", .str "swallow"), ("name", .str name), ("command", optionalString command)] ++
      size.members)
  | button b =>
    .obj ([("type", .str "button"), ("icon", optionalString b.icon),
      ("label", optionalString b.label), ("action", optionalString b.action),
      ("popup", optionalString b.popup)] ++ b.size.members ++ [("origin", b.origin.toJson)])
  | clock format command size =>
    .obj ([("type", .str "clock"), ("format", optionalString format),
      ("command", optionalString command)] ++ size.members)
  | dock => .obj [("type", .str "dock")]

end TrayComponent

def Tray.toJson (t : Tray) : Json :=
  .obj ([("autohide", .bool t.autohide), ("x", .num t.x), ("y", .num t.y)] ++ t.size.members ++
    [("valign", .str t.valign.name), ("halign", .str t.halign.name),
      ("layout", .str t.layout.name), ("layer", ofNat t.layer), ("border", ofNat t.border),
      ("components", .arr (t.components.map TrayComponent.toJson))])

namespace Config

/-- The members of the written configuration, in order. -/
def members (c : Config) : List (String × Json) :=
  [("fonts", c.style.fontsJson),
    ("colors", c.style.colorsJson),
    ("border", c.style.border.toJson),
    ("desktops", c.desktops.toJson),
    ("focus_model", .str c.focusModel.name),
    ("snap", c.snap.toJson),
    ("move_mode", c.moveMode.toJson),
    ("resize_mode", c.resizeMode.toJson),
    ("double_click", c.doubleClick.toJson),
    ("popup", c.style.popup.toJson),
    ("task_insert", .str c.style.taskInsert.name),
    ("icon_paths", strings c.iconPaths),
    ("theme_paths", strings c.themePaths),
    ("theme", optionalString c.theme),
    ("commands", c.commands.toJson),
    ("root_menus", c.rootMenus.toJson),
    ("keys", .arr (c.keys.map KeyBinding.toJson)),
    ("groups", .arr (c.groups.map Group.toJson)),
    ("trays", .arr (c.trays.map Tray.toJson)),
    ("show_exit_confirmation", .bool c.confirmExit)]

def toJson (c : Config) : Json := .obj c.members

def dump (c : Config) : String := c.toJson.render

end Config

end DeskConfig
