/-!
The tags of a configuration document. The set is closed: a name outside it becomes
an unknown tag that keeps its spelling, so that every place can report it. Names
are compared exactly, case included.
-/

namespace DeskConfig.Markup

inductive Tag where
  | jwm
  | activeBackground
  | activeForeground
  | background
  | borderStyle
  | windowClass
  | clock
  | clockStyle
  | close
  | desktops
  | dock
  | doubleClickDelta
  | doubleClickSpeed
  | exit
  | focusModel
  | font
  | foreground
  | group
  | height
  | iconPath
  | include
  | key
  | kill
  | maximize
  | menu
  | menuStyle
  | minimize
  | mouse
  | move
  | moveMode
  | name
  | option
  | outline
  | pager
  | pagerStyle
  | popupStyle
  | program
  | resize
  | resizeMode
  | restart
  | restartCommand
  | rootMenu
  | separator
  | shade
  | shutdownCommand
  | snapMode
  | startupCommand
  | stick
  | swallow
  | taskList
  | taskListStyle
  | theme
  | themePath
  | tray
  | trayButton
  | trayButtonStyle
  | trayStyle
  | width
  | unknown (spelling : String)
deriving DecidableEq, Repr

namespace Tag

def spelling : Tag → String
  | .jwm => "JWM"
  | .activeBackground => "ActiveBackground"
  | .activeForeground => "ActiveForeground"
  | .background => "Background"
  | .borderStyle => "BorderStyle"
  | .windowClass => "Class"
  | .clock => "Clock"
  | .clockStyle => "ClockStyle"
  | .close => "Close"
  | .desktops => "Desktops"
  | .dock => "Dock"
  | .doubleClickDelta => "DoubleClickDelta"
  | .doubleClickSpeed => "DoubleClickSpeed"
  | .exit => "Exit"
  | .focusModel => "FocusModel"
  | .font => "Font"
  | .foreground => "Foreground"
  | .group => "Group"
  | .height => "Height"
  | .iconPath => "IconPath"
  | .include => "Include"
  | .key => "Key"
  | .kill => "Kill"
  | .maximize => "Maximize"
  | .menu => "Menu"
  | .menuStyle => "MenuStyle"
  | .minimize => "Minimize"
  | .mouse => "Mouse"
  | .move => "Move"
  | .moveMode => "MoveMode"
  | .name => "Name"
  | .option => "Option"
  | .outline => "Outline"
  | .pager => "Pager"
  | .pagerStyle => "PagerStyle"
  | .popupStyle => "PopupStyle"
  | .program => "Program"
  | .resize => "Resize"
  | .resizeMode => "ResizeMode"
  | .restart => "Restart"
  | .restartCommand => "RestartCommand"
  | .rootMenu => "RootMenu"
  | .separator => "Separator"
  | .shade => "Shade"
  | .shutdownCommand => "ShutdownCommand"
  | .snapMode => "SnapMode"
  | .startupCommand => "StartupCommand"
  | .stick => "Stick"
  | .swallow => "Swallow"
  | .taskList => "TaskList"
  | .taskListStyle => "TaskListStyle"
  | .theme => "Theme"
  | .themePath => "ThemePath"
  | .tray => "Tray"
  | .trayButton => "TrayButton"
  | .trayButtonStyle => "TrayButtonStyle"
  | .trayStyle => "TrayStyle"
  | .width => "Width"
  | .unknown s => s

/-- Every tag with a meaning of its own. -/
def known : List Tag := [
    .jwm, .activeBackground, .activeForeground, .background, .borderStyle, .windowClass, .clock,
    .clockStyle, .close, .desktops, .dock, .doubleClickDelta, .doubleClickSpeed, .exit,
    .focusModel, .font, .foreground, .group, .height, .iconPath, .include, .key, .kill,
    .maximize, .menu, .menuStyle, .minimize, .mouse, .move, .moveMode, .name, .option, .outline,
    .pager, .pagerStyle, .popupStyle, .program, .resize, .resizeMode, .restart, .restartCommand,
    .rootMenu, .separator, .shade, .shutdownCommand, .snapMode, .startupCommand, .stick,
    .swallow, .taskList, .taskListStyle, .theme, .themePath, .tray, .trayButton,
    .trayButtonStyle, .trayStyle, .width
  ]

def ofSpelling (s : String) : Tag := (known.find? (·.spelling == s)).getD (.unknown s)

theorem spelling_ofSpelling (s : String) : (ofSpelling s).spelling = s := by
  unfold ofSpelling
  cases h : known.find? (·.spelling == s) with
  | none => rfl
  | some t => simpa using List.find?_some h

end Tag

end DeskConfig.Markup
