import DeskConfig.Settings.Config

/-!
What a declaration can do. A declaration reads one part of the configuration anew from its
element, or adds to one of its lists, and leaves the other parts as they are; one of a
wrong tag changes nothing.
-/

namespace DeskConfig

open Markup (Element Tag)

@[simp] theorem Reading.value_requiredText (e : Element) :
    (Reading.requiredText e).value = e.text := by
  unfold Reading.requiredText
  cases e.text <;> rfl

namespace Config

/-- The configurations that a declaration can lead to. -/
inductive Declares (world : World) (e : Element) (c : Config) : Config → Prop
  | nothing : Declares world e c c
  | style : Declares world e c { c with style := (Style.read e c.style).value }
  | desktops : e.tag = .desktops →
      Declares world e c { c with desktops := (Desktops.read e c.desktops).value }
  | clickSpeed : e.tag = .doubleClickSpeed →
      Declares world e c { c with doubleClick := (DoubleClick.readSpeed e c.doubleClick).value }
  | clickDelta : e.tag = .doubleClickDelta →
      Declares world e c { c with doubleClick := (DoubleClick.readDelta e c.doubleClick).value }
  | focusModel : e.tag = .focusModel →
      Declares world e c { c with focusModel := (FocusModel.read e c.focusModel).value }
  | snap : e.tag = .snapMode →
      Declares world e c { c with snap := (Snap.read e c.snap).value }
  | moveMode : e.tag = .moveMode →
      Declares world e c { c with moveMode := (Drag.read "move" e c.moveMode).value }
  | resizeMode : e.tag = .resizeMode →
      Declares world e c { c with resizeMode := (Drag.read "resize" e c.resizeMode).value }
  | group : e.tag = .group →
      Declares world e c { c with groups := c.groups ++ [(Group.read e).value] }
  | key : e.tag = .key →
      Declares world e c { c with keys := extend c.keys (KeyBinding.read e).value }
  | tray : e.tag = .tray →
      Declares world e c { c with trays := c.trays ++ [(Tray.read c.trays e).value] }
  | iconPath : e.tag = .iconPath →
      Declares world e c { c with iconPaths := extend c.iconPaths (readPath world e).value }
  | themePath : e.tag = .themePath →
      Declares world e c { c with themePaths := extend c.themePaths (readPath world e).value }
  | theme : e.tag = .theme → Declares world e c { c with theme := e.text.or c.theme }
  | startup : e.tag = .startupCommand →
      Declares world e c { c with commands.startup := extend c.commands.startup e.text }
  | restart : e.tag = .restartCommand →
      Declares world e c { c with commands.restart := extend c.commands.restart e.text }
  | shutdown : e.tag = .shutdownCommand →
      Declares world e c { c with commands.shutdown := extend c.commands.shutdown e.text }

theorem declares (world : World) (parent : Tag) (e : Element) (c : Config) :
    Declares world e c (c.declare world parent e).value := by
  have htext := Reading.value_requiredText e
  unfold declare
  split <;> rename_i htag
  iterate 8 exact .style
  · exact .desktops htag
  · exact .clickSpeed htag
  · exact .clickDelta htag
  · exact .focusModel htag
  · exact .snap htag
  · exact .moveMode htag
  · exact .resizeMode htag
  · exact .group htag
  · exact .key htag
  · exact .nothing
  · exact .tray htag
  · exact .iconPath htag
  · exact .themePath htag
  · simpa [htext] using Declares.theme htag
  · simpa [htext] using Declares.startup htag
  · simpa [htext] using Declares.restart htag
  · simpa [htext] using Declares.shutdown htag
  · exact .nothing

/-- A declaration changes no menus. -/
theorem rootMenus_declare (world : World) (parent : Tag) (e : Element) (c : Config) :
    (c.declare world parent e).value.rootMenus = c.rootMenus := by
  have h := declares world parent e c
  generalize (c.declare world parent e).value = c' at h
  cases h <;> rfl

/-- Whether to confirm exits is said in menus only. -/
theorem confirmExit_declare (world : World) (parent : Tag) (e : Element) (c : Config) :
    (c.declare world parent e).value.confirmExit = c.confirmExit := by
  have h := declares world parent e c
  generalize (c.declare world parent e).value = c' at h
  cases h <;> rfl

end Config

end DeskConfig
