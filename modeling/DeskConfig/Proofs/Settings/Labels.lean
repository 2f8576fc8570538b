import DeskConfig.Proofs.Markup.Labels
import DeskConfig.Validation

/-!
Settings under other labels. What is read from an element does not depend on the label that the
element carries: key bindings, tray buttons and warnings pass the label on, and that is all.
The checks at the end of a load do the same.
-/

namespace DeskConfig

open Markup (Element Tag)

variable (f : String → String)

def Diagnostic.relabel (d : Diagnostic) : Diagnostic :=
  { d with origin := d.origin.map (·.relabel f) }

theorem Diagnostic.located_relabel (origin : Markup.Origin) (problem : Problem) :
    located (origin.relabel f) problem = (located origin problem).relabel f := rfl

namespace Reading

instance : LawfulMonad Reading := .mk' Reading
  (by
    intro α r
    show Reading.mk _ (_ ++ []) = _
    rw [List.append_nil]
    rfl)
  (fun _ _ => rfl)
  (by
    intro α β γ r next next'
    show Reading.mk _ _ = Reading.mk _ _
    rw [warnings_bind, List.append_assoc]
    rfl)

/-- The same reading with its warnings under other labels. -/
def relabel (r : Reading α) : Reading α := { r with warnings := r.warnings.map (·.relabel f) }

@[simp] theorem relabel_pure (a : α) : relabel f (pure a : Reading α) = pure a := rfl

@[simp] theorem relabel_bind (r : Reading α) (next : α → Reading β) :
    relabel f (r >>= next) = relabel f r >>= fun a => relabel f (next a) := by
  simp only [relabel, value_bind, warnings_bind, List.map_append]
  rfl

@[simp] theorem relabel_map (g : α → β) (r : Reading α) :
    relabel f (g <$> r) = g <$> relabel f r := by
  rw [← bind_pure_comp, ← bind_pure_comp, relabel_bind]
  rfl

variable (e : Element)

@[simp] theorem warn_relabel (problem : Problem) :
    warn (e.relabel f) problem = relabel f (warn e problem) := by
  simp only [warn, Markup.Element.origin_relabel]
  rfl

@[simp] theorem invalidTag_relabel (parent : Tag) :
    invalidTag parent (e.relabel f) = relabel f (invalidTag parent e) := by
  simp only [invalidTag, warn_relabel, Markup.Element.name_relabel]

@[simp] theorem requiredText_relabel :
    requiredText (e.relabel f) = relabel f (requiredText e) := by
  unfold requiredText
  rw [Markup.Element.text_relabel]
  cases e.text <;> simp

@[simp] theorem natural_relabel (what value : String) (low high : Nat) :
    natural (e.relabel f) what value low high = relabel f (natural e what value low high) := by
  unfold natural
  split <;> simp

@[simp] theorem integer_relabel (what value : String) (low high : Int) :
    integer (e.relabel f) what value low high = relabel f (integer e what value low high) := by
  unfold integer
  split <;> simp

@[simp] theorem naturalAttribute_relabel (name : String) (low high default : Nat) :
    naturalAttribute (e.relabel f) name low high default =
      relabel f (naturalAttribute e name low high default) := by
  unfold naturalAttribute
  rw [Markup.Element.attribute?_relabel]
  split <;> simp

@[simp] theorem integerAttribute_relabel (name : String) (low high default : Int) :
    integerAttribute (e.relabel f) name low high default =
      relabel f (integerAttribute e name low high default) := by
  unfold integerAttribute
  rw [Markup.Element.attribute?_relabel]
  split <;> simp

@[simp] theorem choiceAttribute_relabel (name what : String) (choose : String → Option α)
    (default : α) : choiceAttribute (e.relabel f) name what choose default =
      relabel f (choiceAttribute e name what choose default) := by
  unfold choiceAttribute
  rw [Markup.Element.attribute?_relabel]
  split
  · rfl
  · split <;> simp

end Reading

namespace Style

@[simp] theorem apply_relabel (s : Style) (e : Element) (setting : Setting) :
    s.apply (e.relabel f) setting = (s.apply e setting).relabel f := by
  simp only [apply, Reading.requiredText_relabel, Reading.relabel_bind]
  congr 1
  funext value
  cases value with
  | none => rfl
  | some value => cases setting <;> simp

theorem applyAll_relabel (block : Tag) (settings : List (Tag × Setting)) (es : List Element)
    (s : Style) :
    applyAll block settings (es.map (·.relabel f)) s =
      (applyAll block settings es s).relabel f := by
  induction es generalizing s with
  | nil => rfl
  | cons e es ih =>
    simp only [List.map_cons, applyAll, Markup.Element.tag_relabel]
    split <;> simp [ih]

theorem readAttributes_relabel (e : Element) (s : Style) :
    readAttributes (e.relabel f) s = (readAttributes e s).relabel f := by
  have hdelay : ∀ current, readDelay (e.relabel f) current = (readDelay e current).relabel f := by
    intro current
    unfold readDelay
    rw [Markup.Element.attribute?_relabel]
    split <;> simp
  unfold readAttributes
  rw [Markup.Element.tag_relabel]
  split
  · simp [readTaskInsert]
  · simp [readPopup, hdelay]
  · rfl

@[simp] theorem read_relabel (e : Element) (s : Style) :
    read (e.relabel f) s = (read e s).relabel f := by
  unfold read
  rw [Markup.Element.tag_relabel]
  split
  · rfl
  · simp [readAttributes_relabel, applyAll_relabel]

end Style

theorem Desktops.readNamesFrom_relabel (parent : Tag) (index : Nat) (es : List Element)
    (d : Desktops) :
    readNamesFrom parent index (es.map (·.relabel f)) d =
      (readNamesFrom parent index es d).relabel f := by
  induction es generalizing index d with
  | nil => rfl
  | cons e es ih =>
    simp only [List.map_cons, readNamesFrom, Markup.Element.tag_relabel]
    split
    · rfl
    split
    · simp only [Reading.requiredText_relabel, Reading.relabel_bind]
      congr 1
      funext value
      cases value <;> simp [ih]
    · simp [ih]

@[simp] theorem Desktops.read_relabel (e : Element) (d : Desktops) :
    read (e.relabel f) d = (read e d).relabel f := by
  simp [read, readNamesFrom_relabel]

@[simp] theorem FocusModel.read_relabel (e : Element) (m : FocusModel) :
    read (e.relabel f) m = (read e m).relabel f := by
  unfold read
  rw [Markup.Element.text_relabel]
  split
  · simp
  · split <;> simp

@[simp] theorem readMode_relabel (e : Element) (what : String) (choose : String → Option α) :
    readMode (e.relabel f) what choose = (readMode e what choose).relabel f := by
  unfold readMode
  rw [Markup.Element.text_relabel]
  split
  · simp
  · split <;> simp

@[simp] theorem Snap.read_relabel (e : Element) (s : Snap) :
    read (e.relabel f) s = (read e s).relabel f := by
  simp [read]

@[simp] theorem Drag.read_relabel (what : String) (e : Element) (d : Drag) :
    read what (e.relabel f) d = (read what e d).relabel f := by
  have hcoordinates : readCoordinates (e.relabel f) d.coordinates =
      (readCoordinates e d.coordinates).relabel f := by
    unfold readCoordinates
    rw [Markup.Element.attribute?_relabel]
    split <;> simp
  simp [read, hcoordinates]

namespace DoubleClick

@[simp] theorem readNumber_relabel (e : Element) (what : String) (low high : Nat) :
    readNumber (e.relabel f) what low high = (readNumber e what low high).relabel f := by
  simp only [readNumber, Reading.requiredText_relabel, Reading.relabel_bind]
  congr 1
  funext value
  cases value <;> simp

@[simp] theorem readSpeed_relabel (e : Element) (d : DoubleClick) :
    readSpeed (e.relabel f) d = (readSpeed e d).relabel f := by
  simp [readSpeed]

@[simp] theorem readDelta_relabel (e : Element) (d : DoubleClick) :
    readDelta (e.relabel f) d = (readDelta e d).relabel f := by
  simp [readDelta]

end DoubleClick

namespace Group

@[simp] theorem readChild_relabel (parent : Tag) (e : Element) (g : Group) :
    readChild parent (e.relabel f) g = (readChild parent e g).relabel f := by
  unfold readChild
  rw [Markup.Element.tag_relabel]
  split
  case h_1 | h_2 =>
    simp only [Reading.requiredText_relabel, Reading.relabel_bind]
    congr 1
    funext value
    cases value <;> rfl
  case h_3 =>
    simp only [Reading.requiredText_relabel, Reading.relabel_bind]
    congr 1
    funext value
    cases value with
    | none => rfl
    | some text =>
      dsimp only
      cases GroupOption.ofText? text <;> simp
  case h_4 => simp

@[simp] theorem read_relabel (e : Element) : read (e.relabel f) = (read e).relabel f := by
  have hchildren : ∀ (parent : Tag) (es : List Element) (g : Group),
      readChildren parent (es.map (·.relabel f)) g = (readChildren parent es g).relabel f := by
    intro parent es g
    induction es generalizing g with
    | nil => rfl
    | cons e es ih => simp [readChildren, ih]
  simp [read, hchildren]

end Group

/-! Key bindings and tray buttons remember where they were declared. -/

def KeyBinding.relabel (b : KeyBinding) : KeyBinding := { b with origin := b.origin.relabel f }

@[simp] theorem KeyBinding.read_relabel (e : Element) :
    read (e.relabel f) = (Option.map (·.relabel f) <$> read e).relabel f := by
  unfold read
  simp only [Markup.Element.text_relabel, Markup.Element.attribute?_relabel,
    Markup.Element.origin_relabel]
  cases e.text with
  | none => simp
  | some text =>
    dsimp only
    cases KeyAction.ofText? text with
    | none => simp
    | some action => rfl

def TrayButton.relabel (b : TrayButton) : TrayButton := { b with origin := b.origin.relabel f }

def TrayComponent.relabel : TrayComponent → TrayComponent
  | .button b => .button (b.relabel f)
  | component => component

def Tray.relabel (t : Tray) : Tray := { t with components := t.components.map (·.relabel f) }

namespace Tray

section Components

variable (earlier : List TrayComponent) (e : Element)

@[simp] theorem readSize_relabel : readSize (e.relabel f) = (readSize e).relabel f := by
  simp [readSize]

/-- Swallowed clients carry no label. -/
theorem readSwallow_relabel :
    readSwallow (earlier.map (·.relabel f)) (e.relabel f) =
      (Option.map (·.relabel f) <$> readSwallow earlier e).relabel f := by
  have hswallows : ∀ name, (earlier.map (·.relabel f)).any (·.swallows name) =
      earlier.any (·.swallows name) := by
    intro name
    rw [List.any_map]
    congr 1
    funext component
    cases component <;> rfl
  unfold readSwallow
  simp only [Markup.Element.text_relabel, Markup.Element.attribute?_relabel, hswallows]
  split
  · simp
  · split <;> simp [TrayComponent.relabel]

theorem readDock_relabel :
    readDock (earlier.map (·.relabel f)) (e.relabel f) =
      (Option.map (·.relabel f) <$> readDock earlier e).relabel f := by
  have hdock : (earlier.map (·.relabel f)).contains .dock = earlier.contains .dock := by
    rw [Bool.eq_iff_iff, List.contains_iff_mem, List.contains_iff_mem, List.mem_map]
    constructor
    · rintro ⟨component, hmem, hdock⟩
      cases component <;> cases hdock
      exact hmem
    · exact fun hmem => ⟨.dock, hmem, rfl⟩
  unfold readDock
  rw [hdock]
  split <;> simp [TrayComponent.relabel]

theorem readButton_relabel :
    readButton (e.relabel f) = (Option.map (·.relabel f) <$> readButton e).relabel f := by
  simp only [readButton, Markup.Element.attribute?_relabel, Markup.Element.text_relabel,
    Markup.Element.origin_relabel, readSize_relabel]
  split <;> simp [TrayComponent.relabel, TrayButton.relabel]

theorem readComponent_relabel (parent : Tag) :
    readComponent parent (earlier.map (·.relabel f)) (e.relabel f) =
      (Option.map (·.relabel f) <$> readComponent parent earlier e).relabel f := by
  have htaskList : readTaskList (e.relabel f) =
      ((·.relabel f) <$> readTaskList e).relabel f := by
    unfold readTaskList
    rw [Markup.Element.attribute?_relabel]
    split <;> simp [TrayComponent.relabel]
  unfold readComponent
  rw [Markup.Element.tag_relabel]
  split
  case h_1 => rfl
  case h_2 => simp [htaskList]
  case h_3 => exact readSwallow_relabel f earlier e
  case h_4 => exact readButton_relabel f e
  case h_5 => simp [readClock, TrayComponent.relabel]
  case h_6 => exact readDock_relabel f earlier e
  case h_7 => simp

theorem readComponents_relabel (parent : Tag) (es : List Element) :
    readComponents parent (earlier.map (·.relabel f)) (es.map (·.relabel f)) =
      (List.map (·.relabel f) <$> readComponents parent earlier es).relabel f := by
  induction es generalizing earlier with
  | nil => rfl
  | cons e es ih =>
    simp only [List.map_cons, readComponents, readComponent_relabel, Reading.relabel_map,
      Reading.relabel_bind, map_bind, bind_map_left]
    congr 1
    funext added
    have hearlier : earlier.map (·.relabel f) ++ (added.map (·.relabel f)).toList =
        (earlier ++ added.toList).map (·.relabel f) := by
      cases added <;> simp
    rw [hearlier, ih]
    cases added <;> simp

end Components

@[simp] theorem read_relabel (before : List Tray) (e : Element) :
    read (before.map (·.relabel f)) (e.relabel f) =
      ((·.relabel f) <$> read before e).relabel f := by
  have hbefore : (before.map (·.relabel f)).flatMap (·.components) =
      (before.flatMap (·.components)).map (·.relabel f) := by
    rw [List.flatMap_map, List.map_flatMap]
    rfl
  simp only [read, hbefore, readComponents_relabel, Markup.Element.tag_relabel,
    Markup.Element.children_relabel]
  simp [relabel]

theorem buttons_relabel (t : Tray) :
    (t.relabel f).buttons = t.buttons.map (·.relabel f) := by
  rw [buttons, buttons, relabel, List.filterMap_map, List.map_filterMap]
  congr 1
  funext component
  cases component <;> rfl

end Tray

namespace Config

def relabel (c : Config) : Config :=
  { c with keys := c.keys.map (·.relabel f), trays := c.trays.map (·.relabel f) }

/-- A declaration under another label declares the same. -/
theorem declare_relabel (world : World) (parent : Tag) (e : Element) (c : Config) :
    (c.relabel f).declare world parent (e.relabel f) =
      (relabel f <$> c.declare world parent e).relabel f := by
  have hpath : readPath world (e.relabel f) = (readPath world e).relabel f := by
    simp only [readPath, Reading.requiredText_relabel, Reading.relabel_bind]
    congr 1
    funext value
    cases value with
    | none => rfl
    | some text =>
      dsimp only
      cases world.expandPath text <;> simp
  unfold declare
  rw [Markup.Element.tag_relabel]
  split
  all_goals simp [relabel, hpath, extend, Option.toList_map]

end Config

namespace Menu

variable (e : Element)

@[simp] theorem titleOf_relabel : titleOf (e.relabel f) = titleOf e := by
  simp [titleOf]

@[simp] theorem heightOf_relabel (inherited : Nat) :
    heightOf (e.relabel f) inherited = (heightOf e inherited).relabel f := by
  simp [heightOf]

@[simp] theorem confirmation?_relabel : confirmation? (e.relabel f) = confirmation? e := by
  simp [confirmation?]

theorem slotsFrom_relabel (found : List Nat) (cs : List Char) :
    slotsFrom (e.relabel f) found cs = (slotsFrom e found cs).relabel f := by
  induction cs generalizing found with
  | nil => rfl
  | cons c cs ih =>
    simp only [slotsFrom]
    split
    · split <;> exact ih _
    · simp [ih]

@[simp] theorem slotsOf_relabel : slotsOf (e.relabel f) = (slotsOf e).relabel f := by
  simp only [slotsOf, Markup.Element.attribute?_relabel, slotsFrom_relabel, Reading.relabel_bind]
  congr 1
  funext slots
  split <;> simp

@[simp] theorem leafItem_relabel : leafItem (e.relabel f) = (leafItem e).relabel f := by
  have hentry : ∀ action, namedEntry (e.relabel f) action = namedEntry e action := by
    simp [namedEntry]
  have hprogram : programEntry (e.relabel f) = programEntry e := by
    simp [programEntry]
  unfold leafItem
  rw [Markup.Element.tag_relabel]
  split
  case h_5 => split <;> simp [hentry]
  all_goals simp [hentry, hprogram]

end Menu

/-! The checks at the end warn under the labels that were remembered. -/

namespace KeyBinding

variable (menus : RootMenus)

theorem check_relabel (b : KeyBinding) :
    check menus (b.relabel f) = (Option.map (·.relabel f) <$> check menus b).relabel f := by
  have hflaw : (b.relabel f).flaw? = b.flaw? := rfl
  have hmodifiers : (b.relabel f).badModifiers = b.badModifiers := rfl
  have hmissing : (b.relabel f).missingMenu? menus = b.missingMenu? menus := rfl
  unfold check
  rw [hflaw, hmodifiers, hmissing]
  split
  · rfl
  · show Reading.mk _ _ = Reading.mk _ (List.map _ (_ ++ []))
    rw [List.append_nil, List.map_map]
    rfl

theorem checkAll_relabel (bs : List KeyBinding) :
    checkAll menus (bs.map (·.relabel f)) =
      (List.map (·.relabel f) <$> checkAll menus bs).relabel f := by
  induction bs with
  | nil => rfl
  | cons b bs ih =>
    simp [checkAll, check_relabel, ih, Option.toList_map]

end KeyBinding

namespace Config

theorem checkKeys_relabel (c : Config) :
    (c.relabel f).checkKeys = (relabel f <$> c.checkKeys).relabel f := by
  simp [checkKeys, relabel, KeyBinding.checkAll_relabel]

theorem checkTrayButtons_relabel (c : Config) :
    (c.relabel f).checkTrayButtons = c.checkTrayButtons.map (·.relabel f) := by
  have hbuttons : (c.relabel f).trays.flatMap Tray.buttons =
      (c.trays.flatMap Tray.buttons).map (·.relabel f) := by
    simp only [relabel, List.flatMap_map, List.map_flatMap, Tray.buttons_relabel]
  have hmissing : ∀ b : TrayButton, (b.relabel f).missingMenu? c.rootMenus =
      (b.missingMenu? c.rootMenus).map (·.relabel f) := by
    intro b
    simp only [TrayButton.missingMenu?, Option.bind_eq_bind, Option.map_bind, Function.comp_def]
    rfl
  rw [checkTrayButtons, hbuttons, List.filterMap_map, checkTrayButtons, List.map_filterMap]
  congr 1
  funext b
  exact hmissing b

end Config

/-! Whatever keeps its labels is the same. -/

@[simp] theorem Diagnostic.relabel_id (d : Diagnostic) : d.relabel id = d := by
  obtain ⟨origin, problem⟩ := d
  cases origin <;> rfl

@[simp] theorem Tray.relabel_id (t : Tray) : t.relabel id = t := by
  have hcomponent : ∀ component : TrayComponent, component.relabel id = component := by
    intro component
    cases component <;> rfl
  simp [relabel, hcomponent]

@[simp] theorem Config.relabel_id (c : Config) : c.relabel id = c := by
  have hkey : ∀ b : KeyBinding, b.relabel id = b := fun _ => rfl
  simp [relabel, hkey]

end DeskConfig
