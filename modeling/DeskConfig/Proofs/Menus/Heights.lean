import DeskConfig.Proofs.Include.TextFiles
import DeskConfig.Proofs.Menus.Nesting
import DeskConfig.Proofs.Menus.Opening
import DeskConfig.Proofs.Settings.Numbers

/-!
The heights of menu items. A menu that does not say how high its items are takes that from the
menu around it, and so on outwards up to the root menu. The menu that an included document
starts with is not one of these: its items stand in the menu of the include. A height that is
no 32-bit number is reported where building comes to it, and counts for nothing.
-/

namespace DeskConfig

open Markup (Element)

namespace Menu

/-- The height that a menu declares, if it is a valid one. -/
def declaredHeight? (e : Element) : Option Nat :=
  (e.attribute? "height").bind fun value => Text.naturalIn? 0 Text.maxWord (Text.trim value.toList)

/-- The report of a height that is not valid. -/
def badHeight? (e : Element) : Option Diagnostic :=
  (e.attribute? "height").bind fun value =>
    match Text.naturalIn? 0 Text.maxWord (Text.trim value.toList) with
    | some _ => none
    | none => some (.located e.origin (.invalidValue (e.name ++ " height") value))

section Heights

variable {e : Element}

theorem declaredHeight?_eq (e : Element) :
    declaredHeight? e = Reading.declared? e "height" 0 Text.maxWord := rfl

theorem name_height (e : Element) : e.name ++ " " ++ "height" = e.name ++ " height" :=
  String.append_assoc

theorem badHeight?_eq (e : Element) :
    badHeight? e = Reading.misdeclared? e "height" 0 Text.maxWord := by
  unfold badHeight?
  rw [← name_height]
  rfl

/-- A valid height is a number of at most 32 bits, with blanks around it or not. -/
theorem declaredHeight?_eq_some_iff {n : Nat} :
    declaredHeight? e = some n ↔ ∃ value, e.attribute? "height" = some value ∧
      Text.Numeral (Text.trim value.toList) n ∧ n ≤ Text.maxWord := by
  simp only [declaredHeight?_eq, Reading.declared?_eq_some_iff, Nat.zero_le, true_and]

/-- Only a height that stands there and is not valid is reported. -/
theorem badHeight?_eq_some_iff {d : Diagnostic} :
    badHeight? e = some d ↔ declaredHeight? e = none ∧
      ∃ value, e.attribute? "height" = some value ∧
        d = .located e.origin (.invalidValue (e.name ++ " height") value) := by
  rw [badHeight?_eq, Reading.misdeclared?_eq_some_iff, declaredHeight?_eq, name_height]

theorem value_heightOf (e : Element) (inherited : Nat) :
    (heightOf e inherited).value = (declaredHeight? e).getD inherited :=
  Reading.value_naturalAttribute e "height" 0 Text.maxWord inherited

theorem warnings_heightOf (e : Element) (inherited : Nat) :
    (heightOf e inherited).warnings = (badHeight? e).toList := by
  rw [badHeight?_eq]
  exact Reading.warnings_naturalAttribute e "height" 0 Text.maxWord inherited

/-- The nearest valid height that some menus declare. Without any the height is left open. -/
def nearestHeight (menus : List Element) : Nat := (menus.findSome? declaredHeight?).getD 0

theorem value_heightOf_nearest (e : Element) (around : List Element) :
    (heightOf e (nearestHeight around)).value = nearestHeight (e :: around) := by
  rw [value_heightOf, nearestHeight, nearestHeight, List.findSome?_cons]
  cases declaredHeight? e <;> rfl

end Heights

end Menu

/-- What shows of a submenu: how many menus are around it, how it is listed there, its title
and how high its items are. -/
structure Heading where
  around : Nat
  name : Option String
  icon : Option String
  title : Option String
  itemHeight : Nat
deriving DecidableEq, Repr

mutual

/-- The submenu that an item opens, and those in it. -/
def MenuItem.headings (around : Nat) : MenuItem → List Heading
  | .submenu name icon title itemHeight items =>
    { around, name, icon, title, itemHeight } :: headingsOf (around + 1) items
  | .entry .. => []
  | .separator => []

/-- The submenus of a menu in order, each of them before those in it. -/
def headingsOf (around : Nat) : List MenuItem → List Heading
  | [] => []
  | item :: items => item.headings around ++ headingsOf around items

end

theorem headingsOf_append (around : Nat) (items items' : List MenuItem) :
    headingsOf around (items ++ items') = headingsOf around items ++ headingsOf around items' := by
  induction items with
  | nil => rfl
  | cons item items ih => rw [List.cons_append, headingsOf, headingsOf, ih, List.append_assoc]

theorem headingsOf_leafItem (around : Nat) (e : Element) :
    headingsOf around (Menu.leafItem e).value.toList = [] := by
  cases h : (Menu.leafItem e).value with
  | none => rfl
  | some item =>
    have hleaf := (Menu.leafItem_allowed h 0).2
    cases item with
    | entry name icon action => rfl
    | submenu name icon label height items => exact absurd rfl (hleaf _ _ _ _ _)
    | separator => rfl

namespace OpenedMenu

def height (m : OpenedMenu) : Nat := Menu.nearestHeight (m.element :: m.around)

def heading (m : OpenedMenu) : Heading where
  around := m.around.length
  name := m.element.attribute? "label"
  icon := m.element.attribute? "icon"
  title := Menu.titleOf m.element
  itemHeight := m.height

def badHeight? (m : OpenedMenu) : Option Diagnostic := Menu.badHeight? m.element

end OpenedMenu

/-- A report of a value that is not valid. -/
def Diagnostic.isOfValue (d : Diagnostic) : Bool :=
  match d.problem with
  | .invalidValue _ _ => true
  | _ => false

theorem Menu.filter_badHeight? (e : Element) :
    (badHeight? e).toList.filter (·.isOfValue) = (badHeight? e).toList := by
  rw [List.filter_eq_self]
  intro d hd
  obtain ⟨-, value, -, rfl⟩ := badHeight?_eq_some_iff.mp (Option.mem_toList.mp hd)
  rfl

/-- A reading that reports no values. -/
def Reading.SparesValues {α : Type} (r : Reading α) : Prop :=
  r.warnings.filter (·.isOfValue) = []

section Sparing

variable {α β : Type}

theorem Reading.SparesValues.pure (a : α) : (Pure.pure a : Reading α).SparesValues := rfl

theorem Reading.SparesValues.bind {r : Reading α} {f : α → Reading β} (h : r.SparesValues)
    (hf : (f r.value).SparesValues) : (r >>= f).SparesValues := by
  rw [SparesValues, warnings_bind, List.filter_append, h, hf, List.nil_append]

theorem sparesValues_leafItem (e : Element) : (Menu.leafItem e).SparesValues := by
  unfold Menu.leafItem
  split
  iterate 4
    · exact .pure _
  split
  · exact .pure _
  · exact .bind rfl (.pure _)

theorem sparesValues_slotsFrom (e : Element) (found : List Nat) (cs : List Char) :
    (Menu.slotsFrom e found cs).SparesValues := by
  induction cs generalizing found with
  | nil => exact .pure _
  | cons c cs ih =>
    rw [Menu.slotsFrom]
    split
    · split
      · exact ih _
      · exact ih _
    · exact .bind rfl (ih _)

theorem sparesValues_slotsOf (e : Element) : (Menu.slotsOf e).SparesValues := by
  refine .bind (sparesValues_slotsFrom e _ _) ?_
  split
  · exact .bind rfl (.pure _)
  · exact .pure _

end Sparing

/-- Items that are built by opening some menus: the height of each is the nearest one, and of
the values only bad heights are reported, each where its menu is opened. -/
structure MenuYield.Opens (world : World) (limits : Limits) (around : List Element)
    (ps : List Pending) (history : List Call) (y : MenuYield) (menus : List OpenedMenu) :
    Prop where
  opens : OpensMenus world limits around ps history y.stopped y.journal.calls menus
  reports : y.journal.diagnostics.filter (·.isOfValue) = menus.filterMap (·.badHeight?)
  headings : y.stopped = false →
    headingsOf around.length y.items = menus.map (·.heading)

namespace MenuYield.Opens

variable {world : World} {limits : Limits} {around : List Element} {p : Pending}
  {ps ps' : List Pending} {history : List Call} {y : MenuYield} {menus menus' : List OpenedMenu}

theorem nothing : Opens world limits around [] history {} [] :=
  ⟨.nothing, rfl, fun _ => rfl⟩

/-- Where the limit is reached nothing is built. -/
theorem atLimit (h : p.AtLimit limits) :
    Opens world limits around [p] history { stopped := true } [] :=
  ⟨.atLimit h, rfl, nofun⟩

/-- An element that is passed over with a warning that is not about a value. -/
theorem ofWarning (h : OpensMenus world limits around ps history false [] []) (e : Element)
    {problem : Problem} (hproblem : (Diagnostic.located e.origin problem).isOfValue = false) :
    Opens world limits around ps history (.ofWarning e problem) [] := by
  refine ⟨h, ?_, fun _ => rfl⟩
  exact List.filter_cons_of_neg (by simp [hproblem])

/-- Items that are built in sequence. -/
theorem andThen {next : List Call → MenuYield}
    (h : y.Opens world limits around ps history menus)
    (h' : (next (history ++ y.journal.calls)).Opens world limits around ps'
      (history ++ y.journal.calls) menus') :
    ∃ menus', (y.andThen history next).Opens world limits around (ps ++ ps') history menus' := by
  cases hy : y.stopped with
  | true =>
    rw [MenuYield.andThen_of_stopped hy]
    exact ⟨menus, hy ▸ h.opens.before hy ps', h.reports, h.headings⟩
  | false =>
    rw [MenuYield.andThen_of_not_stopped hy]
    refine ⟨menus ++ menus', ?_, ?_, ?_⟩
    · rw [MenuYield.join, Journal.calls_append]
      exact h.opens.append hy h'.opens
    · rw [MenuYield.join, Journal.diagnostics_append, List.filter_append, List.filterMap_append,
        h.reports, h'.reports]
    · intro hstopped
      rw [MenuYield.join, headingsOf_append, List.map_append, h.headings hy,
        h'.headings hstopped]

end MenuYield.Opens

section Menus

variable {world : World} {limits : Limits} {budget depth : Nat}

/-- The includes in menus of documents at a depth open the menus of what they stand for, if the
height that they are given is the nearest one. -/
def MenuInclude.OpensMenus (world : World) (limits : Limits) (depth : Nat)
    (onInclude : MenuInclude) : Prop :=
  ∀ e level around history, e.tag = .include →
    ∃ menus, (onInclude e level (Menu.nearestHeight around) history).Opens world limits around
      [{ depth, standing := .item level, element := e }] history menus

/-- A menu is one of those around its items. -/
theorem MenuYield.Opens.submenu {around : List Element} {level : Nat} {history : List Call}
    {e : Element} {y : MenuYield} {menus : List OpenedMenu} (hm : e.tag = .menu)
    (hl : level < Menu.maxLevel)
    (h : y.Opens world limits (e :: around) (Pending.all depth (.item (level + 1)) e.children)
      history menus) :
    ((y.asSubmenu e (Menu.nearestHeight (e :: around))).noting
      (.ofWarnings (Menu.badHeight? e).toList)).Opens world limits around
        [{ depth, standing := .item level, element := e }] history
        ({ element := e, around } :: menus) := by
  have hopens : Pending.opensMenu { depth, standing := .item level, element := e } = true := by
    simp [Pending.opensMenu, hm, hl]
  have hcall : Pending.call? limits { depth, standing := .item level, element := e } = none :=
    Pending.call?_of_ne (by simp [hm])
  refine ⟨?_, ?_, ?_⟩
  · have hsubmenu := OpensMenus.submenu hopens (Pending.opened_of_menu hm hl) hcall h.opens
    simpa [MenuYield.noting, MenuYield.asSubmenu] using hsubmenu
  · simp only [MenuYield.noting, MenuYield.asSubmenu, Journal.diagnostics_append,
      Journal.diagnostics_ofWarnings, List.filter_append, h.reports, Menu.filter_badHeight?]
    rw [List.filterMap_cons, OpenedMenu.badHeight?]
    cases Menu.badHeight? e <;> rfl
  · intro hstopped
    have hy : y.stopped = false := hstopped
    simp only [MenuYield.noting, MenuYield.asSubmenu, hy, Bool.false_eq_true, if_false,
      headingsOf, MenuItem.headings, List.append_nil, List.map_cons]
    rw [← List.length_cons, h.headings hy]
    rfl

/-- The items of a menu. The induction is on the elements, for all menus that can be around
them: a submenu is built with one menu more around it, and with the height it has itself. -/
theorem opens_items {onInclude : MenuInclude}
    (hinc : onInclude.OpensMenus world limits depth) (es : List Element) (level : Nat)
    (around : List Element) (history : List Call) :
    ∃ menus, (itemsOf onInclude level (Menu.nearestHeight around) history es).Opens world limits
      around (Pending.all depth (.item level) es) history menus := by
  induction es using Markup.forest_induction generalizing level around history with
  | nil =>
    rw [itemsOf_nil]
    exact ⟨[], .nothing⟩
  | cons e es ihe ihs =>
    rw [itemsOf_cons, Pending.all_cons]
    suffices h : ∃ menus, (itemOf onInclude level (Menu.nearestHeight around) history e).Opens
        world limits around [{ depth, standing := .item level, element := e }] history menus by
      obtain ⟨menus, h⟩ := h
      obtain ⟨menus', h'⟩ := ihs level around _
      exact h.andThen h'
    by_cases hi : e.tag = .include
    · rw [itemOf_include hi]
      exact hinc e level around history hi
    have hcall : Pending.call? limits { depth, standing := .item level, element := e } = none :=
      Pending.call?_of_ne hi
    by_cases hm : e.tag = .menu
    · by_cases hl : level < Menu.maxLevel
      · obtain ⟨menus, h⟩ := ihe (level + 1) (e :: around) history
        rw [itemOf_menu hm hl, Menu.value_heightOf_nearest, Menu.warnings_heightOf]
        exact ⟨_, h.submenu hm hl⟩
      · rw [itemOf_menu_of_deep hm (Nat.not_lt.mp hl)]
        have hopens : Pending.opensMenu { depth, standing := .item level, element := e } =
            false := by simp [Pending.opensMenu, hm, hl]
        exact ⟨[], .ofWarning (.skip hopens (Pending.opened_of_deep_menu hm hl) hcall) _ rfl⟩
    · rw [itemOf_leaf hi hm]
      refine ⟨[], ?_, ?_, fun _ => headingsOf_leafItem _ e⟩
      · rw [MenuYield.ofReading, Journal.calls_ofWarnings]
        exact .skip (by simp [Pending.opensMenu, hm]) (Pending.opened_of_leaf hi hm) hcall
      · rw [MenuYield.ofReading, Journal.diagnostics_ofWarnings]
        exact sparesValues_leafItem e

/-- What a document puts in the place of its include. The menu that it starts with is not
opened. -/
theorem opens_includedItems {items : List Call → List Element → MenuYield} {level : Nat}
    {around : List Element} {history : List Call}
    (hitems : ∀ es, ∃ menus, (items history es).Opens world limits around
      (Pending.all depth (.item level) es) history menus)
    (e : Element) (reference : String) (document : Except IncludeError (List Element)) :
    ∃ menus, (includedItems items e reference history document).Opens world limits around
      (Pending.included depth (.item level) document) history menus := by
  cases document with
  | error cause =>
    cases cause <;> exact ⟨[], .nothing, rfl, fun _ => rfl⟩
  | ok document =>
    cases document with
    | nil => exact ⟨[], .nothing, rfl, fun _ => rfl⟩
    | cons root rest =>
      by_cases hroot : root.tag = .menu
      · simp only [Pending.included, includedItems, if_pos hroot]
        exact hitems root.children
      · simp only [Pending.included, includedItems, if_neg hroot]
        exact ⟨[], .nothing, rfl, fun _ => rfl⟩

/-- As for any walk, the induction is on the includes that can still be entered. The height that
an include is given goes on to what it puts in, and so do the menus around it. -/
theorem opensMenus_menuInclude
    (hbudget : limits.includeDepth < Text.maxWord → limits.includeDepth ≤ depth + budget) :
    (menuInclude world limits.shell limits.includeDepth budget depth).OpensMenus world limits
      depth := by
  induction budget using Nat.strongRecOn generalizing depth with
  | ind budget ih =>
    intro e level around history hi
    have hstanding : Standing.item level ≠ .top := nofun
    have hopens : Pending.opensMenu { depth, standing := .item level, element := e } = false := by
      simp [Pending.opensMenu, hi]
    cases htext : e.text with
    | none =>
      rw [menuInclude_of_no_text htext]
      exact ⟨[], .ofWarning (.skip hopens (Pending.opened_of_no_text hstanding hi htext)
        (Pending.call?_of_no_text htext)) _ rfl⟩
    | some reference =>
      cases hn : enter? limits.includeDepth depth with
      | none =>
        have hpast := enter?_eq_none_iff.mp hn
        rw [menuInclude_of_limit htext hn]
        exact ⟨[], .atLimit ⟨hstanding, hi, by simp [htext], by simp only; omega⟩⟩
      | some next =>
        obtain ⟨hnext, hle⟩ := enter?_eq_some_iff.mp hn
        cases budget with
        | zero =>
          rw [menuInclude_of_no_budget htext]
          exact ⟨[], .atLimit ⟨hstanding, hi, by simp [htext], hbudget⟩⟩
        | succ budget =>
          cases hsource : Source.ofMenuReference world reference with
          | error cause =>
            rw [menuInclude_of_no_source htext hn hsource]
            exact ⟨[], .ofWarning (.skip hopens
              (Pending.opened_of_no_source hstanding hi htext hn hsource)
              (Pending.call?_of_no_source htext hsource)) _ rfl⟩
          | ok source =>
            have hbudget' : limits.includeDepth < Text.maxWord →
                limits.includeDepth ≤ next + budget := by omega
            have hinc := ih budget (Nat.lt_succ_self budget) hbudget'
            obtain ⟨menus, h⟩ := opens_includedItems
              (fun es => opens_items hinc es level around
                (history ++ source.calls limits.shell)) e reference
                (resolve world limits.shell history source).1
            have hsource' : Pending.source world { depth, standing := .item level, element := e }
                reference = .ok source := hsource
            have hcall := Pending.call?_of_source hi htext hn hsource'
            have hall := OpensMenus.through hopens
              (Pending.opened_of_source hstanding hi htext hn hsource') (hcall ▸ h.opens)
            rw [hcall] at hall
            rw [menuInclude_of_source htext hn hsource]
            refine ⟨menus, by simpa [MenuYield.noting, calls_resolve] using hall, ?_, h.headings⟩
            simp only [MenuYield.noting, Journal.diagnostics_append,
              Journal.diagnostics_includingMenu, diagnostics_resolve, List.nil_append]
            exact h.reports

/-- What is reported of the values of a root menu: its own height, then those inside it. -/
theorem filter_diagnostics_rootMenu (onInclude : MenuInclude) (e : Element) (c : Config)
    (history : List Call) :
    let items := itemsOf onInclude 0 (Menu.heightOf e 0).value history e.children
    (rootMenu onInclude e c history).journal.diagnostics.filter (·.isOfValue) =
      (Menu.badHeight? e).toList ++ items.journal.diagnostics.filter (·.isOfValue) := by
  intro items
  have hown := Menu.filter_badHeight? e
  have hslots := sparesValues_slotsOf e
  unfold Reading.SparesValues at hslots
  cases hs : items.stopped <;>
    simp [rootMenu, MenuYield.noting, items, hs, Menu.warnings_heightOf, hown, hslots]

end Menus

/-- The height of the items of a root menu, and of each submenu of it, is the nearest valid one
going outwards from its own element, or zero. The submenus of the menu that is built are those
that are opened on the way through what the root menu holds, where an include stands for the
items of the menu that its document starts with. Of the values met, exactly the heights that
are not valid are reported, each once and in order, whether the building is stopped or not. The
budget is any that lasts up to the limit, as that of a load does (`Limits.le_budget`). -/
theorem heights_are_inherited (world : World) (limits : Limits) (budget depth : Nat)
    (hbudget : limits.includeDepth < Text.maxWord → limits.includeDepth ≤ depth + budget)
    (e : Element) (c : Config) (history : List Call) :
    let onInclude := menuInclude world limits.shell limits.includeDepth budget depth
    let built := Menu.builtFrom onInclude e history
    let p := rootMenu onInclude e c history
    let root : OpenedMenu := { element := e, around := [] }
    let Opens := OpensMenus world limits [e] (Pending.all depth (.item 0) e.children) history
    p.config.rootMenus = (if p.stopped ∨ (Menu.slotsOf e).value = [] then c.rootMenus
      else c.rootMenus.set (Menu.slotsOf e).value built) ∧
    built.itemHeight = root.height ∧
    (∃ menus, Opens p.stopped p.journal.calls menus ∧
      (p.stopped = false → headingsOf 1 built.items = menus.map (·.heading)) ∧
      p.journal.diagnostics.filter (·.isOfValue) = (root :: menus).filterMap (·.badHeight?) ∧
      (limits.includeDepth < Text.maxWord →
        ∀ stopped calls menus', Opens stopped calls menus' → menus' = menus)) ∧
    ∀ menu : Element,
      (∀ n, Menu.declaredHeight? menu = some n ↔
        ∃ value, menu.attribute? "height" = some value ∧
          Text.Numeral (Text.trim value.toList) n ∧ n ≤ Text.maxWord) ∧
      ∀ d, Menu.badHeight? menu = some d ↔ Menu.declaredHeight? menu = none ∧
        ∃ value, menu.attribute? "height" = some value ∧
          d = .located menu.origin (.invalidValue (menu.name ++ " height") value) := by
  have hroot : (Menu.heightOf e 0).value = Menu.nearestHeight [e] :=
    Menu.value_heightOf_nearest e []
  obtain ⟨menus, h⟩ := opens_items (opensMenus_menuInclude hbudget) e.children 0 [e] history
  rw [← hroot] at h
  refine ⟨?_, hroot, ⟨menus, ?_, ?_, ?_, ?_⟩, fun menu =>
    ⟨fun _ => Menu.declaredHeight?_eq_some_iff, fun _ => Menu.badHeight?_eq_some_iff⟩⟩
  · rw [config_rootMenu]
  · rw [stopped_rootMenu, calls_rootMenu]
    exact h.opens
  · rw [stopped_rootMenu]
    exact h.headings
  · rw [filter_diagnostics_rootMenu, h.reports, List.filterMap_cons, OpenedMenu.badHeight?]
    cases Menu.badHeight? e <;> rfl
  · intro hlimit stopped calls menus' h'
    exact (h'.unique hlimit h.opens).2.2

section Instance

/-- The text of a file `m`: a menu that declares a height, and a submenu that does not. -/
def tallText : String := "<Menu height='99'><Menu/></Menu>"

def tallMenu : Element :=
  { madeIn "m" .menu none [madeIn "m" .menu none] with
    attributes := [{ name := "height", value := "99" }] }

/-- A menu with a height that is not valid, which takes in the items of that file. -/
def lowMenu : Element :=
  { madeIn "jwmrc" .menu none [madeIn "jwmrc" .include (some "m")] with
    attributes := [{ name := "height", value := "-1" }] }

def lowRootMenu : Element :=
  { madeIn "jwmrc" .rootMenu none [lowMenu] with
    attributes := [{ name := "height", value := " 24 " }] }

def lowReport : Diagnostic :=
  .located { file := "jwmrc", line := 1 } (.invalidValue "Menu height" "-1")

theorem resolve_tall (shell : String) (history : List Call) :
    resolve (World.holding "m" tallText) shell history (.file "m") =
      (.ok [tallMenu], [.reading "m"]) :=
  resolve_holding (by decide +kernel) (by rfl) shell history

theorem menuInclude_tall :
    menuInclude (World.holding "m" tallText) "/bin/sh" 8 8 0
        (madeIn "jwmrc" .include (some "m")) 1 24 [] =
      { items := [.submenu none none none 24 []]
        journal := [.includingMenu "m" 1, .reading "m"] } := by
  have hsource : Source.ofMenuReference (World.holding "m" tallText) "m" = .ok (.file "m") := by
    rfl
  have hnext : min (0 + 1) Text.maxWord = 1 := by decide
  have hheight : Menu.heightOf (madeIn "m" .menu none) 24 = { value := 24 } := rfl
  rw [menuInclude_of_source rfl rfl hsource, resolve_tall, includedItems_of_menu _ rfl, hnext,
    tallMenu, madeIn, itemsOf_cons, itemOf_menu rfl (by decide), hheight]
  simp only [madeIn, itemsOf_nil]
  rfl

theorem itemsOf_low :
    itemsOf (menuInclude (World.holding "m" tallText) "/bin/sh" 8 8 0) 0 24 [] [lowMenu] =
      { items := [.submenu none none none 24 [.submenu none none none 24 []]]
        journal := [.warned lowReport, .includingMenu "m" 1, .reading "m"] } := by
  have hheight : Menu.heightOf lowMenu 24 = { value := 24, warnings := [lowReport] } := by rfl
  have hinner : itemsOf (menuInclude (World.holding "m" tallText) "/bin/sh" 8 8 0) 1 24 []
      lowMenu.children =
        { items := [.submenu none none none 24 []]
          journal := [.includingMenu "m" 1, .reading "m"] } := by
    rw [lowMenu, madeIn, itemsOf_cons, itemOf_include rfl, menuInclude_tall]
    simp only [itemsOf_nil]
    rfl
  rw [itemsOf_cons, itemOf_menu rfl (by decide), hheight, hinner]
  simp only [itemsOf_nil]
  rfl

/-- Neither the height that is not valid nor that of the included menu counts: both submenus
have the height of the root menu. -/
theorem heights_are_inherited_included :
    ((8 : Nat) < Text.maxWord → 8 ≤ 0 + 8) ∧
    ∃ menus, OpensMenus (World.holding "m" tallText) ⟨"/bin/sh", 8⟩ [lowRootMenu]
        (Pending.all 0 (.item 0) [lowMenu]) [] false [] menus ∧
      menus.map (·.heading) = [⟨1, none, none, none, 24⟩, ⟨2, none, none, none, 24⟩] ∧
      menus.filterMap (·.badHeight?) = [lowReport] := by
  refine ⟨by omega, ?_⟩
  obtain ⟨-, -, ⟨menus, hopens, hheadings, hreports, -⟩, -⟩ :=
    heights_are_inherited (World.holding "m" tallText) ⟨"/bin/sh", 8⟩ 8 0 (fun _ => Nat.le_refl 8)
      lowRootMenu {} []
  have hheight : (Menu.heightOf lowRootMenu 0).value = 24 := by rfl
  have hchildren : lowRootMenu.children = [lowMenu] := rfl
  have hrootReport : Menu.badHeight? lowRootMenu = none := by rfl
  rw [stopped_rootMenu, calls_rootMenu, hheight, hchildren, itemsOf_low] at hopens
  rw [stopped_rootMenu, Menu.builtFrom, hheight, hchildren, itemsOf_low] at hheadings
  rw [filter_diagnostics_rootMenu, hrootReport, hheight, hchildren, itemsOf_low,
    List.filterMap_cons, OpenedMenu.badHeight?, hrootReport] at hreports
  exact ⟨menus, hopens, (hheadings rfl).symm, hreports.symm⟩

end Instance

end DeskConfig
