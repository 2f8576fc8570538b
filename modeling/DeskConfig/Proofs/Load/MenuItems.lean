import DeskConfig.Proofs.Load.RootMenus
import DeskConfig.Proofs.Menus.Shapes

/-!
The menu items of a load. In every root menu that a load results in, submenus nest no deeper
than the deepest level, and what is written of an item fits its kind: submenus and nothing
else have a menu in them, only entries do something, and separators are just that.
-/

namespace DeskConfig

open Markup (Element)

/-- The value of a member of an object. -/
def Json.member? (name : String) : Json → Option Json
  | .obj members => (members.find? (·.1 == name)).map (·.2)
  | _ => none

/-- The parts of a written menu item fit each other. -/
structure Json.FitsMenu (j : Json) : Prop where
  kind : j.member? "kind" = some (.str "normal") ∨ j.member? "kind" = some (.str "submenu") ∨
    j.member? "kind" = some (.str "separator")
  submenu_iff : j.member? "kind" = some (.str "submenu") ↔
    ∃ members, j.member? "submenu" = some (.obj members)
  no_submenu_iff : j.member? "kind" ≠ some (.str "submenu") ↔ j.member? "submenu" = some .null
  action_iff : j.member? "kind" = some (.str "normal") ↔
    j.member? "action" ≠ some (MenuAction.tagged "none")
  separator : j.member? "kind" = some (.str "separator") →
    j.member? "name" = some .null ∧ j.member? "icon" = some .null
  named : j.member? "kind" = some (.str "normal") → j.member? "name" = some .null →
    ∃ command, j.member? "action" = some (MenuAction.execute command).toJson

section Written

theorem Json.optionalString_eq_null_iff {text : Option String} :
    optionalString text = .null ↔ text = none := by
  cases text with
  | none => exact iff_of_true rfl rfl
  | some text => exact iff_of_false nofun nofun

theorem ItemKind.str_name_inj {k l : ItemKind} : Json.str k.name = .str l.name ↔ k = l := by
  rw [Json.str.injEq, name_injective.eq_iff]

namespace FreeItem

variable (f : FreeItem)

theorem member?_kind : f.toJson.member? "kind" = some (.str f.kind.name) := by
  cases f <;> rw [toJson] <;> rfl

theorem member?_name : f.toJson.member? "name" = some (Json.optionalString f.name) := by
  cases f <;> rw [toJson] <;> rfl

theorem member?_icon : f.toJson.member? "icon" = some (Json.optionalString f.icon) := by
  cases f <;> rw [toJson] <;> rfl

theorem member?_action : f.toJson.member? "action" = some (freeActionJson f.action) := by
  cases f <;> rw [toJson] <;> rfl

theorem member?_submenu_iff :
    (∃ members, f.toJson.member? "submenu" = some (.obj members)) ↔ f.inner?.isSome = true := by
  cases f with
  | single => rw [toJson]; exact iff_of_false (by rintro ⟨_, h⟩; cases h) nofun
  | holding => rw [toJson]; exact iff_of_true ⟨_, rfl⟩ rfl

theorem member?_no_submenu_iff :
    f.toJson.member? "submenu" = some .null ↔ f.inner?.isSome ≠ true := by
  cases f with
  | single => rw [toJson]; exact iff_of_true rfl nofun
  | holding => rw [toJson]; exact iff_of_false nofun (· rfl)

/-- What is written of a free item fits if the item does. -/
theorem fitsMenu_toJson_iff : f.toJson.FitsMenu ↔ f.Fits := by
  have hkind (k : ItemKind) : f.toJson.member? "kind" = some (.str k.name) ↔ f.kind = k := by
    rw [f.member?_kind, Option.some_inj, ItemKind.str_name_inj]
  have hname : f.toJson.member? "name" = some .null ↔ f.name = none := by
    rw [f.member?_name, Option.some_inj, Json.optionalString_eq_null_iff]
  have hicon : f.toJson.member? "icon" = some .null ↔ f.icon = none := by
    rw [f.member?_icon, Option.some_inj, Json.optionalString_eq_null_iff]
  have haction (a : Option MenuAction) :
      f.toJson.member? "action" = some (freeActionJson a) ↔ f.action = a := by
    rw [f.member?_action, Option.some_inj, freeActionJson_injective.eq_iff]
  have hacts : f.toJson.member? "action" ≠ some (MenuAction.tagged "none") ↔
      f.action.isSome = true := by
    rw [Option.isSome_iff_ne_none]
    exact not_congr (haction none)
  constructor
  · rintro ⟨-, hsubmenu, -, hnormal, hseparator, hnamed⟩
    refine ⟨?_, ?_, ?_, ?_⟩
    · rw [← f.member?_submenu_iff, ← hsubmenu]
      exact hkind .submenu
    · rw [← hacts, ← hnormal]
      exact hkind .normal
    · intro h
      exact (hseparator ((hkind .separator).mpr h)).imp hname.mp hicon.mp
    · intro h hnone
      obtain ⟨command, hcommand⟩ := hnamed ((hkind .normal).mpr h) (hname.mpr hnone)
      exact ⟨command, (haction (some _)).mp hcommand⟩
  · intro h
    refine ⟨?_, ?_, ?_, ?_, ?_, ?_⟩
    · rw [f.member?_kind]
      cases f.kind <;> simp [ItemKind.name]
    · rw [f.member?_submenu_iff, h.inner_iff]
      exact hkind .submenu
    · rw [f.member?_no_submenu_iff, Ne, Ne, h.inner_iff]
      exact not_congr (hkind .submenu)
    · rw [hacts, h.action_iff]
      exact hkind .normal
    · intro hseparator
      exact (h.separator ((hkind .separator).mp hseparator)).imp hname.mpr hicon.mpr
    · intro hnormal hnone
      obtain ⟨command, hcommand⟩ := h.named ((hkind .normal).mp hnormal) (hname.mp hnone)
      exact ⟨command, (haction (some _)).mpr hcommand⟩

end FreeItem

end Written

/-- In every root menu of a load, however many documents it was put together from, submenus
nest to the deepest level at most, and every item is written in a way that fits its kind, as
do its kind, name, icon, action and menu taken by themselves. A menu that stands too deep adds
one warning to what is built without it, and nothing else: no item, no file or command for it
in the journal, no say on confirming exits. -/
theorem menu_items_are_well_formed :
    (∀ world o label text l loaded, LoadOf world o label text l → l.outcome = .ok loaded →
      ∀ r ∈ loaded.config.rootMenus.entries,
        (∀ level item, MenuItem.Under level r.menu.items item →
          (∀ name icon label height items, item = .submenu name icon label height items →
            level < Menu.maxLevel) ∧
          item.toJson.FitsMenu) ∧
        ∀ level f, FreeItem.Under level r.free.items f →
          f.Fits ∧ (f.kind = .submenu → level < Menu.maxLevel)) ∧
    ∀ onInclude level height history e xs ys, e.tag = .menu → Menu.maxLevel ≤ level →
      ∃ later,
        (itemsOf onInclude level height history (xs ++ ys)).journal =
          (itemsOf onInclude level height history xs).journal ++ later ∧
        itemsOf onInclude level height history (xs ++ e :: ys) =
          { itemsOf onInclude level height history (xs ++ ys) with
            journal := (itemsOf onInclude level height history xs).journal ++
              (if (itemsOf onInclude level height history xs).stopped then []
                else [.warned (.located e.origin (.menuTooDeep Menu.maxLevel))]) ++ later } := by
  refine ⟨?_, ?_⟩
  · intro world o label text l loaded h hok r hr
    obtain ⟨s, hs, hmenu, -⟩ := h.exists_step hok hr
    obtain ⟨budget, depth, hincludes⟩ := ((traces_walkText world o label text).arises s hs).includes
    have hitems : MenuItem.AllAllowed 0 r.menu.items := by
      rw [hmenu, Step.rootMenu, hincludes]
      exact allAllowed_itemsOf
        (menuInclude_keepsLevels world o.limits.shell o.limits.includeDepth budget depth)
        s.element.children 0 (Menu.heightOf s.element 0).value s.history
    refine ⟨fun level item hunder => ?_, fun level f hf => ?_⟩
    · have hallowed : item.Allowed level := by
        simpa only [Nat.zero_add] using hitems level item hunder
      refine ⟨?_, ?_⟩
      · rintro name icon label' height items rfl
        exact hallowed
      · rw [← item.toJson_free, FreeItem.fitsMenu_toJson_iff]
        exact (MenuItem.allowed_iff.mp hallowed).1
    · simpa only [Nat.zero_add] using hitems.shape hf
  · intro onInclude level height history e xs ys hm hl
    exact itemsOf_around_deep_menu hm hl height history xs ys

/-- A separator in a submenu. -/
def nestedText : String :=
  "<JWM><RootMenu><Menu label=\"More\"><Separator/></Menu></RootMenu></JWM>"

def MenuItem.holdsItems : MenuItem → Bool
  | submenu _ _ _ _ items => !items.isEmpty
  | _ => false

theorem MenuItem.exists_under {items : List MenuItem} (h : items.any (·.holdsItems) = true) :
    ∃ item, Under 1 items item := by
  obtain ⟨item, hitem, hholds⟩ := List.any_eq_true.mp h
  cases item with
  | submenu name icon label height inner =>
    cases inner with
    | nil => contradiction
    | cons first rest => exact ⟨first, .inside hitem (.top List.mem_cons_self)⟩
  | _ => contradiction

/-- A menu with an include that runs a command. -/
def generatedMenu : Element :=
  { tag := .menu
    children := [{ tag := .include, text := some "exec:date", origin := ⟨"jwmrc", 2⟩ }]
    origin := ⟨"jwmrc", 1⟩ }

theorem menu_items_are_well_formed_nested :
    (∃ loaded, (loadText (World.holding "" "") (.default { entries := [] }) "jwmrc"
        nestedText).outcome = .ok loaded ∧
      ∃ r ∈ loaded.config.rootMenus.entries, ∃ item,
        MenuItem.Under 1 r.menu.items item ∧ item.toJson.FitsMenu) ∧
    itemsOf (menuInclude (World.holding "" "") "/bin/sh" 8 8 0) 64 0 [] [generatedMenu] =
      { journal := [.warned (.located ⟨"jwmrc", 1⟩ (.menuTooDeep 64))] } := by
  refine ⟨?_, ?_⟩
  · have hload : (Load.walkText (World.holding "" "") (.default { entries := [] }) "jwmrc"
        nestedText).stopped = false := by decide +kernel
    have hnested : (Load.walkText (World.holding "" "") (.default { entries := [] }) "jwmrc"
        nestedText).config.rootMenus.entries.any
          (·.menu.items.any (·.holdsItems)) = true := by
      decide +kernel
    obtain ⟨loaded, hok⟩ := exists_loaded_of_not_stopped hload
    have hloaded : LoadOf (World.holding "" "") (.default { entries := [] }) "jwmrc" nestedText
        (loadText (World.holding "" "") (.default { entries := [] }) "jwmrc" nestedText) :=
      .held "jwmrc" nestedText
    obtain ⟨r, hr, hitems⟩ := List.any_eq_true.mp hnested
    have hentry : r ∈ loaded.config.rootMenus.entries := by
      rw [(hloaded.walked hok).2, Config.rootMenus_checkKeys]
      exact hr
    obtain ⟨item, hunder⟩ := MenuItem.exists_under hitems
    exact ⟨loaded, hok, r, hentry, item, hunder,
      ((menu_items_are_well_formed.1 _ _ _ _ _ loaded hloaded hok r hentry).1 1 item hunder).2⟩
  · obtain ⟨later, hlater, hitems⟩ := menu_items_are_well_formed.2
      (menuInclude (World.holding "" "") "/bin/sh" 8 8 0) 64 0 [] generatedMenu [] [] rfl
      (Nat.le_refl _)
    have hnone : later = [] := by
      rw [List.append_nil, itemsOf_nil] at hlater
      exact (List.nil_eq_append_iff.mp hlater).2
    rw [hnone] at hitems
    simp only [List.nil_append, itemsOf_nil, Bool.false_eq_true, if_false, List.append_nil]
      at hitems
    exact hitems

end DeskConfig
