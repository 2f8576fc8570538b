import DeskConfig.Proofs.Dump.FreeMenus
import DeskConfig.Proofs.Menus.InPlace
import DeskConfig.Proofs.Menus.Nesting

/-!
The shape of items. A free item has a kind, a name, an icon, an action and a menu, each
present or not whatever the others are. The free items that fit, with all that fit under
them, are those that stand for built ones. What is built in place fits, and nests no deeper
than submenus may.
-/

namespace DeskConfig

open Markup (Element)

namespace FreeItem

def kind : FreeItem → ItemKind
  | single kind _ _ _ => kind
  | holding kind _ _ _ _ _ _ => kind

def name : FreeItem → Option String
  | single _ name _ _ => name
  | holding _ name _ _ _ _ _ => name

def icon : FreeItem → Option String
  | single _ _ icon _ => icon
  | holding _ _ icon _ _ _ _ => icon

def action : FreeItem → Option MenuAction
  | single _ _ _ action => action
  | holding _ _ _ action _ _ _ => action

/-- The items of the menu that an item has, if it has one. -/
def inner? : FreeItem → Option (List FreeItem)
  | single _ _ _ _ => none
  | holding _ _ _ _ _ _ items => some items

/-- Its kind says which parts an item has. -/
structure Fits (f : FreeItem) : Prop where
  inner_iff : f.inner?.isSome = true ↔ f.kind = .submenu
  action_iff : f.action.isSome = true ↔ f.kind = .normal
  separator : f.kind = .separator → f.name = none ∧ f.icon = none
  named : f.kind = .normal → f.name = none → ∃ command, f.action = some (.execute command)

theorem Fits.action_eq_none {f : FreeItem} (h : f.Fits) (hkind : f.kind ≠ .normal) :
    f.action = none :=
  Option.not_isSome_iff_eq_none.mp fun hsome => hkind (h.action_iff.mp hsome)

/-- A free item of a menu that stands inside the given number of menus of its items. -/
inductive Under : (menus : Nat) → List FreeItem → FreeItem → Prop
  | top {f fs} : f ∈ fs → Under 0 fs f
  | inside {g fs inner n f} :
      g ∈ fs → g.inner? = some inner → Under n inner f → Under (n + 1) fs f

theorem Under.mono {n : Nat} {fs gs : List FreeItem} {f : FreeItem} (h : Under n fs f)
    (hsub : fs ⊆ gs) : Under n gs f := by
  cases h with
  | top hf => exact .top (hsub hf)
  | inside hg hinner hf => exact .inside (hsub hg) hinner hf

def AllFit (fs : List FreeItem) : Prop := ∀ n f, Under n fs f → f.Fits

theorem AllFit.inner {fs inner : List FreeItem} {g : FreeItem} (h : AllFit fs) (hg : g ∈ fs)
    (hinner : g.inner? = some inner) : AllFit inner :=
  fun n f hf => h (n + 1) f (.inside hg hinner hf)

end FreeItem

section Built

theorem freeItems_eq_map (items : List MenuItem) : freeItems items = items.map (·.free) := by
  induction items with
  | nil => rw [freeItems, List.map_nil]
  | cons item items ih => rw [freeItems, List.map_cons, ih]

theorem MenuItem.inner?_free (item : MenuItem) {inner : List FreeItem} :
    item.free.inner? = some inner ↔ ∃ name icon label height items,
      item = .submenu name icon label height items ∧ freeItems items = inner := by
  cases item with
  | submenu name icon label height items =>
    rw [free, FreeItem.inner?]
    constructor
    · intro h
      exact ⟨name, icon, label, height, items, rfl, Option.some.inj h⟩
    · rintro ⟨_, _, _, _, _, h, rfl⟩
      cases h
      rfl
  | _ => simp [free, FreeItem.inner?]

/-- The items under free forms are the free forms of the items under. -/
theorem FreeItem.under_freeItems_iff {n : Nat} {items : List MenuItem} {f : FreeItem} :
    Under n (freeItems items) f ↔ ∃ item, MenuItem.Under n items item ∧ item.free = f := by
  constructor
  · intro h
    generalize hfs : freeItems items = fs at h
    induction h generalizing items with
    | top hf =>
      rw [← hfs, freeItems_eq_map] at hf
      obtain ⟨item, hitem, hfree⟩ := List.mem_map.mp hf
      exact ⟨item, .top hitem, hfree⟩
    | inside hg hinner _ ih =>
      rw [← hfs, freeItems_eq_map] at hg
      obtain ⟨holder, hholder, rfl⟩ := List.mem_map.mp hg
      obtain ⟨name, icon, label, height, inside, rfl, hinside⟩ := holder.inner?_free.mp hinner
      obtain ⟨item, hunder, hfree⟩ := ih hinside
      exact ⟨item, .inside hholder hunder, hfree⟩
  · rintro ⟨item, h, rfl⟩
    induction h with
    | top hitem =>
      rw [freeItems_eq_map]
      exact .top (List.mem_map_of_mem hitem)
    | inside hholder _ ih =>
      rw [freeItems_eq_map]
      exact .inside (List.mem_map_of_mem hholder) (MenuItem.inner?_free _ |>.mpr
        ⟨_, _, _, _, _, rfl, rfl⟩) ih

theorem MenuItem.fits_free_entry {name icon : Option String} {action : MenuAction} :
    (entry name icon action).free.Fits ↔ (name = none → ∃ command, action = .execute command) := by
  rw [free]
  constructor
  · intro h hname
    obtain ⟨command, hcommand⟩ := h.named rfl hname
    exact ⟨command, Option.some.inj hcommand⟩
  · intro h
    refine ⟨?_, iff_of_true rfl rfl, ?_, ?_⟩
    · simp [FreeItem.inner?, FreeItem.kind]
    · simp [FreeItem.kind]
    · intro _ hname
      obtain ⟨command, rfl⟩ := h hname
      exact ⟨command, rfl⟩

theorem MenuItem.fits_free_submenu (name icon label : Option String) (height : Nat)
    (items : List MenuItem) : (submenu name icon label height items).free.Fits := by
  rw [free]
  refine ⟨iff_of_true rfl rfl, ?_, ?_, ?_⟩ <;> simp [FreeItem.action, FreeItem.kind]

theorem MenuItem.fits_free_separator : separator.free.Fits := by
  rw [free]
  refine ⟨?_, ?_, fun _ => ⟨rfl, rfl⟩, ?_⟩ <;>
    simp [FreeItem.inner?, FreeItem.action, FreeItem.kind]

/-- What an item has to be like at a level is what its free form has to be like. -/
theorem MenuItem.allowed_iff {item : MenuItem} {level : Nat} :
    item.Allowed level ↔
      item.free.Fits ∧ (item.free.kind = .submenu → level < Menu.maxLevel) := by
  cases item with
  | entry name icon action =>
    have hkind : (entry name icon action).free.kind = .normal := by rw [free]; rfl
    simp [Allowed, fits_free_entry, hkind]
  | submenu name icon label height items =>
    have hkind : (submenu name icon label height items).free.kind = .submenu := by rw [free]; rfl
    simp [Allowed, fits_free_submenu, hkind]
  | separator =>
    have hkind : separator.free.kind = .separator := by rw [free]; rfl
    simp [Allowed, fits_free_separator, hkind]

theorem MenuItem.AllAllowed.shape {level n : Nat} {items : List MenuItem} {f : FreeItem}
    (h : AllAllowed level items) (hf : FreeItem.Under n (freeItems items) f) :
    f.Fits ∧ (f.kind = .submenu → level + n < Menu.maxLevel) := by
  obtain ⟨item, hunder, rfl⟩ := FreeItem.under_freeItems_iff.mp hf
  exact MenuItem.allowed_iff.mp (h n item hunder)

mutual

/-- A free item that fits stands for an item if all under it fit, too. -/
theorem FreeItem.exists_free : ∀ f : FreeItem, f.Fits →
    (∀ inner, f.inner? = some inner → FreeItem.AllFit inner) → ∃ item : MenuItem, item.free = f
  | .single kind name icon action, hfits, _ => by
    cases kind with
    | submenu => exact absurd (hfits.inner_iff.mpr rfl) Bool.false_ne_true
    | normal =>
      obtain ⟨action, rfl⟩ : ∃ a, action = some a :=
        Option.isSome_iff_exists.mp (hfits.action_iff.mpr rfl)
      exact ⟨.entry name icon action, by rw [MenuItem.free]⟩
    | separator =>
      obtain ⟨rfl, rfl⟩ : name = none ∧ icon = none := hfits.separator rfl
      obtain rfl : action = none := hfits.action_eq_none nofun
      exact ⟨.separator, by rw [MenuItem.free]⟩
  | .holding kind name icon action label height fs, hfits, hinner => by
    obtain rfl : kind = .submenu := hfits.inner_iff.mp rfl
    obtain rfl : action = none := hfits.action_eq_none nofun
    obtain ⟨items, rfl⟩ := exists_freeItems fs (hinner fs rfl)
    exact ⟨.submenu name icon label height items, by rw [MenuItem.free]⟩

theorem exists_freeItems : ∀ fs : List FreeItem, FreeItem.AllFit fs →
    ∃ items : List MenuItem, freeItems items = fs
  | [], _ => ⟨[], by rw [freeItems]⟩
  | f :: fs, h => by
    obtain ⟨item, rfl⟩ := FreeItem.exists_free f (h 0 f (.top List.mem_cons_self))
      fun _ hinner => h.inner List.mem_cons_self hinner
    obtain ⟨items, rfl⟩ := exists_freeItems fs fun n g hg =>
      h n g (hg.mono fun _ => List.mem_cons_of_mem _)
    exact ⟨item :: items, by rw [freeItems]⟩

end

end Built

/-- Items built in place, over however many documents, have the shape of their kinds, and
those with a menu stand above the deepest level. -/
theorem shape_buildItems (world : World) (shell : String) (limit budget depth : Nat)
    {level height : Nat} {b : Building} (h : MenuItem.AllAllowed level b.items)
    (es : List Element) {n : Nat} {f : FreeItem}
    (hf : FreeItem.Under n (freeItems
      (buildItems (buildInclude world shell limit budget depth) level height b es).items) f) :
    f.Fits ∧ (f.kind = .submenu → level + n < Menu.maxLevel) := by
  refine MenuItem.AllAllowed.shape ?_ hf
  rw [buildItems_eq_after (buildInclude_leadsTo world shell limit budget depth), Building.after]
  split
  · exact h
  · exact h.append (allAllowed_itemsOf
      (menuInclude_keepsLevels world shell limit budget depth) es level height _)

end DeskConfig
