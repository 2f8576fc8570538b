import DeskConfig.Proofs.Dump.Parts

/-!
Menus whose items follow no rules. What is written of an item leaves room for more than the
items that are ever built: any kind may go with any action or none, and with a menu under it or
none. Even so, different items are written differently, and those that are built are written
like the free items that stand for them.
-/

namespace DeskConfig

open Function (Injective)
open Json (ofNat optionalString)

inductive ItemKind where
  | normal
  | submenu
  | separator
deriving DecidableEq, Repr

def ItemKind.name : ItemKind → String
  | normal => "normal"
  | submenu => "submenu"
  | separator => "separator"

/-- An item of any kind with any action, without a menu under it or with one. -/
inductive FreeItem where
  | single (kind : ItemKind) (name icon : Option String) (action : Option MenuAction)
  | holding (kind : ItemKind) (name icon : Option String) (action : Option MenuAction)
      (label : Option String) (itemHeight : Nat) (items : List FreeItem)

structure FreeRootMenu where
  slots : List Nat
  label : Option String
  itemHeight : Nat
  items : List FreeItem

/-- A configuration with root menus of free items; the other ones are left out. -/
structure FreeConfig where
  settings : Config
  rootMenus : List FreeRootMenu
  bare : settings.rootMenus = {}

section Written

/-- An item without an action does nothing. -/
def freeActionJson : Option MenuAction → Json
  | none => MenuAction.tagged "none"
  | some action => action.toJson

def itemJson (kind : ItemKind) (name icon : Option String) (action : Option MenuAction)
    (submenu : Json) : Json :=
  .obj [("kind", .str kind.name), ("name", optionalString name), ("icon", optionalString icon),
    ("action", freeActionJson action), ("submenu", submenu)]

mutual

def FreeItem.toJson : FreeItem → Json
  | .single kind name icon action => itemJson kind name icon action .null
  | .holding kind name icon action label itemHeight items =>
    itemJson kind name icon action (.obj (menuMembers label itemHeight (freeItemsJson items)))

def freeItemsJson : List FreeItem → List Json
  | [] => []
  | item :: items => item.toJson :: freeItemsJson items

end

def FreeRootMenu.toJson (r : FreeRootMenu) : Json :=
  .obj [("slots", .arr (r.slots.map ofNat)),
    ("menu", .obj (menuMembers r.label r.itemHeight (freeItemsJson r.items)))]

namespace FreeConfig

/-- The member that has the root menus, the others being those of the settings. -/
def put (c : FreeConfig) (m : String × Json) : String × Json :=
  if m.1 = "root_menus" then
    ("root_menus", .obj [("entries", .arr (c.rootMenus.map FreeRootMenu.toJson))])
  else m

def toJson (c : FreeConfig) : Json := .obj (c.settings.members.map c.put)

def dump (c : FreeConfig) : String := c.toJson.render

end FreeConfig

end Written

section Items

theorem ItemKind.name_injective : Injective name := by
  intro k l h
  revert h
  cases k <;> cases l <;> decide

theorem MenuAction.toJson_injective : Injective toJson := by
  intro a b h
  cases a <;> cases b
  case execute.execute command command' => simpa [toJson] using h
  case exit.exit command command' =>
    simpa [toJson, Json.optionalString_injective.eq_iff] using h
  -- What is left has no value, or not the same type.
  all_goals simp [toJson, tagged] at h
  all_goals rfl

theorem freeActionJson_injective : Injective freeActionJson := by
  intro a b h
  cases a with
  | none =>
    cases b with
    | none => rfl
    | some b => cases b <;> simp [freeActionJson, MenuAction.toJson, MenuAction.tagged] at h
  | some a =>
    cases b with
    | none => cases a <;> simp [freeActionJson, MenuAction.toJson, MenuAction.tagged] at h
    | some b => exact congrArg some (MenuAction.toJson_injective h)

theorem itemJson_inj {kind kind' : ItemKind} {name name' icon icon' : Option String}
    {action action' : Option MenuAction} {submenu submenu' : Json}
    (h : itemJson kind name icon action submenu = itemJson kind' name' icon' action' submenu') :
    kind = kind' ∧ name = name' ∧ icon = icon' ∧ action = action' ∧ submenu = submenu' := by
  simpa [itemJson, ItemKind.name_injective.eq_iff, Json.optionalString_injective.eq_iff,
    freeActionJson_injective.eq_iff] using h

theorem menuMembers_inj {label label' : Option String} {height height' : Nat}
    {items items' : List Json} (h : menuMembers label height items =
      menuMembers label' height' items') :
    label = label' ∧ height = height' ∧ items = items' := by
  simpa [menuMembers, Json.optionalString_injective.eq_iff, Json.ofNat_injective.eq_iff] using h

mutual

/-- Items are told apart by induction on the items of the menus under them. -/
theorem FreeItem.toJson_inj : ∀ a b : FreeItem, a.toJson = b.toJson → a = b
  | .single kind name icon action, .single kind' name' icon' action', h => by
    rw [FreeItem.toJson, FreeItem.toJson] at h
    obtain ⟨rfl, rfl, rfl, rfl, -⟩ := itemJson_inj h
    rfl
  | .single _ _ _ _, .holding _ _ _ _ _ _ _, h => by
    rw [FreeItem.toJson, FreeItem.toJson] at h
    exact absurd (itemJson_inj h).2.2.2.2 nofun
  | .holding _ _ _ _ _ _ _, .single _ _ _ _, h => by
    rw [FreeItem.toJson, FreeItem.toJson] at h
    exact absurd (itemJson_inj h).2.2.2.2 nofun
  | .holding kind name icon action label height items,
      .holding kind' name' icon' action' label' height' items', h => by
    rw [FreeItem.toJson, FreeItem.toJson] at h
    obtain ⟨rfl, rfl, rfl, rfl, hmenu⟩ := itemJson_inj h
    obtain ⟨rfl, rfl, hitems⟩ := menuMembers_inj (Json.obj.inj hmenu)
    rw [freeItemsJson_inj items items' hitems]

theorem freeItemsJson_inj : ∀ as bs : List FreeItem,
    freeItemsJson as = freeItemsJson bs → as = bs
  | [], [], _ => rfl
  | [], b :: bs, h => by
    rw [freeItemsJson, freeItemsJson] at h
    contradiction
  | a :: as, [], h => by
    rw [freeItemsJson, freeItemsJson] at h
    contradiction
  | a :: as, b :: bs, h => by
    rw [freeItemsJson, freeItemsJson] at h
    obtain ⟨hfirst, hrest⟩ := List.cons.inj h
    rw [FreeItem.toJson_inj a b hfirst, freeItemsJson_inj as bs hrest]

end

theorem FreeRootMenu.toJson_injective : Injective toJson := by
  have hslots : Injective (List.map ofNat) := List.map_injective_iff.mpr Json.ofNat_injective
  rintro ⟨slots, label, height, items⟩ ⟨slots', label', height', items'⟩ h
  simp only [toJson, Json.obj.injEq, List.cons.injEq, Prod.mk.injEq, Json.arr.injEq,
    hslots.eq_iff, true_and, and_true] at h
  obtain ⟨rfl, hmenu⟩ := h
  obtain ⟨rfl, rfl, hitems⟩ := menuMembers_inj hmenu
  rw [freeItemsJson_inj items items' hitems]

end Items

/-! Items that are built, among the free ones. -/

section Built

mutual

def MenuItem.free : MenuItem → FreeItem
  | .entry name icon action => .single .normal name icon (some action)
  | .submenu name icon label itemHeight items =>
    .holding .submenu name icon none label itemHeight (freeItems items)
  | .separator => .single .separator none none none

def freeItems : List MenuItem → List FreeItem
  | [] => []
  | item :: items => item.free :: freeItems items

end

def RootMenu.free (r : RootMenu) : FreeRootMenu where
  slots := r.slots
  label := r.menu.label
  itemHeight := r.menu.itemHeight
  items := freeItems r.menu.items

def Config.free (c : Config) : FreeConfig where
  settings := { c with rootMenus := {} }
  rootMenus := c.rootMenus.entries.map RootMenu.free
  bare := rfl

mutual

theorem MenuItem.toJson_free : ∀ item : MenuItem, item.free.toJson = item.toJson
  | .entry _ _ _ => by
    rw [MenuItem.free, FreeItem.toJson, MenuItem.toJson]
    rfl
  | .submenu _ _ _ _ items => by
    rw [MenuItem.free, FreeItem.toJson, MenuItem.toJson, freeItemsJson_freeItems items]
    rfl
  | .separator => by
    rw [MenuItem.free, FreeItem.toJson, MenuItem.toJson]
    rfl

theorem freeItemsJson_freeItems : ∀ items : List MenuItem,
    freeItemsJson (freeItems items) = menuItemsJson items
  | [] => by rw [freeItems, freeItemsJson, menuItemsJson]
  | item :: items => by
    rw [freeItems, freeItemsJson, menuItemsJson, MenuItem.toJson_free item,
      freeItemsJson_freeItems items]

end

mutual

theorem MenuItem.free_inj : ∀ a b : MenuItem, a.free = b.free → a = b
  | .entry name icon action, b, h => by
    cases b <;> simp only [MenuItem.free, FreeItem.single.injEq, reduceCtorEq, false_and] at h
    obtain ⟨-, rfl, rfl, haction⟩ := h
    rw [Option.some.inj haction]
  | .submenu name icon label height items, b, h => by
    cases b <;> simp only [MenuItem.free, FreeItem.holding.injEq, reduceCtorEq] at h
    obtain ⟨-, rfl, rfl, -, rfl, rfl, hitems⟩ := h
    rw [freeItems_inj _ _ hitems]
  | .separator, b, h => by
    cases b <;> simp only [MenuItem.free, FreeItem.single.injEq, reduceCtorEq, false_and] at h
    rfl

theorem freeItems_inj : ∀ as bs : List MenuItem, freeItems as = freeItems bs → as = bs
  | [], [], _ => rfl
  | [], b :: bs, h => by
    rw [freeItems, freeItems] at h
    contradiction
  | a :: as, [], h => by
    rw [freeItems, freeItems] at h
    contradiction
  | a :: as, b :: bs, h => by
    rw [freeItems, freeItems] at h
    obtain ⟨hfirst, hrest⟩ := List.cons.inj h
    rw [MenuItem.free_inj a b hfirst, freeItems_inj as bs hrest]

end

theorem RootMenu.toJson_free (r : RootMenu) : r.free.toJson = r.toJson := by
  rw [free, FreeRootMenu.toJson, freeItemsJson_freeItems]
  rfl

theorem RootMenu.free_injective : Injective free := by
  rintro ⟨slots, label, height, items⟩ ⟨slots', label', height', items'⟩ h
  simp only [free, FreeRootMenu.mk.injEq] at h
  obtain ⟨rfl, rfl, rfl, hitems⟩ := h
  rw [freeItems_inj _ _ hitems]

end Built

end DeskConfig
