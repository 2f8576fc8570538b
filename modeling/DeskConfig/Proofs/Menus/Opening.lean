import DeskConfig.Proofs.Walk.Coverage

/-!
The menus that are opened when the items of a menu are built. Building goes through the items
as any walk does; an included document stands in the place of its include, so what it puts
there has around it the menus that are around the include. The menu that such a document starts
with is not opened itself.
-/

namespace DeskConfig

open Markup (Element)

/-- A menu that building comes to, and those around it in the menu that is built, the nearest
one first. -/
structure OpenedMenu where
  element : Element
  around : List Element

namespace Pending

/-- A submenu is built from every menu among the items of one, unless it is nested too deep. -/
def opensMenu (p : Pending) : Bool :=
  match p.standing, p.element.tag with
  | .item level, .menu => level < Menu.maxLevel
  | _, _ => false

/-- The menus around what comes in the place of an element, given those around it. -/
def enclosing (around : List Element) (p : Pending) : List Element :=
  if p.opensMenu then p.element :: around else around

def openedMenu (around : List Element) (p : Pending) : List OpenedMenu :=
  if p.opensMenu then [{ element := p.element, around }] else []

end Pending

section OpensMenus

variable (world : World) (limits : Limits)

/-- The menus that are opened by going through some elements, in order, with the commands that
are run. What comes in the place of an include has the menus around it that the include has.
Either everything is gone through, or an include is met where the limit is reached. -/
inductive OpensMenus : (around : List Element) → List Pending → (history : List Call) →
    (stopped : Bool) → (calls : List Call) → List OpenedMenu → Prop
  | nothing {around history} : OpensMenus around [] history false [] []
  | atLimit {around p ps history} : p.AtLimit limits →
      OpensMenus around (p :: ps) history true [] []
  | within {around p ps inner history calls menus} :
      p.opened world limits history = some inner →
      OpensMenus (p.enclosing around) inner (history ++ (p.call? limits).toList) true calls
        menus →
      OpensMenus around (p :: ps) history true ((p.call? limits).toList ++ calls)
        (p.openedMenu around ++ menus)
  | next {around p ps inner history calls menus stopped calls' menus'} :
      p.opened world limits history = some inner →
      OpensMenus (p.enclosing around) inner (history ++ (p.call? limits).toList) false calls
        menus →
      OpensMenus around ps (history ++ ((p.call? limits).toList ++ calls)) stopped calls'
        menus' →
      OpensMenus around (p :: ps) history stopped ((p.call? limits).toList ++ calls ++ calls')
        (p.openedMenu around ++ menus ++ menus')

end OpensMenus

namespace OpensMenus

variable {world : World} {limits : Limits} {around : List Element} {p : Pending}
  {ps ps' inner : List Pending} {history calls calls' : List Call} {stopped stopped' : Bool}
  {menus menus' : List OpenedMenu}

/-- What stands behind the elements where building is stopped does not matter. -/
theorem before (h : OpensMenus world limits around ps history stopped calls menus)
    (hs : stopped = true) (ps' : List Pending) :
    OpensMenus world limits around (ps ++ ps') history true calls menus := by
  induction h with
  | nothing => contradiction
  | atLimit hp => exact .atLimit hp
  | within hopened hinner => exact .within hopened hinner
  | next hopened hinner _ _ ih => exact .next hopened hinner (ih hs)

theorem append (h : OpensMenus world limits around ps history stopped calls menus)
    (hs : stopped = false)
    (h' : OpensMenus world limits around ps' (history ++ calls) stopped' calls' menus') :
    OpensMenus world limits around (ps ++ ps') history stopped' (calls ++ calls')
      (menus ++ menus') := by
  induction h with
  | nothing => simpa using h'
  | atLimit hp => contradiction
  | within hopened hinner => contradiction
  | @next around p ps inner history calls menus stopped calls₂ menus₂ hopened hinner _ _ ih =>
    rw [List.append_assoc, List.append_assoc _ menus₂]
    exact .next hopened hinner (ih hs (by simpa only [List.append_assoc] using h'))

/-- An element is gone through with what comes in its place. -/
theorem single (hopened : p.opened world limits history = some inner)
    (h : OpensMenus world limits (p.enclosing around) inner
      (history ++ (p.call? limits).toList) stopped calls menus) :
    OpensMenus world limits around [p] history stopped ((p.call? limits).toList ++ calls)
      (p.openedMenu around ++ menus) := by
  cases stopped with
  | true => exact .within hopened h
  | false =>
    rw [← List.append_nil (_ ++ calls), ← List.append_nil (_ ++ menus)]
    exact .next hopened h .nothing

/-- What comes in the place of an element that is no menu has the same menus around it. -/
theorem through (hmenu : p.opensMenu = false)
    (hopened : p.opened world limits history = some inner)
    (h : OpensMenus world limits around inner (history ++ (p.call? limits).toList) stopped calls
      menus) :
    OpensMenus world limits around [p] history stopped ((p.call? limits).toList ++ calls)
      menus := by
  have hinner : OpensMenus world limits (p.enclosing around) inner
      (history ++ (p.call? limits).toList) stopped calls menus := by
    simpa [Pending.enclosing, hmenu] using h
  simpa [Pending.openedMenu, hmenu] using single hopened hinner

theorem skip (hmenu : p.opensMenu = false) (hopened : p.opened world limits history = some [])
    (hcall : p.call? limits = none) : OpensMenus world limits around [p] history false [] [] := by
  have h : OpensMenus world limits around [p] history false ((p.call? limits).toList ++ []) [] :=
    through hmenu hopened .nothing
  rwa [hcall] at h

/-- A menu is the nearest one around what it holds. -/
theorem submenu (hmenu : p.opensMenu = true)
    (hopened : p.opened world limits history = some inner) (hcall : p.call? limits = none)
    (h : OpensMenus world limits (p.element :: around) inner history stopped calls menus) :
    OpensMenus world limits around [p] history stopped calls
      ({ element := p.element, around } :: menus) := by
  have hinner : OpensMenus world limits (p.enclosing around) inner
      (history ++ (p.call? limits).toList) stopped calls menus := by
    simpa [Pending.enclosing, hmenu, hcall] using h
  simpa [Pending.openedMenu, hmenu, hcall] using single hopened hinner

/-- Below the largest limit there is only one way to go through some elements. -/
theorem unique (hlimit : limits.includeDepth < Text.maxWord)
    (h : OpensMenus world limits around ps history stopped calls menus)
    (h' : OpensMenus world limits around ps history stopped' calls' menus') :
    stopped = stopped' ∧ calls = calls' ∧ menus = menus' := by
  induction h generalizing stopped' calls' menus' with
  | nothing =>
    cases h'
    exact ⟨rfl, rfl, rfl⟩
  | atLimit hp =>
    cases h' with
    | atLimit => exact ⟨rfl, rfl, rfl⟩
    | within hopened => simp [hp.opened_eq hlimit] at hopened
    | next hopened => simp [hp.opened_eq hlimit] at hopened
  | within hopened _ ih =>
    cases h' with
    | atLimit hp => simp [hp.opened_eq hlimit] at hopened
    | within hopened' hinner =>
      cases hopened.symm.trans hopened'
      obtain ⟨-, rfl, rfl⟩ := ih hinner
      exact ⟨rfl, rfl, rfl⟩
    | next hopened' hinner =>
      cases hopened.symm.trans hopened'
      exact absurd (ih hinner).1 (by decide)
  | next hopened _ _ ih ihs =>
    cases h' with
    | atLimit hp => simp [hp.opened_eq hlimit] at hopened
    | within hopened' hinner =>
      cases hopened.symm.trans hopened'
      exact absurd (ih hinner).1 (by decide)
    | next hopened' hinner hrest =>
      cases hopened.symm.trans hopened'
      obtain ⟨-, rfl, rfl⟩ := ih hinner
      obtain ⟨rfl, rfl, rfl⟩ := ihs hrest
      exact ⟨rfl, rfl, rfl⟩

end OpensMenus

end DeskConfig
