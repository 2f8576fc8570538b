import DeskConfig.Proofs.Menus.Registry
import DeskConfig.Proofs.Walk.Sequence
import Mathlib.Tactic.IntervalCases

/-!
How a root menu is bound. Its slots are the digits in its slot text, each once; the menu
that was built from its items is bound to them, unless there are none or building was
stopped.
-/

namespace DeskConfig

open Markup (Element)

theorem Text.digit?_eq_some_iff {c : Char} {n : Nat} :
    digit? c = some n ↔ n ≤ 9 ∧ c = Nat.digitChar n := by
  constructor
  · intro h
    unfold digit? at h
    split at h
    · rename_i hdigit
      simp only [Char.isDigit, Bool.and_eq_true, decide_eq_true_eq, ge_iff_le,
        UInt32.le_iff_toNat_le] at hdigit
      have hlow : 48 ≤ c.toNat := hdigit.1
      have hhigh : c.toNat ≤ 57 := hdigit.2
      have hc : c = Char.ofNat c.toNat := (Char.ofNat_toNat c).symm
      cases h
      generalize c.toNat = k at *
      subst hc
      interval_cases k <;> decide
    · contradiction
  · rintro ⟨hn, rfl⟩
    interval_cases n <;> rfl

namespace Menu

/-- The text that names the slots of a root menu. -/
def slotText (e : Element) : String := (e.attribute? "onroot").getD defaultSlots

theorem mem_slotsFrom (e : Element) (found : List Nat) (cs : List Char) (slot : Nat) :
    slot ∈ (slotsFrom e found cs).value ↔ slot ∈ found ∨ ∃ c ∈ cs, Text.digit? c = some slot := by
  induction cs generalizing found with
  | nil => simp [slotsFrom]
  | cons c cs ih =>
    rw [slotsFrom]
    cases hc : Text.digit? c with
    | none => simp [ih, hc]
    | some d =>
      have hfirst : (∃ c' ∈ c :: cs, Text.digit? c' = some slot) ↔
          slot = d ∨ ∃ c' ∈ cs, Text.digit? c' = some slot := by
        simp only [List.mem_cons, exists_eq_or_imp, hc, Option.some.injEq]
        rw [eq_comm]
      rw [hfirst]
      simp only
      by_cases hfound : found.contains d = true
      · have hmem : slot = d → slot ∈ found := fun h => h ▸ List.contains_iff_mem.mp hfound
        rw [if_pos hfound, ih, ← or_assoc, or_iff_left_of_imp hmem]
      · rw [if_neg hfound, ih, List.mem_append, List.mem_singleton, or_assoc]

theorem nodup_slotsFrom (e : Element) (found : List Nat) (cs : List Char)
    (hfound : found.Nodup) : (slotsFrom e found cs).value.Nodup := by
  induction cs generalizing found with
  | nil => exact hfound
  | cons c cs ih =>
    rw [slotsFrom]
    split
    · rename_i d _
      split
      · exact ih found hfound
      · rename_i hnew
        refine ih (found ++ [d]) (List.nodup_append.mpr ⟨hfound, by simp, ?_⟩)
        rintro slot hslot slot' hd rfl
        rw [List.mem_singleton.mp hd] at hslot
        exact hnew (List.contains_iff_mem.mpr hslot)
    · exact ih found hfound

theorem value_slotsOf (e : Element) :
    (slotsOf e).value = (slotsFrom e [] (slotText e).toList).value := by
  simp only [slotsOf, Reading.value_bind]
  split <;> rfl

theorem nodup_slotsOf (e : Element) : (slotsOf e).value.Nodup := by
  rw [value_slotsOf]
  exact nodup_slotsFrom e [] _ List.nodup_nil

theorem slotsFrom_of_origin {e e' : Element} (h : e'.origin = e.origin) (found : List Nat)
    (cs : List Char) : slotsFrom e' found cs = slotsFrom e found cs := by
  induction cs generalizing found with
  | nil => rfl
  | cons c cs ih => simp only [slotsFrom, Reading.warn, h, ih]

/-- The slots of a root menu have nothing to do with what is inside it. -/
theorem slotsOf_children (e : Element) (es : List Element) :
    slotsOf { e with children := es } = slotsOf e := by
  have horigin : { e with children := es }.origin = e.origin := rfl
  simp only [slotsOf, slotsFrom_of_origin horigin]
  rfl

/-- The slots of a root menu are the digits in its slot text. -/
theorem mem_slotsOf {e : Element} {slot : Nat} :
    slot ∈ (slotsOf e).value ↔ slot ≤ 9 ∧ Nat.digitChar slot ∈ (slotText e).toList := by
  rw [value_slotsOf, mem_slotsFrom]
  simp only [List.not_mem_nil, false_or, Text.digit?_eq_some_iff]
  constructor
  · rintro ⟨c, hc, hslot, rfl⟩
    exact ⟨hslot, hc⟩
  · rintro ⟨hslot, hc⟩
    exact ⟨_, hc, hslot, rfl⟩

/-- The menu that a root menu element comes to. -/
def builtFrom (onInclude : MenuInclude) (e : Element) (history : List Call) : Menu where
  label := titleOf e
  itemHeight := (heightOf e 0).value
  items := (itemsOf onInclude 0 (heightOf e 0).value history e.children).items

end Menu

section RootMenus

variable {onInclude : MenuInclude} {e : Element} {c : Config} {history : List Call}

/-- Binding a menu changes nothing but the registry. -/
theorem bindMenu_eq (c : Config) (slots : List Nat) (menu : Menu) :
    c.bindMenu slots menu =
      { c with
        rootMenus := if slots.isEmpty then c.rootMenus else c.rootMenus.set slots menu } := by
  unfold Config.bindMenu
  split <;> rfl

/-- What a root menu makes of a configuration. -/
theorem config_rootMenu (onInclude : MenuInclude) (e : Element) (c : Config)
    (history : List Call) :
    (rootMenu onInclude e c history).config =
      { c with
        rootMenus :=
          if (rootMenu onInclude e c history).stopped ∨ (Menu.slotsOf e).value = [] then
            c.rootMenus
          else c.rootMenus.set (Menu.slotsOf e).value (Menu.builtFrom onInclude e history)
        confirmExit :=
          (itemsOf onInclude 0 (Menu.heightOf e 0).value history e.children).confirm.getD
            c.confirmExit } := by
  rw [stopped_rootMenu]
  unfold rootMenu
  cases hs : (itemsOf onInclude 0 (Menu.heightOf e 0).value history e.children).stopped with
  | true => simp [MenuYield.noting, hs]
  | false =>
    simp [MenuYield.noting, hs, bindMenu_eq, Menu.builtFrom]

end RootMenus

end DeskConfig
