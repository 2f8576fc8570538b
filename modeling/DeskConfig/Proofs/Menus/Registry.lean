import DeskConfig.Settings.Menu
import Mathlib.Data.List.Induction
import Mathlib.Data.List.Perm.Subperm

/-!
The registry of root menus as a map from slots to menus. Binding a menu takes its slots
away from the menus bound before, so a slot leads to the menu that was bound to it last,
and the registry holds each menu with those of its slots that no later menu has taken.
-/

namespace DeskConfig

/-- What a menu keeps of its slots when others are bound to the given ones. -/
def RootMenu.without (r : RootMenu) (slots : List Nat) : RootMenu :=
  { r with slots := r.slots.filter (!slots.contains ·) }

namespace RootMenus

/-- Binds menus one after the other to a registry. -/
def bindAll (m : RootMenus) (bindings : List RootMenu) : RootMenus :=
  bindings.foldl (fun m b => m.set b.slots b.menu) m

/-- The menus that still have slots after all bindings, oldest first. -/
def survivors : List RootMenu → List RootMenu
  | [] => []
  | b :: bs =>
    let left := b.without (bs.flatMap (·.slots))
    if left.slots.isEmpty then survivors bs else left :: survivors bs

section Lookup

theorem contains_without (r : RootMenu) (slots : List Nat) (slot : Nat) :
    (r.without slots).slots.contains slot = (r.slots.contains slot && !slots.contains slot) := by
  rw [Bool.eq_iff_iff]
  simp [RootMenu.without]

theorem entries_unbind (m : RootMenus) (slots : List Nat) :
    (m.unbind slots).entries =
      (m.entries.map (·.without slots)).filter (!·.slots.isEmpty) := rfl

/-- Taking slots away hides the menus that were bound to them and no others. -/
theorem get?_unbind (m : RootMenus) (slots : List Nat) (slot : Nat) :
    (m.unbind slots).get? slot = if slots.contains slot then none else m.get? slot := by
  have hkept : ∀ r : RootMenu,
      (!(r.without slots).slots.isEmpty && (r.without slots).slots.contains slot) =
        (r.slots.contains slot && !slots.contains slot) := by
    intro r
    rw [← contains_without]
    cases hc : (r.without slots).slots.contains slot with
    | false => rw [Bool.and_false]
    | true =>
      have hne : (r.without slots).slots ≠ [] := by
        intro hnil
        rw [hnil] at hc
        contradiction
      simp [hne]
  have hfind : (m.unbind slots).entries.find? (·.slots.contains slot) =
      (m.entries.find? fun r => r.slots.contains slot && !slots.contains slot).map
        (·.without slots) := by
    simp only [entries_unbind, List.find?_filter, List.find?_map, Function.comp_def,
      Bool.decide_and, Bool.decide_eq_true, hkept]
  rw [get?, hfind, Option.map_map]
  cases slots.contains slot with
  | true => simp
  | false =>
    simp only [Bool.not_false, Bool.and_true]
    rfl

/-- A slot that is bound leads to its new menu, the other slots lead where they led. -/
theorem get?_set (m : RootMenus) (slots : List Nat) (menu : Menu) (slot : Nat) :
    (m.set slots menu).get? slot = if slots.contains slot then some menu else m.get? slot := by
  have hset : (m.set slots menu).get? slot =
      ((m.unbind slots).get? slot).or (if slots.contains slot then some menu else none) := by
    simp only [get?, set, List.find?_append, List.find?_singleton, Option.map_or]
    split <;> rfl
  rw [hset, get?_unbind]
  cases slots.contains slot with
  | true => rfl
  | false => exact Option.or_none

/-- A slot leads to the menu of the last binding that has it. -/
theorem get?_bindAll (m : RootMenus) (bs : List RootMenu) (slot : Nat) :
    (m.bindAll bs).get? slot =
      ((bs.reverse.find? (·.slots.contains slot)).map (·.menu)).or (m.get? slot) := by
  induction bs generalizing m with
  | nil => rfl
  | cons b bs ih =>
    have hb : (m.set b.slots b.menu).get? slot =
        (([b].find? (·.slots.contains slot)).map (·.menu)).or (m.get? slot) := by
      rw [get?_set, List.find?_singleton]
      split <;> rfl
    rw [bindAll, List.foldl_cons, ← bindAll, ih, hb, List.reverse_cons, List.find?_append,
      Option.map_or, Option.or_assoc]

end Lookup

section Survivors

theorem without_without (r : RootMenu) (slots slots' : List Nat) :
    (r.without slots).without slots' = r.without (slots ++ slots') := by
  simp only [RootMenu.without, List.filter_filter, RootMenu.mk.injEq, and_true]
  congr 1
  funext slot
  rw [Bool.eq_iff_iff]
  simp [and_comm]

theorem without_nil (r : RootMenu) : r.without [] = r := by
  simp [RootMenu.without]

/-- One more menu takes its slots from the survivors and joins them. -/
theorem survivors_append_singleton (bs : List RootMenu) {b : RootMenu} (hb : b.slots ≠ []) :
    survivors (bs ++ [b]) =
      ((survivors bs).map (·.without b.slots)).filter (!·.slots.isEmpty) ++ [b] := by
  induction bs with
  | nil => simp [survivors, without_nil, hb]
  | cons a as ih =>
    have hleft : a.without ((as ++ [b]).flatMap (·.slots)) =
        (a.without (as.flatMap (·.slots))).without b.slots := by
      rw [List.flatMap_append, without_without]
      simp
    rw [List.cons_append, survivors, survivors, hleft, ih]
    by_cases hnone : (a.without (as.flatMap (·.slots))).slots = []
    · have hgone : ((a.without (as.flatMap (·.slots))).without b.slots).slots = [] := by
        rw [RootMenu.without, hnone]
        rfl
      simp [hnone, hgone]
    · by_cases hgone : ((a.without (as.flatMap (·.slots))).without b.slots).slots = []
      · simp [hnone, hgone]
      · simp [hnone, hgone]

theorem bindAll_append (m : RootMenus) (bs bs' : List RootMenu) :
    m.bindAll (bs ++ bs') = (m.bindAll bs).bindAll bs' :=
  List.foldl_append

/-- The entries of a registry in which every menu was bound to some slot. -/
theorem entries_bindAll (bs : List RootMenu) (hbs : ∀ b ∈ bs, b.slots ≠ []) :
    (bindAll {} bs).entries = survivors bs := by
  induction bs using List.reverseRecOn with
  | nil => rfl
  | append_singleton bs b ih =>
    have hb : b.slots ≠ [] := hbs b (by simp)
    have hrest := ih fun b' hb' => hbs b' (List.mem_append_left _ hb')
    rw [bindAll_append, survivors_append_singleton bs hb, ← hrest]
    rfl

theorem slots_ne_nil_of_mem_survivors {bs : List RootMenu} {r : RootMenu}
    (h : r ∈ survivors bs) : r.slots ≠ [] := by
  induction bs with
  | nil => contradiction
  | cons b bs ih =>
    simp only [survivors] at h
    split at h
    · exact ih h
    · rename_i hleft
      rcases List.mem_cons.mp h with rfl | h
      · simpa using hleft
      · exact ih h

theorem exists_of_mem_survivors {bs : List RootMenu} {r : RootMenu} (h : r ∈ survivors bs) :
    ∃ b ∈ bs, r.menu = b.menu ∧ r.slots ⊆ b.slots := by
  induction bs with
  | nil => contradiction
  | cons b bs ih =>
    have hlater : r ∈ survivors bs → ∃ b' ∈ b :: bs, r.menu = b'.menu ∧ r.slots ⊆ b'.slots := by
      intro hr
      obtain ⟨b', hb', hmenu, hslots⟩ := ih hr
      exact ⟨b', List.mem_cons_of_mem _ hb', hmenu, hslots⟩
    simp only [survivors] at h
    split at h
    · exact hlater h
    · rcases List.mem_cons.mp h with rfl | h
      · exact ⟨b, List.mem_cons_self, rfl, fun _ hslot => (List.mem_filter.mp hslot).1⟩
      · exact hlater h

/-- No slot survives twice. -/
theorem nodup_survivors (bs : List RootMenu) (hbs : ∀ b ∈ bs, b.slots.Nodup) :
    ((survivors bs).flatMap (·.slots)).Nodup := by
  induction bs with
  | nil => exact List.nodup_nil
  | cons b bs ih =>
    have hrest := ih fun b' hb' => hbs b' (List.mem_cons_of_mem _ hb')
    simp only [survivors]
    split
    · exact hrest
    · rw [List.flatMap_cons]
      refine List.nodup_append.mpr ⟨(hbs b List.mem_cons_self).filter _, hrest, ?_⟩
      rintro slot hslot slot' hlater rfl
      obtain ⟨r, hr, hmem⟩ := List.mem_flatMap.mp hlater
      obtain ⟨b', hb', -, hslots⟩ := exists_of_mem_survivors hr
      have htaken : slot ∈ bs.flatMap (·.slots) := List.mem_flatMap.mpr ⟨b', hb', hslots hmem⟩
      have hkept := (List.mem_filter.mp hslot).2
      simp [htaken] at hkept

/-- There are no more menus than slots. -/
theorem length_survivors_le (bs : List RootMenu) :
    (survivors bs).length ≤ ((survivors bs).flatMap (·.slots)).length := by
  have hone : ∀ r ∈ survivors bs, 1 ≤ r.slots.length := fun r hr =>
    List.length_pos_iff.mpr (slots_ne_nil_of_mem_survivors hr)
  generalize survivors bs = rs at hone
  induction rs with
  | nil => exact Nat.le_refl 0
  | cons r rs ih =>
    have hr := hone r List.mem_cons_self
    have hrs := ih fun r' hr' => hone r' (List.mem_cons_of_mem _ hr')
    simp only [List.flatMap_cons, List.length_cons, List.length_append]
    omega

end Survivors

end RootMenus

end DeskConfig
