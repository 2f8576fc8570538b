import DeskConfig.Proofs.Include.TextFiles
import DeskConfig.Proofs.Load.Result
import DeskConfig.Proofs.Menus.Binding
import DeskConfig.Proofs.Settings.Declarations

/-!
The root menus of a load. A load binds the menus of its root menu elements in the order in
which its walk comes to them, so a slot leads to the last of them that names it, and each
slot is bound at most once.
-/

namespace DeskConfig

open Markup (Element)

namespace Step

/-- The root menu that a step builds, with the slots that it names. -/
def rootMenu (s : Step) : RootMenu where
  slots := (Menu.slotsOf s.element).value
  menu := Menu.builtFrom s.includes.inMenu s.element s.history

/-- The digit of a slot stands in the slot text. -/
def namesSlot (s : Step) (slot : Nat) : Bool :=
  slot ≤ 9 && (Menu.slotText s.element).toList.contains (Nat.digitChar slot)

theorem contains_slots_rootMenu (s : Step) (slot : Nat) :
    s.rootMenu.slots.contains slot = s.namesSlot slot := by
  rw [Bool.eq_iff_iff, List.contains_iff_mem, rootMenu, Menu.mem_slotsOf, namesSlot,
    Bool.and_eq_true, decide_eq_true_eq, List.contains_iff_mem]

end Step

/-- The steps that build root menus, in order. -/
def rootMenuSteps (steps : List Step) : List Step :=
  steps.filter (·.element.tag = .rootMenu)

/-- The menus that are bound to some slot. -/
def bindings (steps : List Step) : List RootMenu :=
  ((rootMenuSteps steps).map Step.rootMenu).filter (!·.slots.isEmpty)

section Steps

variable {world : World} {limits : Limits}

/-- A step that goes through binds its root menu, if it builds one. -/
theorem rootMenus_result {s : Step} (hs : (s.result world).stopped = false)
    (hi : s.element.tag ≠ .include) :
    (s.result world).config.rootMenus = s.config.rootMenus.bindAll (bindings [s]) := by
  by_cases hm : s.element.tag = .rootMenu
  · have hsteps : bindings [s] = [s.rootMenu].filter (!·.slots.isEmpty) := by
      simp [bindings, rootMenuSteps, hm]
    rw [Step.result, walkElement_rootMenu hm] at hs ⊢
    rw [config_rootMenu, hs, hsteps]
    by_cases hslots : s.rootMenu.slots = []
    · have hvalue : (Menu.slotsOf s.element).value = [] := hslots
      simp [hslots, hvalue, RootMenus.bindAll]
    · have hvalue : (Menu.slotsOf s.element).value ≠ [] := hslots
      simp [hvalue, RootMenus.bindAll, Step.rootMenu]
  · have hsteps : bindings [s] = [] := by simp [bindings, rootMenuSteps, hm]
    rw [Step.result, walkElement_declaration hm hi, hsteps]
    exact Config.rootMenus_declare world .jwm s.element s.config

theorem bindings_cons (s : Step) (steps : List Step) :
    bindings (s :: steps) = bindings [s] ++ bindings steps := by
  simp only [bindings, rootMenuSteps, ← List.filter_append, ← List.map_append,
    List.singleton_append]

theorem Follows.rootMenus {steps : List Step} {c c' : Config} (h : Follows world c steps c')
    (hthrough : ∀ s ∈ steps, (s.result world).stopped = false)
    (hi : ∀ s ∈ steps, s.element.tag ≠ .include) :
    c'.rootMenus = c.rootMenus.bindAll (bindings steps) := by
  induction h with
  | nil => rfl
  | @cons s steps c' _ ih =>
    have hs := rootMenus_result (hthrough s List.mem_cons_self) (hi s List.mem_cons_self)
    have hrest := ih (fun s' hs' => hthrough s' (List.mem_cons_of_mem _ hs'))
      (fun s' hs' => hi s' (List.mem_cons_of_mem _ hs'))
    rw [hrest, hs, bindings_cons s steps, RootMenus.bindAll_append]

/-- Checking keys leaves the menus alone. -/
theorem Config.rootMenus_checkKeys (c : Config) : c.checkKeys.value.rootMenus = c.rootMenus := rfl

/-- A load that succeeds has bound the menus of its steps. -/
theorem LoadOf.rootMenus {o : Options} {label text : String} {l : Load} {loaded : Loaded}
    (h : LoadOf world o label text l) (hok : l.outcome = .ok loaded) :
    loaded.config.rootMenus = RootMenus.bindAll {} (bindings (Load.steps world o label text)) := by
  obtain ⟨hs, hconfig⟩ := h.walked hok
  have htraces := traces_walkText world o label text
  have hmenus := htraces.follows.rootMenus (htraces.through hs)
    fun s hmem => (htraces.arises s hmem).not_include
  rw [hconfig, Config.rootMenus_checkKeys]
  exact hmenus

end Steps

section Bindings

variable (steps : List Step)

theorem mem_bindings {steps : List Step} {b : RootMenu} (h : b ∈ bindings steps) :
    ∃ s ∈ steps, b = s.rootMenu := by
  obtain ⟨s, hs, rfl⟩ := List.mem_map.mp (List.mem_filter.mp h).1
  exact ⟨s, (List.mem_filter.mp hs).1, rfl⟩

theorem slots_ne_nil_of_mem_bindings {steps : List Step} {b : RootMenu}
    (h : b ∈ bindings steps) : b.slots ≠ [] := by
  simpa using (List.mem_filter.mp h).2

/-- Menus without slots are no different from menus that are not there. -/
theorem survivors_filter (bs : List RootMenu) :
    RootMenus.survivors (bs.filter (!·.slots.isEmpty)) = RootMenus.survivors bs := by
  have hslots : ∀ bs : List RootMenu,
      (bs.filter (!·.slots.isEmpty)).flatMap (·.slots) = bs.flatMap (·.slots) := by
    intro bs
    induction bs with
    | nil => rfl
    | cons b bs ih => by_cases hb : b.slots = [] <;> simp [hb, ih]
  induction bs with
  | nil => rfl
  | cons b bs ih =>
    by_cases hb : b.slots = []
    · simp [hb, ih, RootMenus.survivors, RootMenu.without]
    · simp [hb, ih, RootMenus.survivors, hslots]

theorem find?_bindings (slot : Nat) :
    ((bindings steps).reverse.find? (·.slots.contains slot)).map (·.menu) =
      ((rootMenuSteps steps).reverse.find? (·.namesSlot slot)).map (·.rootMenu.menu) := by
  have hfind : ∀ b : RootMenu,
      (!b.slots.isEmpty && b.slots.contains slot) = b.slots.contains slot := by
    intro b
    cases hb : b.slots <;> simp
  rw [bindings, ← List.filter_reverse, ← List.map_reverse, List.find?_filter]
  simp only [Bool.decide_and, Bool.decide_eq_true, hfind, List.find?_map, Function.comp_def,
    Step.contains_slots_rootMenu, Option.map_map]

end Bindings

section Entries

variable {world : World} {o : Options} {label text : String} {l : Load} {loaded : Loaded}

theorem LoadOf.entries (h : LoadOf world o label text l) (hok : l.outcome = .ok loaded) :
    loaded.config.rootMenus.entries =
      RootMenus.survivors (bindings (Load.steps world o label text)) := by
  rw [h.rootMenus hok, RootMenus.entries_bindAll]
  exact fun b hb => slots_ne_nil_of_mem_bindings hb

/-- Every menu in the registry was built by a step of the walk. -/
theorem LoadOf.exists_step (h : LoadOf world o label text l) (hok : l.outcome = .ok loaded)
    {r : RootMenu} (hr : r ∈ loaded.config.rootMenus.entries) :
    ∃ s ∈ Load.steps world o label text,
      r.menu = s.rootMenu.menu ∧ r.slots ⊆ s.rootMenu.slots := by
  rw [h.entries hok] at hr
  obtain ⟨b, hb, hmenu, hslots⟩ := RootMenus.exists_of_mem_survivors hr
  obtain ⟨s, hs, rfl⟩ := mem_bindings hb
  exact ⟨s, hs, hmenu, hslots⟩

end Entries

/-- Over any sequence of bindings, a slot leads to the menu of the last one that has it.
After a load, the registry holds the menus of the root menu elements that the walk came to,
oldest first and each with the slots that no later one has taken, so that each of the ten
slots is bound at most once and leads to the last menu that names it. -/
theorem last_binding_wins :
    (∀ (bs : List RootMenu) (slot : Nat),
      (RootMenus.bindAll {} bs).get? slot =
        (bs.reverse.find? (·.slots.contains slot)).map (·.menu) ∧
      (RootMenus.bindAll {} bs).isDefined slot = bs.any (·.slots.contains slot)) ∧
    ∀ (world : World) (o : Options) (label text : String) (l : Load) (loaded : Loaded),
      LoadOf world o label text l → l.outcome = .ok loaded →
      (∀ r ∈ loaded.config.rootMenus.entries, r.slots ≠ [] ∧ ∀ slot ∈ r.slots, slot ≤ 9) ∧
      (loaded.config.rootMenus.entries.flatMap (·.slots)).Nodup ∧
      loaded.config.rootMenus.entries.length ≤ 10 ∧
      loaded.config.rootMenus.entries = RootMenus.survivors
        ((rootMenuSteps (Load.steps world o label text)).map Step.rootMenu) ∧
      ∀ slot, loaded.config.rootMenus.get? slot =
        ((rootMenuSteps (Load.steps world o label text)).reverse.find?
          (·.namesSlot slot)).map (·.rootMenu.menu) := by
  have hget : ∀ (bs : List RootMenu) (slot : Nat), (RootMenus.bindAll {} bs).get? slot =
      (bs.reverse.find? (·.slots.contains slot)).map (·.menu) := by
    intro bs slot
    rw [RootMenus.get?_bindAll]
    exact Option.or_none
  refine ⟨?_, ?_⟩
  · intro bs slot
    refine ⟨hget bs slot, ?_⟩
    rw [RootMenus.isDefined, hget, Option.isSome_map, Bool.eq_iff_iff, List.find?_isSome]
    simp
  · intro world o label text l loaded h hok
    have hentries := h.entries hok
    have hdigit : ∀ r ∈ loaded.config.rootMenus.entries, ∀ slot ∈ r.slots, slot ≤ 9 := by
      intro r hr slot hslot
      obtain ⟨s, -, -, hslots⟩ := h.exists_step hok hr
      exact (Menu.mem_slotsOf.mp (hslots hslot)).1
    have hnodup : (loaded.config.rootMenus.entries.flatMap (·.slots)).Nodup := by
      rw [hentries]
      refine RootMenus.nodup_survivors _ ?_
      intro b hb
      obtain ⟨s, -, rfl⟩ := mem_bindings hb
      exact Menu.nodup_slotsOf s.element
    have hrange : loaded.config.rootMenus.entries.flatMap (·.slots) ⊆ List.range 10 := by
      intro slot hslot
      obtain ⟨r, hr, hmem⟩ := List.mem_flatMap.mp hslot
      exact List.mem_range.mpr (Nat.lt_succ_of_le (hdigit r hr slot hmem))
    refine ⟨?_, hnodup, ?_, ?_, ?_⟩
    · intro r hr
      refine ⟨?_, hdigit r hr⟩
      rw [hentries] at hr
      exact RootMenus.slots_ne_nil_of_mem_survivors hr
    · have hslots := (hnodup.subperm hrange).length_le
      rw [List.length_range, hentries] at hslots
      rw [hentries]
      exact (RootMenus.length_survivors_le _).trans hslots
    · rw [hentries, bindings, survivors_filter]
    · intro slot
      rw [h.rootMenus hok, hget, find?_bindings]

/-- Two root menus that share a slot, the second one with a slot that is no digit. -/
def sharedText : String :=
  "<JWM><RootMenu onroot=\"12\" labeled=\"true\" label=\"old\"/>" ++
    "<RootMenu onroot=\"2x\" labeled=\"true\" label=\"new\"/></JWM>"

/-- The second menu takes the slot that both name, and the first one keeps the other. -/
theorem last_binding_wins_shared :
    ∃ loaded, (loadText (World.holding "" "") (.default { entries := [] }) "jwmrc"
        sharedText).outcome = .ok loaded ∧
      (loaded.config.rootMenus.entries.flatMap (·.slots)).Nodup ∧
      loaded.config.rootMenus.entries.length ≤ 10 ∧
      (loaded.config.rootMenus.get? 1).map (·.label) = some (some "old") ∧
      (loaded.config.rootMenus.get? 2).map (·.label) = some (some "new") ∧
      (loaded.config.rootMenus.get? 3).isNone := by
  have hload : (Load.walkText (World.holding "" "") (.default { entries := [] }) "jwmrc"
      sharedText).stopped = false := by decide +kernel
  have hfound : [1, 2, 3].map (fun slot =>
      ((rootMenuSteps (Load.steps (World.holding "" "") (.default { entries := [] }) "jwmrc"
        sharedText)).reverse.find? (·.namesSlot slot)).map (·.rootMenu.menu.label)) =
      [some (some "old"), some (some "new"), none] := by
    decide +kernel
  obtain ⟨loaded, hok⟩ := exists_loaded_of_not_stopped hload
  obtain ⟨-, hnodup, hlength, -, hget⟩ :=
    last_binding_wins.2 _ _ _ _ _ loaded (.held "jwmrc" sharedText) hok
  have hlabels : [1, 2, 3].map (fun slot =>
      (loaded.config.rootMenus.get? slot).map (·.label)) =
      [some (some "old"), some (some "new"), none] := by
    simpa only [hget, Option.map_map, Function.comp_def] using hfound
  simp only [List.map_cons, List.map_nil, List.cons.injEq, Option.map_eq_none_iff, and_true]
    at hlabels
  obtain ⟨hone, htwo, hthree⟩ := hlabels
  exact ⟨loaded, hok, hnodup, hlength, hone, htwo, Option.isNone_iff_eq_none.mpr hthree⟩

end DeskConfig
