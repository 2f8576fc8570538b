import DeskConfig.Proofs.Load.Keys
import DeskConfig.Proofs.Load.Trays
import DeskConfig.Proofs.Settings.MenuReferences
import DeskConfig.Proofs.Walk.Warnings

/-!
The references to root menus of a load. No walk looks at them, so it does not matter what is
bound when one is read: the checks at the end compare all of them, of key bindings and tray
buttons alike, with the root menus that there are then.
-/

namespace DeskConfig

open Markup (Element)

/-- A walk does not warn of references to root menus. -/
theorem filter_diagnostics_walkText (world : World) (o : Options) (label text : String) :
    (Load.walkText world o label text).journal.diagnostics.filter
      (·.problem.isMenuReference) = [] := by
  have hsound := (sound_walkText world o label text).journal
  exact List.filter_eq_nil_iff.mpr fun d hd => Bool.eq_false_iff.mp (hsound.early d hd)

theorem Config.filter_checkTrayButtons (c : Config) :
    c.checkTrayButtons.filter (·.problem.isMenuReference) =
      ((c.trays.flatMap Tray.buttons).filterMap TrayButton.menuReference?).filterMap
        (·.warning? c.rootMenus) := by
  have hall : c.checkTrayButtons =
      ((c.trays.flatMap Tray.buttons).filterMap TrayButton.menuReference?).filterMap
        (·.warning? c.rootMenus) := by
    rw [checkTrayButtons, List.filterMap_filterMap]
    exact List.filterMap_congr fun b _ => b.missingMenu?_eq c.rootMenus
  rw [hall]
  refine List.filter_eq_self.mpr fun d hd => ?_
  obtain ⟨r, -, hr⟩ := List.mem_filterMap.mp hd
  obtain ⟨cause, -, rfl⟩ := MenuReference.warning?_eq_some_iff.mp hr
  rfl

section Loads

variable {world : World} {o : Options} {label text : String} {l : Load} {loaded : Loaded}

/-- The buttons of a load are those that its trays keep. -/
theorem LoadOf.buttons (h : LoadOf world o label text l) (hok : l.outcome = .ok loaded) :
    loaded.config.trays.flatMap Tray.buttons =
      ((Load.placings world o label text).flatten.filterMap (·.kept?)).filterMap
        TrayComponent.button? := by
  have htrays := congrArg (·.flatMap (·.filterMap TrayComponent.button?)) (h.trays hok)
  rw [List.filterMap_flatten, List.filterMap_flatten]
  rw [List.flatMap_map] at htrays
  exact htrays.trans List.flatMap_def

/-- The warnings about root menus are those of the checks, with the menus of the result. -/
theorem LoadOf.filter_diagnostics (h : LoadOf world o label text l)
    (hok : l.outcome = .ok loaded) :
    l.diagnostics.filter (·.problem.isMenuReference) =
      loaded.config.menuReferences.filterMap (·.warning? loaded.config.rootMenus) := by
  rw [h.diagnostics_of_ok hok, List.filter_append, filter_diagnostics_walkText, List.nil_append,
    List.filter_append, Config.filter_checkTrayButtons, (h.walked hok).2,
    Config.menuReferences, List.filterMap_append]
  refine congrArg _ ?_
  simp only [Config.checkKeys, Reading.warnings_bind, Reading.warnings_pure, List.append_nil]
  exact KeyBinding.filter_warnings_checkAll _ _

end Loads

/-- What a load reports of root menus is what is wrong with the references in its result, as
compared with the root menus in its result: an empty text of slots, or the first slot without
a menu. Each key binding for root menus and each tray button with the mark of one makes one
reference, reported at its element, and the same slots are judged the same in both. -/
theorem menu_references_are_checked_last {world : World} {o : Options} {label text : String}
    {l : Load} {loaded : Loaded} (h : LoadOf world o label text l)
    (hok : l.outcome = .ok loaded) :
    let menus := loaded.config.rootMenus
    l.diagnostics.filter (·.problem.isMenuReference) =
        loaded.config.menuReferences.filterMap (·.warning? menus) ∧
      (∀ (r : MenuReference) d, r.warning? menus = some d ↔
        ∃ cause, menus.Misses r.slots cause ∧
          d = .located r.origin (.missingMenu r.referrer cause)) ∧
      (∀ slots, (∃ cause, menus.Misses slots cause) ↔
        slots = "" ∨ ∃ c ∈ slots.toList, ¬ menus.Binds c) ∧
      (∀ b ∈ loaded.config.keys,
        ∃ s ∈ keySteps (Load.steps world o label text), KeyBinding.Of s.element b ∧
          ∀ r, b.menuReference? = some r ↔ b.action = .root ∧
            ∃ slots, b.command = some slots ∧ r = ⟨.keyBinding, slots, s.element.origin⟩) ∧
      ∀ b ∈ loaded.config.trays.flatMap Tray.buttons,
        ∃ p ∈ (Load.placings world o label text).flatten, p.kept? = some (.button b) ∧
          p.element.tag = .trayButton ∧ b.action = p.element.text ∧
          ∀ r, b.menuReference? = some r ↔
            ∃ slots, b.action = some (KeyAction.rootMark ++ slots) ∧
              r = ⟨.trayButton, slots, p.element.origin⟩ := by
  refine ⟨h.filter_diagnostics hok, fun _ _ => MenuReference.warning?_eq_some_iff,
    fun _ => RootMenus.exists_misses_iff, ?_, ?_⟩
  · intro b hb
    rw [h.keys hok] at hb
    obtain ⟨s, hs, hread⟩ := List.mem_filterMap.mp hb
    have hof := KeyBinding.of?_eq_some_iff.mp hread
    refine ⟨s, hs, hof, fun r => ?_⟩
    rw [← hof.origin]
    exact hof.menuReference?_eq_some_iff
  · intro b hb
    rw [h.buttons hok] at hb
    obtain ⟨component, hcomponent, hbutton⟩ := List.mem_filterMap.mp hb
    obtain ⟨p, hp, hkept⟩ := List.mem_filterMap.mp hcomponent
    have hcomponent : component = .button b := TrayComponent.button?_eq_some_iff.mp hbutton
    subst hcomponent
    obtain ⟨htag, haction, horigin⟩ := Tray.Placing.button_of_kept? hkept
    refine ⟨p, hp, hkept, htag, haction, fun r => ?_⟩
    rw [← horigin]
    exact TrayButton.menuReference?_eq_some_iff

/-- A slot is named by a key before its menu is bound and by another one after it; a second
slot has no menu. -/
def referencesText : String :=
  "<JWM><Key key=\"F1\">root:12</Key><Tray><TrayButton label=\"m\">root:12</TrayButton></Tray>" ++
    "<RootMenu onroot=\"1\"/><Key key=\"F2\">root:1</Key></JWM>"

theorem menu_references_are_checked_last_around :
    ∃ loaded, (loadText (World.holding "" "") (.default { entries := [] }) "jwmrc"
        referencesText).outcome = .ok loaded ∧
      (loadText (World.holding "" "") (.default { entries := [] }) "jwmrc"
        referencesText).diagnostics.filter (·.problem.isMenuReference) =
          [.located ⟨"jwmrc", 1⟩ (.missingMenu .trayButton (.undefined '2')),
            .located ⟨"jwmrc", 1⟩ (.missingMenu .keyBinding (.undefined '2'))] := by
  obtain ⟨hload, hreported⟩ :
      (Load.walkText (World.holding "" "") (.default { entries := [] }) "jwmrc"
        referencesText).stopped = false ∧
      let config := (Load.walkText (World.holding "" "") (.default { entries := [] }) "jwmrc"
        referencesText).config.checkKeys.value
      config.menuReferences.filterMap (·.warning? config.rootMenus) =
        [.located ⟨"jwmrc", 1⟩ (.missingMenu .trayButton (.undefined '2')),
          .located ⟨"jwmrc", 1⟩ (.missingMenu .keyBinding (.undefined '2'))] := by
    decide +kernel
  have hheld : LoadOf (World.holding "" "") (.default { entries := [] }) "jwmrc" referencesText
      (loadText (World.holding "" "") (.default { entries := [] }) "jwmrc" referencesText) :=
    .held "jwmrc" referencesText
  obtain ⟨loaded, hok⟩ := exists_loaded_of_not_stopped hload
  refine ⟨loaded, hok, (menu_references_are_checked_last hheld hok).1.trans ?_⟩
  rw [(hheld.walked hok).2]
  exact hreported

end DeskConfig
