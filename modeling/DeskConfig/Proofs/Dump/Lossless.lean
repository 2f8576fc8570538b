import DeskConfig.Proofs.Dump.FreeMenus

/-!
Nothing is lost in the written form of a configuration. Each of its members shows one part, the
parts make up the whole, and a text shows the value that it was written from; so different
configurations are written differently, and there is a way to read each of them back.
-/

namespace DeskConfig

open Function (Injective)

namespace FreeConfig

/-- Each member shows the part that it was written from, and the parts are all there is. -/
theorem toJson_injective : Injective toJson := by
  have hmapRootMenus : Injective (List.map FreeRootMenu.toJson) :=
    List.map_injective_iff.mpr FreeRootMenu.toJson_injective
  have hmapKeys : Injective (List.map KeyBinding.toJson) :=
    List.map_injective_iff.mpr KeyBinding.toJson_injective
  have hmapGroups : Injective (List.map Group.toJson) :=
    List.map_injective_iff.mpr Group.toJson_injective
  have hmapTrays : Injective (List.map Tray.toJson) :=
    List.map_injective_iff.mpr Tray.toJson_injective
  rintro ⟨⟨⟨fonts, colors, border, popup, taskInsert⟩, desktops, focusModel, snap, moveMode,
      resizeMode, doubleClick, iconPaths, themePaths, theme, commands, otherMenus, keys, groups,
      trays, confirmExit⟩, rootMenus, hbare⟩
    ⟨⟨⟨fonts', colors', border', popup', taskInsert'⟩, desktops', focusModel', snap', moveMode',
      resizeMode', doubleClick', iconPaths', themePaths', theme', commands', otherMenus', keys',
      groups', trays', confirmExit'⟩, rootMenus', hbare'⟩ h
  simp only [toJson, put, Config.members, List.map_cons, List.map_nil, String.reduceEq, ↓reduceIte,
    Json.obj.injEq, Json.arr.injEq, Json.str.injEq, Json.bool.injEq, List.cons.injEq,
    Prod.mk.injEq, true_and, and_true] at h
  obtain ⟨hfonts, hcolors, hborder, hdesktops, hfocus, hsnap, hmove, hresize, hclick, hpopup,
    hinsert, hicons, hthemes, htheme, hcommands, hrootMenus, hkeys, hgroups, htrays, rfl⟩ := h
  obtain rfl := Style.fontsJson_inj hfonts
  obtain rfl := Style.colorsJson_inj hcolors
  obtain rfl := Border.toJson_injective hborder
  obtain rfl := Desktops.toJson_injective hdesktops
  obtain rfl := FocusModel.name_injective hfocus
  obtain rfl := Snap.toJson_injective hsnap
  obtain rfl := Drag.toJson_injective hmove
  obtain rfl := Drag.toJson_injective hresize
  obtain rfl := DoubleClick.toJson_injective hclick
  obtain rfl := Popup.toJson_injective hpopup
  obtain rfl := TaskInsert.name_injective hinsert
  obtain rfl := Json.strings_injective hicons
  obtain rfl := Json.strings_injective hthemes
  obtain rfl := Json.optionalString_injective htheme
  obtain rfl := LifecycleCommands.toJson_injective hcommands
  obtain rfl := hmapRootMenus hrootMenus
  obtain rfl := hmapKeys hkeys
  obtain rfl := hmapGroups hgroups
  obtain rfl := hmapTrays htrays
  -- The root menus of the settings are not written, but then there are none.
  obtain rfl : otherMenus = otherMenus' := Eq.trans hbare hbare'.symm
  rfl

theorem dump_injective : Injective dump := by
  intro c d h
  exact toJson_injective (Json.render_injective h)

end FreeConfig

namespace Config

/-- A configuration is its settings and its root menus. -/
theorem free_injective : Injective free := by
  rintro ⟨style, desktops, focusModel, snap, moveMode, resizeMode, doubleClick, iconPaths,
      themePaths, theme, commands, ⟨entries⟩, keys, groups, trays, confirmExit⟩
    ⟨style', desktops', focusModel', snap', moveMode', resizeMode', doubleClick', iconPaths',
      themePaths', theme', commands', ⟨entries'⟩, keys', groups', trays', confirmExit'⟩ h
  have hmenus : Injective (List.map RootMenu.free) :=
    List.map_injective_iff.mpr RootMenu.free_injective
  simp only [free, FreeConfig.mk.injEq, hmenus.eq_iff] at h
  obtain ⟨hsettings, rfl⟩ := h
  cases hsettings
  rfl

theorem toJson_free (c : Config) : c.free.toJson = c.toJson := by
  have hmenus : c.rootMenus.entries.map (fun r => r.free.toJson) =
      c.rootMenus.entries.map RootMenu.toJson :=
    List.map_congr_left fun r _ => r.toJson_free
  simp [FreeConfig.toJson, FreeConfig.put, toJson, members, free, RootMenus.toJson, hmenus,
    Function.comp_def]

/-- A configuration is written as the free one that stands for it. -/
theorem dump_free (c : Config) : c.free.dump = c.dump := by
  rw [FreeConfig.dump, toJson_free, dump]

end Config

/-- The written form of a configuration tells all of it, whatever the items of its menus may be:
no two configurations are written as the same text, and there is a way to read a configuration
back from its text. Those that are built are among these, and are written as they are. -/
theorem dump_is_lossless :
    Injective FreeConfig.dump ∧
    (∃ decode : String → Option FreeConfig, ∀ c : FreeConfig, decode c.dump = some c) ∧
    Injective Config.free ∧ (∀ c : Config, c.free.dump = c.dump) ∧ Injective Config.dump := by
  refine ⟨FreeConfig.dump_injective, ?_, Config.free_injective, Config.dump_free, ?_⟩
  · exact ⟨Function.partialInv FreeConfig.dump,
      Function.partialInv_left FreeConfig.dump_injective⟩
  · intro c d h
    rw [← Config.dump_free c, ← Config.dump_free d] at h
    exact Config.free_injective (FreeConfig.dump_injective h)

/-- A root menu of one separator, with a menu under it that is empty, is not taken for one with a
plain separator; leaving without a command is not taken for leaving with an empty one; and a key
for any desktop is not taken for one that goes to the first. -/
theorem dump_is_lossless_absent_values :
    (∃ decode : String → Option FreeConfig,
      decode (Config.free {}).dump = some (Config.free {})) ∧
    (FreeConfig.mk {} [⟨[1], none, 0, [.holding .separator none none none none 0 []]⟩] rfl).dump ≠
      (FreeConfig.mk {} [⟨[1], none, 0, [.single .separator none none none]⟩] rfl).dump ∧
    (FreeConfig.mk {} [⟨[1], none, 0, [.single .normal none none (some (.exit none))]⟩] rfl).dump ≠
      (FreeConfig.mk {} [⟨[1], none, 0, [.single .normal none none (some (.exit (some "")))]⟩]
        rfl).dump ∧
    ({ keys := [⟨.desktop none, none, none, none, none, ⟨"f", 1⟩⟩] } : Config).dump ≠
      ({ keys := [⟨.desktop (some 0), none, none, none, none, ⟨"f", 1⟩⟩] } : Config).dump := by
  obtain ⟨hfree, ⟨decode, hdecode⟩, -, -, hbuilt⟩ := dump_is_lossless
  refine ⟨⟨decode, hdecode _⟩, ?_, ?_, ?_⟩
  · intro h
    have hsame := hfree h
    simp at hsame
  · intro h
    have hsame := hfree h
    simp at hsame
  · intro h
    have hsame := congrArg Config.keys (hbuilt h)
    simp at hsame

end DeskConfig
