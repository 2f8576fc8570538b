import DeskConfig.Proofs.Include.TextFiles
import DeskConfig.Proofs.Load.Commands
import DeskConfig.Proofs.Settings.StyleTexts

/-!
The last declaration counts. A font, a color and the theme are the last text that a walk comes
to for them, and exits are confirmed unless the last exit entry that it comes to says otherwise,
wherever these stand: in an included document, in a submenu, or in a root menu that is bound
to nothing.
-/

namespace DeskConfig

open Markup (Element)

namespace Pending

/-- The texts that an element gives to a setting of the style. -/
def texts (setting : Style.Setting) (p : Pending) : List String :=
  match p.standing with
  | .child => Style.texts setting p.element
  | _ => []

def theme? (p : Pending) : Option String :=
  match p.standing, p.element.tag with
  | .child, .theme => p.element.text
  | _, _ => none

/-- An exit entry among the items of a menu. -/
def isExit (p : Pending) : Bool :=
  match p.standing, p.element.tag with
  | .item _, .exit => true
  | _, _ => false

/-- An exit entry is confirmed unless its first attribute of that name says no. -/
def confirms (p : Pending) : Bool := p.element.attribute? "confirm" != some "false"

variable (world : World) (c : Config) (p : Pending)

theorem text?_effect {setting : Style.Setting} (h : setting.IsText) :
    (p.effect world c).style.text? setting =
      (p.texts setting).getLast?.or (c.style.text? setting) := by
  obtain ⟨depth, standing, e⟩ := p
  cases standing with
  | top => rfl
  | child => simp only [effect, texts, Config.style_declare, Style.text?_read h]
  | item level => rfl

theorem theme_effect :
    (p.effect world c).theme = p.theme?.toList.getLast?.or c.theme := by
  obtain ⟨depth, standing, e⟩ := p
  cases standing with
  | top => rfl
  | child =>
    by_cases htheme : e.tag = .theme
    · cases htext : e.text <;> simp [effect, theme?, Config.theme_declare, htheme, htext]
    · simp [effect, theme?, Config.theme_declare, htheme]
  | item level => rfl

theorem confirmExit_effect : some (p.effect world c).confirmExit =
    (([p].filter (·.isExit)).map (·.confirms)).getLast?.or (some c.confirmExit) := by
  obtain ⟨depth, standing, e⟩ := p
  cases standing with
  | top => rfl
  | child => simp [effect, isExit, Config.confirmExit_declare]
  | item level =>
    by_cases hexit : e.tag = .exit
    · simp [effect, isExit, confirms, Menu.confirmation?, hexit]
    · simp [effect, isExit, Menu.confirmation?, hexit]

end Pending

/-- What each element overrides with the last thing it says is in the end the last thing that
any of them said. -/
theorem Config.last_after {world : World} (look : Config → Option α) {given : Pending → List α}
    (hstep : ∀ c (p : Pending), look (p.effect world c) = (given p).getLast?.or (look c))
    (visited : List Pending) (c : Config) :
    look (c.after world visited) = (visited.flatMap given).getLast?.or (look c) := by
  induction visited generalizing c with
  | nil => rfl
  | cons p visited ih =>
    rw [after_cons, ih, hstep, List.flatMap_cons, List.getLast?_append, Option.or_assoc]

/-- For every font, every color and the theme, a load gives the last text that its walk came
to, if there is any. Exits are confirmed unless the walk came to exit entries and the last of
them is not to be confirmed. The walk comes to whatever stands in its documents, with included
documents in place; there is only one way through. -/
theorem last_declaration_counts {world : World} {o : Options} {label text : String} {l : Load}
    {loaded : Loaded} (h : LoadOf world o label text l) (hok : l.outcome = .ok loaded) :
    ∃ visited, Tours world o.limits (.ofRoot label text) visited ⟨[], l.calls⟩ ∧
      (∀ visited' left, Tours world o.limits (.ofRoot label text) visited' left →
        left.Ended world o.limits → visited' = visited) ∧
      (∀ role, loaded.config.style.fonts.get? role =
        (visited.flatMap (·.texts (.font role))).getLast?) ∧
      (∀ role, loaded.config.style.colors.get? role =
        (visited.flatMap (·.texts (.color role))).getLast?) ∧
      loaded.config.theme = (visited.filterMap (·.theme?)).getLast? ∧
      loaded.config.confirmExit = (visited.filter (·.isExit)).getLast?.all (·.confirms) := by
  obtain ⟨hwalked, hconfig⟩ := h.walked hok
  obtain ⟨visited, hvisits, hafter⟩ := goesThrough_walkText world o label text
  obtain ⟨left, htour, hleft, -⟩ := hvisits []
  rw [List.append_nil, List.nil_append, ← h.calls_eq, hleft hwalked] at htour
  -- The checks at the end and the binding of menus change none of what is looked at.
  have hstyle : loaded.config.style = (({} : Config).after world visited).style := by
    rw [hconfig]
    exact congrArg (·.style) hafter
  have htheme : loaded.config.theme = (({} : Config).after world visited).theme := by
    rw [hconfig]
    exact congrArg (·.theme) hafter
  have hconfirm : loaded.config.confirmExit =
      (({} : Config).after world visited).confirmExit := by
    rw [hconfig]
    exact congrArg (·.confirmExit) hafter
  have htexts : ∀ setting : Style.Setting, setting.IsText → loaded.config.style.text? setting =
      (visited.flatMap (·.texts setting)).getLast? := by
    intro setting hsetting
    rw [hstyle, Config.last_after (·.style.text? setting)
      (fun c p => Pending.text?_effect world c p hsetting)]
    cases setting <;> exact Option.or_none
  refine ⟨visited, htour, ?_, fun role => htexts (.font role) trivial,
    fun role => htexts (.color role) trivial, ?_, ?_⟩
  · intro visited' left' htour' hended'
    exact (htour'.unique hended' htour nofun).1
  · rw [htheme, Config.last_after (·.theme) (Pending.theme_effect world),
      ← List.filterMap_eq_flatMap_toList]
    exact Option.or_none
  · have hlast := Config.last_after (fun c => some c.confirmExit)
      (Pending.confirmExit_effect world) visited {}
    rw [← List.map_flatMap, ← List.filter_flatMap, List.flatMap_singleton', List.getLast?_map]
      at hlast
    rw [hconfirm]
    cases hexit : (visited.filter (·.isExit)).getLast? <;> simpa [hexit] using hlast

/-- Fonts and themes that are declared twice or without text, and a root menu without slots
that a command prints the items of. -/
def repeatedText : String :=
  "<JWM><MenuStyle><Font>a</Font></MenuStyle><MenuStyle><Font>b</Font><Font/></MenuStyle>" ++
    "<Theme>t</Theme><Theme/>" ++
    "<RootMenu onroot=\"x\"><Exit/><Include>exec:menu</Include></RootMenu></JWM>"

/-- A world without files, in which every command prints an exit entry in a submenu. -/
def exitMenuWorld : World where
  files := fun _ _ => none
  environment := { entries := [] }
  run := fun _ _ =>
    some { output := "<Menu><Menu><Exit confirm=\"false\" confirm=\"true\"/></Menu></Menu>" }

theorem last_declaration_counts_repeated :
    ∃ loaded visited,
      (loadText exitMenuWorld (.default { entries := [] }) "jwmrc" repeatedText).outcome =
        .ok loaded ∧
      Tours exitMenuWorld (Options.default { entries := [] }).limits (.ofRoot "jwmrc" repeatedText)
        visited ⟨[], [⟨"/bin/sh", "menu"⟩]⟩ ∧
      (visited.flatMap (·.texts (.font .menu))).getLast? = some "b" ∧
      (visited.filterMap (·.theme?)).getLast? = some "t" ∧
      (visited.filter (·.isExit)).getLast?.all (·.confirms) = false ∧
      loaded.config.rootMenus.entries.length = 0 := by
  have hheld : LoadOf exitMenuWorld (.default { entries := [] }) "jwmrc" repeatedText
      (loadText exitMenuWorld (.default { entries := [] }) "jwmrc" repeatedText) :=
    .held "jwmrc" repeatedText
  obtain ⟨hstopped, hcalls, hfont, htheme, hconfirm, hmenus⟩ :
      let p := Load.walkText exitMenuWorld (.default { entries := [] }) "jwmrc" repeatedText
      p.stopped = false ∧ p.journal.calls = [⟨"/bin/sh", "menu"⟩] ∧
        p.config.checkKeys.value.style.fonts.get? .menu = some "b" ∧
        p.config.checkKeys.value.theme = some "t" ∧
        p.config.checkKeys.value.confirmExit = false ∧
        p.config.checkKeys.value.rootMenus.entries.length = 0 := by decide +kernel
  obtain ⟨loaded, hok⟩ := exists_loaded_of_not_stopped hstopped
  obtain ⟨visited, htour, -, hfonts, -, htheme', hconfirm'⟩ := last_declaration_counts hheld hok
  rw [hheld.calls_eq, hcalls] at htour
  rw [← (hheld.walked hok).2] at hfont htheme hconfirm hmenus
  refine ⟨loaded, visited, hok, htour, ?_, ?_, ?_, hmenus⟩
  · rw [← hfonts, hfont]
  · rw [← htheme', htheme]
  · rw [← hconfirm', hconfirm]

end DeskConfig
