import DeskConfig.Proofs.Include.TextFiles
import DeskConfig.Proofs.Load.Result
import DeskConfig.Proofs.Menus.Binding
import DeskConfig.Proofs.Settings.Ranges

/-!
The bounds of a load. A walk starts out with settings within their ranges, and neither a
declaration nor a root menu takes them out of these, not even halfway through its
children. So the settings are in range all along the walk and in its result.
-/

namespace DeskConfig

open Markup (Element Tag)

/-- The element as it would be with the first of its children only. -/
def Markup.Element.upTo (count : Nat) (e : Element) : Element :=
  { e with children := e.children.take count }

/-- All texts that a declaration reads are trimmed. -/
theorem Markup.Element.Placed.trimmed {e : Element} (h : e.Placed) :
    e.HasTrimmedText ∧ ∀ e' ∈ e.children, e'.HasTrimmedText := by
  obtain ⟨label, text, document, top, hparse, htop, he⟩ := h
  have htrimmed := Markup.allTrimmed_of_parse hparse
  refine ⟨htrimmed e (.child htop (.top he)), ?_⟩
  intro e' he'
  exact htrimmed e' (.child htop (.child he (.top he')))

/-- The configurations that a walk has while it takes a step. A declaration takes effect
at once or child by child, a snap distance before its mode; a root menu has no effect but
that of its exit entries until it is bound. -/
inductive Step.Passes (world : World) (s : Step) : Config → Prop
  | before : Passes world s s.config
  | partly (count : Nat) : s.element.tag ≠ .rootMenu →
      Passes world s (s.config.declare world .jwm (s.element.upTo count)).value
  | measured : s.element.tag = .snapMode →
      Passes world s
        { s.config with snap.distance := (Snap.read s.element s.config.snap).value.distance }
  | building (confirm : Bool) : s.element.tag = .rootMenu →
      Passes world s { s.config with confirmExit := confirm }
  | after : Passes world s (s.result world).config

section Steps

variable {world : World} {limits : Limits} {s : Step}

/-- A step leaves settings in range that it finds in range. -/
theorem Step.result_inRange (hs : s.Arises world limits) (h : s.config.InRange) :
    (s.result world).config.InRange := by
  by_cases hm : s.element.tag = .rootMenu
  · rw [Step.result, walkElement_rootMenu hm, config_rootMenu]
    exact h.of_menus _ _
  · obtain ⟨htext, hchildren⟩ := hs.placed.trimmed
    rw [Step.result, walkElement_declaration hm hs.not_include]
    exact Config.declare_inRange h world .jwm htext hchildren

theorem Step.Passes.inRange {c : Config} (hc : s.Passes world c) (hs : s.Arises world limits)
    (h : s.config.InRange) : c.InRange := by
  obtain ⟨htext, hchildren⟩ := hs.placed.trimmed
  cases hc with
  | before => exact h
  | partly count _ =>
    refine Config.declare_inRange h world .jwm htext ?_
    intro e' he'
    exact hchildren e' (List.mem_of_mem_take he')
  | measured _ => exact { h with snap := Snap.read_inRange s.element s.config.snap }
  | building confirm _ => exact h.of_menus s.config.rootMenus confirm
  | after => exact s.result_inRange hs h

end Steps

/-- The settings are within their ranges at every moment of a walk, in the configuration
that the walk ends with, and in that of every load that succeeds. -/
theorem settings_stay_in_range (world : World) (o : Options) (label text : String) :
    Follows world {} (Load.steps world o label text) (Load.walkText world o label text).config ∧
    (∀ s ∈ Load.steps world o label text, ∀ c, s.Passes world c → c.InRange) ∧
    (Load.walkText world o label text).config.InRange ∧
    ∀ l loaded, LoadOf world o label text l → l.outcome = .ok loaded →
      loaded.config.InRange := by
  have htraces := traces_walkText world o label text
  obtain ⟨hlast, hall⟩ := htraces.follows.keeps
    (fun s hs => s.result_inRange (htraces.arises s hs)) Config.inRange_default
  refine ⟨htraces.follows, ?_, hlast, ?_⟩
  · intro s hs c hc
    exact hc.inRange (htraces.arises s hs) (hall s hs)
  · intro l loaded h hok
    rw [(h.walked hok).2]
    exact hlast.of_keys _

/-- A document of which little is in range. -/
def excessiveText : String :=
  "<JWM><Desktops count=\"99\"><Name> one </Name></Desktops>" ++
    "<BorderStyle><Width>0</Width></BorderStyle><SnapMode distance=\"0\"/></JWM>"

theorem settings_stay_in_range_excessive :
    ∃ loaded, (loadText (World.holding "" "") (.default { entries := [] }) "jwmrc"
        excessiveText).outcome = .ok loaded ∧
      loaded.config.InRange ∧
      ∃ s ∈ Load.steps (World.holding "" "") (.default { entries := [] }) "jwmrc" excessiveText,
        (s.config.declare (World.holding "" "") .jwm (s.element.upTo 1)).value.InRange := by
  have hload : (Load.walkText (World.holding "" "") (.default { entries := [] }) "jwmrc"
      excessiveText).stopped = false := by decide +kernel
  have hsteps : (Load.steps (World.holding "" "") (.default { entries := [] }) "jwmrc"
      excessiveText).any (·.element.tag = .desktops) = true := by decide +kernel
  obtain ⟨loaded, hok⟩ := exists_loaded_of_not_stopped hload
  obtain ⟨s, hs, htag⟩ := List.any_eq_true.mp hsteps
  obtain ⟨-, hall, -, hloaded⟩ := settings_stay_in_range (World.holding "" "")
    (.default { entries := [] }) "jwmrc" excessiveText
  refine ⟨loaded, hok, hloaded _ loaded (.held "jwmrc" excessiveText) hok, s, hs, ?_⟩
  refine hall s hs _ (.partly 1 ?_)
  rw [of_decide_eq_true htag]
  decide

end DeskConfig
