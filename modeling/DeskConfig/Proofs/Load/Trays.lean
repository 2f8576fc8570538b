import DeskConfig.Proofs.Include.TextFiles
import DeskConfig.Proofs.Load.Result
import DeskConfig.Proofs.Menus.Binding
import DeskConfig.Proofs.Settings.Parts
import DeskConfig.Proofs.Settings.Trays

/-!
The trays of a load. A walk adds one tray for each tray element that it comes to, whichever
document that stands in, and each is read with all trays before it. So there is one dock at
most and no client is swallowed twice, over all trays.
-/

namespace DeskConfig

open Markup (Element)

/-- The tray elements that some steps come to, in order. -/
def trayElements (steps : List Step) : List Element :=
  (steps.map (·.element)).filter (·.tag = .tray)

section Steps

variable {world : World}

/-- A step at a tray element reads a tray, and leaves the trays before it. -/
theorem result_tray (world : World) {s : Step} (h : s.element.tag = .tray) :
    (s.result world).config.trays =
        s.config.trays ++ [(Tray.read s.config.trays s.element).value] ∧
      (s.result world).journal.diagnostics =
        (Tray.read s.config.trays s.element).warnings := by
  have hm : s.element.tag ≠ .rootMenu := by simp [h]
  have hi : s.element.tag ≠ .include := by simp [h]
  rw [Step.result, walkElement_declaration hm hi, Progress.ofReading]
  refine ⟨?_, ?_⟩
  · exact (Config.trays_declare world .jwm s.element s.config).trans (if_pos h)
  · rw [Journal.diagnostics_ofWarnings]
    simp [Config.declare, h]

theorem trays_result_of_ne (world : World) {s : Step} (h : s.element.tag ≠ .tray)
    (hi : s.element.tag ≠ .include) : (s.result world).config.trays = s.config.trays := by
  by_cases hm : s.element.tag = .rootMenu
  · rw [Step.result, walkElement_rootMenu hm, config_rootMenu]
  · rw [Step.result, walkElement_declaration hm hi]
    exact (Config.trays_declare world .jwm s.element s.config).trans (if_neg h)

/-- The steps add what their tray elements keep, and report what these report. The trays of
the configuration that they start with go before. -/
theorem Follows.trays {steps : List Step} {c c' : Config} (h : Follows world c steps c')
    (hi : ∀ s ∈ steps, s.element.tag ≠ .include) :
    let placings := Tray.placingsOf (c.trays.flatMap (·.components)) (trayElements steps)
    c'.trays.map (·.components) =
        c.trays.map (·.components) ++ placings.map (·.filterMap (·.kept?)) ∧
      (placings.flatten.flatMap (·.warnings)).Sublist
        (steps.flatMap fun s => (s.result world).journal.diagnostics) := by
  induction h with
  | nil => exact ⟨(List.append_nil _).symm, List.Sublist.slnil⟩
  | @cons s steps c' _ ih =>
    obtain ⟨htrays, hwarnings⟩ := ih fun s' hs' => hi s' (List.mem_cons_of_mem _ hs')
    -- The later trays start out with what this step leaves, so its components move over to
    -- those that were kept before.
    by_cases htag : s.element.tag = .tray
    · obtain ⟨hresult, hreported⟩ := result_tray world htag
      have hcomponents := Tray.components_read htag s.config.trays
      obtain ⟨first, hfirst⟩ := Tray.exists_warnings_read htag s.config.trays
      have helements : trayElements (s :: steps) = s.element :: trayElements steps := by
        simp [trayElements, htag]
      rw [hresult, List.flatMap_append, List.flatMap_singleton, hcomponents]
        at htrays hwarnings
      rw [helements, Tray.placingsOf]
      refine ⟨?_, ?_⟩
      · rw [htrays, List.map_append, List.append_assoc, List.map_singleton, hcomponents]
        rfl
      · rw [List.flatten_cons, List.flatMap_append, List.flatMap_cons, hreported, hfirst]
        exact (List.sublist_append_right _ _).append hwarnings
    · have hresult := trays_result_of_ne world htag (hi s List.mem_cons_self)
      have helements : trayElements (s :: steps) = trayElements steps := by
        simp [trayElements, htag]
      rw [hresult] at htrays hwarnings
      rw [helements, List.flatMap_cons]
      exact ⟨htrays, hwarnings.trans (List.sublist_append_right _ _)⟩

end Steps

/-- The elements of the trays that a load comes to, tray by tray, each with what was kept
before it. -/
def Load.placings (world : World) (o : Options) (label text : String) :
    List (List Tray.Placing) :=
  Tray.placingsOf [] (trayElements (Load.steps world o label text))

section Loads

variable {world : World} {o : Options} {label text : String} {l : Load} {loaded : Loaded}

theorem LoadOf.trays (h : LoadOf world o label text l) (hok : l.outcome = .ok loaded) :
    loaded.config.trays.map (·.components) =
      (Load.placings world o label text).map (·.filterMap (·.kept?)) := by
  have htraces := traces_walkText world o label text
  have htrays := (htraces.follows.trays fun s hs => (htraces.arises s hs).not_include).1
  rw [(h.walked hok).2]
  exact htrays

theorem LoadOf.tray_warnings (h : LoadOf world o label text l) :
    ((Load.placings world o label text).flatten.flatMap (·.warnings)).Sublist l.diagnostics := by
  have htraces := traces_walkText world o label text
  have hwarnings := (htraces.follows.trays fun s hs => (htraces.arises s hs).not_include).2
  obtain ⟨closing, hclosing⟩ := h.exists_diagnostics_eq
  rw [hclosing]
  exact (hwarnings.trans htraces.warned).trans (List.sublist_append_left _ _)

end Loads

/-- Two trays that both ask for a dock and for the same client, and a client without a name. -/
def traysText : String :=
  "<JWM><Tray><Dock/><Swallow name=\"xeyes\"/><Swallow/></Tray>" ++
    "<Tray><Dock/><Swallow>xeyes</Swallow><Pager/></Tray></JWM>"

end DeskConfig
