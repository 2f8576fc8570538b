import DeskConfig.Proofs.Include.TextFiles
import DeskConfig.Proofs.Load.Result
import DeskConfig.Proofs.Menus.Binding
import DeskConfig.Proofs.Settings.Keys
import DeskConfig.Proofs.Settings.Parts
import Mathlib.Data.List.Flatten

/-!
The key bindings of a load. A walk collects the bindings of the key elements that it comes
to, and the checks at the end take out those that tell no key; what is left are the bindings
of the elements that have one, in the order of the walk.
-/

namespace DeskConfig

open Markup (Element)

/-- The steps that come to key elements, in order. -/
def keySteps (steps : List Step) : List Step := steps.filter (·.element.tag = .key)

section Steps

variable {world : World}

theorem keySteps_cons (s : Step) (steps : List Step) :
    keySteps (s :: steps) = keySteps [s] ++ keySteps steps := by
  simp only [keySteps, ← List.filter_append, List.singleton_append]

/-- A step adds the binding of its element, if that is a key element. -/
theorem keys_result {s : Step} (hi : s.element.tag ≠ .include) :
    (s.result world).config.keys =
      s.config.keys ++ (keySteps [s]).filterMap fun s => (KeyBinding.read s.element).value := by
  by_cases hm : s.element.tag = .rootMenu
  · have hnone : keySteps [s] = [] := by simp [keySteps, hm]
    rw [Step.result, walkElement_rootMenu hm, config_rootMenu, hnone]
    exact (List.append_nil _).symm
  · rw [Step.result, walkElement_declaration hm hi]
    refine (Config.keys_declare world .jwm s.element s.config).trans ?_
    by_cases hk : s.element.tag = .key
    · rw [if_pos hk]
      cases hread : (KeyBinding.read s.element).value <;> simp [keySteps, hk, hread]
    · rw [if_neg hk]
      simp [keySteps, hk]

theorem Follows.keys {steps : List Step} {c c' : Config} (h : Follows world c steps c')
    (hi : ∀ s ∈ steps, s.element.tag ≠ .include) :
    c'.keys =
      c.keys ++ (keySteps steps).filterMap fun s => (KeyBinding.read s.element).value := by
  induction h with
  | nil => exact (List.append_nil _).symm
  | @cons s steps c' _ ih =>
    have hrest := ih fun s' hs' => hi s' (List.mem_cons_of_mem _ hs')
    rw [hrest, keys_result (hi s List.mem_cons_self), keySteps_cons s steps,
      List.filterMap_append, List.append_assoc]

/-- What a walk reports of a key element is what reading it reports. -/
theorem diagnostics_result {s : Step} (h : s.element.tag = .key) :
    (s.result world).journal.diagnostics = (KeyBinding.read s.element).warnings := by
  have hm : s.element.tag ≠ .rootMenu := by simp [h]
  have hi : s.element.tag ≠ .include := by simp [h]
  rw [Step.result, walkElement_declaration hm hi, Progress.ofReading,
    Journal.diagnostics_ofWarnings]
  simp [Config.declare, h]

variable {o : Options} {label text : String} {l : Load} {loaded : Loaded}

theorem walkText_keys :
    (Load.walkText world o label text).config.keys =
      (keySteps (Load.steps world o label text)).filterMap fun s =>
        (KeyBinding.read s.element).value := by
  have htraces := traces_walkText world o label text
  exact htraces.follows.keys fun s hs => (htraces.arises s hs).not_include

/-- A load keeps the bindings of the elements that have one. -/
theorem LoadOf.keys (h : LoadOf world o label text l) (hok : l.outcome = .ok loaded) :
    loaded.config.keys =
      (keySteps (Load.steps world o label text)).filterMap fun s => KeyBinding.of? s.element := by
  rw [(h.walked hok).2]
  refine (KeyBinding.value_checkAll _ _).trans ?_
  rw [walkText_keys, List.filter_filterMap]
  rfl

/-- What a load reports, of key elements and of all others. -/
theorem LoadOf.diagnostics_keys (h : LoadOf world o label text l) (hok : l.outcome = .ok loaded) :
    ∃ walked, l.diagnostics = walked ++ (loaded.config.checkTrayButtons ++
        (keySteps (Load.steps world o label text)).flatMap fun s =>
          KeyBinding.checked loaded.config.rootMenus s.element) ∧
      ((keySteps (Load.steps world o label text)).flatMap fun s =>
        (KeyBinding.read s.element).warnings).Sublist walked := by
  refine ⟨(Load.walkText world o label text).journal.diagnostics, ?_, ?_⟩
  · have hchecks : (Load.walkText world o label text).config.checkKeys.warnings =
        (keySteps (Load.steps world o label text)).flatMap fun s =>
          KeyBinding.checked (Load.walkText world o label text).config.rootMenus s.element := by
      simp only [Config.checkKeys, Reading.warnings_bind, Reading.warnings_pure, List.append_nil,
        KeyBinding.warnings_checkAll, walkText_keys, List.filterMap_eq_flatMap_toList,
        List.flatMap_assoc, KeyBinding.checked]
    rw [h.diagnostics_of_ok hok, (h.walked hok).2, hchecks]
    rfl
  · have hsteps := (List.filter_sublist (p := (·.element.tag = .key))
      (l := Load.steps world o label text)).flatMap fun s =>
        (s.result world).journal.diagnostics
    refine List.Sublist.trans ?_ (hsteps.trans (traces_walkText world o label text).warned)
    refine List.Sublist.flatMap_right _ fun s hs => ?_
    have htag : s.element.tag = .key := by simpa using (List.mem_filter.mp hs).2
    rw [diagnostics_result htag]

end Steps

/-- Two key elements that have a binding, one that tells no key and one without an action. -/
def keysText : String :=
  "<JWM><Key key=\"F1\">desktop#+3</Key><Key>close</Key><Key key=\"F2\">fly</Key>" ++
    "<Key mask=\"A\" keycode=\" 38 \">exec:xterm</Key></JWM>"

end DeskConfig
