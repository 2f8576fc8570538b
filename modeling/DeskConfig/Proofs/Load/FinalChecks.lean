import DeskConfig.Proofs.Load.Result
import DeskConfig.Proofs.Settings.Keys

/-!
The checks at the end of a load, as they are run after one another. The check of key bindings
takes bindings out and the check of tray buttons only reports, and neither looks at what the
other one changes. So it does not matter in which order they are run, and a check that was run
finds nothing more to take out.
-/

namespace DeskConfig

inductive FinalCheck where
  | keys
  | trayButtons
deriving DecidableEq

namespace FinalCheck

def run : FinalCheck → Config → Reading Config
  | .keys, c => c.checkKeys
  | .trayButtons, c => { value := c, warnings := c.checkTrayButtons }

def runAll : List FinalCheck → Config → Reading Config
  | [], c => return c
  | check :: checks, c => check.run c >>= runAll checks

end FinalCheck

/-- Reports of bindings that are taken out: they tell no key, or no number of one. -/
def Problem.removesBinding : Problem → Bool
  | .keyless => true
  | .invalidValue what _ => what = "keycode"
  | _ => false

/-- Reports of bindings that stay: unknown modifiers and root menus that are missing. -/
def Problem.keepsBinding : Problem → Bool
  | .invalidModifier _ => true
  | .missingMenu .keyBinding _ => true
  | _ => false

namespace KeyBinding

variable {menus : RootMenus} {b : KeyBinding} {d : Diagnostic}

theorem removesBinding_of_flaw? {flaw : Problem} (h : b.flaw? = some flaw) :
    flaw.removesBinding = true ∧ flaw.keepsBinding = false := by
  unfold flaw? at h
  split at h <;> split at h <;> cases h <;> exact ⟨rfl, rfl⟩

theorem keepsBinding_of_mem_check (h : b.flaw? = none) (hd : d ∈ (check menus b).warnings) :
    d.problem.keepsBinding = true ∧ d.problem.removesBinding = false := by
  simp only [check, h] at hd
  obtain ⟨problem, hproblem, rfl⟩ := List.mem_map.mp hd
  rcases List.mem_append.mp hproblem with hmodifier | hmissing
  · obtain ⟨c, -, rfl⟩ := List.mem_map.mp hmodifier
    exact ⟨rfl, rfl⟩
  · have hmissing := Option.mem_toList.mp hmissing
    unfold missingMenu? at hmissing
    split at hmissing
    · obtain ⟨cause, -, rfl⟩ := Option.map_eq_some_iff.mp hmissing
      exact ⟨rfl, rfl⟩
    · contradiction

/-- A binding is taken out and reported for that, or it stays and so do its reports. -/
theorem filter_warnings_check_keeps (menus : RootMenus) (b : KeyBinding) :
    (check menus b).warnings.filter (·.problem.keepsBinding) =
      if b.flaw?.isNone then (check menus b).warnings else [] := by
  cases hflaw : b.flaw? with
  | some flaw =>
    rw [warnings_check_of_flaw menus hflaw]
    simp [Diagnostic.located, (removesBinding_of_flaw? hflaw).2]
  | none =>
    exact List.filter_eq_self.mpr fun d hd => (keepsBinding_of_mem_check hflaw hd).1

/-- The bindings that are taken out have one report each for that. -/
theorem filter_warnings_check_removes (menus : RootMenus) (b : KeyBinding) :
    ((check menus b).warnings.filter (·.problem.removesBinding)).map (·.origin) =
      if b.flaw?.isNone then [] else [some b.origin] := by
  cases hflaw : b.flaw? with
  | some flaw =>
    rw [warnings_check_of_flaw menus hflaw]
    simp [Diagnostic.located, (removesBinding_of_flaw? hflaw).1]
  | none =>
    have hnone : (check menus b).warnings.filter (·.problem.removesBinding) = [] :=
      List.filter_eq_nil_iff.mpr fun d hd => by simp [(keepsBinding_of_mem_check hflaw hd).2]
    rw [hnone]
    rfl

theorem keepsBinding_eq_not_of_mem_checkAll {bs : List KeyBinding}
    (hd : d ∈ (checkAll menus bs).warnings) :
    d.problem.keepsBinding = !d.problem.removesBinding := by
  rw [warnings_checkAll, List.mem_flatMap] at hd
  obtain ⟨b, -, hd⟩ := hd
  cases hflaw : b.flaw? with
  | some flaw =>
    rw [warnings_check_of_flaw menus hflaw, List.mem_singleton] at hd
    obtain ⟨hremoves, hkeeps⟩ := removesBinding_of_flaw? hflaw
    rw [hd]
    simp [Diagnostic.located, hremoves, hkeeps]
  | none =>
    obtain ⟨hkeeps, hremoves⟩ := keepsBinding_of_mem_check hflaw hd
    rw [hkeeps, hremoves]
    rfl

theorem filter_warnings_checkAll_removes (menus : RootMenus) (bs : List KeyBinding) :
    ((checkAll menus bs).warnings.filter (·.problem.removesBinding)).map (·.origin) =
      (bs.filter (!·.flaw?.isNone)).map fun b => some b.origin := by
  induction bs with
  | nil => rfl
  | cons b bs ih =>
    rw [warnings_checkAll] at ih ⊢
    rw [List.flatMap_cons, List.filter_append, List.map_append, ih, List.filter_cons,
      filter_warnings_check_removes]
    cases b.flaw?.isNone <;> rfl

/-- A second check reports of the bindings that stayed what the first one did. -/
theorem warnings_checkAll_value (menus : RootMenus) (bs : List KeyBinding) :
    (checkAll menus (checkAll menus bs).value).warnings =
      (checkAll menus bs).warnings.filter (·.problem.keepsBinding) := by
  rw [value_checkAll, warnings_checkAll, warnings_checkAll]
  induction bs with
  | nil => rfl
  | cons b bs ih =>
    rw [List.flatMap_cons, List.filter_append, filter_warnings_check_keeps, ← ih, List.filter_cons]
    cases b.flaw?.isNone <;> rfl

theorem value_checkAll_value (menus : RootMenus) (bs : List KeyBinding) :
    (checkAll menus (checkAll menus bs).value).value = (checkAll menus bs).value := by
  rw [value_checkAll, value_checkAll, List.filter_filter]
  simp only [Bool.and_self]

end KeyBinding

namespace Config

variable (c : Config)

theorem value_checkKeys :
    c.checkKeys.value = { c with keys := c.keys.filter (·.flaw?.isNone) } :=
  congrArg (fun keys => { c with keys }) (KeyBinding.value_checkAll c.rootMenus c.keys)

theorem warnings_checkKeys :
    c.checkKeys.warnings = (KeyBinding.checkAll c.rootMenus c.keys).warnings :=
  List.append_nil _

theorem value_checkKeys_value : c.checkKeys.value.checkKeys.value = c.checkKeys.value :=
  congrArg (fun keys => { c with keys }) (KeyBinding.value_checkAll_value c.rootMenus c.keys)

theorem warnings_checkKeys_value : c.checkKeys.value.checkKeys.warnings =
    c.checkKeys.warnings.filter (·.problem.keepsBinding) := by
  rw [warnings_checkKeys, warnings_checkKeys]
  exact KeyBinding.warnings_checkAll_value c.rootMenus c.keys

/-- Tray buttons are checked without a look at keys. -/
theorem checkTrayButtons_checkKeys :
    c.checkKeys.value.checkTrayButtons = c.checkTrayButtons := rfl

end Config

namespace FinalCheck

variable {checks : List FinalCheck} {c : Config}

theorem warnings_runAll_concat (checks : List FinalCheck) (check : FinalCheck) (c : Config) :
    (runAll (checks ++ [check]) c).warnings =
      (runAll checks c).warnings ++ (check.run (runAll checks c).value).warnings := by
  induction checks generalizing c with
  | nil => exact List.append_nil _
  | cons first checks ih =>
    simp only [List.cons_append, runAll, Reading.warnings_bind, Reading.value_bind, ih,
      List.append_assoc]

/-- A run changes nothing but the keys, and these as the first check of them does. -/
theorem value_runAll (checks : List FinalCheck) (c : Config) :
    (runAll checks c).value = if .keys ∈ checks then c.checkKeys.value else c := by
  induction checks generalizing c with
  | nil => rfl
  | cons check checks ih =>
    rw [runAll, Reading.value_bind, ih]
    cases check with
    | keys =>
      rw [if_pos List.mem_cons_self]
      split
      · exact c.value_checkKeys_value
      · rfl
    | trayButtons => simp [run]

theorem runAll_keys_trayButtons (c : Config) : runAll [.keys, .trayButtons] c =
    { value := c.checkKeys.value, warnings := c.checkKeys.warnings ++ c.checkTrayButtons } :=
  congrArg (fun onTrayButtons => Reading.mk _ (_ ++ onTrayButtons)) (List.append_nil _)

theorem runAll_trayButtons_keys (c : Config) : runAll [.trayButtons, .keys] c =
    { value := c.checkKeys.value, warnings := c.checkTrayButtons ++ c.checkKeys.warnings } :=
  congrArg (fun onKeys => Reading.mk _ (_ ++ onKeys)) (List.append_nil _)

/-- Running a check again changes nothing. -/
theorem value_runAll_concat {check : FinalCheck} (h : check ∈ checks) (c : Config) :
    (runAll (checks ++ [check]) c).value = (runAll checks c).value := by
  have hkeys : .keys ∈ checks ++ [check] ↔ .keys ∈ checks := by
    rw [List.mem_append, List.mem_singleton]
    exact or_iff_left_of_imp fun heq => heq ▸ h
  simp only [value_runAll, hkeys]

/-- Checking keys again reports what was reported of the bindings that stayed. -/
theorem warnings_runAll_keys (h : .keys ∈ checks) (c : Config) :
    (runAll (checks ++ [.keys]) c).warnings =
      (runAll checks c).warnings ++ c.checkKeys.warnings.filter (·.problem.keepsBinding) := by
  rw [warnings_runAll_concat, value_runAll, if_pos h, run, Config.warnings_checkKeys_value]

/-- Tray buttons are reported alike at any time. -/
theorem warnings_runAll_trayButtons (checks : List FinalCheck) (c : Config) :
    (runAll (checks ++ [.trayButtons]) c).warnings =
      (runAll checks c).warnings ++ c.checkTrayButtons := by
  rw [warnings_runAll_concat, value_runAll]
  split
  · exact congrArg (_ ++ ·) c.checkTrayButtons_checkKeys
  · rfl

end FinalCheck

/-- The checks at the end of a load do not depend on each other, and running one of them again
changes nothing, whatever was read and reported before. In either order they come to the same
configuration, in which nothing but keys has changed, and to the same two blocks of warnings.
Whenever the check of keys is run again, it raises exactly those of its first warnings that are
about bindings that stay, in the same order. Each of the others is about a binding that was taken
out. A load ends with both checks, tray buttons first. -/
theorem final_checks_are_independent (before : Reading Config) :
    let c := before.value
    let onKeys := c.checkKeys.warnings
    let onTrayButtons := c.checkTrayButtons
    before >>= FinalCheck.runAll [.keys, .trayButtons] =
      { value := c.checkKeys.value, warnings := before.warnings ++ (onKeys ++ onTrayButtons) } ∧
    before >>= FinalCheck.runAll [.trayButtons, .keys] =
      { value := c.checkKeys.value, warnings := before.warnings ++ (onTrayButtons ++ onKeys) } ∧
    (∀ checks, ∀ check ∈ checks, (before >>= FinalCheck.runAll (checks ++ [check])).value =
      (before >>= FinalCheck.runAll checks).value) ∧
    (∀ checks, FinalCheck.keys ∈ checks →
      (before >>= FinalCheck.runAll (checks ++ [.keys])).warnings =
        (before >>= FinalCheck.runAll checks).warnings ++
          onKeys.filter (·.problem.keepsBinding)) ∧
    (∀ checks, (before >>= FinalCheck.runAll (checks ++ [.trayButtons])).warnings =
      (before >>= FinalCheck.runAll checks).warnings ++ onTrayButtons) ∧
    (∀ d ∈ onKeys, d.problem.keepsBinding = !d.problem.removesBinding) ∧
    c.checkKeys.value = { c with keys := c.keys.filter (·.flaw?.isNone) } ∧
    (onKeys.filter (·.problem.removesBinding)).map (·.origin) =
      (c.keys.filter (!·.flaw?.isNone)).map (fun b => some b.origin) ∧
    ∀ source journal,
      let ending := FinalCheck.runAll [.trayButtons, .keys] c
      (Load.finish source c journal).outcome = .ok { config := ending.value, source } ∧
      (Load.finish source c journal).diagnostics = journal.diagnostics ++ ending.warnings := by
  intro c onKeys onTrayButtons
  have hkeys : onKeys = (KeyBinding.checkAll c.rootMenus c.keys).warnings := c.warnings_checkKeys
  refine ⟨?_, ?_, fun checks check h => FinalCheck.value_runAll_concat h c, fun checks h => ?_,
    fun checks => ?_, fun d hd => ?_, c.value_checkKeys, ?_, fun source journal => ?_⟩
  · exact congrArg (fun r : Reading Config => Reading.mk r.value (before.warnings ++ r.warnings))
      (FinalCheck.runAll_keys_trayButtons c)
  · exact congrArg (fun r : Reading Config => Reading.mk r.value (before.warnings ++ r.warnings))
      (FinalCheck.runAll_trayButtons_keys c)
  · rw [Reading.warnings_bind, Reading.warnings_bind, List.append_assoc]
    exact congrArg (before.warnings ++ ·) (FinalCheck.warnings_runAll_keys h c)
  · rw [Reading.warnings_bind, Reading.warnings_bind, List.append_assoc]
    exact congrArg (before.warnings ++ ·) (FinalCheck.warnings_runAll_trayButtons checks c)
  · rw [hkeys] at hd
    exact KeyBinding.keepsBinding_eq_not_of_mem_checkAll hd
  · rw [hkeys]
    exact KeyBinding.filter_warnings_checkAll_removes c.rootMenus c.keys
  · rw [FinalCheck.runAll_trayButtons_keys]
    exact ⟨rfl, Load.diagnostics_finish source c journal⟩

end DeskConfig
