import DeskConfig.Proofs.Include.TextFiles
import DeskConfig.Proofs.Load.RootFile
import DeskConfig.Proofs.Settings.Checks
import DeskConfig.Proofs.Walk.Warnings

/-!
Where the warnings of a load point to. All of them are at places in texts that were read: the
root document and what its includes gave. Those of the checks at the end are no exception, for
a key binding or a tray button remembers where its element stands. Only what ends a load is
reported without a place.
-/

namespace DeskConfig

/-- The checks at the end warn of the elements that are remembered. -/
theorem Config.Recalls.about_checks {texts : List SourceText} {c : Config}
    (hc : c.Recalls texts) : ∀ d ∈ c.checkTrayButtons ++ c.checkKeys.warnings, d.About texts := by
  intro d hd
  rcases List.mem_append.mp hd with hd | hd
  · obtain ⟨b, hb, hmissing⟩ := List.mem_filterMap.mp hd
    obtain ⟨e, he, haction, horigin⟩ := hc.buttons b hb
    obtain ⟨problem, hregards, rfl⟩ :=
      TrayButton.exists_regards_of_missingMenu? haction horigin hmissing
    exact .element he hregards
  · simp only [checkKeys, Reading.warnings_bind, Reading.warnings_pure, List.append_nil,
      KeyBinding.warnings_checkAll] at hd
    obtain ⟨b, hb, hchecked⟩ := List.mem_flatMap.mp hd
    obtain ⟨e, he, hread⟩ := hc.keys b hb
    obtain ⟨problem, hregards, rfl⟩ := KeyBinding.exists_regards_of_check hread hchecked
    exact .element he hregards

/-- Every warning is at a place in a given text or in one that was read for an include. Only
the last one of a load that fails has no place: it says why the load failed. -/
structure Load.Located (world : World) (roots : List SourceText) (l : Load) : Prop where
  included : ∀ t ∈ l.journal.sourceTexts world [], l.journal.Enters t.label
  loaded : ∀ loaded, l.outcome = .ok loaded →
    ∀ d ∈ l.diagnostics, d.PointsInto (roots ++ l.journal.sourceTexts world [])
  failed : ∀ cause, l.outcome = .error cause → ∃ warnings,
    l.diagnostics = warnings ++ [.ofLoadError cause] ∧
    (Diagnostic.ofLoadError cause).origin = none ∧
    ∀ d ∈ warnings, d.PointsInto (roots ++ l.journal.sourceTexts world [])

section Loads

variable {world : World} {o : Options} {label text : String} {l : Load}

/-- Around its walk a load tells of no further texts. -/
theorem LoadOf.exists_journal_eq (h : LoadOf world o label text l) :
    ∃ before after, l.journal =
        before ++ ((Load.walkText world o label text).journal ++ after) ∧
      Journal.calls before = [] ∧ Journal.sourceTexts world [] before = [] ∧
      ∀ history, Journal.sourceTexts world history after = [] := by
  have htext : ∃ after, (loadText world o label text).journal =
      (Load.walkText world o label text).journal ++ after ∧
      ∀ history, Journal.sourceTexts world history after = [] := by
    unfold loadText Load.ofProgress
    split
    · exact ⟨_, rfl, fun _ => rfl⟩
    · refine ⟨_, List.append_assoc _ _ _, fun history => ?_⟩
      rw [Journal.sourceTexts_append, Journal.sourceTexts_ofWarnings]
      rfl
  obtain ⟨after, hjournal, hafter⟩ := htext
  cases h with
  | held => exact ⟨[], after, hjournal, rfl, rfl, hafter⟩
  | primary hprimary =>
    refine ⟨[.loading o.configPath], after, ?_, rfl, rfl, hafter⟩
    rw [← hjournal, load, hprimary]
    rfl
  | fallback hprimary hfallback =>
    refine ⟨[.unreadableRoot o.configPath, .fellBack o.configPath o.fallbackPath,
      .loading o.fallbackPath], after, ?_, rfl, rfl, hafter⟩
    rw [← hjournal, load, hprimary, hfallback]
    rfl

theorem LoadOf.sourceTexts_eq (h : LoadOf world o label text l) :
    l.journal.sourceTexts world [] =
      (Load.walkText world o label text).journal.sourceTexts world [] := by
  obtain ⟨before, after, hjournal, hcalls, hbefore, hafter⟩ := h.exists_journal_eq
  rw [hjournal, Journal.sourceTexts_append, hcalls, hbefore, Journal.sourceTexts_append, hafter,
    List.nil_append, List.append_nil, List.nil_append]

/-- All warnings are about the root document and the texts that were read, but for the last one
of a load that fails. -/
theorem LoadOf.about (h : LoadOf world o label text l) :
    (∀ loaded, l.outcome = .ok loaded →
      ∀ d ∈ l.diagnostics, d.About ([SourceText.mk label text] ++ l.journal.sourceTexts world [])) ∧
    ∀ cause, l.outcome = .error cause → ∃ warnings,
      l.diagnostics = warnings ++ [.ofLoadError cause] ∧
      ∀ d ∈ warnings, d.About ([SourceText.mk label text] ++ l.journal.sourceTexts world []) := by
  have hsound := sound_walkText world o label text
  rw [h.sourceTexts_eq]
  refine ⟨fun loaded hok d hd => ?_, fun cause hfail => ?_⟩
  · rw [h.diagnostics_of_ok hok] at hd
    exact (List.mem_append.mp hd).elim (hsound.journal.about d) (hsound.config.about_checks d)
  · exact ⟨_, h.diagnostics_of_error hfail, hsound.journal.about⟩

theorem LoadOf.located (h : LoadOf world o label text l) : l.Located world [{ label, text }] := by
  obtain ⟨hloaded, hfailed⟩ := h.about
  refine ⟨?_, fun loaded hok d hd => (hloaded loaded hok d hd).pointsInto, ?_⟩
  · intro t ht
    rw [h.sourceTexts_eq] at ht
    have hentered := (sound_walkText world o label text).journal.included t ht
    obtain ⟨before, after, hjournal, -⟩ := h.exists_journal_eq
    rw [hjournal]
    exact .append (.inr (.append (.inl hentered)))
  · intro cause hfail
    obtain ⟨warnings, hdiagnostics, hwarnings⟩ := hfailed cause hfail
    exact ⟨warnings, hdiagnostics, rfl, fun d hd => (hwarnings d hd).pointsInto⟩

/-- Where no root document can be read, no text is, and nothing points anywhere. -/
theorem located_of_unreadable {primary fallback : IncludeError}
    (hprimary : world.readText [] o.configPath = .error primary)
    (hfallback : world.readText [] o.fallbackPath = .error fallback) :
    (load world o).Located world [] := by
  obtain ⟨houtcome, hdiagnostics, -⟩ := load_of_unreadable hprimary hfallback
  refine ⟨?_, ?_, ?_⟩
  · simp only [load, hprimary, hfallback]
    exact List.forall_mem_nil _
  · intro loaded hok
    rw [houtcome] at hok
    contradiction
  · intro cause hfail
    rw [houtcome] at hfail
    cases hfail
    exact ⟨[], hdiagnostics, rfl, List.forall_mem_nil _⟩

end Loads

/-- Every warning of a load points to a line of a text that was read: of its root document or of
one that an include gave, under the label of that text. What alone has no place is the last
warning of a load that fails, by which it says why; a load without a root document says nothing
but that. -/
theorem warnings_point_into_texts (world : World) (o : Options) :
    (∀ label text l, LoadOf world o label text l → l.Located world [{ label, text }]) ∧
    ∀ primary fallback, world.readText [] o.configPath = .error primary →
      world.readText [] o.fallbackPath = .error fallback →
      (load world o).Located world [] ∧
        ∃ cause, (load world o).outcome = .error cause ∧
          (load world o).diagnostics = [.ofLoadError cause] := by
  refine ⟨fun label text l h => h.located, fun primary fallback hprimary hfallback => ?_⟩
  obtain ⟨houtcome, hdiagnostics, -⟩ := load_of_unreadable hprimary hfallback
  exact ⟨located_of_unreadable hprimary hfallback, _, houtcome, hdiagnostics⟩

/-- A menu with an element out of place, as a command prints it. -/
def printedMenu : String := "<Menu>\n<Separator/>\n<Pager/></Menu>"

def menuPrintingWorld : World :=
  { World.holding "" "" with run := fun _ _ => some { output := printedMenu } }

/-- A root menu that is put in by a command, and a binding without a key, missed at the end. -/
def printingText : String :=
  "<JWM><RootMenu><Include>exec:menu</Include></RootMenu>\n<Key>close</Key></JWM>"

/-- Each of the two warnings is on the line of its element in its own text. -/
theorem warnings_point_into_texts_printed :
    let l := loadText menuPrintingWorld (.default { entries := [] }) "jwmrc" printingText
    (∃ loaded, l.outcome = .ok loaded) ∧
      l.diagnostics = [.located ⟨"menu", 3⟩ (.invalidTag "Menu" "Pager"),
        .located ⟨"jwmrc", 2⟩ .keyless] ∧
      (∀ d ∈ l.diagnostics, d.PointsInto [⟨"jwmrc", printingText⟩, ⟨"menu", printedMenu⟩]) ∧
      (load (World.holding "" "") twoFiles).Located (World.holding "" "") [] := by
  intro l
  have hload : (Load.walkText menuPrintingWorld (.default { entries := [] }) "jwmrc"
      printingText).stopped = false := by decide +kernel
  have hdiagnostics : l.diagnostics = [.located ⟨"menu", 3⟩ (.invalidTag "Menu" "Pager"),
      .located ⟨"jwmrc", 2⟩ .keyless] := by decide +kernel
  have htexts : l.journal.sourceTexts menuPrintingWorld [] = [⟨"menu", printedMenu⟩] := by
    decide +kernel
  obtain ⟨loaded, hok⟩ := exists_loaded_of_not_stopped hload
  obtain ⟨hheld, -⟩ := warnings_point_into_texts menuPrintingWorld (.default { entries := [] })
  obtain ⟨-, hmissing⟩ := warnings_point_into_texts (World.holding "" "") twoFiles
  have hlocated := (hheld "jwmrc" printingText l (.held _ _)).loaded loaded hok
  rw [htexts] at hlocated
  exact ⟨⟨loaded, hok⟩, hdiagnostics, hlocated, (hmissing _ _ rfl rfl).1⟩

end DeskConfig
