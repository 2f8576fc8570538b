import DeskConfig.Proofs.Walk.Steps

/-!
What a load results in. A root document is held in memory or is the first of two files
that can be read; either way its load comes to the same, and a load that succeeds gives
the configuration its walk ended with, less the key bindings that are of no use.
-/

namespace DeskConfig

namespace Load

variable (source : String) (c : Config) (journal : Journal) (cause : LoadError)

/-- The checks warn after everything else. -/
@[simp] theorem diagnostics_finish : (finish source c journal).diagnostics =
    journal.diagnostics ++ (c.checkTrayButtons ++ c.checkKeys.warnings) := by
  simp only [diagnostics, finish, Journal.diagnostics_append, Journal.diagnostics_ofWarnings]
  exact List.append_nil _

@[simp] theorem calls_finish : (finish source c journal).calls = journal.calls := by
  simp only [calls, finish, Journal.calls_append, Journal.calls_ofWarnings, List.append_nil]
  exact List.append_nil _

@[simp] theorem diagnostics_fatal :
    (fatal journal cause).diagnostics = journal.diagnostics ++ [.ofLoadError cause] :=
  Journal.diagnostics_append _ _

@[simp] theorem calls_fatal : (fatal journal cause).calls = journal.calls := by
  simp only [calls, fatal, Journal.calls_append]
  exact List.append_nil _

@[simp] theorem calls_ofProgress (o : Options) (p : Progress) :
    (ofProgress o source p).calls = p.journal.calls := by
  unfold ofProgress
  split
  · exact calls_fatal _ _
  · exact calls_finish _ _ _

/-- Of what happened in a walk, the end of a load looks at nothing: it only adds to that. -/
theorem ofProgress_congr (o : Options) {p q : Progress} (hconfig : q.config = p.config)
    (hstopped : q.stopped = p.stopped) :
    (ofProgress o source q).outcome = (ofProgress o source p).outcome ∧
      ∃ closing, (ofProgress o source p).diagnostics = p.journal.diagnostics ++ closing ∧
        (ofProgress o source q).diagnostics = q.journal.diagnostics ++ closing := by
  unfold ofProgress
  rw [hconfig, hstopped]
  cases p.stopped with
  | true => exact ⟨rfl, _, diagnostics_fatal _ _, diagnostics_fatal _ _⟩
  | false => exact ⟨rfl, _, diagnostics_finish _ _ _, diagnostics_finish _ _ _⟩

end Load

theorem loadText_fails_iff (world : World) (o : Options) (label text : String)
    (cause : LoadError) :
    (loadText world o label text).outcome = .error cause ↔
      cause = .includeDepthExceeded o.includeDepth ∧
        (Load.walkText world o label text).stopped = true := by
  unfold loadText Load.ofProgress
  cases hs : (Load.walkText world o label text).stopped with
  | false => simp [Load.finish]
  | true => simp [Load.fatal, eq_comm]

theorem exists_loaded_of_not_stopped {world : World} {o : Options} {label text : String}
    (hs : (Load.walkText world o label text).stopped = false) :
    ∃ loaded, (loadText world o label text).outcome = .ok loaded := by
  unfold loadText Load.ofProgress
  rw [hs]
  exact ⟨_, rfl⟩

/-- The loads of a root document: as one held in memory, or as the file that was chosen. -/
inductive LoadOf (world : World) (o : Options) : (label text : String) → Load → Prop
  | held (label text : String) : LoadOf world o label text (loadText world o label text)
  | primary {text} : world.readText [] o.configPath = .ok text →
      LoadOf world o o.configPath text (load world o)
  | fallback {cause text} : world.readText [] o.configPath = .error cause →
      world.readText [] o.fallbackPath = .ok text →
      LoadOf world o o.fallbackPath text (load world o)

variable {world : World} {o : Options} {label text : String} {l : Load} {loaded : Loaded}

theorem LoadOf.outcome_eq (h : LoadOf world o label text l) :
    l.outcome = (loadText world o label text).outcome := by
  cases h with
  | held => rfl
  | primary hprimary =>
    unfold load
    rw [hprimary]
    rfl
  | fallback hprimary hfallback =>
    unfold load
    rw [hprimary, hfallback]
    rfl

/-- Finding the root document is not warned of. -/
theorem LoadOf.diagnostics_eq (h : LoadOf world o label text l) :
    l.diagnostics = (loadText world o label text).diagnostics := by
  cases h with
  | held => rfl
  | primary hprimary =>
    unfold load
    rw [hprimary]
    rfl
  | fallback hprimary hfallback =>
    unfold load
    rw [hprimary, hfallback]
    rfl

/-- A load reports what its walk reported, also when that was stopped. -/
theorem LoadOf.exists_diagnostics_eq (h : LoadOf world o label text l) :
    ∃ closing, l.diagnostics =
      (Load.walkText world o label text).journal.diagnostics ++ closing := by
  obtain ⟨-, closing, hclosing, -⟩ := Load.ofProgress_congr label o
    (p := Load.walkText world o label text) rfl rfl
  exact ⟨closing, h.diagnostics_eq.trans hclosing⟩

/-- The commands of a load are those of its walk, also when that was stopped. -/
theorem LoadOf.calls_eq (h : LoadOf world o label text l) :
    l.calls = (Load.walkText world o label text).journal.calls := by
  have htext : (loadText world o label text).calls =
      (Load.walkText world o label text).journal.calls := Load.calls_ofProgress label o _
  rw [← htext]
  cases h with
  | held => rfl
  | primary hprimary =>
    unfold load
    rw [hprimary]
    rfl
  | fallback hprimary hfallback =>
    unfold load
    rw [hprimary, hfallback]
    rfl

/-- A load succeeds only with a walk that goes through, and gives what that built, with
the key bindings checked. -/
theorem LoadOf.walked (h : LoadOf world o label text l) (hok : l.outcome = .ok loaded) :
    (Load.walkText world o label text).stopped = false ∧
      loaded.config = (Load.walkText world o label text).config.checkKeys.value := by
  rw [h.outcome_eq, loadText, Load.ofProgress] at hok
  cases hs : (Load.walkText world o label text).stopped with
  | true =>
    rw [hs] at hok
    simp only [if_true, Load.fatal] at hok
    contradiction
  | false =>
    rw [hs] at hok
    simp only [Bool.false_eq_true, if_false, Load.finish, Except.ok.injEq] at hok
    exact ⟨rfl, by rw [← hok]⟩

/-- A load that succeeds warns of what the walk met and then of what the checks found. -/
theorem LoadOf.diagnostics_of_ok (h : LoadOf world o label text l) (hok : l.outcome = .ok loaded) :
    l.diagnostics = (Load.walkText world o label text).journal.diagnostics ++
      ((Load.walkText world o label text).config.checkTrayButtons ++
        (Load.walkText world o label text).config.checkKeys.warnings) := by
  rw [h.diagnostics_eq, loadText, Load.ofProgress, (h.walked hok).1]
  exact Load.diagnostics_finish label _ _

/-- A load that fails says so after what its walk met. -/
theorem LoadOf.diagnostics_of_error {cause : LoadError} (h : LoadOf world o label text l)
    (hfail : l.outcome = .error cause) :
    l.diagnostics =
      (Load.walkText world o label text).journal.diagnostics ++ [.ofLoadError cause] := by
  rw [h.outcome_eq] at hfail
  obtain ⟨rfl, hs⟩ := (loadText_fails_iff world o label text cause).mp hfail
  rw [h.diagnostics_eq, loadText, Load.ofProgress, if_pos hs]
  exact Load.diagnostics_fatal _ _

end DeskConfig
