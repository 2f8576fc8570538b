import DeskConfig.Proofs.Include.TextFiles
import DeskConfig.Proofs.Load.Result

/-!
The file that is loaded. Which of the two root files it is depends only on whether the first
of them can be read, and from there on its text is loaded like one held in memory. A load
without a root file is the only one that ends for want of it, and it comes to nothing else.
-/

namespace DeskConfig

section RootFile

variable {world : World} {o : Options} {path text : String} {cause cause' : IncludeError}
  {l : Load} {loaded : Loaded}

/-- A text that is loaded is never missed. -/
theorem loadText_ne_noRootConfig (world : World) (o : Options) (label text : String)
    (primary fallback : String) :
    (loadText world o label text).outcome ≠ .error (.noRootConfig primary fallback) := by
  intro h
  obtain ⟨hcause, -⟩ := (loadText_fails_iff world o label text _).mp h
  contradiction

theorem source_of_loadText (hok : (loadText world o path text).outcome = .ok loaded) :
    loaded.source = path := by
  unfold loadText Load.ofProgress at hok
  split at hok
  · contradiction
  · simp only [Load.finish, Except.ok.injEq] at hok
    rw [← hok]

/-- What a load from a file has in common with the load of its text. -/
structure Load.IsOf (world : World) (o : Options) (path text : String) (l : Load) : Prop where
  outcome : l.outcome = (loadText world o path text).outcome
  diagnostics : l.diagnostics = (loadText world o path text).diagnostics
  calls : l.calls = (loadText world o path text).calls
  source : ∀ loaded, l.outcome = .ok loaded → loaded.source = path

theorem LoadOf.isOf (h : LoadOf world o path text l) : l.IsOf world o path text where
  outcome := h.outcome_eq
  diagnostics := h.diagnostics_eq
  calls := h.calls_eq.trans (LoadOf.held path text).calls_eq.symm
  source := fun _ hok => source_of_loadText (h.outcome_eq.symm.trans hok)

/-- Behind a first file that can be read, there may be any other. -/
theorem load_of_other_fallback (hprimary : world.readText [] o.configPath = .ok text)
    (fallback : String) : load world { o with fallbackPath := fallback } = load world o := by
  simp only [load, hprimary]
  rfl

theorem load_of_unreadable (hprimary : world.readText [] o.configPath = .error cause)
    (hfallback : world.readText [] o.fallbackPath = .error cause') :
    (load world o).outcome = .error (.noRootConfig o.configPath o.fallbackPath) ∧
      (load world o).diagnostics =
        [.ofLoadError (.noRootConfig o.configPath o.fallbackPath)] ∧
      (load world o).calls = [] := by
  simp only [load, hprimary, hfallback, Load.diagnostics_fatal, Load.calls_fatal]
  exact ⟨rfl, rfl, rfl⟩

end RootFile

/-- A file of one's own and one for all. -/
def twoFiles : Options where
  configPath := "own"
  fallbackPath := "all"
  includeDepth := 8
  shell := "/bin/sh"

end DeskConfig
