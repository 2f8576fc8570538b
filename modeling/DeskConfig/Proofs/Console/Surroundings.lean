import DeskConfig.Proofs.Include.Queries
import DeskConfig.Proofs.Walk.Locality
import DeskConfig.Surroundings

/-!
Looking around. What commands answer and write depends on the files that they notice only, so a
run in surroundings that lack nothing is the run among all files.
-/

namespace DeskConfig

namespace Shell

variable {environment : Environment} {files files' : Files} {history : List Call}

theorem asked_writtenFrom_append (written : List (Path × Text)) (xs ys : List Call) :
    (writtenFrom environment written (xs ++ ys)).asked files =
      (writtenFrom environment written xs).asked files ++
        (writtenFrom environment ((writtenFrom environment written xs).run files) ys).asked
          files := by
  induction xs generalizing written with
  | nil => rfl
  | cons call xs ih =>
    rw [List.cons_append, writtenFrom, writtenFrom, Query.asked_bind, Query.asked_bind,
      Query.run_bind, ih, List.append_assoc]

theorem noticed_append (xs ys : List Call) :
    noticed environment files (xs ++ ys) =
      noticed environment files xs ++
        (writtenFrom environment (writtenAfter environment files xs) ys).asked files :=
  asked_writtenFrom_append [] xs ys

theorem mem_noticed_append {path : String} (h : path ∈ noticed environment files history)
    (later : List Call) : path ∈ noticed environment files (history ++ later) := by
  rw [noticed_append]
  exact List.mem_append_left _ h

theorem writtenAfter_congr
    (h : ∀ path ∈ noticed environment files history, files' path = files path) :
    writtenAfter environment files' history = writtenAfter environment files history :=
  Query.run_congr h

/-- A file is what it was, or what the commands so far have made of it. -/
theorem fileAfter_congr {path : String}
    (h : ∀ path ∈ noticed environment files history, files' path = files path)
    (hpath : files' path = files path) :
    fileAfter environment files' history path = fileAfter environment files history path := by
  rw [fileAfter, fileAfter, writtenAfter_congr h, hpath]

theorem execute_congr {call : Call}
    (h : ∀ path ∈ noticed environment files (history ++ [call]), files' path = files path) :
    execute environment files' history call = execute environment files history call := by
  rw [noticed_append, List.forall_mem_append] at h
  obtain ⟨hbefore, hcall⟩ := h
  have houtcome : ∀ path ∈ (outcome? environment (writtenAfter environment files history)
      call).asked files, files' path = files path := by
    intro path hpath
    refine hcall path ?_
    rw [writtenFrom, Query.asked_bind]
    exact List.mem_append_left _ hpath
  rw [execute, execute, writtenAfter_congr hbefore, Query.run_congr houtcome]

/-- The induction is on the journal, with the calls before it. -/
theorem agreeAlong_world {journal : Journal}
    (hpaths : ∀ path ∈ journal.paths, files' path = files path)
    (h : ∀ path ∈ noticed environment files (history ++ journal.calls), files' path = files path) :
    (world environment files).AgreeAlong (world environment files') history journal := by
  induction journal generalizing history with
  | nil => trivial
  | cons event events ih =>
    rw [Journal.calls_cons, ← List.append_assoc] at h
    simp only [Journal.mem_paths_cons] at hpaths
    have hevent : ∀ path ∈ noticed environment files (history ++ event.call?.toList),
        files' path = files path := fun path hpath => h path (mem_noticed_append hpath _)
    refine ⟨⟨?_, ?_⟩, ih (fun path hpath => hpaths path (.inr hpath)) h⟩
    · intro path hpath
      refine fileAfter_congr ?_ (hpaths path (.inl hpath))
      exact fun path hpath => hevent path (mem_noticed_append hpath _)
    · intro call hcall
      rw [hcall] at hevent
      exact execute_congr hevent

end Shell

/-- A run depends on its world through the answers to its journal only. -/
theorem run_of_agree {world world' : World} (henv : world'.environment = world.environment)
    {args : List String} (h : world.AgreeAlong world' [] (journalOf world args)) :
    run world' args = run world args := by
  cases hparse : Invocation.parse args with
  | error e => simp only [run, hparse]
  | ok i =>
    simp only [run, journalOf, hparse, henv] at h ⊢
    cases hcommand : i.command with
    | version => simp only [Report.ofInvocation, hcommand]
    | check =>
      have hload := load_of_agree henv (by simpa [hcommand] using h)
      simp only [Report.ofInvocation, hcommand, Report.check, henv, hload]
    | dump =>
      have hload := load_of_agree henv (by simpa [hcommand] using h)
      simp only [Report.ofInvocation, hcommand, Report.dump, henv, hload]

namespace Surroundings

/-- What has been seen of files is as they are. -/
def Sees (s : Surroundings) (files : Files) : Prop :=
  ∀ found ∈ s.seen, found.2 = files found.1

variable {s : Surroundings} {files : Files}

theorem sees_ofEnvironment (bytes : List UInt8) : (ofEnvironment bytes).Sees files := nofun

theorem Sees.note (h : s.Sees files) (path : String) : (s.note path (files path)).Sees files :=
  List.forall_mem_cons.mpr ⟨rfl, h⟩

theorem Sees.files_eq (h : s.Sees files) {path : String}
    (hseen : s.seen.any (·.1 == path) = true) : s.files path = files path := by
  obtain ⟨found, hfound⟩ : ∃ found, s.seen.find? (·.1 == path) = some found := by
    rw [← Option.isSome_iff_exists, List.find?_isSome]
    exact List.any_eq_true.mp hseen
  have hpath : found.1 = path := by simpa using List.find?_some hfound
  rw [Surroundings.files, hfound, ← hpath]
  exact h found (List.mem_of_find?_eq_some hfound)

/-- A run that misses nothing is the run among all files. -/
theorem Sees.run_eq (h : s.Sees files) {args : List String} (hall : s.missing? args = none) :
    run s.world args = run (Shell.world s.environment files) args := by
  have hsame : ∀ path ∈ (journalOf s.world args).paths ++
      Shell.noticed s.environment s.files (journalOf s.world args).calls,
      files path = s.files path := by
    intro path hpath
    have hseen := List.find?_eq_none.mp hall path hpath
    exact (h.files_eq (by simpa using hseen)).symm
  obtain ⟨hpaths, hnoticed⟩ := List.forall_mem_append.mp hsame
  have hagree : s.world.AgreeAlong (Shell.world s.environment files) []
      (journalOf s.world args) := Shell.agreeAlong_world hpaths hnoticed
  have henv : (Shell.world s.environment files).environment = s.world.environment := rfl
  exact (run_of_agree henv hagree).symm

end Surroundings

end DeskConfig
