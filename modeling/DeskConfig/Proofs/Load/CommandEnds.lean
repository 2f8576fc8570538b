import DeskConfig.Proofs.Load.HigherLimit
import DeskConfig.Proofs.Load.TwoRuns
import DeskConfig.Proofs.Walk.Transparency

/-!
How commands end does not matter. A load uses what a command prints and whether it could be
started; the exit code, the signal that killed it and what it printed as errors change nothing
of what comes of the load.
-/

namespace DeskConfig

/-- Up to no change of labels, loads that come to the same come to the very same. -/
theorem Load.alikeUpTo_id_iff {l l' : Load} : l.AlikeUpTo id l' ↔ l.Alike l' := by
  have hloaded : ∀ outcome : Except LoadError Loaded,
      outcome.map (·.relabel id) = outcome := by
    rintro (cause | ⟨config, source⟩)
    · rfl
    · simp [Except.map, Loaded.relabel]
  constructor
  · rintro ⟨houtcome, hdiagnostics, hcalls⟩
    exact ⟨by simpa only [hloaded] using houtcome, by simpa using hdiagnostics, hcalls⟩
  · rintro ⟨houtcome, hdiagnostics, hcalls⟩
    exact ⟨by simpa only [hloaded] using houtcome, by simpa using hdiagnostics, hcalls⟩

/-- Lists of answers with the same outputs, and with none at the same positions, make worlds
that answer alike. -/
theorem World.alike_answering (files : String → Option (List UInt8)) (environment : Environment)
    {answers answers' : List (Option CommandResult)}
    (h : answers'.map (·.map (·.output)) = answers.map (·.map (·.output)))
    (history calls : List Call) :
    World.Alike (answering files environment answers) (answering files environment answers')
      history history calls where
  environment := rfl
  files := fun _ _ => rfl
  outputs := by
    intro done call _
    have hanswer := congrArg (·[(history ++ done).length]?.join) h
    simpa only [answering, List.getElem?_map, Option.join_map_eq_map_join] using hanswer

/-- A load comes to the same in every world with the same files and the same environment in
which its commands print the same and fail to start at the same points: the same outcome with
its source, successful or not, the same warnings and the same commands. -/
theorem command_ends_do_not_matter (world world' : World) (o : Options) :
    (World.Alike world world' [] [] (load world o).calls →
      (load world o).Alike (load world' o)) ∧
    ∀ label text, World.Alike world world' [] [] (loadText world o label text).calls →
      (loadText world o label text).Alike (loadText world' o label text) :=
  ⟨fun hworld => Load.alikeUpTo_id_iff.mp (load_alikeUpTo hworld),
    fun _ _ hworld => Load.alikeUpTo_id_iff.mp (loadText_alikeUpTo rfl hworld)⟩

/-- A world without files whose first command prints a menu and ends like this; no other
command can be started. -/
def endingWorld (errors : String) (code : Option Int) (succeeded : Bool) : World :=
  .answering (fun _ => none) { entries := [] }
    [some { output := "<Menu><Exit/><Include>exec:more</Include></Menu>", errors, code, succeeded }]

/-- It makes no difference whether the command that prints a menu succeeds or is killed. -/
theorem command_ends_do_not_matter_killed :
    let text := "<JWM><RootMenu><Include>exec:menu</Include></RootMenu></JWM>"
    (loadText (endingWorld "" (some 0) true) (.default { entries := [] }) "jwmrc" text).calls =
      [⟨"/bin/sh", "menu"⟩, ⟨"/bin/sh", "more"⟩] ∧
    (loadText (endingWorld "" (some 0) true) (.default { entries := [] }) "jwmrc" text).Alike
      (loadText (endingWorld "broken pipe" none false) (.default { entries := [] }) "jwmrc"
        text) := by
  refine ⟨by decide +kernel, (command_ends_do_not_matter _ _ _).2 _ _ ?_⟩
  unfold endingWorld
  exact World.alike_answering _ _ (by rfl) [] _

end DeskConfig
