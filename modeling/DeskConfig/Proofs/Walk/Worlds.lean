import DeskConfig.Proofs.Walk.Include

/-!
Worlds that answer alike. A walk asks its world only for files, for variables and for what the
commands that it runs print. What it reads of an include is therefore the same in two worlds
that answer these alike.
-/

namespace DeskConfig

open Markup (Element Tag)

/-- The second world answers after `history'` what the first one answers after
`history`, as long as the given calls are made. How a command ended does not count. -/
structure World.Alike (world world' : World) (history history' calls : List Call) : Prop where
  environment : world'.environment = world.environment
  files : ∀ done, done <+: calls →
    world'.files (history' ++ done) = world.files (history ++ done)
  outputs : ∀ done call, done ++ [call] <+: calls →
    (world'.run (history' ++ done) call).map (·.output) =
      (world.run (history ++ done) call).map (·.output)

namespace World.Alike

variable {world world' : World} {history history' calls later : List Call}

theorem refl (world : World) (history calls : List Call) :
    World.Alike world world history history calls where
  environment := rfl
  files := fun _ _ => rfl
  outputs := fun _ _ _ => rfl

theorem of_prefix (h : World.Alike world world' history history' calls) (hd : later <+: calls) :
    World.Alike world world' history history' later where
  environment := h.environment
  files := fun done hdone => h.files done (hdone.trans hd)
  outputs := fun done call hdone => h.outputs done call (hdone.trans hd)

theorem before (h : World.Alike world world' history history' (calls ++ later)) :
    World.Alike world world' history history' calls := h.of_prefix (List.prefix_append _ _)

theorem after (h : World.Alike world world' history history' (calls ++ later)) :
    World.Alike world world' (history ++ calls) (history' ++ calls) later where
  environment := h.environment
  files := by
    intro done hd
    have hfiles := h.files (calls ++ done) ((List.prefix_append_right_inj calls).mpr hd)
    simpa only [List.append_assoc] using hfiles
  outputs := by
    intro done call hd
    have hprefix : (calls ++ done) ++ [call] <+: calls ++ later := by
      rw [List.append_assoc]
      exact (List.prefix_append_right_inj calls).mpr hd
    simpa only [List.append_assoc] using h.outputs (calls ++ done) call hprefix

end World.Alike

section References

variable {world world' : World}

theorem expandPath_of_environment (h : world'.environment = world.environment)
    (reference : String) : world'.expandPath reference = world.expandPath reference := by
  simp only [World.expandPath, h]

theorem ofReference_of_environment (h : world'.environment = world.environment)
    (reference : String) :
    Source.ofReference world' reference = Source.ofReference world reference := by
  simp only [Source.ofReference, expandPath_of_environment h]

theorem ofMenuReference_of_environment (h : world'.environment = world.environment)
    (reference : String) :
    Source.ofMenuReference world' reference = Source.ofMenuReference world reference := by
  simp only [Source.ofMenuReference, ofReference_of_environment h]

theorem declare_of_environment (h : world'.environment = world.environment) (parent : Tag)
    (e : Element) (c : Config) : c.declare world' parent e = c.declare world parent e := by
  have hpath : Config.readPath world' e = Config.readPath world e := by
    simp only [Config.readPath, expandPath_of_environment h]
  simp only [Config.declare, hpath]

end References

theorem resolve_of_alike {world world' : World} {shell : String}
    {history history' : List Call} {source : Source}
    (h : World.Alike world world' history history' (source.calls shell)) :
    (resolve world' shell history' source).1 = (resolve world shell history source).1 := by
  cases source with
  | file path =>
    have hfiles : world'.files history' = world.files history := by
      simpa using h.files [] (List.nil_prefix)
    have htext : world'.readText history' path = world.readText history path := by
      simp only [World.readText, hfiles]
    simp only [resolve, htext]
  | command line =>
    have houtput := h.outputs [] { shell, command := line } (List.prefix_refl _)
    simp only [List.append_nil] at houtput
    simp only [resolve]
    cases hr : world.run history { shell, command := line } with
    | none =>
      rw [hr, Option.map_none, Option.map_eq_none_iff] at houtput
      rw [houtput]
    | some r =>
      rw [hr, Option.map_some, Option.map_eq_some_iff] at houtput
      obtain ⟨r', hr', heq⟩ := houtput
      rw [hr']
      simp only [heq]

end DeskConfig
