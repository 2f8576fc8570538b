import DeskConfig.Proofs.Load.Result
import DeskConfig.Proofs.Walk.TwoRuns

/-!
Two loads of one text, under labels that are not told apart and in worlds that answer alike. A
walk is the same up to labels, and so are the checks at its end: the two loads have the same
outcome, the same warnings and the same commands, up to labels.
-/

namespace DeskConfig

variable {f : String → String} {world world' : World} {o : Options} {label label' text : String}

/-- The same result under other labels. -/
def Loaded.relabel (f : String → String) (loaded : Loaded) : Loaded where
  config := loaded.config.relabel f
  source := f loaded.source

/-- Loads that come to the same up to labels. -/
structure Load.AlikeUpTo (f : String → String) (l l' : Load) : Prop where
  outcome : l'.outcome.map (·.relabel f) = l.outcome.map (·.relabel f)
  diagnostics : l'.diagnostics.map (·.relabel f) = l.diagnostics.map (·.relabel f)
  calls : l'.calls = l.calls

namespace Load

theorem AlikeUpTo.noting {l l' : Load} (h : l.AlikeUpTo f l') (events : Journal) :
    (l.noting events).AlikeUpTo f (l'.noting events) where
  outcome := h.outcome
  diagnostics := by
    have hd := h.diagnostics
    simp only [Load.diagnostics, Load.noting, Journal.diagnostics_append, List.map_append]
      at hd ⊢
    rw [hd]
  calls := by
    have hc := h.calls
    simp only [Load.calls, Load.noting, Journal.calls_append] at hc ⊢
    rw [hc]

/-- Stops count here: a load that fails fails in both runs. -/
theorem walkText_alikeUpTo (hlabel : f label' = f label)
    (hworld : World.Alike world world' [] [] (walkText world o label text).journal.calls) :
    (walkText world o label text).AlikeUpTo f (walkText world' o label' text) := by
  unfold walkText at hworld ⊢
  obtain ⟨cause, cause', hes, hes', hcause⟩ | ⟨es, es', hes, hes', hrelabel⟩ :=
    Markup.parse_of_labels hlabel text
  · have horigin : cause'.origin.relabel f = cause.origin.relabel f := congrArg (·.origin) hcause
    have hfault : cause'.fault = cause.fault := congrArg (·.fault) hcause
    rw [hes, hes']
    refine ⟨rfl, ?_, rfl, rfl⟩
    show [(Diagnostic.ofMarkup cause').relabel f] = [(Diagnostic.ofMarkup cause).relabel f]
    rw [Diagnostic.ofMarkup, ← Diagnostic.located_relabel, horigin, hfault]
    rfl
  · rw [hes] at hworld
    rw [hes, hes']
    let k : TwoRuns := { label := f, stops := True, world, world' }
    have hinc : k.Documents (includesAt world o.limits (o.limits.budget 0) 0)
        (includesAt world' o.limits (o.limits.budget 0) 0) :=
      TwoRuns.documents rfl (.refl _ _ _)
    exact TwoRuns.document hinc es es' hrelabel rfl [] [] (fun _ => trivial) hworld

/-- The checks at the end of a load look at no label. -/
theorem ofProgress_alikeUpTo {p q : Progress} (hlabel : f label' = f label)
    (h : p.AlikeUpTo f q) :
    (ofProgress o label p).AlikeUpTo f (ofProgress o label' q) := by
  have hstopped := h.stopped
  cases hp : p.stopped with
  | true =>
    rw [hp] at hstopped
    rw [ofProgress, ofProgress, if_pos hp, if_pos hstopped]
    refine ⟨rfl, ?_, ?_⟩
    · rw [diagnostics_fatal, diagnostics_fatal, List.map_append, List.map_append, h.diagnostics]
    · rw [calls_fatal, calls_fatal, h.calls]
  | false =>
    rw [hp] at hstopped
    rw [ofProgress, ofProgress, hp, hstopped]
    have hkeys : (Config.relabel f <$> q.config.checkKeys).relabel f =
        (Config.relabel f <$> p.config.checkKeys).relabel f := by
      rw [← Config.checkKeys_relabel, ← Config.checkKeys_relabel, h.config]
    have hbuttons : q.config.checkTrayButtons.map (·.relabel f) =
        p.config.checkTrayButtons.map (·.relabel f) := by
      rw [← Config.checkTrayButtons_relabel, ← Config.checkTrayButtons_relabel, h.config]
    obtain ⟨hchecked, hwarnings⟩ := Reading.of_relabel hkeys
    rw [Reading.warnings_map, Reading.warnings_map] at hwarnings
    refine ⟨?_, ?_, ?_⟩
    · have hloaded : Loaded.relabel f ⟨q.config.checkKeys.value, label'⟩ =
          Loaded.relabel f ⟨p.config.checkKeys.value, label⟩ := by
        rw [Loaded.relabel, Loaded.relabel, hlabel]
        exact congrArg (fun config => Loaded.mk config (f label)) hchecked
      exact congrArg Except.ok hloaded
    · simp only [Bool.false_eq_true, if_false, diagnostics_finish, List.map_append, h.diagnostics,
        hbuttons, hwarnings]
    · simp only [Bool.false_eq_true, if_false, calls_finish, h.calls]

end Load

theorem loadText_alikeUpTo (hlabel : f label' = f label)
    (hworld : World.Alike world world' [] [] (loadText world o label text).calls) :
    (loadText world o label text).AlikeUpTo f (loadText world' o label' text) := by
  rw [loadText, Load.calls_ofProgress] at hworld
  exact Load.ofProgress_alikeUpTo hlabel (Load.walkText_alikeUpTo hlabel hworld)

/-- The root file is chosen before any command is run. -/
theorem load_alikeUpTo (hworld : World.Alike world world' [] [] (load world o).calls) :
    (load world o).AlikeUpTo f (load world' o) := by
  have hread : ∀ path, world'.readText [] path = world.readText [] path := by
    intro path
    have hfiles := hworld.files [] List.nil_prefix
    rw [List.append_nil] at hfiles
    rw [World.readText, World.readText, hfiles]
  unfold load at hworld ⊢
  rw [hread, hread]
  cases hprimary : world.readText [] o.configPath with
  | ok text =>
    rw [hprimary] at hworld
    exact (loadText_alikeUpTo rfl hworld).noting _
  | error cause =>
    rw [hprimary] at hworld
    cases hfallback : world.readText [] o.fallbackPath with
    | ok text =>
      rw [hfallback] at hworld
      exact ((loadText_alikeUpTo rfl hworld).noting _).noting _
    | error cause' => exact ⟨rfl, rfl, rfl⟩

end DeskConfig
