import DeskConfig.Proofs.Include.TextFiles
import DeskConfig.Proofs.Load.Result
import DeskConfig.Proofs.Walk.Likeness

/-!
Loads under a higher include limit. The limit decides nothing but whether an include is
entered, so a load that it does not stop comes to the same under every higher one.
-/

namespace DeskConfig

open Markup (Element)

/-- The same options with another include limit. -/
def Options.withLimit (o : Options) (limit : Nat) : Options := { o with includeDepth := limit }

/-- Loads that come to the same: the outcome with its source, the warnings and the commands. -/
structure Load.Alike (l l' : Load) : Prop where
  outcome : l'.outcome = l.outcome
  diagnostics : l'.diagnostics = l.diagnostics
  calls : l'.calls = l.calls

namespace Load.Alike

variable {l l' : Load}

theorem noting (h : l.Alike l') (events : Journal) : (l.noting events).Alike (l'.noting events) where
  outcome := h.outcome
  diagnostics := by
    have hd := h.diagnostics
    simp only [Load.diagnostics, Load.noting, Journal.diagnostics_append] at hd ⊢
    rw [hd]
  calls := by
    have hc := h.calls
    simp only [Load.calls, Load.noting, Journal.calls_append] at hc ⊢
    rw [hc]

end Load.Alike

section HigherLimit

variable {world : World} {o : Options} {limit : Nat} {label text : String}

/-- A higher limit has room for at least as many includes. -/
theorem Options.budget_le_withLimit (h : o.includeDepth ≤ limit) :
    o.limits.budget 0 ≤ (o.withLimit limit).limits.budget 0 := by
  have hlow : o.limits.includeDepth = o.includeDepth := rfl
  have hhigh : (o.withLimit limit).limits.includeDepth = limit := rfl
  unfold Limits.budget
  rw [hlow, hhigh]
  split <;> split <;> omega

theorem walkText_withLimit (h : o.includeDepth ≤ limit)
    (hs : (Load.walkText world o label text).stopped = false) :
    (Load.walkText world o label text).Alike
      (Load.walkText world (o.withLimit limit) label text) := by
  unfold Load.walkText at hs ⊢
  cases hparse : Markup.parse label text with
  | error cause => exact .refl _
  | ok es =>
    rw [hparse] at hs
    have hshell : (o.withLimit limit).limits.shell = o.limits.shell := rfl
    have hdepth : o.limits.includeDepth ≤ (o.withLimit limit).limits.includeDepth := h
    have hincludes : Includes.Alike world world
        (includesAt world o.limits (o.limits.budget 0) 0)
        (includesAt world (o.withLimit limit).limits ((o.withLimit limit).limits.budget 0) 0) :=
      includesAt_alike hshell hdepth (Options.budget_le_withLimit h) (Nat.min_le_left _ _)
    exact walkDocument_alike hincludes es {} [] [] hs (.refl world [] _)

/-- What the end of a load makes of walks that are alike. -/
theorem Load.ofProgress_alike {p q : Progress} (source : String) (hp : p.stopped = false)
    (h : p.Alike q) :
    (Load.ofProgress o source p).Alike (Load.ofProgress (o.withLimit limit) source q) := by
  have hq := h.stopped.trans hp
  have hfinish : Load.ofProgress (o.withLimit limit) source q =
      Load.finish source p.config q.journal := by
    rw [Load.ofProgress, hq, h.config]
    rfl
  have hstart : Load.ofProgress o source p = Load.finish source p.config p.journal := by
    rw [Load.ofProgress, hp]
    rfl
  rw [hstart, hfinish]
  constructor
  · rfl
  · rw [Load.diagnostics_finish, Load.diagnostics_finish, h.diagnostics]
  · rw [Load.calls_finish, Load.calls_finish, h.calls]

theorem loadText_withLimit {loaded : Loaded} (h : o.includeDepth ≤ limit)
    (hok : (loadText world o label text).outcome = .ok loaded) :
    (loadText world o label text).Alike (loadText world (o.withLimit limit) label text) := by
  have hs := ((LoadOf.held label text).walked hok).1
  exact Load.ofProgress_alike label hs (walkText_withLimit h hs)

/-- Which file is loaded does not depend on the limit. -/
theorem load_withLimit {loaded : Loaded} (h : o.includeDepth ≤ limit)
    (hok : (load world o).outcome = .ok loaded) :
    (load world o).Alike (load world (o.withLimit limit)) := by
  have hprimary : (o.withLimit limit).configPath = o.configPath := rfl
  have hfallback : (o.withLimit limit).fallbackPath = o.fallbackPath := rfl
  unfold load at hok ⊢
  rw [hprimary, hfallback]
  cases hread : world.readText [] o.configPath with
  | ok text =>
    rw [hread] at hok
    exact (loadText_withLimit h hok).noting _
  | error cause =>
    rw [hread] at hok
    cases hread' : world.readText [] o.fallbackPath with
    | ok text =>
      rw [hread'] at hok
      exact ((loadText_withLimit h hok).noting _).noting _
    | error cause' =>
      rw [hread'] at hok
      contradiction

end HigherLimit

/-- A load that succeeds under some include limit succeeds under every higher one, with the
same configuration from the same source, the same warnings and the same commands. -/
theorem higher_limit_changes_nothing (world : World) (o : Options) (limit : Nat)
    (hlimit : o.includeDepth ≤ limit) :
    (∀ loaded, (load world o).outcome = .ok loaded →
      (load world (o.withLimit limit)).outcome = .ok loaded ∧
      (load world (o.withLimit limit)).diagnostics = (load world o).diagnostics ∧
      (load world (o.withLimit limit)).calls = (load world o).calls) ∧
    ∀ label text loaded, (loadText world o label text).outcome = .ok loaded →
      (loadText world (o.withLimit limit) label text).outcome = .ok loaded ∧
      (loadText world (o.withLimit limit) label text).diagnostics =
        (loadText world o label text).diagnostics ∧
      (loadText world (o.withLimit limit) label text).calls =
        (loadText world o label text).calls := by
  refine ⟨?_, ?_⟩
  · intro loaded hok
    have halike := load_withLimit hlimit hok
    exact ⟨halike.outcome.trans hok, halike.diagnostics, halike.calls⟩
  · intro label text loaded hok
    have halike := loadText_withLimit hlimit hok
    exact ⟨halike.outcome.trans hok, halike.diagnostics, halike.calls⟩

/-- The text of a configuration whose only root menu runs a command. -/
def generatingText : String := "<JWM><RootMenu><Include>exec:date</Include></RootMenu></JWM>"

/-- Room for one include only. -/
def tightOptions : Options := (Options.default { entries := [] }).withLimit 1

/-- One include is all that the text needs, so a limit of eight is the same to it, loaded from
a file or from memory. The command is run, though it cannot be started. -/
theorem higher_limit_changes_nothing_generated :
    (∃ loaded, (load (World.holding "~/.jwmrc" generatingText) tightOptions).outcome =
        .ok loaded ∧
      (load (World.holding "~/.jwmrc" generatingText) (tightOptions.withLimit 8)).outcome =
        .ok loaded ∧
      (load (World.holding "~/.jwmrc" generatingText) (tightOptions.withLimit 8)).calls =
        [⟨"/bin/sh", "date"⟩]) ∧
    ∃ loaded, (loadText (World.holding "" "") tightOptions "jwmrc" generatingText).outcome =
        .ok loaded ∧
      (loadText (World.holding "" "") (tightOptions.withLimit 8) "jwmrc"
        generatingText).outcome = .ok loaded := by
  have hpath : tightOptions.configPath = "~/.jwmrc" := by decide +kernel
  have hfile : (World.holding "~/.jwmrc" generatingText).readText [] tightOptions.configPath =
      .ok generatingText := by
    rw [hpath]
    exact World.readText_holding (by decide +kernel) []
  have hwalk : (Load.walkText (World.holding "~/.jwmrc" generatingText) tightOptions
      tightOptions.configPath generatingText).stopped = false := by decide +kernel
  have hheld : (Load.walkText (World.holding "" "") tightOptions "jwmrc"
      generatingText).stopped = false := by decide +kernel
  have hcalls : (load (World.holding "~/.jwmrc" generatingText) tightOptions).calls =
      [⟨"/bin/sh", "date"⟩] := by
    rw [(LoadOf.primary hfile).calls_eq]
    decide +kernel
  obtain ⟨loaded, hloaded⟩ := exists_loaded_of_not_stopped hwalk
  obtain ⟨loaded', hloaded'⟩ := exists_loaded_of_not_stopped hheld
  have hok : (load (World.holding "~/.jwmrc" generatingText) tightOptions).outcome =
      .ok loaded :=
    (LoadOf.primary hfile).outcome_eq.trans hloaded
  obtain ⟨hfromFile, -, hsame⟩ := (higher_limit_changes_nothing
    (World.holding "~/.jwmrc" generatingText) tightOptions 8 (by decide)).1 loaded hok
  obtain ⟨hfromText, -, -⟩ := (higher_limit_changes_nothing (World.holding "" "")
    tightOptions 8 (by decide)).2 "jwmrc" generatingText loaded' hloaded'
  exact ⟨⟨loaded, hok, hfromFile, hsame.trans hcalls⟩, loaded', hloaded', hfromText⟩

end DeskConfig
