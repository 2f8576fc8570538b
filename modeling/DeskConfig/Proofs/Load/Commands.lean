import DeskConfig.Proofs.Settings.Keys
import DeskConfig.Proofs.Walk.Coverage
import DeskConfig.Proofs.Walk.IncludeLimit

/-!
The commands of a load. They are those that the includes in menus ask for, in the order in
which the walk comes to these includes, with included documents in place. Nothing else runs a
command, and none is run once the walk is stopped.
-/

namespace DeskConfig

open Markup (Element)

namespace Pending

/-- An include among the items of a menu asks for a command. -/
structure Asks (limits : Limits) (p : Pending) (call : Call) : Prop where
  inMenu : ∃ level, p.standing = .item level
  tag : p.element.tag = .include
  text : p.element.text = some (Source.execMark ++ call.command)
  shell : call.shell = limits.shell
  depth : limits.Admits p.depth

theorem call?_eq_some_iff {limits : Limits} {p : Pending} {call : Call} :
    p.call? limits = some call ↔ p.Asks limits call := by
  constructor
  · intro h
    unfold call? at h
    split at h
    · next level text hstanding htag htext =>
      split at h
      · next hdepth =>
        obtain ⟨line, hline, rfl⟩ := Option.map_eq_some_iff.mp h
        rw [KeyAction.after?_toList.mp hline] at htext
        exact ⟨⟨level, hstanding⟩, htag, htext, rfl, hdepth⟩
      · contradiction
    · contradiction
  · rintro ⟨⟨level, hstanding⟩, htag, htext, hshell, hdepth⟩
    have hline : Environment.after? Source.execMark.toList
        (Source.execMark ++ call.command).toList = some call.command.toList :=
      KeyAction.after?_toList.mpr (by rw [String.ofList_toList])
    obtain ⟨shell, command⟩ := call
    simp only at hshell htext hline
    simp only [call?, hstanding, htag, htext, hline, if_pos hdepth, Option.map_some,
      String.ofList_toList, hshell]

end Pending

theorem Limits.admits_iff {limits : Limits} (hlimit : limits.includeDepth < Text.maxWord)
    (depth : Nat) : limits.Admits depth ↔ depth < limits.includeDepth := by
  unfold Admits
  omega

/-- What a load has before it when it starts. -/
def Agenda.ofRoot (label text : String) : Agenda where
  pending := Pending.all 0 .top (rootElements label text)

/-- The walk of a document goes through the agenda of its load. -/
theorem goesThrough_walkText (world : World) (o : Options) (label text : String) :
    (Load.walkText world o label text).GoesThrough world o.limits
      (Pending.all 0 .top (rootElements label text)) [] {} := by
  unfold Load.walkText rootElements
  cases Markup.parse label text with
  | ok es => exact goesThrough_document (goThrough_includesAt (o.limits.le_budget 0)) es {} []
  | error cause => exact ⟨[], .nothing, rfl⟩

theorem covers_walkText (world : World) (o : Options) (label text : String) :
    Covers world o.limits (Pending.all 0 .top (rootElements label text)) []
      (Load.walkText world o label text).stopped
      (Load.walkText world o label text).journal.calls :=
  let ⟨_, hvisits, _⟩ := goesThrough_walkText world o label text
  hvisits.covers

/-- A load runs one command for each include in a menu that asks for one and that the walk
comes to, and no other, in the order of the walk. The walk comes to the end of its agenda when
the load succeeds, and otherwise as far as an include at the limit; this is the only way
through. Without a root document nothing is run. -/
theorem commands_are_those_asked_for (world : World) (o : Options) :
    (∀ (p : Pending) call, p.call? o.limits = some call ↔ p.Asks o.limits call) ∧
    (∀ label text l, LoadOf world o label text l →
      ∃ visited left, Tours world o.limits (.ofRoot label text) visited left ∧
        l.calls = visited.filterMap (·.call? o.limits) ∧
        (∀ loaded, l.outcome = .ok loaded → left.pending = []) ∧
        (∀ cause, l.outcome = .error cause →
          ∃ p rest, left.pending = p :: rest ∧ p.AtLimit o.limits) ∧
        (o.includeDepth < Text.maxWord →
          (∀ depth, o.limits.Admits depth ↔ depth < o.includeDepth) ∧
          ∀ visited' left', Tours world o.limits (.ofRoot label text) visited' left' →
            left'.Ended world o.limits → visited' = visited)) ∧
    (∀ cause cause', world.readText [] o.configPath = .error cause →
      world.readText [] o.fallbackPath = .error cause' → (load world o).calls = []) := by
  refine ⟨fun p call => Pending.call?_eq_some_iff, ?_, ?_⟩
  · intro label text l h
    obtain ⟨visited, left, htour, hthrough, hstopped⟩ := covers_walkText world o label text []
    rw [List.append_nil, List.nil_append, ← h.calls_eq] at htour
    have herror : ∀ cause, l.outcome = .error cause →
        ∃ p rest, left = p :: rest ∧ p.AtLimit o.limits := by
      intro cause hfails
      rw [h.outcome_eq] at hfails
      exact hstopped ((loadText_fails_iff world o label text cause).mp hfails).2
    refine ⟨visited, ⟨left, l.calls⟩, htour, htour.history_eq, ?_, herror, ?_⟩
    · intro loaded hok
      exact hthrough (h.walked hok).1
    · intro hlimit
      refine ⟨Limits.admits_iff hlimit, ?_⟩
      intro visited' left' htour' hended'
      -- The tour ends here too: nothing is left, or an include at the limit comes next.
      have hended : Agenda.Ended world o.limits ⟨left, l.calls⟩ := by
        rintro p rest hp
        cases houtcome : l.outcome with
        | ok loaded =>
          rw [hthrough (h.walked houtcome).1] at hp
          contradiction
        | error cause =>
          obtain ⟨p', rest', hleft, hlimited⟩ := herror cause houtcome
          rw [hleft] at hp
          obtain ⟨rfl, -⟩ := List.cons.inj hp
          exact hlimited.opened_eq hlimit _
      exact (htour'.unique hended' htour hended).1
  · intro cause cause' hprimary hfallback
    simp only [load, hprimary, hfallback, Load.calls_fatal]
    rfl

/-- A menu from one command includes what another prints. Includes outside of menus look the
same, and run nothing. -/
def commandsText : String :=
  "<JWM><Include>exec:never</Include><RootMenu><Include>exec:menu</Include></RootMenu>" ++
    "<Tray><Include>exec:never</Include></Tray></JWM>"

/-- A world without files, in which one command prints a menu. -/
def printingWorld : World where
  files := fun _ _ => none
  environment := { entries := [] }
  run := fun _ call =>
    if call.command = "menu" then some { output := "<Menu><Include>exec:more</Include></Menu>" }
    else none

theorem commands_are_those_asked_for_nested :
    (∃ visited left,
      Tours printingWorld (Options.default { entries := [] }).limits
        (.ofRoot "jwmrc" commandsText) visited left ∧
      visited.filterMap (·.call? (Options.default { entries := [] }).limits) =
        [⟨"/bin/sh", "menu"⟩, ⟨"/bin/sh", "more"⟩] ∧
      left.pending = []) ∧
    (load printingWorld (.default { entries := [] })).calls = [] := by
  obtain ⟨-, hload, hnothing⟩ := commands_are_those_asked_for printingWorld
    (.default { entries := [] })
  refine ⟨?_, hnothing _ _ rfl rfl⟩
  have hheld : LoadOf printingWorld (.default { entries := [] }) "jwmrc" commandsText
      (loadText printingWorld (.default { entries := [] }) "jwmrc" commandsText) :=
    .held "jwmrc" commandsText
  obtain ⟨hwalk, hcalls⟩ :
      (Load.walkText printingWorld (.default { entries := [] }) "jwmrc"
        commandsText).stopped = false ∧
      (Load.walkText printingWorld (.default { entries := [] }) "jwmrc"
        commandsText).journal.calls = [⟨"/bin/sh", "menu"⟩, ⟨"/bin/sh", "more"⟩] := by
    decide +kernel
  obtain ⟨loaded, hok⟩ := exists_loaded_of_not_stopped hwalk
  obtain ⟨visited, left, htour, hvisited, hthrough, -, -⟩ := hload _ _ _ hheld
  refine ⟨visited, left, htour, ?_, hthrough loaded hok⟩
  rw [← hvisited, hheld.calls_eq, hcalls]

end DeskConfig
