import DeskConfig.Proofs.Load.Commands
import DeskConfig.Proofs.Load.Trays

/-!
What a load keeps. Whatever a walk finds recorded it leaves where it is, also when it is
stopped: it only adds behind it. It adds one group for each group element that it comes to and
one tray for each tray element. The checks at the end take key bindings away and warn, and
touch nothing else.
-/

namespace DeskConfig

open Markup (Element)

namespace Config

/-- What was recorded in the first configuration comes first in the second one too. -/
structure Extends (c c' : Config) : Prop where
  keys : c.keys <+: c'.keys
  groups : c.groups <+: c'.groups
  trays : c.trays <+: c'.trays
  iconPaths : c.iconPaths <+: c'.iconPaths
  themePaths : c.themePaths <+: c'.themePaths
  startup : c.commands.startup <+: c'.commands.startup
  restart : c.commands.restart <+: c'.commands.restart
  shutdown : c.commands.shutdown <+: c'.commands.shutdown

namespace Extends

variable {c c' c'' : Config}

theorem refl (c : Config) : c.Extends c where
  keys := List.prefix_refl _
  groups := List.prefix_refl _
  trays := List.prefix_refl _
  iconPaths := List.prefix_refl _
  themePaths := List.prefix_refl _
  startup := List.prefix_refl _
  restart := List.prefix_refl _
  shutdown := List.prefix_refl _

theorem trans (h : c.Extends c') (h' : c'.Extends c'') : c.Extends c'' where
  keys := h.keys.trans h'.keys
  groups := h.groups.trans h'.groups
  trays := h.trays.trans h'.trays
  iconPaths := h.iconPaths.trans h'.iconPaths
  themePaths := h.themePaths.trans h'.themePaths
  startup := h.startup.trans h'.startup
  restart := h.restart.trans h'.restart
  shutdown := h.shutdown.trans h'.shutdown

end Extends

variable {world : World}

/-- A declaration adds to one record at most. -/
theorem extends_declare (world : World) (parent : Markup.Tag) (e : Element) (c : Config) :
    c.Extends (c.declare world parent e).value := by
  have h := declares world parent e c
  generalize (c.declare world parent e).value = c' at h
  cases h
  case group => exact { Extends.refl c with groups := List.prefix_append _ _ }
  case key => exact { Extends.refl c with keys := List.prefix_append _ _ }
  case tray => exact { Extends.refl c with trays := List.prefix_append _ _ }
  case iconPath => exact { Extends.refl c with iconPaths := List.prefix_append _ _ }
  case themePath => exact { Extends.refl c with themePaths := List.prefix_append _ _ }
  case startup => exact { Extends.refl c with startup := List.prefix_append _ _ }
  case restart => exact { Extends.refl c with restart := List.prefix_append _ _ }
  case shutdown => exact { Extends.refl c with shutdown := List.prefix_append _ _ }
  all_goals exact { Extends.refl c with }

theorem extends_after (visited : List Pending) (c : Config) :
    c.Extends (c.after world visited) := by
  induction visited generalizing c with
  | nil => exact .refl c
  | cons p visited ih =>
    have heffect : c.Extends (p.effect world c) := by
      unfold Pending.effect
      split
      · exact .refl c
      · exact extends_declare world .jwm p.element c
      · exact { Extends.refl c with }
    exact heffect.trans (ih _)

end Config

/-- The trays that elements add to the trays before them, each read with all that are there by
then. -/
def Tray.readAll : (before : List Tray) → List Element → List Tray
  | _, [] => []
  | before, e :: es =>
    let tray := (Tray.read before e).value
    tray :: readAll (before ++ [tray]) es

theorem Tray.length_readAll (before : List Tray) (es : List Element) :
    (readAll before es).length = es.length := by
  induction es generalizing before with
  | nil => rfl
  | cons e es ih => rw [readAll, List.length_cons, ih, List.length_cons]

theorem Tray.readAll_append (before : List Tray) (es es' : List Element) :
    readAll before (es ++ es') =
      readAll before es ++ readAll (before ++ readAll before es) es' := by
  induction es generalizing before with
  | nil => simp [readAll]
  | cons e es ih => simp [readAll, ih]

namespace Pending

/-- An element of this tag inside a top-level element. -/
def declares (tag : Markup.Tag) (p : Pending) : Bool :=
  p.standing = .child && p.element.tag = tag

/-- The elements of a tag inside top-level elements, in the order in which they are come to. -/
def declared (tag : Markup.Tag) (visited : List Pending) : List Element :=
  (visited.filter (·.declares tag)).map (·.element)

variable {world : World}

theorem declared_cons (tag : Markup.Tag) (p : Pending) (visited : List Pending) :
    declared tag (p :: visited) = declared tag [p] ++ declared tag visited := by
  simp only [declared, ← List.map_append, ← List.filter_append, List.singleton_append]

theorem groups_effect (c : Config) (p : Pending) : (p.effect world c).groups =
    c.groups ++ (declared .group [p]).map fun e => (Group.read e).value := by
  obtain ⟨depth, standing, e⟩ := p
  cases standing with
  | top => simp [effect, declared, declares]
  | child => by_cases h : e.tag = .group <;>
      simp [effect, declared, declares, Config.groups_declare, h]
  | item level => simp [effect, declared, declares]

theorem trays_effect (c : Config) (p : Pending) : (p.effect world c).trays =
    c.trays ++ Tray.readAll c.trays (declared .tray [p]) := by
  obtain ⟨depth, standing, e⟩ := p
  cases standing with
  | top => simp [effect, declared, declares, Tray.readAll]
  | child => by_cases h : e.tag = .tray <;>
      simp [effect, declared, declares, Config.trays_declare, h, Tray.readAll]
  | item level => simp [effect, declared, declares, Tray.readAll]

end Pending

namespace Config

open Pending (declared)

variable {world : World}

theorem groups_after (visited : List Pending) (c : Config) : (c.after world visited).groups =
    c.groups ++ (declared .group visited).map fun e => (Group.read e).value := by
  induction visited generalizing c with
  | nil => exact (List.append_nil _).symm
  | cons p visited ih =>
    rw [after_cons, ih, Pending.groups_effect, Pending.declared_cons .group p visited,
      List.map_append, List.append_assoc]

theorem trays_after (visited : List Pending) (c : Config) : (c.after world visited).trays =
    c.trays ++ Tray.readAll c.trays (declared .tray visited) := by
  induction visited generalizing c with
  | nil => exact (List.append_nil _).symm
  | cons p visited ih =>
    rw [after_cons, ih, Pending.trays_effect, Pending.declared_cons .tray p visited,
      Tray.readAll_append, List.append_assoc]

end Config

/-- A walk leaves what was recorded before where it is, whether it goes through or is stopped at
an include, and adds one group for each group element and one tray for each tray element that it
comes to; there is only one way through. The end of a load takes key bindings away and warns. -/
theorem records_are_kept (world : World) (limits : Limits) (depth : Nat) (es : List Element)
    (c : Config) (earlier : Journal) :
    let p := ({ config := c, journal := earlier } : Progress).andThen []
      (walkDocument world (includesAt world limits (limits.budget depth) depth) es)
    earlier.diagnostics <+: p.journal.diagnostics ∧ c.Extends p.config ∧
    (∃ visited left,
      let start : Agenda := ⟨Pending.all depth .top es, earlier.calls⟩
      Tours world limits start visited ⟨left, p.journal.calls⟩ ∧
      (p.stopped = false → left = []) ∧
      (p.stopped = true → ∃ q rest, left = q :: rest ∧ q.AtLimit limits) ∧
      (limits.includeDepth < Text.maxWord → ∀ visited' left',
        Tours world limits start visited' left' → left'.Ended world limits → visited' = visited) ∧
      p.config.groups =
        c.groups ++ (Pending.declared .group visited).map (fun e => (Group.read e).value) ∧
      p.config.trays = c.trays ++ Tray.readAll c.trays (Pending.declared .tray visited) ∧
      p.config.trays.length = c.trays.length + (Pending.declared .tray visited).length) ∧
    ∀ source (c' : Config) journal, ∃ kept, kept.Sublist c'.keys ∧
      (Load.finish source c' journal).outcome =
        .ok { config := { c' with keys := kept }, source } ∧
      journal.diagnostics <+: (Load.finish source c' journal).diagnostics := by
  intro p
  obtain ⟨visited, hvisits, hconfig⟩ := goesThrough_document
    (goThrough_includesAt (limits.le_budget depth)) es c ([] ++ earlier.calls)
  obtain ⟨left, htour, hthrough, hstopped⟩ := hvisits []
  have hjournal : p.journal = earlier ++
      (walkDocument world (includesAt world limits (limits.budget depth) depth) es c
        ([] ++ earlier.calls)).journal := rfl
  have hafter : p.config = { c.after world visited with rootMenus := p.config.rootMenus } := hconfig
  have hgroups := congrArg (·.groups) hafter
  have htrays := congrArg (·.trays) hafter
  simp only [Config.groups_after] at hgroups
  simp only [Config.trays_after] at htrays
  rw [List.append_nil, List.nil_append] at htour
  rw [hjournal, Journal.diagnostics_append, Journal.calls_append]
  refine ⟨List.prefix_append _ _, ?_, ⟨visited, left, htour, hthrough, hstopped, ?_, hgroups,
    htrays, ?_⟩, ?_⟩
  · rw [hafter]
    exact { Config.extends_after visited c with }
  · intro hlimit visited' left' htour' hended'
    refine (htour'.unique hended' htour ?_).1
    rintro q rest rfl
    -- Something is left only where the walk is stopped.
    cases hp : p.stopped with
    | false => exact absurd (hthrough hp) (List.cons_ne_nil q rest)
    | true =>
      obtain ⟨q', rest', hleft, hlimited⟩ := hstopped hp
      obtain ⟨rfl, -⟩ := List.cons.inj hleft
      exact hlimited.opened_eq hlimit _
  · rw [htrays, List.length_append, Tray.length_readAll]
  · intro source c' journal
    refine ⟨_, ?_, rfl, ?_⟩
    · rw [KeyBinding.value_checkAll]
      exact List.filter_sublist
    · rw [Load.diagnostics_finish]
      exact List.prefix_append _ _

/-- A group, an include and another group, in a document that may not include any. -/
def stoppedElements : List Element :=
  [madeIn "jwmrc" .jwm none [madeIn "jwmrc" .group none,
    madeIn "jwmrc" .include (some "more"), madeIn "jwmrc" .group none]]

/-- The first group is added to the one that was there, and the second one is not come to. -/
theorem records_are_kept_when_stopped :
    ∃ visited left,
      Tours (World.holding "" "") ⟨"/bin/sh", 0⟩ ⟨Pending.all 0 .top stoppedElements, []⟩ visited
        ⟨left, []⟩ ∧
      left ≠ [] ∧ (Pending.declared .group visited).length = 1 := by
  obtain ⟨-, -, ⟨visited, left, htour, -, hstopped, -, hgroups, -⟩, -⟩ :=
    records_are_kept (World.holding "" "") ⟨"/bin/sh", 0⟩ 0 stoppedElements { groups := [{}] } []
  obtain ⟨q, rest, hleft, -⟩ := hstopped rfl
  refine ⟨visited, left, htour, by simp [hleft], ?_⟩
  have hlength := congrArg List.length hgroups
  rw [List.length_append, List.length_map] at hlength
  exact (Nat.add_left_cancel hlength).symm

end DeskConfig
