import DeskConfig.Proofs.Walk.TwoRuns

/-!
Walks that cannot be told apart. Two worlds that answer alike along the commands of a finished
walk make the same of it, also when the second walk may enter more includes than the first
one: these are two runs over the same elements, compared with their labels.
-/

namespace DeskConfig

open Markup (Element Tag)

/-- Two runs that are compared with their labels, if the first one goes through. -/
def TwoRuns.finished (world world' : World) : TwoRuns where
  label := id
  stops := False
  world := world
  world' := world'

/-- What is built alike: all that a reader of the result can see of it. -/
structure MenuYield.Alike (y z : MenuYield) : Prop where
  items : z.items = y.items
  confirm : z.confirm = y.confirm
  diagnostics : z.journal.diagnostics = y.journal.diagnostics
  calls : z.journal.calls = y.journal.calls
  stopped : z.stopped = y.stopped

theorem MenuYield.alikeUpTo_id_iff {y z : MenuYield} : y.AlikeUpTo id z ↔ y.Alike z := by
  constructor
  · rintro ⟨hitems, hconfirm, hdiagnostics, hcalls, hstopped⟩
    exact ⟨hitems, hconfirm, by simpa using hdiagnostics, hcalls, hstopped⟩
  · rintro ⟨hitems, hconfirm, hdiagnostics, hcalls, hstopped⟩
    exact ⟨hitems, hconfirm, by simpa using hdiagnostics, hcalls, hstopped⟩

/-- Wherever the first way to carry out includes finishes, the second one does so
alike. -/
def MenuInclude.Alike (world world' : World) (onInclude onInclude' : MenuInclude) : Prop :=
  ∀ e level height history history',
    (onInclude e level height history).stopped = false →
    World.Alike world world' history history'
      (onInclude e level height history).journal.calls →
    (onInclude e level height history).Alike (onInclude' e level height history')

section Menus

variable {world world' : World}

theorem MenuInclude.alike_iff {onInclude onInclude' : MenuInclude} :
    MenuInclude.Alike world world' onInclude onInclude' ↔
      (TwoRuns.finished world world').Menus onInclude onInclude' := by
  constructor
  · intro h e e' level height history history' he hstops hworld
    obtain rfl : e' = e := by simpa [TwoRuns.finished] using he
    exact MenuYield.alikeUpTo_id_iff.mpr
      (h e' level height history history' (Bool.eq_false_iff.mpr hstops) hworld)
  · intro h e level height history history' hs hworld
    exact MenuYield.alikeUpTo_id_iff.mp
      (h e e level height history history' rfl (Bool.eq_false_iff.mp hs) hworld)

theorem itemsOf_alike {onInclude onInclude' : MenuInclude}
    (hinc : MenuInclude.Alike world world' onInclude onInclude') (es : List Element)
    (level height : Nat) (history history' : List Call)
    (hs : (itemsOf onInclude level height history es).stopped = false)
    (hw : World.Alike world world' history history'
      (itemsOf onInclude level height history es).journal.calls) :
    (itemsOf onInclude level height history es).Alike
      (itemsOf onInclude' level height history' es) :=
  MenuYield.alikeUpTo_id_iff.mp (TwoRuns.items (MenuInclude.alike_iff.mp hinc) es es rfl level
    height history history' (Bool.eq_false_iff.mp hs) hw)

theorem menuInclude_alike {shell : String} {limit limit' : Nat} (hlimit : limit ≤ limit')
    {budget budget' depth depth' : Nat} (hbudget : budget ≤ budget')
    (hdepth : min depth' Text.maxWord ≤ depth) :
    MenuInclude.Alike world world' (menuInclude world shell limit budget depth)
      (menuInclude world' shell limit' budget' depth') :=
  MenuInclude.alike_iff.mpr (TwoRuns.menuInclude ⟨hlimit, hbudget, hdepth, False.elim⟩)

end Menus

/-- What is walked alike: all that a reader of the result can see of it. -/
structure Progress.Alike (p q : Progress) : Prop where
  config : q.config = p.config
  diagnostics : q.journal.diagnostics = p.journal.diagnostics
  calls : q.journal.calls = p.journal.calls
  stopped : q.stopped = p.stopped

theorem Progress.alikeUpTo_id_iff {p q : Progress} : p.AlikeUpTo id q ↔ p.Alike q := by
  constructor
  · rintro ⟨hconfig, hdiagnostics, hcalls, hstopped⟩
    exact ⟨by simpa using hconfig, by simpa using hdiagnostics, hcalls, hstopped⟩
  · rintro ⟨hconfig, hdiagnostics, hcalls, hstopped⟩
    exact ⟨by simpa using hconfig, by simpa using hdiagnostics, hcalls, hstopped⟩

namespace Progress.Alike

variable {p p' : Progress}

theorem refl (p : Progress) : p.Alike p := ⟨rfl, rfl, rfl, rfl⟩

theorem noting (hp : p.Alike p') {events events' : Journal}
    (hd : Journal.diagnostics events' = Journal.diagnostics events)
    (hc : Journal.calls events' = Journal.calls events) :
    (p.noting events).Alike (p'.noting events') where
  config := hp.config
  diagnostics := by
    simp only [Progress.noting, Journal.diagnostics_append, hp.diagnostics, hd]
  calls := by simp only [Progress.noting, Journal.calls_append, hp.calls, hc]
  stopped := hp.stopped

/-- Steps that are alike, one after the other. -/
theorem andThen {history history' : List Call} {next next' : Config → List Call → Progress}
    (hp : p.Alike p') (hs : p.stopped = false)
    (hnext : (next p.config (history ++ p.journal.calls)).Alike
      (next' p.config (history' ++ p.journal.calls))) :
    (p.andThen history next).Alike (p'.andThen history' next') := by
  rw [Progress.andThen_of_not_stopped hs,
    Progress.andThen_of_not_stopped (hp.stopped.trans hs), hp.config, hp.calls]
  exact hnext.noting hp.diagnostics hp.calls

end Progress.Alike

/-- Both kinds of includes are carried out alike wherever the first way finishes. -/
structure Includes.Alike (world world' : World) (includes includes' : Includes) : Prop where
  inMenu : MenuInclude.Alike world world' includes.inMenu includes'.inMenu
  inDocument : ∀ e c history history',
    (includes.inDocument e c history).stopped = false →
    World.Alike world world' history history'
      (includes.inDocument e c history).journal.calls →
    (includes.inDocument e c history).Alike (includes'.inDocument e c history')

section Documents

variable {world world' : World} {includes includes' : Includes}

theorem Includes.alike_iff : Includes.Alike world world' includes includes' ↔
    (TwoRuns.finished world world').Documents includes includes' := by
  constructor
  · rintro ⟨hmenu, hdocument⟩
    refine ⟨MenuInclude.alike_iff.mp hmenu, ?_⟩
    intro e e' c c' history history' he hc hstops hworld
    obtain rfl : e' = e := by simpa [TwoRuns.finished] using he
    obtain rfl : c' = c := by simpa [TwoRuns.finished] using hc
    exact Progress.alikeUpTo_id_iff.mpr
      (hdocument e' c' history history' (Bool.eq_false_iff.mpr hstops) hworld)
  · rintro ⟨hmenu, hdocument⟩
    refine ⟨MenuInclude.alike_iff.mpr hmenu, ?_⟩
    intro e c history history' hs hworld
    exact Progress.alikeUpTo_id_iff.mp
      (hdocument e e c c history history' rfl rfl (Bool.eq_false_iff.mp hs) hworld)

variable (hinc : Includes.Alike world world' includes includes')

include hinc

theorem walkElements_alike (parent : Tag) (es : List Element) (c : Config)
    (history history' : List Call)
    (hs : (walkElements world includes parent es c history).stopped = false)
    (hw : World.Alike world world' history history'
      (walkElements world includes parent es c history).journal.calls) :
    (walkElements world includes parent es c history).Alike
      (walkElements world' includes' parent es c history') :=
  Progress.alikeUpTo_id_iff.mp (TwoRuns.elements (Includes.alike_iff.mp hinc) parent es es rfl rfl
    history history' (Bool.eq_false_iff.mp hs) hw)

theorem walkDocument_alike (es : List Element) (c : Config) (history history' : List Call)
    (hs : (walkDocument world includes es c history).stopped = false)
    (hw : World.Alike world world' history history'
      (walkDocument world includes es c history).journal.calls) :
    (walkDocument world includes es c history).Alike
      (walkDocument world' includes' es c history') :=
  Progress.alikeUpTo_id_iff.mp (TwoRuns.document (Includes.alike_iff.mp hinc) es es rfl rfl
    history history' (Bool.eq_false_iff.mp hs) hw)

end Documents

/-- Finished walks stay as they are under a higher limit, from a smaller depth and
with more includes to spare. -/
theorem includesAt_alike {world world' : World} {limits limits' : Limits}
    (hshell : limits'.shell = limits.shell)
    (hlimit : limits.includeDepth ≤ limits'.includeDepth)
    {budget budget' depth depth' : Nat} (hbudget : budget ≤ budget')
    (hdepth : min depth' Text.maxWord ≤ depth) :
    Includes.Alike world world' (includesAt world limits budget depth)
      (includesAt world' limits' budget' depth') :=
  Includes.alike_iff.mpr (TwoRuns.documents hshell ⟨hlimit, hbudget, hdepth, False.elim⟩)

end DeskConfig
