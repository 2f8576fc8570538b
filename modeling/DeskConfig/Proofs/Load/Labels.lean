import DeskConfig.Proofs.Load.TwoRuns
import DeskConfig.Proofs.Walk.TwoSources

/-!
Where a text comes from does not matter. A load of a text that is held in memory does not depend
on the name it is given, and what a menu includes does not depend on whether a file holds it or
a command prints it. Names are passed on to bindings, buttons and warnings, and nothing is
decided by them.
-/

namespace DeskConfig

open Markup (Element)

/-- What a warning says and on which line, whatever its label. -/
def Diagnostic.unlabeled (d : Diagnostic) : String × Option Nat :=
  (d.message, d.origin.map (·.line))

theorem Diagnostic.unlabeled_relabel (f : String → String) (d : Diagnostic) :
    (d.relabel f).unlabeled = d.unlabeled := by
  obtain ⟨origin, problem⟩ := d
  cases origin <;> rfl

/-- The configuration of a load under no labels, or why there is none. -/
def Load.unlabeled (l : Load) : Except LoadError Config :=
  l.outcome.map (·.config.relabel noLabel)

theorem Load.AlikeUpTo.unlabeled {l l' : Load} (h : l.AlikeUpTo noLabel l') :
    l'.unlabeled = l.unlabeled := by
  have hconfig : ∀ l : Load, l.unlabeled = (l.outcome.map (·.relabel noLabel)).map (·.config) := by
    intro l
    unfold Load.unlabeled
    cases l.outcome <;> rfl
  rw [hconfig, hconfig, h.outcome]

theorem Load.AlikeUpTo.unlabeled_diagnostics {l l' : Load} {f : String → String}
    (h : l.AlikeUpTo f l') :
    l'.diagnostics.map (·.unlabeled) = l.diagnostics.map (·.unlabeled) := by
  have hdiagnostics := congrArg (·.map (·.unlabeled)) h.diagnostics
  simpa only [List.map_map, Function.comp_def, Diagnostic.unlabeled_relabel] using hdiagnostics

/-- Labels decide nothing. Under two names, one text comes to the same configuration or fails
with the same error, with the same warnings on the same lines and the same commands; the names
stand in the labels only. A menu with an include in it has the same items whether the include
names a file or a command that prints what the file holds, if all other commands get the same
answers: it says the same of exits, its root menu comes to the same configuration, and the same
commands are run but for this one. -/
theorem labels_decide_nothing (world : World) :
    (∀ (o : Options) (name name' text : String),
      let l := loadText world o name text
      let l' := loadText world o name' text
      l'.unlabeled = l.unlabeled ∧
        l'.diagnostics.map (·.unlabeled) = l.diagnostics.map (·.unlabeled) ∧
        l'.calls = l.calls) ∧
    ∀ (world' : World) (limits : Limits) (budget depth : Nat) (history : List Call)
      (xs ys : List Element) (e : Element) (line reference path text : String),
      e.tag = .include →
      let inMenu := (includesAt world limits budget depth).inMenu
      let inMenu' := (includesAt world' limits budget depth).inMenu
      let printed := xs ++ [e.naming (Source.execMark ++ line)] ++ ys
      let held := xs ++ [e.naming reference] ++ ys
      let call : Call := { shell := limits.shell, command := line }
      (∀ level height,
        let before := (itemsOf inMenu level height history xs).journal.calls
        let y := itemsOf inMenu level height history printed
        let z := itemsOf inMenu' level height history held
        world.PrintsOrHolds world' limits.shell (history ++ before) line reference path text →
          y.SameBut (Source.execMark ++ line) reference z ∧
            ∃ ran after, ran.Sublist [call] ∧
              y.journal.calls = before ++ ran ++ after ∧ z.journal.calls = before ++ after) ∧
      ∀ (top : Element) (c : Config),
        let before :=
          (itemsOf inMenu 0 (Menu.heightOf top 0).value history xs).journal.calls
        let p := rootMenu inMenu { top with children := printed } c history
        let q := rootMenu inMenu' { top with children := held } c history
        world.PrintsOrHolds world' limits.shell (history ++ before) line reference path text →
          p.SameBut (Source.execMark ++ line) reference q ∧
            ∃ ran after, ran.Sublist [call] ∧
              p.journal.calls = before ++ ran ++ after ∧ q.journal.calls = before ++ after := by
  refine ⟨?_, ?_⟩
  · intro o name name' text l l'
    have halike : l.AlikeUpTo noLabel l' := loadText_alikeUpTo rfl (.refl world [] _)
    exact ⟨halike.unlabeled, halike.unlabeled_diagnostics, halike.calls⟩
  · intro world' limits budget depth history xs ys e line reference path text htag
    refine ⟨fun level height hsource => itemsOf_sameBut ys htag hsource, ?_⟩
    intro top c before p q hsource
    obtain ⟨hitems, hcalls⟩ := itemsOf_sameBut ys htag hsource
    refine ⟨hitems.rootMenu top c, ?_⟩
    rw [calls_rootMenu, calls_rootMenu]
    exact hcalls

/-- A menu with a program, and with a tag that nothing knows. -/
def sharedMenu : String := "<Menu><Program>xterm</Program><Frobnicate/></Menu>"

/-- A world with a file that holds the menu and generators that print the given texts. -/
def menuWorld (printed : List String) : World :=
  .answering (fun path =>
      if path = "menu" then some (Text.asciiBytes sharedMenu.toList) else none)
    { entries := [] } (printed.map fun output => some { output })

theorem printsOrHolds_menuWorld (printed : List String) :
    (menuWorld (sharedMenu :: printed)).PrintsOrHolds (menuWorld printed) "sh" [] "generate"
      "menu" "menu" sharedMenu where
  source := rfl
  printed := rfl
  held := readText_of_ascii (by simp [menuWorld, World.answering]) (by decide +kernel)
  forgets := World.answering_forgets _ _ _ [] _

/-- The menu is the same from the file and from the first of two generators, and so is what
the other generator adds to it. -/
theorem labels_decide_nothing_menu :
    let world := menuWorld [sharedMenu, "<Menu><Separator/></Menu>"]
    let world' := menuWorld ["<Menu><Separator/></Menu>"]
    let e := madeIn "top" .include none
    let ys := [madeIn "top" .include (some "exec:more")]
    let top := madeIn "top" .rootMenu none
    let printed := [] ++ [e.naming (Source.execMark ++ "generate")] ++ ys
    let held := [] ++ [e.naming "menu"] ++ ys
    let y := itemsAt world ⟨"sh", 1⟩ 1 0 0 0 [] printed
    let z := itemsAt world' ⟨"sh", 1⟩ 1 0 0 0 [] held
    y.items.length = 2 ∧ y.journal.calls = [⟨"sh", "generate"⟩, ⟨"sh", "more"⟩] ∧
      y.SameBut (Source.execMark ++ "generate") "menu" z ∧
      (rootMenu (includesAt world ⟨"sh", 1⟩ 1 0).inMenu { top with children := printed }
          {} []).SameBut (Source.execMark ++ "generate") "menu"
        (rootMenu (includesAt world' ⟨"sh", 1⟩ 1 0).inMenu { top with children := held }
          {} []) := by
  intro world world' e ys top printed held y z
  have hsource := printsOrHolds_menuWorld ["<Menu><Separator/></Menu>"]
  have hsame := (labels_decide_nothing world).2 world' ⟨"sh", 1⟩ 1 0 [] [] ys e "generate" "menu"
    "menu" sharedMenu rfl
  exact ⟨by decide +kernel, by decide +kernel, (hsame.1 0 0 hsource).1,
    (hsame.2 top {} hsource).1⟩

end DeskConfig
