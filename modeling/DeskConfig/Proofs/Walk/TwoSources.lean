import DeskConfig.Proofs.Menus.Binding
import DeskConfig.Proofs.Settings.Keys
import DeskConfig.Proofs.Walk.Transparency
import DeskConfig.Proofs.Walk.TwoRuns
import Mathlib.Data.List.Forall2

/-!
One text from two sources. An include in a menu can name a file or a command; if both give the
same text, and all later commands the same answers, it makes no difference which it is. The
items are the same and so is what they say of exits, and warnings differ in the label of the
source and where they quote the reference.
-/

namespace DeskConfig

open Markup (Element Tag)

/-- Labels that are not told apart. -/
def noLabel : String → String := fun _ => ""

/-- In the first world a command prints a text, and in the second one, which has no answer to
that command, a file holds the same text. -/
structure World.PrintsOrHolds (world world' : World) (shell : String) (history : List Call)
    (line reference path text : String) : Prop where
  source : Source.ofMenuReference world reference = .ok (.file path)
  printed : (world.run history { shell, command := line }).map (·.output) = some text
  held : world'.readText history path = .ok text
  forgets : world.Forgets history { shell, command := line } world'

/-- The same line and the same problem, but for the reference that an invalid menu quotes. -/
def Diagnostic.SameBut (reference reference' : String) (d d' : Diagnostic) : Prop :=
  d'.origin.map (·.line) = d.origin.map (·.line) ∧
    (d'.problem = d.problem ∨
      d.problem = .invalidMenu reference ∧ d'.problem = .invalidMenu reference')

/-- The same items, with warnings that differ in labels and in the reference they quote. -/
structure MenuYield.SameBut (reference reference' : String) (y z : MenuYield) : Prop where
  items : z.items = y.items
  confirm : z.confirm = y.confirm
  diagnostics : List.Forall₂ (Diagnostic.SameBut reference reference') y.journal.diagnostics
    z.journal.diagnostics
  stopped : z.stopped = y.stopped

/-- The same configuration, with warnings that differ in labels and in the reference they
quote. -/
structure Progress.SameBut (reference reference' : String) (p q : Progress) : Prop where
  config : q.config = p.config
  diagnostics : List.Forall₂ (Diagnostic.SameBut reference reference') p.journal.diagnostics
    q.journal.diagnostics
  stopped : q.stopped = p.stopped

section SameBut

variable {reference reference' : String} {x x' y y' : MenuYield}

theorem Diagnostic.sameBut_of_relabel {d d' : Diagnostic}
    (h : d'.relabel noLabel = d.relabel noLabel) : d.SameBut reference reference' d' := by
  have hline := congrArg (·.origin.map (·.line)) h
  have hproblem : d'.problem = d.problem := congrArg (·.problem) h
  refine ⟨?_, .inl hproblem⟩
  simpa [Diagnostic.relabel, Function.comp_def, Markup.Origin.relabel] using hline

theorem MenuYield.AlikeUpTo.sameBut (h : x.AlikeUpTo noLabel y) :
    x.SameBut reference reference' y where
  items := h.items
  confirm := h.confirm
  diagnostics := by
    have hall : List.Forall₂ (· = ·) (y.journal.diagnostics.map (·.relabel noLabel))
        (x.journal.diagnostics.map (·.relabel noLabel)) := by
      rw [h.diagnostics]
      exact List.forall₂_refl _
    rw [List.forall₂_map_left_iff, List.forall₂_map_right_iff] at hall
    exact hall.flip.imp fun d d' hd => Diagnostic.sameBut_of_relabel hd
  stopped := h.stopped

/-- Warnings that are the same differ in nothing. -/
theorem Diagnostic.forall₂_sameBut_refl (ds : List Diagnostic) :
    List.Forall₂ (Diagnostic.SameBut reference reference') ds ds :=
  List.forall₂_same.mpr fun _ _ => ⟨rfl, .inl rfl⟩

theorem MenuYield.SameBut.join (hx : x.SameBut reference reference' x')
    (hy : y.SameBut reference reference' y') :
    (x.join y).SameBut reference reference' (x'.join y') where
  items := by simp only [MenuYield.join, hx.items, hy.items]
  confirm := by simp only [MenuYield.join, hx.confirm, hy.confirm]
  diagnostics := by
    simp only [MenuYield.join, Journal.diagnostics_append]
    exact List.rel_append hx.diagnostics hy.diagnostics
  stopped := hy.stopped

/-- What comes after an include is the same, unless both menus are stopped there. -/
theorem MenuYield.SameBut.andThen {call : Call} (h : x.SameBut reference reference' y)
    (history history' : List Call) (next next' : List Call → MenuYield)
    (hcalls : x.stopped = true ∧ x.journal.calls = [] ∧ y.journal.calls = [] ∨
      x.journal.calls = call :: y.journal.calls)
    (hnext : x.journal.calls = call :: y.journal.calls →
      (next (history ++ x.journal.calls)).AlikeUpTo noLabel
        (next' (history' ++ y.journal.calls))) :
    (x.andThen history next).SameBut reference reference' (y.andThen history' next') ∧
      ∃ ran after, ran.Sublist [call] ∧
        (x.andThen history next).journal.calls = ran ++ after ∧
        (y.andThen history' next').journal.calls = after := by
  cases hx : x.stopped with
  | true =>
    rw [MenuYield.andThen_of_stopped hx, MenuYield.andThen_of_stopped (h.stopped.trans hx)]
    refine ⟨h, ?_⟩
    rcases hcalls with ⟨-, hnone, hnone'⟩ | hcalls
    · exact ⟨[], [], List.nil_sublist _, hnone, hnone'⟩
    · exact ⟨[call], _, List.Sublist.refl _, hcalls, rfl⟩
  | false =>
    rw [MenuYield.andThen_of_not_stopped hx,
      MenuYield.andThen_of_not_stopped (h.stopped.trans hx)]
    rcases hcalls with ⟨hstopped, -⟩ | hcalls
    · exact absurd (hx.symm.trans hstopped) Bool.false_ne_true
    · have hlater := hnext hcalls
      refine ⟨h.join hlater.sameBut, [call], _, List.Sublist.refl _, ?_, rfl⟩
      simp [MenuYield.join, hcalls, hlater.calls]

/-- Root menus that differ in their items only are bound alike. -/
theorem MenuYield.SameBut.rootMenu {onInclude onInclude' : MenuInclude} {es es' : List Element}
    {history : List Call} (top : Element) (c : Config)
    (h : (itemsOf onInclude 0 (Menu.heightOf top 0).value history es).SameBut reference reference'
      (itemsOf onInclude' 0 (Menu.heightOf top 0).value history es')) :
    (DeskConfig.rootMenu onInclude { top with children := es } c history).SameBut reference
      reference' (DeskConfig.rootMenu onInclude' { top with children := es' } c history) := by
  have hheight : ∀ es, Menu.heightOf { top with children := es } 0 = Menu.heightOf top 0 :=
    fun _ => rfl
  have htitle : ∀ es, Menu.titleOf { top with children := es } = Menu.titleOf top :=
    fun _ => rfl
  simp only [DeskConfig.rootMenu, MenuYield.noting, hheight, Menu.slotsOf_children, htitle,
    h.items, h.confirm, h.stopped]
  have hitems := List.rel_append (Diagnostic.forall₂_sameBut_refl (Menu.heightOf top 0).warnings)
    h.diagnostics
  split
  · exact ⟨rfl, by simpa using hitems, rfl⟩
  · refine ⟨rfl, ?_, rfl⟩
    simpa using List.rel_append hitems
      (Diagnostic.forall₂_sameBut_refl (Menu.slotsOf top).warnings)

end SameBut

theorem Source.ofMenuReference_command (world : World) (line : String) :
    ofMenuReference world (execMark ++ line) = .ok (.command line) := by
  have hline : Environment.after? execMark.toList (execMark ++ line).toList =
      some line.toList := KeyAction.after?_toList.mpr (by rw [String.ofList_toList])
  unfold ofMenuReference
  rw [hline]
  dsimp only
  rw [String.ofList_toList]

/-- The same include with another reference. -/
def Markup.Element.naming (e : Element) (reference : String) : Element :=
  { e with text := some reference }

section Includes

variable {e : Element} {reference reference' : String} {history history' : List Call}

/-- The warning that an included menu is invalid. -/
theorem sameBut_invalidMenu : MenuYield.SameBut reference reference'
    (.ofWarning (e.naming reference) (.invalidMenu reference))
    (.ofWarning (e.naming reference') (.invalidMenu reference')) where
  items := rfl
  confirm := rfl
  diagnostics := .cons ⟨rfl, .inr ⟨rfl, rfl⟩⟩ .nil
  stopped := rfl

/-- Under different labels, one text puts the same items in the place of its include. -/
theorem includedItems_sameBut (e : Element) (reference reference' : String)
    {items items' : List Call → List Element → MenuYield}
    (hitems : ∀ es es', es'.map (·.relabel noLabel) = es.map (·.relabel noLabel) →
      (items history es).AlikeUpTo noLabel (items' history' es'))
    (label label' text : String) :
    let y := includedItems items (e.naming reference) reference history (parseSource label text)
    let z := includedItems items' (e.naming reference') reference' history'
      (parseSource label' text)
    y.SameBut reference reference' z ∧ z.journal.calls = y.journal.calls := by
  have hlabel : noLabel label' = noLabel label := rfl
  unfold parseSource
  obtain ⟨cause, cause', hes, hes', hcause⟩ | ⟨es, es', hes, hes', hrelabel⟩ :=
    Markup.parse_of_labels hlabel text
  · have hline : cause'.origin.line = cause.origin.line := congrArg (·.origin.line) hcause
    have hfault : cause'.fault = cause.fault := congrArg (·.fault) hcause
    rw [hes, hes']
    refine ⟨⟨rfl, rfl, .cons ?_ sameBut_invalidMenu.diagnostics, rfl⟩, rfl⟩
    exact ⟨congrArg some hline, .inl (congrArg Problem.markup hfault)⟩
  · rw [hes, hes']
    cases es with
    | nil =>
      obtain rfl := List.map_eq_nil_iff.mp hrelabel
      exact ⟨sameBut_invalidMenu, rfl⟩
    | cons root rest =>
      obtain ⟨root', rest', rfl, hroot, -⟩ := List.map_eq_cons_iff.mp hrelabel
      have htag := tag_of_relabel hroot
      by_cases hmenu : root.tag = .menu
      · have halike := hitems root.children root'.children (children_of_relabel hroot)
        simp only [includedItems, if_pos hmenu, if_pos (htag.trans hmenu)]
        exact ⟨halike.sameBut, halike.calls⟩
      · simp only [includedItems, if_neg hmenu, if_neg (htag ▸ hmenu)]
        exact ⟨sameBut_invalidMenu, rfl⟩

variable {world world' : World} {limits : Limits} {line path text : String}
  (hsource : world.PrintsOrHolds world' limits.shell history line reference path text)

include hsource

/-- An include that names the command, and one that names the file. Either both are stopped
by the limit, or the first one runs the command and then what the second one runs. -/
theorem menuInclude_sameBut (budget depth level height : Nat) (e : Element) :
    let y := (includesAt world limits budget depth).inMenu
      (e.naming (Source.execMark ++ line)) level height history
    let z := (includesAt world' limits budget depth).inMenu (e.naming reference) level height
      history
    y.SameBut (Source.execMark ++ line) reference z ∧
      (y.stopped = true ∧ y.journal.calls = [] ∧ z.journal.calls = [] ∨
        y.journal.calls = { shell := limits.shell, command := line } :: z.journal.calls) := by
  obtain ⟨hfile, hprinted, hheld, hforgets⟩ := hsource
  have hstopped : MenuYield.SameBut (Source.execMark ++ line) reference { stopped := true }
      { stopped := true } := ⟨rfl, rfl, .nil, rfl⟩
  have hrun : (e.naming (Source.execMark ++ line)).text = some (Source.execMark ++ line) := rfl
  have hread : (e.naming reference).text = some reference := rfl
  simp only [includesAt]
  cases hn : enter? limits.includeDepth depth with
  | none =>
    rw [menuInclude_of_limit hrun hn, menuInclude_of_limit hread hn]
    exact ⟨hstopped, .inl ⟨rfl, rfl, rfl⟩⟩
  | some next =>
    cases budget with
    | zero =>
      rw [menuInclude_of_no_budget hrun, menuInclude_of_no_budget hread]
      exact ⟨hstopped, .inl ⟨rfl, rfl, rfl⟩⟩
    | succ budget =>
      have hfile' : Source.ofMenuReference world' reference = .ok (.file path) :=
        (ofMenuReference_of_environment hforgets.environment reference).trans hfile
      obtain ⟨r, hr, rfl⟩ := Option.map_eq_some_iff.mp hprinted
      have hcommand : (resolve world limits.shell history (.command line)).1 =
          parseSource line r.output := by
        simp only [resolve, hr, Source.label]
      have htext : (resolve world' limits.shell history (.file path)).1 =
          parseSource path r.output := by
        simp only [resolve, hheld, Source.label]
      rw [menuInclude_of_source hrun hn (Source.ofMenuReference_command world line), hcommand,
        menuInclude_of_source hread hn hfile', htext, Source.calls, Source.calls,
        List.append_nil]
      let k : TwoRuns := { label := noLabel, stops := True, world, world' }
      have hmenus : k.Menus (menuInclude world limits.shell limits.includeDepth budget next)
          (menuInclude world' limits.shell limits.includeDepth budget next) :=
        TwoRuns.menuInclude (.refl _ _ _)
      obtain ⟨hsame, hcalls⟩ := includedItems_sameBut e (Source.execMark ++ line) reference
        (fun es es' hes => TwoRuns.items hmenus es es' hes level height
          (history ++ [{ shell := limits.shell, command := line }]) history (fun _ => trivial)
          (hforgets.alike_after _)) line path r.output
      refine ⟨⟨hsame.items, hsame.confirm, ?_, hsame.stopped⟩, .inr ?_⟩
      · simpa [MenuYield.noting, diagnostics_resolve] using hsame.diagnostics
      · simp [MenuYield.noting, calls_resolve, Source.calls, hcalls]

end Includes

section Menus

variable {world world' : World} {limits : Limits} {budget depth level height : Nat}
  {history : List Call} {xs : List Element} {e : Element} {line reference path text : String}

/-- A menu with an include in it that names the command, and the same menu with an include that
names the file. -/
theorem itemsOf_sameBut (ys : List Element) (htag : e.tag = .include)
    (hsource : world.PrintsOrHolds world' limits.shell
      (history ++ (itemsAt world limits budget depth level height history xs).journal.calls)
      line reference path text) :
    let before := (itemsAt world limits budget depth level height history xs).journal.calls
    let y := itemsAt world limits budget depth level height history
      (xs ++ [e.naming (Source.execMark ++ line)] ++ ys)
    let z := itemsAt world' limits budget depth level height history
      (xs ++ [e.naming reference] ++ ys)
    y.SameBut (Source.execMark ++ line) reference z ∧
      ∃ ran after, ran.Sublist [{ shell := limits.shell, command := line }] ∧
        y.journal.calls = before ++ ran ++ after ∧ z.journal.calls = before ++ after := by
  intro before y z
  have hrun : (e.naming (Source.execMark ++ line)).tag = .include := htag
  have hread : (e.naming reference).tag = .include := htag
  let k : TwoRuns := { label := noLabel, stops := True, world, world' }
  have hmenus : k.Menus (includesAt world limits budget depth).inMenu
      (includesAt world' limits budget depth).inMenu := TwoRuns.menuInclude (.refl _ _ _)
  have hx : (itemsAt world limits budget depth level height history xs).AlikeUpTo noLabel
      (itemsAt world' limits budget depth level height history xs) :=
    TwoRuns.items hmenus xs xs rfl level height history history (fun _ => trivial)
      hsource.forgets.alike_before
  have hlist : ∀ e : Element, xs ++ [e] ++ ys = xs ++ e :: ys := by simp
  have hy : y = _ := congrArg (itemsAt world limits budget depth level height history) (hlist _)
  have hz : z = _ := congrArg (itemsAt world' limits budget depth level height history) (hlist _)
  rw [itemsAt, itemsOf_append] at hy hz
  rw [hy, hz]
  cases hsx : (itemsAt world limits budget depth level height history xs).stopped with
  | true =>
    rw [MenuYield.andThen_of_stopped hsx, MenuYield.andThen_of_stopped (hx.stopped.trans hsx)]
    exact ⟨hx.sameBut, [], [], List.nil_sublist _, by simp [before], by simp [before, hx.calls]⟩
  | false =>
    rw [MenuYield.andThen_of_not_stopped hsx,
      MenuYield.andThen_of_not_stopped (hx.stopped.trans hsx), hx.calls, itemsOf_cons,
      itemsOf_cons, itemOf_include hrun, itemOf_include hread]
    obtain ⟨he, hcalls⟩ := menuInclude_sameBut hsource budget depth level height e
    have hys : ∀ done,
        (itemsAt world limits budget depth level height
          (history ++ before ++ { shell := limits.shell, command := line } :: done) ys).AlikeUpTo
            noLabel (itemsAt world' limits budget depth level height
              (history ++ before ++ done) ys) := by
      intro done
      rw [List.append_cons]
      exact TwoRuns.items hmenus ys ys rfl level height _ _ (fun _ => trivial)
        (hsource.forgets.alike_after (done ++ _)).after
    obtain ⟨hrest, ran, after, hran, hcalls, hcalls'⟩ :=
      he.andThen (history ++ before) (history ++ before)
        (fun h => itemsAt world limits budget depth level height h ys)
        (fun h => itemsAt world' limits budget depth level height h ys) hcalls
        fun hcalls => hcalls ▸ hys _
    refine ⟨hx.sameBut.join hrest, ran, after, hran, ?_, ?_⟩
    · simp only [MenuYield.join, Journal.calls_append, List.append_assoc, before]
      exact congrArg _ hcalls
    · simp only [MenuYield.join, Journal.calls_append, before, hx.calls]
      exact congrArg _ hcalls'

end Menus

end DeskConfig
