import DeskConfig.Proofs.Include.TextFiles
import DeskConfig.Proofs.Walk.Include

/-!
What a menu takes in of an included document. The first element of the document has to be a
menu, and building goes into that one only. What stands behind it is dropped without a word, be
it another menu or something that has no place there. So a document of one menu is taken in as
a whole, and of a longer one all is taken in only where the rest has nothing to give.
-/

namespace DeskConfig

open Markup (Element)

/-- What comes of building the given elements in the place of an include whose source was
entered: `next` is the depth of its document, and `history` holds the commands run before. -/
def takenIn (world : World) (limits : Limits) (budget next level height : Nat)
    (history : List Call) (source : Source) (es : List Element) : MenuYield :=
  (itemsOf (includesAt world limits budget next).inMenu level height
      (history ++ source.calls limits.shell) es).noting
    (.includingMenu source.label next :: (resolve world limits.shell history source).2)

/-- A document is taken in as a whole: its elements are menus, and what is in them is built in a
row. -/
def MenuYield.TakesInAll (build : List Element → MenuYield) (document : List Element)
    (y : MenuYield) : Prop :=
  (∀ top ∈ document, top.tag = .menu) ∧ y = build (document.flatMap (·.children))

section Quiet

variable {world : World} {limits : Limits} {budget depth next level height : Nat}
  {history : List Call} {e : Element} {reference : String} {source : Source}
  {document : List Element}

/-- An include that has a text is stopped unless it is entered. -/
theorem entered_of_not_stopped (htext : e.text = some reference)
    (hgoes : (menuInclude world limits.shell limits.includeDepth budget depth e level height
      history).stopped = false) :
    ∃ budget' next, budget = budget' + 1 ∧ enter? limits.includeDepth depth = some next := by
  cases hnext : enter? limits.includeDepth depth with
  | none =>
    rw [menuInclude_of_limit htext hnext] at hgoes
    contradiction
  | some next =>
    cases budget with
    | zero =>
      rw [menuInclude_of_no_budget htext] at hgoes
      contradiction
    | succ budget => exact ⟨budget, next, rfl, rfl⟩

/-- Any other document than one that starts with a menu is warned of. -/
theorem starts_with_menu_of_quiet (items : List Call → List Element → MenuYield) (e : Element)
    (reference : String) (history : List Call)
    (hquiet : (includedItems items e reference history (.ok document)).journal.diagnostics = []) :
    ∃ top rest, document = top :: rest ∧ top.tag = .menu := by
  cases document with
  | nil => exact absurd hquiet (List.cons_ne_nil _ _)
  | cons top rest =>
    refine ⟨top, rest, rfl, Decidable.byContradiction fun htop => ?_⟩
    simp only [includedItems, if_neg htop] at hquiet
    exact absurd hquiet (List.cons_ne_nil _ _)

/-- Of a document that starts with a menu the rest does not matter. -/
theorem menuInclude_of_first (budget level height : Nat) (htext : e.text = some reference)
    (hnext : enter? limits.includeDepth depth = some next)
    (hsource : Source.ofMenuReference world reference = .ok source) {top : Element}
    {rest : List Element}
    (hdocument : (resolve world limits.shell history source).1 = .ok (top :: rest))
    (htop : top.tag = .menu) :
    (includesAt world limits (budget + 1) depth).inMenu e level height history =
      takenIn world limits budget next level height history source top.children := by
  simp only [includesAt, menuInclude_of_source htext hnext hsource, hdocument,
    includedItems_of_menu _ htop, takenIn]

end Quiet

/-- An include in a menu that finds a document, goes through and warns of nothing has taken in
what is in the first element of the document, which is a menu. Nothing else of the document has
any part in it. All of the document was taken in if there is nothing else; in general, exactly
if the other elements are menus, too, and building what is in them would have changed nothing. -/
theorem menu_include_takes_in_first_menu (world : World) (limits : Limits)
    (budget depth level height : Nat) (history : List Call) (e : Element) (reference : String)
    (source : Source) (document : List Element) (htext : e.text = some reference)
    (hsource : Source.ofMenuReference world reference = .ok source)
    (hdocument : (resolve world limits.shell history source).1 = .ok document)
    (hgoes : ((includesAt world limits budget depth).inMenu e level height history).stopped =
      false)
    (hquiet : ((includesAt world limits budget depth).inMenu e level height
      history).journal.diagnostics = []) :
    ∃ budget' next top rest, budget = budget' + 1 ∧
      enter? limits.includeDepth depth = some next ∧
      document = top :: rest ∧ top.tag = .menu ∧
      let y := (includesAt world limits budget depth).inMenu e level height history
      let build := takenIn world limits budget' next level height history source
      y = build top.children ∧ (rest = [] → y.TakesInAll build document) ∧
        (y.TakesInAll build document ↔ (∀ other ∈ rest, other.tag = .menu) ∧
          build (top.children ++ rest.flatMap (·.children)) = build top.children) := by
  obtain ⟨budget', next, rfl, hnext⟩ := entered_of_not_stopped htext hgoes
  have hfirst : ∃ top rest, document = top :: rest ∧ top.tag = .menu := by
    refine starts_with_menu_of_quiet
      (itemsOf (includesAt world limits budget' next).inMenu level height) e reference
      (history ++ source.calls limits.shell) ?_
    simp only [includesAt, menuInclude_of_source htext hnext hsource, hdocument,
      MenuYield.noting, Journal.diagnostics_append, Journal.diagnostics_includingMenu,
      diagnostics_resolve, List.nil_append] at hquiet
    exact hquiet
  obtain ⟨top, rest, rfl, htop⟩ := hfirst
  have htaken := menuInclude_of_first budget' level height htext hnext hsource hdocument htop
  have hall : ((includesAt world limits (budget' + 1) depth).inMenu e level height
      history).TakesInAll (takenIn world limits budget' next level height history source)
        (top :: rest) ↔
      (∀ other ∈ rest, other.tag = .menu) ∧
        takenIn world limits budget' next level height history source
            (top.children ++ rest.flatMap (·.children)) =
          takenIn world limits budget' next level height history source top.children := by
    rw [MenuYield.TakesInAll, htaken, List.forall_mem_cons, List.flatMap_cons]
    exact ⟨fun h => ⟨h.1.2, h.2.symm⟩, fun h => ⟨⟨htop, h.1⟩, h.2.symm⟩⟩
  refine ⟨budget', next, top, rest, rfl, hnext, rfl, htop, htaken, ?_, hall⟩
  rintro rfl
  exact hall.mpr ⟨List.forall_mem_nil _, by rw [List.flatMap_nil, List.append_nil]⟩

section Instances

def programMenu (command : String) : Element :=
  madeIn "m" .menu none [madeIn "m" .program (some command)]

def programEntry (command : String) : MenuItem :=
  .entry (some command) none (.execute command)

/-- An include of a file `m`. -/
def includeOfMenu : Element := madeIn "jwmrc" .include (some "m")

theorem ofMenuReference_m (text : String) :
    Source.ofMenuReference (World.holding "m" text) "m" = .ok (.file "m") := by
  rfl

theorem itemsOf_programs (onInclude : MenuInclude) (commands : List String) :
    itemsOf onInclude 0 0 [] (commands.flatMap fun command => (programMenu command).children) =
      { items := commands.map programEntry } := by
  induction commands with
  | nil => exact itemsOf_nil _ _ _ _
  | cons command commands ih =>
    have hleaf : itemOf onInclude 0 0 [] (madeIn "m" .program (some command)) =
        { items := [programEntry command] } := itemOf_leaf nofun nofun
    have hcalls : [] ++ Journal.calls [] = [] := rfl
    rw [List.flatMap_cons, programMenu, madeIn, List.singleton_append, itemsOf_cons]
    rw [hleaf, MenuYield.andThen_of_not_stopped rfl, hcalls, ih]
    rfl

/-- Building the items of programs in the place of the include. -/
theorem takenIn_programs (text : String) (commands : List String) :
    takenIn (World.holding "m" text) ⟨"/bin/sh", 8⟩ 7 1 0 0 [] (.file "m")
        (commands.flatMap fun command => (programMenu command).children) =
      { items := commands.map programEntry
        journal := .includingMenu "m" 1 ::
          (resolve (World.holding "m" text) "/bin/sh" [] (.file "m")).2 } := by
  rw [takenIn, Source.calls, List.append_nil, itemsOf_programs, MenuYield.noting,
    List.append_nil, Source.label]

/-- The text of the file with two menus. -/
def twoMenusText : String :=
  "<Menu><Program>xterm</Program></Menu><Menu><Program>xclock</Program></Menu>"

theorem resolve_twoMenus :
    (resolve (World.holding "m" twoMenusText) "/bin/sh" [] (.file "m")).1 =
      .ok [programMenu "xterm", programMenu "xclock"] :=
  congrArg Prod.fst (resolve_holding (by decide +kernel) (by rfl) "/bin/sh" [])

/-- The second of two menus is lost: the include goes through and warns of nothing, and what is
in that menu was not built. -/
theorem second_menu_is_dropped :
    let world := World.holding "m" twoMenusText
    let limits : Limits := ⟨"/bin/sh", 8⟩
    let y := (includesAt world limits 8 0).inMenu includeOfMenu 0 0 []
    (resolve world limits.shell [] (.file "m")).1 =
        .ok [programMenu "xterm", programMenu "xclock"] ∧
      y.stopped = false ∧ y.journal.diagnostics = [] ∧ y.items = [programEntry "xterm"] ∧
      ¬y.TakesInAll (takenIn world limits 7 1 0 0 [] (.file "m"))
        [programMenu "xterm", programMenu "xclock"] := by
  intro world limits y
  have hnext : enter? 8 0 = some 1 := by decide
  have hy : y = { items := [programEntry "xterm"]
                  journal := .includingMenu "m" 1 ::
                    (resolve world "/bin/sh" [] (.file "m")).2 } :=
    (menuInclude_of_first 7 0 0 rfl hnext (ofMenuReference_m _) resolve_twoMenus rfl).trans
      (takenIn_programs twoMenusText ["xterm"])
  have hquiet : y.journal.diagnostics = [] := by
    rw [hy, Journal.diagnostics_includingMenu, diagnostics_resolve]
  refine ⟨resolve_twoMenus, by rw [hy], hquiet, by rw [hy], ?_⟩
  rintro ⟨-, hall⟩
  have hboth := takenIn_programs twoMenusText ["xterm", "xclock"]
  have hlength : 1 = 2 := congrArg (·.items.length) (hy.symm.trans (hall.trans hboth))
  contradiction

/-- The text of the file with a menu and an empty one behind it. -/
def emptyMenuText : String := "<Menu><Program>xterm</Program></Menu><Menu/>"

theorem resolve_emptyMenu :
    (resolve (World.holding "m" emptyMenuText) "/bin/sh" [] (.file "m")).1 =
      .ok [programMenu "xterm", madeIn "m" .menu none] :=
  congrArg Prod.fst (resolve_holding (by decide +kernel) (by rfl) "/bin/sh" [])

/-- Behind the first menu there is nothing to lose. -/
theorem menu_include_takes_in_first_menu_empty :
    let world := World.holding "m" emptyMenuText
    let limits : Limits := ⟨"/bin/sh", 8⟩
    let y := (includesAt world limits 8 0).inMenu includeOfMenu 0 0 []
    includeOfMenu.text = some "m" ∧
      Source.ofMenuReference world "m" = .ok (.file "m") ∧
      (resolve world limits.shell [] (.file "m")).1 =
        .ok [programMenu "xterm", madeIn "m" .menu none] ∧
      y.stopped = false ∧ y.journal.diagnostics = [] ∧
      y.TakesInAll (takenIn world limits 7 1 0 0 [] (.file "m"))
        [programMenu "xterm", madeIn "m" .menu none] := by
  intro world limits y
  have hnext : enter? 8 0 = some 1 := by decide
  have hsource := ofMenuReference_m emptyMenuText
  have hy : y = { items := [programEntry "xterm"]
                  journal := .includingMenu "m" 1 ::
                    (resolve world "/bin/sh" [] (.file "m")).2 } :=
    (menuInclude_of_first 7 0 0 rfl hnext hsource resolve_emptyMenu rfl).trans
      (takenIn_programs emptyMenuText ["xterm"])
  have hgoes : y.stopped = false := by rw [hy]
  have hquiet : y.journal.diagnostics = [] := by
    rw [hy, Journal.diagnostics_includingMenu, diagnostics_resolve]
  obtain ⟨budget, next, top, rest, hbudget, hentered, hdocument, -, -, -, hall⟩ :=
    menu_include_takes_in_first_menu world limits 8 0 0 0 [] includeOfMenu "m" (.file "m") _ rfl
      hsource resolve_emptyMenu hgoes hquiet
  cases hbudget
  cases hnext.symm.trans hentered
  cases hdocument
  refine ⟨rfl, hsource, resolve_emptyMenu, hgoes, hquiet, hall.mpr ⟨?_, ?_⟩⟩
  · exact List.forall_mem_singleton.mpr rfl
  · exact congrArg _ (List.append_nil _)

end Instances

end DeskConfig
