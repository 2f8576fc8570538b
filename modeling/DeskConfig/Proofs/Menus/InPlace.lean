import DeskConfig.Proofs.Include.TextFiles
import DeskConfig.Proofs.Menus.Binding
import DeskConfig.Proofs.Walk.Include

/-!
Menus built in place. A builder that has the whole configuration at hand, and adds to the
menu under construction and to the journal as it goes, ends up where the yield of the items
leads: it appends the items and what happened, settles whether exits are confirmed, and
changes nothing else, even when the include limit stops it halfway. A root menu is such a
building that is bound in the end, if it was not stopped.
-/

namespace DeskConfig

open Markup (Element)

/-- The state of a builder: the configuration, the items of the menu that it is at, and
what happened since the start of the load. -/
structure Building where
  config : Config
  items : List MenuItem := []
  journal : Journal := []
  stopped : Bool := false

namespace Building

def note (events : Journal) (b : Building) : Building :=
  { b with journal := b.journal ++ events }

def warn (e : Element) (p : Problem) (b : Building) : Building :=
  b.note [.warned (.located e.origin p)]

def stop (b : Building) : Building := { b with stopped := true }

/-- Adds the item of an element that holds no other items. An exit entry settles at once
whether exits are confirmed. -/
def addLeaf (e : Element) (b : Building) : Building :=
  { b with
    config.confirmExit := (Menu.confirmation? e).getD b.config.confirmExit
    items := b.items ++ (Menu.leafItem e).value.toList
    journal := b.journal ++ .ofWarnings (Menu.leafItem e).warnings }

/-- Builds a menu of its own, which becomes an item of the menu around it. One that is
stopped halfway is lost. -/
def addSubmenu (e : Element) (itemHeight : Nat) (build : Building → Building) (b : Building) :
    Building :=
  let inner := build { b with items := [] }
  { inner with
    items :=
      if inner.stopped then b.items
      else b.items ++ [.submenu (e.attribute? "label") (e.attribute? "icon") (Menu.titleOf e)
        itemHeight inner.items] }

end Building

/-- How an include inside a menu is carried out in place. -/
abbrev BuildInclude := Element → (level height : Nat) → Building → Building

mutual

def buildItems (onInclude : BuildInclude) (level height : Nat) :
    Building → List Element → Building
  | b, [] => b
  | b, e :: es =>
    if b.stopped then b
    else buildItems onInclude level height (buildItem onInclude level height b e) es

def buildItem (onInclude : BuildInclude) (level height : Nat) (b : Building) :
    Element → Building
  | ⟨tag, text, attributes, children, origin⟩ =>
    let e : Element := ⟨tag, text, attributes, children, origin⟩
    match tag with
    | .include => onInclude e level height b
    | .menu =>
      if Menu.maxLevel ≤ level then b.warn e (.menuTooDeep Menu.maxLevel)
      else
        let itemHeight := Menu.heightOf e height
        (b.note (.ofWarnings itemHeight.warnings)).addSubmenu e itemHeight.value fun b =>
          buildItems onInclude (level + 1) itemHeight.value b children
    | _ => b.addLeaf e

end

/-- Builds the items of an included document, whose first element has to be a menu. -/
def buildIncluded (build : Building → List Element → Building) (e : Element)
    (reference : String) (b : Building) : Except IncludeError (List Element) → Building
  | .error (.markup cause) =>
    (b.note [.warned (.ofMarkup cause)]).warn e (.invalidMenu reference)
  | .error cause => b.warn e (.failedInclude cause)
  | .ok [] => b.warn e (.invalidMenu reference)
  | .ok (root :: _) =>
    if root.tag = .menu then build b root.children else b.warn e (.invalidMenu reference)

/-- Builds a root menu with no items yet and binds it in the end, unless that was stopped. -/
def buildRootMenu (onInclude : BuildInclude) (e : Element) (b : Building) : Building :=
  let height := Menu.heightOf e 0
  let built := buildItems onInclude 0 height.value
    { b.note (.ofWarnings height.warnings) with items := [] } e.children
  if built.stopped then built
  else
    let slots := Menu.slotsOf e
    { built with
      config := built.config.bindMenu slots.value
        { label := Menu.titleOf e, itemHeight := height.value, items := built.items }
      journal := built.journal ++ .ofWarnings slots.warnings }

/-- An include inside a menu of a document at `depth`, carried out in place. -/
def buildInclude (world : World) (shell : String) (limit : Nat) :
    (budget depth : Nat) → BuildInclude
  | budget, depth, e, level, height, b =>
    match e.text with
    | none => b.warn e (.missingText e.name)
    | some reference =>
      match enter? limit depth, budget with
      | none, _ => b.stop
      | some _, 0 => b.stop
      | some next, budget + 1 =>
        match Source.ofMenuReference world reference with
        | .error cause => b.warn e (.failedInclude cause)
        | .ok source =>
          let (document, events) := resolve world shell b.journal.calls source
          buildIncluded (buildItems (buildInclude world shell limit budget next) level height) e
            reference (b.note (.includingMenu source.label next :: events)) document

namespace Building

/-- The state that a yield leads to. -/
def after (b : Building) (y : MenuYield) : Building :=
  if b.stopped then b
  else
    { config := { b.config with confirmExit := y.confirm.getD b.config.confirmExit }
      items := b.items ++ y.items
      journal := b.journal ++ y.journal
      stopped := y.stopped }

section After

variable {b : Building} {e : Element} {p : Problem}

theorem after_of_stopped (hb : b.stopped = true) (y : MenuYield) : b.after y = b := by
  rw [after, if_pos hb]

theorem after_empty (b : Building) : b.after {} = b := by
  cases hb : b.stopped with
  | true => exact after_of_stopped hb _
  | false =>
    obtain ⟨config, items, journal, stopped⟩ := b
    cases hb
    simp [after]

/-- One yield after the other leads where both in sequence lead. -/
theorem after_after (hb : b.stopped = false) (y : MenuYield) (next : List Call → MenuYield) :
    (b.after y).after (next (b.after y).journal.calls) =
      b.after (y.andThen b.journal.calls next) := by
  cases hy : y.stopped with
  | true =>
    have hstopped : (b.after y).stopped = true := by simp [after, hb, hy]
    rw [after_of_stopped hstopped, MenuYield.andThen_of_stopped hy]
  | false =>
    rw [MenuYield.andThen_of_not_stopped hy]
    simp only [after, hb, hy, MenuYield.join, Bool.false_eq_true, if_false, Journal.calls_append,
      List.append_assoc, Building.mk.injEq, and_true, Config.mk.injEq, true_and]
    cases (next (b.journal.calls ++ y.journal.calls)).confirm <;> rfl

theorem warn_eq_after (hb : b.stopped = false) :
    b.warn e p = b.after (.ofWarning e p) := by
  simp [warn, note, after, hb, MenuYield.ofWarning]

theorem stop_eq_after (hb : b.stopped = false) :
    b.stop = b.after { stopped := true } := by
  simp [stop, after, hb]

theorem note_after (hb : b.stopped = false) (events : Journal) (y : MenuYield) :
    (b.note events).after y = b.after (y.noting events) := by
  simp [note, after, hb, MenuYield.noting]

theorem addLeaf_eq_after (hb : b.stopped = false) :
    b.addLeaf e =
      b.after { MenuYield.ofReading (Menu.leafItem e) with confirm := Menu.confirmation? e } := by
  simp [addLeaf, after, hb, MenuYield.ofReading]

theorem addSubmenu_eq_after (hb : b.stopped = false) {itemHeight : Nat}
    {build : Building → Building} {y : MenuYield}
    (hbuild : build { b with items := [] } = { b with items := [] }.after y) :
    b.addSubmenu e itemHeight build = b.after (y.asSubmenu e itemHeight) := by
  rw [addSubmenu, hbuild]
  cases hy : y.stopped <;> simp [after, hb, hy, MenuYield.asSubmenu]

end After

end Building

/-- What an include does in place is what its yield leads to. -/
def BuildInclude.LeadsTo (build : BuildInclude) (onInclude : MenuInclude) : Prop :=
  ∀ e level height b, b.stopped = false →
    build e level height b = b.after (onInclude e level height b.journal.calls)

section Items

variable {build : BuildInclude} {onInclude : MenuInclude}

theorem buildItem_eq_after (h : build.LeadsTo onInclude) {e : Element} {level height : Nat}
    {b : Building} (hb : b.stopped = false)
    (hchildren : ∀ level height b, buildItems build level height b e.children =
      b.after (itemsOf onInclude level height b.journal.calls e.children)) :
    buildItem build level height b e =
      b.after (itemOf onInclude level height b.journal.calls e) := by
  by_cases hi : e.tag = .include
  · rw [itemOf_include hi, ← h e level height b hb]
    obtain ⟨tag, text, attributes, children, origin⟩ := e
    cases hi
    rw [buildItem]
  by_cases hm : e.tag = .menu
  · by_cases hl : Menu.maxLevel ≤ level
    · rw [itemOf_menu_of_deep hm hl, ← Building.warn_eq_after hb]
      obtain ⟨tag, text, attributes, children, origin⟩ := e
      cases hm
      rw [buildItem]
      simp only [hl, if_true]
    · have hwarned : (b.note (.ofWarnings (Menu.heightOf e height).warnings)).stopped = false := hb
      have hcalls : (b.note (.ofWarnings (Menu.heightOf e height).warnings)).journal.calls =
          b.journal.calls := by simp [Building.note]
      have hinner := hchildren (level + 1) (Menu.heightOf e height).value
        { b.note (.ofWarnings (Menu.heightOf e height).warnings) with items := [] }
      simp only [hcalls] at hinner
      have hsubmenu : (b.note (.ofWarnings (Menu.heightOf e height).warnings)).addSubmenu e
          (Menu.heightOf e height).value
          (fun b => buildItems build (level + 1) (Menu.heightOf e height).value b e.children) =
          _ := Building.addSubmenu_eq_after hwarned hinner
      rw [itemOf_menu hm (Nat.not_le.mp hl), ← Building.note_after hb, ← hsubmenu]
      obtain ⟨tag, text, attributes, children, origin⟩ := e
      cases hm
      rw [buildItem]
      simp only [hl, if_false]
  · rw [itemOf_leaf hi hm, ← Building.addLeaf_eq_after hb]
    obtain ⟨tag, text, attributes, children, origin⟩ := e
    rw [buildItem]
    · exact hi
    · exact hm

/-- The induction is on the elements, for all levels at once: the children of a submenu are
built one level further down. -/
theorem buildItems_eq_after (h : build.LeadsTo onInclude) (es : List Element)
    (level height : Nat) (b : Building) :
    buildItems build level height b es =
      b.after (itemsOf onInclude level height b.journal.calls es) := by
  induction es using Markup.forest_induction generalizing level height b with
  | nil => rw [buildItems, itemsOf_nil, Building.after_empty]
  | cons e es hchildren hes =>
    cases hb : b.stopped with
    | true =>
      rw [buildItems, if_pos hb, Building.after_of_stopped hb]
    | false =>
      rw [buildItems, hb, itemsOf_cons, buildItem_eq_after h hb hchildren]
      simp only [Bool.false_eq_true, if_false]
      rw [hes]
      exact Building.after_after hb _ fun history => itemsOf onInclude level height history es

end Items

theorem buildIncluded_eq_after {build : Building → List Element → Building}
    {items : List Call → List Element → MenuYield} (e : Element) (reference : String)
    {b : Building} (hb : b.stopped = false)
    (h : ∀ es, build b es = b.after (items b.journal.calls es))
    (document : Except IncludeError (List Element)) :
    buildIncluded build e reference b document =
      b.after (includedItems items e reference b.journal.calls document) := by
  cases document with
  | error cause =>
    cases cause with
    | markup cause =>
      have hnoted : (b.note [.warned (.ofMarkup cause)]).stopped = false := hb
      rw [buildIncluded, includedItems, ← Building.note_after hb, ← Building.warn_eq_after hnoted]
    | _ => exact Building.warn_eq_after hb
  | ok document =>
    cases document with
    | nil => exact Building.warn_eq_after hb
    | cons root rest =>
      simp only [buildIncluded, includedItems]
      split
      · exact h root.children
      · exact Building.warn_eq_after hb

/-- The induction is on the includes that can still be entered one inside the other. -/
theorem buildInclude_leadsTo (world : World) (shell : String) (limit budget depth : Nat) :
    (buildInclude world shell limit budget depth).LeadsTo
      (menuInclude world shell limit budget depth) := by
  induction budget using Nat.strongRecOn generalizing depth with
  | ind budget ih =>
    intro e level height b hb
    rw [buildInclude]
    cases ht : e.text with
    | none =>
      rw [menuInclude_of_no_text ht]
      exact Building.warn_eq_after hb
    | some reference =>
      cases hn : enter? limit depth with
      | none =>
        rw [menuInclude_of_limit ht hn]
        exact Building.stop_eq_after hb
      | some next =>
        cases budget with
        | zero =>
          rw [menuInclude_of_no_budget ht]
          exact Building.stop_eq_after hb
        | succ budget =>
          have hinner := ih budget (Nat.lt_succ_self budget) next
          cases hs : Source.ofMenuReference world reference with
          | error cause =>
            rw [menuInclude_of_no_source ht hn hs]
            simp only [hs]
            exact Building.warn_eq_after hb
          | ok source =>
            have hnoted : (b.note (.includingMenu source.label next ::
                (resolve world shell b.journal.calls source).2)).stopped = false := hb
            have hcalls : (b.note (.includingMenu source.label next ::
                (resolve world shell b.journal.calls source).2)).journal.calls =
                b.journal.calls ++ source.calls shell := by
              simp [Building.note, calls_resolve]
            have hdocument := buildIncluded_eq_after e reference hnoted
              (fun es => buildItems_eq_after hinner es level height _)
              (resolve world shell b.journal.calls source).1
            rw [menuInclude_of_source ht hn hs, ← Building.note_after hb, ← hcalls]
            simp only [hs]
            exact hdocument

section Frame

variable {b : Building}

/-- A yield adds to the items and to the journal, and no more than confirming exits is
settled by it. -/
theorem Building.after_frame (b : Building) (y : MenuYield) :
    (b.after y).config = { b.config with confirmExit := (b.after y).config.confirmExit } ∧
      b.items <+: (b.after y).items ∧ b.journal <+: (b.after y).journal := by
  cases hb : b.stopped with
  | true =>
    rw [after_of_stopped hb]
    exact ⟨rfl, List.prefix_rfl, List.prefix_rfl⟩
  | false =>
    simp only [after, hb, Bool.false_eq_true, if_false]
    exact ⟨trivial, List.prefix_append _ _, List.prefix_append _ _⟩

/-- A root menu that is built in place comes to the same as one built from its yield. -/
theorem buildRootMenu_eq {build : BuildInclude} {onInclude : MenuInclude}
    (h : build.LeadsTo onInclude) (e : Element) (hb : b.stopped = false) :
    (buildRootMenu build e b).config = (rootMenu onInclude e b.config b.journal.calls).config ∧
      (buildRootMenu build e b).journal =
        b.journal ++ (rootMenu onInclude e b.config b.journal.calls).journal ∧
      (buildRootMenu build e b).stopped =
        (rootMenu onInclude e b.config b.journal.calls).stopped := by
  have hcalls : (b.note (.ofWarnings (Menu.heightOf e 0).warnings)).journal.calls =
      b.journal.calls := by simp [Building.note]
  simp only [buildRootMenu, rootMenu, buildItems_eq_after h, hcalls]
  cases hs : (itemsOf onInclude 0 (Menu.heightOf e 0).value b.journal.calls e.children).stopped with
  | true => simp [Building.after, Building.note, MenuYield.noting, hb, hs]
  | false => simp [Building.after, Building.note, MenuYield.noting, hb, hs]

end Frame

/-- Building items in place, whatever is included on the way, adds items to the menu at hand
and events to the journal, and changes nothing in the configuration but whether exits are
confirmed; it ends where the yield of the items leads. A root menu changes the registry
besides, and not even that if it was stopped. -/
theorem menus_change_menus_only (world : World) (shell : String) (limit budget depth : Nat) :
    (∀ level height b es,
      let b' := buildItems (buildInclude world shell limit budget depth) level height b es
      b' = b.after (itemsOf (menuInclude world shell limit budget depth) level height
        b.journal.calls es) ∧
      b'.config = { b.config with confirmExit := b'.config.confirmExit } ∧
      b.items <+: b'.items ∧ b.journal <+: b'.journal) ∧
    ∀ e b, b.stopped = false →
      let b' := buildRootMenu (buildInclude world shell limit budget depth) e b
      let p := rootMenu (menuInclude world shell limit budget depth) e b.config b.journal.calls
      (b'.config = p.config ∧ b'.journal = b.journal ++ p.journal ∧ b'.stopped = p.stopped) ∧
      p.config = { b.config with
        rootMenus := p.config.rootMenus, confirmExit := p.config.confirmExit } ∧
      (p.stopped = true → p.config.rootMenus = b.config.rootMenus) := by
  have hbuild := buildInclude_leadsTo world shell limit budget depth
  refine ⟨?_, ?_⟩
  · intro level height b es
    simp only [buildItems_eq_after hbuild, true_and]
    exact b.after_frame _
  · intro e b hb
    refine ⟨buildRootMenu_eq hbuild e hb, ?_, ?_⟩
    · simp only [config_rootMenu]
    · intro hs
      rw [config_rootMenu, if_pos (.inl hs)]

/-- An exit entry before an include that the limit does not allow. -/
def haltedMenu : Element :=
  { tag := .rootMenu
    children := [
      { tag := .exit, attributes := [⟨"confirm", "false"⟩], origin := ⟨"jwmrc", 2⟩ },
      { tag := .include, text := some "/menu", origin := ⟨"jwmrc", 3⟩ }]
    origin := ⟨"jwmrc", 1⟩ }

/-- The menu that was bound before is still the only one. -/
theorem menus_change_menus_only_halted :
    let bound : RootMenus := RootMenus.set {} [1] { label := some "old" }
    let b' := buildRootMenu (buildInclude (World.holding "" "") "/bin/sh" 0 0 0) haltedMenu
      { config := { rootMenus := bound } }
    b'.stopped = true ∧ b'.config = { rootMenus := bound, confirmExit := false } := by
  have hstopped : (rootMenu (menuInclude (World.holding "" "") "/bin/sh" 0 0 0) haltedMenu
      { rootMenus := RootMenus.set {} [1] { label := some "old" } } []).stopped = true := by
    decide +kernel
  have hconfirm : (rootMenu (menuInclude (World.holding "" "") "/bin/sh" 0 0 0) haltedMenu
      { rootMenus := RootMenus.set {} [1] { label := some "old" } } []).config.confirmExit =
        false := by
    decide +kernel
  obtain ⟨⟨hconfig, -, hstop⟩, hframe, hmenus⟩ :=
    (menus_change_menus_only (World.holding "" "") "/bin/sh" 0 0 0).2 haltedMenu
      { config := { rootMenus := RootMenus.set {} [1] { label := some "old" } } } rfl
  refine ⟨hstop.trans hstopped, ?_⟩
  have hkept := hmenus hstopped
  simp only [Journal.calls, List.filterMap_nil] at hconfig hframe hkept
  rw [hconfig, hframe, hkept, hconfirm]

end DeskConfig
