import DeskConfig.Load
import DeskConfig.Proofs.Walk.Worlds

/-!
Loads are local. What a load asks of its world is in its journal: the files that it looks at
and the commands that it runs, each after the commands before it. A world with the same
variables that answers these questions the same makes the same load, event by event.
-/

namespace DeskConfig

open Markup (Element Tag)

namespace Journal

theorem calls_cons (event : Event) (events : Journal) :
    calls (event :: events) = event.call?.toList ++ calls events := by
  rw [calls, calls, List.filterMap_cons]
  cases event.call? <;> rfl

theorem mem_paths_cons {event : Event} {events : Journal} {path : String} :
    path ∈ paths (event :: events) ↔ event.path? = some path ∨ path ∈ paths events := by
  rw [paths, paths, List.filterMap_cons]
  cases event.path? <;> simp [eq_comm]

end Journal

namespace World

/-- Two worlds that answer an event of a journal the same. -/
structure Agree (world world' : World) (history : List Call) (event : Event) : Prop where
  files : ∀ path, event.path? = some path → world'.files history path = world.files history path
  run : ∀ call, event.call? = some call → world'.run history call = world.run history call

/-- Two worlds that answer a journal the same, each event after the calls before it. -/
def AgreeAlong (world world' : World) : (history : List Call) → Journal → Prop
  | _, [] => True
  | history, event :: events =>
    world.Agree world' history event ∧
      AgreeAlong world world' (history ++ event.call?.toList) events

variable {world world' : World} {history : List Call}

theorem agreeAlong_append {events later : Journal} :
    world.AgreeAlong world' history (events ++ later) ↔
      world.AgreeAlong world' history events ∧
        world.AgreeAlong world' (history ++ Journal.calls events) later := by
  induction events generalizing history with
  | nil => simp [AgreeAlong, Journal.calls]
  | cons event events ih =>
    rw [List.cons_append, AgreeAlong, AgreeAlong, ih, Journal.calls_cons, List.append_assoc,
      and_assoc]

theorem AgreeAlong.of_quiet {event : Event} {events : Journal}
    (h : world.AgreeAlong world' history (event :: events)) (hquiet : event.call? = none) :
    world.AgreeAlong world' history events := by
  have hevents := h.2
  rw [hquiet] at hevents
  simpa only [Option.toList_none, List.append_nil] using hevents

theorem AgreeAlong.readText {event : Event} {events : Journal}
    (h : world.AgreeAlong world' history (event :: events)) {path : String}
    (hpath : event.path? = some path) :
    world'.readText history path = world.readText history path := by
  rw [World.readText, World.readText, h.1.files path hpath]

end World

open World (AgreeAlong agreeAlong_append)

/-- A source is taken in the same if its files and commands are. -/
theorem resolve_of_agree {world world' : World} {shell : String} {history : List Call}
    {source : Source} (h : world.AgreeAlong world' history (resolve world shell history source).2) :
    resolve world' shell history source = resolve world shell history source := by
  cases source with
  | file path =>
    have htext : world'.readText history path = world.readText history path := by
      cases hread : world.readText history path with
      | ok text =>
        simp only [resolve, hread] at h
        exact (h.readText rfl).trans hread
      | error cause =>
        simp only [resolve, hread] at h
        exact (h.readText rfl).trans hread
    simp only [resolve, htext]
  | command line =>
    have hrun : world'.run history ⟨shell, line⟩ = world.run history ⟨shell, line⟩ := by
      cases hran : world.run history ⟨shell, line⟩ with
      | none =>
        simp only [resolve, hran] at h
        exact (h.1.run _ rfl).trans hran
      | some r =>
        simp only [resolve, hran] at h
        exact (h.1.run _ rfl).trans hran
    simp only [resolve, hrun]

section Menus

variable {world world' : World} {history : List Call}

/-- The second yield is the first one if the second world answers it the same. -/
def MenuYield.Stays (world world' : World) (history : List Call) (y z : MenuYield) : Prop :=
  world.AgreeAlong world' history y.journal → z = y

namespace MenuYield.Stays

variable {y z : MenuYield}

theorem refl (y : MenuYield) : y.Stays world world' history y := fun _ => rfl

theorem andThen {next next' : List Call → MenuYield} (h : y.Stays world world' history z)
    (hnext : ∀ later, (next later).Stays world world' later (next' later)) :
    (y.andThen history next).Stays world world' history (z.andThen history next') := by
  intro hworld
  cases hy : y.stopped with
  | true =>
    rw [andThen_of_stopped hy] at hworld ⊢
    rw [h hworld, andThen_of_stopped hy]
  | false =>
    rw [andThen_of_not_stopped hy] at hworld ⊢
    obtain ⟨hfirst, hlater⟩ := agreeAlong_append.mp hworld
    rw [h hfirst, andThen_of_not_stopped hy, hnext _ hlater]

theorem noting {events : Journal}
    (h : y.Stays world world' (history ++ Journal.calls events) z) :
    (y.noting events).Stays world world' history (z.noting events) := by
  intro hworld
  rw [h (agreeAlong_append.mp hworld).2]

theorem asSubmenu (h : y.Stays world world' history z) (e : Element) (itemHeight : Nat) :
    (y.asSubmenu e itemHeight).Stays world world' history (z.asSubmenu e itemHeight) :=
  fun hworld => congrArg (MenuYield.asSubmenu e itemHeight) (h hworld)

end MenuYield.Stays

def MenuInclude.Stays (world world' : World) (onInclude onInclude' : MenuInclude) : Prop :=
  ∀ e level height history, (onInclude e level height history).Stays world world' history
    (onInclude' e level height history)

/-- The induction is on the elements, for all levels at once. -/
theorem itemsOf_stays {onInclude onInclude' : MenuInclude}
    (h : onInclude.Stays world world' onInclude') (es : List Element) (level height : Nat)
    (history : List Call) :
    (itemsOf onInclude level height history es).Stays world world' history
      (itemsOf onInclude' level height history es) := by
  induction es using Markup.forest_induction generalizing level height history with
  | nil =>
    rw [itemsOf_nil, itemsOf_nil]
    exact .refl _
  | cons e es hchildren hes =>
    rw [itemsOf_cons, itemsOf_cons]
    refine MenuYield.Stays.andThen ?_ fun later => hes level height later
    by_cases hi : e.tag = .include
    · rw [itemOf_include hi, itemOf_include hi]
      exact h e level height history
    by_cases hm : e.tag = .menu
    · by_cases hl : level < Menu.maxLevel
      · rw [itemOf_menu hm hl, itemOf_menu hm hl]
        refine MenuYield.Stays.noting ?_
        rw [Journal.calls_ofWarnings, List.append_nil]
        exact (hchildren (level + 1) _ history).asSubmenu e _
      · rw [itemOf_menu_of_deep hm (Nat.not_lt.mp hl), itemOf_menu_of_deep hm (Nat.not_lt.mp hl)]
        exact .refl _
    · rw [itemOf_leaf hi hm, itemOf_leaf hi hm]
      exact .refl _

theorem includedItems_stays {items items' : List Call → List Element → MenuYield}
    (h : ∀ es, (items history es).Stays world world' history (items' history es)) (e : Element)
    (reference : String) (document : Except IncludeError (List Element)) :
    (includedItems items e reference history document).Stays world world' history
      (includedItems items' e reference history document) := by
  cases document with
  | error cause => cases cause <;> exact .refl _
  | ok document =>
    cases document with
    | nil => exact .refl _
    | cons root rest =>
      simp only [includedItems]
      split
      · exact h root.children
      · exact .refl _

/-- The induction is on the includes that can still be entered. -/
theorem menuInclude_stays (henv : world'.environment = world.environment) (shell : String)
    (limit budget depth : Nat) :
    (menuInclude world shell limit budget depth).Stays world world'
      (menuInclude world' shell limit budget depth) := by
  induction budget generalizing depth with
  | zero =>
    intro e level height history
    cases ht : e.text with
    | none =>
      rw [menuInclude_of_no_text ht, menuInclude_of_no_text ht]
      exact .refl _
    | some reference =>
      rw [menuInclude_of_no_budget ht, menuInclude_of_no_budget ht]
      exact .refl _
  | succ budget ih =>
    intro e level height history
    cases ht : e.text with
    | none =>
      rw [menuInclude_of_no_text ht, menuInclude_of_no_text ht]
      exact .refl _
    | some reference =>
      cases hn : enter? limit depth with
      | none =>
        rw [menuInclude_of_limit ht hn, menuInclude_of_limit ht hn]
        exact .refl _
      | some next =>
        have hsame := ofMenuReference_of_environment henv reference
        cases hs : Source.ofMenuReference world reference with
        | error cause =>
          rw [menuInclude_of_no_source ht hn hs, menuInclude_of_no_source ht hn (hsame.trans hs)]
          exact .refl _
        | ok source =>
          rw [menuInclude_of_source ht hn hs, menuInclude_of_source ht hn (hsame.trans hs)]
          intro hworld
          have hresolve := resolve_of_agree ((agreeAlong_append.mp hworld).1.of_quiet rfl)
          rw [hresolve]
          refine MenuYield.Stays.noting ?_ hworld
          rw [Journal.calls_includingMenu, calls_resolve]
          exact includedItems_stays (fun es => itemsOf_stays (ih next) es level height _) e
            reference _

end Menus

section Documents

variable {world world' : World} {history : List Call}

/-- The second part of a walk is the first one if the second world answers it the same. -/
def Progress.Stays (world world' : World) (history : List Call) (p q : Progress) : Prop :=
  world.AgreeAlong world' history p.journal → q = p

namespace Progress.Stays

variable {p q : Progress}

theorem refl (p : Progress) : p.Stays world world' history p := fun _ => rfl

theorem noting {events : Journal}
    (h : p.Stays world world' (history ++ Journal.calls events) q) :
    (p.noting events).Stays world world' history (q.noting events) := by
  intro hworld
  rw [h (agreeAlong_append.mp hworld).2]

theorem andThen {next next' : Config → List Call → Progress}
    (h : p.Stays world world' history q)
    (hnext : ∀ c later, (next c later).Stays world world' later (next' c later)) :
    (p.andThen history next).Stays world world' history (q.andThen history next') := by
  intro hworld
  cases hp : p.stopped with
  | true =>
    rw [andThen_of_stopped hp] at hworld ⊢
    rw [h hworld, andThen_of_stopped hp]
  | false =>
    rw [andThen_of_not_stopped hp] at hworld ⊢
    obtain ⟨hfirst, hlater⟩ := agreeAlong_append.mp hworld
    rw [h hfirst, andThen_of_not_stopped hp, hnext _ _ hlater]

end Progress.Stays

structure Includes.Stay (world world' : World) (includes includes' : Includes) : Prop where
  inMenu : includes.inMenu.Stays world world' includes'.inMenu
  inDocument : ∀ e c history, (includes.inDocument e c history).Stays world world' history
    (includes'.inDocument e c history)

theorem rootMenu_stays {onInclude onInclude' : MenuInclude}
    (h : onInclude.Stays world world' onInclude') (e : Element) (c : Config)
    (history : List Call) :
    (rootMenu onInclude e c history).Stays world world' history
      (rootMenu onInclude' e c history) := by
  intro hworld
  have hitems : (itemsOf onInclude 0 (Menu.heightOf e 0).value history e.children).Stays world
      world' history (itemsOf onInclude' 0 (Menu.heightOf e 0).value history e.children) :=
    itemsOf_stays h e.children 0 _ history
  have hasked : world.AgreeAlong world' history
      (itemsOf onInclude 0 (Menu.heightOf e 0).value history e.children).journal := by
    have hnoted : world.AgreeAlong world' history (.ofWarnings (Menu.heightOf e 0).warnings ++
        (itemsOf onInclude 0 (Menu.heightOf e 0).value history e.children).journal) := by
      cases hs : (itemsOf onInclude 0 (Menu.heightOf e 0).value history e.children).stopped with
      | true =>
        simpa only [rootMenu, MenuYield.noting, hs, if_true] using hworld
      | false =>
        simp only [rootMenu, MenuYield.noting, hs, Bool.false_eq_true, if_false] at hworld
        exact (agreeAlong_append.mp hworld).1
    simpa only [Journal.calls_ofWarnings, List.append_nil] using (agreeAlong_append.mp hnoted).2
  rw [rootMenu, rootMenu, hitems hasked]

variable (henv : world'.environment = world.environment)

include henv

theorem walkElement_stays {includes includes' : Includes}
    (h : includes.Stay world world' includes') (parent : Tag) (e : Element) (c : Config)
    (history : List Call) :
    (walkElement world includes parent e c history).Stays world world' history
      (walkElement world' includes' parent e c history) := by
  by_cases hm : e.tag = .rootMenu
  · rw [walkElement_rootMenu hm, walkElement_rootMenu hm]
    exact rootMenu_stays h.inMenu e c history
  by_cases hi : e.tag = .include
  · rw [walkElement_include hi, walkElement_include hi]
    exact h.inDocument e c history
  · rw [walkElement_declaration hm hi, walkElement_declaration hm hi, declare_of_environment henv]
    exact .refl _

theorem walkElements_stay {includes includes' : Includes}
    (h : includes.Stay world world' includes') (parent : Tag) (es : List Element) (c : Config)
    (history : List Call) :
    (walkElements world includes parent es c history).Stays world world' history
      (walkElements world' includes' parent es c history) := by
  induction es generalizing c history with
  | nil =>
    rw [walkElements, walkElements]
    exact .refl _
  | cons e es ih =>
    rw [walkElements, walkElements]
    exact (walkElement_stays henv h parent e c history).andThen ih

theorem walkDocument_stays {includes includes' : Includes}
    (h : includes.Stay world world' includes') (es : List Element) (c : Config)
    (history : List Call) :
    (walkDocument world includes es c history).Stays world world' history
      (walkDocument world' includes' es c history) := by
  induction es generalizing c history with
  | nil =>
    rw [walkDocument, walkDocument]
    exact .refl _
  | cons e es ih =>
    rw [walkDocument, walkDocument]
    refine Progress.Stays.andThen ?_ ih
    split
    · exact walkElements_stay henv h e.tag e.children c history
    · exact .refl _

theorem includedDocument_stays {includes includes' : Includes}
    (h : includes.Stay world world' includes') (e : Element) (label : String) (c : Config)
    (history : List Call) (document : Except IncludeError (List Element)) :
    (includedDocument (walkDocument world includes) e label c history document).Stays world world'
      history (includedDocument (walkDocument world' includes') e label c history document) := by
  cases document with
  | error cause => cases cause <;> exact .refl _
  | ok document => exact walkDocument_stays henv h document c history

theorem includesAt_stay (limits : Limits) (budget depth : Nat) :
    (includesAt world limits budget depth).Stay world world'
      (includesAt world' limits budget depth) := by
  induction budget generalizing depth with
  | zero =>
    refine ⟨menuInclude_stays henv _ _ _ _, ?_⟩
    intro e c history
    simp only [includesAt]
    cases ht : e.text with
    | none =>
      rw [documentInclude_of_no_text ht, documentInclude_of_no_text ht]
      exact .refl _
    | some reference =>
      rw [documentInclude_of_no_budget ht, documentInclude_of_no_budget ht]
      exact .refl _
  | succ budget ih =>
    refine ⟨menuInclude_stays henv _ _ _ _, ?_⟩
    intro e c history
    simp only [includesAt]
    cases ht : e.text with
    | none =>
      rw [documentInclude_of_no_text ht, documentInclude_of_no_text ht]
      exact .refl _
    | some reference =>
      cases hn : enter? limits.includeDepth depth with
      | none =>
        rw [documentInclude_of_limit ht hn, documentInclude_of_limit ht hn]
        exact .refl _
      | some next =>
        have hsame := ofReference_of_environment henv reference
        cases hs : Source.ofReference world reference with
        | error cause =>
          rw [documentInclude_of_no_source ht hn hs,
            documentInclude_of_no_source ht hn (hsame.trans hs)]
          exact .refl _
        | ok source =>
          rw [documentInclude_of_source ht hn hs,
            documentInclude_of_source ht hn (hsame.trans hs)]
          intro hworld
          have hresolve := resolve_of_agree ((agreeAlong_append.mp hworld).1.of_quiet rfl)
          rw [hresolve]
          refine Progress.Stays.noting ?_ hworld
          rw [Journal.calls_including, calls_resolve]
          exact includedDocument_stays henv (ih next) e source.label c _ _

theorem walkText_stays (o : Options) (label text : String) :
    (Load.walkText world o label text).Stays world world' []
      (Load.walkText world' o label text) := by
  rw [Load.walkText, Load.walkText]
  split
  · exact walkDocument_stays henv (includesAt_stay henv _ _ _) _ {} []
  · exact .refl _

/-- A load of a text in another world that answers the same. -/
theorem loadText_of_agree {o : Options} {label text : String}
    (h : world.AgreeAlong world' [] (loadText world o label text).journal) :
    loadText world' o label text = loadText world o label text := by
  have hwalk : world.AgreeAlong world' [] (Load.walkText world o label text).journal := by
    rw [loadText, Load.ofProgress] at h
    split at h
    · exact (agreeAlong_append.mp h).1
    · exact (agreeAlong_append.mp (agreeAlong_append.mp h).1).1
  rw [loadText, loadText, walkText_stays henv o label text hwalk]

theorem loadFile_of_agree {o : Options} {path text : String}
    (h : world.AgreeAlong world' [] (loadFile world o path text).journal) :
    loadFile world' o path text = loadFile world o path text := by
  rw [loadFile, loadFile, loadText_of_agree henv (h.of_quiet rfl)]

/-- A load depends on its world through the answers to its own journal only. -/
theorem load_of_agree {o : Options} (h : world.AgreeAlong world' [] (load world o).journal) :
    load world' o = load world o := by
  cases hroot : world.readText [] o.configPath with
  | ok text =>
    simp only [load, hroot] at h ⊢
    rw [(h.readText rfl).trans hroot]
    exact loadFile_of_agree henv h
  | error cause =>
    cases hfallback : world.readText [] o.fallbackPath with
    | ok text =>
      simp only [load, hroot, hfallback] at h ⊢
      have hloaded : world.AgreeAlong world' [] (loadFile world o o.fallbackPath text).journal :=
        (agreeAlong_append.mp h).2
      rw [(h.readText rfl).trans hroot, (hloaded.readText rfl).trans hfallback]
      exact congrArg (Load.noting _) (loadFile_of_agree henv hloaded)
    | error cause' =>
      simp only [load, hroot, hfallback] at h ⊢
      have hunreadable : world.AgreeAlong world' [] [.unreadableRoot o.fallbackPath] :=
        (agreeAlong_append.mp (agreeAlong_append.mp h).1).2
      rw [(h.readText rfl).trans hroot, (hunreadable.readText rfl).trans hfallback]

end Documents

end DeskConfig
