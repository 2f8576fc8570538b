import DeskConfig.Proofs.Settings.Labels
import DeskConfig.Proofs.Walk.Worlds

/-!
Two runs of a walk. The second run is over elements that differ from those of the first one in
their labels only, in a world that answers alike along the commands of the first one, and may
enter as many includes or more. It then builds the same, under other labels: step by step, and
from there, by induction on the includes that can still be entered, as a whole.
-/

namespace DeskConfig

open Markup (Element Tag)

/-- How two runs are compared: up to which labels, in which worlds, and whether the second run
has to stop where the first one does. If it does not, only first runs that go through count. -/
structure TwoRuns where
  label : String → String
  stops : Prop
  world : World
  world' : World

section Elements

variable {f : String → String} {e e' : Element} (h : e'.relabel f = e.relabel f)

include h

theorem tag_of_relabel : e'.tag = e.tag := by
  simpa using congrArg (·.tag) h

theorem text_of_relabel : e'.text = e.text := by
  simpa using congrArg (·.text) h

theorem children_of_relabel :
    e'.children.map (·.relabel f) = e.children.map (·.relabel f) := by
  simpa using congrArg (·.children) h

theorem located_of_relabel (problem : Problem) :
    (Diagnostic.located e'.origin problem).relabel f =
      (Diagnostic.located e.origin problem).relabel f := by
  have horigin : e'.origin.relabel f = e.origin.relabel f := by
    simpa using congrArg (·.origin) h
  rw [← Diagnostic.located_relabel, ← Diagnostic.located_relabel, horigin]

end Elements

/-- What is read alike has the same value and the same warnings under other labels. -/
theorem Reading.of_relabel {f : String → String} {r r' : Reading α}
    (h : r'.relabel f = r.relabel f) :
    r'.value = r.value ∧ r'.warnings.map (·.relabel f) = r.warnings.map (·.relabel f) :=
  ⟨congrArg (·.value) h, congrArg (·.warnings) h⟩

/-- Items that are the same up to labels: all that a reader of the result can see of them. -/
structure MenuYield.AlikeUpTo (f : String → String) (y z : MenuYield) : Prop where
  items : z.items = y.items
  confirm : z.confirm = y.confirm
  diagnostics :
    z.journal.diagnostics.map (·.relabel f) = y.journal.diagnostics.map (·.relabel f)
  calls : z.journal.calls = y.journal.calls
  stopped : z.stopped = y.stopped

namespace TwoRuns

variable {k : TwoRuns} {history history' : List Call}

/-- Items of the first run, with those of the second run in the same place. -/
def Items (k : TwoRuns) (history history' : List Call) (y z : MenuYield) : Prop :=
  (y.stopped = true → k.stops) →
    World.Alike k.world k.world' history history' y.journal.calls → y.AlikeUpTo k.label z

namespace Items

variable {y z : MenuYield} {e e' : Element}

theorem refl (y : MenuYield) : k.Items history history' y y :=
  fun _ _ => ⟨rfl, rfl, rfl, rfl, rfl⟩

theorem ofWarning (h : e'.relabel k.label = e.relabel k.label) (problem : Problem) :
    k.Items history history' (.ofWarning e problem) (.ofWarning e' problem) :=
  fun _ _ => ⟨rfl, rfl, congrArg ([·]) (located_of_relabel h problem), rfl, rfl⟩

theorem andThen {next next' : List Call → MenuYield} (h : k.Items history history' y z)
    (hnext : k.Items (history ++ y.journal.calls) (history' ++ y.journal.calls)
      (next (history ++ y.journal.calls)) (next' (history' ++ y.journal.calls))) :
    k.Items history history' (y.andThen history next) (z.andThen history' next') := by
  intro hstops hworld
  cases hy : y.stopped with
  | true =>
    rw [MenuYield.andThen_of_stopped hy] at hstops hworld ⊢
    have hz := h hstops hworld
    rw [MenuYield.andThen_of_stopped (hz.stopped.trans hy)]
    exact hz
  | false =>
    rw [MenuYield.andThen_of_not_stopped hy] at hstops hworld ⊢
    simp only [MenuYield.join, Journal.calls_append] at hstops hworld
    have hz := h (fun hstopped => absurd (hy.symm.trans hstopped) Bool.false_ne_true) hworld.before
    have hlater := hnext hstops hworld.after
    rw [MenuYield.andThen_of_not_stopped (hz.stopped.trans hy), hz.calls]
    exact {
      items := by simp only [MenuYield.join, hz.items, hlater.items]
      confirm := by simp only [MenuYield.join, hz.confirm, hlater.confirm]
      diagnostics := by
        simp only [MenuYield.join, Journal.diagnostics_append, List.map_append, hz.diagnostics,
          hlater.diagnostics]
      calls := by simp only [MenuYield.join, Journal.calls_append, hz.calls, hlater.calls]
      stopped := hlater.stopped }

/-- Events that run commands come before items that are built after them. -/
theorem noting {events events' : Journal}
    (h : k.Items (history ++ Journal.calls events) (history' ++ Journal.calls events) y z)
    (hd : (Journal.diagnostics events').map (·.relabel k.label) =
      (Journal.diagnostics events).map (·.relabel k.label))
    (hc : Journal.calls events' = Journal.calls events) :
    k.Items history history' (y.noting events) (z.noting events') := by
  intro hstops hworld
  simp only [MenuYield.noting, Journal.calls_append] at hworld
  have hz := h hstops hworld.after
  exact {
    items := hz.items
    confirm := hz.confirm
    diagnostics := by
      simp only [MenuYield.noting, Journal.diagnostics_append, List.map_append, hd,
        hz.diagnostics]
    calls := by simp only [MenuYield.noting, Journal.calls_append, hc, hz.calls]
    stopped := hz.stopped }

theorem asSubmenu (h : k.Items history history' y z)
    (he : e'.relabel k.label = e.relabel k.label) (height : Nat) :
    k.Items history history' (y.asSubmenu e height) (z.asSubmenu e' height) := by
  intro hstops hworld
  have hz := h hstops hworld
  have hattribute : ∀ name, e'.attribute? name = e.attribute? name := by
    intro name
    simpa using congrArg (·.attribute? name) he
  exact {
    items := by
      simp only [MenuYield.asSubmenu, Menu.titleOf, hattribute, hz.items, hz.stopped]
    confirm := hz.confirm
    diagnostics := hz.diagnostics
    calls := hz.calls
    stopped := hz.stopped }

end Items

/-- Includes in menus that are carried out alike. -/
def Menus (k : TwoRuns) (onInclude onInclude' : MenuInclude) : Prop :=
  ∀ e e' level height history history', e'.relabel k.label = e.relabel k.label →
    k.Items history history' (onInclude e level height history)
      (onInclude' e' level height history')

/-- By induction on the elements, with those of the second run beside them. -/
theorem items {onInclude onInclude' : MenuInclude} (hinc : k.Menus onInclude onInclude')
    (es es' : List Element) (h : es'.map (·.relabel k.label) = es.map (·.relabel k.label))
    (level height : Nat) (history history' : List Call) :
    k.Items history history' (itemsOf onInclude level height history es)
      (itemsOf onInclude' level height history' es') := by
  induction es using Markup.forest_induction generalizing es' level height history history' with
  | nil =>
    obtain rfl := List.map_eq_nil_iff.mp h
    rw [itemsOf_nil, itemsOf_nil]
    exact .refl _
  | cons e es ihe ihs =>
    obtain ⟨e', es', rfl, he, hes⟩ := List.map_eq_cons_iff.mp h
    rw [itemsOf_cons, itemsOf_cons]
    refine Items.andThen ?_ (ihs es' hes level height _ _)
    have htag := tag_of_relabel he
    by_cases hi : e.tag = .include
    · rw [itemOf_include hi, itemOf_include (htag.trans hi)]
      exact hinc e e' level height history history' he
    by_cases hm : e.tag = .menu
    · by_cases hl : level < Menu.maxLevel
      · have hheight : (Menu.heightOf e' height).relabel k.label =
            (Menu.heightOf e height).relabel k.label := by
          rw [← Menu.heightOf_relabel, ← Menu.heightOf_relabel, he]
        obtain ⟨hvalue, hwarnings⟩ := Reading.of_relabel hheight
        rw [itemOf_menu hm hl, itemOf_menu (htag.trans hm) hl, hvalue]
        refine Items.noting ?_ ?_ ?_
        · simp only [Journal.calls_ofWarnings, List.append_nil]
          exact (ihe e'.children (children_of_relabel he) _ _ _ _).asSubmenu he _
        · rw [Journal.diagnostics_ofWarnings, Journal.diagnostics_ofWarnings, hwarnings]
        · rw [Journal.calls_ofWarnings, Journal.calls_ofWarnings]
      · rw [itemOf_menu_of_deep hm (Nat.not_lt.mp hl),
          itemOf_menu_of_deep (htag.trans hm) (Nat.not_lt.mp hl)]
        exact .ofWarning he _
    · have hleaf : (Menu.leafItem e').relabel k.label = (Menu.leafItem e).relabel k.label := by
        rw [← Menu.leafItem_relabel, ← Menu.leafItem_relabel, he]
      obtain ⟨hvalue, hwarnings⟩ := Reading.of_relabel hleaf
      have hconfirm : Menu.confirmation? e' = Menu.confirmation? e := by
        rw [← Menu.confirmation?_relabel k.label, he, Menu.confirmation?_relabel]
      rw [itemOf_leaf hi hm, itemOf_leaf (htag ▸ hi) (htag ▸ hm)]
      intro _ _
      exact {
        items := by simp only [MenuYield.ofReading, hvalue]
        confirm := hconfirm
        diagnostics := by simpa [MenuYield.ofReading] using hwarnings
        calls := by simp [MenuYield.ofReading]
        stopped := rfl }

theorem includedItems {items items' : List Call → List Element → MenuYield} {e e' : Element}
    (he : e'.relabel k.label = e.relabel k.label) (reference : String)
    (document : Except IncludeError (List Element))
    (hitems : ∀ es, k.Items history history' (items history es) (items' history' es)) :
    k.Items history history' (includedItems items e reference history document)
      (includedItems items' e' reference history' document) := by
  cases document with
  | error cause =>
    cases cause with
    | markup cause => exact .noting (.ofWarning he _) rfl rfl
    | _ => exact .ofWarning he _
  | ok es =>
    cases es with
    | nil => exact .ofWarning he _
    | cons root rest =>
      by_cases hroot : root.tag = .menu
      · simp only [DeskConfig.includedItems, if_pos hroot]
        exact hitems root.children
      · simp only [DeskConfig.includedItems, if_neg hroot]
        exact .ofWarning he _

/-- The second run may enter as many includes as the first one or more, and as many if it has
to stop where the first one does. -/
structure Allows (k : TwoRuns) (limit budget depth limit' budget' depth' : Nat) : Prop where
  limit_le : limit ≤ limit'
  budget_le : budget ≤ budget'
  depth_le : min depth' Text.maxWord ≤ depth
  same : k.stops → limit' = limit ∧ budget' = budget ∧ depth' = depth

theorem Allows.refl (limit budget depth : Nat) :
    k.Allows limit budget depth limit budget depth where
  limit_le := Nat.le_refl _
  budget_le := Nat.le_refl _
  depth_le := Nat.min_le_left _ _
  same := fun _ => ⟨rfl, rfl, rfl⟩

section Includes

variable {limit budget depth next limit' budget' depth' : Nat}

theorem Allows.enter (h : k.Allows limit (budget + 1) depth limit' budget' depth')
    (hn : enter? limit depth = some next) :
    ∃ spare next', budget' = spare + 1 ∧ enter? limit' depth' = some next' ∧
      k.Allows limit budget next limit' spare next' := by
  obtain ⟨hlimit, hbudget, hdepth, hsame⟩ := h
  obtain ⟨next', hn', hnext⟩ := enter?_of_le hlimit hdepth hn
  refine ⟨budget' - 1, next', by omega, hn', hlimit, by omega, hnext, ?_⟩
  intro hstops
  obtain ⟨rfl, rfl, rfl⟩ := hsame hstops
  rw [hn, Option.some.injEq] at hn'
  exact ⟨rfl, rfl, hn'.symm⟩

section MenuIncludes

variable {shell : String} {e e' : Element} (he : e'.relabel k.label = e.relabel k.label)
  (level height : Nat)

include he

theorem menuInclude_of_no_text (ht : e.text = none) :
    k.Items history history' (menuInclude k.world shell limit budget depth e level height history)
      (menuInclude k.world' shell limit' budget' depth' e' level height history') := by
  have ht' : e'.text = none := (text_of_relabel he).trans ht
  rw [DeskConfig.menuInclude_of_no_text ht, DeskConfig.menuInclude_of_no_text ht', Element.name,
    Element.name, tag_of_relabel he]
  exact .ofWarning he _

/-- An include that is entered in both runs, with what is inside it carried out alike. -/
theorem menuInclude_of_entered {reference : String} (ht : e.text = some reference)
    (hn : enter? limit depth = some next) {next' : Nat} (hn' : enter? limit' depth' = some next')
    (hinc : k.Menus (menuInclude k.world shell limit budget next)
      (menuInclude k.world' shell limit' budget' next')) :
    k.Items history history'
      (menuInclude k.world shell limit (budget + 1) depth e level height history)
      (menuInclude k.world' shell limit' (budget' + 1) depth' e' level height history') := by
  have ht' : e'.text = some reference := (text_of_relabel he).trans ht
  intro hstops hworld
  have henv := ofMenuReference_of_environment hworld.environment reference
  cases hsource : Source.ofMenuReference k.world reference with
  | error cause =>
    rw [menuInclude_of_no_source ht hn hsource] at hstops hworld ⊢
    rw [menuInclude_of_no_source ht' hn' (henv.trans hsource)]
    exact Items.ofWarning he _ hstops hworld
  | ok source =>
    rw [menuInclude_of_source ht hn hsource] at hstops hworld ⊢
    rw [menuInclude_of_source ht' hn' (henv.trans hsource)]
    have hresolve := hworld
    simp only [MenuYield.noting, Journal.calls_append, Journal.calls_includingMenu,
      calls_resolve] at hresolve
    rw [resolve_of_alike hresolve.before]
    refine Items.noting ?_ ?_ ?_ hstops hworld
    · simp only [Journal.calls_includingMenu, calls_resolve]
      exact includedItems he reference _ fun es => items hinc es es rfl level height _ _
    · simp [diagnostics_resolve]
    · simp [calls_resolve]

end MenuIncludes

/-- By induction on the includes that the first run can still enter. -/
theorem menuInclude {shell : String} (h : k.Allows limit budget depth limit' budget' depth') :
    k.Menus (menuInclude k.world shell limit budget depth)
      (menuInclude k.world' shell limit' budget' depth') := by
  induction budget generalizing budget' depth depth' with
  | zero =>
    intro e e' level height history history' he
    cases ht : e.text with
    | none => exact menuInclude_of_no_text he level height ht
    | some reference =>
      rw [menuInclude_of_no_budget ht]
      intro hstops
      obtain ⟨rfl, rfl, rfl⟩ := h.same (hstops rfl)
      rw [menuInclude_of_no_budget ((text_of_relabel he).trans ht)]
      exact Items.refl _ hstops
  | succ budget ih =>
    intro e e' level height history history' he
    cases ht : e.text with
    | none => exact menuInclude_of_no_text he level height ht
    | some reference =>
      cases hn : enter? limit depth with
      | none =>
        rw [menuInclude_of_limit ht hn]
        intro hstops
        obtain ⟨rfl, rfl, rfl⟩ := h.same (hstops rfl)
        rw [menuInclude_of_limit ((text_of_relabel he).trans ht) hn]
        exact Items.refl _ hstops
      | some next =>
        obtain ⟨spare, next', rfl, hn', hallows⟩ := h.enter hn
        exact menuInclude_of_entered he level height ht hn hn' (ih hallows)

end Includes

end TwoRuns

/-- Parts of walks that are the same up to labels. -/
structure Progress.AlikeUpTo (f : String → String) (p q : Progress) : Prop where
  config : q.config.relabel f = p.config.relabel f
  diagnostics :
    q.journal.diagnostics.map (·.relabel f) = p.journal.diagnostics.map (·.relabel f)
  calls : q.journal.calls = p.journal.calls
  stopped : q.stopped = p.stopped

namespace TwoRuns

variable {k : TwoRuns} {history history' : List Call}

/-- A part of the first run, with the same part of the second run. -/
def Steps (k : TwoRuns) (history history' : List Call) (p q : Progress) : Prop :=
  (p.stopped = true → k.stops) →
    World.Alike k.world k.world' history history' p.journal.calls → p.AlikeUpTo k.label q

namespace Steps

variable {p q : Progress} {c c' : Config} {e e' : Element}

/-- Nothing happens but that a walk may be stopped. -/
theorem nothing (hc : c'.relabel k.label = c.relabel k.label) (stopped : Bool) :
    k.Steps history history' { config := c, stopped } { config := c', stopped } :=
  fun _ _ => ⟨hc, rfl, rfl, rfl⟩

theorem ofWarning (hc : c'.relabel k.label = c.relabel k.label)
    (he : e'.relabel k.label = e.relabel k.label) (problem : Problem) :
    k.Steps history history' (.ofWarning c e problem) (.ofWarning c' e' problem) :=
  fun _ _ => ⟨hc, congrArg ([·]) (located_of_relabel he problem), rfl, rfl⟩

theorem noting {events events' : Journal}
    (h : k.Steps (history ++ Journal.calls events) (history' ++ Journal.calls events) p q)
    (hd : (Journal.diagnostics events').map (·.relabel k.label) =
      (Journal.diagnostics events).map (·.relabel k.label))
    (hc : Journal.calls events' = Journal.calls events) :
    k.Steps history history' (p.noting events) (q.noting events') := by
  intro hstops hworld
  simp only [Progress.noting, Journal.calls_append] at hworld
  have hq := h hstops hworld.after
  exact {
    config := hq.config
    diagnostics := by
      simp only [Progress.noting, Journal.diagnostics_append, List.map_append, hd,
        hq.diagnostics]
    calls := by simp only [Progress.noting, Journal.calls_append, hc, hq.calls]
    stopped := hq.stopped }

theorem andThen {next next' : Config → List Call → Progress} (h : k.Steps history history' p q)
    (hnext : ∀ c', c'.relabel k.label = p.config.relabel k.label →
      k.Steps (history ++ p.journal.calls) (history' ++ p.journal.calls)
        (next p.config (history ++ p.journal.calls))
        (next' c' (history' ++ p.journal.calls))) :
    k.Steps history history' (p.andThen history next) (q.andThen history' next') := by
  intro hstops hworld
  cases hp : p.stopped with
  | true =>
    rw [Progress.andThen_of_stopped hp] at hstops hworld ⊢
    have hq := h hstops hworld
    rw [Progress.andThen_of_stopped (hq.stopped.trans hp)]
    exact hq
  | false =>
    rw [Progress.andThen_of_not_stopped hp] at hstops hworld ⊢
    have hfirst := hworld
    simp only [Progress.noting, Journal.calls_append] at hfirst
    have hq := h (fun hstopped => absurd (hp.symm.trans hstopped) Bool.false_ne_true) hfirst.before
    rw [Progress.andThen_of_not_stopped (hq.stopped.trans hp), hq.calls]
    exact Steps.noting (hnext q.config hq.config) hq.diagnostics hq.calls hstops hworld

end Steps

/-- Both kinds of includes are carried out alike. -/
structure Documents (k : TwoRuns) (includes includes' : Includes) : Prop where
  inMenu : k.Menus includes.inMenu includes'.inMenu
  inDocument : ∀ e e' c c' history history', e'.relabel k.label = e.relabel k.label →
    c'.relabel k.label = c.relabel k.label →
    k.Steps history history' (includes.inDocument e c history)
      (includes'.inDocument e' c' history')

section RootMenus

variable {f : String → String} {c c' : Config} (hc : c'.relabel f = c.relabel f)

include hc

/-- What a root menu says of exits does not touch labels. -/
theorem relabel_confirmExit (confirm : Option Bool) :
    Config.relabel f { c' with confirmExit := confirm.getD c'.confirmExit } =
      Config.relabel f { c with confirmExit := confirm.getD c.confirmExit } :=
  congrArg (fun c : Config => { c with confirmExit := confirm.getD c.confirmExit }) hc

theorem relabel_bindMenu (slots : List Nat) (menu : Menu) :
    (c'.bindMenu slots menu).relabel f = (c.bindMenu slots menu).relabel f := by
  have hbind : ∀ c : Config,
      (c.bindMenu slots menu).relabel f = (c.relabel f).bindMenu slots menu := by
    intro c
    unfold Config.bindMenu
    split <;> rfl
  rw [hbind, hbind, hc]

end RootMenus

section Walks

variable {includes includes' : Includes} (hinc : k.Documents includes includes')

include hinc

theorem rootMenu {e e' : Element} {c c' : Config}
    (he : e'.relabel k.label = e.relabel k.label)
    (hc : c'.relabel k.label = c.relabel k.label) :
    k.Steps history history' (rootMenu includes.inMenu e c history)
      (rootMenu includes'.inMenu e' c' history') := by
  have hheight : (Menu.heightOf e' 0).relabel k.label =
      (Menu.heightOf e 0).relabel k.label := by
    rw [← Menu.heightOf_relabel, ← Menu.heightOf_relabel, he]
  have hslots : (Menu.slotsOf e').relabel k.label = (Menu.slotsOf e).relabel k.label := by
    rw [← Menu.slotsOf_relabel, ← Menu.slotsOf_relabel, he]
  have htitle : Menu.titleOf e' = Menu.titleOf e := by
    rw [← Menu.titleOf_relabel k.label, he, Menu.titleOf_relabel]
  obtain ⟨hheight, hheightWarnings⟩ := Reading.of_relabel hheight
  obtain ⟨hslots, hslotsWarnings⟩ := Reading.of_relabel hslots
  intro hstops hworld
  rw [stopped_rootMenu] at hstops
  rw [calls_rootMenu] at hworld
  have hitems := items hinc.inMenu e.children e'.children (children_of_relabel he) 0
    (Menu.heightOf e 0).value history history' hstops hworld
  have hstopped := hitems.stopped
  cases hs : (itemsOf includes.inMenu 0 (Menu.heightOf e 0).value history e.children).stopped with
  | true =>
    rw [hs] at hstopped
    simp only [DeskConfig.rootMenu, MenuYield.noting, hheight, hs, hstopped, if_true]
    exact {
      config := by simpa only [hitems.confirm] using relabel_confirmExit hc _
      diagnostics := by simp [hheightWarnings, hitems.diagnostics]
      calls := by simp [hitems.calls]
      stopped := rfl }
  | false =>
    rw [hs] at hstopped
    simp only [DeskConfig.rootMenu, MenuYield.noting, hheight, hs, hstopped, Bool.false_eq_true,
      if_false]
    exact {
      config := by
        simpa only [hitems.confirm, hitems.items, hslots, htitle] using
          relabel_bindMenu (relabel_confirmExit hc _) _ _
      diagnostics := by simp [hheightWarnings, hitems.diagnostics, hslotsWarnings]
      calls := by simp [hitems.calls]
      stopped := rfl }

theorem element {e e' : Element} {c c' : Config} (parent : Tag)
    (he : e'.relabel k.label = e.relabel k.label)
    (hc : c'.relabel k.label = c.relabel k.label) :
    k.Steps history history' (walkElement k.world includes parent e c history)
      (walkElement k.world' includes' parent e' c' history') := by
  have htag := tag_of_relabel he
  by_cases hm : e.tag = .rootMenu
  · rw [walkElement_rootMenu hm, walkElement_rootMenu (htag.trans hm)]
    exact rootMenu hinc he hc
  by_cases hi : e.tag = .include
  · rw [walkElement_include hi, walkElement_include (htag.trans hi)]
    exact hinc.inDocument e e' c c' history history' he hc
  · rw [walkElement_declaration hm hi, walkElement_declaration (htag ▸ hm) (htag ▸ hi)]
    intro _ hworld
    rw [declare_of_environment hworld.environment]
    have hdeclare : (Config.relabel k.label <$> c'.declare k.world parent e').relabel k.label =
        (Config.relabel k.label <$> c.declare k.world parent e).relabel k.label := by
      rw [← Config.declare_relabel, ← Config.declare_relabel, he, hc]
    obtain ⟨hvalue, hwarnings⟩ := Reading.of_relabel hdeclare
    rw [Reading.warnings_map, Reading.warnings_map] at hwarnings
    exact {
      config := hvalue
      diagnostics := by simpa [Progress.ofReading] using hwarnings
      calls := by simp [Progress.ofReading]
      stopped := rfl }

theorem elements (parent : Tag) (es es' : List Element) {c c' : Config}
    (h : es'.map (·.relabel k.label) = es.map (·.relabel k.label))
    (hc : c'.relabel k.label = c.relabel k.label) (history history' : List Call) :
    k.Steps history history' (walkElements k.world includes parent es c history)
      (walkElements k.world' includes' parent es' c' history') := by
  induction es generalizing es' c c' history history' with
  | nil =>
    obtain rfl := List.map_eq_nil_iff.mp h
    exact .nothing hc false
  | cons e es ih =>
    obtain ⟨e', es', rfl, he, hes⟩ := List.map_eq_cons_iff.mp h
    rw [walkElements, walkElements]
    exact (element hinc parent he hc).andThen fun c' hc' => ih es' hes hc' _ _

theorem document (es es' : List Element) {c c' : Config}
    (h : es'.map (·.relabel k.label) = es.map (·.relabel k.label))
    (hc : c'.relabel k.label = c.relabel k.label) (history history' : List Call) :
    k.Steps history history' (walkDocument k.world includes es c history)
      (walkDocument k.world' includes' es' c' history') := by
  induction es generalizing es' c c' history history' with
  | nil =>
    obtain rfl := List.map_eq_nil_iff.mp h
    exact .nothing hc false
  | cons e es ih =>
    obtain ⟨e', es', rfl, he, hes⟩ := List.map_eq_cons_iff.mp h
    have htag := tag_of_relabel he
    rw [walkDocument, walkDocument]
    refine Steps.andThen ?_ fun c' hc' => ih es' hes hc' _ _
    by_cases hjwm : e.tag = .jwm
    · rw [if_pos hjwm, if_pos (htag.trans hjwm), walkRoot, walkRoot, htag]
      exact elements hinc e.tag e.children e'.children (children_of_relabel he) hc _ _
    · rw [if_neg hjwm, if_neg (htag ▸ hjwm), Element.name, Element.name, htag]
      exact .ofWarning hc he _

end Walks

theorem includedDocument {walk walk' : List Element → Config → List Call → Progress}
    {e e' : Element} {c c' : Config} (he : e'.relabel k.label = e.relabel k.label)
    (hc : c'.relabel k.label = c.relabel k.label) (label : String)
    (document : Except IncludeError (List Element))
    (hwalk : ∀ es, k.Steps history history' (walk es c history) (walk' es c' history')) :
    k.Steps history history' (includedDocument walk e label c history document)
      (includedDocument walk' e' label c' history' document) := by
  cases document with
  | error cause =>
    cases cause with
    | markup cause => exact fun _ _ => ⟨hc, rfl, rfl, rfl⟩
    | _ => exact .ofWarning hc he _
  | ok es => exact hwalk es

section DocumentIncludes

variable {limits limits' : Limits} (hshell : limits'.shell = limits.shell)
  {budget depth next budget' depth' : Nat}

section Element

variable {e e' : Element} {c c' : Config} (he : e'.relabel k.label = e.relabel k.label)
  (hc : c'.relabel k.label = c.relabel k.label)

include he hc

theorem documentInclude_of_no_text (ht : e.text = none) :
    k.Steps history history' (documentInclude k.world limits budget depth e c history)
      (documentInclude k.world' limits' budget' depth' e' c' history') := by
  have ht' : e'.text = none := (text_of_relabel he).trans ht
  rw [DeskConfig.documentInclude_of_no_text ht, DeskConfig.documentInclude_of_no_text ht',
    Element.name, Element.name, tag_of_relabel he]
  exact .ofWarning hc he _

include hshell in
/-- An include that is entered in both runs, with what is inside it carried out alike. -/
theorem documentInclude_of_entered {reference : String} (ht : e.text = some reference)
    (hn : enter? limits.includeDepth depth = some next) {next' : Nat}
    (hn' : enter? limits'.includeDepth depth' = some next')
    (hinc : k.Documents (includesAt k.world limits budget next)
      (includesAt k.world' limits' budget' next')) :
    k.Steps history history' (documentInclude k.world limits (budget + 1) depth e c history)
      (documentInclude k.world' limits' (budget' + 1) depth' e' c' history') := by
  have ht' : e'.text = some reference := (text_of_relabel he).trans ht
  intro hstops hworld
  have henv := ofReference_of_environment hworld.environment reference
  cases hsource : Source.ofReference k.world reference with
  | error cause =>
    rw [documentInclude_of_no_source ht hn hsource] at hstops hworld ⊢
    rw [documentInclude_of_no_source ht' hn' (henv.trans hsource)]
    exact Steps.ofWarning hc he _ hstops hworld
  | ok source =>
    rw [documentInclude_of_source ht hn hsource] at hstops hworld ⊢
    rw [documentInclude_of_source ht' hn' (henv.trans hsource), hshell]
    have hresolve := hworld
    simp only [Progress.noting, Journal.calls_append, Journal.calls_including,
      calls_resolve] at hresolve
    rw [resolve_of_alike hresolve.before]
    refine Steps.noting ?_ ?_ ?_ hstops hworld
    · simp only [Journal.calls_including, calls_resolve]
      exact includedDocument he hc source.label _ fun es => document hinc es es rfl hc _ _
    · simp [diagnostics_resolve]
    · simp [calls_resolve]

end Element

include hshell

/-- Includes are carried out alike as far as there is room for them. -/
theorem documents
    (h : k.Allows limits.includeDepth budget depth limits'.includeDepth budget' depth') :
    k.Documents (includesAt k.world limits budget depth)
      (includesAt k.world' limits' budget' depth') := by
  have hmenus : ∀ {budget depth budget' depth' : Nat},
      k.Allows limits.includeDepth budget depth limits'.includeDepth budget' depth' →
      k.Menus (includesAt k.world limits budget depth).inMenu
        (includesAt k.world' limits' budget' depth').inMenu := by
    intro budget depth budget' depth' h
    simp only [includesAt, hshell]
    exact menuInclude h
  refine ⟨hmenus h, ?_⟩
  simp only [includesAt]
  induction budget generalizing budget' depth depth' with
  | zero =>
    intro e e' c c' history history' he hc
    cases ht : e.text with
    | none => exact documentInclude_of_no_text he hc ht
    | some reference =>
      rw [documentInclude_of_no_budget ht]
      intro hstops
      obtain ⟨-, rfl, -⟩ := h.same (hstops rfl)
      rw [documentInclude_of_no_budget ((text_of_relabel he).trans ht)]
      exact Steps.nothing hc true hstops
  | succ budget ih =>
    intro e e' c c' history history' he hc
    cases ht : e.text with
    | none => exact documentInclude_of_no_text he hc ht
    | some reference =>
      cases hn : enter? limits.includeDepth depth with
      | none =>
        rw [documentInclude_of_limit ht hn]
        intro hstops
        obtain ⟨hlimit, -, rfl⟩ := h.same (hstops rfl)
        rw [documentInclude_of_limit ((text_of_relabel he).trans ht) (hlimit ▸ hn)]
        exact Steps.nothing hc true hstops
      | some next =>
        obtain ⟨spare, next', rfl, hn', hallows⟩ := h.enter hn
        exact documentInclude_of_entered hshell he hc ht hn hn' ⟨hmenus hallows, ih hallows⟩

end DocumentIncludes

end TwoRuns

end DeskConfig
