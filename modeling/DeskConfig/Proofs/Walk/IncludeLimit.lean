import DeskConfig.Proofs.Include.TextFiles
import DeskConfig.Proofs.Load.Result
import DeskConfig.Proofs.Walk.IncludeChain

/-!
The include limit. A load fails exactly when its walk comes to an include with text
in a document at the limit. So documents that nest as many includes as the limit
allows still load, and a chain of one more include is fatal, as is every cycle of
includes that the walk enters. Only submenus can end a chain before: a menu nested
too deep is skipped, and with it the includes in it.
-/

namespace DeskConfig

open Markup (Element Tag)

/-- The elements of a root document. Text that is no markup has none. -/
def rootElements (label text : String) : List Element :=
  match Markup.parse label text with
  | .ok es => es
  | .error _ => []

theorem stopped_walkText (world : World) (o : Options) (label text : String) :
    (Load.walkText world o label text).stopped =
      (Place.document {} (rootElements label text)).stops world o.limits 0 [] := by
  unfold Load.walkText rootElements
  cases Markup.parse label text with
  | ok es => rfl
  | error cause => rfl

/-- A load fails exactly when its walk comes to an include with text in a document at
the limit. So it succeeds when no more includes are nested than the limit allows, and
fails on a chain of one more and on a cycle that the walk enters, if the submenus
around the includes that it would follow are not too many. -/
theorem include_limit_is_exact (world : World) (o : Options) (label text : String)
    (hlimit : o.includeDepth < Text.maxWord) :
    (∀ cause, (loadText world o label text).outcome = .error cause ↔
      cause = .includeDepthExceeded o.includeDepth ∧
        Blocked world o.limits (rootElements label text)) ∧
    (Within world o.limits (rootElements label text) o.includeDepth
        (.document (rootElements label text)) →
      ∃ loaded, (loadText world o label text).outcome = .ok loaded) ∧
    (∀ rises, Chain world o.limits (rootElements label text) rises
        (.document (rootElements label text)) →
      rises.length = o.includeDepth + 1 → submenus rises ≤ Menu.maxLevel →
      (loadText world o label text).outcome =
        .error (.includeDepthExceeded o.includeDepth)) ∧
    (∀ rises depth history place, rises ≠ [] →
      Path world o.limits (rootElements label text) rises place.stretch place.stretch →
      Reached world o.limits (rootElements label text) depth history place →
      place.level + submenus (around rises (o.includeDepth + 1 - depth)) ≤ Menu.maxLevel →
      (loadText world o label text).outcome =
        .error (.includeDepthExceeded o.includeDepth)) := by
  have hlimit' : o.limits.includeDepth < Text.maxWord := hlimit
  have hexact : ∀ cause, (loadText world o label text).outcome = .error cause ↔
      cause = .includeDepthExceeded o.includeDepth ∧
        Blocked world o.limits (rootElements label text) := by
    intro cause
    rw [loadText_fails_iff, stopped_walkText, stops_iff_blocked hlimit']
  refine ⟨hexact, ?_, ?_, ?_⟩
  · intro hwithin
    apply exists_loaded_of_not_stopped
    rw [stopped_walkText, ← Bool.not_eq_true, stops_iff_blocked hlimit']
    exact not_blocked_of_within hwithin
  · intro rises hchain hlength hsum
    have hlong : o.limits.includeDepth < 0 + rises.length := by
      change o.includeDepth < 0 + rises.length
      omega
    have hlevel : (Place.document {} (rootElements label text)).level + submenus rises ≤
        Menu.maxLevel := by
      simpa only [Place.level, Nat.zero_add] using hsum
    exact (hexact _).mpr ⟨rfl, blocked_of_chain hlimit' hchain .start hlong hlevel⟩
  · intro rises depth history place hne hcycle hr hlevel
    obtain ⟨s, hpath⟩ := hcycle.around (o.includeDepth + 1 - depth)
    have hdepth : depth ≤ o.includeDepth := hr.depth_le
    have hlong : o.limits.includeDepth <
        depth + (around rises (o.includeDepth + 1 - depth)).length := by
      rw [length_around hne]
      change o.includeDepth < _
      omega
    exact (hexact _).mpr ⟨rfl, blocked_of_long_path hlimit' hpath hr hlong hlevel⟩

section Instances

variable {limits : Limits} {root : List Element}

def limited (includeDepth : Nat) : Options where
  configPath := "jwmrc"
  fallbackPath := "system.jwmrc"
  includeDepth := includeDepth
  shell := "/bin/sh"

/-- The text of a file `a` that includes itself. -/
def loopText : String := "<JWM><Include>a</Include></JWM>"

def loopElements : List Element := [madeIn "a" .jwm none [madeIn "a" .include (some "a")]]

theorem path_loop :
    Path (World.holding "a" loopText) limits root [0] (.document loopElements)
      (.document loopElements) := by
  refine .cons (.top List.mem_cons_self rfl (.child List.mem_cons_self rfl)) ?_ .nil
  intro history _
  have hparse : parseSource "a" loopText = .ok loopElements := by rfl
  have hdocument := resolve_holding (by decide +kernel) hparse limits.shell history
  exact .document rfl (by rfl) (congrArg Prod.fst hdocument)

theorem chain_loop :
    Chain (World.holding "a" loopText) limits root [0, 0, 0] (.document loopElements) :=
  ⟨[0, 0], 0, _, madeIn "a" .include (some "a"), _, rfl, path_loop.append path_loop,
    .top List.mem_cons_self rfl (.child List.mem_cons_self rfl), by decide⟩

def focusText : String := "<JWM><FocusModel>click</FocusModel></JWM>"

theorem holds_loop {e : Element} {kind : IncludeKind} {rise : Nat}
    (h : Holds e kind rise (.document loopElements)) :
    e = madeIn "a" .include (some "a") ∧ kind = .document := by
  cases h with
  | top hm _ h =>
    rw [loopElements, List.mem_singleton] at hm
    subst hm
    cases h with
    | child he _ => exact ⟨List.mem_singleton.mp he, rfl⟩
    | rootMenu hm htag _ =>
      rw [List.mem_singleton.mp hm] at htag
      contradiction

theorem not_holds_focus {e : Element} {kind : IncludeKind} {rise : Nat} :
    ¬Holds e kind rise
      (.document [madeIn "a" .jwm none [madeIn "a" .focusModel (some "click")]]) := by
  intro h
  cases h with
  | top hm _ h =>
    rw [List.mem_singleton] at hm
    subst hm
    cases h with
    | child he htag =>
      rw [List.mem_singleton.mp he] at htag
      contradiction
    | rootMenu hm htag _ =>
      rw [List.mem_singleton.mp hm] at htag
      contradiction

/-- Once the file `a` holds something else, an include of it leads to no other. -/
theorem within_focus :
    Within (World.holding "a" focusText) limits root 1 (.document loopElements) := by
  intro e kind rise hholds history s _ hleads
  obtain ⟨rfl, rfl⟩ := holds_loop hholds
  cases hleads with
  | document htext hsource hdocument =>
    have ha : Source.ofReference (World.holding "a" focusText) "a" = .ok (.file "a") := by
      rfl
    have hfocus : parseSource "a" focusText =
        .ok [madeIn "a" .jwm none [madeIn "a" .focusModel (some "click")]] := by
      rfl
    cases htext
    rw [ha, Except.ok.injEq] at hsource
    rw [← hsource, resolve_holding (by decide +kernel) hfocus] at hdocument
    cases hdocument
    intro e kind rise hholds
    exact (not_holds_focus hholds).elim

end Instances

/-- A file that includes itself is more than a limit of two allows, as a chain of three
includes and as a cycle. Loaded over the same file with something else in it, the text
needs no more than a limit of one. -/
theorem include_limit_is_exact_loop :
    Blocked (World.holding "a" loopText) (limited 2).limits (rootElements "a" loopText) ∧
    (loadText (World.holding "a" loopText) (limited 2) "a" loopText).outcome =
      .error (.includeDepthExceeded 2) ∧
    ∃ loaded, (loadText (World.holding "a" focusText) (limited 1) "a" loopText).outcome =
      .ok loaded := by
  have hroot : rootElements "a" loopText = loopElements := by rfl
  have hloop := include_limit_is_exact (World.holding "a" loopText) (limited 2) "a" loopText
    (by decide)
  have hfocus := include_limit_is_exact (World.holding "a" focusText) (limited 1) "a"
    loopText (by decide)
  rw [hroot] at hloop hfocus ⊢
  have hchain := hloop.2.2.1 [0, 0, 0] chain_loop rfl (by decide)
  have hcycle := hloop.2.2.2 [0] 0 [] (.document {} loopElements) (by decide) path_loop
    .start (by decide)
  exact ⟨((hloop.1 _).mp hchain).2, hcycle, hfocus.2.1 within_focus⟩

section MenuCycle

variable {limits : Limits} {root : List Element} {history : List Call}

/-- The text of a file `m`, a menu that includes itself from a submenu. -/
def menuText : String := "<Menu><Menu><Include>m</Include></Menu></Menu>"

def menuItems : List Element := [madeIn "m" .menu none [madeIn "m" .include (some "m")]]

theorem resolve_menu (shell : String) (history : List Call) :
    (resolve (World.holding "m" menuText) shell history (.file "m")).1 =
      .ok [madeIn "m" .menu none menuItems] :=
  congrArg Prod.fst (resolve_holding (by decide +kernel) (by rfl) shell history)

theorem path_menu :
    Path (World.holding "m" menuText) limits root [1] (.items menuItems)
      (.items menuItems) := by
  refine .cons (.submenu List.mem_cons_self rfl (.item List.mem_cons_self rfl)) ?_ .nil
  intro history _
  exact .menu rfl (by rfl) (resolve_menu _ history) rfl

theorem stops_include {label : String} {level depth : Nat}
    (hlimit : limits.includeDepth < Text.maxWord) (hdepth : depth < limits.includeDepth) :
    (Place.items level 0 [madeIn label .include (some "m")]).stops
        (World.holding "m" menuText) limits depth history =
      (Place.items level 0 menuItems).stops (World.holding "m" menuText) limits (depth + 1)
        history := by
  have hsource : Source.ofMenuReference (World.holding "m" menuText) "m" = .ok (.file "m") := by
    rfl
  rw [stops_items_cons, stopped_itemOf_include hlimit rfl rfl hdepth hsource
    (resolve_menu _ history) rfl, Source.calls, List.append_nil]
  exact Bool.or_false _

/-- Every round of the cycle is one submenu further down, until there are too many. -/
theorem stops_menuItems (level depth : Nat) (hlimit : limits.includeDepth < Text.maxWord)
    (hlevel : level ≤ Menu.maxLevel)
    (hdepth : depth + Menu.maxLevel < limits.includeDepth + level) :
    (Place.items level 0 menuItems).stops (World.holding "m" menuText) limits depth history =
      false := by
  induction hk : Menu.maxLevel - level generalizing level depth with
  | zero =>
    rw [menuItems, stops_items_cons, itemOf_menu_of_deep rfl (by omega)]
    rfl
  | succ k ih =>
    have hheight : (Menu.heightOf (madeIn "m" .menu none
        [madeIn "m" .include (some "m")]) 0).value = 0 := by
      rfl
    have hround : (Place.items (level + 1) 0 [madeIn "m" .include (some "m")]).stops
        (World.holding "m" menuText) limits depth history = false := by
      rw [stops_include hlimit (by omega)]
      exact ih (level + 1) (depth + 1) (by omega) (by omega) (by omega)
    rw [menuItems, stops_items_cons, stopped_itemOf_menu rfl (by omega), hheight]
    exact Bool.or_eq_false_iff.mpr ⟨hround, rfl⟩

end MenuCycle

def menuRootText : String := "<JWM><RootMenu><Include>m</Include></RootMenu></JWM>"

def menuRoot : Element :=
  madeIn "jwmrc" .rootMenu none [madeIn "jwmrc" .include (some "m")]

/-- A walk can enter a cycle of menu includes and still go through: with room for a
hundred includes, the menu that includes itself from a submenu is nested too deep
before the limit is reached. -/
theorem menu_cycle_can_load :
    (∃ history place,
      Reached (World.holding "m" menuText) (limited 100).limits
        (rootElements "jwmrc" menuRootText) 1 history place ∧
      Path (World.holding "m" menuText) (limited 100).limits
        (rootElements "jwmrc" menuRootText) [1] place.stretch place.stretch) ∧
    ∃ loaded, (loadText (World.holding "m" menuText) (limited 100) "jwmrc"
      menuRootText).outcome = .ok loaded := by
  have hroot : rootElements "jwmrc" menuRootText =
      [madeIn "jwmrc" .jwm none [menuRoot]] := by
    rfl
  have hlimit : (limited 100).limits.includeDepth < Text.maxWord := by decide
  have hsource : Source.ofMenuReference (World.holding "m" menuText) "m" = .ok (.file "m") := by
    rfl
  rw [hroot]
  refine ⟨?_, ?_⟩
  · have hchildren : Reached (World.holding "m" menuText) (limited 100).limits
        [madeIn "jwmrc" .jwm none [menuRoot]] 0 [] (.children {} [menuRoot]) :=
      Reached.start.enterTop rfl
    have hitems := hchildren.enterRootMenu rfl
    exact ⟨_, _, hitems.enterMenuInclude rfl rfl (by decide) hsource (resolve_menu _ _) rfl,
      path_menu⟩
  · apply exists_loaded_of_not_stopped
    have hmenu : (Place.items 0 0 menuItems).stops (World.holding "m" menuText)
        (limited 100).limits 1 [] = false :=
      stops_menuItems 0 1 hlimit (by decide) (by decide)
    have hheight : (Menu.heightOf menuRoot 0).value = 0 := by rfl
    have hitems : (Place.items 0 0 [madeIn "jwmrc" .include (some "m")]).stops
        (World.holding "m" menuText) (limited 100).limits 0 [] = false := by
      rw [stops_include hlimit (by decide), hmenu]
    rw [stopped_walkText, hroot, stops_document_cons rfl, stopped_walkRoot rfl]
    refine Bool.or_eq_false_iff.mpr ⟨?_, rfl⟩
    rw [madeIn, stops_children_cons, stopped_walkElement_rootMenu rfl, hheight]
    exact Bool.or_eq_false_iff.mpr ⟨hitems, rfl⟩

end DeskConfig
