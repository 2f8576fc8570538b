import DeskConfig.Proofs.Walk.Effects

/-!
A walk covers its agenda. The items of a menu, the elements inside a top-level element and
the documents that are included: each of them is walked like a tour goes through it, with the
same commands and the effects of the same elements, and each of them is stopped only at an
include where the limit is reached.
-/

namespace DeskConfig

open Markup (Element)

namespace Pending

variable {world : World} {limits : Limits} {history : List Call} {e : Element}
  {standing : Standing} {depth level next : Nat} {reference : String} {source : Source}

theorem all_cons (depth : Nat) (standing : Standing) (e : Element) (es : List Element) :
    all depth standing (e :: es) =
      [{ depth, standing, element := e }] ++ all depth standing es := rfl

theorem admits_of_enter? (h : enter? limits.includeDepth depth = some next) :
    limits.Admits depth := by
  obtain ⟨hnext, hle⟩ := enter?_eq_some_iff.mp h
  unfold Limits.Admits
  omega

/-- An include runs what its source runs: nothing, unless it stands in a menu. -/
theorem call?_of_source (hi : e.tag = .include) (htext : e.text = some reference)
    (hn : enter? limits.includeDepth depth = some next)
    (hsource : Pending.source world { depth, standing, element := e } reference = .ok source) :
    (call? limits { depth, standing, element := e }).toList = source.calls limits.shell := by
  have hfile : Source.ofReference world reference = .ok source →
      source.calls limits.shell = [] := by
    intro hfile
    unfold Source.ofReference at hfile
    cases hpath : world.expandPath reference with
    | error cause => simp [hpath, Except.map] at hfile
    | ok path =>
      simp only [hpath, Except.map, Except.ok.injEq] at hfile
      subst hfile
      rfl
  cases standing with
  | top => exact (hfile hsource).symm
  | child => exact (hfile hsource).symm
  | item level =>
    simp only [Pending.source, Source.ofMenuReference] at hsource
    simp only [call?, hi, htext, if_pos (admits_of_enter? hn)]
    cases hline : Environment.after? Source.execMark.toList reference.toList with
    | some line =>
      rw [hline] at hsource
      cases hsource
      rfl
    | none =>
      rw [hline] at hsource
      exact (hfile hsource).symm

/-- A command can always be told, so an include without a source has none. -/
theorem call?_of_no_source {cause : IncludeError} (htext : e.text = some reference)
    (hsource : Pending.source world { depth, standing, element := e } reference =
      .error cause) : call? limits { depth, standing, element := e } = none := by
  cases standing with
  | top => rfl
  | child => rfl
  | item level =>
    simp only [Pending.source, Source.ofMenuReference] at hsource
    cases hline : Environment.after? Source.execMark.toList reference.toList with
    | none => cases htag : e.tag <;> simp [call?, htag, htext, hline]
    | some line =>
      rw [hline] at hsource
      contradiction

theorem call?_of_no_text (htext : e.text = none) :
    call? limits { depth, standing, element := e } = none := by
  unfold call?
  split
  · next htext' => exact absurd (htext.symm.trans htext') (by simp)
  · rfl

theorem call?_of_ne (hi : e.tag ≠ .include) :
    call? limits { depth, standing, element := e } = none := by
  unfold call?
  split
  · next hi' _ => exact absurd hi' hi
  · rfl

theorem opened_include (hstanding : standing ≠ .top) (hi : e.tag = .include) :
    opened world limits history { depth, standing, element := e } =
      openInclude world limits history { depth, standing, element := e } := by
  cases standing with
  | top => contradiction
  | child => simp only [opened, hi]
  | item level => simp only [opened, hi]

/-! What comes in the place of an include, case by case, and in that of an item of a menu. -/

theorem opened_of_no_text (hstanding : standing ≠ .top) (hi : e.tag = .include)
    (htext : e.text = none) :
    opened world limits history { depth, standing, element := e } = some [] := by
  rw [opened_include hstanding hi]
  simp only [openInclude, htext]

theorem opened_of_no_source {cause : IncludeError} (hstanding : standing ≠ .top)
    (hi : e.tag = .include) (htext : e.text = some reference)
    (hn : enter? limits.includeDepth depth = some next)
    (hsource : Pending.source world { depth, standing, element := e } reference =
      .error cause) :
    opened world limits history { depth, standing, element := e } = some [] := by
  rw [opened_include hstanding hi]
  simp only [openInclude, htext, hn, hsource, Option.map_some]

theorem opened_of_source (hstanding : standing ≠ .top) (hi : e.tag = .include)
    (htext : e.text = some reference) (hn : enter? limits.includeDepth depth = some next)
    (hsource : Pending.source world { depth, standing, element := e } reference = .ok source) :
    opened world limits history { depth, standing, element := e } =
      some (included next standing (resolve world limits.shell history source).1) := by
  rw [opened_include hstanding hi]
  simp only [openInclude, htext, hn, hsource, Option.map_some]

theorem opened_of_menu (hm : e.tag = .menu) (hl : level < Menu.maxLevel) :
    opened world limits history { depth, standing := .item level, element := e } =
      some (all depth (.item (level + 1)) e.children) := by
  simp only [opened, hm, if_pos hl]

theorem opened_of_deep_menu (hm : e.tag = .menu) (hl : ¬level < Menu.maxLevel) :
    opened world limits history { depth, standing := .item level, element := e } =
      some [] := by
  simp only [opened, hm, if_neg hl]

theorem opened_of_leaf (hi : e.tag ≠ .include) (hm : e.tag ≠ .menu) :
    opened world limits history { depth, standing := .item level, element := e } =
      some [] := by
  unfold opened
  split <;> simp_all

/-- At the limit nothing comes in the place of an include. -/
theorem AtLimit.opened_eq {p : Pending} (h : p.AtLimit limits)
    (hlimit : limits.includeDepth < Text.maxWord) (history : List Call) :
    p.opened world limits history = none := by
  obtain ⟨depth, standing, e⟩ := p
  obtain ⟨hstanding, htag, htext, hdepth⟩ := h
  obtain ⟨reference, htext⟩ := Option.ne_none_iff_exists'.mp htext
  have hpast : enter? limits.includeDepth depth = none := by
    have := hdepth hlimit
    exact enter?_eq_none_iff.mpr (by simp only at this; omega)
  rw [opened_include hstanding htag]
  simp only at htext
  simp only [openInclude, htext, hpast, Option.map_none]

end Pending

/-! An include of either kind, case by case. -/

section Includes

variable {world : World} {limits : Limits} {history calls : List Call} {e : Element}
  {visited : List Pending} {standing : Standing} {depth next : Nat} {reference : String}
  {source : Source} {stopped : Bool} (hstanding : standing ≠ .top) (hi : e.tag = .include)

include hstanding hi

theorem visits_of_no_text (htext : e.text = none) :
    Visits world limits [{ depth, standing, element := e }] history
      [{ depth, standing, element := e }] false [] :=
  .skip (Pending.opened_of_no_text hstanding hi htext) (Pending.call?_of_no_text htext)

theorem visits_of_limit (htext : e.text = some reference)
    (hdepth : limits.includeDepth < Text.maxWord → limits.includeDepth ≤ depth) :
    Visits world limits [{ depth, standing, element := e }] history [] true [] :=
  .atLimit ⟨hstanding, hi, by simp [htext], hdepth⟩

theorem visits_of_no_source {cause : IncludeError} (htext : e.text = some reference)
    (hn : enter? limits.includeDepth depth = some next)
    (hsource : Pending.source world { depth, standing, element := e } reference =
      .error cause) :
    Visits world limits [{ depth, standing, element := e }] history
      [{ depth, standing, element := e }] false [] :=
  .skip (Pending.opened_of_no_source hstanding hi htext hn hsource)
    (Pending.call?_of_no_source htext hsource)

theorem visits_of_source (htext : e.text = some reference)
    (hn : enter? limits.includeDepth depth = some next)
    (hsource : Pending.source world { depth, standing, element := e } reference = .ok source)
    (h : Visits world limits
      (Pending.included next standing (resolve world limits.shell history source).1)
      (history ++ source.calls limits.shell) visited stopped calls) :
    Visits world limits [{ depth, standing, element := e }] history
      ({ depth, standing, element := e } :: visited) stopped
      (source.calls limits.shell ++ calls) := by
  have hcall := Pending.call?_of_source hi htext hn hsource
  rw [← hcall] at h ⊢
  exact .single (Pending.opened_of_source hstanding hi htext hn hsource) h

end Includes

section Menus

variable {world : World} {limits : Limits} {budget depth : Nat}

/-- The includes in menus of documents at a depth go through what they stand for. -/
def MenuInclude.GoesThrough (world : World) (limits : Limits) (depth : Nat)
    (onInclude : MenuInclude) : Prop :=
  ∀ e level height history, e.tag = .include →
    (onInclude e level height history).GoesThrough world limits
      [{ depth, standing := .item level, element := e }] history

/-- The items of a menu, if the includes among them are gone through. -/
theorem goesThrough_items {onInclude : MenuInclude}
    (hinc : onInclude.GoesThrough world limits depth) (es : List Element) (level height : Nat)
    (history : List Call) :
    (itemsOf onInclude level height history es).GoesThrough world limits
      (Pending.all depth (.item level) es) history := by
  induction es using Markup.forest_induction generalizing level height history with
  | nil =>
    rw [itemsOf_nil]
    exact .nothing
  | cons e es ihe ihs =>
    rw [itemsOf_cons, Pending.all_cons]
    refine MenuYield.GoesThrough.andThen ?_ (ihs level height _)
    by_cases hi : e.tag = .include
    · rw [itemOf_include hi]
      exact hinc e level height history hi
    have hcall : Pending.call? limits { depth, standing := .item level, element := e } = none :=
      Pending.call?_of_ne hi
    by_cases hm : e.tag = .menu
    · by_cases hl : level < Menu.maxLevel
      · obtain ⟨visited, hvisits, hsay⟩ :=
          ihe (level + 1) (Menu.heightOf e height).value history
        have hsingle := Visits.single (Pending.opened_of_menu hm hl)
          (by rw [hcall]; simpa using hvisits)
        rw [hcall] at hsingle
        rw [itemOf_menu hm hl]
        refine ⟨_, by simpa [MenuYield.noting, MenuYield.asSubmenu] using hsingle, ?_⟩
        intro c
        rw [Config.after_cons, effect_of_menu hm, hsay]
        rfl
      · rw [itemOf_menu_of_deep hm (Nat.not_lt.mp hl)]
        exact .ofWarning (Visits.skip (Pending.opened_of_deep_menu hm hl) hcall)
          (fun c => effect_of_menu hm) _ _
    · have hskip : Visits world limits [{ depth, standing := .item level, element := e }] history
          [{ depth, standing := .item level, element := e }] false [] :=
        Visits.skip (Pending.opened_of_leaf hi hm) hcall
      rw [itemOf_leaf hi hm]
      refine ⟨_, by simpa [MenuYield.ofReading] using hskip, ?_⟩
      intro c
      rfl

/-- What a document puts in the place of its include in a menu. -/
theorem goesThrough_includedItems {items : List Call → List Element → MenuYield} {level : Nat}
    {history : List Call}
    (hitems : ∀ es, (items history es).GoesThrough world limits
      (Pending.all depth (.item level) es) history)
    (e : Element) (reference : String) (document : Except IncludeError (List Element)) :
    (includedItems items e reference history document).GoesThrough world limits
      (Pending.included depth (.item level) document) history := by
  cases document with
  | error cause => cases cause <;> exact ⟨[], .nothing, fun _ => rfl⟩
  | ok document =>
    cases document with
    | nil => exact ⟨[], .nothing, fun _ => rfl⟩
    | cons root rest =>
      by_cases hroot : root.tag = .menu
      · simp only [Pending.included, includedItems, if_pos hroot]
        exact hitems root.children
      · simp only [Pending.included, includedItems, if_neg hroot]
        exact ⟨[], .nothing, fun _ => rfl⟩

/-- The induction is on the includes that can still be entered one inside the other: there
are enough of them to come to the limit. -/
theorem goesThrough_menuInclude
    (hbudget : limits.includeDepth < Text.maxWord → limits.includeDepth ≤ depth + budget) :
    (menuInclude world limits.shell limits.includeDepth budget depth).GoesThrough world limits
      depth := by
  induction budget using Nat.strongRecOn generalizing depth with
  | ind budget ih =>
    intro e level height history hi
    have hstanding : Standing.item level ≠ .top := nofun
    cases htext : e.text with
    | none =>
      rw [menuInclude_of_no_text htext]
      exact .ofWarning (visits_of_no_text hstanding hi htext) (fun c => effect_of_include hi) _ _
    | some reference =>
      cases hn : enter? limits.includeDepth depth with
      | none =>
        have hpast := enter?_eq_none_iff.mp hn
        rw [menuInclude_of_limit htext hn]
        exact ⟨_, visits_of_limit hstanding hi htext (by omega), fun _ => rfl⟩
      | some next =>
        obtain ⟨hnext, hle⟩ := enter?_eq_some_iff.mp hn
        cases budget with
        | zero =>
          rw [menuInclude_of_no_budget htext]
          exact ⟨_, visits_of_limit hstanding hi htext hbudget, fun _ => rfl⟩
        | succ budget =>
          cases hsource : Source.ofMenuReference world reference with
          | error cause =>
            rw [menuInclude_of_no_source htext hn hsource]
            exact .ofWarning (visits_of_no_source hstanding hi htext hn hsource)
              (fun c => effect_of_include hi) _ _
          | ok source =>
            have hbudget' : limits.includeDepth < Text.maxWord →
                limits.includeDepth ≤ next + budget := by omega
            have hinc := ih budget (Nat.lt_succ_self budget) hbudget'
            obtain ⟨visited, hvisits, hsay⟩ := goesThrough_includedItems
              (fun es => goesThrough_items hinc es level height
                (history ++ source.calls limits.shell)) e reference
                (resolve world limits.shell history source).1
            have hall := visits_of_source hstanding hi htext hn hsource hvisits
            rw [menuInclude_of_source htext hn hsource]
            refine ⟨_, by simpa [MenuYield.noting, calls_resolve] using hall, ?_⟩
            intro c
            rw [Config.after_cons, effect_of_include hi, hsay]
            rfl

end Menus

section Documents

variable {world : World} {limits : Limits} {budget depth : Nat}

/-- Like the includes in menus, those of documents at a depth. -/
structure Includes.GoThrough (world : World) (limits : Limits) (depth : Nat)
    (includes : Includes) : Prop where
  inMenu : includes.inMenu.GoesThrough world limits depth
  inDocument : ∀ e c history, e.tag = .include →
    (includes.inDocument e c history).GoesThrough world limits
      [{ depth, standing := .child, element := e }] history c

variable {includes : Includes} (hinc : includes.GoThrough world limits depth)

include hinc

theorem goesThrough_element (parent : Markup.Tag) (e : Element) (c : Config)
    (history : List Call) :
    (walkElement world includes parent e c history).GoesThrough world limits
      [{ depth, standing := .child, element := e }] history c := by
  by_cases hi : e.tag = .include
  · rw [walkElement_include hi]
    exact hinc.inDocument e c history hi
  have hcall : Pending.call? limits { depth, standing := .child, element := e } = none := rfl
  by_cases hm : e.tag = .rootMenu
  · obtain ⟨visited, hvisits, hsay⟩ :=
      goesThrough_items hinc.inMenu e.children 0 (Menu.heightOf e 0).value history
    have hopened : Pending.opened world limits history
        { depth, standing := .child, element := e } =
          some (Pending.all depth (.item 0) e.children) := by
      simp only [Pending.opened, hm]
    have hsingle := Visits.single hopened (by rw [hcall]; simpa using hvisits)
    rw [hcall] at hsingle
    rw [walkElement_rootMenu hm]
    refine ⟨_, by rw [stopped_rootMenu, calls_rootMenu]; exact hsingle, ?_⟩
    rw [Config.after_cons, effect_of_rootMenu hm, hsay, config_rootMenu]
  · have hskip : Visits world limits [{ depth, standing := .child, element := e }] history
        [{ depth, standing := .child, element := e }] false [] := by
      refine Visits.skip ?_ hcall
      unfold Pending.opened
      split <;> simp_all
    rw [walkElement_declaration hm hi]
    refine ⟨_, by simpa [Progress.ofReading] using hskip, ?_⟩
    rw [Progress.ofReading, Config.value_declare_parent]
    rfl

theorem goesThrough_elements (parent : Markup.Tag) (es : List Element) (c : Config)
    (history : List Call) :
    (walkElements world includes parent es c history).GoesThrough world limits
      (Pending.all depth .child es) history c := by
  induction es generalizing c history with
  | nil => exact .nothing
  | cons e es ih =>
    rw [walkElements, Pending.all_cons]
    exact (goesThrough_element hinc parent e c history).andThen (ih _ _)

theorem goesThrough_document (es : List Element) (c : Config) (history : List Call) :
    (walkDocument world includes es c history).GoesThrough world limits
      (Pending.all depth .top es) history c := by
  induction es generalizing c history with
  | nil => exact .nothing
  | cons top es ih =>
    rw [walkDocument, Pending.all_cons]
    refine Progress.GoesThrough.andThen ?_ (ih _ _)
    have hcall : Pending.call? limits { depth, standing := .top, element := top } = none := rfl
    by_cases htop : top.tag = .jwm
    · obtain ⟨visited, hvisits, hconfig⟩ :=
        goesThrough_elements hinc top.tag top.children c history
      have hopened : Pending.opened world limits history
          { depth, standing := .top, element := top } =
            some (Pending.all depth .child top.children) := by
        simp only [Pending.opened, htop]
      have hsingle := Visits.single hopened (by rw [hcall]; simpa using hvisits)
      rw [hcall] at hsingle
      rw [if_pos htop]
      exact ⟨_, hsingle, hconfig⟩
    · rw [if_neg htop]
      refine ⟨_, Visits.skip ?_ hcall, rfl⟩
      unfold Pending.opened
      split <;> simp_all

/-- What a document puts in the place of its include. -/
theorem goesThrough_includedDocument (e : Element) (label : String) (c : Config)
    (history : List Call) (document : Except IncludeError (List Element)) :
    (includedDocument (walkDocument world includes) e label c history document).GoesThrough
      world limits (Pending.included depth .child document) history c := by
  cases document with
  | error cause => cases cause <;> exact ⟨[], .nothing, rfl⟩
  | ok document => exact goesThrough_document hinc document c history

end Documents

/-- Each limit leaves a walk the includes that it needs to come to it. -/
theorem Limits.le_budget (limits : Limits) (depth : Nat) :
    limits.includeDepth < Text.maxWord → limits.includeDepth ≤ depth + limits.budget depth := by
  intro hlimit
  rw [budget, if_pos hlimit]
  omega

/-- Like in menus, the induction is on the includes that can still be entered. -/
theorem goThrough_includesAt {world : World} {limits : Limits} {budget depth : Nat}
    (hbudget : limits.includeDepth < Text.maxWord → limits.includeDepth ≤ depth + budget) :
    (includesAt world limits budget depth).GoThrough world limits depth := by
  refine ⟨goesThrough_menuInclude hbudget, ?_⟩
  change ∀ e c history, e.tag = .include →
    (documentInclude world limits budget depth e c history).GoesThrough world limits _ history c
  have hstanding : Standing.child ≠ .top := nofun
  induction budget using Nat.strongRecOn generalizing depth with
  | ind budget ih =>
    intro e c history hi
    cases htext : e.text with
    | none =>
      rw [documentInclude_of_no_text htext]
      exact .ofWarning (visits_of_no_text hstanding hi htext) (fun c => effect_of_include hi)
        _ _ _
    | some reference =>
      cases hn : enter? limits.includeDepth depth with
      | none =>
        have hpast := enter?_eq_none_iff.mp hn
        rw [documentInclude_of_limit htext hn]
        exact ⟨_, visits_of_limit hstanding hi htext (by omega), rfl⟩
      | some next =>
        obtain ⟨hnext, hle⟩ := enter?_eq_some_iff.mp hn
        cases budget with
        | zero =>
          rw [documentInclude_of_no_budget htext]
          exact ⟨_, visits_of_limit hstanding hi htext hbudget, rfl⟩
        | succ budget =>
          have hbudget' : limits.includeDepth < Text.maxWord →
              limits.includeDepth ≤ next + budget := by omega
          cases hsource : Source.ofReference world reference with
          | error cause =>
            rw [documentInclude_of_no_source htext hn hsource]
            exact .ofWarning (visits_of_no_source hstanding hi htext hn hsource)
              (fun c => effect_of_include hi) _ _ _
          | ok source =>
            have hinc : (includesAt world limits budget next).GoThrough world limits next :=
              ⟨goesThrough_menuInclude hbudget', ih budget (Nat.lt_succ_self budget) hbudget'⟩
            obtain ⟨visited, hvisits, hconfig⟩ := goesThrough_includedDocument hinc e
              source.label c (history ++ source.calls limits.shell)
              (resolve world limits.shell history source).1
            have hall := visits_of_source hstanding hi htext hn hsource hvisits
            rw [documentInclude_of_source htext hn hsource]
            refine ⟨_, by simpa [Progress.noting, calls_resolve] using hall, ?_⟩
            rw [Config.after_cons, effect_of_include hi]
            exact hconfig

end DeskConfig
