import DeskConfig.Load
import DeskConfig.Proofs.Walk.Include

/-!
The places that a walk comes to. A walk stands before what is left of a document, of
a top-level element or of the items of a menu. From there it goes on behind the next
element, once that has been walked to its end, or into it. A walk is stopped exactly
when it comes to an include with text in a document that stands at the limit.
-/

namespace DeskConfig

open Markup (Element Tag)

/-- What is left to walk: of a document, of what is inside a top-level element, or of
the items of a menu. -/
inductive Place where
  | document (c : Config) (es : List Element)
  | children (c : Config) (es : List Element)
  | items (level height : Nat) (es : List Element)

/-- The includes of a document at `depth` in a load with the given limits. -/
abbrev loadIncludes (world : World) (limits : Limits) (depth : Nat) : Includes :=
  includesAt world limits (limits.budget depth) depth

section Reached

variable (world : World) (limits : Limits) (root : List Element)

/-- The places, each with the include depth of its document and the commands run
before, that the walk of a root document comes to. -/
inductive Reached : (depth : Nat) → (history : List Call) → Place → Prop
  | start : Reached 0 [] (.document {} root)
  | skipTop {depth history c e es} : Reached depth history (.document c (e :: es)) →
      e.tag ≠ .jwm → Reached depth history (.document c es)
  | passTop {depth history c e es} : Reached depth history (.document c (e :: es)) →
      e.tag = .jwm →
      (walkRoot world (loadIncludes world limits depth) e c history).stopped = false →
      Reached depth
        (history ++ (walkRoot world (loadIncludes world limits depth) e c
          history).journal.calls)
        (.document (walkRoot world (loadIncludes world limits depth) e c history).config es)
  | enterTop {depth history c e es} : Reached depth history (.document c (e :: es)) →
      e.tag = .jwm → Reached depth history (.children c e.children)
  | passChild {depth history c e es} : Reached depth history (.children c (e :: es)) →
      (walkElement world (loadIncludes world limits depth) .jwm e c history).stopped =
        false →
      Reached depth
        (history ++ (walkElement world (loadIncludes world limits depth) .jwm e c
          history).journal.calls)
        (.children (walkElement world (loadIncludes world limits depth) .jwm e c
          history).config es)
  | enterRootMenu {depth history c e es} :
      Reached depth history (.children c (e :: es)) → e.tag = .rootMenu →
      Reached depth history (.items 0 (Menu.heightOf e 0).value e.children)
  | enterInclude {depth history c e es reference source document} :
      Reached depth history (.children c (e :: es)) → e.tag = .include →
      e.text = some reference → depth < limits.includeDepth →
      Source.ofReference world reference = .ok source →
      (resolve world limits.shell history source).1 = .ok document →
      Reached (depth + 1) (history ++ source.calls limits.shell) (.document c document)
  | passItem {depth history level height e es} :
      Reached depth history (.items level height (e :: es)) →
      (itemOf (loadIncludes world limits depth).inMenu level height history e).stopped =
        false →
      Reached depth
        (history ++ (itemOf (loadIncludes world limits depth).inMenu level height history
          e).journal.calls)
        (.items level height es)
  | enterSubmenu {depth history level height e es} :
      Reached depth history (.items level height (e :: es)) → e.tag = .menu →
      level < Menu.maxLevel →
      Reached depth history (.items (level + 1) (Menu.heightOf e height).value e.children)
  | enterMenuInclude {depth history level height e es reference source top rest} :
      Reached depth history (.items level height (e :: es)) → e.tag = .include →
      e.text = some reference → depth < limits.includeDepth →
      Source.ofMenuReference world reference = .ok source →
      (resolve world limits.shell history source).1 = .ok (top :: rest) →
      top.tag = .menu →
      Reached (depth + 1) (history ++ source.calls limits.shell)
        (.items level height top.children)

end Reached

namespace Place

/-- Whether the rest of the walk at a place is stopped. -/
def stops (world : World) (limits : Limits) (depth : Nat) (history : List Call) :
    Place → Bool
  | .document c es =>
    (walkDocument world (loadIncludes world limits depth) es c history).stopped
  | .children c es =>
    (walkElements world (loadIncludes world limits depth) .jwm es c history).stopped
  | .items level height es =>
    (itemsOf (loadIncludes world limits depth).inMenu level height history es).stopped

/-- Whether an include with text comes next. -/
def AtInclude : Place → Prop
  | .document _ _ => False
  | .children _ es => ∃ e rest, es = e :: rest ∧ e.tag = .include ∧ e.text ≠ none
  | .items _ _ es => ∃ e rest, es = e :: rest ∧ e.tag = .include ∧ e.text ≠ none

end Place

section Limit

variable {world : World} {limits : Limits} {root : List Element} {depth : Nat}
  {history : List Call} {place : Place}

theorem enter?_of_lt (hlimit : limits.includeDepth < Text.maxWord)
    (hdepth : depth < limits.includeDepth) :
    enter? limits.includeDepth depth = some (depth + 1) :=
  enter?_eq_some_iff.mpr ⟨by omega, hdepth⟩

theorem enter?_of_limit (hlimit : limits.includeDepth < Text.maxWord) :
    enter? limits.includeDepth limits.includeDepth = none :=
  enter?_eq_none_iff.mpr (by omega)

/-- Below the limit a document has one include more to spare than those it includes. -/
theorem budget_of_lt (hlimit : limits.includeDepth < Text.maxWord)
    (hdepth : depth < limits.includeDepth) :
    limits.budget depth = limits.budget (depth + 1) + 1 := by
  simp only [Limits.budget, if_pos hlimit]
  omega

theorem Reached.depth_le (h : Reached world limits root depth history place) :
    depth ≤ limits.includeDepth := by
  induction h with
  | start => exact Nat.zero_le _
  | skipTop _ _ ih => exact ih
  | passTop _ _ _ ih => exact ih
  | enterTop _ _ ih => exact ih
  | passChild _ _ ih => exact ih
  | enterRootMenu _ _ ih => exact ih
  | enterInclude _ _ _ hdepth _ _ _ => exact hdepth
  | passItem _ _ ih => exact ih
  | enterSubmenu _ _ _ ih => exact ih
  | enterMenuInclude _ _ _ hdepth _ _ _ _ => exact hdepth

section Includes

variable {c : Config} {level height : Nat} {e : Element} {reference : String}
  {source : Source}

theorem stopped_inDocument_of_limit (hlimit : limits.includeDepth < Text.maxWord)
    (htext : e.text ≠ none) :
    ((loadIncludes world limits limits.includeDepth).inDocument e c history).stopped =
      true := by
  obtain ⟨reference, hreference⟩ := Option.ne_none_iff_exists'.mp htext
  simp only [includesAt, documentInclude_of_limit hreference (enter?_of_limit hlimit)]

theorem stopped_inMenu_of_limit (hlimit : limits.includeDepth < Text.maxWord)
    (htext : e.text ≠ none) :
    ((loadIncludes world limits limits.includeDepth).inMenu e level height history).stopped =
      true := by
  obtain ⟨reference, hreference⟩ := Option.ne_none_iff_exists'.mp htext
  simp only [includesAt, menuInclude_of_limit hreference (enter?_of_limit hlimit)]

theorem inDocument_of_source (hlimit : limits.includeDepth < Text.maxWord)
    (hdepth : depth < limits.includeDepth) (htext : e.text = some reference)
    (hsource : Source.ofReference world reference = .ok source) :
    (loadIncludes world limits depth).inDocument e c history =
      (includedDocument (walkDocument world (loadIncludes world limits (depth + 1))) e
          source.label c (history ++ source.calls limits.shell)
          (resolve world limits.shell history source).1).noting
        (.including source.label (depth + 1) ::
          (resolve world limits.shell history source).2) := by
  rw [loadIncludes, budget_of_lt hlimit hdepth]
  exact documentInclude_of_source htext (enter?_of_lt hlimit hdepth) hsource

theorem inMenu_of_source (hlimit : limits.includeDepth < Text.maxWord)
    (hdepth : depth < limits.includeDepth) (htext : e.text = some reference)
    (hsource : Source.ofMenuReference world reference = .ok source) :
    (loadIncludes world limits depth).inMenu e level height history =
      (includedItems
          (itemsOf (loadIncludes world limits (depth + 1)).inMenu level height) e
          reference (history ++ source.calls limits.shell)
          (resolve world limits.shell history source).1).noting
        (.includingMenu source.label (depth + 1) ::
          (resolve world limits.shell history source).2) := by
  rw [loadIncludes, budget_of_lt hlimit hdepth]
  exact menuInclude_of_source htext (enter?_of_lt hlimit hdepth) hsource

/-- Below the limit only the document of an include can stop it. -/
theorem exists_document_of_stopped (hlimit : limits.includeDepth < Text.maxWord)
    (hdepth : depth < limits.includeDepth) (htext : e.text = some reference)
    (hs : ((loadIncludes world limits depth).inDocument e c history).stopped = true) :
    ∃ source document, Source.ofReference world reference = .ok source ∧
      (resolve world limits.shell history source).1 = .ok document := by
  cases hsource : Source.ofReference world reference with
  | error cause =>
    rw [loadIncludes, budget_of_lt hlimit hdepth, includesAt] at hs
    simp only [documentInclude_of_no_source htext (enter?_of_lt hlimit hdepth) hsource] at hs
    contradiction
  | ok source =>
    rw [inDocument_of_source hlimit hdepth htext hsource, Progress.stopped_noting] at hs
    cases hdocument : (resolve world limits.shell history source).1 with
    | error cause =>
      rw [hdocument] at hs
      cases cause <;> contradiction
    | ok document => exact ⟨source, document, rfl, hdocument⟩

theorem exists_menu_of_stopped (hlimit : limits.includeDepth < Text.maxWord)
    (hdepth : depth < limits.includeDepth) (htext : e.text = some reference)
    (hs : ((loadIncludes world limits depth).inMenu e level height history).stopped = true) :
    ∃ source top rest, Source.ofMenuReference world reference = .ok source ∧
      (resolve world limits.shell history source).1 = .ok (top :: rest) ∧
      top.tag = .menu := by
  cases hsource : Source.ofMenuReference world reference with
  | error cause =>
    rw [loadIncludes, budget_of_lt hlimit hdepth, includesAt] at hs
    simp only [menuInclude_of_no_source htext (enter?_of_lt hlimit hdepth) hsource] at hs
    contradiction
  | ok source =>
    rw [inMenu_of_source hlimit hdepth htext hsource, MenuYield.stopped_noting] at hs
    cases hdocument : (resolve world limits.shell history source).1 with
    | error cause =>
      rw [hdocument] at hs
      cases cause <;> contradiction
    | ok document =>
      rw [hdocument] at hs
      cases document with
      | nil => contradiction
      | cons top rest =>
        by_cases htop : top.tag = .menu
        · exact ⟨source, top, rest, rfl, hdocument, htop⟩
        · simp only [includedItems, if_neg htop] at hs
          contradiction

end Includes

section Stops

variable {c : Config} {level height : Nat} {e : Element} {es : List Element}

theorem stops_document_cons_of_ne (he : e.tag ≠ .jwm) :
    (Place.document c (e :: es)).stops world limits depth history =
      (Place.document c es).stops world limits depth history := by
  simp only [Place.stops, walkDocument, if_neg he, Progress.stopped_andThen,
    Progress.stopped_ofWarning, Progress.config_ofWarning, Progress.calls_ofWarning,
    List.append_nil, Bool.false_or]

theorem stops_document_cons (he : e.tag = .jwm) :
    (Place.document c (e :: es)).stops world limits depth history =
      ((walkRoot world (loadIncludes world limits depth) e c history).stopped ||
        (Place.document (walkRoot world (loadIncludes world limits depth) e c
          history).config es).stops world limits depth
            (history ++ (walkRoot world (loadIncludes world limits depth) e c
              history).journal.calls)) := by
  simp only [Place.stops, walkDocument, if_pos he, Progress.stopped_andThen]

theorem stops_children_cons :
    (Place.children c (e :: es)).stops world limits depth history =
      ((walkElement world (loadIncludes world limits depth) .jwm e c history).stopped ||
        (Place.children (walkElement world (loadIncludes world limits depth) .jwm e c
          history).config es).stops world limits depth
            (history ++ (walkElement world (loadIncludes world limits depth) .jwm e c
              history).journal.calls)) := by
  simp only [Place.stops, walkElements, Progress.stopped_andThen]

theorem stops_items_cons :
    (Place.items level height (e :: es)).stops world limits depth history =
      ((itemOf (loadIncludes world limits depth).inMenu level height history e).stopped ||
        (Place.items level height es).stops world limits depth
          (history ++ (itemOf (loadIncludes world limits depth).inMenu level height history
            e).journal.calls)) := by
  simp only [Place.stops, itemsOf_cons, MenuYield.stopped_andThen]

theorem stopped_walkRoot (he : e.tag = .jwm) :
    (walkRoot world (loadIncludes world limits depth) e c history).stopped =
      (Place.children c e.children).stops world limits depth history := by
  simp only [Place.stops, walkRoot, he]

theorem stopped_walkElement_rootMenu (he : e.tag = .rootMenu) :
    (walkElement world (loadIncludes world limits depth) .jwm e c history).stopped =
      (Place.items 0 (Menu.heightOf e 0).value e.children).stops world limits depth
        history := by
  rw [walkElement_rootMenu he, stopped_rootMenu]
  rfl

theorem stopped_itemOf_menu (he : e.tag = .menu) (hlevel : level < Menu.maxLevel) :
    (itemOf (loadIncludes world limits depth).inMenu level height history e).stopped =
      (Place.items (level + 1) (Menu.heightOf e height).value e.children).stops world limits
        depth history := by
  rw [itemOf_menu he hlevel]
  rfl

theorem stopped_walkElement_include {reference : String} {source : Source}
    {document : List Element} (hlimit : limits.includeDepth < Text.maxWord)
    (he : e.tag = .include) (htext : e.text = some reference)
    (hdepth : depth < limits.includeDepth)
    (hsource : Source.ofReference world reference = .ok source)
    (hdocument : (resolve world limits.shell history source).1 = .ok document) :
    (walkElement world (loadIncludes world limits depth) .jwm e c history).stopped =
      (Place.document c document).stops world limits (depth + 1)
        (history ++ source.calls limits.shell) := by
  rw [walkElement_include he, inDocument_of_source hlimit hdepth htext hsource, hdocument]
  rfl

theorem stopped_itemOf_include {reference : String} {source : Source} {top : Element}
    {rest : List Element} (hlimit : limits.includeDepth < Text.maxWord)
    (he : e.tag = .include) (htext : e.text = some reference)
    (hdepth : depth < limits.includeDepth)
    (hsource : Source.ofMenuReference world reference = .ok source)
    (hdocument : (resolve world limits.shell history source).1 = .ok (top :: rest))
    (htop : top.tag = .menu) :
    (itemOf (loadIncludes world limits depth).inMenu level height history e).stopped =
      (Place.items level height top.children).stops world limits (depth + 1)
        (history ++ source.calls limits.shell) := by
  rw [itemOf_include he, inMenu_of_source hlimit hdepth htext hsource, hdocument,
    includedItems_of_menu _ htop]
  rfl

end Stops

/-- A walk that is stopped at a place that it came to is stopped as a whole. -/
theorem Reached.stops_start (hlimit : limits.includeDepth < Text.maxWord)
    (h : Reached world limits root depth history place)
    (hs : place.stops world limits depth history = true) :
    (Place.document {} root).stops world limits 0 [] = true := by
  induction h with
  | start => exact hs
  | skipTop _ he ih =>
    apply ih
    rw [stops_document_cons_of_ne he, hs]
  | passTop _ he _ ih =>
    apply ih
    rw [stops_document_cons he, hs, Bool.or_true]
  | enterTop _ he ih =>
    apply ih
    rw [stops_document_cons he, stopped_walkRoot he, hs, Bool.true_or]
  | passChild _ _ ih =>
    apply ih
    rw [stops_children_cons, hs, Bool.or_true]
  | enterRootMenu _ he ih =>
    apply ih
    rw [stops_children_cons, stopped_walkElement_rootMenu he, hs, Bool.true_or]
  | enterInclude _ he htext hdepth hsource hdocument ih =>
    apply ih
    rw [stops_children_cons,
      stopped_walkElement_include hlimit he htext hdepth hsource hdocument, hs, Bool.true_or]
  | passItem _ _ ih =>
    apply ih
    rw [stops_items_cons, hs, Bool.or_true]
  | enterSubmenu _ he hlevel ih =>
    apply ih
    rw [stops_items_cons, stopped_itemOf_menu he hlevel, hs, Bool.true_or]
  | enterMenuInclude _ he htext hdepth hsource hdocument htop ih =>
    apply ih
    rw [stops_items_cons,
      stopped_itemOf_include hlimit he htext hdepth hsource hdocument htop, hs, Bool.true_or]

/-- An include with text in a document at the limit stops the walk. -/
theorem stops_of_atInclude (hlimit : limits.includeDepth < Text.maxWord)
    (h : place.AtInclude) :
    place.stops world limits limits.includeDepth history = true := by
  cases place with
  | document c es => exact h.elim
  | children c es =>
    obtain ⟨e, rest, rfl, he, htext⟩ := h
    rw [stops_children_cons, walkElement_include he, stopped_inDocument_of_limit hlimit htext,
      Bool.true_or]
  | items level height es =>
    obtain ⟨e, rest, rfl, he, htext⟩ := h
    rw [stops_items_cons, itemOf_include he, stopped_inMenu_of_limit hlimit htext,
      Bool.true_or]

/-- The walk comes to an include with text in a document at the limit. -/
def Blocked (world : World) (limits : Limits) (root : List Element) : Prop :=
  ∃ history place, Reached world limits root limits.includeDepth history place ∧
    place.AtInclude

section Blocked

variable (hlimit : limits.includeDepth < Text.maxWord)

include hlimit

/-- A menu that is stopped leads to the limit, if all documents that it includes do. -/
theorem blocked_of_items (hdepth : depth ≤ limits.includeDepth)
    (hdeeper : ∀ history place, Reached world limits root (depth + 1) history place →
      place.stops world limits (depth + 1) history = true → Blocked world limits root)
    (es : List Element) (level height : Nat) (history : List Call)
    (hr : Reached world limits root depth history (.items level height es))
    (hs : (Place.items level height es).stops world limits depth history = true) :
    Blocked world limits root := by
  induction es using Markup.forest_induction generalizing level height history with
  | nil =>
    rw [Place.stops, itemsOf_nil] at hs
    contradiction
  | cons e es ihe ihs =>
    cases hse : (itemOf (loadIncludes world limits depth).inMenu level height history
      e).stopped with
    | false =>
      rw [stops_items_cons, hse, Bool.false_or] at hs
      exact ihs level height _ (hr.passItem hse) hs
    | true =>
      by_cases hi : e.tag = .include
      · cases htext : e.text with
        | none =>
          rw [itemOf_include hi] at hse
          simp only [includesAt, menuInclude_of_no_text htext] at hse
          contradiction
        | some reference =>
          by_cases hlast : depth = limits.includeDepth
          · subst hlast
            exact ⟨history, _, hr, e, es, rfl, hi, by simp [htext]⟩
          · have hlt : depth < limits.includeDepth := by omega
            have hsi := hse
            rw [itemOf_include hi] at hsi
            obtain ⟨source, top, rest, hsource, hdocument, htop⟩ :=
              exists_menu_of_stopped hlimit hlt htext hsi
            rw [stopped_itemOf_include hlimit hi htext hlt hsource hdocument htop] at hse
            exact hdeeper _ _
              (hr.enterMenuInclude hi htext hlt hsource hdocument htop) hse
      by_cases hm : e.tag = .menu
      · by_cases hlevel : level < Menu.maxLevel
        · rw [stopped_itemOf_menu hm hlevel] at hse
          exact ihe _ _ history (hr.enterSubmenu hm hlevel) hse
        · rw [itemOf_menu_of_deep hm (Nat.not_lt.mp hlevel)] at hse
          contradiction
      · rw [itemOf_leaf hi hm] at hse
        contradiction

/-- The same for the children of a top-level element. -/
theorem blocked_of_children (hdepth : depth ≤ limits.includeDepth)
    (hdeeper : ∀ history place, Reached world limits root (depth + 1) history place →
      place.stops world limits (depth + 1) history = true → Blocked world limits root)
    (es : List Element) (c : Config) (history : List Call)
    (hr : Reached world limits root depth history (.children c es))
    (hs : (Place.children c es).stops world limits depth history = true) :
    Blocked world limits root := by
  induction es generalizing c history with
  | nil => contradiction
  | cons e es ih =>
    cases hse : (walkElement world (loadIncludes world limits depth) .jwm e c
      history).stopped with
    | false =>
      rw [stops_children_cons, hse, Bool.false_or] at hs
      exact ih _ _ (hr.passChild hse) hs
    | true =>
      by_cases hm : e.tag = .rootMenu
      · rw [stopped_walkElement_rootMenu hm] at hse
        exact blocked_of_items hlimit hdepth hdeeper _ _ _ _ (hr.enterRootMenu hm) hse
      by_cases hi : e.tag = .include
      · cases htext : e.text with
        | none =>
          rw [walkElement_include hi] at hse
          simp only [includesAt, documentInclude_of_no_text htext] at hse
          contradiction
        | some reference =>
          by_cases hlast : depth = limits.includeDepth
          · subst hlast
            exact ⟨history, _, hr, e, es, rfl, hi, by simp [htext]⟩
          · have hlt : depth < limits.includeDepth := by omega
            have hsi := hse
            rw [walkElement_include hi] at hsi
            obtain ⟨source, document, hsource, hdocument⟩ :=
              exists_document_of_stopped hlimit hlt htext hsi
            rw [stopped_walkElement_include hlimit hi htext hlt hsource hdocument] at hse
            exact hdeeper _ _ (hr.enterInclude hi htext hlt hsource hdocument) hse
      · rw [walkElement_declaration hm hi] at hse
        contradiction

/-- The same for the top-level elements of a document. -/
theorem blocked_of_document (hdepth : depth ≤ limits.includeDepth)
    (hdeeper : ∀ history place, Reached world limits root (depth + 1) history place →
      place.stops world limits (depth + 1) history = true → Blocked world limits root)
    (es : List Element) (c : Config) (history : List Call)
    (hr : Reached world limits root depth history (.document c es))
    (hs : (Place.document c es).stops world limits depth history = true) :
    Blocked world limits root := by
  induction es generalizing c history with
  | nil => contradiction
  | cons e es ih =>
    by_cases he : e.tag = .jwm
    · cases hse : (walkRoot world (loadIncludes world limits depth) e c history).stopped with
      | false =>
        rw [stops_document_cons he, hse, Bool.false_or] at hs
        exact ih _ _ (hr.passTop he hse) hs
      | true =>
        rw [stopped_walkRoot he] at hse
        exact blocked_of_children hlimit hdepth hdeeper _ _ _ (hr.enterTop he) hse
    · rw [stops_document_cons_of_ne he] at hs
      exact ih c history (hr.skipTop he) hs

theorem blocked_of_place (hdepth : depth ≤ limits.includeDepth)
    (hdeeper : ∀ history place, Reached world limits root (depth + 1) history place →
      place.stops world limits (depth + 1) history = true → Blocked world limits root)
    (place : Place) (history : List Call)
    (hr : Reached world limits root depth history place)
    (hs : place.stops world limits depth history = true) : Blocked world limits root := by
  cases place with
  | document c es => exact blocked_of_document hlimit hdepth hdeeper es c history hr hs
  | children c es => exact blocked_of_children hlimit hdepth hdeeper es c history hr hs
  | items level height es =>
    exact blocked_of_items hlimit hdepth hdeeper es level height history hr hs

/-- A walk that is stopped comes to an include at the limit: the induction is on the
number of includes that can still be entered one inside the other. -/
theorem blocked_of_stops (place : Place) (history : List Call)
    (hr : Reached world limits root depth history place)
    (hs : place.stops world limits depth history = true) : Blocked world limits root := by
  have hdepth := hr.depth_le
  induction hn : limits.includeDepth - depth generalizing depth history place with
  | zero =>
    refine blocked_of_place hlimit hdepth ?_ place history hr hs
    intro history place hr'
    have hle := hr'.depth_le
    omega
  | succ n ih =>
    refine blocked_of_place hlimit hdepth ?_ place history hr hs
    intro history place hr' hs'
    exact ih place history hr' hs' hr'.depth_le (by omega)

theorem stops_iff_blocked :
    (Place.document {} root).stops world limits 0 [] = true ↔ Blocked world limits root := by
  constructor
  · exact blocked_of_stops hlimit _ _ .start
  · rintro ⟨history, place, hr, hi⟩
    exact hr.stops_start hlimit (stops_of_atInclude hlimit hi)

end Blocked

end Limit

end DeskConfig
