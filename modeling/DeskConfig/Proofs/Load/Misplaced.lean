import DeskConfig.Proofs.Include.TextFiles
import DeskConfig.Proofs.Load.Result
import DeskConfig.Proofs.Menus.Binding
import DeskConfig.Proofs.Walk.Misplaced

/-!
Documents with an element that is out of place. However deep it stands and whatever stands
around it, the load comes to what it would come to without it, runs the same commands, and
has that one warning more, unless it ended before or never looked there.
-/

namespace DeskConfig

open Markup (Element Tag)

/-- The second list of elements is the first one with `bad` put in, at the top or further
down, where it is not accepted; `d` is what is reported of it. -/
inductive Markup.Intrudes (bad : Element) : (d : Diagnostic) → (parent : Tag) →
    List Element → List Element → Prop
  | here {parent : Tag} {xs ys : List Element} : bad.tag ∉ parent.accepted →
      Intrudes bad (misplaced parent bad) parent (xs ++ ys) (xs ++ bad :: ys)
  | inside {d : Diagnostic} {parent : Tag} {e : Element} {es es' xs ys : List Element} :
      e.tag ∈ parent.accepted → e.tag.accepted ≠ [] →
      Intrudes bad d e.tag es es' →
      Intrudes bad d parent (xs ++ { e with children := es } :: ys)
        (xs ++ { e with children := es' } :: ys)

open Markup (Intrudes)

/-- The second journal is the first one, or has a warning more. -/
def Journal.Gains (d : Diagnostic) (j j' : Journal) : Prop :=
  j' = j ∨ ∃ earlier later, j = earlier ++ later ∧ j' = earlier ++ .warned d :: later

namespace Journal.Gains

variable {d : Diagnostic} {j j' : Journal}

theorem append_left (h : Gains d j j') (events : Journal) :
    Gains d (events ++ j) (events ++ j') := by
  obtain rfl | ⟨earlier, later, rfl, rfl⟩ := h
  · exact .inl rfl
  · exact .inr ⟨events ++ earlier, later, by simp, by simp⟩

theorem append_right (h : Gains d j j') (events : Journal) :
    Gains d (j ++ events) (j' ++ events) := by
  obtain rfl | ⟨earlier, later, rfl, rfl⟩ := h
  · exact .inl rfl
  · exact .inr ⟨earlier, later ++ events, by simp, by simp⟩

theorem calls (h : Gains d j j') : j'.calls = j.calls := by
  obtain rfl | ⟨earlier, later, rfl, rfl⟩ := h
  · rfl
  · rw [calls_append, calls_append]
    rfl

theorem diagnostics (h : Gains d j j') :
    j'.diagnostics = j.diagnostics ∨
      ∃ earlier later, j.diagnostics = earlier ++ later ∧
        j'.diagnostics = earlier ++ d :: later := by
  obtain rfl | ⟨earlier, later, rfl, rfl⟩ := h
  · exact .inl rfl
  · refine .inr ⟨earlier.diagnostics, later.diagnostics, diagnostics_append _ _, ?_⟩
    exact diagnostics_append _ _

/-- A warning behind what happened first, unless that was stopped. -/
theorem of_around {first later : Journal} (stopped : Bool) (h : j = first ++ later) :
    Gains d j (first ++ (if stopped then [] else [.warned d]) ++ later) := by
  cases stopped with
  | true => exact .inl (by simp [h])
  | false => exact .inr ⟨first, later, h, by simp⟩

end Journal.Gains

/-- The two buildings differ in nothing but a warning. -/
def MenuYield.Gains (d : Diagnostic) (y y' : MenuYield) : Prop :=
  ∃ j, Journal.Gains d y.journal j ∧ y' = { y with journal := j }

namespace MenuYield.Gains

variable {d : Diagnostic} {y y' : MenuYield} {history : List Call}

theorem refl (d : Diagnostic) (y : MenuYield) : Gains d y y := ⟨_, .inl rfl, rfl⟩

theorem andThen (h : Gains d y y') (next : List Call → MenuYield) :
    Gains d (y.andThen history next) (y'.andThen history next) := by
  obtain ⟨j, hj, rfl⟩ := h
  rcases Bool.eq_false_or_eq_true y.stopped with hy | hy
  · rw [andThen_of_stopped hy, andThen_of_stopped (y := { y with journal := j }) hy]
    exact ⟨j, hj, rfl⟩
  · rw [andThen_of_not_stopped hy, andThen_of_not_stopped (y := { y with journal := j }) hy,
      hj.calls]
    exact ⟨_, hj.append_right _, rfl⟩

theorem andThen_left {f g : List Call → MenuYield} (h : ∀ history, Gains d (f history) (g history)) :
    Gains d (y.andThen history f) (y.andThen history g) := by
  cases hy : y.stopped with
  | true =>
    rw [andThen_of_stopped hy, andThen_of_stopped hy]
    exact refl d y
  | false =>
    obtain ⟨j, hj, hnext⟩ := h (history ++ y.journal.calls)
    rw [andThen_of_not_stopped hy, andThen_of_not_stopped hy, hnext]
    exact ⟨_, hj.append_left _, rfl⟩

theorem noting (h : Gains d y y') (events : Journal) :
    Gains d (y.noting events) (y'.noting events) := by
  obtain ⟨j, hj, rfl⟩ := h
  exact ⟨_, hj.append_left _, rfl⟩

theorem asSubmenu (h : Gains d y y') (e : Element) (height : Nat) :
    Gains d (y.asSubmenu e height) (y'.asSubmenu e height) := by
  obtain ⟨j, hj, rfl⟩ := h
  exact ⟨j, hj, rfl⟩

theorem ofNotes {first : MenuYield} (h : MenuYield.Notes d first y y') : Gains d y y' := by
  obtain ⟨later, hplain, hnoted⟩ := h.journal
  exact ⟨_, hnoted ▸ .of_around _ hplain, h.same⟩

end MenuYield.Gains

/-- The two walks differ in nothing but a warning. -/
def Progress.Gains (d : Diagnostic) (p p' : Progress) : Prop :=
  ∃ j, Journal.Gains d p.journal j ∧ p' = { p with journal := j }

namespace Progress.Gains

variable {d : Diagnostic} {p p' : Progress} {history : List Call}

theorem andThen (h : Gains d p p') (next : Config → List Call → Progress) :
    Gains d (p.andThen history next) (p'.andThen history next) := by
  obtain ⟨j, hj, rfl⟩ := h
  rcases Bool.eq_false_or_eq_true p.stopped with hp | hp
  · rw [andThen_of_stopped hp, andThen_of_stopped (p := { p with journal := j }) hp]
    exact ⟨j, hj, rfl⟩
  · rw [andThen_of_not_stopped hp, andThen_of_not_stopped (p := { p with journal := j }) hp,
      hj.calls]
    exact ⟨_, hj.append_right _, rfl⟩

theorem andThen_left {f g : Config → List Call → Progress}
    (h : ∀ c history, Gains d (f c history) (g c history)) :
    Gains d (p.andThen history f) (p.andThen history g) := by
  cases hp : p.stopped with
  | true =>
    rw [andThen_of_stopped hp, andThen_of_stopped hp]
    exact ⟨_, .inl rfl, rfl⟩
  | false =>
    obtain ⟨j, hj, hnext⟩ := h p.config (history ++ p.journal.calls)
    rw [andThen_of_not_stopped hp, andThen_of_not_stopped hp, hnext]
    exact ⟨_, hj.append_left _, rfl⟩

theorem ofNotes {first : Progress} (h : Progress.Notes d first p p') : Gains d p p' := by
  obtain ⟨later, hplain, hnoted⟩ := h.journal
  exact ⟨_, hnoted ▸ .of_around _ hplain, h.same⟩

theorem ofReading {first : List Diagnostic} {plain noted : Reading Config}
    (h : Reading.Notes d first plain noted) :
    Gains d (.ofReading plain) (.ofReading noted) := by
  obtain ⟨later, hplain, rfl⟩ := h
  refine ⟨_, .inr ⟨.ofWarnings first, .ofWarnings later, ?_, List.map_append⟩, rfl⟩
  exact (congrArg Journal.ofWarnings hplain).trans List.map_append

theorem load (h : Gains d p p') (o : Options) (source : String) :
    (Load.ofProgress o source p').outcome = (Load.ofProgress o source p).outcome ∧
      (Load.ofProgress o source p').calls = (Load.ofProgress o source p).calls ∧
      ((Load.ofProgress o source p').diagnostics = (Load.ofProgress o source p).diagnostics ∨
        ∃ earlier later, (Load.ofProgress o source p).diagnostics = earlier ++ later ∧
          (Load.ofProgress o source p').diagnostics = earlier ++ d :: later) := by
  obtain ⟨j, hj, rfl⟩ := h
  obtain ⟨houtcome, closing, hplain, hnoted⟩ :=
    Load.ofProgress_congr source o (p := p) (q := { p with journal := j }) rfl rfl
  refine ⟨houtcome, by simp [hj.calls], ?_⟩
  rw [hplain, hnoted]
  obtain hsame | ⟨earlier, later, hearlier, hbetween⟩ := hj.diagnostics
  · exact .inl (by rw [hsame])
  · exact .inr ⟨earlier, later ++ closing, by simp [hearlier], by simp [hbetween]⟩

end Progress.Gains

section Intrudes

variable {world : World} {includes : Includes} {bad : Element} {d : Diagnostic}
  {es es' : List Element}

/-- Of what a menu accepts, only menus hold elements. -/
theorem eq_menu_of_mem_accepted {tag : Tag} (h : tag ∈ Tag.accepted .menu)
    (hholds : tag.accepted ≠ []) : tag = .menu := by
  have hall : ∀ tag ∈ Tag.accepted .menu, tag.accepted = [] ∨ tag = .menu := by decide
  exact (hall tag h).resolve_left hholds

theorem itemsOf_gains (onInclude : MenuInclude) {parent : Tag} (h : Intrudes bad d parent es es')
    (hparent : parent = .rootMenu ∨ parent = .menu) (level height : Nat) (history : List Call) :
    MenuYield.Gains d (itemsOf onInclude level height history es)
      (itemsOf onInclude level height history es') := by
  -- A submenu is one level further down, so the level is left open.
  induction h generalizing level height history with
  | @here parent xs ys hbad =>
    have hnotes : ∀ h : bad.tag ∉ Tag.accepted .menu, MenuYield.Gains (misplaced .menu bad)
        (itemsOf onInclude level height history (xs ++ ys))
        (itemsOf onInclude level height history (xs ++ bad :: ys)) :=
      fun h => .ofNotes (itemsOf_around_misplaced h onInclude level height history xs ys)
    rcases hparent with rfl | rfl
    · exact hnotes hbad
    · exact hnotes hbad
  | @inside d parent e es es' xs ys he hholds hinner ih =>
    have hmenu : e.tag = .menu := by
      refine eq_menu_of_mem_accepted ?_ hholds
      rcases hparent with rfl | rfl <;> exact he
    simp only [itemsOf_append, itemsOf_cons]
    refine .andThen_left fun history => .andThen ?_ _
    have hmenus : ∀ es, ({ e with children := es } : Element).tag = .menu := fun _ => hmenu
    by_cases hl : level < Menu.maxLevel
    · rw [itemOf_menu (hmenus es) hl, itemOf_menu (hmenus es') hl]
      exact ((ih (.inr hmenu) _ _ _).asSubmenu e _).noting _
    · rw [itemOf_menu_of_deep (hmenus es) (Nat.not_lt.mp hl),
        itemOf_menu_of_deep (hmenus es') (Nat.not_lt.mp hl)]
      exact .refl d _

theorem rootMenu_gains (onInclude : MenuInclude) {e : Element}
    (h : Intrudes bad d .rootMenu es es') (c : Config) (history : List Call) :
    Progress.Gains d (rootMenu onInclude { e with children := es } c history)
      (rootMenu onInclude { e with children := es' } c history) := by
  obtain ⟨j, hj, hitems⟩ := itemsOf_gains onInclude h (.inl rfl) 0 (Menu.heightOf e 0).value history
  have hheight : ∀ es, Menu.heightOf { e with children := es } 0 = Menu.heightOf e 0 := fun _ => rfl
  simp only [rootMenu, hheight, Menu.slotsOf_children, hitems, MenuYield.noting]
  split
  · exact ⟨_, hj.append_left _, rfl⟩
  · exact ⟨_, (hj.append_left _).append_right _, rfl⟩

/-- What a declaration accepts holds no elements. -/
theorem declare_gains {block : Element} (hblock : block.tag ∈ blocks)
    (h : Intrudes bad d block.tag es es') (parent : Tag) (c : Config) :
    Progress.Gains d (.ofReading (c.declare world parent { block with children := es }))
      (.ofReading (c.declare world parent { block with children := es' })) := by
  generalize htag : block.tag = tag at h
  cases h with
  | @here _ xs ys hbad =>
    subst htag
    exact .ofReading (Config.declare_around hblock hbad world parent c xs ys)
  | @inside _ _ e _ _ _ _ he hholds _ =>
    have hall : ∀ tag ∈ blocks, ∀ inner ∈ tag.accepted, inner.accepted = [] := by decide
    exact absurd (hall _ (htag ▸ hblock) _ he) hholds

theorem walkElements_gains (h : Intrudes bad d .jwm es es') (c : Config)
    (history : List Call) :
    Progress.Gains d (walkElements world includes .jwm es c history)
      (walkElements world includes .jwm es' c history) := by
  generalize hparent : Tag.jwm = parent at h
  cases h with
  | @here _ xs ys hbad =>
    subst hparent
    exact .ofNotes (walkElements_around world includes hbad .jwm xs ys c history)
  | @inside _ _ e es es' xs ys he hholds hinner =>
    subst hparent
    simp only [walkElements_append, walkElements]
    refine .andThen_left fun c history => .andThen ?_ _
    have hall : ∀ tag ∈ Tag.accepted .jwm,
        tag.accepted = [] ∨ tag = .rootMenu ∨ tag ∈ blocks := by decide
    obtain hm | hblock := (hall e.tag he).resolve_left hholds
    · rw [walkElement_rootMenu (by exact hm), walkElement_rootMenu (by exact hm)]
      exact rootMenu_gains includes.inMenu (hm ▸ hinner) c history
    · have hneither : e.tag ≠ .rootMenu ∧ e.tag ≠ .include := by
        have hne : ∀ tag ∈ blocks, tag ≠ .rootMenu ∧ tag ≠ .include := by decide
        exact hne e.tag hblock
      rw [walkElement_declaration (by exact hneither.1) (by exact hneither.2),
        walkElement_declaration (by exact hneither.1) (by exact hneither.2)]
      exact declare_gains hblock hinner .jwm c

theorem walkDocument_gains {top : Element} (htop : top.tag = .jwm)
    (h : Intrudes bad d .jwm es es') (before after : List Element) (c : Config)
    (history : List Call) :
    let walk (es : List Element) := walkDocument world includes
      (before ++ { top with children := es } :: after) c history
    Progress.Gains d (walk es) (walk es') := by
  simp only [walkDocument_append, walkDocument, if_pos htop, walkRoot]
  refine .andThen_left fun c history => .andThen ?_ _
  rw [htop]
  exact walkElements_gains h c history

end Intrudes

/-- An element of a tag that is not accepted where it stands, whatever is in it, is one warning
and nothing else: among the children of a top-level element, among the items of a menu at any
level of any document, inside a block, and among the top-level elements of a document, what
comes of the elements around it is what would come of them without it, and its warning stands
right behind what happened before it, if anything is to happen after that. So it is for a load
as well, wherever in the document the element is put. -/
theorem misplaced_elements_only_warn (bad : Element) :
    (∀ (world : World) (includes : Includes) (top : Element) (xs ys : List Element) (c : Config)
      (history : List Call), top.tag = .jwm → bad.tag ∉ Tag.accepted .jwm →
      let walk (es : List Element) := walkRoot world includes { top with children := es } c history
      Progress.Notes (misplaced .jwm bad) (walk xs) (walk (xs ++ ys)) (walk (xs ++ bad :: ys))) ∧
    (∀ (onInclude : MenuInclude) (level height : Nat) (history : List Call)
      (xs ys : List Element), bad.tag ∉ Tag.accepted .menu →
      let build (es : List Element) := itemsOf onInclude level height history es
      MenuYield.Notes (misplaced .menu bad) (build xs) (build (xs ++ ys))
        (build (xs ++ bad :: ys))) ∧
    (∀ (world : World) (parent : Tag) (block : Element) (c : Config) (xs ys : List Element),
      block.tag ∈ blocks → bad.tag ∉ block.tag.accepted →
      let read (es : List Element) := c.declare world parent { block with children := es }
      Reading.Notes (misplaced block.tag bad) (read xs).warnings (read (xs ++ ys))
        (read (xs ++ bad :: ys))) ∧
    (∀ (world : World) (includes : Includes) (xs ys : List Element) (c : Config)
      (history : List Call), bad.tag ≠ .jwm →
      let walk (es : List Element) := walkDocument world includes es c history
      Progress.Notes (.located bad.origin (.invalidStartTag bad.name)) (walk xs)
        (walk (xs ++ ys)) (walk (xs ++ bad :: ys))) ∧
    ∀ (world : World) (includes : Includes) (d : Diagnostic) (top : Element)
      (es es' before after : List Element) (c : Config) (history : List Call) (o : Options)
      (source : String), top.tag = .jwm → Intrudes bad d .jwm es es' →
      let l (es : List Element) := Load.ofProgress o source (walkDocument world includes
        (before ++ { top with children := es } :: after) c history)
      (l es').outcome = (l es).outcome ∧ (l es').calls = (l es).calls ∧
        ((l es').diagnostics = (l es).diagnostics ∨
          ∃ earlier later, (l es).diagnostics = earlier ++ later ∧
            (l es').diagnostics = earlier ++ d :: later) := by
  refine ⟨?_, ?_, ?_, ?_, ?_⟩
  · intro world includes top xs ys c history htop hbad
    have hnotes := walkElements_around world includes hbad .jwm xs ys c history
    simp only [walkRoot, htop]
    exact hnotes
  · intro onInclude level height history xs ys hbad
    exact itemsOf_around_misplaced hbad onInclude level height history xs ys
  · intro world parent block c xs ys hblock hbad
    exact Config.declare_around hblock hbad world parent c xs ys
  · intro world includes xs ys c history hbad
    exact walkDocument_around world includes hbad xs ys c history
  · intro world includes d top es es' before after c history o source htop h
    exact (walkDocument_gains htop h before after c history).load o source

/-- A theme between two others, under a name that is not known. -/
def unknownTheme : Element := madeIn "jwmrc" (.unknown "Themes") (some "light")

/-- The theme behind it is still set, and the one before it reported first. -/
theorem misplaced_elements_only_warn_theme :
    let walk (es : List Element) :=
      walkRoot (World.holding "" "") (includesAt (World.holding "" "") ⟨"/bin/sh", 8⟩ 8 0)
        (madeIn "jwmrc" .jwm none es) {} []
    let first := madeIn "jwmrc" .theme none
    let last := madeIn "jwmrc" .theme (some "dark")
    unknownTheme.tag ∉ Tag.accepted .jwm ∧
      (walk [first, unknownTheme, last]).config.theme = some "dark" ∧
      (walk [first, unknownTheme, last]).journal =
        [.warned (.located ⟨"jwmrc", 1⟩ (.missingText "Theme")),
          .warned (.located ⟨"jwmrc", 1⟩ (.invalidTag "JWM" "Themes"))] := by
  intro walk first last
  have hbad : unknownTheme.tag ∉ Tag.accepted .jwm := by decide
  have hnotes : Progress.Notes (misplaced .jwm unknownTheme) (walk [first]) (walk [first, last])
      (walk [first, unknownTheme, last]) :=
    (misplaced_elements_only_warn unknownTheme).1 (World.holding "" "")
      (includesAt (World.holding "" "") ⟨"/bin/sh", 8⟩ 8 0) (madeIn "jwmrc" .jwm none) [first]
      [last] {} [] rfl hbad
  obtain ⟨later, hplain, hnoted⟩ := hnotes.journal
  have hsame : (walk [first, last]).journal = (walk [first]).journal := by decide +kernel
  have hlater : later = [] := by simpa using hplain.symm.trans hsame
  subst hlater
  exact ⟨hbad, congrArg (·.config.theme) hnotes.same, hnoted⟩

end DeskConfig
