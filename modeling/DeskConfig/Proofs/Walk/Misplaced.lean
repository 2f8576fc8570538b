import DeskConfig.Load
import DeskConfig.Proofs.Include.TextFiles
import DeskConfig.Proofs.Settings.Declarations
import DeskConfig.Proofs.Walk.Sequence

/-!
Elements that are out of place. Every element accepts elements of some tags inside it; one of
another tag is reported, once, and that is all: it has no say in what comes of the elements
around it, and nothing inside it is looked at.
-/

namespace DeskConfig

open Markup (Element Tag)

/-- The tags that are accepted inside an element. -/
def Markup.Tag.accepted : Tag → List Tag
  | .jwm => [
      .borderStyle, .clockStyle, .menuStyle, .pagerStyle, .popupStyle, .taskListStyle,
      .trayButtonStyle, .trayStyle, .desktops, .doubleClickSpeed, .doubleClickDelta, .focusModel,
      .snapMode, .moveMode, .resizeMode, .group, .key, .mouse, .rootMenu, .tray, .include,
      .iconPath, .themePath, .theme, .startupCommand, .restartCommand, .shutdownCommand]
  | .rootMenu | .menu => [
      .include, .menu, .program, .separator, .exit, .restart, .desktops, .stick, .maximize,
      .minimize, .shade, .move, .resize, .kill, .close]
  | .borderStyle => [
      .font, .width, .height, .foreground, .background, .activeForeground, .activeBackground]
  | .taskListStyle | .menuStyle => [
      .font, .foreground, .background, .activeForeground, .activeBackground]
  | .pagerStyle => [.outline, .foreground, .background, .activeForeground, .activeBackground]
  | .popupStyle => [.font, .outline, .foreground, .background]
  | .trayStyle | .clockStyle | .trayButtonStyle => [.font, .foreground, .background]
  | .group => [.windowClass, .name, .option]
  | .tray => [.pager, .taskList, .swallow, .trayButton, .clock, .dock]
  | _ => []

/-- What is reported of an element inside another one that does not accept it. A root menu
goes by the name of a menu. -/
def misplaced (parent : Tag) (e : Element) : Diagnostic :=
  .located e.origin (.invalidTag (if parent = .rootMenu then Tag.menu else parent).spelling e.name)

/-- The two readings differ by a warning, right behind the first ones. -/
def Reading.Notes (d : Diagnostic) (first : List Diagnostic) (plain noted : Reading α) : Prop :=
  ∃ later, plain.warnings = first ++ later ∧
    noted = { value := plain.value, warnings := first ++ d :: later }

namespace Reading

variable {α β : Type} {d : Diagnostic} {first : List Diagnostic} {plain noted : Reading α}

theorem bind_assoc' (r : Reading α) (f : α → Reading β) (g : β → Reading γ) :
    (r >>= f) >>= g = r >>= fun a => f a >>= g := by
  show Reading.mk _ _ = Reading.mk _ _
  simp

/-- A warning between two parts of a reading. -/
theorem notes_warn (r : Reading β) (e : Element) (p : Problem) (f : β → Reading α) :
    Notes (.located e.origin p) r.warnings (r >>= f) (r >>= fun b => do warn e p; f b) :=
  ⟨_, rfl, rfl⟩

/-- What is read before does not matter. -/
theorem Notes.after (r : Reading β) {f g : β → Reading α}
    (h : Notes d first (f r.value) (g r.value)) :
    Notes d (r.warnings ++ first) (r >>= f) (r >>= g) := by
  obtain ⟨later, hplain, hnoted⟩ := h
  refine ⟨later, by simp [hplain], ?_⟩
  show Reading.mk _ _ = Reading.mk _ _
  simp [hnoted]

/-- What is made of the value does not matter. -/
theorem Notes.map {r : Reading α} (h : Notes d r.warnings plain noted) (g : α → β) :
    Notes d (g <$> r).warnings (g <$> plain) (g <$> noted) := by
  obtain ⟨later, hplain, rfl⟩ := h
  refine ⟨later, by simp [hplain], ?_⟩
  show Reading.mk _ _ = Reading.mk _ _
  simp

end Reading

/-- The two walks come to the same and run the same commands, and differ by a warning, right
behind what happened first, unless that was stopped. -/
structure Progress.Notes (d : Diagnostic) (first plain noted : Progress) : Prop where
  same : noted = { plain with journal := noted.journal }
  calls : noted.journal.calls = plain.journal.calls
  journal : ∃ later, plain.journal = first.journal ++ later ∧
    noted.journal = first.journal ++ (if first.stopped then [] else [.warned d]) ++ later

/-- The same for building menus. -/
structure MenuYield.Notes (d : Diagnostic) (first plain noted : MenuYield) : Prop where
  same : noted = { plain with journal := noted.journal }
  calls : noted.journal.calls = plain.journal.calls
  journal : ∃ later, plain.journal = first.journal ++ later ∧
    noted.journal = first.journal ++ (if first.stopped then [] else [.warned d]) ++ later

/-- A warning is no call. -/
theorem calls_around {first plain later : Journal} (h : plain = first ++ later) (stopped : Bool)
    (d : Diagnostic) :
    Journal.calls (first ++ (if stopped then [] else [.warned d]) ++ later) = plain.calls := by
  cases stopped with
  | true => simp [h]
  | false =>
    rw [h, Journal.calls_append, Journal.calls_append, Journal.calls_append]
    exact congrArg (· ++ later.calls) (List.append_nil _)

/-- A step that only warns, between two parts of a walk. -/
theorem Progress.notes_warn (p : Progress) (history : List Call) (e : Element)
    (problem : Problem) (next : Config → List Call → Progress) :
    Notes (.located e.origin problem) p (p.andThen history next)
      (p.andThen history fun c h => (ofWarning c e problem).andThen h next) := by
  obtain ⟨later, hplain, hnoted⟩ := andThen_ofWarning p history e problem next
  rw [hnoted]
  exact ⟨rfl, calls_around hplain _ _, later, hplain, rfl⟩

/-- The elements that are read as a whole, each with the elements inside it. -/
def blocks : List Tag := [
  .borderStyle, .clockStyle, .menuStyle, .pagerStyle, .popupStyle, .taskListStyle,
  .trayButtonStyle, .trayStyle, .group, .tray]

section Blocks

variable {bad : Element}

theorem Style.accepted_eq {tag : Tag} {settings : List (Tag × Setting)}
    (h : block? tag = some settings) : tag.accepted = settings.map (·.1) := by
  unfold block? at h
  split at h
  case h_9 => contradiction
  all_goals
    cases h
    rfl

theorem Style.applyAll_append (block : Tag) (settings : List (Tag × Setting))
    (xs ys : List Element) (s : Style) :
    applyAll block settings (xs ++ ys) s =
      applyAll block settings xs s >>= applyAll block settings ys := by
  induction xs generalizing s with
  | nil => rfl
  | cons e xs ih =>
    rw [List.cons_append, applyAll, applyAll]
    cases setting? settings e.tag with
    | none => simp only [ih, Reading.bind_assoc']
    | some setting => simp only [ih, Reading.bind_assoc']

theorem Style.applyAll_around {block : Tag} {settings : List (Tag × Setting)}
    (hblock : block? block = some settings) (hbad : bad.tag ∉ block.accepted)
    (xs ys : List Element) (s : Style) :
    Reading.Notes (.located bad.origin (.invalidTag block.spelling bad.name))
      (applyAll block settings xs s).warnings (applyAll block settings (xs ++ ys) s)
      (applyAll block settings (xs ++ bad :: ys) s) := by
  have hnone : setting? settings bad.tag = none := by
    rw [accepted_eq hblock] at hbad
    refine Option.map_eq_none_iff.mpr (List.find?_eq_none.mpr fun entry hentry htag => hbad ?_)
    exact List.mem_map.mpr ⟨entry, hentry, eq_of_beq htag⟩
  have hskip : applyAll block settings (bad :: ys) = fun s =>
      Reading.invalidTag block bad >>= fun _ => applyAll block settings ys s := by
    funext s
    rw [applyAll]
    simp only [hnone]
  rw [applyAll_append, applyAll_append, hskip]
  exact Reading.notes_warn _ bad _ _

theorem Group.readChildren_append (parent : Tag) (xs ys : List Element) (g : Group) :
    readChildren parent (xs ++ ys) g =
      readChildren parent xs g >>= readChildren parent ys := by
  induction xs generalizing g with
  | nil => rfl
  | cons e xs ih => simp only [List.cons_append, readChildren, ih, Reading.bind_assoc']

theorem Group.readChildren_around (parent : Tag) (hbad : bad.tag ∉ Tag.accepted .group)
    (xs ys : List Element) (g : Group) :
    Reading.Notes (.located bad.origin (.invalidTag parent.spelling bad.name))
      (readChildren parent xs g).warnings (readChildren parent (xs ++ ys) g)
      (readChildren parent (xs ++ bad :: ys) g) := by
  have hskip : readChildren parent (bad :: ys) = fun g =>
      Reading.invalidTag parent bad >>= fun _ => readChildren parent ys g := by
    funext g
    simp only [readChildren, readChild]
    split
    case h_4 => rfl
    all_goals simp_all [Tag.accepted]
  rw [readChildren_append, readChildren_append, hskip]
  exact Reading.notes_warn _ bad _ _

theorem Tray.readComponents_append (parent : Tag) (earlier : List TrayComponent)
    (xs ys : List Element) :
    readComponents parent earlier (xs ++ ys) =
      readComponents parent earlier xs >>= fun added =>
        (added ++ ·) <$> readComponents parent (earlier ++ added) ys := by
  induction xs generalizing earlier with
  | nil =>
    show Reading.mk _ _ = Reading.mk _ _
    simp [readComponents]
  | cons e xs ih =>
    show Reading.mk _ _ = Reading.mk _ _
    simp [readComponents, ih]

theorem Tray.readComponents_around (parent : Tag) (hbad : bad.tag ∉ Tag.accepted .tray)
    (earlier : List TrayComponent) (xs ys : List Element) :
    Reading.Notes (.located bad.origin (.invalidTag parent.spelling bad.name))
      (readComponents parent earlier xs).warnings (readComponents parent earlier (xs ++ ys))
      (readComponents parent earlier (xs ++ bad :: ys)) := by
  have hskip : ∀ earlier, readComponents parent earlier (bad :: ys) =
      Reading.invalidTag parent bad >>= fun _ => readComponents parent earlier ys := by
    intro earlier
    simp only [readComponents, readComponent]
    split
    case h_7 =>
      show Reading.mk _ _ = Reading.mk _ _
      simp [Reading.invalidTag]
    all_goals simp_all [Tag.accepted]
  simp only [readComponents_append, hskip]
  exact Reading.notes_warn _ bad _ _

theorem Style.read_around {block : Element} {settings : List (Tag × Setting)}
    (hblock : block? block.tag = some settings) (hbad : bad.tag ∉ block.tag.accepted)
    (xs ys : List Element) (s : Style) :
    let read (es : List Element) := Style.read { block with children := es } s
    Reading.Notes (.located bad.origin (.invalidTag block.tag.spelling bad.name))
      (read xs).warnings (read (xs ++ ys)) (read (xs ++ bad :: ys)) := by
  have hattributes : ∀ es, readAttributes { block with children := es } s =
      readAttributes block s := fun _ => rfl
  simp only [read, hblock, hattributes]
  exact .after (readAttributes block s) (applyAll_around hblock hbad xs ys _)

/-- A tray is read as an empty one, which its components then go into. -/
theorem Tray.read_eq (before : List Tray) (tray : Element) (es : List Element) :
    Tray.read before { tray with children := es } =
      Tray.read before { tray with children := [] } >>= fun t =>
        (fun components => { t with components }) <$>
          readComponents tray.tag (before.flatMap (·.components)) es := by
  simp only [read, Reading.bind_assoc']
  show Reading.mk _ _ = Reading.mk _ _
  simp only [Reading.value_bind, Reading.warnings_bind, Reading.value_pure, Reading.warnings_pure,
    Reading.value_map, Reading.warnings_map, readComponents, List.nil_append, List.append_nil]
  rfl

theorem Tray.read_around (tray : Element) (hbad : bad.tag ∉ Tag.accepted .tray)
    (before : List Tray) (xs ys : List Element) :
    let read (es : List Element) := Tray.read before { tray with children := es }
    Reading.Notes (.located bad.origin (.invalidTag tray.tag.spelling bad.name))
      (read xs).warnings (read (xs ++ ys)) (read (xs ++ bad :: ys)) := by
  simp only [read_eq before tray xs, read_eq before tray (xs ++ ys),
    read_eq before tray (xs ++ bad :: ys)]
  exact .after _ ((readComponents_around tray.tag hbad _ xs ys).map _)

/-- A block with an element in it that it does not accept. -/
theorem Config.declare_around {block : Element} (hblock : block.tag ∈ blocks)
    (hbad : bad.tag ∉ block.tag.accepted) (world : World) (parent : Tag) (c : Config)
    (xs ys : List Element) :
    let read (es : List Element) := c.declare world parent { block with children := es }
    Reading.Notes (misplaced block.tag bad) (read xs).warnings (read (xs ++ ys))
      (read (xs ++ bad :: ys)) := by
  obtain ⟨tag, text, attributes, children, origin⟩ := block
  simp only [blocks, List.mem_cons, List.not_mem_nil, or_false] at hblock
  rcases hblock with rfl | rfl | rfl | rfl | rfl | rfl | rfl | rfl | rfl | rfl
  iterate 8
    · have hread := (Style.read_around rfl hbad xs ys c.style).map fun s => { c with style := s }
      exact hread
  · have hread := (Group.readChildren_around .group hbad xs ys {}).map fun g =>
      { c with groups := c.groups ++ [g] }
    exact hread
  · have hread := (Tray.read_around ⟨.tray, text, attributes, children, origin⟩ hbad c.trays
      xs ys).map fun t => { c with trays := c.trays ++ [t] }
    exact hread

end Blocks

section Walks

variable {world : World} {includes : Includes} {bad : Element}

theorem walkElement_of_misplaced (hbad : bad.tag ∉ Tag.accepted .jwm) (parent : Tag)
    (c : Config) (history : List Call) :
    walkElement world includes parent bad c history =
      .ofWarning c bad (.invalidTag parent.spelling bad.name) := by
  have hne : ∀ tag ∈ Tag.accepted .jwm, bad.tag ≠ tag :=
    fun tag htag => (ne_of_mem_of_not_mem htag hbad).symm
  have hm := hne .rootMenu (by decide)
  have hi := hne .include (by decide)
  rw [walkElement_declaration hm hi]
  unfold Config.declare
  split
  case h_26 => rfl
  all_goals
    rename_i htag
    exact absurd htag (hne _ (by decide))

theorem itemOf_of_misplaced (hbad : bad.tag ∉ Tag.accepted .menu) (onInclude : MenuInclude)
    (level height : Nat) (history : List Call) :
    itemOf onInclude level height history bad =
      .ofWarning bad (.invalidTag Tag.menu.spelling bad.name) := by
  have hne : ∀ tag ∈ Tag.accepted .menu, bad.tag ≠ tag :=
    fun tag htag => (ne_of_mem_of_not_mem htag hbad).symm
  have hm := hne .menu (by decide)
  have hi := hne .include (by decide)
  have he := hne .exit (by decide)
  have hwindow : Menu.windowAction? bad.tag = none := by
    unfold Menu.windowAction?
    split
    case h_10 => rfl
    all_goals
      rename_i htag
      exact absurd htag (hne _ (by decide))
  have hleaf : Menu.leafItem bad = do
      Reading.invalidTag .menu bad
      return none := by
    unfold Menu.leafItem
    split
    case h_5 => simp only [hwindow]
    all_goals
      rename_i htag
      exact absurd htag (hne _ (by decide))
  rw [itemOf_leaf hi hm, hleaf, Menu.confirmation?, if_neg he]
  rfl

/-- The children of a top-level element, with one among them that is not accepted. -/
theorem walkElements_around (world : World) (includes : Includes)
    (hbad : bad.tag ∉ Tag.accepted .jwm) (parent : Tag) (xs ys : List Element) (c : Config)
    (history : List Call) :
    let walk (es : List Element) := walkElements world includes parent es c history
    Progress.Notes (.located bad.origin (.invalidTag parent.spelling bad.name)) (walk xs)
      (walk (xs ++ ys)) (walk (xs ++ bad :: ys)) := by
  have hskip : walkElements world includes parent (bad :: ys) = fun c h =>
      (Progress.ofWarning c bad (.invalidTag parent.spelling bad.name)).andThen h
        (walkElements world includes parent ys) := by
    funext c h
    rw [walkElements, walkElement_of_misplaced hbad]
  simp only [walkElements_append, hskip]
  exact Progress.notes_warn _ history bad _ _

/-- The top-level elements of a document, with one among them of a wrong tag. -/
theorem walkDocument_around (world : World) (includes : Includes) (hbad : bad.tag ≠ .jwm)
    (xs ys : List Element) (c : Config) (history : List Call) :
    let walk (es : List Element) := walkDocument world includes es c history
    Progress.Notes (.located bad.origin (.invalidStartTag bad.name)) (walk xs)
      (walk (xs ++ ys)) (walk (xs ++ bad :: ys)) := by
  have hskip : walkDocument world includes (bad :: ys) = fun c h =>
      (Progress.ofWarning c bad (.invalidStartTag bad.name)).andThen h
        (walkDocument world includes ys) := by
    funext c h
    rw [walkDocument]
    simp only [if_neg hbad]
  simp only [walkDocument_append, hskip]
  exact Progress.notes_warn _ history bad _ _

/-- The items of a menu, with an element among them that no menu accepts. -/
theorem itemsOf_around_misplaced (hbad : bad.tag ∉ Tag.accepted .menu) (onInclude : MenuInclude)
    (level height : Nat) (history : List Call) (xs ys : List Element) :
    let build (es : List Element) := itemsOf onInclude level height history es
    MenuYield.Notes (misplaced .menu bad) (build xs) (build (xs ++ ys))
      (build (xs ++ bad :: ys)) := by
  obtain ⟨later, hplain, hnoted⟩ := itemsOf_around
    (itemOf_of_misplaced hbad onInclude level height) history xs ys
  simp only [hnoted]
  exact ⟨rfl, calls_around hplain _ _, later, hplain, rfl⟩

end Walks

section Accepted

variable {tag : Tag}

/-- The accepted tags are those of which some element is not reported. -/
theorem Markup.Tag.mem_accepted_jwm_iff :
    tag ∈ accepted .jwm ↔ ∃ world includes e c history, e.tag = tag ∧
      misplaced .jwm e ∉
        (walkElement world includes .jwm e c history).journal.diagnostics := by
  constructor
  · intro h
    have hbare : ∀ tag ∈ accepted .jwm, misplaced .jwm (madeIn "" tag none) ∉
        (walkElement (.holding "" "") (includesAt (.holding "" "") ⟨"", 0⟩ 0 0) .jwm
          (madeIn "" tag none) {} []).journal.diagnostics := by decide
    exact ⟨_, _, madeIn "" tag none, {}, [], rfl, hbare tag h⟩
  · rintro ⟨world, includes, e, c, history, rfl, hnot⟩
    refine Decidable.byContradiction fun hbad => ?_
    rw [walkElement_of_misplaced hbad] at hnot
    exact hnot (List.mem_singleton_self _)

theorem Markup.Tag.mem_accepted_menu_iff :
    tag ∈ accepted .menu ↔ ∃ onInclude level height history e, e.tag = tag ∧
      misplaced .menu e ∉ (itemOf onInclude level height history e).journal.diagnostics := by
  constructor
  · intro h
    have hbare : ∀ tag ∈ accepted .menu, misplaced .menu (madeIn "" tag none) ∉
        (itemOf (fun _ _ _ _ => {}) 0 0 [] (madeIn "" tag none)).journal.diagnostics := by decide
    exact ⟨_, 0, 0, [], madeIn "" tag none, rfl, hbare tag h⟩
  · rintro ⟨onInclude, level, height, history, e, rfl, hnot⟩
    refine Decidable.byContradiction fun hbad => ?_
    rw [itemOf_of_misplaced hbad] at hnot
    exact hnot (List.mem_singleton_self _)

theorem Markup.Tag.mem_accepted_block_iff {parent : Tag} (hparent : parent ∈ blocks) :
    tag ∈ parent.accepted ↔ ∃ (world : World) (c : Config) (block e : Element),
      block.tag = parent ∧ e.tag = tag ∧ misplaced parent e ∉
        (c.declare world .jwm { block with children := [e] }).warnings := by
  constructor
  · intro h
    have hbare : ∀ parent ∈ blocks, ∀ tag ∈ parent.accepted,
        misplaced parent (madeIn "" tag none) ∉
          (Config.declare (.holding "" "") .jwm
            { madeIn "" parent none with children := [madeIn "" tag none] } {}).warnings := by
      decide
    exact ⟨_, {}, madeIn "" parent none, madeIn "" tag none, rfl, rfl, hbare parent hparent tag h⟩
  · rintro ⟨world, c, block, e, rfl, rfl, hnot⟩
    refine Decidable.byContradiction fun hbad => ?_
    obtain ⟨later, -, hread⟩ := Config.declare_around hparent hbad world .jwm c [] []
    simp only [List.nil_append] at hread
    rw [hread] at hnot
    exact hnot (List.mem_append_right _ List.mem_cons_self)

end Accepted

end DeskConfig
