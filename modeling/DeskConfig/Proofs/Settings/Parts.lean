import DeskConfig.Proofs.Settings.Declarations
import DeskConfig.Proofs.Settings.Tables

/-!
The parts of a configuration. The elements of a tag set a part of the configuration that
those of no other tag set, and together the parts are the whole of it. A declaration finds
and leaves its own part as if nothing else had been set, and it leaves the other parts as
they are.
-/

namespace DeskConfig

open Markup (Element Tag)

/-- What a choice falls back to does not show in its warnings. -/
theorem Reading.warnings_choiceAttribute (e : Element) (name what : String)
    (choose : String → Option α) (default default' : α) :
    (choiceAttribute e name what choose default).warnings =
      (choiceAttribute e name what choose default').warnings := by
  unfold choiceAttribute
  split
  · rfl
  · split <;> rfl

/-- The block that sets a font. -/
def FontRole.block : FontRole → Tag
  | border => .borderStyle
  | menu => .menuStyle
  | task => .taskListStyle
  | tray => .trayStyle
  | popup => .popupStyle
  | clock => .clockStyle
  | trayButton => .trayButtonStyle

/-- The block that sets a color. -/
def ColorRole.block : ColorRole → Tag
  | borderForeground | borderBackground | borderActiveForeground | borderActiveBackground =>
    .borderStyle
  | taskForeground | taskBackground | taskActiveForeground | taskActiveBackground =>
    .taskListStyle
  | trayForeground | trayBackground => .trayStyle
  | pagerOutline | pagerForeground | pagerBackground | pagerActiveForeground
  | pagerActiveBackground => .pagerStyle
  | menuForeground | menuBackground | menuActiveForeground | menuActiveBackground => .menuStyle
  | popupOutline | popupForeground | popupBackground => .popupStyle
  | clockForeground | clockBackground => .clockStyle
  | trayButtonForeground | trayButtonBackground => .trayButtonStyle

namespace Style

def Setting.block : Setting → Tag
  | font role => role.block
  | color role => role.block
  | borderWidth | titleHeight => .borderStyle

/-- What the blocks of a tag set of a style; the rest is as it is at the start. -/
def only (tag : Tag) (s : Style) : Style where
  fonts := s.fonts.filterKeys (·.block = tag)
  colors := s.colors.filterKeys (·.block = tag)
  border := if tag = .borderStyle then s.border else {}
  popup := if tag = .popupStyle then s.popup else {}
  taskInsert := if tag = .taskListStyle then s.taskInsert else .right

variable {s s' : Style} {tag : Tag}

/-- Whatever stands in a block belongs to it. -/
theorem block_eq_of_mem {settings : List (Tag × Setting)} (hblock : block? tag = some settings) :
    ∀ entry ∈ settings, entry.2.block = tag := by
  unfold block? at hblock
  split at hblock
  case h_9 => contradiction
  all_goals
    cases hblock
    decide

theorem block_eq_of_setting? {settings : List (Tag × Setting)} {inner : Tag} {setting : Setting}
    (hblock : block? tag = some settings) (h : setting? settings inner = some setting) :
    setting.block = tag := by
  obtain ⟨entry, hentry, rfl⟩ := Option.map_eq_some_iff.mp h
  exact block_eq_of_mem hblock entry (List.mem_of_find?_eq_some hentry)

theorem eq_of_only (h : ∀ tag, s.only tag = s'.only tag) : s = s' := by
  have hfonts : s.fonts = s'.fonts := by
    refine Table.ext_get? fun role => ?_
    have hrole := congrArg (·.fonts.get? role) (h role.block)
    simpa only [only, Table.get?_filterKeys, decide_true, if_true] using hrole
  have hcolors : s.colors = s'.colors := by
    refine Table.ext_get? fun role => ?_
    have hrole := congrArg (·.colors.get? role) (h role.block)
    simpa only [only, Table.get?_filterKeys, decide_true, if_true] using hrole
  have hborder : s.border = s'.border := congrArg (·.border) (h .borderStyle)
  have hpopup : s.popup = s'.popup := congrArg (·.popup) (h .popupStyle)
  have hinsert : s.taskInsert = s'.taskInsert := congrArg (·.taskInsert) (h .taskListStyle)
  cases s
  cases s'
  simp_all only

/-- A setting is applied to the part of its block. -/
theorem only_apply (s : Style) (e : Element) (setting : Setting) (tag : Tag) :
    (s.apply e setting).value.only tag =
      if setting.block = tag then ((s.only tag).apply e setting).value else s.only tag := by
  simp only [apply, Reading.value_bind, Reading.value_requiredText]
  cases e.text with
  | none => exact (ite_self _).symm
  | some value =>
    cases setting with
    | font role =>
      by_cases h : role.block = tag
      · simp [Setting.block, h, setFont, only, Table.filterKeys_insert_of_keep]
      · simp [Setting.block, h, setFont, only, Table.filterKeys_insert_of_drop]
    | color role =>
      by_cases h : role.block = tag
      · simp [Setting.block, h, setColor, only, Table.filterKeys_insert_of_keep]
      · simp [Setting.block, h, setColor, only, Table.filterKeys_insert_of_drop]
    | borderWidth => by_cases h : tag = .borderStyle <;> simp [Setting.block, h, only, eq_comm]
    | titleHeight => by_cases h : tag = .borderStyle <;> simp [Setting.block, h, only, eq_comm]

theorem warnings_apply (s s' : Style) (e : Element) (setting : Setting) :
    (s.apply e setting).warnings = (s'.apply e setting).warnings := by
  simp only [apply, Reading.warnings_bind, Reading.value_requiredText]
  cases e.text with
  | none => rfl
  | some value => cases setting <;> rfl

theorem only_applyAll {settings : List (Tag × Setting)} {block : Tag}
    (hblock : block? block = some settings) (es : List Element) (s : Style) (tag : Tag) :
    (applyAll block settings es s).value.only tag =
      if block = tag then (applyAll block settings es (s.only tag)).value else s.only tag := by
  induction es generalizing s with
  | nil => exact (ite_self _).symm
  | cons e es ih =>
    rw [applyAll, applyAll]
    cases hsetting : setting? settings e.tag with
    | none => exact ih s
    | some setting =>
      have happly := only_apply s e setting tag
      rw [block_eq_of_setting? hblock hsetting] at happly
      simp only [Reading.value_bind, ih, happly]
      by_cases h : block = tag
      · simp only [if_pos h]
      · simp only [if_neg h]

theorem warnings_applyAll (block : Tag) (settings : List (Tag × Setting)) (es : List Element)
    (s s' : Style) :
    (applyAll block settings es s).warnings = (applyAll block settings es s').warnings := by
  induction es generalizing s s' with
  | nil => rfl
  | cons e es ih =>
    rw [applyAll, applyAll]
    cases setting? settings e.tag with
    | none => simp only [Reading.warnings_bind, ih s s']
    | some setting =>
      simp only [Reading.warnings_bind, warnings_apply s s' e setting,
        ih (s.apply e setting).value (s'.apply e setting).value]

theorem only_readAttributes (e : Element) (s : Style) (tag : Tag) :
    (readAttributes e s).value.only tag =
      if e.tag = tag then (readAttributes e (s.only tag)).value else s.only tag := by
  unfold readAttributes
  split
  · next h =>
    by_cases ht : .taskListStyle = tag
    · subst ht
      simp [h, readTaskInsert, only]
    · simp [h, ht, Ne.symm ht, readTaskInsert, only]
  · next h =>
    by_cases ht : .popupStyle = tag
    · subst ht
      simp [h, readPopup, only]
    · simp [h, ht, Ne.symm ht, readPopup, only]
  · exact (ite_self _).symm

theorem warnings_readAttributes (e : Element) (s s' : Style) :
    (readAttributes e s).warnings = (readAttributes e s').warnings := by
  have hdelay : ∀ delay delay', (readDelay e delay).warnings = (readDelay e delay').warnings := by
    intro delay delay'
    unfold readDelay
    split <;> rfl
  unfold readAttributes
  split
  · simp only [readTaskInsert, Reading.warnings_bind,
      Reading.warnings_choiceAttribute e _ _ _ s.taskInsert s'.taskInsert, Reading.warnings_pure]
  · simp only [readPopup, Reading.warnings_bind,
      Reading.warnings_choiceAttribute e _ _ _ s.popup.enabled s'.popup.enabled,
      hdelay s.popup.delay s'.popup.delay, Reading.warnings_pure]
  · rfl

/-- A block is read as if there were no others, and the others do not see it. -/
theorem only_read (e : Element) (s : Style) (tag : Tag) :
    (read e s).value.only tag =
      if e.tag = tag then (read e (s.only tag)).value else s.only tag := by
  unfold read
  cases hblock : block? e.tag with
  | none => exact (ite_self _).symm
  | some settings =>
    simp only [Reading.value_bind, only_applyAll hblock, only_readAttributes]
    by_cases h : e.tag = tag
    · simp only [if_pos h]
    · simp only [if_neg h]

theorem warnings_read (e : Element) (s s' : Style) :
    (read e s).warnings = (read e s').warnings := by
  unfold read
  cases block? e.tag with
  | none => rfl
  | some settings =>
    simp only [Reading.warnings_bind, warnings_readAttributes e s s',
      warnings_applyAll e.tag settings e.children (readAttributes e s).value
        (readAttributes e s').value]

end Style

namespace Config

/-- What the elements of a tag set of a configuration; the rest is as it is at the start. -/
def only (tag : Tag) (c : Config) : Config where
  style := c.style.only tag
  desktops := if tag = .desktops then c.desktops else {}
  focusModel := if tag = .focusModel then c.focusModel else .sloppy
  snap := if tag = .snapMode then c.snap else {}
  moveMode := if tag = .moveMode then c.moveMode else {}
  resizeMode := if tag = .resizeMode then c.resizeMode else {}
  doubleClick := {
    speed := if tag = .doubleClickSpeed then c.doubleClick.speed else 400
    delta := if tag = .doubleClickDelta then c.doubleClick.delta else 2 }
  iconPaths := if tag = .iconPath then c.iconPaths else []
  themePaths := if tag = .themePath then c.themePaths else []
  theme := if tag = .theme then c.theme else none
  commands := {
    startup := if tag = .startupCommand then c.commands.startup else []
    restart := if tag = .restartCommand then c.commands.restart else []
    shutdown := if tag = .shutdownCommand then c.commands.shutdown else [] }
  rootMenus := if tag = .rootMenu then c.rootMenus else {}
  keys := if tag = .key then c.keys else []
  groups := if tag = .group then c.groups else []
  trays := if tag = .tray then c.trays else []
  confirmExit := if tag = .rootMenu then c.confirmExit else true

/-- The parts are the whole of a configuration. -/
theorem eq_of_only {c c' : Config} (h : ∀ tag, c.only tag = c'.only tag) : c = c' := by
  have hstyle : c.style = c'.style := Style.eq_of_only fun tag => congrArg (·.style) (h tag)
  have hspeed := congrArg (·.doubleClick.speed) (h .doubleClickSpeed)
  have hdelta := congrArg (·.doubleClick.delta) (h .doubleClickDelta)
  have hstartup := congrArg (·.commands.startup) (h .startupCommand)
  have hrestart := congrArg (·.commands.restart) (h .restartCommand)
  have hshutdown := congrArg (·.commands.shutdown) (h .shutdownCommand)
  have hclick : c.doubleClick = c'.doubleClick := DoubleClick.mk.injEq .. ▸ ⟨hspeed, hdelta⟩
  have hcommands : c.commands = c'.commands :=
    LifecycleCommands.mk.injEq .. ▸ ⟨hstartup, hrestart, hshutdown⟩
  have hdesktops : c.desktops = c'.desktops := congrArg (·.desktops) (h .desktops)
  have hfocus : c.focusModel = c'.focusModel := congrArg (·.focusModel) (h .focusModel)
  have hsnap : c.snap = c'.snap := congrArg (·.snap) (h .snapMode)
  have hmove : c.moveMode = c'.moveMode := congrArg (·.moveMode) (h .moveMode)
  have hresize : c.resizeMode = c'.resizeMode := congrArg (·.resizeMode) (h .resizeMode)
  have hicons : c.iconPaths = c'.iconPaths := congrArg (·.iconPaths) (h .iconPath)
  have hthemes : c.themePaths = c'.themePaths := congrArg (·.themePaths) (h .themePath)
  have htheme : c.theme = c'.theme := congrArg (·.theme) (h .theme)
  have hmenus : c.rootMenus = c'.rootMenus := congrArg (·.rootMenus) (h .rootMenu)
  have hkeys : c.keys = c'.keys := congrArg (·.keys) (h .key)
  have hgroups : c.groups = c'.groups := congrArg (·.groups) (h .group)
  have htrays : c.trays = c'.trays := congrArg (·.trays) (h .tray)
  have hconfirm : c.confirmExit = c'.confirmExit := congrArg (·.confirmExit) (h .rootMenu)
  cases c
  cases c'
  simp_all only

/-- A declaration finds and leaves the part of its tag as if there were nothing else, and
leaves the parts of the other tags. -/
theorem only_declare (world : World) (parent : Tag) (e : Element) (c : Config) (tag : Tag) :
    (c.declare world parent e).value.only tag =
      if e.tag = tag then ((c.only tag).declare world parent e).value else c.only tag := by
  have hstyle := Style.only_read e c.style tag
  by_cases ht : e.tag = tag
  · subst ht
    rw [if_pos rfl] at hstyle ⊢
    unfold declare
    split
    case h_26 => rfl
    all_goals
      rename_i htag
      simp only [htag] at hstyle ⊢
    -- The blocks of the style come first; any other tag sets a field of its own.
    iterate 8
      · simp only [Reading.value_bind, Reading.value_pure, only, hstyle, reduceCtorEq, if_false]
    all_goals rfl
  · rw [if_neg ht] at hstyle ⊢
    have hdeclares := declares world parent e c
    generalize (c.declare world parent e).value = c' at hdeclares
    cases hdeclares
    case nothing => rfl
    case style => simp only [only, hstyle]
    all_goals
      rename_i htag
      rw [htag] at ht
      simp only [only, if_neg (Ne.symm ht)]
    case clickSpeed | clickDelta => rfl

theorem warnings_declare (world : World) (parent : Tag) (e : Element) (c : Config) :
    (c.declare world parent e).warnings = ((c.only e.tag).declare world parent e).warnings := by
  have hstyle := fun tag => Style.warnings_read e c.style (c.only tag).style
  unfold declare
  split
  case h_26 => rfl
  all_goals
    rename_i htag
    simp only [htag]
  iterate 8
    · simp only [Reading.warnings_bind, Reading.warnings_pure, List.append_nil]
      exact hstyle _
  all_goals rfl

section Fields

variable (world : World) (parent : Tag) (e : Element) (c : Config)

/-- Elements that are no style block leave the style as it is. -/
theorem style_declare :
    (c.declare world parent e).value.style = (Style.read e c.style).value := by
  have hread : Style.block? e.tag = none → c.style = (Style.read e c.style).value := by
    intro hblock
    rw [Style.read, hblock]
    rfl
  unfold declare
  split
  iterate 8 rfl
  case h_26 =>
    refine hread ?_
    unfold Style.block?
    split <;> first | contradiction | rfl
  all_goals
    rename_i htag
    exact hread (by rw [htag]; rfl)

theorem keys_declare : (c.declare world parent e).value.keys =
    if e.tag = .key then c.keys ++ (KeyBinding.read e).value.toList else c.keys := by
  by_cases h : e.tag = .key
  · simp only [declare, h, if_true]
    rfl
  · have hpart := congrArg (·.keys) (only_declare world parent e c .key)
    simp only [if_neg h] at hpart ⊢
    exact hpart

theorem groups_declare : (c.declare world parent e).value.groups =
    if e.tag = .group then c.groups ++ [(Group.read e).value] else c.groups := by
  by_cases h : e.tag = .group
  · simp only [declare, h, if_true]
    rfl
  · have hpart := congrArg (·.groups) (only_declare world parent e c .group)
    simp only [if_neg h] at hpart ⊢
    exact hpart

theorem trays_declare : (c.declare world parent e).value.trays =
    if e.tag = .tray then c.trays ++ [(Tray.read c.trays e).value] else c.trays := by
  by_cases h : e.tag = .tray
  · simp only [declare, h, if_true]
    rfl
  · have hpart := congrArg (·.trays) (only_declare world parent e c .tray)
    simp only [if_neg h] at hpart ⊢
    exact hpart

theorem theme_declare : (c.declare world parent e).value.theme =
    if e.tag = .theme then e.text.or c.theme else c.theme := by
  by_cases h : e.tag = .theme
  · simp only [declare, h, if_true, Reading.value_bind, Reading.value_requiredText]
    rfl
  · have hpart := congrArg (·.theme) (only_declare world parent e c .theme)
    simp only [if_neg h] at hpart ⊢
    exact hpart

end Fields

end Config

end DeskConfig
