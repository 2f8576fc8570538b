import DeskConfig.Proofs.Markup.Trimming
import DeskConfig.Proofs.Settings.Declarations

/-!
The ranges of settings. Numbers are read against the range of their setting, and a bad
one leaves a setting as it was or takes a default that is in range itself. So every
declaration that is read from a document keeps the configuration within its ranges.
-/

namespace DeskConfig

open Markup (Element Tag)

namespace Reading

variable {e : Element} {what name value : String} {low high current : Nat}

theorem natural_mem {n : Nat} (h : (natural e what value low high).value = some n) :
    low ≤ n ∧ n ≤ high := by
  unfold natural at h
  split at h
  · rename_i m hm
    cases h
    simp only [Text.naturalIn?, Option.filter_eq_some_iff, Bool.and_eq_true,
      decide_eq_true_eq] at hm
    exact hm.2
  · contradiction

theorem getD_natural_mem (h : low ≤ current ∧ current ≤ high) :
    low ≤ (natural e what value low high).value.getD current ∧
      (natural e what value low high).value.getD current ≤ high := by
  cases hn : (natural e what value low high).value with
  | none => exact h
  | some n => exact natural_mem hn

theorem naturalAttribute_mem (h : low ≤ current ∧ current ≤ high) :
    low ≤ (naturalAttribute e name low high current).value ∧
      (naturalAttribute e name low high current).value ≤ high := by
  unfold naturalAttribute
  split
  · exact h
  · exact getD_natural_mem h

end Reading

namespace Style

def InRange (s : Style) : Prop :=
  (1 ≤ s.border.width ∧ s.border.width ≤ 32) ∧
    (2 ≤ s.border.titleHeight ∧ s.border.titleHeight ≤ 64)

variable {s : Style}

theorem apply_inRange (h : s.InRange) (e : Element) (setting : Setting) :
    (s.apply e setting).value.InRange := by
  obtain ⟨hwidth, hheight⟩ := h
  simp only [apply, Reading.value_bind, Reading.value_requiredText]
  cases e.text with
  | none => exact ⟨hwidth, hheight⟩
  | some value =>
    cases setting with
    | font role => exact ⟨hwidth, hheight⟩
    | color role => exact ⟨hwidth, hheight⟩
    | borderWidth => exact ⟨Reading.getD_natural_mem hwidth, hheight⟩
    | titleHeight => exact ⟨hwidth, Reading.getD_natural_mem hheight⟩

theorem applyAll_inRange (block : Tag) (settings : List (Tag × Setting)) (es : List Element)
    (h : s.InRange) : (applyAll block settings es s).value.InRange := by
  induction es generalizing s with
  | nil => exact h
  | cons e es ih =>
    rw [applyAll]
    split
    · exact ih (apply_inRange h e _)
    · exact ih h

/-- The attributes of a block say nothing about borders. -/
theorem border_readAttributes (e : Element) (s : Style) :
    (readAttributes e s).value.border = s.border := by
  unfold readAttributes
  split <;> rfl

theorem read_inRange (h : s.InRange) (e : Element) : (read e s).value.InRange := by
  unfold read
  split
  · exact h
  · refine applyAll_inRange _ _ _ ?_
    rw [InRange, border_readAttributes]
    exact h

end Style

namespace Desktops

structure InRange (d : Desktops) : Prop where
  count : 1 ≤ d.count ∧ d.count ≤ 8
  index_lt : ∀ entry ∈ d.names.entries, entry.1 < d.count
  trimmed : ∀ entry ∈ d.names.entries, Text.Trimmed entry.2.toList

variable {d : Desktops}

/-- Lowering the count takes the names of the desktops that go with it. -/
theorem setCount_inRange (h : d.InRange) {count : Nat} (hcount : 1 ≤ count ∧ count ≤ 8) :
    (d.setCount count).InRange where
  count := hcount
  index_lt := by
    intro entry hentry
    exact of_decide_eq_true (List.mem_filter.mp hentry).2
  trimmed := by
    intro entry hentry
    exact h.trimmed entry (List.mem_filter.mp hentry).1

theorem setName_inRange (h : d.InRange) {index : Nat} {name : String}
    (hindex : index < d.count) (hname : Text.Trimmed name.toList) :
    (d.setName index name).InRange where
  count := h.count
  index_lt := by
    intro entry hentry
    rcases Table.fst_mem_insertEntry hentry with rfl | hentry
    · exact hindex
    · exact h.index_lt entry hentry
  trimmed := by
    intro entry hentry
    rcases Table.fst_mem_insertEntry hentry with rfl | hentry
    · exact hname
    · exact h.trimmed entry hentry

theorem readNamesFrom_inRange (parent : Tag) (es : List Element)
    (hes : ∀ e ∈ es, e.HasTrimmedText) (index : Nat) (h : d.InRange) :
    (readNamesFrom parent index es d).value.InRange := by
  induction es generalizing index d with
  | nil => exact h
  | cons e es ih =>
    have hes' : ∀ e' ∈ es, e'.HasTrimmedText := fun e' he' => hes e' (List.mem_cons_of_mem _ he')
    rw [readNamesFrom]
    by_cases hfull : d.count ≤ index
    · rw [if_pos hfull]
      exact h
    rw [if_neg hfull]
    by_cases htag : e.tag = .name
    · rw [if_pos htag, Reading.value_bind, Reading.value_requiredText]
      cases htext : e.text with
      | none => exact ih hes' (index + 1) h
      | some name =>
        have hname := hes e List.mem_cons_self name htext
        exact ih hes' (index + 1) (setName_inRange h (Nat.not_le.mp hfull) hname)
    · rw [if_neg htag]
      exact ih hes' (index + 1) h

theorem read_inRange (h : d.InRange) {e : Element} (he : ∀ e' ∈ e.children, e'.HasTrimmedText) :
    (read e d).value.InRange := by
  have hcount : 1 ≤ (Reading.naturalAttribute e "count" 1 8 defaultCount).value ∧
      (Reading.naturalAttribute e "count" 1 8 defaultCount).value ≤ 8 :=
    Reading.naturalAttribute_mem (by decide)
  exact readNamesFrom_inRange e.tag e.children he 0 (setCount_inRange h hcount)

end Desktops

def Snap.InRange (s : Snap) : Prop := 1 ≤ s.distance ∧ s.distance ≤ 32

/-- A distance that is not given, or a bad one, is the default. -/
theorem Snap.read_inRange (e : Element) (s : Snap) : (Snap.read e s).value.InRange :=
  Reading.naturalAttribute_mem (by decide)

namespace DoubleClick

def InRange (d : DoubleClick) : Prop := (1 ≤ d.speed ∧ d.speed ≤ 2000) ∧ d.delta ≤ 32

variable {d : DoubleClick}

theorem getD_readNumber_mem {e : Element} {what : String} {low high current : Nat}
    (h : low ≤ current ∧ current ≤ high) :
    low ≤ (readNumber e what low high).value.getD current ∧
      (readNumber e what low high).value.getD current ≤ high := by
  rw [readNumber, Reading.value_bind, Reading.value_requiredText]
  cases e.text with
  | none => exact h
  | some value => exact Reading.getD_natural_mem h

theorem readSpeed_inRange (h : d.InRange) (e : Element) : (readSpeed e d).value.InRange :=
  ⟨getD_readNumber_mem h.1, h.2⟩

theorem readDelta_inRange (h : d.InRange) (e : Element) : (readDelta e d).value.InRange :=
  ⟨h.1, (getD_readNumber_mem ⟨Nat.zero_le _, h.2⟩).2⟩

end DoubleClick

/-- Something of the button can be seen. -/
def TrayButton.HasFace (b : TrayButton) : Prop := b.icon ≠ none ∨ b.label ≠ none

namespace Tray

structure InRange (t : Tray) : Prop where
  layer : t.layer ≤ 12
  border : t.border ≤ 32
  buttons : ∀ b ∈ t.buttons, b.HasFace

theorem hasFace_of_readButton {e : Element} {b : TrayButton}
    (h : (readButton e).value = some (.button b)) : b.HasFace := by
  unfold readButton at h
  by_cases hface : ((e.attribute? "icon").isNone && (e.attribute? "label").isNone) = true
  · simp only [hface, if_true] at h
    contradiction
  · simp only [hface] at h
    cases h
    simp only [Bool.and_eq_true, Option.isNone_iff_eq_none] at hface
    exact Decidable.not_and_iff_not_or_not.mp hface

theorem hasFace_of_readComponent {parent : Tag} {earlier : List TrayComponent} {e : Element}
    {b : TrayButton} (h : (readComponent parent earlier e).value = some (.button b)) :
    b.HasFace := by
  unfold readComponent at h
  split at h
  case h_4 => exact hasFace_of_readButton h
  case h_3 =>
    unfold readSwallow at h
    split at h
    · simp at h
    · split at h <;> simp at h
  case h_6 =>
    unfold readDock at h
    split at h <;> simp at h
  case h_2 =>
    unfold readTaskList at h
    split at h <;> simp at h
  all_goals simp [readClock] at h

theorem hasFace_of_mem_readComponents {parent : Tag} {earlier : List TrayComponent}
    {es : List Element} {b : TrayButton}
    (h : .button b ∈ (readComponents parent earlier es).value) : b.HasFace := by
  induction es generalizing earlier with
  | nil => contradiction
  | cons e es ih =>
    rw [readComponents] at h
    rcases List.mem_append.mp h with h | h
    · exact hasFace_of_readComponent (Option.mem_toList.mp h)
    · exact ih h

theorem read_inRange (before : List Tray) (e : Element) : (read before e).value.InRange where
  layer := (Reading.naturalAttribute_mem (by decide)).2
  border := (Reading.naturalAttribute_mem (by decide)).2
  buttons := by
    intro b hb
    obtain ⟨component, hmem, hbutton⟩ := List.mem_filterMap.mp hb
    cases component with
    | button b' =>
      cases hbutton
      exact hasFace_of_mem_readComponents hmem
    | _ => contradiction

end Tray

/-- All commands are trimmed. -/
structure LifecycleCommands.InRange (c : LifecycleCommands) : Prop where
  startup : ∀ command ∈ c.startup, Text.Trimmed command.toList
  restart : ∀ command ∈ c.restart, Text.Trimmed command.toList
  shutdown : ∀ command ∈ c.shutdown, Text.Trimmed command.toList

namespace Config

structure InRange (c : Config) : Prop where
  style : c.style.InRange
  desktops : c.desktops.InRange
  snap : c.snap.InRange
  doubleClick : c.doubleClick.InRange
  trays : ∀ t ∈ c.trays, t.InRange
  commands : c.commands.InRange

theorem inRange_default : ({} : Config).InRange where
  style := ⟨by decide, by decide⟩
  desktops := ⟨by decide, fun _ hentry => (nomatch hentry), fun _ hentry => nomatch hentry⟩
  snap := ⟨by decide, by decide⟩
  doubleClick := ⟨⟨by decide, by decide⟩, by decide⟩
  trays := fun _ hmem => nomatch hmem
  commands :=
    ⟨fun _ hmem => (nomatch hmem), fun _ hmem => (nomatch hmem), fun _ hmem => nomatch hmem⟩

/-- Menus have no ranges. -/
theorem InRange.of_menus {c : Config} (h : c.InRange) (menus : RootMenus) (confirm : Bool) :
    InRange { c with rootMenus := menus, confirmExit := confirm } :=
  ⟨h.style, h.desktops, h.snap, h.doubleClick, h.trays, h.commands⟩

theorem InRange.of_keys {c : Config} (h : c.InRange) (keys : List KeyBinding) :
    InRange { c with keys } :=
  ⟨h.style, h.desktops, h.snap, h.doubleClick, h.trays, h.commands⟩

theorem trimmed_of_mem_extend {entries : List String} {e : Element}
    (hentries : ∀ entry ∈ entries, Text.Trimmed entry.toList) (he : e.HasTrimmedText) :
    ∀ entry ∈ extend entries e.text, Text.Trimmed entry.toList := by
  intro entry hentry
  rcases List.mem_append.mp hentry with hentry | hentry
  · exact hentries entry hentry
  · exact he entry (Option.mem_toList.mp hentry)

/-- A declaration of trimmed texts keeps the configuration within its ranges. -/
theorem declare_inRange {c : Config} (h : c.InRange) (world : World) (parent : Tag)
    {e : Element} (he : e.HasTrimmedText) (hchildren : ∀ e' ∈ e.children, e'.HasTrimmedText) :
    (c.declare world parent e).value.InRange := by
  have hdeclares := declares world parent e c
  generalize (c.declare world parent e).value = c' at hdeclares
  cases hdeclares with
  | style => exact { h with style := Style.read_inRange h.style e }
  | desktops => exact { h with desktops := Desktops.read_inRange h.desktops hchildren }
  | clickSpeed => exact { h with doubleClick := DoubleClick.readSpeed_inRange h.doubleClick e }
  | clickDelta => exact { h with doubleClick := DoubleClick.readDelta_inRange h.doubleClick e }
  | snap => exact { h with snap := Snap.read_inRange e c.snap }
  | tray =>
    refine { h with trays := ?_ }
    intro t ht
    rcases List.mem_append.mp ht with ht | ht
    · exact h.trays t ht
    · rw [List.mem_singleton.mp ht]
      exact Tray.read_inRange c.trays e
  | startup =>
    have hstartup := trimmed_of_mem_extend h.commands.startup he
    exact { h with commands := { h.commands with startup := hstartup } }
  | restart =>
    have hrestart := trimmed_of_mem_extend h.commands.restart he
    exact { h with commands := { h.commands with restart := hrestart } }
  | shutdown =>
    have hshutdown := trimmed_of_mem_extend h.commands.shutdown he
    exact { h with commands := { h.commands with shutdown := hshutdown } }
  | _ => exact { h with }

end Config

end DeskConfig
