import DeskConfig.Proofs.Menus.Binding
import DeskConfig.Proofs.Settings.Keys
import DeskConfig.Proofs.Settings.Warnings

/-!
References to root menus. Key bindings and tray buttons name root menus by a text of slots,
one character for each. The checks at the end of a load find the first character that is no
bound slot, whoever refers to it, and they warn of nothing else about root menus.
-/

namespace DeskConfig

namespace RootMenus

/-- The character is the digit of a slot that some menu is bound to. -/
def Binds (menus : RootMenus) (c : Char) : Prop :=
  ∃ slot ≤ 9, c = Nat.digitChar slot ∧ ∃ r ∈ menus.entries, slot ∈ r.slots

/-- What is wrong with a text of slots: that there are none, or the first one that is not
bound. -/
inductive Misses (menus : RootMenus) : String → MissingMenu → Prop
  | noneGiven : menus.Misses "" .noneGiven
  | undefined {slots : String} {before after : List Char} {c : Char} :
      slots.toList = before ++ c :: after → (∀ c' ∈ before, menus.Binds c') → ¬ menus.Binds c →
      menus.Misses slots (.undefined c)

theorem isDefined_iff {menus : RootMenus} {slot : Nat} :
    menus.isDefined slot = true ↔ ∃ r ∈ menus.entries, slot ∈ r.slots := by
  simp [isDefined, get?, List.find?_isSome]

theorem binds_iff {menus : RootMenus} {c : Char} :
    menus.Binds c ↔ (Text.digit? c).any menus.isDefined = true := by
  rw [Option.any_eq_true]
  constructor
  · rintro ⟨slot, hslot, hc, hbound⟩
    exact ⟨slot, Text.digit?_eq_some_iff.mpr ⟨hslot, hc⟩, isDefined_iff.mpr hbound⟩
  · rintro ⟨slot, hdigit, hdefined⟩
    obtain ⟨hslot, hc⟩ := Text.digit?_eq_some_iff.mp hdigit
    exact ⟨slot, hslot, hc, isDefined_iff.mp hdefined⟩

end RootMenus

/-- The check finds out what is wrong with a text of slots. -/
theorem missingMenu?_eq_some_iff {menus : RootMenus} {slots : String} {cause : MissingMenu} :
    missingMenu? menus slots = some cause ↔ menus.Misses slots cause := by
  unfold missingMenu?
  by_cases hempty : slots.isEmpty = true
  · rw [if_pos hempty]
    rw [String.isEmpty_iff] at hempty
    subst hempty
    constructor
    · rintro ⟨⟩
      exact .noneGiven
    · intro h
      cases h with
      | noneGiven => rfl
      | undefined hslots => simp at hslots
  · rw [if_neg hempty, Option.map_eq_some_iff]
    simp only [List.find?_eq_some_iff_append, Bool.not_eq_true', Bool.not_not,
      ← Bool.not_eq_true, ← RootMenus.binds_iff]
    constructor
    · rintro ⟨c, ⟨hc, before, after, hslots, hbefore⟩, rfl⟩
      exact .undefined hslots hbefore hc
    · intro h
      cases h with
      | noneGiven => exact absurd rfl hempty
      | undefined hslots hbefore hc => exact ⟨_, ⟨hc, _, _, hslots, hbefore⟩, rfl⟩

/-- Something is wrong with a text of slots if it is empty or has a character that is not
bound. -/
theorem RootMenus.exists_misses_iff {menus : RootMenus} {slots : String} :
    (∃ cause, menus.Misses slots cause) ↔ slots = "" ∨ ∃ c ∈ slots.toList, ¬ menus.Binds c := by
  constructor
  · rintro ⟨cause, h⟩
    cases h with
    | noneGiven => exact .inl rfl
    | undefined hslots _ hc => exact .inr ⟨_, by simp [hslots], hc⟩
  · rintro (rfl | ⟨c, hmem, hc⟩)
    · exact ⟨_, .noneGiven⟩
    cases hcause : missingMenu? menus slots with
    | some cause => exact ⟨cause, missingMenu?_eq_some_iff.mp hcause⟩
    | none =>
      unfold missingMenu? at hcause
      split at hcause
      · contradiction
      · rw [Option.map_eq_none_iff, List.find?_eq_none] at hcause
        rw [binds_iff] at hc
        exact absurd (by simpa using hc) (hcause c hmem)

/-- A reference to root menus: who makes it, and where. -/
structure MenuReference where
  referrer : Referrer
  slots : String
  origin : Markup.Origin

/-- What is reported of a reference. -/
def MenuReference.warning? (menus : RootMenus) (r : MenuReference) : Option Diagnostic :=
  (missingMenu? menus r.slots).map fun cause =>
    .located r.origin (.missingMenu r.referrer cause)

theorem MenuReference.warning?_eq_some_iff {menus : RootMenus} {r : MenuReference}
    {d : Diagnostic} : r.warning? menus = some d ↔
      ∃ cause, menus.Misses r.slots cause ∧
        d = .located r.origin (.missingMenu r.referrer cause) := by
  simp only [warning?, Option.map_eq_some_iff, missingMenu?_eq_some_iff, @eq_comm _ d]

theorem MenuReference.filter_warning? (menus : RootMenus) (r : MenuReference) :
    (r.warning? menus).toList.filter (·.problem.isMenuReference) = (r.warning? menus).toList := by
  unfold warning?
  cases missingMenu? menus r.slots <;> rfl

theorem KeyAction.Names.exists_slots {text : String} {command : Option String}
    (h : Names text .root command) : ∃ slots, command = some slots := by
  cases h with
  | root slots => exact ⟨slots, rfl⟩
  | word hword => simp [words] at hword

namespace KeyBinding

def menuReference? (b : KeyBinding) : Option MenuReference :=
  if b.action = .root then some ⟨.keyBinding, b.command.getD "", b.origin⟩ else none

/-- A binding for root menus has the slots that its element names. -/
theorem Of.menuReference?_eq_some_iff {e : Markup.Element} {b : KeyBinding} (h : Of e b)
    {r : MenuReference} : b.menuReference? = some r ↔ b.action = .root ∧
      ∃ slots, b.command = some slots ∧ r = ⟨.keyBinding, slots, b.origin⟩ := by
  obtain ⟨text, -, hnames⟩ := h.names
  unfold menuReference?
  by_cases haction : b.action = .root
  · rw [haction] at hnames
    obtain ⟨slots, hslots⟩ := hnames.exists_slots
    simp [haction, hslots, eq_comm]
  · simp [haction]

theorem toList_missingMenu? (menus : RootMenus) (b : KeyBinding) :
    (b.missingMenu? menus).toList.map (Diagnostic.located b.origin) =
      (b.menuReference?.bind (·.warning? menus)).toList := by
  unfold missingMenu? menuReference?
  split
  · rw [Option.bind_some, MenuReference.warning?]
    cases DeskConfig.missingMenu? menus (b.command.getD "") <;> rfl
  · rfl

theorem isMenuReference_of_flaw? {b : KeyBinding} {flaw : Problem} (h : b.flaw? = some flaw) :
    flaw.isMenuReference = false := by
  unfold flaw? at h
  split at h <;> split at h <;> cases h <;> rfl

/-- Among the warnings of a check, the one about root menus is about a binding that is kept. -/
theorem filter_warnings_check (menus : RootMenus) (b : KeyBinding) :
    (check menus b).warnings.filter (·.problem.isMenuReference) =
      ((check menus b).value.bind menuReference?).toList.flatMap
        fun r => (r.warning? menus).toList := by
  unfold check
  cases hflaw : b.flaw? with
  | some flaw =>
    have hproblem := isMenuReference_of_flaw? hflaw
    simp [Diagnostic.located, hproblem]
  | none =>
    have hmodifiers : (b.badModifiers.map (Diagnostic.located b.origin)).filter
        (·.problem.isMenuReference) = [] := by
      refine List.filter_eq_nil_iff.mpr fun d hd => ?_
      obtain ⟨problem, hproblem, rfl⟩ := List.mem_map.mp hd
      obtain ⟨c, -, rfl⟩ := List.mem_map.mp hproblem
      exact Bool.false_ne_true
    rw [List.map_append, List.filter_append, hmodifiers, toList_missingMenu?, List.nil_append,
      Option.bind_some]
    cases b.menuReference? with
    | none => rfl
    | some r => simpa using r.filter_warning? menus

theorem filter_warnings_checkAll (menus : RootMenus) (bs : List KeyBinding) :
    (checkAll menus bs).warnings.filter (·.problem.isMenuReference) =
      ((checkAll menus bs).value.filterMap menuReference?).filterMap (·.warning? menus) := by
  induction bs with
  | nil => rfl
  | cons b bs ih =>
    have hfirst := filter_warnings_check menus b
    simp only [checkAll, Reading.warnings_bind, Reading.value_bind, Reading.warnings_pure,
      Reading.value_pure, List.append_nil, List.filter_append, List.filterMap_append, ih, hfirst]
    congr 1
    cases (check menus b).value with
    | none => rfl
    | some kept => cases hr : kept.menuReference? <;> simp [hr, List.filterMap_eq_flatMap_toList]

end KeyBinding

namespace TrayButton

def menuReference? (b : TrayButton) : Option MenuReference := do
  let action ← b.action
  let slots ← Environment.after? KeyAction.rootMark.toList action.toList
  return ⟨.trayButton, String.ofList slots, b.origin⟩

theorem menuReference?_eq_some_iff {b : TrayButton} {r : MenuReference} :
    b.menuReference? = some r ↔ ∃ slots, b.action = some (KeyAction.rootMark ++ slots) ∧
      r = ⟨.trayButton, slots, b.origin⟩ := by
  simp only [menuReference?, Option.bind_eq_bind, Option.bind_eq_some_iff, KeyAction.after?_toList]
  constructor
  · rintro ⟨action, haction, slots, rfl, ⟨⟩⟩
    exact ⟨String.ofList slots, haction, rfl⟩
  · rintro ⟨slots, haction, rfl⟩
    refine ⟨_, haction, slots.toList, ?_, ?_⟩
    · rw [String.ofList_toList]
    · rw [String.ofList_toList]
      rfl

theorem missingMenu?_eq (menus : RootMenus) (b : TrayButton) :
    b.missingMenu? menus = b.menuReference?.bind (·.warning? menus) := by
  unfold missingMenu? menuReference?
  cases b.action with
  | none => rfl
  | some action =>
    simp only [Option.bind_eq_bind, Option.bind_some]
    cases Environment.after? KeyAction.rootMark.toList action.toList with
    | none => rfl
    | some slots =>
      exact Option.map_eq_bind.symm

end TrayButton

/-- The references to root menus in a configuration, tray buttons first. -/
def Config.menuReferences (c : Config) : List MenuReference :=
  (c.trays.flatMap Tray.buttons).filterMap TrayButton.menuReference? ++
    c.keys.filterMap KeyBinding.menuReference?

end DeskConfig
