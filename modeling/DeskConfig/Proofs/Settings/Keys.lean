import DeskConfig.Proofs.Text.Numerals
import DeskConfig.Validation

/-!
Key elements and their bindings. The text of a key element has to name an action, and the
element has to tell a key; one that does both has one binding, and one that does not has one
problem, which is found out when it is read or when the load ends.
-/

namespace DeskConfig

open Markup (Element)

theorem Environment.after?_eq_some_iff {start cs rest : List Char} :
    after? start cs = some rest ↔ cs = start ++ rest := by
  induction start generalizing cs with
  | nil => simp [after?, eq_comm]
  | cons s ss ih =>
    cases cs with
    | nil => simp [after?]
    | cons c cs =>
      by_cases hc : s = c
      · simp [after?, hc, ih]
      · simp [after?, hc, Ne.symm hc]

namespace KeyAction

/-- The actions that have a name of their own. -/
def words : List (String × KeyAction) := [
  ("up", .up), ("down", .down), ("right", .right), ("left", .left), ("escape", .escape),
  ("select", .select), ("next", .next), ("nextstacked", .nextStacked), ("close", .close),
  ("minimize", .minimize), ("maximize", .maximize), ("shade", .shade), ("move", .move),
  ("resize", .resize), ("window", .window), ("restart", .restart), ("exit", .exit),
  ("desktop", .desktop none), ("desktop#", .desktop none)]

/-- The texts that name an action, with what follows the mark of a command or a root menu. -/
inductive Names : String → KeyAction → Option String → Prop
  | exec (command : String) : Names ("exec:" ++ command) .exec (some command)
  | root (slots : String) : Names ("root:" ++ slots) .root (some slots)
  | word {text action} : (text, action) ∈ words → Names text action none
  | desktop {number : String} {n : Nat} : Text.Numeral number.toList n → n ≤ Text.maxWord →
      Names ("desktop#" ++ number) (.desktop (some n)) none

theorem ofWord?_eq_some_iff {text : String} {action : KeyAction} :
    ofWord? text = some action ↔ (text, action) ∈ words := by
  constructor
  · intro h
    unfold ofWord? at h
    split at h
    case h_20 => contradiction
    all_goals
      cases h
      decide
  · intro h
    have hall : ∀ entry ∈ words, ofWord? entry.1 = some entry.2 := by decide
    exact hall _ h

theorem after?_toList {mark text : String} {cs : List Char} :
    Environment.after? mark.toList text.toList = some cs ↔ text = mark ++ String.ofList cs := by
  rw [Environment.after?_eq_some_iff, ← String.toList_inj, String.toList_append,
    String.toList_ofList]

/-- A numbered desktop is none of the words. -/
theorem ofWord?_desktop {number : String} {n : Nat} (h : Text.Numeral number.toList n) :
    ofWord? ("desktop#" ++ number) = none := by
  have hnumber : number.toList ≠ [] := by
    obtain ⟨ds, hds | hds, hne, -, -⟩ := h
    · exact hds ▸ hne
    · simp [hds]
  refine Option.eq_none_iff_forall_ne_some.mpr fun action hword => hnumber ?_
  have hwords : ∀ entry ∈ words, ∀ rest ∈ Environment.after? desktopMark.toList entry.1.toList,
      rest = [] := by decide
  refine hwords _ (ofWord?_eq_some_iff.mp hword) _ (after?_toList.mpr ?_)
  rw [String.ofList_toList]
  rfl

/-- A text that starts with one mark does not start with a mark of another letter. -/
theorem after?_of_ne (mark mark' : String) {c c' : Char} {cs cs' : List Char}
    (h : mark.toList = c :: cs) (h' : mark'.toList = c' :: cs') (hne : c' ≠ c) (rest : String) :
    Environment.after? mark'.toList (mark ++ rest).toList = none := by
  simp [String.toList_append, h, h', Environment.after?, hne]

/-- An action is found in exactly the texts that name it. -/
theorem ofText?_eq_some_iff {text : String} {action : KeyAction} {command : Option String} :
    ofText? text = some (action, command) ↔ Names text action command := by
  constructor
  · intro h
    unfold ofText? at h
    split at h
    · next cs hexec =>
      cases h
      exact after?_toList.mp hexec ▸ .exec _
    split at h
    · next cs hroot =>
      cases h
      exact after?_toList.mp hroot ▸ .root _
    split at h
    · next hword =>
      cases h
      exact .word (ofWord?_eq_some_iff.mp hword)
    · obtain ⟨number, hnumber, n, hn, hresult⟩ :
          ∃ number, Environment.after? desktopMark.toList text.toList = some number ∧
            ∃ n, Text.naturalIn? 0 Text.maxWord number = some n ∧
              (KeyAction.desktop (some n), none) = (action, command) := by
        simpa [Option.bind_eq_some_iff] using h
      cases hresult
      obtain ⟨hnumeral, -, hmax⟩ := Text.naturalIn?_eq_some_iff.mp hn
      rw [after?_toList.mp hnumber]
      exact .desktop (by rwa [String.toList_ofList]) hmax
  · have hafter : ∀ mark rest : String,
        Environment.after? mark.toList (mark ++ rest).toList = some rest.toList :=
      fun mark rest => after?_toList.mpr (by rw [String.ofList_toList])
    intro h
    cases h with
    | exec command =>
      have hexec := hafter Source.execMark command
      simp only [Source.execMark] at hexec
      simp only [ofText?, Source.execMark, hexec, String.ofList_toList]
    | root slots =>
      have hexec := after?_of_ne "root:" Source.execMark rfl rfl (by decide) slots
      have hroot := hafter rootMark slots
      simp only [rootMark] at hroot
      simp only [ofText?, hexec, rootMark, hroot, String.ofList_toList]
    | word hword =>
      have hwords : ∀ entry ∈ words, ofText? entry.1 = some (entry.2, none) := by decide
      exact hwords _ hword
    | @desktop number n hnumeral hmax =>
      -- Marks and words are tried first, and none of them is found in such a text.
      have hexec := after?_of_ne "desktop#" Source.execMark rfl rfl (by decide) number
      have hroot := after?_of_ne "desktop#" rootMark rfl rfl (by decide) number
      have hdesktop := hafter desktopMark number
      simp only [desktopMark] at hdesktop
      have hn := Text.naturalIn?_eq_some_iff.mpr ⟨hnumeral, Nat.zero_le n, hmax⟩
      simp only [ofText?, hexec, hroot, ofWord?_desktop hnumeral, desktopMark, hdesktop,
        Option.bind_eq_bind, Option.bind_some, hn]
      rfl

end KeyAction

namespace KeyBinding

/-- A key element and its binding: its text names the action, the binding has the first
attributes of the element, and it tells a key by its name or by a number. -/
structure Of (e : Element) (b : KeyBinding) : Prop where
  names : ∃ text, e.text = some text ∧ KeyAction.Names text b.action b.command
  mask : b.mask = e.attribute? "mask"
  key : b.key = e.attribute? "key"
  keycode : b.keycode = e.attribute? "keycode"
  origin : b.origin = e.origin
  keyed : b.key ≠ none ∨ b.keycode ≠ none
  numeric : ∀ code, b.keycode = some code →
    ∃ n, Text.Numeral (Text.trim code.toList) n ∧ n ≤ Text.maxWord

/-- The binding of a key element, if it has one. -/
def of? (e : Element) : Option KeyBinding := (read e).value.filter (·.flaw?.isNone)

theorem flaw?_eq_none_iff {b : KeyBinding} :
    b.flaw? = none ↔ (b.key ≠ none ∨ b.keycode ≠ none) ∧ ∀ code, b.keycode = some code →
      ∃ n, Text.Numeral (Text.trim code.toList) n ∧ n ≤ Text.maxWord := by
  unfold flaw?
  cases b.keycode with
  | none =>
    cases b.key <;> simp
  | some code =>
    have hnumeral : (Text.naturalIn? 0 Text.maxWord (Text.trim code.toList)).isNone = false ↔
        ∃ n, Text.Numeral (Text.trim code.toList) n ∧ n ≤ Text.maxWord := by
      rw [Option.isNone_eq_false_iff, Option.isSome_iff_exists]
      simp only [Text.naturalIn?_eq_some_iff, Nat.zero_le, true_and]
    simp only [ite_eq_right_iff, reduceCtorEq, imp_false, Bool.not_eq_true, hnumeral]
    simp

theorem value_read_eq_some_iff {e : Element} {b : KeyBinding} :
    (read e).value = some b ↔
      (∃ text, e.text = some text ∧ KeyAction.Names text b.action b.command) ∧
        b.mask = e.attribute? "mask" ∧ b.key = e.attribute? "key" ∧
        b.keycode = e.attribute? "keycode" ∧ b.origin = e.origin := by
  unfold read
  cases htext : e.text with
  | none => simp
  | some text =>
    simp only [Option.some.injEq, exists_eq_left', ← KeyAction.ofText?_eq_some_iff]
    cases htaken : KeyAction.ofText? text with
    | none => simp
    | some taken =>
      obtain ⟨action, command⟩ := taken
      obtain ⟨action', mask, key, keycode, command', origin⟩ := b
      simp only [Reading.value_pure, Option.some.injEq, KeyBinding.mk.injEq, Prod.mk.injEq]
      tauto

/-- An element has exactly the binding that it is said to have. -/
theorem of?_eq_some_iff {e : Element} {b : KeyBinding} : of? e = some b ↔ Of e b := by
  rw [of?, Option.filter_eq_some_iff, value_read_eq_some_iff, Option.isNone_iff_eq_none,
    flaw?_eq_none_iff]
  constructor
  · rintro ⟨⟨hnames, hmask, hkey, hkeycode, horigin⟩, hkeyed, hnumeric⟩
    exact ⟨hnames, hmask, hkey, hkeycode, horigin, hkeyed, hnumeric⟩
  · rintro ⟨hnames, hmask, hkey, hkeycode, horigin, hkeyed, hnumeric⟩
    exact ⟨⟨hnames, hmask, hkey, hkeycode, horigin⟩, hkeyed, hnumeric⟩

/-- Why a key element has no binding. -/
inductive Lacks (e : Element) : Problem → Prop
  | text : e.text = none → Lacks e .missingAction
  | action {text} : e.text = some text → (∀ action command, ¬ KeyAction.Names text action command) →
      Lacks e (.invalidValue "Key action" text)
  | key {text action command} : e.text = some text → KeyAction.Names text action command →
      e.attribute? "key" = none → e.attribute? "keycode" = none → Lacks e .keyless
  | number {text action command code} : e.text = some text →
      KeyAction.Names text action command → e.attribute? "keycode" = some code →
      (∀ n, Text.Numeral (Text.trim code.toList) n → Text.maxWord < n) →
      Lacks e (.invalidValue "keycode" code)

theorem value_check (menus : RootMenus) (b : KeyBinding) :
    (check menus b).value = if b.flaw?.isNone then some b else none := by
  unfold check
  cases b.flaw? <;> rfl

theorem value_checkAll (menus : RootMenus) (bs : List KeyBinding) :
    (checkAll menus bs).value = bs.filter (·.flaw?.isNone) := by
  induction bs with
  | nil => rfl
  | cons b bs ih =>
    simp only [checkAll, Reading.value_bind, Reading.value_pure, ih, value_check,
      List.filter_cons]
    split <;> rfl

theorem warnings_checkAll (menus : RootMenus) (bs : List KeyBinding) :
    (checkAll menus bs).warnings = bs.flatMap fun b => (check menus b).warnings := by
  induction bs with
  | nil => rfl
  | cons b bs ih => simp [checkAll, ih]

/-- What is reported of a key element at the end of the load. -/
def checked (menus : RootMenus) (e : Element) : List Diagnostic :=
  (read e).value.toList.flatMap fun b => (check menus b).warnings

theorem warnings_check_of_flaw (menus : RootMenus) {b : KeyBinding} {flaw : Problem}
    (h : b.flaw? = some flaw) : (check menus b).warnings = [.located b.origin flaw] := by
  unfold check
  rw [h]

/-- What is wrong with a binding is something that its element lacks. -/
theorem lacks_of_flaw {e : Element} {b : KeyBinding} {flaw : Problem}
    (hread : (read e).value = some b) (h : b.flaw? = some flaw) : Lacks e flaw := by
  obtain ⟨⟨text, htext, hnames⟩, -, hkey, hkeycode, -⟩ := value_read_eq_some_iff.mp hread
  unfold flaw? at h
  split at h
  · next hcode =>
    cases hb : b.key with
    | none =>
      simp only [hb, Option.isNone_none, if_true, Option.some.injEq] at h
      subst h
      exact .key htext hnames (hkey ▸ hb) (hkeycode ▸ hcode)
    | some key => simp [hb] at h
  · next code hcode =>
    split at h
    · next hnumber =>
      cases h
      refine .number htext hnames (hkeycode ▸ hcode) fun n hn => ?_
      refine Nat.lt_of_not_le fun hmax => ?_
      rw [Text.naturalIn?_eq_some_iff.mpr ⟨hn, Nat.zero_le n, hmax⟩] at hnumber
      contradiction
    · contradiction

theorem warnings_read_of_some {e : Element} {b : KeyBinding} (h : (read e).value = some b) :
    (read e).warnings = [] := by
  obtain ⟨⟨text, htext, hnames⟩, -⟩ := value_read_eq_some_iff.mp h
  have hfound := KeyAction.ofText?_eq_some_iff.mpr hnames
  simp only [read, htext, hfound, Reading.warnings_pure]

theorem warnings_read_of_none {e : Element} (h : (read e).value = none) :
    ∃ problem, Lacks e problem ∧ (read e).warnings = [.located e.origin problem] := by
  unfold read at h ⊢
  cases htext : e.text with
  | none => exact ⟨_, .text htext, rfl⟩
  | some text =>
    rw [htext] at h
    cases htaken : KeyAction.ofText? text with
    | none =>
      refine ⟨_, .action htext fun action command hnames => ?_, ?_⟩
      · rw [KeyAction.ofText?_eq_some_iff.mpr hnames] at htaken
        contradiction
      · simp only [htaken]
        rfl
    | some taken => simp [htaken] at h

/-- An element without a binding is reported once, for what it lacks. -/
theorem reported_once {e : Element} (h : of? e = none) (menus : RootMenus) :
    ∃ problem, Lacks e problem ∧
      (read e).warnings ++ checked menus e = [.located e.origin problem] := by
  cases hread : (read e).value with
  | none =>
    obtain ⟨problem, hlacks, hwarnings⟩ := warnings_read_of_none hread
    exact ⟨problem, hlacks, by simp [checked, hread, hwarnings]⟩
  | some b =>
    have hflaw : b.flaw? ≠ none := by
      rw [of?, hread] at h
      simpa [Option.filter] using h
    obtain ⟨flaw, hflaw⟩ := Option.ne_none_iff_exists'.mp hflaw
    have horigin := (value_read_eq_some_iff.mp hread).2.2.2.2
    refine ⟨flaw, lacks_of_flaw hread hflaw, ?_⟩
    simp [checked, hread, warnings_read_of_some hread, warnings_check_of_flaw menus hflaw, horigin]

/-- What is reported of an element with a binding is how the binding is used, not that it is
dropped. -/
theorem reported_of_binding {e : Element} {b : KeyBinding} (h : Of e b) (menus : RootMenus) :
    (read e).warnings = [] ∧ checked menus e =
      (b.badModifiers ++ (b.missingMenu? menus).toList).map (.located e.origin) := by
  have hread : (read e).value = some b :=
    value_read_eq_some_iff.mpr ⟨h.names, h.mask, h.key, h.keycode, h.origin⟩
  have hflaw := flaw?_eq_none_iff.mpr ⟨h.keyed, h.numeric⟩
  refine ⟨warnings_read_of_some hread, ?_⟩
  simp [checked, hread, check, hflaw, h.origin]

end KeyBinding

end DeskConfig
