import DeskConfig.Proofs.Include.TextFiles
import DeskConfig.Proofs.Settings.Declarations
import DeskConfig.Proofs.Settings.Numbers
import DeskConfig.Proofs.Settings.Tables

/-!
Desktops and their names. An element says how many desktops there are, and each of its children
stands for the desktop in its place: a name with a text renames that desktop, and anything else
is reported and leaves the desktop its name. There are as many names as desktops at most, so
children past the last desktop stand for nothing, and names from before go with their desktops.
-/

namespace DeskConfig

open Markup (Element Tag)

namespace Desktops

/-- The number of desktops that an element asks for. -/
def countOf (e : Element) : Nat := (Reading.declared? e "count" 1 8).getD defaultCount

/-- The name that a child gives to the desktop in its place. -/
def givenName? (child : Element) : Option String :=
  if child.tag = .name then child.text else none

/-- The report of a child that gives no name. -/
def nameless? (parent : Tag) (child : Element) : Option Diagnostic :=
  if child.tag = .name then
    if child.text = none then some (.located child.origin (.missingText child.name)) else none
  else some (.located child.origin (.invalidTag parent.spelling child.name))

section Count

variable (e : Element)

/-- The count is the number that its attribute writes, if that is one of those allowed. -/
theorem countOf_cases :
    (∃ value, e.attribute? "count" = some value ∧
      Text.Numeral (Text.trim value.toList) (countOf e) ∧ 1 ≤ countOf e ∧ countOf e ≤ 8) ∨
    (countOf e = 4 ∧ ∀ value n, e.attribute? "count" = some value →
      Text.Numeral (Text.trim value.toList) n → ¬(1 ≤ n ∧ n ≤ 8)) := by
  cases hdeclared : Reading.declared? e "count" 1 8 with
  | some n =>
    have hcount : countOf e = n := by rw [countOf, hdeclared, Option.getD_some]
    rw [hcount]
    exact .inl (Reading.declared?_eq_some_iff.mp hdeclared)
  | none =>
    refine .inr ⟨by rw [countOf, hdeclared]; rfl, ?_⟩
    intro value n hvalue hn hrange
    have hfound := Reading.declared?_eq_some_iff.mpr ⟨value, hvalue, hn, hrange⟩
    rw [hdeclared] at hfound
    contradiction

end Count

section Names

variable {parent : Tag} {index : Nat} {e : Element} {es : List Element} {d : Desktops}

theorem nameless?_eq_none_iff {child : Element} :
    nameless? parent child = none ↔ child.tag = .name ∧ child.text ≠ none := by
  unfold nameless?
  split
  · next htag => simp [htag]
  · next htag => simp [htag]

theorem origin_of_nameless? {child : Element} {report : Diagnostic}
    (h : nameless? parent child = some report) : report.origin = some child.origin := by
  unfold nameless? at h
  split at h
  · split at h
    · cases h
      rfl
    · contradiction
  · cases h
    rfl

/-- Gives a desktop a name, if there is one. -/
def rename (d : Desktops) (index : Nat) (name? : Option String) : Desktops :=
  match name? with
  | some name => d.setName index name
  | none => d

@[simp] theorem count_rename (d : Desktops) (index : Nat) (name? : Option String) :
    (d.rename index name?).count = d.count := by
  cases name? <;> rfl

theorem get?_rename (d : Desktops) (index : Nat) (name? : Option String) (i : Nat) :
    (d.rename index name?).names.get? i =
      if i = index then name?.or (d.names.get? i) else d.names.get? i := by
  cases name? with
  | some name => exact Table.get?_insert d.names index name i
  | none => simp [rename]

/-- Where no desktop is left, nothing more is read. -/
theorem readNamesFrom_of_full (hfull : d.count ≤ index) (es : List Element) :
    readNamesFrom parent index es d = pure d := by
  cases es with
  | nil => rfl
  | cons e es => rw [readNamesFrom, if_pos hfull]

/-- A child may rename the desktop in its place or be reported. Those behind it are read from
the next place on. -/
theorem readNamesFrom_cons (hfree : index < d.count) :
    readNamesFrom parent index (e :: es) d =
      { value := (readNamesFrom parent (index + 1) es (d.rename index (givenName? e))).value
        warnings := (nameless? parent e).toList ++
          (readNamesFrom parent (index + 1) es (d.rename index (givenName? e))).warnings } := by
  rw [readNamesFrom, if_neg (Nat.not_le.mpr hfree)]
  by_cases htag : e.tag = .name
  · cases htext : e.text <;>
      simp [htag, htext, givenName?, nameless?, rename, Reading.requiredText] <;> rfl
  · simp only [if_neg htag, givenName?, nameless?, rename]
    rfl

theorem count_readNamesFrom (parent : Tag) (index : Nat) (es : List Element) (d : Desktops) :
    (readNamesFrom parent index es d).value.count = d.count := by
  induction es generalizing index d with
  | nil => rfl
  | cons e es ih =>
    by_cases hfree : index < d.count
    · rw [readNamesFrom_cons hfree, ih, count_rename]
    · rw [readNamesFrom_of_full (Nat.not_lt.mp hfree), Reading.value_pure]

/-- The name of a desktop is what the child in its place gives, or else the one from before. -/
theorem get?_readNamesFrom (parent : Tag) (index : Nat) (es : List Element) (d : Desktops)
    (i : Nat) :
    (readNamesFrom parent index es d).value.names.get? i =
      if index ≤ i ∧ i < d.count then (es[i - index]?.bind givenName?).or (d.names.get? i)
      else d.names.get? i := by
  induction es generalizing index d with
  | nil => simp [readNamesFrom]
  | cons e es ih =>
    by_cases hfree : index < d.count
    · rw [readNamesFrom_cons hfree, ih, get?_rename, count_rename]
      -- The first child names its own desktop, and the others only name later ones.
      rcases Nat.lt_trichotomy i index with hi | rfl | hi
      · have hhere : i ≠ index := by omega
        have hlater : ¬index + 1 ≤ i := by omega
        have hbefore : ¬index ≤ i := by omega
        simp only [hhere, hlater, hbefore, false_and, if_false]
      · have hlater : ¬i + 1 ≤ i := by omega
        simp only [hlater, hfree, Nat.le_refl, Nat.sub_self, List.getElem?_cons_zero,
          Option.bind_some, false_and, true_and, if_true, if_false]
      · have hhere : i ≠ index := by omega
        have hplace : i - index = i - (index + 1) + 1 := by omega
        simp only [hhere, hplace, Nat.le_of_lt hi, Nat.succ_le_of_lt hi, true_and, if_false,
          List.getElem?_cons_succ]
    · have hnone : ¬(index ≤ i ∧ i < d.count) := by omega
      rw [readNamesFrom_of_full (Nat.not_lt.mp hfree), Reading.value_pure, if_neg hnone]

/-- The children that stand for a desktop and do not name it are reported, each of them once. -/
theorem warnings_readNamesFrom (parent : Tag) (index : Nat) (es : List Element)
    (d : Desktops) :
    (readNamesFrom parent index es d).warnings =
      (es.take (d.count - index)).filterMap (nameless? parent) := by
  induction es generalizing index d with
  | nil => simp [readNamesFrom]
  | cons e es ih =>
    by_cases hfree : index < d.count
    · have htake : d.count - index = d.count - (index + 1) + 1 := by omega
      rw [readNamesFrom_cons hfree, ih, count_rename, htake, List.take_succ_cons,
        List.filterMap_cons]
      cases nameless? parent e <;> rfl
    · have htake : d.count - index = 0 := by omega
      rw [readNamesFrom_of_full (Nat.not_lt.mp hfree), htake, Reading.warnings_pure,
        List.take_zero, List.filterMap_nil]

/-- Children for which there is no desktop may as well be missing. -/
theorem readNamesFrom_take (parent : Tag) (index : Nat) (es : List Element) (d : Desktops) :
    readNamesFrom parent index (es.take (d.count - index)) d =
      readNamesFrom parent index es d := by
  induction es generalizing index d with
  | nil => rw [List.take_nil]
  | cons e es ih =>
    by_cases hfree : index < d.count
    · have htake : d.count - index = d.count - (index + 1) + 1 := by omega
      have hrest := ih (index + 1) (d.rename index (givenName? e))
      rw [count_rename] at hrest
      rw [htake, List.take_succ_cons, readNamesFrom_cons hfree, readNamesFrom_cons hfree, hrest]
    · have hfull := Nat.not_lt.mp hfree
      rw [readNamesFrom_of_full hfull, readNamesFrom_of_full hfull]

end Names

section Read

variable (e : Element) (d : Desktops)

theorem read_eq :
    read e d =
      { value := (readNamesFrom e.tag 0 e.children (d.setCount (countOf e))).value
        warnings := (Reading.misdeclared? e "count" 1 8).toList ++
          (readNamesFrom e.tag 0 e.children (d.setCount (countOf e))).warnings } := by
  have hcount := Reading.value_naturalAttribute e "count" 1 8 defaultCount
  have hwarnings := Reading.warnings_naturalAttribute e "count" 1 8 defaultCount
  rw [countOf, ← hcount, ← hwarnings]
  rfl

theorem count_read : (read e d).value.count = countOf e := by
  rw [read_eq, count_readNamesFrom, setCount]

/-- Names of desktops that are no more are forgotten before any is given. -/
theorem get?_read (i : Nat) :
    (read e d).value.names.get? i =
      if i < countOf e then (e.children[i]?.bind givenName?).or (d.names.get? i) else none := by
  rw [read_eq, get?_readNamesFrom]
  simp only [setCount, Table.get?_filterKeys, decide_eq_true_eq, Nat.zero_le, true_and,
    Nat.sub_zero]
  split <;> rfl

theorem warnings_read :
    (read e d).warnings = (Reading.misdeclared? e "count" 1 8).toList ++
      (e.children.take (countOf e)).filterMap (nameless? e.tag) := by
  rw [read_eq, warnings_readNamesFrom, setCount, Nat.sub_zero]

/-- A declaration of desktops changes nothing else of the configuration. -/
theorem declare_eq (world : World) (parent : Tag) (c : Config) {e : Element}
    (he : e.tag = .desktops) :
    c.declare world parent e =
      { value := { c with desktops := (read e c.desktops).value }
        warnings := (read e c.desktops).warnings } := by
  unfold Config.declare
  rw [he]
  exact congrArg (Reading.mk _) (List.append_nil _)

theorem read_take :
    read { e with children := e.children.take (countOf e) } d = read e d := by
  have hnames := readNamesFrom_take e.tag 0 e.children (d.setCount (countOf e))
  rw [Nat.sub_zero] at hnames
  have hcount : countOf { e with children := e.children.take (countOf e) } = countOf e := rfl
  rw [read_eq, read_eq, hcount]
  exact congrArg₂ Reading.mk (congrArg Reading.value hnames)
    (congrArg (_ ++ Reading.warnings ·) hnames)

end Read

end Desktops

/-- An element of desktops sets their count to the number that its first count attribute writes,
if that is from one to eight, and to four otherwise. After that a desktop has the name that the
child in its place gives it, or else the one it had, and past the count there are no names. The
children in the places of desktops that are not names with a text are reported, each of them
once; children behind those places may as well be missing. Nothing else of the configuration
changes. -/
theorem desktops_are_named_by_place (world : World) (parent : Tag) (e : Element) (c : Config)
    (he : e.tag = .desktops) :
    let r := c.declare world parent e
    let count := Desktops.countOf e
    (∃ d : Desktops, r.value = { c with desktops := d } ∧ d.count = count ∧
      ∀ i, d.names.get? i =
        if i < count then (e.children[i]?.bind Desktops.givenName?).or (c.desktops.names.get? i)
        else none) ∧
    ((∃ value, e.attribute? "count" = some value ∧
        Text.Numeral (Text.trim value.toList) count ∧ 1 ≤ count ∧ count ≤ 8) ∨
      (count = 4 ∧ ∀ value n, e.attribute? "count" = some value →
        Text.Numeral (Text.trim value.toList) n → ¬(1 ≤ n ∧ n ≤ 8))) ∧
    r.warnings = (Reading.misdeclared? e "count" 1 8).toList ++
      (e.children.take count).filterMap (Desktops.nameless? .desktops) ∧
    (∀ child,
      (Desktops.nameless? .desktops child = none ↔ child.tag = .name ∧ child.text ≠ none) ∧
      ∀ report, Desktops.nameless? .desktops child = some report →
        report.origin = some child.origin) ∧
    c.declare world parent { e with children := e.children.take count } = r := by
  intro r count
  have hr : r = _ := Desktops.declare_eq world parent c he
  refine ⟨?_, Desktops.countOf_cases e, ?_, fun child => ⟨Desktops.nameless?_eq_none_iff,
    fun report => Desktops.origin_of_nameless?⟩, ?_⟩
  · rw [hr]
    exact ⟨_, rfl, Desktops.count_read e c.desktops, Desktops.get?_read e c.desktops⟩
  · rw [hr, ← he]
    exact Desktops.warnings_read e c.desktops
  · have htake := Desktops.declare_eq world parent c
      (e := { e with children := e.children.take count }) he
    rw [hr, htake, Desktops.read_take]

/-- Five children for three desktops: a name without a text and two names, one of them for a
desktop that is no more, and an element that has no place there. -/
def namedDesktops : Element :=
  { madeIn "jwmrc" .desktops none
      [madeIn "jwmrc" .name none, madeIn "jwmrc" .name (some "web"), madeIn "jwmrc" .font none,
        madeIn "jwmrc" .name (some "mail"), madeIn "jwmrc" .exit none] with
    attributes := [{ name := "count", value := " +3 " }] }

/-- The first desktop keeps its name, the second gets a new one, and the fourth is lost with
its name; the children behind the third are not even reported. -/
theorem desktops_are_named_by_place_kept :
    namedDesktops.tag = .desktops ∧
    let before : Desktops := (((Desktops.setName {} 0 "home").setName 1 "work").setName 3 "misc")
    let c : Config := { desktops := before }
    let r := c.declare (World.holding "" "") .jwm namedDesktops
    ∃ d : Desktops, r.value = { c with desktops := d } ∧ d.count = 3 ∧
      d.names.get? 0 = some "home" ∧ d.names.get? 1 = some "web" ∧ d.names.get? 2 = none ∧
      d.names.get? 3 = none ∧
      r.warnings = [.located ⟨"jwmrc", 1⟩ (.missingText "Name"),
        .located ⟨"jwmrc", 1⟩ (.invalidTag "Desktops" "Font")] := by
  refine ⟨rfl, ?_⟩
  intro before c r
  obtain ⟨⟨d, hvalue, hcount, hnames⟩, -, hwarnings, -, -⟩ :=
    desktops_are_named_by_place (World.holding "" "") .jwm namedDesktops c rfl
  have hthree : Desktops.countOf namedDesktops = 3 := by rfl
  rw [hthree] at hcount hnames hwarnings
  exact ⟨d, hvalue, hcount, hnames 0, hnames 1, hnames 2, hnames 3, hwarnings⟩

end DeskConfig
