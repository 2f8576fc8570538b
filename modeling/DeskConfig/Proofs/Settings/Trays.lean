import DeskConfig.Proofs.Walk.Misplaced
import Mathlib.Data.List.Nodup

/-!
The components of trays. Each element inside a tray is read with the components that were
kept before it, in its own tray and in all trays before. A dock is dropped if there is one
already, and so is a client that is swallowed already or has no name, so what is kept has
neither of them twice.
-/

namespace DeskConfig

open Markup (Element)

namespace TrayComponent

/-- The name of the client that is swallowed. -/
def client? : TrayComponent → Option String
  | .swallow name _ _ => some name
  | _ => none

theorem client?_eq_some_iff {component : TrayComponent} {name : String} :
    component.client? = some name ↔ ∃ command size, component = .swallow name command size := by
  cases component <;> simp [client?]

theorem button?_eq_some_iff {component : TrayComponent} {b : TrayButton} :
    component.button? = some b ↔ component = .button b := by
  cases component <;> simp [button?]

/-- The tag of the elements that are read as such a component. -/
def tag : TrayComponent → Markup.Tag
  | .pager => .pager
  | .taskList _ => .taskList
  | .swallow _ _ _ => .swallow
  | .button _ => .trayButton
  | .clock _ _ _ => .clock
  | .dock => .dock

def clients (components : List TrayComponent) : List String := components.filterMap client?

theorem any_swallows_iff {components : List TrayComponent} {name : String} :
    components.any (·.swallows name) = true ↔ name ∈ clients components := by
  rw [List.any_eq_true, clients, List.mem_filterMap]
  refine exists_congr fun component => and_congr_right fun _ => ?_
  cases component <;> simp [swallows, client?]

/-- No dock and no client is there twice. -/
structure Distinct (components : List TrayComponent) : Prop where
  docks : components.count .dock ≤ 1
  clients : (clients components).Nodup

theorem distinct_nil : Distinct [] := ⟨Nat.zero_le 1, List.nodup_nil⟩

/-- A component that repeats none of the others may join them. -/
theorem Distinct.concat {components : List TrayComponent} {added : TrayComponent}
    (h : Distinct components) (hdock : added = .dock → .dock ∉ components)
    (hclient : ∀ name, added.client? = some name → name ∉ TrayComponent.clients components) :
    Distinct (components ++ [added]) where
  docks := by
    rw [List.count_append]
    by_cases hadded : added = .dock
    · rw [List.count_eq_zero.mpr (hdock hadded), hadded]
      simp
    · rw [List.count_singleton, if_neg (by simpa using hadded)]
      exact h.docks
  clients := by
    rw [TrayComponent.clients, List.filterMap_append]
    cases hname : added.client? with
    | none => simpa [hname, TrayComponent.clients] using h.clients
    | some name =>
      have hfresh := hclient name hname
      simp only [List.filterMap_cons, hname, List.filterMap_nil]
      exact List.nodup_append.mpr ⟨h.clients, List.nodup_singleton name, by
        rintro a ha b hb rfl
        rw [List.mem_singleton.mp hb] at ha
        exact hfresh ha⟩

end TrayComponent

namespace Tray

open TrayComponent (clients Distinct)

/-- An element inside a tray, and the components that were kept before it. -/
structure Placing where
  element : Element
  earlier : List TrayComponent

namespace Placing

def reading (p : Placing) : Reading (Option TrayComponent) :=
  readComponent .tray p.earlier p.element

def kept? (p : Placing) : Option TrayComponent := p.reading.value

def warnings (p : Placing) : List Diagnostic := p.reading.warnings

/-- The client that an element names, by its attribute or else by its text. -/
def named? (p : Placing) : Option String := (p.element.attribute? "name").or p.element.text

/-- What is wrong with a dock or a client that is dropped. -/
inductive Excess (p : Placing) : Problem → Prop
  | dock : p.element.tag = .dock → .dock ∈ p.earlier → p.Excess .repeatedDock
  | nameless : p.element.tag = .swallow → p.element.attribute? "name" = none →
      p.element.text = none → p.Excess .namelessSwallow
  | client {name} : p.element.tag = .swallow → p.named? = some name →
      name ∈ clients p.earlier → p.Excess (.repeatedSwallow name)

variable {p : Placing} {problem : Problem}

/-- A dock or a client that is dropped is reported once. -/
theorem Excess.reading_eq (h : p.Excess problem) :
    p.reading = { value := none, warnings := [.located p.element.origin problem] } := by
  cases h with
  | dock htag hdock =>
    have hcontains : p.earlier.contains .dock = true := List.contains_iff_mem.mpr hdock
    simp only [reading, readComponent, htag, readDock, hcontains, if_true]
    rfl
  | nameless htag hname htext =>
    simp only [reading, readComponent, htag, readSwallow, hname, htext, Option.or_none]
    rfl
  | client htag hname hclient =>
    have hswallowed := TrayComponent.any_swallows_iff.mpr hclient
    rw [named?] at hname
    simp only [reading, readComponent, htag, readSwallow, hname, hswallowed, if_true]
    rfl

theorem not_excess_of_kept? {component : TrayComponent} (h : p.kept? = some component)
    (problem : Problem) : ¬ p.Excess problem := by
  intro hexcess
  rw [kept?, hexcess.reading_eq] at h
  contradiction

theorem kept?_dock (htag : p.element.tag = .dock) (h : ∀ problem, ¬ p.Excess problem) :
    p.kept? = some .dock := by
  have hcontains : ¬ p.earlier.contains .dock = true := fun hdock =>
    h _ (.dock htag (List.contains_iff_mem.mp hdock))
  simp only [kept?, reading, readComponent, htag, readDock, if_neg hcontains, Reading.value_pure]

theorem kept?_swallow (htag : p.element.tag = .swallow) (h : ∀ problem, ¬ p.Excess problem) :
    ∃ name size, p.named? = some name ∧
      p.kept? = some (.swallow name p.element.text size) := by
  cases hname : p.named? with
  | none =>
    obtain ⟨hattribute, htext⟩ := Option.or_eq_none_iff.mp hname
    exact absurd (.nameless htag hattribute htext) (h _)
  | some name =>
    have hfresh : ¬ p.earlier.any (·.swallows name) = true := fun hswallowed =>
      h _ (.client htag hname (TrayComponent.any_swallows_iff.mp hswallowed))
    rw [named?] at hname
    refine ⟨name, (readSize p.element).value, rfl, ?_⟩
    simp only [kept?, reading, readComponent, htag, readSwallow, hname, if_neg hfresh,
      Reading.value_bind, Reading.value_pure]

/-- A dock or a client is dropped exactly if there is something wrong with it. -/
theorem kept?_eq_none_iff (htag : p.element.tag = .dock ∨ p.element.tag = .swallow) :
    p.kept? = none ↔ ∃ problem, p.Excess problem := by
  constructor
  · intro hnone
    by_contra hexcess
    have hfine := not_exists.mp hexcess
    rcases htag with htag | htag
    · rw [kept?_dock htag hfine] at hnone
      contradiction
    · obtain ⟨name, size, -, hkept⟩ := kept?_swallow htag hfine
      rw [hkept] at hnone
      contradiction
  · rintro ⟨problem, hexcess⟩
    rw [kept?, hexcess.reading_eq]

/-- An element is kept as a component of its own kind. -/
theorem tag_of_kept? {component : TrayComponent} (h : p.kept? = some component) :
    p.element.tag = component.tag := by
  simp only [kept?, reading, readComponent] at h
  split at h <;> rename_i htag
  case h_1 | h_5 =>
    cases h
    exact htag
  case h_2 =>
    unfold readTaskList at h
    split at h <;> cases h <;> exact htag
  case h_3 =>
    unfold readSwallow at h
    split at h
    · contradiction
    split at h <;> cases h
    exact htag
  case h_4 =>
    simp only [readButton] at h
    split at h <;> cases h
    exact htag
  case h_6 =>
    unfold readDock at h
    split at h <;> cases h
    exact htag
  case h_7 => contradiction

theorem named?_of_kept? {name : String} {command : Option String} {size : Size}
    (h : p.kept? = some (.swallow name command size)) : p.named? = some name := by
  have htag : p.element.tag = .swallow := tag_of_kept? h
  obtain ⟨name', size', hnamed, hkept⟩ := kept?_swallow htag (not_excess_of_kept? h)
  rw [hkept] at h
  cases h
  exact hnamed

/-- A button does what its element says, and remembers where that stands. -/
theorem button_of_kept? {button : TrayButton} (h : p.kept? = some (.button button)) :
    p.element.tag = .trayButton ∧ button.action = p.element.text ∧
      button.origin = p.element.origin := by
  have htag : p.element.tag = .trayButton := tag_of_kept? h
  simp only [kept?, reading, readComponent, htag, readButton] at h
  split at h <;> cases h
  exact ⟨htag, rfl, rfl⟩

/-- What becomes of an element inside a tray. -/
structure Judged (p : Placing) : Prop where
  kind : ∀ component, p.kept? = some component → p.element.tag = component.tag
  client : ∀ name command size, p.kept? = some (.swallow name command size) →
    p.named? = some name
  dropped_iff : p.element.tag = .dock ∨ p.element.tag = .swallow →
    (p.kept? = none ↔ ∃ problem, p.Excess problem)
  reported : ∀ problem, p.Excess problem → p.warnings = [.located p.element.origin problem]

theorem judged (p : Placing) : p.Judged where
  kind := fun _ => tag_of_kept?
  client := fun _ _ _ => named?_of_kept?
  dropped_iff := kept?_eq_none_iff
  reported := fun _ hexcess => congrArg (·.warnings) hexcess.reading_eq

/-- What is kept joins the components before it. -/
theorem distinct_kept (h : Distinct p.earlier) : Distinct (p.earlier ++ p.kept?.toList) := by
  cases hkept : p.kept? with
  | none => simpa using h
  | some component =>
    -- Had the component been there already, the element would be one too many.
    have hfine := not_excess_of_kept? hkept
    have htag := tag_of_kept? hkept
    refine h.concat ?_ ?_
    · rintro rfl hdock
      exact hfine _ (.dock htag hdock)
    · intro name hname hclient
      obtain ⟨command, size, rfl⟩ := TrayComponent.client?_eq_some_iff.mp hname
      exact hfine _ (.client htag (named?_of_kept? hkept) hclient)

end Placing

/-- The elements of a tray, each with what was kept before it. -/
def placings : (earlier : List TrayComponent) → List Element → List Placing
  | _, [] => []
  | earlier, e :: es =>
    let p : Placing := { element := e, earlier }
    p :: placings (earlier ++ p.kept?.toList) es

/-- The elements of all trays, tray by tray. -/
def placingsOf : (earlier : List TrayComponent) → (trays : List Element) → List (List Placing)
  | _, [] => []
  | earlier, tray :: trays =>
    let ps := placings earlier tray.children
    ps :: placingsOf (earlier ++ ps.filterMap (·.kept?)) trays

section Placings

variable {earlier : List TrayComponent} {es xs ys : List Element}

theorem map_element_placings (earlier : List TrayComponent) (es : List Element) :
    (placings earlier es).map (·.element) = es := by
  induction es generalizing earlier with
  | nil => rfl
  | cons e es ih => rw [placings, List.map_cons, ih]

theorem placings_append (earlier : List TrayComponent) (xs ys : List Element) :
    placings earlier (xs ++ ys) =
      placings earlier xs ++
        placings (earlier ++ (placings earlier xs).filterMap (·.kept?)) ys := by
  induction xs generalizing earlier with
  | nil => simp [placings]
  | cons e xs ih =>
    simp only [List.cons_append, placings, ih, List.filterMap_cons]
    cases (Placing.kept? { element := e, earlier }) <;> simp

/-- An element is read with what its tray and the trays before it have kept by then. -/
theorem earlier_of_placings {before after : List Placing} {p : Placing}
    (h : placings earlier es = before ++ p :: after) :
    p.earlier = earlier ++ before.filterMap (·.kept?) := by
  induction before generalizing earlier es with
  | nil =>
    cases es with
    | nil => contradiction
    | cons e es =>
      rw [placings, List.nil_append, List.cons.injEq] at h
      rw [← h.1, List.filterMap_nil, List.append_nil]
  | cons first before ih =>
    cases es with
    | nil => contradiction
    | cons e es =>
      rw [placings, List.cons_append, List.cons.injEq] at h
      rw [ih h.2, h.1, List.filterMap_cons]
      cases first.kept? <;> simp

/-- No dock and no client is kept twice, by induction on the elements. -/
theorem distinct_placings (h : Distinct earlier) (es : List Element) :
    Distinct (earlier ++ (placings earlier es).filterMap (·.kept?)) := by
  induction es generalizing earlier with
  | nil => simpa [placings] using h
  | cons e es ih =>
    have hkept := ih (Placing.distinct_kept (p := { element := e, earlier }) h)
    rw [placings, List.filterMap_cons]
    cases hcomponent : Placing.kept? { element := e, earlier } <;>
      simpa [hcomponent] using hkept

theorem readComponents_eq (earlier : List TrayComponent) (es : List Element) :
    readComponents .tray earlier es =
      { value := (placings earlier es).filterMap (·.kept?)
        warnings := (placings earlier es).flatMap (·.warnings) } := by
  induction es generalizing earlier with
  | nil => rfl
  | cons e es ih =>
    rw [readComponents, placings, List.filterMap_cons, List.flatMap_cons]
    show Reading.mk _ _ = Reading.mk _ _
    simp only [ih, Placing.kept?, Placing.warnings, Placing.reading]
    cases (readComponent .tray earlier e).value <;> simp

theorem map_map_element_placingsOf (earlier : List TrayComponent) (trays : List Element) :
    (placingsOf earlier trays).map (·.map (·.element)) = trays.map (·.children) := by
  induction trays generalizing earlier with
  | nil => rfl
  | cons tray trays ih => rw [placingsOf, List.map_cons, map_element_placings, ih, List.map_cons]

theorem flatten_placingsOf (earlier : List TrayComponent) (trays : List Element) :
    (placingsOf earlier trays).flatten = placings earlier (trays.flatMap (·.children)) := by
  induction trays generalizing earlier with
  | nil => rfl
  | cons tray trays ih =>
    rw [placingsOf, List.flatten_cons, ih, List.flatMap_cons, placings_append]

end Placings

section Reading

variable {tray : Element} (htag : tray.tag = .tray) (before : List Tray)

include htag

theorem components_read : (read before tray).value.components =
    (placings (before.flatMap (·.components)) tray.children).filterMap (·.kept?) := by
  obtain ⟨tag, text, attributes, children, origin⟩ := tray
  obtain rfl : tag = .tray := htag
  have hread := read_eq before ⟨.tray, text, attributes, children, origin⟩ children
  rw [readComponents_eq] at hread
  exact congrArg (·.value.components) hread

/-- The attributes of a tray are warned of before what stands in it. -/
theorem exists_warnings_read : ∃ first, (read before tray).warnings =
    first ++ (placings (before.flatMap (·.components)) tray.children).flatMap (·.warnings) := by
  obtain ⟨tag, text, attributes, children, origin⟩ := tray
  obtain rfl : tag = .tray := htag
  have hread := read_eq before ⟨.tray, text, attributes, children, origin⟩ children
  rw [readComponents_eq] at hread
  have hwarned := congrArg (·.warnings) hread
  simp only [Reading.warnings_bind, Reading.warnings_map] at hwarned
  exact ⟨_, hwarned⟩

end Reading

end Tray

end DeskConfig
