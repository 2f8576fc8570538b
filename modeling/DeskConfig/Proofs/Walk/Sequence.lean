import DeskConfig.Build.Documents

/-!
Walks in sequence. A menu is built, and a document is walked, element after
element; a step starts out with the configuration and the commands that the steps
before it left, and a stopped step is the last one. What is written in two lists is
therefore walked as the first list and then, unless that was stopped, the second.
-/

namespace DeskConfig

open Markup (Element Tag)

/-! An include without text is a step that only warns. -/

section MissingText

variable {world : World} {budget depth : Nat} {history : List Call} {e : Element}

theorem menuInclude_of_no_text {shell : String} {limit level height : Nat}
    (h : e.text = none) :
    menuInclude world shell limit budget depth e level height history =
      .ofWarning e (.missingText e.name) := by
  rw [menuInclude]
  simp only [h]

theorem documentInclude_of_no_text {limits : Limits} {c : Config} (h : e.text = none) :
    documentInclude world limits budget depth e c history =
      .ofWarning c e (.missingText e.name) := by
  rw [documentInclude]
  simp only [h]

end MissingText

namespace MenuYield

variable {y z : MenuYield} {history : List Call}

/-- What two steps in sequence give when the first one was not stopped. -/
def join (y z : MenuYield) : MenuYield where
  items := y.items ++ z.items
  confirm := z.confirm.or y.confirm
  journal := y.journal ++ z.journal
  stopped := z.stopped

theorem join_assoc (x y z : MenuYield) : (x.join y).join z = x.join (y.join z) := by
  simp [join, Option.or_assoc]

theorem andThen_of_stopped (hy : y.stopped = true) (next : List Call → MenuYield) :
    y.andThen history next = y := by
  simp only [andThen, hy, ite_true]

theorem andThen_of_not_stopped (hy : y.stopped = false) (next : List Call → MenuYield) :
    y.andThen history next = y.join (next (history ++ y.journal.calls)) := by
  simp [andThen, join, hy]

theorem empty_andThen (next : List Call → MenuYield) :
    ({} : MenuYield).andThen history next = next history := by
  rw [andThen_of_not_stopped rfl]
  simp [join, Journal.calls]

theorem andThen_assoc (y : MenuYield) (f g : List Call → MenuYield) :
    (y.andThen history f).andThen history g =
      y.andThen history fun h => (f h).andThen h g := by
  cases hy : y.stopped with
  | true => rw [andThen_of_stopped hy, andThen_of_stopped hy, andThen_of_stopped hy]
  | false =>
    rw [andThen_of_not_stopped hy f, andThen_of_not_stopped hy]
    cases hf : (f (history ++ y.journal.calls)).stopped with
    | true => rw [andThen_of_stopped (y := y.join _) hf, andThen_of_stopped hf]
    | false =>
      rw [andThen_of_not_stopped (y := y.join _) hf, andThen_of_not_stopped hf, join_assoc]
      simp [join]

theorem stopped_andThen (next : List Call → MenuYield) :
    (y.andThen history next).stopped =
      (y.stopped || (next (history ++ y.journal.calls)).stopped) := by
  cases hy : y.stopped with
  | true => simp only [andThen_of_stopped hy, hy, Bool.true_or]
  | false => simp only [andThen_of_not_stopped hy, join, Bool.false_or]

/-- A sequence goes through only if each of its steps does. -/
theorem stopped_andThen_eq_false {next : List Call → MenuYield} :
    (y.andThen history next).stopped = false ↔
      y.stopped = false ∧ (next (history ++ y.journal.calls)).stopped = false := by
  rw [stopped_andThen, Bool.or_eq_false_iff]

@[simp] theorem stopped_noting (events : Journal) (y : MenuYield) :
    (y.noting events).stopped = y.stopped := rfl

@[simp] theorem stopped_ofWarning (e : Element) (p : Problem) :
    (ofWarning e p).stopped = false := rfl

/-- A step that only warns leaves its warning, if the building comes to it, and otherwise
what there would be without it. -/
theorem andThen_ofWarning (y : MenuYield) (history : List Call) (e : Element) (p : Problem)
    (next : List Call → MenuYield) :
    ∃ later, (y.andThen history next).journal = y.journal ++ later ∧
      (y.andThen history fun h => (ofWarning e p).andThen h next) =
        { y.andThen history next with
          journal := y.journal ++
            (if y.stopped then [] else [.warned (.located e.origin p)]) ++ later } := by
  cases hy : y.stopped with
  | true =>
    rw [andThen_of_stopped hy, andThen_of_stopped hy]
    exact ⟨[], by simp⟩
  | false =>
    have hcalls : (ofWarning e p).journal.calls = [] := rfl
    rw [andThen_of_not_stopped hy, andThen_of_not_stopped hy, andThen_of_not_stopped rfl, hcalls,
      List.append_nil]
    exact ⟨_, rfl, by simp [join, ofWarning]⟩

end MenuYield

section Items

variable (onInclude : MenuInclude) (level height : Nat) (history : List Call)

theorem itemsOf_nil : itemsOf onInclude level height history [] = {} := by
  rw [itemsOf]

theorem itemsOf_cons (e : Element) (es : List Element) :
    itemsOf onInclude level height history (e :: es) =
      (itemOf onInclude level height history e).andThen history fun h =>
        itemsOf onInclude level height h es := by
  rw [itemsOf]

theorem itemsOf_append (xs ys : List Element) :
    itemsOf onInclude level height history (xs ++ ys) =
      (itemsOf onInclude level height history xs).andThen history fun h =>
        itemsOf onInclude level height h ys := by
  induction xs generalizing history with
  | nil => rw [itemsOf_nil, MenuYield.empty_andThen, List.nil_append]
  | cons e xs ih =>
    simp only [List.cons_append, itemsOf_cons, ih, MenuYield.andThen_assoc]

variable {onInclude level height history} {e : Element}

/-- The items around an element that only warns are those there would be without it. -/
theorem itemsOf_around {p : Problem}
    (he : ∀ history, itemOf onInclude level height history e = .ofWarning e p)
    (history : List Call) (xs ys : List Element) :
    ∃ later,
      (itemsOf onInclude level height history (xs ++ ys)).journal =
        (itemsOf onInclude level height history xs).journal ++ later ∧
      itemsOf onInclude level height history (xs ++ e :: ys) =
        { itemsOf onInclude level height history (xs ++ ys) with
          journal := (itemsOf onInclude level height history xs).journal ++
            (if (itemsOf onInclude level height history xs).stopped then []
              else [.warned (.located e.origin p)]) ++ later } := by
  simp only [itemsOf_append, itemsOf_cons, he]
  exact MenuYield.andThen_ofWarning _ history e p _

theorem itemOf_include (h : e.tag = .include) :
    itemOf onInclude level height history e = onInclude e level height history := by
  obtain ⟨tag, text, attributes, children, origin⟩ := e
  cases h
  rw [itemOf]

theorem itemOf_menu (h : e.tag = .menu) (hl : level < Menu.maxLevel) :
    itemOf onInclude level height history e =
      ((itemsOf onInclude (level + 1) (Menu.heightOf e height).value history
          e.children).asSubmenu e (Menu.heightOf e height).value).noting
        (.ofWarnings (Menu.heightOf e height).warnings) := by
  obtain ⟨tag, text, attributes, children, origin⟩ := e
  cases h
  rw [itemOf]
  simp only [Nat.not_le.mpr hl, ite_false]

theorem itemOf_menu_of_deep (h : e.tag = .menu) (hl : Menu.maxLevel ≤ level) :
    itemOf onInclude level height history e =
      .ofWarning e (.menuTooDeep Menu.maxLevel) := by
  obtain ⟨tag, text, attributes, children, origin⟩ := e
  cases h
  rw [itemOf]
  simp only [hl, ite_true]

theorem itemOf_leaf (hi : e.tag ≠ .include) (hm : e.tag ≠ .menu) :
    itemOf onInclude level height history e =
      { MenuYield.ofReading (Menu.leafItem e) with confirm := Menu.confirmation? e } := by
  obtain ⟨tag, text, attributes, children, origin⟩ := e
  rw [itemOf]
  · exact hi
  · exact hm

end Items

namespace Progress

variable {p q : Progress} {history : List Call}

theorem andThen_of_stopped (hp : p.stopped = true)
    (next : Config → List Call → Progress) : p.andThen history next = p := by
  simp only [andThen, hp, ite_true]

theorem andThen_of_not_stopped (hp : p.stopped = false)
    (next : Config → List Call → Progress) :
    p.andThen history next =
      (next p.config (history ++ p.journal.calls)).noting p.journal := by
  simp [andThen, noting, hp]

theorem empty_andThen (c : Config) (next : Config → List Call → Progress) :
    ({ config := c } : Progress).andThen history next = next c history := by
  rw [andThen_of_not_stopped rfl]
  simp [noting, Journal.calls]

theorem andThen_assoc (p : Progress) (f g : Config → List Call → Progress) :
    (p.andThen history f).andThen history g =
      p.andThen history fun c h => (f c h).andThen h g := by
  cases hp : p.stopped with
  | true => rw [andThen_of_stopped hp, andThen_of_stopped hp, andThen_of_stopped hp]
  | false =>
    rw [andThen_of_not_stopped hp f, andThen_of_not_stopped hp]
    cases hf : (f p.config (history ++ p.journal.calls)).stopped with
    | true => rw [andThen_of_stopped (p := noting _ _) hf, andThen_of_stopped hf]
    | false =>
      rw [andThen_of_not_stopped (p := noting _ _) hf, andThen_of_not_stopped hf]
      simp [noting]

theorem stopped_andThen (next : Config → List Call → Progress) :
    (p.andThen history next).stopped =
      (p.stopped || (next p.config (history ++ p.journal.calls)).stopped) := by
  cases hp : p.stopped with
  | true => simp only [andThen_of_stopped hp, hp, Bool.true_or]
  | false => simp only [andThen_of_not_stopped hp, noting, Bool.false_or]

theorem stopped_andThen_eq_false {next : Config → List Call → Progress} :
    (p.andThen history next).stopped = false ↔
      p.stopped = false ∧
        (next p.config (history ++ p.journal.calls)).stopped = false := by
  rw [stopped_andThen, Bool.or_eq_false_iff]

@[simp] theorem stopped_noting (events : Journal) (p : Progress) :
    (p.noting events).stopped = p.stopped := rfl

@[simp] theorem stopped_ofWarning (c : Config) (e : Element) (problem : Problem) :
    (ofWarning c e problem).stopped = false := rfl

@[simp] theorem config_ofWarning (c : Config) (e : Element) (problem : Problem) :
    (ofWarning c e problem).config = c := rfl

@[simp] theorem calls_ofWarning (c : Config) (e : Element) (problem : Problem) :
    (ofWarning c e problem).journal.calls = [] := rfl

theorem andThen_ofWarning (p : Progress) (history : List Call) (e : Element) (problem : Problem)
    (next : Config → List Call → Progress) :
    ∃ later, (p.andThen history next).journal = p.journal ++ later ∧
      (p.andThen history fun c h => (ofWarning c e problem).andThen h next) =
        { p.andThen history next with
          journal := p.journal ++
            (if p.stopped then [] else [.warned (.located e.origin problem)]) ++ later } := by
  cases hp : p.stopped with
  | true =>
    rw [andThen_of_stopped hp, andThen_of_stopped hp]
    exact ⟨[], by simp⟩
  | false =>
    rw [andThen_of_not_stopped hp, andThen_of_not_stopped hp, andThen_of_not_stopped rfl,
      calls_ofWarning, List.append_nil]
    exact ⟨_, rfl, by simp [noting, ofWarning]⟩

end Progress

section RootMenus

variable (onInclude : MenuInclude) (e : Element) (c : Config) (history : List Call)

theorem stopped_rootMenu : (rootMenu onInclude e c history).stopped =
    (itemsOf onInclude 0 (Menu.heightOf e 0).value history e.children).stopped := by
  cases hs : (itemsOf onInclude 0 (Menu.heightOf e 0).value history e.children).stopped <;>
    simp [rootMenu, hs]

theorem calls_rootMenu : (rootMenu onInclude e c history).journal.calls =
    (itemsOf onInclude 0 (Menu.heightOf e 0).value history e.children).journal.calls := by
  cases hs : (itemsOf onInclude 0 (Menu.heightOf e 0).value history e.children).stopped <;>
    simp [rootMenu, MenuYield.noting, hs]

end RootMenus

section Documents

variable (world : World) (includes : Includes) (parent : Tag) (c : Config)
  (history : List Call)

section Element

variable {world includes parent c history} {e : Element}

theorem walkElement_rootMenu (h : e.tag = .rootMenu) :
    walkElement world includes parent e c history = rootMenu includes.inMenu e c history := by
  simp only [walkElement, h]

theorem walkElement_include (h : e.tag = .include) :
    walkElement world includes parent e c history =
      includes.inDocument e c history := by
  simp only [walkElement, h]

theorem walkElement_declaration (hm : e.tag ≠ .rootMenu) (hi : e.tag ≠ .include) :
    walkElement world includes parent e c history =
      .ofReading (c.declare world parent e) := by
  unfold walkElement
  split <;> first | contradiction | rfl

end Element

theorem walkElements_append (xs ys : List Element) :
    walkElements world includes parent (xs ++ ys) c history =
      (walkElements world includes parent xs c history).andThen history
        (walkElements world includes parent ys) := by
  induction xs generalizing c history with
  | nil => rw [walkElements, Progress.empty_andThen, List.nil_append]
  | cons e xs ih =>
    have hrest : walkElements world includes parent (xs ++ ys) = fun c h =>
        (walkElements world includes parent xs c h).andThen h
          (walkElements world includes parent ys) := by
      funext c h
      exact ih c h
    rw [List.cons_append, walkElements, hrest, walkElements, Progress.andThen_assoc]

theorem walkDocument_append (xs ys : List Element) :
    walkDocument world includes (xs ++ ys) c history =
      (walkDocument world includes xs c history).andThen history
        (walkDocument world includes ys) := by
  induction xs generalizing c history with
  | nil => rw [walkDocument, Progress.empty_andThen, List.nil_append]
  | cons e xs ih =>
    have hrest : walkDocument world includes (xs ++ ys) = fun c h =>
        (walkDocument world includes xs c h).andThen h (walkDocument world includes ys) := by
      funext c h
      exact ih c h
    rw [List.cons_append, walkDocument, hrest, walkDocument, Progress.andThen_assoc]

/-- The children of several top-level elements of the right tag are walked as if
they stood in one of them. -/
theorem walkDocument_of_jwm (es : List Element) (h : ∀ e ∈ es, e.tag = .jwm) :
    walkDocument world includes es c history =
      walkElements world includes .jwm (es.flatMap (·.children)) c history := by
  induction es generalizing c history with
  | nil => rfl
  | cons e es ih =>
    have he : e.tag = .jwm := h e (List.mem_cons_self ..)
    have hes : walkDocument world includes es =
        walkElements world includes .jwm (es.flatMap (·.children)) := by
      funext c history
      exact ih c history fun e' he' => h e' (List.mem_cons_of_mem _ he')
    rw [walkDocument, if_pos he, walkRoot, he, hes, List.flatMap_cons,
      walkElements_append]

end Documents

end DeskConfig
