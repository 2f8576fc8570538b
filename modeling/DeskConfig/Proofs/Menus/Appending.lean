import DeskConfig.Proofs.Menus.InPlace

/-!
Menus that hold items already. Building goes on behind the items that are there: they stay as
they are, and what is built, what happens and where it stops do not depend on them. So a list
of elements may be cut anywhere, and its second part built after the first into the same menu.
-/

namespace DeskConfig

open Markup (Element)

/-- Goes on building a menu. Its label and its height stay, and submenus inherit that height.
The items that the builder has at hand outside of this menu are left alone. -/
def buildInto (onInclude : BuildInclude) (level : Nat) :
    Menu × Building → List Element → Menu × Building
  | (m, b), es =>
    let built := buildItems onInclude level m.itemHeight { b with items := m.items } es
    ({ m with items := built.items }, { built with items := b.items })

section Sequence

variable {onInclude : BuildInclude} {level height : Nat}

theorem buildItems_of_stopped {b : Building} (hb : b.stopped = true) (es : List Element) :
    buildItems onInclude level height b es = b := by
  cases es with
  | nil => rw [buildItems]
  | cons e es => rw [buildItems, if_pos hb]

theorem buildItems_append (b : Building) (xs ys : List Element) :
    buildItems onInclude level height b (xs ++ ys) =
      buildItems onInclude level height (buildItems onInclude level height b xs) ys := by
  induction xs generalizing b with
  | nil => rw [List.nil_append, buildItems]
  | cons e xs ih =>
    cases hb : b.stopped with
    | true => rw [buildItems_of_stopped hb, buildItems_of_stopped hb, buildItems_of_stopped hb]
    | false =>
      rw [List.cons_append, buildItems, buildItems, hb]
      exact ih _

theorem buildInto_append (site : Menu × Building) (xs ys : List Element) :
    buildInto onInclude level site (xs ++ ys) =
      if (buildInto onInclude level site xs).2.stopped then buildInto onInclude level site xs
      else buildInto onInclude level (buildInto onInclude level site xs) ys := by
  obtain ⟨m, b⟩ := site
  split
  · next hstopped =>
    simp only [buildInto] at hstopped
    simp only [buildInto, buildItems_append, buildItems_of_stopped hstopped]
  · simp only [buildInto, buildItems_append]

end Sequence

/-- The items in front do not matter for what a yield leads to. -/
theorem Building.after_items (b : Building) (items : List MenuItem) (y : MenuYield) :
    { b with items }.after y =
      { { b with items := [] }.after y with
        items := items ++ ({ b with items := [] }.after y).items } := by
  cases hb : b.stopped <;> simp [after]

/-- Building the items of two lists in a row is building those of the first and then, unless
that was stopped, those of the second. Whatever is in a menu before stays in front of the items
that are built into the same menu without any, and all else comes out the same: the
configuration, what happened and whether the include limit stopped it, with the label and the
height of the menu unchanged. It is what the yield of the items leads to, and that is put
together in the same way. -/
theorem items_are_appended (world : World) (shell : String) (limit budget depth level : Nat)
    (m : Menu) (b : Building) (height : Nat) (history : List Call) (xs ys : List Element) :
    let build := buildInto (buildInclude world shell limit budget depth) level
    let items := itemsOf (menuInclude world shell limit budget depth) level
    let first := build (m, b) xs
    let fresh := build ({ m with items := [] }, b) xs
    let led := { b with items := m.items }.after (items m.itemHeight b.journal.calls xs)
    build (m, b) (xs ++ ys) = (if first.2.stopped then first else build first ys) ∧
      first = ({ m with items := m.items ++ fresh.1.items }, fresh.2) ∧
      first = ({ m with items := led.items }, { led with items := b.items }) ∧
      items height history (xs ++ ys) =
        (items height history xs).andThen history fun history => items height history ys := by
  have hbuild := buildInclude_leadsTo world shell limit budget depth
  refine ⟨buildInto_append (m, b) xs ys, ?_, ?_, itemsOf_append _ level height history xs ys⟩
  · simp only [buildInto, buildItems_eq_after hbuild]
    rw [Building.after_items b m.items]
  · simp only [buildInto, buildItems_eq_after hbuild]

end DeskConfig
