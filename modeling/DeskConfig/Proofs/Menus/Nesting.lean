import DeskConfig.Proofs.Walk.Include

/-!
How menus nest. A submenu is built one level further down than the menu it stands in, and
an include puts its items in at the level of the include, so no submenu is ever built past
the deepest level, over however many documents its menus are spread. A menu that stands
deeper is reported and does nothing else.
-/

namespace DeskConfig

open Markup (Element)

namespace MenuItem

/-- An item of a menu that stands inside the given number of its submenus. -/
inductive Under : (submenus : Nat) → List MenuItem → MenuItem → Prop
  | top {item items} : item ∈ items → Under 0 items item
  | inside {name icon label height inner items n item} :
      .submenu name icon label height inner ∈ items → Under n inner item →
        Under (n + 1) items item

/-- What an item at a level has to be like: submenus only stand above the deepest level, and
only an entry that runs a command may lack a name. -/
def Allowed (level : Nat) : MenuItem → Prop
  | entry name _ action => name = none → ∃ command, action = .execute command
  | submenu .. => level < Menu.maxLevel
  | separator => True

/-- All items of a menu at `level`, and all inside its submenus, are as they have to be. -/
def AllAllowed (level : Nat) (items : List MenuItem) : Prop :=
  ∀ n item, Under n items item → item.Allowed (level + n)

section Allowed

variable {level : Nat} {items items' : List MenuItem}

theorem AllAllowed.nil : AllAllowed level [] := by
  intro n item h
  cases h with
  | top hmem => contradiction
  | inside hmem _ => contradiction

theorem AllAllowed.append (h : AllAllowed level items) (h' : AllAllowed level items') :
    AllAllowed level (items ++ items') := by
  intro n item hunder
  cases hunder with
  | top hmem =>
    rcases List.mem_append.mp hmem with hmem | hmem
    · exact h 0 item (.top hmem)
    · exact h' 0 item (.top hmem)
  | inside hmem hinner =>
    rcases List.mem_append.mp hmem with hmem | hmem
    · exact h _ item (.inside hmem hinner)
    · exact h' _ item (.inside hmem hinner)

theorem AllAllowed.submenu (h : AllAllowed (level + 1) items) (hl : level < Menu.maxLevel)
    (name icon label : Option String) (height : Nat) :
    AllAllowed level [.submenu name icon label height items] := by
  intro n item hunder
  cases hunder with
  | top hmem =>
    rw [List.mem_singleton.mp hmem]
    exact hl
  | inside hmem hinner =>
    cases List.mem_singleton.mp hmem
    rw [Nat.add_comm _ 1, ← Nat.add_assoc]
    exact h _ item hinner

end Allowed

end MenuItem

open MenuItem (AllAllowed)

/-- What a leaf comes to is an entry or a separator, never a submenu. -/
theorem Menu.leafItem_allowed {e : Element} {item : MenuItem}
    (h : (leafItem e).value = some item) (level : Nat) :
    item.Allowed level ∧ ∀ name icon label height items,
      item ≠ .submenu name icon label height items := by
  unfold leafItem at h
  split at h
  · cases h
    exact ⟨fun _ => ⟨_, rfl⟩, nofun⟩
  · cases h
    exact ⟨trivial, nofun⟩
  · cases h
    exact ⟨nofun, nofun⟩
  · cases h
    exact ⟨nofun, nofun⟩
  · split at h
    · cases h
      exact ⟨nofun, nofun⟩
    · contradiction

theorem allAllowed_leafItem (e : Element) (level : Nat) :
    AllAllowed level (Menu.leafItem e).value.toList := by
  intro n item hunder
  cases hunder with
  | top hmem => exact (Menu.leafItem_allowed (Option.mem_toList.mp hmem) level).1
  | inside hmem _ =>
    exact absurd rfl ((Menu.leafItem_allowed (Option.mem_toList.mp hmem) level).2 _ _ _ _ _)

theorem MenuYield.allAllowed_andThen {level : Nat} {y : MenuYield} {history : List Call}
    {next : List Call → MenuYield} (hy : AllAllowed level y.items)
    (hnext : ∀ history, AllAllowed level (next history).items) :
    AllAllowed level (y.andThen history next).items := by
  cases hs : y.stopped with
  | true =>
    rw [andThen_of_stopped hs]
    exact hy
  | false =>
    rw [andThen_of_not_stopped hs]
    exact hy.append (hnext _)

/-- An include puts in what is allowed at its level. -/
def MenuInclude.KeepsLevels (onInclude : MenuInclude) : Prop :=
  ∀ e level height history, AllAllowed level (onInclude e level height history).items

/-- The induction is on the elements, for all levels at once. -/
theorem allAllowed_itemsOf {onInclude : MenuInclude} (h : onInclude.KeepsLevels)
    (es : List Element) (level height : Nat) (history : List Call) :
    AllAllowed level (itemsOf onInclude level height history es).items := by
  induction es using Markup.forest_induction generalizing level height history with
  | nil =>
    rw [itemsOf_nil]
    exact .nil
  | cons e es hchildren hes =>
    rw [itemsOf_cons]
    refine MenuYield.allAllowed_andThen ?_ fun history => hes level height history
    by_cases hi : e.tag = .include
    · rw [itemOf_include hi]
      exact h e level height history
    by_cases hm : e.tag = .menu
    · by_cases hl : level < Menu.maxLevel
      · rw [itemOf_menu hm hl]
        simp only [MenuYield.noting, MenuYield.asSubmenu]
        split
        · exact .nil
        · exact (hchildren (level + 1) _ history).submenu hl _ _ _ _
      · rw [itemOf_menu_of_deep hm (Nat.not_lt.mp hl)]
        exact .nil
    · rw [itemOf_leaf hi hm]
      exact allAllowed_leafItem e level

theorem allAllowed_includedItems {level : Nat} {items : List Call → List Element → MenuYield}
    (h : ∀ history es, AllAllowed level (items history es).items) (e : Element)
    (reference : String) (history : List Call) (document : Except IncludeError (List Element)) :
    AllAllowed level (includedItems items e reference history document).items := by
  cases document with
  | error cause => cases cause <;> exact .nil
  | ok document =>
    cases document with
    | nil => exact .nil
    | cons root rest =>
      simp only [includedItems]
      split
      · exact h history root.children
      · exact .nil

/-- Includes keep levels, whatever is in the documents that they name. -/
theorem menuInclude_keepsLevels (world : World) (shell : String) (limit budget depth : Nat) :
    (menuInclude world shell limit budget depth).KeepsLevels := by
  induction budget using Nat.strongRecOn generalizing depth with
  | ind budget ih =>
    intro e level height history
    obtain ⟨problem, -, h⟩ | h | ⟨budget, next, reference, source, rfl, -, -, h⟩ :=
      menuInclude_cases world shell limit budget depth e level height history
    · rw [h]
      exact .nil
    · rw [h]
      exact .nil
    · have hinner := ih budget (Nat.lt_succ_self budget) next
      rw [h]
      exact allAllowed_includedItems
        (fun history es => allAllowed_itemsOf hinner es level height history) _ _ _ _

/-- A menu that stands too deep comes to one warning, and nothing inside it to anything:
the items around it are those there would be without it. -/
theorem itemsOf_around_deep_menu {onInclude : MenuInclude} {level : Nat} {e : Element}
    (hm : e.tag = .menu) (hl : Menu.maxLevel ≤ level) (height : Nat) (history : List Call)
    (xs ys : List Element) :
    ∃ later,
      (itemsOf onInclude level height history (xs ++ ys)).journal =
        (itemsOf onInclude level height history xs).journal ++ later ∧
      itemsOf onInclude level height history (xs ++ e :: ys) =
        { itemsOf onInclude level height history (xs ++ ys) with
          journal := (itemsOf onInclude level height history xs).journal ++
            (if (itemsOf onInclude level height history xs).stopped then []
              else [.warned (.located e.origin (.menuTooDeep Menu.maxLevel))]) ++ later } :=
  itemsOf_around (fun _ => itemOf_menu_of_deep hm hl) history xs ys

end DeskConfig
