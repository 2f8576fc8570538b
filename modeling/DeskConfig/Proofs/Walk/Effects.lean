import DeskConfig.Proofs.Menus.Binding
import DeskConfig.Proofs.Settings.Declarations
import DeskConfig.Proofs.Walk.Agenda

/-!
The effects of a walk. Every element that a walk comes to has an effect of its own on the
configuration: a declaration declares something, and an exit entry has its say on confirming
exits, also before it is known whether its menu is bound. Root menus apart, the walk leaves what
these effects come to, one after the other.
-/

namespace DeskConfig

open Markup (Element)

namespace Pending

/-- What an element does to a configuration when a walk comes to it. Root menus are bound
apart from this. -/
def effect (world : World) (c : Config) (p : Pending) : Config :=
  match p.standing with
  | .top => c
  | .child => (c.declare world .jwm p.element).value
  | .item _ => { c with confirmExit := (Menu.confirmation? p.element).getD c.confirmExit }

end Pending

namespace Config

/-- What is left of a configuration after the effects of some elements, in order. -/
def after (world : World) (visited : List Pending) (c : Config) : Config :=
  visited.foldl (Pending.effect world) c

variable {world : World} {visited : List Pending} {c : Config}

theorem after_cons (p : Pending) :
    c.after world (p :: visited) = (p.effect world c).after world visited := rfl

theorem after_append (visited' : List Pending) :
    c.after world (visited ++ visited') = (c.after world visited).after world visited' :=
  List.foldl_append

/-- Where a declaration stands shows in its warnings only. -/
theorem value_declare_parent (world : World) (parent : Markup.Tag) (e : Element) (c : Config) :
    (c.declare world parent e).value = (c.declare world .jwm e).value := by
  unfold declare
  split <;> rfl

/-- No effect depends on the root menus or changes them. -/
theorem effect_withMenus (world : World) (c : Config) (menus : RootMenus) (p : Pending) :
    p.effect world { c with rootMenus := menus } =
      { p.effect world c with rootMenus := menus } := by
  unfold Pending.effect
  split
  · rfl
  · unfold declare
    split <;> rfl
  · rfl

theorem after_withMenus (world : World) (visited : List Pending) (c : Config)
    (menus : RootMenus) :
    after world visited { c with rootMenus := menus } =
      { c.after world visited with rootMenus := menus } := by
  induction visited generalizing c with
  | nil => rfl
  | cons p visited ih => rw [after_cons, effect_withMenus, ih, after_cons]

end Config

section Effects

variable {world : World} {c : Config} {e : Element} {depth level : Nat} {standing : Standing}

theorem effect_of_include (h : e.tag = .include) :
    Pending.effect world c { depth, standing, element := e } = c := by
  cases standing with
  | top => rfl
  | child => simp only [Pending.effect, Config.declare, h]; rfl
  | item level => simp [Pending.effect, Menu.confirmation?, h]

theorem effect_of_rootMenu (h : e.tag = .rootMenu) :
    Pending.effect world c { depth, standing := .child, element := e } = c := by
  simp only [Pending.effect, Config.declare, h]
  rfl

theorem effect_of_menu (h : e.tag = .menu) :
    Pending.effect world c { depth, standing := .item level, element := e } = c := by
  simp [Pending.effect, Menu.confirmation?, h]

end Effects

/-- Items that are built by going through some elements, and say of confirming exits what these
elements say. -/
def MenuYield.GoesThrough (world : World) (limits : Limits) (ps : List Pending)
    (history : List Call) (y : MenuYield) : Prop :=
  ∃ visited, Visits world limits ps history visited y.stopped y.journal.calls ∧
    ∀ c : Config,
      c.after world visited = { c with confirmExit := y.confirm.getD c.confirmExit }

/-- A part of a walk that goes through some elements, and leaves what their effects come to. -/
def Progress.GoesThrough (world : World) (limits : Limits) (ps : List Pending)
    (history : List Call) (c : Config) (p : Progress) : Prop :=
  ∃ visited, Visits world limits ps history visited p.stopped p.journal.calls ∧
    p.config = { c.after world visited with rootMenus := p.config.rootMenus }

section Sequences

variable {world : World} {limits : Limits} {ps ps' : List Pending} {history : List Call}

theorem MenuYield.GoesThrough.nothing : GoesThrough world limits [] history {} :=
  ⟨[], .nothing, fun _ => rfl⟩

/-- An element that is passed over with a warning. -/
theorem MenuYield.GoesThrough.ofWarning {p : Pending}
    (h : Visits world limits [p] history [p] false []) (hp : ∀ c, p.effect world c = c)
    (e : Element) (problem : Problem) :
    (MenuYield.ofWarning e problem).GoesThrough world limits [p] history := by
  refine ⟨[p], h, ?_⟩
  intro c
  exact hp c

/-- Items that are built in sequence. -/
theorem MenuYield.GoesThrough.andThen {y : MenuYield} {next : List Call → MenuYield}
    (h : y.GoesThrough world limits ps history)
    (h' : (next (history ++ y.journal.calls)).GoesThrough world limits ps'
      (history ++ y.journal.calls)) :
    (y.andThen history next).GoesThrough world limits (ps ++ ps') history := by
  obtain ⟨visited, hvisits, hsay⟩ := h
  cases hy : y.stopped with
  | true =>
    rw [MenuYield.andThen_of_stopped hy]
    rw [hy] at hvisits
    exact ⟨visited, hy ▸ hvisits.before ps', hsay⟩
  | false =>
    obtain ⟨visited', hvisits', hsay'⟩ := h'
    rw [MenuYield.andThen_of_not_stopped hy]
    rw [hy] at hvisits
    refine ⟨visited ++ visited', ?_, ?_⟩
    · rw [MenuYield.join, Journal.calls_append]
      exact hvisits.append hvisits'
    · intro c
      rw [Config.after_append, hsay, hsay']
      cases hlater : (next (history ++ y.journal.calls)).confirm <;>
        simp [MenuYield.join, hlater]

theorem Progress.GoesThrough.nothing {c : Config} :
    GoesThrough world limits [] history c { config := c } :=
  ⟨[], .nothing, rfl⟩

theorem Progress.GoesThrough.ofWarning {p : Pending}
    (h : Visits world limits [p] history [p] false []) (hp : ∀ c, p.effect world c = c)
    (c : Config) (e : Element) (problem : Problem) :
    (Progress.ofWarning c e problem).GoesThrough world limits [p] history c := by
  refine ⟨[p], h, ?_⟩
  rw [Config.after_cons, hp]
  rfl

/-- Parts of a walk in sequence. -/
theorem Progress.GoesThrough.andThen {c : Config} {p : Progress}
    {next : Config → List Call → Progress} (h : p.GoesThrough world limits ps history c)
    (h' : (next p.config (history ++ p.journal.calls)).GoesThrough world limits ps'
      (history ++ p.journal.calls) p.config) :
    (p.andThen history next).GoesThrough world limits (ps ++ ps') history c := by
  obtain ⟨visited, hvisits, hconfig⟩ := h
  cases hp : p.stopped with
  | true =>
    rw [Progress.andThen_of_stopped hp]
    rw [hp] at hvisits
    exact ⟨visited, hp ▸ hvisits.before ps', hconfig⟩
  | false =>
    obtain ⟨visited', hvisits', hconfig'⟩ := h'
    rw [Progress.andThen_of_not_stopped hp]
    rw [hp] at hvisits
    refine ⟨visited ++ visited', ?_, ?_⟩
    · rw [Progress.noting, Journal.calls_append]
      exact hvisits.append hvisits'
    · -- The menus bound before do not show in the later effects.
      have hafter := Config.after_withMenus world visited' (c.after world visited)
        p.config.rootMenus
      rw [← hconfig] at hafter
      rw [hafter] at hconfig'
      rw [Config.after_append]
      exact hconfig'

end Sequences

end DeskConfig
