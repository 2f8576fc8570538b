import DeskConfig.Load
import DeskConfig.Proofs.Walk.Include

/-!
The agenda of a walk. What a walk has yet to come to is a list of elements: it takes the
first of them and puts what that holds in its place, be it its children or the document that
it includes. A walk runs the commands that the elements on its agenda ask for, one after the
other, and ends when the agenda is empty or when the include limit stops it.
-/

namespace DeskConfig

open Markup (Element)

/-- Where an element stands: at the top of a document, inside a top-level element, or among
the items of a menu, `level` submenus down. -/
inductive Standing where
  | top
  | child
  | item (level : Nat)
deriving DecidableEq, Repr

/-- An element that a walk has yet to come to, in a document at some include depth. -/
structure Pending where
  depth : Nat
  standing : Standing
  element : Element

/-- What is left of a walk, and the commands run before. -/
structure Agenda where
  pending : List Pending
  history : List Call := []

/-- A document at this depth may include others. Depths stop growing at the largest 32-bit
number, so as a limit that number is never reached. -/
def Limits.Admits (limits : Limits) (depth : Nat) : Prop :=
  depth < limits.includeDepth ∨ Text.maxWord ≤ limits.includeDepth

instance (limits : Limits) (depth : Nat) : Decidable (limits.Admits depth) :=
  inferInstanceAs (Decidable (_ ∨ _))

namespace Pending

def all (depth : Nat) (standing : Standing) (es : List Element) : List Pending :=
  es.map fun e => { depth, standing, element := e }

/-- The command that an element asks for. Only an include among the items of a menu does,
with what follows the mark of a command in its text. -/
def call? (limits : Limits) (p : Pending) : Option Call :=
  match p.standing, p.element.tag, p.element.text with
  | .item _, .include, some text =>
    if limits.Admits p.depth then
      (Environment.after? Source.execMark.toList text.toList).map fun line =>
        { shell := limits.shell, command := String.ofList line }
    else none
  | _, _, _ => none

/-- The source that an include names. Commands are for menus only. -/
def source (world : World) (p : Pending) (reference : String) : Except IncludeError Source :=
  match p.standing with
  | .item _ => Source.ofMenuReference world reference
  | _ => Source.ofReference world reference

/-- What a document puts in the place of its include: its elements, or in a menu the items of
the menu that it starts with. -/
def included (depth : Nat) (standing : Standing) :
    Except IncludeError (List Element) → List Pending
  | .error _ => []
  | .ok document =>
    match standing, document with
    | .item level, root :: _ =>
      if root.tag = .menu then all depth (.item level) root.children else []
    | .item _, [] => []
    | _, document => all depth .top document

/-- What comes in the place of an include, unless that is past the limit. -/
def openInclude (world : World) (limits : Limits) (history : List Call) (p : Pending) :
    Option (List Pending) :=
  match p.element.text with
  | none => some []
  | some reference =>
    (enter? limits.includeDepth p.depth).map fun next =>
      match p.source world reference with
      | .error _ => []
      | .ok source => included next p.standing (resolve world limits.shell history source).1

/-- What comes in the place of an element. Whatever has no place where it stands is passed
over with all inside it, and so is a menu that is nested too deep. -/
def opened (world : World) (limits : Limits) (history : List Call) (p : Pending) :
    Option (List Pending) :=
  match p.standing, p.element.tag with
  | .top, .jwm => some (all p.depth .child p.element.children)
  | .child, .rootMenu => some (all p.depth (.item 0) p.element.children)
  | .child, .include => p.openInclude world limits history
  | .item level, .menu =>
    some (if level < Menu.maxLevel then all p.depth (.item (level + 1)) p.element.children
      else [])
  | .item _, .include => p.openInclude world limits history
  | _, _ => some []

/-- An include with text that stands where the limit is reached. -/
structure AtLimit (limits : Limits) (p : Pending) : Prop where
  standing : p.standing ≠ .top
  tag : p.element.tag = .include
  text : p.element.text ≠ none
  depth : limits.includeDepth < Text.maxWord → limits.includeDepth ≤ p.depth

end Pending

section Tours

variable (world : World) (limits : Limits)

/-- A tour takes the elements of an agenda one after the other, each with what comes in its
place, and leaves an agenda. -/
inductive Tours : Agenda → (visited : List Pending) → Agenda → Prop
  | here {a} : Tours a [] a
  | next {p inner rest history visited a} : p.opened world limits history = some inner →
      Tours ⟨inner ++ rest, history ++ (p.call? limits).toList⟩ visited a →
      Tours ⟨p :: rest, history⟩ (p :: visited) a

/-- No tour goes on from here. -/
def Agenda.Ended (a : Agenda) : Prop :=
  ∀ p rest, a.pending = p :: rest → p.opened world limits a.history = none

end Tours

namespace Tours

variable {world : World} {limits : Limits} {a b c : Agenda} {visited visited' : List Pending}

theorem append (h : Tours world limits a visited b) (h' : Tours world limits b visited' c) :
    Tours world limits a (visited ++ visited') c := by
  induction h with
  | here => exact h'
  | next hopened _ ih => exact .next hopened (ih h')

/-- The commands of a tour are those that its elements ask for, in order. -/
theorem history_eq (h : Tours world limits a visited b) :
    b.history = a.history ++ visited.filterMap (·.call? limits) := by
  induction h with
  | here => exact (List.append_nil _).symm
  | @next p inner rest history visited a _ _ ih =>
    rw [ih, List.append_assoc]
    cases hcall : p.call? limits <;> simp [hcall]

/-- There is only one way through an agenda. -/
theorem unique (h : Tours world limits a visited b) (hb : b.Ended world limits)
    (h' : Tours world limits a visited' c) (hc : c.Ended world limits) :
    visited = visited' ∧ b = c := by
  induction h generalizing visited' with
  | here =>
    cases h' with
    | here => exact ⟨rfl, rfl⟩
    | next hopened _ =>
      rw [hb _ _ rfl] at hopened
      contradiction
  | @next p inner rest history visited a hopened _ ih =>
    cases h' with
    | here =>
      rw [hc _ _ rfl] at hopened
      contradiction
    | next hopened' hrest =>
      rw [hopened, Option.some.injEq] at hopened'
      subst hopened'
      obtain ⟨rfl, rfl⟩ := ih hb hrest
      exact ⟨rfl, rfl⟩

end Tours

/-- A part of a walk goes through the first elements of an agenda: it comes to the visited
elements and runs the given commands, and then it comes to what stands behind them or is
stopped at an include. -/
def Visits (world : World) (limits : Limits) (ps : List Pending) (history : List Call)
    (visited : List Pending) (stopped : Bool) (calls : List Call) : Prop :=
  ∀ rest, ∃ left,
    Tours world limits ⟨ps ++ rest, history⟩ visited ⟨left, history ++ calls⟩ ∧
    (stopped = false → left = rest) ∧
    (stopped = true → ∃ p more, left = p :: more ∧ p.AtLimit limits)

/-- A part of a walk goes through the first elements of an agenda, whatever it visits. -/
def Covers (world : World) (limits : Limits) (ps : List Pending) (history : List Call)
    (stopped : Bool) (calls : List Call) : Prop :=
  ∀ rest, ∃ visited left,
    Tours world limits ⟨ps ++ rest, history⟩ visited ⟨left, history ++ calls⟩ ∧
    (stopped = false → left = rest) ∧
    (stopped = true → ∃ p more, left = p :: more ∧ p.AtLimit limits)

namespace Visits

variable {world : World} {limits : Limits} {p : Pending} {ps ps' inner : List Pending}
  {visited visited' : List Pending} {history calls calls' : List Call} {stopped : Bool}

theorem covers (h : Visits world limits ps history visited stopped calls) :
    Covers world limits ps history stopped calls := by
  intro rest
  obtain ⟨left, htour⟩ := h rest
  exact ⟨visited, left, htour⟩

theorem nothing : Visits world limits [] history [] false [] := by
  intro rest
  refine ⟨rest, ?_, fun _ => rfl, fun h => nomatch h⟩
  rw [List.append_nil]
  exact .here

/-- What stands behind the elements where a walk is stopped does not matter. -/
theorem before (h : Visits world limits ps history visited true calls) (ps' : List Pending) :
    Visits world limits (ps ++ ps') history visited true calls := by
  intro rest
  obtain ⟨left, htour, -, hstopped⟩ := h (ps' ++ rest)
  rw [← List.append_assoc] at htour
  exact ⟨left, htour, (fun h => nomatch h), hstopped⟩

theorem append (h : Visits world limits ps history visited false calls)
    (h' : Visits world limits ps' (history ++ calls) visited' stopped calls') :
    Visits world limits (ps ++ ps') history (visited ++ visited') stopped (calls ++ calls') := by
  intro rest
  obtain ⟨left, htour, hleft, -⟩ := h (ps' ++ rest)
  obtain ⟨left', htour', hthrough, hstopped⟩ := h' rest
  rw [hleft rfl, ← List.append_assoc] at htour
  rw [List.append_assoc] at htour'
  exact ⟨left', htour.append htour', hthrough, hstopped⟩

/-- An element is gone through with what comes in its place. -/
theorem single (hopened : p.opened world limits history = some inner)
    (h : Visits world limits inner (history ++ (p.call? limits).toList) visited stopped calls) :
    Visits world limits [p] history (p :: visited) stopped
      ((p.call? limits).toList ++ calls) := by
  intro rest
  obtain ⟨left, htour, hthrough, hstopped⟩ := h rest
  rw [List.append_assoc] at htour
  exact ⟨left, .next hopened htour, hthrough, hstopped⟩

theorem skip (hopened : p.opened world limits history = some [])
    (hcall : p.call? limits = none) : Visits world limits [p] history [p] false [] := by
  have h : Visits world limits [p] history [p] false ((p.call? limits).toList ++ []) :=
    single hopened nothing
  rwa [hcall] at h

/-- A walk is stopped where the limit is reached. -/
theorem atLimit (h : p.AtLimit limits) : Visits world limits [p] history [] true [] := by
  intro rest
  refine ⟨p :: rest, ?_, (fun h => nomatch h), fun _ => ⟨p, rest, rfl, h⟩⟩
  rw [List.append_nil]
  exact .here

end Visits

end DeskConfig
