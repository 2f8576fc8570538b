import DeskConfig.Markup.Attribute
import DeskConfig.Markup.Tag

/-!
Elements: what a document is once it has been read. Each one records the label of
its document and the line its tag was opened on, so that a warning can point there.
-/

namespace DeskConfig.Markup

/-- Where something was declared. The label is a file name or a command. -/
structure Origin where
  file : String
  line : Nat
deriving DecidableEq, Repr

/-- One element. Its text is trimmed and absent when nothing is left of it. -/
structure Element where
  tag : Tag
  text : Option String := none
  attributes : List Attribute := []
  children : List Element := []
  origin : Origin

/-- Induction on elements and on what is inside them. -/
theorem forest_induction {motive : List Element → Prop} (nil : motive [])
    (cons : ∀ e es, motive e.children → motive es → motive (e :: es)) :
    ∀ es, motive es := by
  intro es
  have helement : ∀ e : Element, motive e.children := by
    intro e
    induction e using Element.rec (motive_2 := motive) with
    | mk tag text attributes children origin ih => exact ih
    | nil => exact nil
    | cons e es ihe ihs => exact cons e es ihe ihs
  induction es with
  | nil => exact nil
  | cons e es ih => exact cons e es (helement e) ih

namespace Element

def name (e : Element) : String := e.tag.spelling

/-- The value of the first attribute of that name; later ones are shadowed. -/
def attribute? (e : Element) (name : String) : Option String :=
  (e.attributes.find? (·.name == name)).map (·.value)

mutual

/-- The element and all below it, in document order, each with its depth. -/
def walkFrom (depth : Nat) : Element → List (Nat × Element)
  | ⟨tag, text, attributes, children, origin⟩ =>
    (depth, ⟨tag, text, attributes, children, origin⟩) :: walkAllFrom (depth + 1) children

def walkAllFrom (depth : Nat) : List Element → List (Nat × Element)
  | [] => []
  | e :: es => walkFrom depth e ++ walkAllFrom depth es

end

/-- All elements of a document in document order, top-level ones at depth zero. -/
def walk (es : List Element) : List (Nat × Element) := walkAllFrom 0 es

end Element

end DeskConfig.Markup
