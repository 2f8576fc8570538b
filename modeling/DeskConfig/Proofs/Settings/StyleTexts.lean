import DeskConfig.Proofs.Settings.Parts

/-!
Fonts and colors by the texts that set them. A block gives texts to the settings of the
elements inside it, and each setting ends up with the last text that it is given. Elements
without text and elements that are no setting of their block give nothing.
-/

namespace DeskConfig

open Markup (Element Tag)

namespace Style

/-- Fonts and colors are texts; the sizes of a frame are not. -/
def Setting.IsText : Setting → Prop
  | font _ | color _ => True
  | borderWidth | titleHeight => False

/-- The text of a font or a color. -/
def text? (s : Style) : Setting → Option String
  | .font role => s.fonts.get? role
  | .color role => s.colors.get? role
  | .borderWidth | .titleHeight => none

/-- The text that an element gives to a setting, by the settings of the block around it. -/
def given? (settings : List (Tag × Setting)) (setting : Setting) (e : Element) : Option String :=
  if setting? settings e.tag = some setting then e.text else none

/-- The texts that a block gives to a setting, in order. -/
def texts (setting : Setting) (block : Element) : List String :=
  match block? block.tag with
  | none => []
  | some settings => block.children.filterMap (given? settings setting)

theorem text?_readAttributes (e : Element) (s : Style) (setting : Setting) :
    (readAttributes e s).value.text? setting = s.text? setting := by
  unfold readAttributes
  split <;> cases setting <;> rfl

variable {setting : Setting} (h : setting.IsText)

include h

theorem text?_apply (s : Style) (e : Element) (setting' : Setting) :
    (s.apply e setting').value.text? setting =
      (if setting' = setting then e.text else none).or (s.text? setting) := by
  simp only [apply, Reading.value_bind, Reading.value_requiredText]
  cases e.text with
  | none => simp
  | some value =>
    cases setting with
    | borderWidth | titleHeight => exact h.elim
    | font role =>
      cases setting' with
      | font role' =>
        by_cases hrole : role = role'
        · simp [text?, setFont, hrole]
        · simp [text?, setFont, Table.get?_insert_of_ne hrole, Ne.symm hrole]
      | color _ | borderWidth | titleHeight => simp [text?, setColor]
    | color role =>
      cases setting' with
      | color role' =>
        by_cases hrole : role = role'
        · simp [text?, setColor, hrole]
        · simp [text?, setColor, Table.get?_insert_of_ne hrole, Ne.symm hrole]
      | font _ | borderWidth | titleHeight => simp [text?, setFont]

theorem text?_applyAll (block : Tag) (settings : List (Tag × Setting)) (es : List Element)
    (s : Style) :
    (applyAll block settings es s).value.text? setting =
      (es.filterMap (given? settings setting)).getLast?.or (s.text? setting) := by
  induction es generalizing s with
  | nil => rfl
  | cons e es ih =>
    have hlast : ((e :: es).filterMap (given? settings setting)).getLast? =
        (es.filterMap (given? settings setting)).getLast?.or (given? settings setting e) := by
      cases hgiven : given? settings setting e <;> simp [hgiven, List.getLast?_cons]
    rw [hlast, Option.or_assoc, applyAll]
    cases hsetting : setting? settings e.tag with
    | none => simpa [given?, hsetting] using ih s
    | some setting' =>
      simp only [Reading.value_bind, ih, text?_apply h, given?, hsetting, Option.some.injEq]

/-- The last text that a block gives to a setting takes the place of what was there. -/
theorem text?_read (e : Element) (s : Style) :
    (read e s).value.text? setting = (texts setting e).getLast?.or (s.text? setting) := by
  unfold read texts
  cases block? e.tag with
  | none => rfl
  | some settings => simp only [Reading.value_bind, text?_applyAll h, text?_readAttributes]

end Style

end DeskConfig
