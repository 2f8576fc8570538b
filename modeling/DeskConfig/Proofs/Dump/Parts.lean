import DeskConfig.Dump
import DeskConfig.Proofs.Dump.Rendering
import Mathlib.Data.List.Basic
import Mathlib.Logic.Function.Basic

/-!
The parts of a configuration as values. No two values of a type are written as the same value:
names tell the members of a list of choices apart, an absent value is null, which nothing that
is present is written as, and a value with several forms says which one it has.
-/

namespace DeskConfig

open Function (Injective)
open Json (ofNat optionalString strings)

namespace Json

theorem ofNat_injective : Injective ofNat := by
  intro m n h
  exact Int.ofNat.inj (Json.num.inj h)

theorem ofOption_injective {f : α → Json} (hf : Injective f) (hnull : ∀ a, f a ≠ .null) :
    Injective (ofOption f) := by
  intro a b h
  cases a with
  | none =>
    cases b with
    | none => rfl
    | some b => exact absurd h.symm (hnull b)
  | some a =>
    cases b with
    | none => exact absurd h (hnull a)
    | some b => exact congrArg some (hf h)

theorem optionalString_injective : Injective optionalString :=
  ofOption_injective (fun _ _ h => Json.str.inj h) fun _ => nofun

theorem strings_injective : Injective strings := by
  intro ss ts h
  refine List.map_injective_iff.mpr ?_ (Json.arr.inj h)
  exact fun _ _ h => Json.str.inj h

end Json

section Names

/-- Names that can be chosen by are different. -/
theorem injective_of_choose {name : α → String} (choose : String → Option α)
    (h : ∀ a, choose (name a) = some a) : Injective name := by
  intro a b hname
  have hsame : some a = some b := by rw [← h a, hname, h b]
  exact Option.some.inj hsame

theorem FontRole.name_injective : Injective name :=
  injective_of_choose ofName? fun r => by cases r <;> decide

theorem ColorRole.name_injective : Injective name :=
  injective_of_choose ofName? fun r => by cases r <;> decide

theorem TaskInsert.name_injective : Injective name :=
  injective_of_choose ofName? fun i => by cases i <;> rfl

theorem FocusModel.name_injective : Injective name :=
  injective_of_choose ofName? fun f => by cases f <;> rfl

theorem SnapMode.name_injective : Injective name :=
  injective_of_choose ofName? fun m => by cases m <;> rfl

theorem DragMode.name_injective : Injective name :=
  injective_of_choose ofName? fun m => by cases m <;> rfl

theorem Coordinates.name_injective : Injective name :=
  injective_of_choose ofName? fun c => by cases c <;> rfl

theorem VerticalAlignment.name_injective : Injective name :=
  injective_of_choose ofName? fun a => by cases a <;> rfl

theorem HorizontalAlignment.name_injective : Injective name :=
  injective_of_choose ofName? fun a => by cases a <;> rfl

theorem TrayLayout.name_injective : Injective name :=
  injective_of_choose ofName? fun l => by cases l <;> rfl

/-- Flags are written with the parts of their names apart, so no word of a document helps. -/
theorem GroupFlag.name_injective : Injective name := by
  intro f g h
  revert h
  cases f <;> cases g <;> decide

theorem GroupValue.name_injective : Injective name := by
  intro v w h
  revert h
  cases v <;> cases w <;> decide

end Names

section Tables

variable {κ ν : Type} [Ranked κ]

/-- A table is its entries, so it is shown by what shows each of them. -/
theorem Table.map_entries_injective {f : κ × ν → β} (hf : Injective f) :
    Injective fun t : Table κ ν => t.entries.map f := by
  intro s t h
  exact Table.ext (List.map_injective_iff.mpr hf h)

/-- A table of texts is written as one member for each entry. -/
theorem Table.obj_injective {name : κ → String} (hname : Injective name) :
    Injective fun t : Table κ String =>
      Json.obj (t.entries.map fun (k, v) => (name k, Json.str v)) := by
  intro s t h
  refine Table.map_entries_injective ?_ (Json.obj.inj h)
  rintro ⟨k, v⟩ ⟨l, w⟩ hmember
  obtain ⟨hkey, hvalue⟩ := Prod.mk.inj hmember
  exact Prod.ext (hname hkey) (Json.str.inj hvalue)

end Tables

section Settings

theorem Markup.Origin.toJson_injective : Injective toJson := by
  rintro ⟨file, line⟩ ⟨file', line'⟩ h
  simpa [toJson, Json.ofNat_injective.eq_iff] using h

theorem Style.fontsJson_inj {s t : Style} (h : s.fontsJson = t.fontsJson) : s.fonts = t.fonts :=
  Table.obj_injective FontRole.name_injective h

theorem Style.colorsJson_inj {s t : Style} (h : s.colorsJson = t.colorsJson) :
    s.colors = t.colors :=
  Table.obj_injective ColorRole.name_injective h

theorem Border.toJson_injective : Injective toJson := by
  rintro ⟨width, height⟩ ⟨width', height'⟩ h
  simpa [toJson, Json.ofNat_injective.eq_iff] using h

theorem Popup.toJson_injective : Injective toJson := by
  rintro ⟨enabled, delay⟩ ⟨enabled', delay'⟩ h
  simpa [toJson, Json.ofNat_injective.eq_iff] using h

theorem Desktops.toJson_injective : Injective toJson := by
  have hname : Injective fun i : Nat => String.ofList (Nat.toDigits 10 i) := by
    intro i j h
    exact Json.toDigits_inj (String.ofList_injective h)
  rintro ⟨count, names⟩ ⟨count', names'⟩ h
  simpa [toJson, Json.ofNat_injective.eq_iff, (Table.obj_injective hname).eq_iff] using h

theorem Snap.toJson_injective : Injective toJson := by
  rintro ⟨mode, distance⟩ ⟨mode', distance'⟩ h
  simpa [toJson, Json.ofNat_injective.eq_iff, SnapMode.name_injective.eq_iff] using h

theorem Drag.toJson_injective : Injective toJson := by
  rintro ⟨mode, coordinates⟩ ⟨mode', coordinates'⟩ h
  simpa [toJson, DragMode.name_injective.eq_iff, Coordinates.name_injective.eq_iff] using h

theorem DoubleClick.toJson_injective : Injective toJson := by
  rintro ⟨speed, delta⟩ ⟨speed', delta'⟩ h
  simpa [toJson, Json.ofNat_injective.eq_iff] using h

theorem LifecycleCommands.toJson_injective : Injective toJson := by
  rintro ⟨startup, restart, shutdown⟩ ⟨startup', restart', shutdown'⟩ h
  simpa [toJson, Json.strings_injective.eq_iff] using h

theorem Group.toJson_injective : Injective toJson := by
  have hflags : Injective fun t : Table GroupFlag Unit =>
      t.entries.map fun p => Json.str p.1.name := by
    refine Table.map_entries_injective ?_
    rintro ⟨f, _⟩ ⟨g, _⟩ h
    exact Prod.ext (GroupFlag.name_injective (Json.str.inj h)) rfl
  rintro ⟨classes, names, flags, values⟩ ⟨classes', names', flags', values'⟩ h
  simpa [toJson, Json.strings_injective.eq_iff, hflags.eq_iff,
    (Table.obj_injective GroupValue.name_injective).eq_iff] using h

end Settings

section Bindings

/-- Only a desktop is written with a number, or with the place for one. -/
theorem KeyAction.toJson_injective : Injective toJson := by
  have hnumber : Injective (Json.ofOption ofNat) :=
    Json.ofOption_injective Json.ofNat_injective fun _ => nofun
  intro a b h
  cases a
  case desktop m =>
    cases b
    case desktop n =>
      simp only [toJson, Json.obj.injEq, List.cons.injEq, Prod.mk.injEq, and_true, true_and] at h
      rw [hnumber h]
    all_goals contradiction
  all_goals
    cases b <;> simp only [toJson, Json.str.injEq, String.reduceEq, reduceCtorEq] at h
    try rfl

theorem KeyBinding.toJson_injective : Injective toJson := by
  rintro ⟨action, mask, key, keycode, command, origin⟩
    ⟨action', mask', key', keycode', command', origin'⟩ h
  simpa [toJson, KeyAction.toJson_injective.eq_iff, Json.optionalString_injective.eq_iff,
    Markup.Origin.toJson_injective.eq_iff] using h

end Bindings

section Trays

theorem Size.members_injective : Injective members := by
  rintro ⟨width, height⟩ ⟨width', height'⟩ h
  simpa [members, Json.ofNat_injective.eq_iff] using h

/-- The first member tells the kind of a component, and with it which other members there are. -/
theorem TrayComponent.toJson_injective : Injective toJson := by
  intro a b h
  cases a <;> cases b
  case pager.pager | dock.dock => rfl
  case taskList.taskList width width' => simpa [toJson, Json.ofNat_injective.eq_iff] using h
  case swallow.swallow name command size name' command' size' =>
    simpa [toJson, Json.optionalString_injective.eq_iff, Size.members_injective.eq_iff] using h
  case button.button b b' =>
    obtain ⟨icon, label, action, popup, ⟨width, height⟩, origin⟩ := b
    obtain ⟨icon', label', action', popup', ⟨width', height'⟩, origin'⟩ := b'
    simpa [toJson, Size.members, Json.optionalString_injective.eq_iff,
      Json.ofNat_injective.eq_iff, Markup.Origin.toJson_injective.eq_iff, and_assoc] using h
  case clock.clock format command size format' command' size' =>
    simpa [toJson, Json.optionalString_injective.eq_iff, Size.members_injective.eq_iff] using h
  -- Components of different kinds.
  all_goals simp [toJson] at h

theorem Tray.toJson_injective : Injective toJson := by
  rintro ⟨autohide, x, y, ⟨width, height⟩, valign, halign, layout, layer, border, components⟩
    ⟨autohide', x', y', ⟨width', height'⟩, valign', halign', layout', layer', border',
      components'⟩ h
  have hcomponents : Injective (List.map TrayComponent.toJson) :=
    List.map_injective_iff.mpr TrayComponent.toJson_injective
  simpa [toJson, Size.members, Json.ofNat_injective.eq_iff, hcomponents.eq_iff,
    VerticalAlignment.name_injective.eq_iff, HorizontalAlignment.name_injective.eq_iff,
    TrayLayout.name_injective.eq_iff, and_assoc] using h

end Trays

end DeskConfig
