import DeskConfig.Text.Quoted

/-!
Texts on one line. What is put together from such texts is on one line, and so is a number; a
text that is quoted with its line feeds escaped always is.
-/

namespace DeskConfig.Text

/-- There is no line feed in the text. -/
def OneLine (s : String) : Prop := '\n' ∉ s.toList

instance (s : String) : Decidable (OneLine s) := inferInstanceAs (Decidable ('\n' ∉ s.toList))

theorem toString_string (s : String) : toString s = s := rfl

theorem oneLine_append {s t : String} : OneLine (s ++ t) ↔ OneLine s ∧ OneLine t := by
  rw [OneLine, String.toList_append, List.mem_append, not_or]
  rfl

theorem oneLine_ofList {cs : List Char} : OneLine (String.ofList cs) ↔ '\n' ∉ cs := by
  rw [OneLine, String.toList_ofList]

theorem toList_char (c : Char) : (toString c).toList = [c] := String.toList_singleton c

theorem oneLine_char {c : Char} : OneLine (toString c) ↔ c ≠ '\n' := by
  rw [OneLine, toList_char, List.mem_singleton, ne_comm]

theorem not_mem_toDigits {base : Nat} (hbase : 1 < base) (n : Nat) :
    '\n' ∉ Nat.toDigits base n := by
  induction n using Nat.strongRecOn with
  | ind n ih =>
    have hdigit : ∀ d, '\n' ∉ [Nat.digitChar d] := fun d h =>
      Nat.digitChar_ne '\n' (by decide) (List.mem_singleton.mp h).symm
    rw [Nat.toDigits_eq_if hbase]
    split
    · exact hdigit n
    · next hn =>
      have hless : n / base < n := Nat.div_lt_self (by omega) hbase
      exact fun h => (List.mem_append.mp h).elim (ih _ hless) (hdigit _)

theorem not_mem_escaped (c : Char) : '\n' ∉ escaped c := by
  unfold escaped
  split
  iterate 6
    · decide
  · next c _ _ hfeed _ _ _ =>
    split
    · exact fun h => hfeed (List.mem_singleton.mp h).symm
    · simp [not_mem_toDigits]

theorem not_mem_quoted (cs : List Char) : '\n' ∉ quoted cs := by
  simp [quoted, not_mem_escaped]

/-- A part of a text on one line is on one line. -/
theorem OneLine.of_within {s t : String} (ht : OneLine t) (h : s.toList <:+: t.toList) :
    OneLine s := fun hs => ht (h.subset hs)

end DeskConfig.Text
