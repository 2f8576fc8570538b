import DeskConfig.Include.Reference

/-!
Variables in references. A reference is read from its start to its end, so every variable that
it names stands in it, and so does the name that is reported if there is no such variable.
-/

namespace DeskConfig.Reference

open Text

section Parts

variable {cs name : List Char} {default? : Option (List Char)}

theorem prefix_of_splitDefault {rest : List Char} (h : splitDefault cs = some (name, rest)) :
    name <+: cs := by
  induction cs generalizing name with
  | nil => contradiction
  | cons c cs ih =>
    unfold splitDefault at h
    split at h
    · contradiction
    · cases h
      exact List.nil_prefix
    · next heq =>
      cases heq
      obtain ⟨⟨start, rest'⟩, hsplit, hresult⟩ := Option.map_eq_some_iff.mp h
      cases hresult
      exact (List.prefix_cons_inj c).mpr (ih hsplit)

theorem prefix_of_braced (h : braced cs = .variable name default?) : name <+: cs := by
  unfold braced at h
  split at h
  · next hsplit =>
    cases h
    exact prefix_of_splitDefault hsplit
  · cases h
    exact List.prefix_rfl

/-- What is left of a reference is its end. -/
theorem suffix_nextPart (cs : List Char) : (nextPart cs).2 <:+ cs := by
  unfold nextPart
  split
  · next cs =>
    have htwo : cs <:+ '$' :: '{' :: cs := ⟨['$', '{'], rfl⟩
    split
    · exact ((List.drop_suffix _ _).trans (List.dropWhile_suffix _)).trans htwo
    · exact htwo
  · exact ⟨['$', '$'], rfl⟩
  · split
    · exact List.suffix_cons _ _
    · exact (List.dropWhile_suffix _).trans (List.suffix_cons _ _)
  · exact List.dropWhile_suffix _

theorem infix_of_nextPart (h : (nextPart cs).1 = .variable name default?) : name <:+: cs := by
  unfold nextPart at h
  split at h
  · next cs =>
    split at h
    · have hname := (prefix_of_braced h).trans (List.takeWhile_prefix _)
      exact hname.isInfix.trans ⟨['$', '{'], [], by simp⟩
    · contradiction
  · contradiction
  · next cs _ _ =>
    split at h
    · contradiction
    · cases h
      exact (List.takeWhile_prefix _).isInfix.trans (List.suffix_cons _ _).isInfix
  · contradiction

theorem infix_of_mem_partsFrom {count : Nat} (h : .variable name default? ∈ partsFrom count cs) :
    name <:+: cs := by
  induction count generalizing cs with
  | zero => contradiction
  | succ count ih =>
    cases cs with
    | nil => contradiction
    | cons c cs =>
      rcases List.mem_cons.mp h with hpart | hrest
      · exact infix_of_nextPart hpart.symm
      · exact (ih hrest).trans (suffix_nextPart _).isInfix

theorem mem_of_substitute {env : Environment} {parts : List Part}
    (h : substitute env parts = .error name) : .variable name none ∈ parts := by
  induction parts with
  | nil => contradiction
  | cons part parts ih =>
    rw [substitute] at h
    cases hvalue : part.value env with
    | error found =>
      rw [hvalue] at h
      cases h
      unfold Part.value at hvalue
      split at hvalue
      · contradiction
      · split at hvalue <;> cases hvalue
        exact List.mem_cons_self
    | ok value =>
      rw [hvalue] at h
      cases hrest : substitute env parts with
      | ok rest =>
        simp only [hrest] at h
        contradiction
      | error found =>
        simp only [hrest] at h
        cases h
        exact List.mem_cons_of_mem _ (ih hrest)

end Parts

/-- The variable that a reference is missing stands in it. -/
theorem infix_of_expand {env : Environment} {reference name : String}
    (h : expand env reference = .error name) : name.toList <:+: reference.toList := by
  unfold expand expandFrom at h
  cases hpath : substitute env (parts reference.toList) with
  | ok path =>
    simp only [hpath] at h
    contradiction
  | error found =>
    simp only [hpath] at h
    cases h
    rw [String.toList_ofList]
    exact infix_of_mem_partsFrom (mem_of_substitute hpath)

end DeskConfig.Reference
