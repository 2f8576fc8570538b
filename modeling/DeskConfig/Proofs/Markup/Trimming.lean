import DeskConfig.Proofs.Markup.Inside

/-!
Texts without blanks around them. What is left of a text after trimming is empty or has
no blank at either end, and every element of a document, however deep inside others, has
a text of that kind or none.
-/

namespace DeskConfig

namespace Text

/-- Neither empty nor with a blank at one of its ends. -/
structure Trimmed (cs : List Char) : Prop where
  first : ∃ c, cs.head? = some c ∧ isBlank c = false
  last : ∃ c, cs.getLast? = some c ∧ isBlank c = false

theorem isBlank_head_dropWhile {cs : List Char} {c : Char}
    (h : (cs.dropWhile isBlank).head? = some c) : isBlank c = false := by
  have hhead := List.head?_dropWhile_not isBlank cs
  rw [h] at hhead
  simpa using hhead

theorem trimEnd_prefix (cs : List Char) : trimEnd cs <+: cs := by
  have hsuffix : cs.reverse.dropWhile isBlank <:+ cs.reverse := List.dropWhile_suffix _
  simpa only [trimEnd, List.reverse_reverse] using List.reverse_prefix.mpr hsuffix

theorem trimmed_trim {cs : List Char} (h : trim cs ≠ []) : Trimmed (trim cs) := by
  obtain ⟨c, rest, hc⟩ := List.exists_cons_of_ne_nil h
  refine ⟨⟨c, by rw [hc]; rfl, ?_⟩, ?_⟩
  · obtain ⟨tail, htail⟩ := trimEnd_prefix (trimStart cs)
    have hstart : (trimStart cs).head? = some c := by
      rw [← htail, ← trim, hc]
      rfl
    exact isBlank_head_dropWhile hstart
  · have hlast : (trim cs).getLast? = ((trimStart cs).reverse.dropWhile isBlank).head? := by
      rw [trim, trimEnd, List.getLast?_reverse]
    cases hd : (trim cs).getLast? with
    | none => exact absurd (List.getLast?_eq_none_iff.mp hd) h
    | some d => exact ⟨d, rfl, isBlank_head_dropWhile (hlast ▸ hd)⟩

/-- A text with nothing but blanks around it. -/
def Padded (core cs : List Char) : Prop := ∃ before after, cs = before ++ core ++ after ∧
  (∀ c ∈ before, isBlank c = true) ∧ ∀ c ∈ after, isBlank c = true

theorem isBlank_of_mem_takeWhile {cs : List Char} {c : Char} (h : c ∈ cs.takeWhile isBlank) :
    isBlank c = true :=
  List.all_eq_true.mp List.all_takeWhile c h

theorem padded_trim (cs : List Char) : Padded (trim cs) cs := by
  refine ⟨cs.takeWhile isBlank, ((trimStart cs).reverse.takeWhile isBlank).reverse, ?_,
    fun c => isBlank_of_mem_takeWhile,
    fun c hc => isBlank_of_mem_takeWhile (List.mem_reverse.mp hc)⟩
  rw [List.append_assoc, trim, trimEnd, ← List.reverse_append, List.takeWhile_append_dropWhile,
    List.reverse_reverse, trimStart, List.takeWhile_append_dropWhile]

theorem dropWhile_isBlank_append {before core : List Char}
    (hbefore : ∀ c ∈ before, isBlank c = true)
    (hcore : ∃ c, core.head? = some c ∧ isBlank c = false) :
    (before ++ core).dropWhile isBlank = core := by
  obtain ⟨c, hc, hblank⟩ := hcore
  obtain ⟨rest, rfl⟩ := List.head?_eq_some_iff.mp hc
  rw [List.dropWhile_append_of_pos hbefore, List.dropWhile_cons_of_neg (by simp [hblank])]

/-- Trimming takes off exactly the blanks around a text that has none at its ends. -/
theorem Padded.trim_eq {core cs : List Char} (h : Padded core cs) (hcore : Trimmed core) :
    trim cs = core := by
  obtain ⟨before, after, rfl, hbefore, hafter⟩ := h
  have hstart : trimStart (before ++ core ++ after) = core ++ after := by
    obtain ⟨c, hc, hblank⟩ := hcore.first
    rw [trimStart, List.append_assoc]
    exact dropWhile_isBlank_append hbefore ⟨c, by simp [hc], hblank⟩
  have hend : (core ++ after).reverse.dropWhile isBlank = core.reverse := by
    obtain ⟨c, hc, hblank⟩ := hcore.last
    rw [List.reverse_append]
    exact dropWhile_isBlank_append (fun c hc => hafter c (List.mem_reverse.mp hc))
      ⟨c, by rw [List.head?_reverse, hc], hblank⟩
  rw [trim, hstart, trimEnd, hend, List.reverse_reverse]

end Text

namespace Markup

open Text

theorem trimmed_of_trimmedText {cs : List Char} {text : String}
    (h : trimmedText cs = some text) : Trimmed text.toList := by
  unfold trimmedText at h
  split at h
  · contradiction
  · rename_i hne
    cases h
    rw [String.toList_ofList]
    exact trimmed_trim hne

def Element.HasTrimmedText (e : Element) : Prop := ∀ text, e.text = some text →
  Trimmed text.toList

/-- All elements of a forest have trimmed texts. -/
def AllTrimmed (es : List Element) : Prop := ∀ e, Inside e es → e.HasTrimmedText

/-- Every element of a document has a trimmed text or none. -/
theorem allTrimmed_of_parse {file text : String} {es : List Element}
    (h : parse file text = .ok es) : AllTrimmed es := by
  intro e he
  obtain ⟨o, stop, -, rfl⟩ := allRead_of_parse h e he
  exact fun _ htext => trimmed_of_trimmedText htext

end Markup

end DeskConfig
