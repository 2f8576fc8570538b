import DeskConfig.Proofs.Markup.Inside

/-!
Places in a text. A line is counted from what stands before it, so no line is past the last
one of the text. Every element of a document is on a line of its text, and if a text is no
document, so is the fault that is reported.
-/

namespace DeskConfig.Markup

open Text

/-- The last line of a text, as far as lines are counted. -/
def lastLine (text : String) : Nat := min maxLine (1 + text.toList.count '\n')

/-- A place in the text of the given label. -/
structure Origin.PointsInto (label text : String) (o : Origin) : Prop where
  file : o.file = label
  first : 1 ≤ o.line
  last : o.line ≤ lastLine text

/-- A line that is counted from something that a text starts with. -/
def LineIn (text : List Char) (line : Nat) : Prop :=
  ∃ before, before <+: text ∧ line = min maxLine (1 + before.count '\n')

section Lines

variable {text : List Char}

theorem isPrefix_startingBefore (target : Nat) (cs : List Char) : startingBefore target cs <+: cs := by
  induction cs generalizing target with
  | nil => exact List.nil_prefix
  | cons c cs ih =>
    by_cases htarget : target = 0
    · rw [htarget, startingBefore_zero]
      exact List.nil_prefix
    · rw [startingBefore_cons (Nat.pos_of_ne_zero htarget)]
      exact List.prefix_cons_inj c |>.mpr (ih _)

theorem isPrefix_beforeLastSign (cs : List Char) : beforeLastSign cs <+: cs := by
  have hsuffix : cs.reverse.dropWhile (· != '<') <:+ cs.reverse := List.dropWhile_suffix _
  unfold beforeLastSign
  split
  · exact List.prefix_rfl
  · next sign before hdrop =>
    rw [hdrop] at hsuffix
    have hbefore := (List.suffix_cons sign before).trans hsuffix
    simpa only [List.reverse_reverse] using List.reverse_prefix.mpr hbefore

theorem lineIn_lineOf (text : List Char) (target : Nat) : LineIn text (lineOf text target) :=
  ⟨_, isPrefix_startingBefore target text, rfl⟩

theorem lineIn_tagLineOf (text : List Char) (stop : Nat) : LineIn text (tagLineOf text stop) :=
  ⟨_, (isPrefix_beforeLastSign _).trans (isPrefix_startingBefore stop text), rfl⟩

theorem LineIn.pointsInto {label text : String} {line : Nat} (h : LineIn text.toList line) :
    Origin.PointsInto label text { file := label, line } := by
  obtain ⟨before, hbefore, rfl⟩ := h
  have hcount := hbefore.sublist.count_le '\n'
  refine ⟨rfl, ?_, ?_⟩
  · simp only [maxLine]
    omega
  · simp only [lastLine]
    omega

end Lines

section Faults

variable {file : String} {text : List Char} {lines : LineCursor} {f : Forest} {line : Nat}
  {fault : Fault}

/-- A piece is found faulty on a line of the text. -/
theorem lineIn_of_add (hlines : lines.In text) {token : Token}
    (h : (f.add file token lines).1 = .error (line, fault)) : LineIn text line := by
  obtain ⟨piece, stop⟩ := token
  have htag : LineIn text (lines.tagLine stop).1 :=
    (hlines.tagLine stop).2 ▸ lineIn_tagLineOf text stop
  have hline : ∀ pos, LineIn text (lines.lineAt pos).1 := fun pos =>
    (hlines.lineAt pos).2 ▸ lineIn_lineOf text pos
  cases piece with
  | opening content =>
    simp only [Forest.add] at h
    split at h
    · cases h
      exact htag
    split at h <;> cases h
    exact htag
  | selfClosing content =>
    simp only [Forest.add] at h
    split at h <;> cases h
    exact htag
  | closing content =>
    simp only [Forest.add] at h
    split at h
    · cases h
      exact hline _
    split at h <;> cases h
    exact hline _
  | text raw =>
    simp only [Forest.add] at h
    split at h
    · contradiction
    split at h <;> cases h
    exact hline _
  | cdata body => contradiction
  | aside => contradiction

theorem addAll_in (file : String) (f : Forest) (hlines : lines.In text) (tokens : List Token) :
    (f.addAll file tokens lines).2.In text := by
  induction tokens generalizing f lines with
  | nil => exact hlines
  | cons token tokens ih =>
    have hin := add_in file f hlines token
    rw [Forest.addAll]
    cases hadd : f.add file token lines with
    | mk result lines' =>
      rw [hadd] at hin
      cases result with
      | error found => exact hin
      | ok f' => exact ih f' hin

/-- The first faulty piece is the one that is reported. -/
theorem lineIn_of_addAll (hlines : lines.In text) {tokens : List Token}
    (h : (f.addAll file tokens lines).1 = .error (line, fault)) : LineIn text line := by
  induction tokens generalizing f lines with
  | nil => contradiction
  | cons token tokens ih =>
    have hin := add_in file f hlines token
    rw [Forest.addAll] at h
    cases hadd : f.add file token lines with
    | mk result lines' =>
      rw [hadd] at h hin
      cases result with
      | error found => exact lineIn_of_add hlines ((congrArg Prod.fst hadd).trans h)
      | ok f' => exact ih hin h

theorem lineIn_of_finish (hlines : lines.In text) {failure : Option (ScanError × Nat)}
    {size : Nat} (h : f.finish failure size lines = .error (line, fault)) : LineIn text line := by
  have hline : ∀ pos, LineIn text (lines.lineAt pos).1 := fun pos =>
    (hlines.lineAt pos).2 ▸ lineIn_lineOf text pos
  unfold Forest.finish at h
  split at h <;> cases h
  · exact hline _
  · exact hline _

end Faults

section Documents

variable {label text : String}

theorem pointsInto_of_inside {es : List Element} (h : parse label text = .ok es) {e : Element}
    (he : Inside e es) : e.origin.PointsInto label text := by
  obtain ⟨o, stop, horigin, rfl⟩ := allRead_of_parse h e he
  rw [OpenElement.close, horigin]
  exact (lineIn_tagLineOf _ stop).pointsInto

theorem lineIn_of_elementsOf {file : String} {text : List Char} {line : Nat} {fault : Fault}
    (h : elementsOf file text = .error (line, fault)) : LineIn text line := by
  have hstart := LineCursor.start_in text
  unfold elementsOf at h
  simp only at h
  cases hall : Forest.addAll file (scan (dropMark text)).tokens { stack := [], roots := [] }
      (LineCursor.start text) with
  | mk result lines =>
    have hin := addAll_in file { stack := [], roots := [] } hstart (scan (dropMark text)).tokens
    rw [hall] at h hin
    cases result with
    | error found =>
      cases h
      exact lineIn_of_addAll hstart (congrArg Prod.fst hall)
    | ok f => exact lineIn_of_finish hin h

theorem pointsInto_of_error {cause : MarkupError} (h : parse label text = .error cause) :
    cause.origin.PointsInto label text := by
  unfold parse at h
  split at h
  · contradiction
  · next line fault hfault =>
    cases h
    exact (lineIn_of_elementsOf hfault).pointsInto

end Documents

end DeskConfig.Markup
