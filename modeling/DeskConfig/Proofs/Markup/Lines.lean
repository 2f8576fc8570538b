import DeskConfig.Markup.Line

/-!
Lines without a cursor. Wherever a cursor stands, its answer depends only on the text
and on the position that it is asked for: a position is on the line after the feeds
that start before it, and a tag is on the line of the last less-than sign before its
end.
-/

namespace DeskConfig.Markup

open Text

theorem byteSize_reverse (cs : List Char) : byteSize cs.reverse = byteSize cs := by
  induction cs with
  | nil => rfl
  | cons c cs ih =>
    rw [List.reverse_cons, byteSize_append, ih, byteSize, byteSize, byteSize]
    omega

section StartingBefore

variable {target : Nat} {cs ds : List Char}

theorem startingBefore_zero (cs : List Char) : startingBefore 0 cs = [] := by
  cases cs with
  | nil => rfl
  | cons c cs => rw [startingBefore, if_pos rfl]

theorem startingBefore_cons {c : Char} (htarget : 0 < target) :
    startingBefore target (c :: cs) = c :: startingBefore (target - c.utf8Size) cs := by
  rw [startingBefore, if_neg (by omega)]

/-- A position behind a part of the text has that part before it. -/
theorem startingBefore_append_of_le (h : byteSize cs ≤ target) :
    startingBefore target (cs ++ ds) = cs ++ startingBefore (target - byteSize cs) ds := by
  induction cs generalizing target with
  | nil => rfl
  | cons c cs ih =>
    have hsize := c.utf8Size_pos
    rw [byteSize] at h ⊢
    rw [List.cons_append, startingBefore_cons (by omega), ih (by omega), Nat.sub_sub]
    rfl

theorem startingBefore_byteSize (cs ds : List Char) :
    startingBefore (byteSize cs) (cs ++ ds) = cs := by
  rw [startingBefore_append_of_le (Nat.le_refl _), Nat.sub_self, startingBefore_zero,
    List.append_nil]

/-- A position within a part of the text has nothing behind that part before it. -/
theorem startingBefore_append_of_ge (h : target ≤ byteSize cs) :
    startingBefore target (cs ++ ds) = startingBefore target cs := by
  induction cs generalizing target with
  | nil =>
    have hzero : target = 0 := Nat.le_zero.mp h
    rw [hzero, startingBefore_zero, startingBefore_zero]
  | cons c cs ih =>
    by_cases hzero : target = 0
    · rw [hzero, startingBefore_zero, startingBefore_zero]
    · rw [byteSize] at h
      rw [List.cons_append, startingBefore_cons (by omega), startingBefore_cons (by omega),
        ih (by omega)]

end StartingBefore

/-- The text before the last less-than sign, or all of it if there is none. -/
def beforeLastSign (cs : List Char) : List Char :=
  match cs.reverse.dropWhile (· != '<') with
  | [] => cs
  | _ :: before => before.reverse

theorem exists_last_sign {cs : List Char} (h : '<' ∈ cs) :
    ∃ pre tail, cs = pre ++ '<' :: tail ∧ '<' ∉ tail := by
  obtain ⟨tail, pre, hreverse, htail⟩ := List.eq_append_cons_of_mem (List.mem_reverse.mpr h)
  refine ⟨pre.reverse, tail.reverse, ?_, by simpa using htail⟩
  have hcs := congrArg List.reverse hreverse
  simpa using hcs

/-- The line that a tag ending at byte `stop` was opened on. -/
def tagLineOf (text : List Char) (stop : Nat) : Nat :=
  min maxLine (1 + (beforeLastSign (startingBefore stop text)).count '\n')

theorem beforeLastSign_append {pre tail : List Char} (htail : '<' ∉ tail) :
    beforeLastSign (pre ++ '<' :: tail) = pre := by
  have hsign : ∀ c ∈ tail.reverse, (c != '<') = true := by
    intro c hc
    have hne : c ≠ '<' := fun h => htail (h ▸ List.mem_reverse.mp hc)
    simp [hne]
  have hdrop : (pre ++ '<' :: tail).reverse.dropWhile (· != '<') = '<' :: pre.reverse := by
    rw [List.reverse_append, List.reverse_cons, List.append_assoc,
      List.dropWhile_append_of_pos hsign, List.singleton_append,
      List.dropWhile_cons_of_neg (by decide)]
  unfold beforeLastSign
  rw [hdrop]
  exact List.reverse_reverse pre

/-- A tag without another less-than sign in it is on the line of its own sign. -/
theorem tagLineOf_append {pre tail rest : List Char} (htail : '<' ∉ tail) :
    tagLineOf (pre ++ '<' :: tail ++ rest) (byteSize (pre ++ '<' :: tail)) =
      min maxLine (1 + pre.count '\n') := by
  rw [tagLineOf, startingBefore_byteSize, beforeLastSign_append htail]

namespace LineCursor

/-- The cursor stands in the text and has counted what is before it. -/
structure In (text : List Char) (c : LineCursor) : Prop where
  text_eq : c.before.reverse ++ c.after = text
  pos_eq : c.pos = byteSize c.before
  feeds_eq : c.feeds = c.before.count '\n'

variable {text before after : List Char} {pos feeds : Nat} {c : LineCursor}

theorem start_in (text : List Char) : (start text).In text where
  text_eq := rfl
  pos_eq := rfl
  feeds_eq := rfl

theorem In.forward {d : Char} (h : In text ⟨before, d :: after, pos, feeds⟩) :
    In text ⟨d :: before, after, pos + d.utf8Size,
      if d = '\n' then feeds + 1 else feeds⟩ where
  text_eq := by
    rw [← h.text_eq]
    simp
  pos_eq := by
    have hpos := h.pos_eq
    simp only [byteSize] at hpos ⊢
    omega
  feeds_eq := by
    have hfeeds := h.feeds_eq
    simp only [List.count_cons, beq_iff_eq] at hfeeds ⊢
    split <;> omega

theorem In.backward {d : Char} (h : In text ⟨d :: before, after, pos, feeds⟩) :
    In text ⟨before, d :: after, pos - d.utf8Size,
      if d = '\n' then feeds - 1 else feeds⟩ where
  text_eq := by
    rw [← h.text_eq]
    simp
  pos_eq := by
    have hpos := h.pos_eq
    simp only [byteSize] at hpos ⊢
    omega
  feeds_eq := by
    have hfeeds := h.feeds_eq
    simp only [List.count_cons, beq_iff_eq] at hfeeds
    by_cases hd : d = '\n'
    · simp only [if_pos hd] at hfeeds ⊢
      omega
    · simp only [if_neg hd] at hfeeds ⊢
      omega

theorem In.line_eq (h : c.In text) :
    c.line = min maxLine (1 + c.before.reverse.count '\n') := by
  rw [line, h.feeds_eq, List.count_reverse, Nat.add_comm]

theorem forwardFrom_in (target : Nat) (h : In text ⟨before, after, pos, feeds⟩) :
    (forwardFrom target before pos feeds after).In text ∧
      (forwardFrom target before pos feeds after).before.reverse =
        before.reverse ++ startingBefore (target - pos) after := by
  induction after generalizing before pos feeds with
  | nil => exact ⟨h, by simp [forwardFrom, startingBefore]⟩
  | cons d after ih =>
    by_cases hpos : pos < target
    · obtain ⟨hin, hbefore⟩ := ih h.forward
      rw [forwardFrom, if_pos hpos]
      refine ⟨hin, ?_⟩
      rw [hbefore, startingBefore_cons (by omega), List.reverse_cons, List.append_assoc,
        Nat.sub_sub]
      rfl
    · rw [forwardFrom, if_neg hpos]
      refine ⟨h, ?_⟩
      rw [Nat.sub_eq_zero_of_le (Nat.not_lt.mp hpos), startingBefore_zero, List.append_nil]

theorem backwardFrom_in (target : Nat) (h : In text ⟨before, after, pos, feeds⟩) :
    (backwardFrom target after pos feeds before).In text ∧
      (backwardFrom target after pos feeds before).before.reverse =
        startingBefore target before.reverse := by
  induction before generalizing after pos feeds with
  | nil => exact ⟨h, by simp [backwardFrom, startingBefore]⟩
  | cons d before ih =>
    have hpos := h.backward.pos_eq
    simp only at hpos
    rw [← byteSize_reverse] at hpos
    by_cases htarget : target ≤ pos - d.utf8Size
    · obtain ⟨hin, hbefore⟩ := ih h.backward
      rw [backwardFrom, if_pos htarget]
      refine ⟨hin, ?_⟩
      rw [hbefore, List.reverse_cons, startingBefore_append_of_ge (by omega)]
    · rw [backwardFrom, if_neg htarget]
      refine ⟨h, ?_⟩
      rw [List.reverse_cons, startingBefore_append_of_le (by omega),
        startingBefore_cons (by omega)]
      rfl

theorem In.seek (h : c.In text) (target : Nat) :
    (c.seek target).In text ∧
      (c.seek target).before.reverse = startingBefore target text := by
  have hpos : c.pos = byteSize c.before.reverse := h.pos_eq.trans (byteSize_reverse _).symm
  unfold LineCursor.seek
  by_cases hlt : c.pos < target
  · rw [if_pos hlt]
    obtain ⟨hin, hbefore⟩ := forwardFrom_in target h
    refine ⟨hin, ?_⟩
    rw [hbefore, ← h.text_eq, startingBefore_append_of_le (by omega), hpos]
  · rw [if_neg hlt]
    obtain ⟨hin, hbefore⟩ := backwardFrom_in target h
    refine ⟨hin, ?_⟩
    rw [hbefore, ← h.text_eq, startingBefore_append_of_ge (by omega)]

theorem In.lineAt (h : c.In text) (target : Nat) :
    (c.lineAt target).2.In text ∧ (c.lineAt target).1 = lineOf text target := by
  obtain ⟨hin, hbefore⟩ := h.seek target
  refine ⟨hin, ?_⟩
  rw [LineCursor.lineAt, hin.line_eq, hbefore, lineOf]

/-- Stepping back to a less-than sign finds the last one, if there is any. -/
theorem openSignFrom_in (h : In text ⟨before, after, pos, feeds⟩) :
    match before.dropWhile (· != '<') with
    | [] => openSignFrom after pos feeds before = none
    | _ :: rest => ∃ c, openSignFrom after pos feeds before = some c ∧ c.In text ∧
        c.before = rest := by
  induction before generalizing after pos feeds with
  | nil => rfl
  | cons d before ih =>
    by_cases hd : d = '<'
    · subst hd
      have hback := h.backward
      rw [if_neg (by decide)] at hback
      exact ⟨_, by rw [openSignFrom, if_pos rfl], hback, rfl⟩
    · rw [List.dropWhile_cons_of_pos (by simp [hd]), openSignFrom, if_neg hd]
      exact ih h.backward

theorem In.tagLine (h : c.In text) (stop : Nat) :
    (c.tagLine stop).2.In text ∧ (c.tagLine stop).1 = tagLineOf text stop := by
  obtain ⟨hin, hbefore⟩ := h.seek stop
  unfold LineCursor.tagLine tagLineOf beforeLastSign
  generalize c.seek stop = d at hin hbefore
  have hsign := openSignFrom_in hin
  rw [← hbefore, List.reverse_reverse]
  cases hdrop : d.before.dropWhile (· != '<') with
  | nil =>
    simp only [hdrop] at hsign
    simp only [hsign, Option.getD_none]
    exact ⟨hin, hin.line_eq⟩
  | cons sign rest =>
    simp only [hdrop] at hsign
    obtain ⟨d', hd', hin', hrest⟩ := hsign
    simp only [hd', Option.getD_some, ← hrest]
    exact ⟨hin', hin'.line_eq⟩

end LineCursor

end DeskConfig.Markup
