import DeskConfig.Json
import Mathlib.Logic.Function.Basic

/-!
Written values can be told apart. The first character of a written value tells what kind of
value it is, and the value itself tells where it ends: a number before the first character that
is no digit, anything else with a character of its own. So whatever follows two values, if the
texts are the same, then so are the values.
-/

namespace DeskConfig.Json

/-- What may follow a value: nothing that a number goes on with. -/
def Ends (rest : List Char) : Prop := ∀ c cs, rest = c :: cs → c.isDigit = false

theorem ends_nil : Ends [] := by
  intro c cs h
  contradiction

theorem ends_cons {c : Char} (hc : c.isDigit = false) (cs : List Char) : Ends (c :: cs) := by
  intro d ds h
  obtain ⟨rfl, -⟩ := List.cons.inj h
  exact hc

/-- A written form shows what was written, whatever may follow it. -/
def Shows (write : α → List Char) (a : α) : Prop :=
  ∀ b r s, Ends r → Ends s → write a ++ r = write b ++ s → a = b ∧ r = s

section Strings

/-- The characters that are written as a backslash and one more. -/
def shortEscapes : List (Char × Char) := [
  ('"', '"'), ('\\', '\\'), ('\x08', 'b'), ('\t', 't'), ('\n', 'n'), ('\x0c', 'f'), ('\r', 'r')]

/-- The ways to write a character. -/
inductive Escapes (c : Char) : List Char → Prop
  | plain : c ≠ '\\' → c ≠ '"' → Escapes c [c]
  | short {d : Char} : (c, d) ∈ shortEscapes → Escapes c ['\\', d]
  | control : c.toNat < 0x20 → Escapes c ('\\' :: 'u' :: '0' :: '0' :: hexByte c.toNat)

theorem escapes_escaped (c : Char) : Escapes c (escaped c) := by
  unfold escaped
  iterate 7
    split
    · next h =>
      subst h
      exact .short (by decide)
  split
  · next h => exact .control h
  · next hquote hbackslash _ _ _ _ _ _ => exact .plain hbackslash hquote

theorem hexByte_inj {m n : Nat} (hm : m < 0x20) (hn : n < 0x20) {x y : List Char}
    (h : hexByte m ++ x = hexByte n ++ y) : m = n ∧ x = y := by
  have hdigits : ∀ a < 16, ∀ b < 16, Nat.digitChar a = Nat.digitChar b → a = b := by decide
  simp only [hexByte, List.cons_append, List.nil_append, List.cons.injEq] at h
  obtain ⟨hhigh, hlow, hrest⟩ := h
  have hdiv := hdigits _ (by omega) _ (by omega) hhigh
  have hmod := hdigits _ (by omega) _ (by omega) hlow
  exact ⟨by omega, hrest⟩

/-- No way to write a character begins like a way to write another. -/
theorem Escapes.inj {c d : Char} {e f x y : List Char} (hc : Escapes c e) (hd : Escapes d f)
    (h : e ++ x = f ++ y) : c = d ∧ x = y := by
  have hsecond : ∀ p ∈ shortEscapes, ∀ q ∈ shortEscapes, p.2 = q.2 → p.1 = q.1 := by decide
  have hunicode : ∀ p ∈ shortEscapes, p.2 ≠ 'u' := by decide
  cases hc with
  | plain hbackslash _ =>
    cases hd with
    | plain => exact List.cons.inj h
    | short => exact absurd (List.cons.inj h).1 hbackslash
    | control => exact absurd (List.cons.inj h).1 hbackslash
  | short hmem =>
    cases hd with
    | plain hbackslash _ => exact absurd (List.cons.inj h).1.symm hbackslash
    | short hmem' =>
      obtain ⟨hsame, hrest⟩ := List.cons.inj (List.cons.inj h).2
      exact ⟨hsecond _ hmem _ hmem' hsame, hrest⟩
    | control => exact absurd (List.cons.inj (List.cons.inj h).2).1 (hunicode _ hmem)
  | control hlow =>
    cases hd with
    | plain hbackslash _ => exact absurd (List.cons.inj h).1.symm hbackslash
    | short hmem' => exact absurd (List.cons.inj (List.cons.inj h).2).1.symm (hunicode _ hmem')
    | control hlow' =>
      simp only [List.cons_append, List.cons.injEq, true_and] at h
      obtain ⟨hnat, hrest⟩ := hexByte_inj hlow hlow' h
      exact ⟨Char.toNat_inj.mp hnat, hrest⟩

/-- The character at the end of a string is not written that way inside it. -/
theorem Escapes.ne_quote {c : Char} {e x y : List Char} (hc : Escapes c e) :
    e ++ x ≠ '"' :: y := by
  intro h
  cases hc with
  | plain _ hquote => exact hquote (List.cons.inj h).1
  | short => exact absurd (List.cons.inj h).1 (by decide)
  | control => exact absurd (List.cons.inj h).1 (by decide)

theorem flatMap_escaped_inj {cs ds x y : List Char}
    (h : cs.flatMap escaped ++ '"' :: x = ds.flatMap escaped ++ '"' :: y) : cs = ds ∧ x = y := by
  induction cs generalizing ds with
  | nil =>
    cases ds with
    | nil => exact ⟨rfl, (List.cons.inj h).2⟩
    | cons d ds =>
      rw [List.flatMap_cons, List.append_assoc] at h
      exact absurd h.symm (escapes_escaped d).ne_quote
  | cons c cs ih =>
    rw [List.flatMap_cons, List.append_assoc] at h
    cases ds with
    | nil => exact absurd h (escapes_escaped c).ne_quote
    | cons d ds =>
      rw [List.flatMap_cons, List.append_assoc] at h
      obtain ⟨rfl, hrest⟩ := (escapes_escaped c).inj (escapes_escaped d) h
      obtain ⟨rfl, hxy⟩ := ih hrest
      exact ⟨rfl, hxy⟩

theorem quoted_inj {a b : String} {x y : List Char} (h : quoted a ++ x = quoted b ++ y) :
    a = b ∧ x = y := by
  simp only [quoted, List.cons_append, List.append_assoc, List.nil_append, List.cons.injEq,
    true_and] at h
  obtain ⟨hchars, hxy⟩ := flatMap_escaped_inj h
  exact ⟨String.toList_inj.mp hchars, hxy⟩

end Strings

section Numbers

theorem toDigits_inj {m n : Nat} (h : Nat.toDigits 10 m = Nat.toDigits 10 n) : m = n := by
  have hvalue := congrArg (Nat.ofDigitChars 10 · 0) h
  simpa only [Nat.ofDigitChars_ten_toDigits] using hvalue

theorem isDigit_of_mem_toDigits {n : Nat} {c : Char} (hc : c ∈ Nat.toDigits 10 n) :
    c.isDigit = true := Nat.isDigit_of_mem_toDigits (by decide) (by decide) hc

/-- Digits reach as far as they can before something that is no digit. -/
theorem digits_inj {ds es r s : List Char} (hds : ∀ c ∈ ds, c.isDigit = true)
    (hes : ∀ c ∈ es, c.isDigit = true) (hr : Ends r) (hs : Ends s) (h : ds ++ r = es ++ s) :
    ds = es ∧ r = s := by
  induction ds generalizing es with
  | nil =>
    cases es with
    | nil => exact ⟨rfl, h⟩
    | cons e es =>
      have hend : e.isDigit = false := hr e (es ++ s) h
      have hdigit : e.isDigit = true := hes e List.mem_cons_self
      exact absurd (hdigit.symm.trans hend) nofun
  | cons d ds ih =>
    cases es with
    | nil =>
      have hend : d.isDigit = false := hs d (ds ++ r) h.symm
      have hdigit : d.isDigit = true := hds d List.mem_cons_self
      exact absurd (hdigit.symm.trans hend) nofun
    | cons e es =>
      obtain ⟨rfl, hrest⟩ := List.cons.inj h
      obtain ⟨rfl, hrs⟩ := ih (fun c hc => hds c (List.mem_cons_of_mem _ hc))
        (fun c hc => hes c (List.mem_cons_of_mem _ hc)) hrest
      exact ⟨rfl, hrs⟩

theorem decimal_shows (n : Int) : Shows decimal n := by
  intro m r s hr hs h
  have hdigits : ∀ {k l : Nat} {x y : List Char}, Ends x → Ends y →
      Nat.toDigits 10 k ++ x = Nat.toDigits 10 l ++ y → k = l ∧ x = y := by
    intro k l x y hx hy hkl
    obtain ⟨hsame, hxy⟩ := digits_inj (fun _ => isDigit_of_mem_toDigits)
      (fun _ => isDigit_of_mem_toDigits) hx hy hkl
    exact ⟨toDigits_inj hsame, hxy⟩
  have hminus : ∀ {k : Nat} {x y : List Char}, '-' :: x ≠ Nat.toDigits 10 k ++ y := by
    intro k x y hk
    obtain ⟨c, cs, hcs⟩ := List.exists_cons_of_ne_nil
      (List.ne_nil_of_length_pos (Nat.length_toDigits_pos (b := 10) (n := k)))
    rw [hcs] at hk
    have hc : c.isDigit = true := isDigit_of_mem_toDigits (hcs ▸ List.mem_cons_self)
    rw [← (List.cons.inj hk).1] at hc
    contradiction
  unfold decimal at h
  split at h
  · next hn =>
    split at h
    · next hm =>
      obtain ⟨hsame, hrs⟩ := hdigits hr hs (List.cons.inj h).2
      exact ⟨by omega, hrs⟩
    · exact absurd h hminus
  · next hn =>
    split at h
    · exact absurd h.symm hminus
    · next hm =>
      obtain ⟨hsame, hrs⟩ := hdigits hr hs h
      exact ⟨by omega, hrs⟩

end Numbers

section Lists

/-- Texts on lines of their own, `separator` before the first. -/
def lines (level : Nat) (separator : List Char) : List (List Char) → List Char
  | [] => []
  | text :: texts => separator ++ (newLine level ++ (text ++ lines level [','] texts))

/-- Texts between brackets, which stand together if there is no text. -/
def bracketed (opening closing : Char) (level : Nat) (texts : List (List Char)) : List Char :=
  if texts.isEmpty then [opening, closing]
  else opening :: (lines (level + 1) [] texts ++ (newLine level ++ [closing]))

theorem renderItems_eq (level : Nat) (separator : List Char) (items : List Json) :
    renderItems level separator items = lines level separator (items.map (renderFrom level)) := by
  induction items generalizing separator with
  | nil => rw [renderItems, List.map_nil, lines]
  | cons item items ih => rw [renderItems, List.map_cons, lines, ih]

/-- A member as it is written. -/
def renderMember (level : Nat) (m : String × Json) : List Char :=
  quoted m.1 ++ (':' :: ' ' :: renderFrom level m.2)

theorem renderMembers_eq (level : Nat) (separator : List Char) (members : List (String × Json)) :
    renderMembers level separator members =
      lines level separator (members.map (renderMember level)) := by
  induction members generalizing separator with
  | nil => rw [renderMembers, List.map_nil, lines]
  | cons m members ih =>
    obtain ⟨name, value⟩ := m
    rw [renderMembers, List.map_cons, lines, ih, renderMember]
    simp only [List.append_assoc, List.cons_append]

theorem renderFrom_arr (level : Nat) (items : List Json) :
    renderFrom level (.arr items) =
      bracketed '[' ']' level (items.map (renderFrom (level + 1))) := by
  rw [renderFrom, bracketed, renderItems_eq, List.isEmpty_map]

theorem renderFrom_obj (level : Nat) (members : List (String × Json)) :
    renderFrom level (.obj members) =
      bracketed '\x7b' '\x7d' level (members.map (renderMember (level + 1))) := by
  rw [renderFrom, bracketed, renderMembers_eq, List.isEmpty_map]

variable {write : α → List Char} {level : Nat}

/-- After a text there is a comma or the line of the closing bracket. -/
theorem ends_lines (texts : List (List Char)) (r : List Char) :
    Ends (lines level [','] texts ++ '\n' :: r) := by
  cases texts with
  | nil => exact ends_cons (by decide) r
  | cons text texts => exact ends_cons (by decide) _

theorem lines_inj {xs ys : List α} (hxs : ∀ x ∈ xs, Shows write x) {r s : List Char}
    (h : lines level [','] (xs.map write) ++ '\n' :: r =
      lines level [','] (ys.map write) ++ '\n' :: s) : xs = ys ∧ r = s := by
  induction xs generalizing ys with
  | nil =>
    cases ys with
    | nil => exact ⟨rfl, (List.cons.inj h).2⟩
    | cons y ys => exact absurd (List.cons.inj h).1 (by decide)
  | cons x xs ih =>
    cases ys with
    | nil => exact absurd (List.cons.inj h).1 (by decide)
    | cons y ys =>
      obtain ⟨hx, hrest⟩ := List.forall_mem_cons.mp hxs
      simp only [List.map_cons, lines, List.append_assoc, List.append_cancel_left_eq] at h
      obtain ⟨rfl, htail⟩ := hx y _ _ (ends_lines _ r) (ends_lines _ s) h
      obtain ⟨rfl, hrs⟩ := ih hrest htail
      exact ⟨rfl, hrs⟩

theorem bracketed_inj {opening closing : Char} (hclosing : closing ≠ '\n') {xs ys : List α}
    (hxs : ∀ x ∈ xs, Shows write x) {r s : List Char}
    (h : bracketed opening closing level (xs.map write) ++ r =
      bracketed opening closing level (ys.map write) ++ s) : xs = ys ∧ r = s := by
  cases xs with
  | nil =>
    cases ys with
    | nil => exact ⟨rfl, (List.cons.inj (List.cons.inj h).2).2⟩
    | cons y ys => exact absurd (List.cons.inj (List.cons.inj h).2).1 hclosing
  | cons x xs =>
    cases ys with
    | nil => exact absurd (List.cons.inj (List.cons.inj h).2).1.symm hclosing
    | cons y ys =>
      obtain ⟨hx, hrest⟩ := List.forall_mem_cons.mp hxs
      simp only [bracketed, List.map_cons, List.isEmpty_cons, Bool.false_eq_true, if_false, lines,
        newLine, List.cons_append, List.nil_append, List.append_assoc, List.cons.injEq, true_and,
        List.append_cancel_left_eq] at h
      obtain ⟨rfl, htail⟩ := hx y _ _ (ends_lines _ _) (ends_lines _ _) h
      obtain ⟨rfl, hclosed⟩ := lines_inj hrest htail
      have hrs := List.append_cancel_left hclosed
      exact ⟨rfl, (List.cons.inj hrs).2⟩

end Lists

/-- Induction on values, with all that is right inside one. -/
theorem induction {motive : Json → Prop} (null : motive .null) (bool : ∀ b, motive (.bool b))
    (num : ∀ n, motive (.num n)) (str : ∀ s, motive (.str s))
    (arr : ∀ items, (∀ j ∈ items, motive j) → motive (.arr items))
    (obj : ∀ members, (∀ m ∈ members, motive m.2) → motive (.obj members)) (j : Json) :
    motive j := by
  refine Json.rec (motive_1 := motive) (motive_2 := fun items => ∀ j ∈ items, motive j)
    (motive_3 := fun members => ∀ m ∈ members, motive m.2) (motive_4 := fun m => motive m.2)
    null bool num str arr obj (fun _ hj => nomatch hj) ?_ (fun _ hm => nomatch hm) ?_ ?_ j
  · exact fun j items hj hitems => List.forall_mem_cons.mpr ⟨hj, hitems⟩
  · exact fun m members hm hmembers => List.forall_mem_cons.mpr ⟨hm, hmembers⟩
  · exact fun name value hvalue => hvalue

inductive Kind where
  | null
  | bool
  | num
  | str
  | arr
  | obj
deriving DecidableEq, Repr

def kind : Json → Kind
  | .null => .null
  | .bool _ => .bool
  | .num _ => .num
  | .str _ => .str
  | .arr _ => .arr
  | .obj _ => .obj

/-- The kind of value that a character begins. -/
def kindOf (c : Char) : Kind :=
  if c = 'n' then .null
  else if c = 't' ∨ c = 'f' then .bool
  else if c = '"' then .str
  else if c = '[' then .arr
  else if c = '\x7b' then .obj
  else .num

theorem kindOf_of_isDigit {c : Char} (hc : c.isDigit = true) : kindOf c = .num := by
  have hne : ∀ d : Char, d.isDigit = false → c ≠ d := by
    rintro d hd rfl
    rw [hc] at hd
    contradiction
  simp [kindOf, hne]

theorem exists_head_decimal (n : Int) : ∃ c cs, decimal n = c :: cs ∧ kindOf c = .num := by
  unfold decimal
  split
  · exact ⟨_, _, rfl, by decide⟩
  · obtain ⟨c, cs, hcs⟩ := List.exists_cons_of_ne_nil
      (List.ne_nil_of_length_pos (Nat.length_toDigits_pos (b := 10) (n := n.natAbs)))
    exact ⟨c, cs, hcs, kindOf_of_isDigit (isDigit_of_mem_toDigits (hcs ▸ List.mem_cons_self))⟩

theorem exists_head_bracketed (opening closing : Char) (level : Nat) (texts : List (List Char)) :
    ∃ cs, bracketed opening closing level texts = opening :: cs := by
  unfold bracketed
  split <;> exact ⟨_, rfl⟩

/-- The first character of a written value tells its kind. -/
theorem exists_head (level : Nat) (j : Json) :
    ∃ c cs, renderFrom level j = c :: cs ∧ kindOf c = j.kind := by
  cases j with
  | null => exact ⟨'n', _, by rw [renderFrom], rfl⟩
  | bool b =>
    cases b with
    | true => exact ⟨'t', _, by rw [renderFrom], rfl⟩
    | false => exact ⟨'f', _, by rw [renderFrom], rfl⟩
  | num n =>
    rw [renderFrom]
    exact exists_head_decimal n
  | str s => exact ⟨'"', _, by rw [renderFrom, quoted], rfl⟩
  | arr items =>
    obtain ⟨cs, hcs⟩ := exists_head_bracketed '[' ']' level (items.map (renderFrom (level + 1)))
    rw [renderFrom_arr, hcs]
    exact ⟨'[', cs, rfl, rfl⟩
  | obj members =>
    obtain ⟨cs, hcs⟩ := exists_head_bracketed '\x7b' '\x7d' level
      (members.map (renderMember (level + 1)))
    rw [renderFrom_obj, hcs]
    exact ⟨'\x7b', cs, rfl, rfl⟩

theorem kind_eq {level : Nat} {j k : Json} {r s : List Char}
    (h : renderFrom level j ++ r = renderFrom level k ++ s) : j.kind = k.kind := by
  obtain ⟨c, cs, hj, hc⟩ := exists_head level j
  obtain ⟨d, ds, hk, hd⟩ := exists_head level k
  rw [hj, hk] at h
  rw [← hc, ← hd, (List.cons.inj h).1]

theorem renderMember_shows {level : Nat} {m : String × Json}
    (hm : Shows (renderFrom level) m.2) : Shows (renderMember level) m := by
  intro m' r s hr hs h
  simp only [renderMember, List.append_assoc, List.cons_append] at h
  obtain ⟨hname, hrest⟩ := quoted_inj h
  obtain ⟨hvalue, hrs⟩ := hm m'.2 r s hr hs (List.cons.inj (List.cons.inj hrest).2).2
  exact ⟨Prod.ext hname hvalue, hrs⟩

/-- A written value shows what it is, on every level: by induction on what is inside it. -/
theorem renderFrom_shows (j : Json) (level : Nat) : Shows (renderFrom level) j := by
  induction j using Json.induction generalizing level with
  | null =>
    intro k r s _ _ h
    have hkind := kind_eq h
    cases k with
    | null => exact ⟨rfl, List.append_cancel_left h⟩
    | _ => contradiction
  | bool b =>
    intro k r s _ _ h
    have hkind := kind_eq h
    cases k with
    | bool b' =>
      cases b <;> cases b'
      case false.false | true.true => exact ⟨rfl, List.append_cancel_left h⟩
      all_goals
        simp only [renderFrom] at h
        exact absurd (List.cons.inj h).1 (by decide)
    | _ => contradiction
  | num n =>
    intro k r s hr hs h
    have hkind := kind_eq h
    cases k with
    | num m =>
      simp only [renderFrom] at h
      obtain ⟨rfl, hrs⟩ := decimal_shows n m r s hr hs h
      exact ⟨rfl, hrs⟩
    | _ => contradiction
  | str t =>
    intro k r s _ _ h
    have hkind := kind_eq h
    cases k with
    | str u =>
      simp only [renderFrom] at h
      obtain ⟨rfl, hrs⟩ := quoted_inj h
      exact ⟨rfl, hrs⟩
    | _ => contradiction
  | arr items ih =>
    intro k r s _ _ h
    have hkind := kind_eq h
    cases k with
    | arr items' =>
      simp only [renderFrom_arr] at h
      obtain ⟨rfl, hrs⟩ := bracketed_inj (by decide) (fun j hj => ih j hj (level + 1)) h
      exact ⟨rfl, hrs⟩
    | _ => contradiction
  | obj members ih =>
    intro k r s _ _ h
    have hkind := kind_eq h
    cases k with
    | obj members' =>
      simp only [renderFrom_obj] at h
      obtain ⟨rfl, hrs⟩ := bracketed_inj (by decide)
        (fun m hm => renderMember_shows (ih m hm (level + 1))) h
      exact ⟨rfl, hrs⟩
    | _ => contradiction

/-- Different values are written differently. -/
theorem render_injective : Function.Injective render := by
  intro j k h
  have hchars : renderFrom 0 j ++ [] = renderFrom 0 k ++ [] := by
    simpa [render] using congrArg String.toList h
  exact (renderFrom_shows j 0 k [] [] ends_nil ends_nil hchars).1

end DeskConfig.Json
