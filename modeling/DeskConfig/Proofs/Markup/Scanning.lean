import DeskConfig.Proofs.Markup.Writing

/-!
Scanning what was written. Every mark of a written document, read where it stands, is
one token, whatever follows it. Only text needs to be followed by something else than
text, since it is read up to the next less-than sign.
-/

namespace DeskConfig.Markup

open Text

section Escapes

theorem escape_cons (c : Char) (s : List Char) : escape (c :: s) = escapeChar c ++ escape s :=
  List.flatMap_cons

theorem escape_append (s t : List Char) : escape (s ++ t) = escape s ++ escape t :=
  List.flatMap_append

/-- Either a character is one of those that markup needs, or it is written as it is. -/
theorem escapeChar_cases (c : Char) :
    c = '&' ∨ c = '<' ∨ c = '>' ∨ c = '"' ∨ c = '\x27' ∨
      (escapeChar c = [c] ∧ c ≠ '&' ∧ c ≠ '<' ∧ c ≠ '>' ∧ c ≠ '"' ∧ c ≠ '\x27') := by
  unfold escapeChar
  split
  · exact .inl rfl
  · exact .inr (.inl rfl)
  · exact .inr (.inr (.inl rfl))
  · exact .inr (.inr (.inr (.inl rfl)))
  · exact .inr (.inr (.inr (.inr (.inl rfl))))
  · exact .inr (.inr (.inr (.inr (.inr ⟨rfl, ‹_›, ‹_›, ‹_›, ‹_›, ‹_›⟩))))

/-- An escaped character is read back, and reading goes on behind it. -/
theorem unescapeFrom_escapeChar (size pos : Nat) (c : Char) (cs : List Char) :
    unescapeFrom size none pos (escapeChar c ++ cs) =
      (unescapeFrom size none (pos + byteSize (escapeChar c)) cs).map (c :: ·) := by
  rcases escapeChar_cases c with rfl | rfl | rfl | rfl | rfl | ⟨hplain, hamp, -⟩
  case inr.inr.inr.inr.inr =>
    rw [hplain, List.singleton_append, unescapeFrom, if_neg hamp]
    rfl
  all_goals
    simp only [escapeChar, List.cons_append, List.nil_append, unescapeFrom]
    rfl

theorem unescapeFrom_escape (size pos : Nat) (s : List Char) :
    unescapeFrom size none pos (escape s) = .ok s := by
  induction s generalizing pos with
  | nil => rfl
  | cons c s ih =>
    rw [escape_cons, unescapeFrom_escapeChar, ih]
    rfl

theorem unescape_escape (s : List Char) : unescape (escape s) = .ok s :=
  unescapeFrom_escape _ _ s

theorem all_escapeChar (c : Char) :
    (escapeChar c).all (fun d => d != '<' && d != '>' && d != '"' && d != '\x27') = true := by
  rcases escapeChar_cases c with rfl | rfl | rfl | rfl | rfl | ⟨hplain, -, hc⟩
  case inr.inr.inr.inr.inr => simp [hplain, hc]
  all_goals rfl

/-- The characters that would end text or a value are gone when it is escaped. -/
theorem ne_of_mem_escape {c : Char} {s : List Char} (h : c ∈ escape s) :
    c ≠ '<' ∧ c ≠ '>' ∧ c ≠ '"' ∧ c ≠ '\x27' := by
  obtain ⟨d, _, hc⟩ := List.mem_flatMap.mp h
  simpa [and_assoc] using List.all_eq_true.mp (all_escapeChar d) c hc

end Escapes

section Tags

theorem isNameChar_iff {c : Char} :
    isNameChar c = true ↔ isSpace c = false ∧ c ≠ '<' ∧ c ≠ '>' ∧ c ≠ '/' ∧ c ≠ '=' ∧
      c ≠ '\x27' ∧ c ≠ '"' ∧ c ≠ '&' ∧ c ≠ '!' ∧ c ≠ '?' := by
  simp [isNameChar, and_assoc]

theorem PlainName.isSpace_eq_false (n : PlainName) {c : Char} (h : c ∈ n.chars) :
    isSpace c = false :=
  (isNameChar_iff.mp (n.plain c h)).1

/-- The attributes of a tag do not belong to its name. -/
theorem takeWhile_attributes (attributes : List NamedValue) :
    (attributes.flatMap NamedValue.written).takeWhile (!isSpace ·) = [] := by
  cases attributes with
  | nil => rfl
  | cons a attributes => rfl

theorem dropWhile_attributes (attributes : List NamedValue) :
    (attributes.flatMap NamedValue.written).dropWhile (!isSpace ·) =
      attributes.flatMap NamedValue.written := by
  cases attributes with
  | nil => rfl
  | cons a attributes => rfl

theorem tagName_tagContent (name : PlainName) (attributes : List NamedValue) :
    tagName (tagContent name attributes) = name.chars := by
  have hname : ∀ c ∈ name.chars, (!isSpace c) = true := fun c hc => by
    simp [name.isSpace_eq_false hc]
  rw [tagName, tagContent, List.takeWhile_append_of_pos hname, takeWhile_attributes,
    List.append_nil]

theorem cutTag_append {cs : List Char} (h : ∀ c ∈ cs, c ≠ '>' ∧ c ≠ '"' ∧ c ≠ '\x27')
    (ds : List Char) :
    cutTag none (cs ++ ds) = (cutTag none ds).map fun (content, rest) => (cs ++ content, rest) := by
  induction cs with
  | nil => simp
  | cons c cs ih =>
    obtain ⟨hc, hquot, hapos⟩ := h c List.mem_cons_self
    rw [List.cons_append, cutTag, if_neg hc, if_neg (by simp [hquot, hapos]),
      ih fun d hd => h d (List.mem_cons_of_mem c hd), Option.map_map]
    rfl

theorem cutTag_value {cs : List Char} (h : ∀ c ∈ cs, c ≠ '"') (ds : List Char) :
    cutTag (some '"') (cs ++ '"' :: ds) =
      (cutTag none ds).map fun (content, rest) => (cs ++ '"' :: content, rest) := by
  induction cs with
  | nil => rw [List.nil_append, cutTag, if_pos rfl]; rfl
  | cons c cs ih =>
    rw [List.cons_append, cutTag, if_neg (h c List.mem_cons_self),
      ih fun d hd => h d (List.mem_cons_of_mem c hd), Option.map_map]
    rfl

theorem cutTag_attribute (a : NamedValue) (ds : List Char) :
    cutTag none (a.written ++ ds) =
      (cutTag none ds).map fun (content, rest) => (a.written ++ content, rest) := by
  have hname : ∀ c ∈ ' ' :: a.name.chars ++ ['='], c ≠ '>' ∧ c ≠ '"' ∧ c ≠ '\x27' := by
    intro c hc
    simp only [List.cons_append, List.mem_cons, List.mem_append, List.not_mem_nil,
      or_false] at hc
    rcases hc with rfl | hc | rfl
    · decide
    · obtain ⟨-, -, hgt, -, -, hapos, hquot, -⟩ := isNameChar_iff.mp (a.name.plain c hc)
      exact ⟨hgt, hquot, hapos⟩
    · decide
  have hvalue : ∀ c ∈ escape a.value, c ≠ '"' := fun c hc => (ne_of_mem_escape hc).2.2.1
  have hsplit : ∀ rest, a.written ++ rest =
      (' ' :: a.name.chars ++ ['=']) ++ '"' :: (escape a.value ++ '"' :: rest) := by
    intro rest
    simp [NamedValue.written]
  rw [hsplit, cutTag_append hname, cutTag, if_neg (by decide), if_pos (by decide),
    cutTag_value hvalue, Option.map_map, Option.map_map]
  congr 1
  funext ⟨content, rest⟩
  simp only [Function.comp_apply, hsplit]

theorem cutTag_tagContent (name : PlainName) (attributes : List NamedValue) (ds : List Char) :
    cutTag none (tagContent name attributes ++ ds) =
      (cutTag none ds).map fun (content, rest) =>
        (tagContent name attributes ++ content, rest) := by
  have hattributes : cutTag none (attributes.flatMap NamedValue.written ++ ds) =
      (cutTag none ds).map fun (content, rest) =>
        (attributes.flatMap NamedValue.written ++ content, rest) := by
    induction attributes with
    | nil => simp
    | cons a attributes ih =>
      rw [List.flatMap_cons, List.append_assoc, cutTag_attribute, ih, Option.map_map]
      congr 1
      funext ⟨content, rest⟩
      simp only [Function.comp_apply, List.append_assoc]
  have hname : ∀ c ∈ name.chars, c ≠ '>' ∧ c ≠ '"' ∧ c ≠ '\x27' := by
    intro c hc
    obtain ⟨-, -, hgt, -, -, hapos, hquot, -⟩ := isNameChar_iff.mp (name.plain c hc)
    exact ⟨hgt, hquot, hapos⟩
  rw [tagContent, List.append_assoc, cutTag_append hname, hattributes, Option.map_map]
  congr 1
  funext ⟨content, rest⟩
  simp only [Function.comp_apply, List.append_assoc]

theorem getLast?_tagContent (name : PlainName) (attributes : List NamedValue) :
    (tagContent name attributes).getLast? ≠ some '/' := by
  rcases List.eq_nil_or_concat attributes with rfl | ⟨init, a, rfl⟩
  · intro hlast
    have hmem : '/' ∈ name.chars := by
      rw [tagContent, List.flatMap_nil, List.append_nil] at hlast
      exact List.mem_of_getLast? hlast
    have hplain := name.plain '/' hmem
    contradiction
  · have hwritten : tagContent name (init ++ [a]) =
        (name.chars ++ init.flatMap NamedValue.written ++
          (' ' :: a.name.chars ++ ['=', '"'] ++ escape a.value)) ++ ['"'] := by
      simp [tagContent, NamedValue.written]
    rw [List.concat_eq_append, hwritten, List.getLast?_concat]
    decide

end Tags

section Attributes

variable (size : Nat)

theorem scanAttributesFrom_name {cs : List Char} (h : ∀ c ∈ cs, isNameChar c = true)
    (name : List Char) (pos : Nat) (ds : List Char) :
    scanAttributesFrom size (.name name) pos (cs ++ '=' :: ds) =
      scanAttributesFrom size (.beforeValue (cs.reverse ++ name)) (pos + byteSize cs + 1) ds := by
  induction cs generalizing name pos with
  | nil => rfl
  | cons c cs ih =>
    obtain ⟨hspace, -, -, -, hequals, -⟩ := isNameChar_iff.mp (h c List.mem_cons_self)
    rw [List.cons_append, scanAttributesFrom, if_neg hequals, if_neg (by simp [hspace]),
      ih fun d hd => h d (List.mem_cons_of_mem c hd)]
    simp [byteSize, Nat.add_assoc]

theorem scanAttributesFrom_value {quote : Char} {cs : List Char} (h : ∀ c ∈ cs, c ≠ quote)
    (name value : List Char) (pos : Nat) (ds : List Char) :
    scanAttributesFrom size (.value name quote value) pos (cs ++ quote :: ds) =
      (scanAttributesFrom size .between (pos + byteSize cs + 1) ds).cons
        { name := name.reverse, value := value.reverse ++ cs } := by
  induction cs generalizing value pos with
  | nil => simp [scanAttributesFrom, byteSize]
  | cons c cs ih =>
    rw [List.cons_append, scanAttributesFrom, if_neg (h c List.mem_cons_self),
      ih fun d hd => h d (List.mem_cons_of_mem c hd)]
    simp [byteSize, Nat.add_assoc]

def NamedValue.raw (a : NamedValue) : RawAttribute where
  name := a.name.chars
  value := escape a.value

theorem scanAttributesFrom_written (a : NamedValue) (pos : Nat) (ds : List Char) :
    scanAttributesFrom size .between pos (a.written ++ ds) =
      (scanAttributesFrom size .between (pos + byteSize a.written) ds).cons a.raw := by
  obtain ⟨c, cs, hname⟩ := List.exists_cons_of_ne_nil a.name.ne_nil
  have hc : isNameChar c = true := a.name.plain c (by rw [hname]; exact List.mem_cons_self)
  have hcs : ∀ d ∈ cs, isNameChar d = true := fun d hd =>
    a.name.plain d (by rw [hname]; exact List.mem_cons_of_mem c hd)
  have hvalue : ∀ d ∈ escape a.value, d ≠ '"' := fun d hd => (ne_of_mem_escape hd).2.2.1
  have hsplit : a.written ++ ds =
      ' ' :: c :: (cs ++ '=' :: '"' :: (escape a.value ++ '"' :: ds)) := by
    simp [NamedValue.written, hname]
  have hsize : pos + byteSize a.written =
      pos + 1 + c.utf8Size + byteSize cs + 1 + 1 + byteSize (escape a.value) + 1 := by
    have hsigns : ' '.utf8Size = 1 ∧ '='.utf8Size = 1 ∧ '"'.utf8Size = 1 := by decide
    simp only [NamedValue.written, hname, byteSize_append, byteSize, hsigns]
    omega
  rw [hsplit, hsize, scanAttributesFrom, if_pos (by decide), scanAttributesFrom,
    if_neg (by simp [(isNameChar_iff.mp hc).1]), scanAttributesFrom_name size hcs,
    scanAttributesFrom, if_neg (by decide), if_pos (by decide),
    scanAttributesFrom_value size hvalue]
  simp [NamedValue.raw, hname]

theorem scanAttributesFrom_flatMap (attributes : List NamedValue) (pos : Nat) :
    scanAttributesFrom size .between pos (attributes.flatMap NamedValue.written) =
      { attributes := attributes.map NamedValue.raw } := by
  induction attributes generalizing pos with
  | nil => rfl
  | cons a attributes ih => rw [List.flatMap_cons, scanAttributesFrom_written, ih]; rfl

theorem decodeAttributes_raw (attributes : List NamedValue) :
    decodeAttributes none (attributes.map NamedValue.raw) =
      .ok (attributes.map NamedValue.toAttribute) := by
  induction attributes with
  | nil => rfl
  | cons a attributes ih =>
    rw [List.map_cons, decodeAttributes, NamedValue.raw, unescape_escape]
    simp only [ih]
    rfl

/-- A written tag opens an element of its name with its attributes. -/
theorem openElement_tagContent (name : PlainName) (attributes : List NamedValue)
    (origin : Origin) :
    openElement (tagContent name attributes) origin =
      .ok { tag := .ofSpelling (String.ofList name.chars)
            attributes := attributes.map NamedValue.toAttribute
            origin := origin } := by
  have hname : ∀ c ∈ name.chars, (!isSpace c) = true := fun c hc => by
    simp [name.isSpace_eq_false hc]
  have hscan : scanAttributes (tagContent name attributes) =
      { attributes := attributes.map NamedValue.raw } := by
    rw [scanAttributes]
    conv =>
      lhs
      arg 4
      rw [tagContent]
    rw [List.dropWhile_append_of_pos hname, dropWhile_attributes, scanAttributesFrom_flatMap]
  rw [openElement, readAttributes]
  simp only [hscan, decodeAttributes_raw, tagName_tagContent]
  rfl

end Attributes

section Sections

/-- A section reaches to the first greater-than sign that can end it. -/
theorem cutSection_append (kind : Section) {before cs : List Char}
    (hwithin : ∀ pre post, cs = pre ++ '>' :: post →
      kind.endsAfter (pre.reverse ++ before) = false)
    (hend : kind.endsAfter (cs.reverse ++ before) = true) (rest : List Char) :
    cutSection kind before (cs ++ '>' :: rest) = some (before.reverse ++ cs, rest) := by
  induction cs generalizing before with
  | nil =>
    rw [List.nil_append, cutSection, if_pos ⟨rfl, hend⟩, List.append_nil]
  | cons c cs ih =>
    have hc : ¬(c = '>' ∧ kind.endsAfter before = true) := by
      rintro ⟨rfl, hbefore⟩
      rw [← List.nil_append before, ← List.reverse_nil, hwithin [] cs rfl] at hbefore
      contradiction
    have hcut : cutSection kind (c :: before) (cs ++ '>' :: rest) =
        some ((c :: before).reverse ++ cs, rest) := by
      apply ih
      · intro pre post h
        simpa using hwithin (c :: pre) post (by rw [h]; rfl)
      · simpa using hend
    rw [List.cons_append, cutSection, if_neg hc, hcut]
    simp

def cdataStart : List Char := ['!', '[', 'C', 'D', 'A', 'T', 'A', '[']

/-- The two brackets behind the body do not begin another end of character data. -/
theorem infix_of_brackets {body pre post : List Char}
    (h : pre ++ ([']', ']', '>'] ++ post) = body ++ [']', ']']) : [']', ']', '>'] <:+: body := by
  rw [← List.append_assoc] at h
  rcases List.append_eq_append_iff.mp h with ⟨gap, hbody, -⟩ | ⟨gap, hpre, hgap⟩
  · exact ⟨pre, gap, hbody.symm⟩
  · rcases List.eq_nil_or_concat gap with rfl | ⟨init, c, rfl⟩
    · rw [List.append_nil] at hpre
      exact ⟨pre, [], by rw [List.append_nil, hpre]⟩
    · have hlast := congrArg List.getLast? hpre
      rw [List.concat_eq_append, ← List.append_assoc, List.getLast?_concat,
        List.getLast?_append] at hlast
      have hc : c = '>' := by simpa using hlast.symm
      have hmem : c ∈ [']', ']'] := by
        rw [hgap]
        simp
      rw [hc] at hmem
      contradiction

/-- The end of character data does not show up before its end. -/
theorem CharacterData.not_infix (d : CharacterData) :
    ¬ [']', ']', '>'] <:+: cdataStart ++ d.body ++ [']', ']'] := by
  rintro ⟨pre, post, h⟩
  apply d.unended
  rw [List.append_assoc, List.append_assoc] at h
  rcases List.append_eq_append_iff.mp h with ⟨gap, hstart, hrest⟩ | ⟨gap, rfl, hrest⟩
  · cases gap with
    | nil => exact infix_of_brackets ((List.nil_append _).trans hrest)
    | cons c gap =>
      have hc : c = ']' := by simpa using (List.cons.inj hrest).1.symm
      have hmem : c ∈ cdataStart := by
        rw [hstart]
        simp
      rw [hc] at hmem
      contradiction
  · exact infix_of_brackets hrest.symm

theorem exists_of_endsAfter_cdata {before : List Char}
    (h : Section.endsAfter .cdata before = true) : ∃ p, before = ']' :: ']' :: p := by
  unfold Section.endsAfter at h
  split at h
  · exact ⟨_, rfl⟩
  all_goals contradiction

theorem cutSection_cdata (d : CharacterData) (rest : List Char) :
    cutSection .cdata [] (cdataStart ++ d.body ++ [']', ']'] ++ '>' :: rest) =
      some (cdataStart ++ d.body ++ [']', ']'], rest) := by
  refine cutSection_append .cdata ?_ ?_ rest
  · intro pre post h
    rw [List.append_nil, ← Bool.not_eq_true]
    intro hends
    obtain ⟨p, hp⟩ := exists_of_endsAfter_cdata hends
    apply d.not_infix
    refine ⟨p.reverse, post, ?_⟩
    rw [h, ← List.reverse_reverse pre, hp]
    simp
  · simp [Section.endsAfter]

theorem cutSection_comment (c : Comment) (rest : List Char) :
    cutSection .comment [] (['!', '-', '-'] ++ c.body ++ ['-', '-'] ++ '>' :: rest) =
      some (['!', '-', '-'] ++ c.body ++ ['-', '-'], rest) := by
  refine cutSection_append .comment ?_ ?_ rest
  · intro pre post h
    have hmem : '>' ∈ ['!', '-', '-'] ++ c.body ++ ['-', '-'] := by
      rw [h]
      simp
    have hbody : '>' ∈ c.body := by simpa using hmem
    exact absurd rfl (c.plain '>' hbody).2
  · have hreverse : (['!', '-', '-'] ++ c.body ++ ['-', '-']).reverse ++ [] =
        '-' :: '-' :: (c.body.reverse ++ ['-', '-', '!']) := by
      simp
    rw [hreverse]
    rcases c.body.reverse with _ | ⟨d, _ | ⟨e, _ | ⟨f, ds⟩⟩⟩ <;> rfl

end Sections

section Steps

variable (pos : Nat) (rest : List Char)

theorem cutOrAll_append {cs : List Char} (h : ∀ c ∈ cs, c ≠ '>') :
    cutOrAll (cs ++ '>' :: rest) = (cs, rest, true) := by
  induction cs with
  | nil => rw [List.nil_append, cutOrAll, if_pos rfl]
  | cons c cs ih =>
    rw [List.cons_append, cutOrAll, if_neg (h c List.mem_cons_self),
      ih fun d hd => h d (List.mem_cons_of_mem c hd)]

theorem step_tag {c : Char} (h : c ≠ '!' ∧ c ≠ '/' ∧ c ≠ '?') (cs : List Char) :
    step pos ('<' :: c :: cs) = tagStep (pos + 1) (c :: cs) := by
  obtain ⟨hbang, hslash, hquery⟩ := h
  unfold step
  split <;> simp_all

theorem step_of_ne_sign {c : Char} (h : c ≠ '<') (cs : List Char) :
    step pos (c :: cs) = textStep pos (c :: cs) := by
  unfold step
  split <;> simp_all

/-- What a mark is read as. -/
def Mark.piece : Mark → Piece
  | .text s => .text (escape s)
  | .cdata d => .cdata d.body
  | .comment _ => .aside
  | .instruction _ => .aside
  | .opening name attributes => .opening (tagContent name attributes)
  | .short name attributes => .selfClosing (tagContent name attributes)
  | .closing name => .closing name.chars

theorem step_tagContent (name : PlainName) (attributes : List NamedValue) (cs : List Char) :
    step pos ('<' :: (tagContent name attributes ++ cs)) =
      tagStep (pos + 1) (tagContent name attributes ++ cs) := by
  obtain ⟨c, tail, hname⟩ := List.exists_cons_of_ne_nil name.ne_nil
  obtain ⟨-, -, -, hslash, -, -, -, -, hbang, hquery⟩ :=
    isNameChar_iff.mp (name.plain c (by rw [hname]; exact List.mem_cons_self))
  rw [tagContent, hname, List.cons_append, List.cons_append]
  exact step_tag pos ⟨hbang, hslash, hquery⟩ _

theorem step_opening (name : PlainName) (attributes : List NamedValue) :
    step pos ((Mark.opening name attributes).written ++ rest) =
      .token { piece := .opening (tagContent name attributes)
               stop := pos + byteSize (Mark.opening name attributes).written } rest := by
  have hwritten : (Mark.opening name attributes).written ++ rest =
      '<' :: (tagContent name attributes ++ '>' :: rest) := by
    simp [Mark.written]
  have hcut : cutTag none (tagContent name attributes ++ '>' :: rest) =
      some (tagContent name attributes, rest) := by
    rw [cutTag_tagContent, cutTag, if_pos rfl]
    simp
  have hstop : pos + 1 + byteSize (tagContent name attributes) + 1 =
      pos + byteSize (Mark.opening name attributes).written := by
    have hsigns : '<'.utf8Size = 1 ∧ '>'.utf8Size = 1 := by decide
    simp only [Mark.written, byteSize_append, byteSize, hsigns, List.cons_append]
    omega
  rw [hwritten, step_tagContent, tagStep, hcut]
  simp only [if_neg (getLast?_tagContent name attributes), hstop]

theorem step_short (name : PlainName) (attributes : List NamedValue) :
    step pos ((Mark.short name attributes).written ++ rest) =
      .token { piece := .selfClosing (tagContent name attributes)
               stop := pos + byteSize (Mark.short name attributes).written } rest := by
  have hwritten : (Mark.short name attributes).written ++ rest =
      '<' :: (tagContent name attributes ++ '/' :: '>' :: rest) := by
    simp [Mark.written]
  have hcut : cutTag none (tagContent name attributes ++ '/' :: '>' :: rest) =
      some (tagContent name attributes ++ ['/'], rest) := by
    rw [cutTag_tagContent, cutTag, if_neg (by decide), if_neg (by decide), cutTag, if_pos rfl]
    rfl
  have hstop : pos + 1 + byteSize (tagContent name attributes ++ ['/']) + 1 =
      pos + byteSize (Mark.short name attributes).written := by
    have hsigns : '<'.utf8Size = 1 ∧ '/'.utf8Size = 1 ∧ '>'.utf8Size = 1 := by decide
    simp only [Mark.written, byteSize_append, byteSize, hsigns, List.cons_append]
    omega
  rw [hwritten, step_tagContent, tagStep, hcut]
  simp only [List.getLast?_concat, if_true, List.dropLast_concat, hstop]

theorem step_closing (name : PlainName) :
    step pos ((Mark.closing name).written ++ rest) =
      .token { piece := .closing name.chars
               stop := pos + byteSize (Mark.closing name).written } rest := by
  have hname : ∀ c ∈ name.chars, c ≠ '>' := fun c hc =>
    (isNameChar_iff.mp (name.plain c hc)).2.2.1
  have hwritten : (Mark.closing name).written ++ rest =
      '<' :: '/' :: (name.chars ++ '>' :: rest) := by
    simp [Mark.written]
  have hstop : pos + 2 + byteSize name.chars + 1 =
      pos + byteSize (Mark.closing name).written := by
    have hsigns : '<'.utf8Size = 1 ∧ '/'.utf8Size = 1 ∧ '>'.utf8Size = 1 := by decide
    simp only [Mark.written, byteSize_append, byteSize, hsigns]
    omega
  rw [hwritten, step, closingStep, cutOrAll_append rest hname]
  simp only [if_true, hstop]

theorem step_instruction (i : Instruction) :
    step pos ((Mark.instruction i).written ++ rest) =
      .token { piece := .aside
               stop := pos + byteSize (Mark.instruction i).written } rest := by
  have hcontent : ∀ c ∈ '?' :: i.body ++ ['?'], c ≠ '>' := by
    intro c hc
    simp only [List.cons_append, List.mem_cons, List.mem_append, List.not_mem_nil,
      or_false] at hc
    rcases hc with rfl | hc | rfl
    · decide
    · exact (i.plain c hc).2
    · decide
  have hwritten : (Mark.instruction i).written ++ rest =
      '<' :: '?' :: (i.body ++ ['?'] ++ '>' :: rest) := by
    simp [Mark.written]
  have hcut : cutOrAll ('?' :: (i.body ++ ['?'] ++ '>' :: rest)) =
      ('?' :: i.body ++ ['?'], rest, true) := cutOrAll_append rest hcontent
  have hsigns : '<'.utf8Size = 1 ∧ '?'.utf8Size = 1 ∧ '>'.utf8Size = 1 := by decide
  have hlong : byteSize ('?' :: i.body ++ ['?']) > 2 := by
    obtain ⟨c, cs, hbody⟩ := List.exists_cons_of_ne_nil i.ne_nil
    have hpos := c.utf8Size_pos
    simp only [hbody, byteSize_append, byteSize, hsigns, List.cons_append]
    omega
  have hstop : pos + 1 + byteSize ('?' :: i.body ++ ['?']) + 1 =
      pos + byteSize (Mark.instruction i).written := by
    simp only [Mark.written, byteSize_append, byteSize, hsigns, List.cons_append]
    omega
  rw [hwritten, step, instructionStep, hcut]
  simp only [if_true, hstop]
  rw [if_pos ⟨hlong, List.getLast?_concat⟩]

/-- A section that is cut out and recognised is a token. -/
theorem step_section {kind : Section} {symbol : Char} {content cs : List Char} {piece : Piece}
    (hsymbol : Section.ofChar? symbol = some kind)
    (hcut : cutSection kind [] ('!' :: symbol :: cs) = some (content, rest))
    (hpiece : kind.piece content = .ok piece) :
    step pos ('<' :: '!' :: symbol :: cs) =
      .token { piece, stop := pos + 1 + byteSize content + 1 } rest := by
  rw [step, sectionStep]
  simp only [List.drop_succ_cons, List.drop_zero, hsymbol, hcut, hpiece]

theorem step_cdata (d : CharacterData) :
    step pos ((Mark.cdata d).written ++ rest) =
      .token { piece := .cdata d.body
               stop := pos + byteSize (Mark.cdata d).written } rest := by
  have hwritten : (Mark.cdata d).written ++ rest =
      '<' :: (cdataStart ++ d.body ++ [']', ']'] ++ '>' :: rest) := by
    simp [Mark.written, cdataStart]
  have hpiece : Section.piece .cdata (cdataStart ++ d.body ++ [']', ']']) =
      .ok (.cdata d.body) := by
    have hprefix : ['!', '[', 'c', 'd', 'a', 't', 'a', '['].isPrefixOf
        (lowerCase (cdataStart ++ d.body ++ [']', ']'])) = true := by
      rw [List.isPrefixOf_iff_prefix, lowerCase, List.append_assoc, List.map_append]
      exact List.prefix_append _ _
    have hbody : ((cdataStart ++ d.body ++ [']', ']']).drop 8).dropLast.dropLast = d.body := by
      have hdrop : (cdataStart ++ d.body ++ [']', ']']).drop 8 = d.body ++ [']'] ++ [']'] := by
        simp [cdataStart]
      rw [hdrop, List.dropLast_concat, List.dropLast_concat]
    rw [Section.piece, if_pos hprefix, hbody]
  have hstop : pos + 1 + byteSize (cdataStart ++ d.body ++ [']', ']']) + 1 =
      pos + byteSize (Mark.cdata d).written := by
    have hsigns : byteSize ['<', '!', '[', 'C', 'D', 'A', 'T', 'A', '['] = 9 ∧
        byteSize cdataStart = 8 ∧ byteSize [']', ']'] = 2 ∧ byteSize [']', ']', '>'] = 3 := by
      decide
    simp only [Mark.written, byteSize_append, hsigns]
    omega
  rw [hwritten, ← hstop]
  exact step_section pos rest rfl (cutSection_cdata d rest) hpiece

theorem step_comment (c : Comment) :
    step pos ((Mark.comment c).written ++ rest) =
      .token { piece := .aside, stop := pos + byteSize (Mark.comment c).written } rest := by
  have hwritten : (Mark.comment c).written ++ rest =
      '<' :: (['!', '-', '-'] ++ c.body ++ ['-', '-'] ++ '>' :: rest) := by
    simp [Mark.written]
  have hstop : pos + 1 + byteSize (['!', '-', '-'] ++ c.body ++ ['-', '-']) + 1 =
      pos + byteSize (Mark.comment c).written := by
    have hsigns : byteSize ['<', '!', '-', '-'] = 4 ∧ byteSize ['!', '-', '-'] = 3 ∧
        byteSize ['-', '-'] = 2 ∧ byteSize ['-', '-', '>'] = 3 := by
      decide
    simp only [Mark.written, byteSize_append, hsigns]
    omega
  rw [hwritten, ← hstop]
  exact step_section pos rest rfl (cutSection_comment c rest) rfl

/-- Every mark but text is one token, whatever comes behind it. -/
theorem step_mark (m : Mark) (hm : ∀ s, m ≠ .text s) :
    step pos (m.written ++ rest) =
      .token { piece := m.piece, stop := pos + byteSize m.written } rest := by
  cases m with
  | text s => exact absurd rfl (hm s)
  | cdata d => exact step_cdata pos rest d
  | comment c => exact step_comment pos rest c
  | instruction i => exact step_instruction pos rest i
  | opening name attributes => exact step_opening pos rest name attributes
  | short name attributes => exact step_short pos rest name attributes
  | closing name => exact step_closing pos rest name

theorem escape_ne_nil {s : List Char} (hs : s ≠ []) : escape s ≠ [] := by
  obtain ⟨c, cs, rfl⟩ := List.exists_cons_of_ne_nil hs
  rw [escape_cons]
  rcases escapeChar_cases c with rfl | rfl | rfl | rfl | rfl | ⟨hplain, -⟩
  case inr.inr.inr.inr.inr => simp [hplain]
  all_goals simp [escapeChar]

/-- Text is read up to the next mark. -/
theorem step_text {s : List Char} (hs : s ≠ []) (hrest : rest.takeWhile (· != '<') = []) :
    ∃ stop, step pos (escape s ++ rest) =
        .token { piece := .text (escape s), stop := stop } rest ∧
      (rest ≠ [] → stop = pos + byteSize (escape s)) := by
  have hplain : ∀ c ∈ escape s, (c != '<') = true := fun c hc => by
    simp [(ne_of_mem_escape hc).1]
  have htake : (escape s ++ rest).takeWhile (· != '<') = escape s := by
    rw [List.takeWhile_append_of_pos hplain, hrest, List.append_nil]
  have hdrop : (escape s ++ rest).dropWhile (· != '<') = rest := by
    have hwhole := List.takeWhile_append_dropWhile (p := (· != '<')) (l := rest)
    rw [hrest, List.nil_append] at hwhole
    rw [List.dropWhile_append_of_pos hplain, hwhole]
  obtain ⟨c, cs, hescape⟩ := List.exists_cons_of_ne_nil (escape_ne_nil hs)
  have hc : c ≠ '<' := by
    have hmem : c ∈ escape s := by
      rw [hescape]
      exact List.mem_cons_self
    exact (ne_of_mem_escape hmem).1
  have hstep : step pos (escape s ++ rest) = textStep pos (escape s ++ rest) := by
    rw [hescape, List.cons_append]
    exact step_of_ne_sign pos hc _
  rw [hstep, textStep, htake, hdrop]
  refine ⟨_, rfl, ?_⟩
  intro hne
  simp [hne]

end Steps

end DeskConfig.Markup
