import DeskConfig.Proofs.Markup.Places
import DeskConfig.Proofs.Markup.Tags

/-!
The lines of tags. Scanning takes a text apart and leaves nothing out, so every tag stands in
the text where its position says. An element gets the line of the last less-than sign in front
of the end of its tag. That is the sign that opens the tag unless the tag has another one in a
value, or a byte order mark in front of the text, which positions do not count, puts the end
that is looked for in front of the tag.
-/

namespace DeskConfig.Markup

open Text

section Cuts

variable {content rest : List Char}

theorem eq_of_cutTag {quote : Option Char} {cs : List Char}
    (h : cutTag quote cs = some (content, rest)) : cs = content ++ '>' :: rest := by
  induction cs generalizing quote content with
  | nil => contradiction
  | cons c cs ih =>
    have hinner : ∀ {quote : Option Char} {p : List Char × List Char},
        cutTag quote cs = some p → (c :: p.1, p.2) = (content, rest) →
          c :: cs = content ++ '>' :: rest := by
      intro quote p hcut heq
      cases heq
      rw [ih hcut, List.cons_append]
    cases quote with
    | some q =>
      obtain ⟨p, hcut, heq⟩ := Option.map_eq_some_iff.mp h
      exact hinner hcut heq
    | none =>
      rw [cutTag] at h
      split at h
      · next hc =>
        cases h
        rw [hc, List.nil_append]
      · obtain ⟨p, hcut, heq⟩ := Option.map_eq_some_iff.mp h
        exact hinner hcut heq

theorem eq_of_cutOrAll {found : Bool} {cs : List Char}
    (h : cutOrAll cs = (content, rest, found)) :
    cs = content ++ (if found then ['>'] else []) ++ rest ∧ (found = false → rest = []) := by
  induction cs generalizing content with
  | nil =>
    cases h
    exact ⟨rfl, fun _ => rfl⟩
  | cons c cs ih =>
    rw [cutOrAll] at h
    split at h
    · next hc =>
      cases h
      exact ⟨by simp [hc], nofun⟩
    · cases h
      obtain ⟨heq, hrest⟩ := ih rfl
      exact ⟨by rw [List.cons_append, List.cons_append, ← heq], hrest⟩

theorem eq_of_cutSection {kind : Section} {before cs : List Char}
    (h : cutSection kind before cs = some (content, rest)) :
    before.reverse ++ cs = content ++ '>' :: rest := by
  induction cs generalizing before with
  | nil => contradiction
  | cons c cs ih =>
    rw [cutSection] at h
    split at h
    · next hc =>
      cases h
      rw [hc.1]
    · rw [← ih h]
      simp

end Cuts

namespace OpeningTag

/-- What stands between the angle brackets of a tag. -/
def inner (t : OpeningTag) : List Char :=
  if t.selfClosing then t.content ++ ['/'] else t.content

def written (t : OpeningTag) : List Char := '<' :: t.inner ++ ['>']

end OpeningTag

/-- What a token is of the text that it was scanned from: it ends behind what it takes, unless
nothing follows, and a tag is all that it takes. -/
structure Token.Takes (pos : Nat) (token : Token) (taken rest : List Char) : Prop where
  stop : rest ≠ [] → token.stop = pos + byteSize taken
  tag : ∀ depth t, token.tag? depth = some t →
    taken = t.written ∧ token.stop = pos + byteSize taken

/-- A token without a tag only has to end in the right place. -/
theorem Token.Takes.of_none {pos : Nat} {token : Token} {taken rest : List Char}
    (h : rest ≠ [] → token.stop = pos + byteSize taken) (hnone : token.tag? 0 = none) :
    token.Takes pos taken rest where
  stop := h
  tag := by
    intro depth t ht
    unfold Token.tag? at hnone ht
    split at ht <;> simp_all

section Steps

variable {pos : Nat} {cs rest : List Char} {token : Token}

theorem byteSize_bracketed (content : List Char) :
    byteSize ('<' :: content ++ ['>']) = byteSize content + 2 := by
  rw [List.cons_append, byteSize, byteSize_append]
  change 1 + (byteSize content + 1) = _
  omega

theorem tag?_of_section {kind : Section} {content : List Char} {piece : Piece}
    (h : kind.piece content = .ok piece) (stop : Nat) :
    Token.tag? 0 ⟨piece, stop⟩ = none := by
  unfold Section.piece at h
  split at h <;> split at h
  · cases h
    rfl
  · contradiction
  · cases h
    rfl
  · contradiction
  · split at h
    · contradiction
    · cases h
      rfl
  · contradiction

theorem exists_taken_section (h : sectionStep (pos + 1) cs = .token token rest) :
    ∃ taken, '<' :: cs = taken ++ rest ∧ token.Takes pos taken rest := by
  unfold sectionStep at h
  split at h
  · contradiction
  split at h
  · contradiction
  split at h
  · contradiction
  next content rest' hcut =>
  have hcs : cs = content ++ '>' :: rest' := eq_of_cutSection hcut
  split at h
  · next piece hpiece =>
    cases h
    refine ⟨'<' :: content ++ ['>'], by simp [hcs], .of_none (fun _ => ?_)
      (tag?_of_section hpiece _)⟩
    rw [byteSize_bracketed]
    change pos + 1 + byteSize content + 1 = _
    omega
  · contradiction

/-- Instructions and closing tags reach to a greater-than sign or to the end. -/
theorem exists_taken_of_cutOrAll (mark : List Char) {content : List Char} {found : Bool}
    (h : cutOrAll cs = (content, rest, found))
    (hstop : token.stop = pos + byteSize mark + byteSize content + if found then 1 else 0)
    (hnone : token.tag? 0 = none) :
    ∃ taken, mark ++ cs = taken ++ rest ∧ token.Takes pos taken rest := by
  obtain ⟨hcs, hend⟩ := eq_of_cutOrAll h
  refine ⟨mark ++ content ++ if found then ['>'] else [], by simp [hcs], .of_none ?_ hnone⟩
  intro hrest
  cases found with
  | false => exact absurd (hend rfl) hrest
  | true =>
    rw [hstop, byteSize_append, byteSize_append]
    simp only [if_true]
    change _ = _ + (_ + 1)
    omega

theorem exists_taken_tag (h : tagStep (pos + 1) cs = .token token rest) :
    ∃ taken, '<' :: cs = taken ++ rest ∧ token.Takes pos taken rest := by
  unfold tagStep at h
  split at h
  · contradiction
  next content rest' hcut =>
  have hcs : cs = content ++ '>' :: rest' := eq_of_cutTag hcut
  have hstop : pos + 1 + byteSize content + 1 = pos + byteSize ('<' :: content ++ ['>']) := by
    rw [byteSize_bracketed]
    omega
  split at h
  · next hlast =>
    have hslash : content.dropLast ++ ['/'] = content := List.dropLast_append_getLast? _ hlast
    cases h
    refine ⟨'<' :: content ++ ['>'], by simp [hcs], fun _ => hstop, ?_⟩
    intro depth t ht
    cases ht
    exact ⟨by simp [OpeningTag.written, OpeningTag.inner, hslash], hstop⟩
  · cases h
    refine ⟨'<' :: content ++ ['>'], by simp [hcs], fun _ => hstop, ?_⟩
    intro depth t ht
    cases ht
    exact ⟨rfl, hstop⟩

theorem exists_taken_text (h : textStep pos cs = .token token rest) :
    ∃ taken, cs = taken ++ rest ∧ token.Takes pos taken rest := by
  unfold textStep at h
  cases h
  refine ⟨cs.takeWhile (· != '<'), List.takeWhile_append_dropWhile.symm, .of_none ?_ rfl⟩
  intro hrest
  rw [if_neg (by simpa using hrest)]

/-- Whatever a token is, it takes the next part of the text. -/
theorem exists_taken (h : step pos cs = .token token rest) :
    ∃ taken, cs = taken ++ rest ∧ token.Takes pos taken rest := by
  unfold step at h
  split at h
  · contradiction
  · contradiction
  · exact exists_taken_section h
  · unfold closingStep at h
    cases h
    exact exists_taken_of_cutOrAll ['<', '/'] rfl rfl rfl
  · unfold instructionStep at h
    simp only at h
    split at h
    · cases h
      exact exists_taken_of_cutOrAll ['<'] rfl rfl rfl
    · contradiction
  · exact exists_taken_tag h
  · exact exists_taken_text h

end Steps

theorem stop_of_tag? {depth : Nat} {token : Token} {t : OpeningTag}
    (h : token.tag? depth = some t) : t.stop = token.stop := by
  unfold Token.tag? at h
  split at h <;> cases h <;> rfl

theorem tokens_scanFrom_nil (count pos : Nat) : (scanFrom count pos []).tokens = [] := by
  cases count <;> rfl

/-- Each tag that is scanned stands where its position says. -/
theorem exists_place_from {count depth : Nat} (before : List Char) {cs : List Char}
    {t : OpeningTag}
    (ht : t ∈ openingTags depth (scanFrom count (byteSize before) cs).tokens) :
    ∃ pre rest, before ++ cs = pre ++ t.written ++ rest ∧
      t.stop = byteSize (pre ++ t.written) := by
  induction count generalizing depth before cs with
  | zero => contradiction
  | succ count ih =>
    rw [scanFrom] at ht
    cases hstep : step (byteSize before) cs with
    | finished =>
      rw [hstep] at ht
      contradiction
    | failed cause place =>
      rw [hstep] at ht
      contradiction
    | token token rest =>
      rw [hstep] at ht
      obtain ⟨taken, rfl, htakes⟩ := exists_taken hstep
      rcases List.mem_append.mp ht with ht | ht
      · have htag := Option.mem_toList.mp ht
        obtain ⟨htaken, hstop⟩ := htakes.tag depth t htag
        refine ⟨before, rest, by rw [htaken, List.append_assoc], ?_⟩
        rw [stop_of_tag? htag, hstop, htaken, byteSize_append]
      · by_cases hrest : rest = []
        · rw [hrest, tokens_scanFrom_nil] at ht
          contradiction
        · rw [htakes.stop hrest, ← byteSize_append] at ht
          rw [← List.append_assoc]
          exact ih (before ++ taken) ht

/-- The byte order mark at the start of a text, if there is one. -/
def leadingMark : List Char → List Char
  | c :: _ => if c.toNat = 0xFEFF then [c] else []
  | [] => []

theorem leadingMark_append (text : List Char) : leadingMark text ++ dropMark text = text := by
  cases text with
  | nil => rfl
  | cons c cs => by_cases hc : c.toNat = 0xFEFF <;> simp [leadingMark, dropMark, hc]

/-- Where a tag stands: what is before it in the text, with the byte order mark. Its position
does not count that mark. -/
structure OpeningTag.StandsBehind (text before : List Char) (t : OpeningTag) : Prop where
  text_eq : ∃ rest, text = before ++ t.written ++ rest
  stop_eq : byteSize (leadingMark text) + t.stop = byteSize (before ++ t.written)

theorem exists_standsBehind {text : String} {t : OpeningTag} (ht : t ∈ tagsOf text) :
    ∃ before, t.StandsBehind text.toList before := by
  obtain ⟨pre, rest, htext, hstop⟩ := exists_place_from [] ht
  rw [List.nil_append] at htext
  refine ⟨leadingMark text.toList ++ pre, ⟨rest, ?_⟩, ?_⟩
  · rw [List.append_assoc, List.append_assoc, ← List.append_assoc pre, ← htext,
      leadingMark_append]
  · rw [hstop, List.append_assoc, ← byteSize_append]

section LastSign

variable {cs ds : List Char}

/-- What stands in front of a text with a less-than sign is before the last one. -/
theorem beforeLastSign_append_of_mem (h : '<' ∈ ds) :
    beforeLastSign (cs ++ ds) = cs ++ beforeLastSign ds := by
  obtain ⟨pre, tail, rfl, htail⟩ := exists_last_sign h
  rw [← List.append_assoc, beforeLastSign_append htail, beforeLastSign_append htail]

end LastSign

namespace OpeningTag

variable {text before : List Char} {t : OpeningTag}

/-- The part of a tag in front of its last less-than sign, if the last `lost` bytes of the tag
are not looked at. -/
def beforeSign (lost : Nat) (t : OpeningTag) : List Char :=
  beforeLastSign (startingBefore (byteSize t.written - lost) t.written)

/-- A tag that is longer than the mark in front of the text is on the line of its last
less-than sign. -/
theorem StandsBehind.tagLineOf_eq (h : t.StandsBehind text before)
    (hlong : byteSize (leadingMark text) < byteSize t.written) :
    tagLineOf text t.stop =
      min maxLine (1 + (before ++ t.beforeSign (byteSize (leadingMark text))).count '\n') := by
  obtain ⟨⟨rest, htext⟩, hstop⟩ := h
  rw [byteSize_append] at hstop
  generalize byteSize (leadingMark text) = lost at hlong hstop
  have hpos : t.stop - byteSize before = byteSize t.written - lost := by omega
  have hsign : '<' ∈ startingBefore (byteSize t.written - lost) t.written := by
    rw [written, List.cons_append, startingBefore_cons]
    · exact List.mem_cons_self
    · change 0 < byteSize t.written - lost
      omega
  rw [tagLineOf, htext, List.append_assoc, startingBefore_append_of_le (by omega), hpos,
    startingBefore_append_of_ge (by omega), beforeLastSign_append_of_mem hsign]
  rfl

/-- A tag without another less-than sign in it has nothing in front of its last one. -/
theorem beforeSign_eq_nil {lost : Nat} (hsign : '<' ∉ t.inner)
    (hlost : lost < byteSize t.written) : t.beforeSign lost = [] := by
  have htail : ∀ target, '<' ∉ startingBefore target (t.inner ++ ['>']) := by
    intro target hmem
    have hinner := (isPrefix_startingBefore target _).subset hmem
    simp [hsign] at hinner
  have hpos : 0 < byteSize t.written - lost := by omega
  rw [beforeSign]
  generalize byteSize t.written - lost = seen at hpos
  rw [written, List.cons_append, startingBefore_cons hpos, ← List.nil_append ('<' :: _)]
  exact beforeLastSign_append (htail _)

/-- A tag that is no longer than the mark in front of the text is on the line that a tag before
it would be on. -/
theorem StandsBehind.tagLineOf_eq_before (h : t.StandsBehind text before)
    (hshort : byteSize t.written ≤ byteSize (leadingMark text)) :
    tagLineOf text t.stop = tagLineOf before t.stop := by
  obtain ⟨⟨rest, htext⟩, hstop⟩ := h
  rw [byteSize_append] at hstop
  rw [tagLineOf, htext, List.append_assoc, startingBefore_append_of_ge (by omega), tagLineOf]

end OpeningTag

/-- The elements of an accepted text are, in document order, those of its tags, and the line of
each one is counted from what is before the last less-than sign of its tag. Where a tag has no
less-than sign but its own, and no byte order mark that is as long as the tag is at the start of
the text, that is what is before the tag. Behind such a mark, the line of a short tag is looked
for in what is before it. -/
theorem lines_are_those_of_tags {file text : String} {es : List Element}
    (h : parse file text = .ok es) :
    List.Forall₂ (fun t p => t.Opens file text.toList p ∧
      ∃ before, t.StandsBehind text.toList before ∧
        let lost := byteSize (leadingMark text.toList)
        (lost < byteSize t.written → '<' ∉ t.inner →
          p.2.origin = { file, line := min maxLine (1 + before.count '\n') }) ∧
        (lost < byteSize t.written → p.2.origin =
          { file, line := min maxLine (1 + (before ++ t.beforeSign lost).count '\n') }) ∧
        (byteSize t.written ≤ lost → p.2.origin = { file, line := tagLineOf before t.stop }))
      (tagsOf text) (Element.walk es) := by
  have hplaces : ∀ t ∈ tagsOf text, ∃ before, t.StandsBehind text.toList before :=
    fun t ht => exists_standsBehind ht
  refine ((List.forall₂_and_left _ _).mpr ⟨hplaces, opens_of_parse h⟩).imp ?_
  rintro t p ⟨⟨before, hbehind⟩, hopens⟩
  refine ⟨hopens, before, hbehind, ?_, ?_, ?_⟩
  · intro hlong hsign
    rw [hopens.origin, hbehind.tagLineOf_eq hlong, OpeningTag.beforeSign_eq_nil hsign hlong,
      List.append_nil]
  · intro hlong
    rw [hopens.origin, hbehind.tagLineOf_eq hlong]
  · intro hshort
    rw [hopens.origin, hbehind.tagLineOf_eq_before hshort]

/-- A short tag on the first line, and another on the second that closes itself. -/
def twoTagsText : String := "<a>\n<b k='x'/></a>"

theorem lines_are_those_of_tags_second :
    ∃ e inner t before, parse "f" twoTagsText = .ok [e] ∧ e.children = [inner] ∧
      t ∈ tagsOf twoTagsText ∧ t.selfClosing = true ∧
      t.StandsBehind twoTagsText.toList before ∧ inner.origin.line = 2 ∧
      inner.origin = { file := "f", line := min maxLine (1 + before.count '\n') } := by
  let inner : Element :=
    { tag := .unknown "b", attributes := [⟨"k", "x"⟩], origin := ⟨"f", 2⟩ }
  let e : Element := { tag := .unknown "a", children := [inner], origin := ⟨"f", 1⟩ }
  let t : OpeningTag := ⟨1, "b k='x'".toList, true, 14⟩
  have hparse : parse "f" twoTagsText = .ok [e] := rfl
  have htags : tagsOf twoTagsText = [⟨0, ['a'], false, 3⟩, t] := rfl
  have hwalk : Element.walk [e] = [(0, e), (1, inner)] := rfl
  have hlines := lines_are_those_of_tags hparse
  rw [htags, hwalk, List.forall₂_cons, List.forall₂_cons] at hlines
  obtain ⟨-, before, hbehind, hplain, -⟩ := hlines.2.1
  refine ⟨e, inner, t, before, hparse, rfl, by simp [htags], rfl, hbehind, rfl, ?_⟩
  exact hplain (by decide) (by decide)

/-- A value with a line feed and a less-than sign in it. -/
def signText : String := "<a k='\n<'/>"

/-- A mark at the start of the text, and a short tag on the second line. -/
def markedText : String := "\uFEFF<a>\n<b></b></a>"

/-- The only tag is at the start of its text, but its element is not on the first line. Behind
a mark, the inner one of two tags is on the second line, but its element is on the first. -/
theorem lines_can_be_missed :
    (∃ t e, tagsOf signText = [t] ∧ parse "f" signText = .ok [e] ∧
      t.StandsBehind signText.toList [] ∧ e.origin.line = 2) ∧
    ∃ t t' e e', tagsOf markedText = [t, t'] ∧ parse "f" markedText = .ok [e] ∧
      e.children = [e'] ∧ t'.StandsBehind markedText.toList "\uFEFF<a>\n".toList ∧
      e'.origin.line = 1 := by
  refine ⟨⟨_, _, rfl, rfl, ?_, rfl⟩, ⟨_, _, _, _, rfl, rfl, rfl, ?_, rfl⟩⟩
  · exact ⟨⟨[], rfl⟩, rfl⟩
  · exact ⟨⟨"</b></a>".toList, rfl⟩, rfl⟩

end DeskConfig.Markup
