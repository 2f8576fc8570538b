import DeskConfig.Proofs.Markup.Reading
import DeskConfig.Proofs.Markup.Scanning

/-!
Written documents are read back. Texts that are written one behind the other are read
as one, so the marks of a document are first joined; each of them is then one token,
and the tokens of an element, taken in one after the other, finish that element.
-/

namespace DeskConfig.Markup

open Text

section Scans

/-- Scanning from a byte position to the end gives the tokens. -/
inductive Scans : (pos : Nat) → List Char → List Token → Prop
  | finished {pos cs} : step pos cs = .finished → Scans pos cs []
  | token {pos cs rest t tokens} : step pos cs = .token t rest → rest.length < cs.length →
      Scans t.stop rest tokens → Scans pos cs (t :: tokens)

theorem scanFrom_of_scans {pos count : Nat} {cs : List Char} {tokens : List Token}
    (h : Scans pos cs tokens) (hcount : cs.length ≤ count) :
    scanFrom count pos cs = { tokens := tokens } := by
  induction h generalizing count with
  | finished hstep =>
    cases count with
    | zero => rfl
    | succ count => rw [scanFrom, hstep]
  | token hstep hlength _ ih =>
    obtain ⟨count, rfl⟩ : ∃ n, count = n + 1 := ⟨count - 1, by omega⟩
    rw [scanFrom, hstep]
    simp only [ih (show _ ≤ count by omega)]
    rfl

end Scans

section Joining

/-- A text in front of marks. It becomes one with a text that they begin with. -/
def textBefore (s : List Char) : List Mark → List Mark
  | .text s' :: marks => .text (s ++ s') :: marks
  | marks => if s = [] then marks else .text s :: marks

/-- Marks without empty texts and without one text behind another. -/
def joined : List Mark → List Mark
  | [] => []
  | .text s :: marks => textBefore s (joined marks)
  | m :: marks => m :: joined marks

def beginsWithText : List Mark → Bool
  | .text _ :: _ => true
  | _ => false

/-- No text is empty or directly in front of another. -/
def Apart : List Mark → Prop
  | [] => True
  | .text s :: marks => s ≠ [] ∧ beginsWithText marks = false ∧ Apart marks
  | _ :: marks => Apart marks

theorem text_or_not (m : Mark) : (∃ s, m = .text s) ∨ ∀ s, m ≠ .text s := by
  cases m with
  | text s => exact .inl ⟨s, rfl⟩
  | _ => exact .inr fun s => by simp

section NotText

variable {m : Mark} {marks : List Mark} (hm : ∀ s, m ≠ .text s)

include hm

theorem joined_of_not_text : joined (m :: marks) = m :: joined marks := by
  rw [joined]
  exact hm

theorem apart_of_not_text : Apart (m :: marks) ↔ Apart marks := by
  rw [Apart]
  exact hm

end NotText

theorem textBefore_of_not_text {marks : List Mark} (h : beginsWithText marks = false)
    (s : List Char) : textBefore s marks = if s = [] then marks else .text s :: marks := by
  unfold textBefore
  split
  · contradiction
  · rfl

theorem writtenAll_cons (m : Mark) (marks : List Mark) :
    writtenAll (m :: marks) = m.written ++ writtenAll marks :=
  List.flatMap_cons

theorem writtenAll_textBefore (s : List Char) (marks : List Mark) :
    writtenAll (textBefore s marks) = escape s ++ writtenAll marks := by
  unfold textBefore
  split
  · rw [writtenAll_cons, writtenAll_cons, Mark.written, Mark.written, escape_append,
      List.append_assoc]
  · split
    · rename_i hs
      rw [hs]
      rfl
    · rw [writtenAll_cons, Mark.written]

theorem writtenAll_joined (marks : List Mark) : writtenAll (joined marks) = writtenAll marks := by
  induction marks with
  | nil => rfl
  | cons m marks ih =>
    rcases text_or_not m with ⟨s, rfl⟩ | hm
    · rw [joined, writtenAll_textBefore, ih, writtenAll_cons, Mark.written]
    · rw [joined_of_not_text hm, writtenAll_cons, writtenAll_cons, ih]

theorem apart_textBefore (s : List Char) {marks : List Mark} (h : Apart marks) :
    Apart (textBefore s marks) := by
  cases hbegin : beginsWithText marks with
  | false =>
    rw [textBefore_of_not_text hbegin]
    split
    · exact h
    · rename_i hs
      exact ⟨hs, hbegin, h⟩
  | true =>
    unfold beginsWithText at hbegin
    split at hbegin
    · obtain ⟨hs, hnext, hrest⟩ := h
      exact ⟨by simp [hs], hnext, hrest⟩
    · contradiction

theorem apart_joined (marks : List Mark) : Apart (joined marks) := by
  induction marks with
  | nil => trivial
  | cons m marks ih =>
    rcases text_or_not m with ⟨s, rfl⟩ | hm
    · exact apart_textBefore s ih
    · rw [joined_of_not_text hm, apart_of_not_text hm]
      exact ih

end Joining

section Building

/-- The forest takes in marks one after the other. `feeds` counts the line feeds before
them. -/
inductive Forest.Builds (file : String) : (feeds : Nat) → Forest → List Mark → Forest → Prop
  | nil {feeds f} : Builds file feeds f [] f
  | cons {feeds f f' f'' m marks} : f.Takes file (min maxLine (1 + feeds)) m.piece f' →
      Builds file (feeds + m.written.count '\n') f' marks f'' →
      Builds file feeds f (m :: marks) f''

variable {file : String} {feeds : Nat} {f f' f'' : Forest}

theorem Forest.Builds.append {marks marks' : List Mark} (h : f.Builds file feeds marks f')
    (h' : f'.Builds file (feeds + feedsIn marks) marks' f'') :
    f.Builds file feeds (marks ++ marks') f'' := by
  induction h with
  | nil => exact h'
  | @cons feeds f f₁ f' m marks htakes _ ih =>
    refine .cons htakes (ih ?_)
    rw [Nat.add_assoc]
    rw [feedsIn, writtenAll_cons, List.count_append] at h'
    exact h'

/-- Only the line of a tag that opens an element matters. -/
theorem takes_of_other_line {line line' : Nat} {piece : Piece}
    (hopening : ∀ content, piece ≠ .opening content)
    (hshort : ∀ content, piece ≠ .selfClosing content) (h : f.Takes file line piece f') :
    f.Takes file line' piece f' := by
  cases h with
  | @opening content => exact absurd rfl (hopening content)
  | @selfClosing content => exact absurd rfl (hshort content)
  | closing hstack hname => exact .closing hstack hname
  | text hstack hdecoded => exact .text hstack hdecoded
  | outside hstack => exact .outside hstack
  | cdata => exact .cdata
  | aside => exact .aside

theorem addText_nil (f : Forest) : f.addText [] = f := by
  obtain ⟨stack, roots⟩ := f
  cases stack with
  | nil => rfl
  | cons top below => simp [Forest.addText]

theorem addText_addText (f : Forest) (s s' : List Char) :
    (f.addText s).addText s' = f.addText (s ++ s') := by
  obtain ⟨stack, roots⟩ := f
  cases stack with
  | nil => rfl
  | cons top below => simp [Forest.addText]

/-- Text goes to the innermost open element, if there is one. -/
theorem takes_text_iff {line : Nat} {s : List Char} :
    f.Takes file line (.text (escape s)) f' ↔ f' = f.addText s := by
  constructor
  · intro h
    cases h with
    | text hstack hdecoded =>
      rw [unescape_escape] at hdecoded
      cases hdecoded
      rfl
    | outside hstack =>
      obtain ⟨stack, roots⟩ := f
      cases hstack
      rfl
  · rintro rfl
    by_cases hstack : f.stack = []
    · have hsame : f.addText s = f := by
        obtain ⟨stack, roots⟩ := f
        cases hstack
        rfl
      rw [hsame]
      exact .outside hstack
    · exact .text hstack (unescape_escape s)

theorem builds_text_iff {s : List Char} {marks : List Mark} :
    f.Builds file feeds (.text s :: marks) f' ↔
      (f.addText s).Builds file (feeds + (escape s).count '\n') marks f' := by
  constructor
  · intro h
    cases h with
    | cons htakes hrest =>
      rw [Mark.piece, takes_text_iff] at htakes
      rw [← htakes]
      exact hrest
  · intro h
    exact .cons (takes_text_iff.mpr rfl) h

theorem builds_textBefore {s : List Char} {marks : List Mark}
    (h : (f.addText s).Builds file (feeds + (escape s).count '\n') marks f') :
    f.Builds file feeds (textBefore s marks) f' := by
  unfold textBefore
  split
  · rw [builds_text_iff, addText_addText, Nat.add_assoc, ← List.count_append,
      ← escape_append] at h
    exact builds_text_iff.mpr h
  · split
    · rename_i hs
      rw [hs, addText_nil] at h
      exact h
    · exact builds_text_iff.mpr h

theorem builds_joined {marks : List Mark} (h : f.Builds file feeds marks f') :
    f.Builds file feeds (joined marks) f' := by
  induction h with
  | nil => exact .nil
  | @cons feeds f f₁ f' m marks htakes _ ih =>
    rcases text_or_not m with ⟨s, rfl⟩ | hm
    · rw [Mark.piece, takes_text_iff] at htakes
      rw [htakes] at ih
      exact builds_textBefore ih
    · rw [joined_of_not_text hm]
      exact .cons htakes ih

theorem sign_not_mem_tagContent (name : PlainName) (attributes : List NamedValue) :
    '<' ∉ tagContent name attributes := by
  have hname : ∀ n : PlainName, '<' ∉ n.chars := fun n hmem =>
    absurd rfl (isNameChar_iff.mp (n.plain '<' hmem)).2.1
  have hvalue : ∀ a : NamedValue, '<' ∉ escape a.value := fun a hmem =>
    absurd rfl (ne_of_mem_escape hmem).1
  intro hmem
  rcases List.mem_append.mp hmem with hmem | hmem
  · exact hname name hmem
  · obtain ⟨a, -, ha⟩ := List.mem_flatMap.mp hmem
    simp [NamedValue.written, hname, hvalue] at ha

/-- A mark is taken in on the line that it begins on. -/
theorem takes_at_stop {m : Mark} {pre rest : List Char}
    (h : f.Takes file (min maxLine (1 + pre.count '\n')) m.piece f') :
    f.Takes file (tagLineOf (pre ++ m.written ++ rest) (byteSize (pre ++ m.written)))
      m.piece f' := by
  cases m with
  | opening name attributes =>
    have htail : '<' ∉ tagContent name attributes ++ ['>'] := by
      simp [sign_not_mem_tagContent]
    rw [Mark.written, List.cons_append, tagLineOf_append htail]
    exact h
  | short name attributes =>
    have htail : '<' ∉ tagContent name attributes ++ ['/', '>'] := by
      simp [sign_not_mem_tagContent]
    rw [Mark.written, List.cons_append, tagLineOf_append htail]
    exact h
  | _ => exact takes_of_other_line (by simp [Mark.piece]) (by simp [Mark.piece]) h

theorem exists_written_cons {m : Mark} (hm : ∀ s, m ≠ .text s) :
    ∃ tail, m.written = '<' :: tail := by
  cases m with
  | text s => exact absurd rfl (hm s)
  | _ => exact ⟨_, rfl⟩

theorem writtenAll_ne_nil {marks : List Mark} (hapart : Apart marks) (hne : marks ≠ []) :
    writtenAll marks ≠ [] := by
  obtain ⟨m, marks, rfl⟩ := List.exists_cons_of_ne_nil hne
  rw [writtenAll_cons]
  rcases text_or_not m with ⟨s, rfl⟩ | hm
  · exact List.append_ne_nil_of_left_ne_nil (escape_ne_nil hapart.1) _
  · obtain ⟨tail, htail⟩ := exists_written_cons hm
    simp [htail]

theorem takeWhile_writtenAll {marks : List Mark} (h : beginsWithText marks = false) :
    (writtenAll marks).takeWhile (· != '<') = [] := by
  cases marks with
  | nil => rfl
  | cons m marks =>
    rcases text_or_not m with ⟨s, rfl⟩ | hm
    · contradiction
    · obtain ⟨tail, htail⟩ := exists_written_cons hm
      rw [writtenAll_cons, htail, List.cons_append, List.takeWhile_cons_of_neg (by decide)]

/-- What a forest takes in as marks, it takes in as the tokens of the written marks. -/
theorem exists_tokens_of_builds {marks : List Mark} (h : f.Builds file feeds marks f')
    (hapart : Apart marks) (pos : Nat) (pre : List Char) (hfeeds : feeds = pre.count '\n')
    (hpos : marks ≠ [] → pos = byteSize pre) :
    ∃ tokens, Scans pos (writtenAll marks) tokens ∧
      f.TakesAll file (pre ++ writtenAll marks) tokens f' := by
  induction h generalizing pos pre with
  | nil => exact ⟨[], .finished rfl, .nil⟩
  | @cons feeds f f₁ f' m marks htakes _ ih =>
    have hhere := hpos (List.cons_ne_nil m marks)
    have hcount : feeds + m.written.count '\n' = (pre ++ m.written).count '\n' := by
      rw [hfeeds, List.count_append]
    have hsplit : pre ++ writtenAll (m :: marks) = pre ++ m.written ++ writtenAll marks := by
      rw [writtenAll_cons, List.append_assoc]
    rw [hfeeds] at htakes
    rw [hsplit]
    rcases text_or_not m with ⟨s, rfl⟩ | hm
    · obtain ⟨hs, hnext, hrest⟩ := hapart
      obtain ⟨stop, hstep, hstop⟩ :=
        step_text pos (writtenAll marks) hs (takeWhile_writtenAll hnext)
      obtain ⟨tokens, hscans, htakesAll⟩ := ih hrest stop _ hcount (by
        intro hne
        rw [hstop (writtenAll_ne_nil hrest hne), hhere, byteSize_append, Mark.written])
      rw [← Mark.written, ← writtenAll_cons] at hstep
      refine ⟨_ :: tokens, .token hstep ?_ hscans, .cons ?_ htakesAll⟩
      · have hpositive := List.length_pos_iff.mpr (escape_ne_nil hs)
        rw [writtenAll_cons, Mark.written, List.length_append]
        omega
      · exact takes_of_other_line (by simp) (by simp) htakes
    · obtain ⟨tokens, hscans, htakesAll⟩ := ih ((apart_of_not_text hm).mp hapart)
        (byteSize (pre ++ m.written)) _ hcount (fun _ => rfl)
      obtain ⟨tail, htail⟩ := exists_written_cons hm
      have hstep := step_mark pos (writtenAll marks) m hm
      rw [← writtenAll_cons, hhere, ← byteSize_append, ← hhere] at hstep
      refine ⟨_ :: tokens, .token hstep ?_ hscans, .cons ?_ htakesAll⟩
      · rw [writtenAll_cons, htail, List.length_append, List.length_cons]
        omega
      · exact takes_at_stop htakes

end Building

section Content

variable {file : String}

/-- Adds the text and the elements that stand in the content of the innermost open
element. -/
def Forest.addContent (f : Forest) (text : List Char) (es : List Element) : Forest :=
  (es.foldl Forest.attach f).addText text

theorem addText_attach (f : Forest) (s : List Char) (e : Element) :
    (f.addText s).attach e = (f.attach e).addText s := by
  obtain ⟨stack, roots⟩ := f
  cases stack <;> rfl

theorem addContent_addText (f : Forest) (s text : List Char) (es : List Element) :
    (f.addText s).addContent text es = f.addContent (s ++ text) es := by
  induction es generalizing f with
  | nil => exact addText_addText f s text
  | cons e es ih =>
    have hnext := ih (f.attach e)
    rw [← addText_attach] at hnext
    exact hnext

theorem addContent_cons (top : OpenElement) (below : List OpenElement) (roots : List Element)
    (text : List Char) (es : List Element) :
    Forest.addContent { stack := top :: below, roots } text es =
      { stack := { top with text := top.text ++ text,
                            children := es.reverse ++ top.children } :: below
        roots } := by
  induction es generalizing top with
  | nil => rfl
  | cons e es ih =>
    have hnext := ih { top with children := e :: top.children }
    simp only [Forest.addContent, Forest.attach, List.foldl_cons] at hnext ⊢
    rw [hnext]
    simp

theorem addContent_nil (roots : List Element) (text : List Char) (es : List Element) :
    Forest.addContent { stack := [], roots } text es =
      { stack := [], roots := es.reverse ++ roots } := by
  induction es generalizing roots with
  | nil => rfl
  | cons e es ih =>
    have hnext := ih (e :: roots)
    simp only [Forest.addContent, Forest.attach, List.foldl_cons] at hnext ⊢
    rw [hnext]
    simp

theorem closingName_chars (name : PlainName) : closingName name.chars = name.chars := by
  have hdrop : name.chars.reverse.dropWhile isSpace = name.chars.reverse := by
    have hne : name.chars.reverse ≠ [] := by simp [name.ne_nil]
    obtain ⟨c, cs, hname⟩ := List.exists_cons_of_ne_nil hne
    have hmem : c ∈ name.chars := by
      rw [← List.mem_reverse, hname]
      exact List.mem_cons_self
    rw [hname, List.dropWhile_cons_of_neg (by simp [name.isSpace_eq_false hmem])]
  unfold closingName
  rw [hdrop, List.reverse_reverse]
  split <;> rfl

theorem feedsIn_singleton (m : Mark) : feedsIn [m] = m.written.count '\n' := by
  rw [feedsIn, writtenAll_cons, writtenAll, List.flatMap_nil, List.append_nil]

/-- Text and character data are added as they are met. -/
theorem builds_leaf {m : Mark} {marks : List Mark} {f : Forest} {feeds : Nat}
    {s text : List Char} {es : List Element}
    (hm : ∀ line, f.Takes file line m.piece (f.addText s))
    (h : (f.addText s).Builds file (feeds + feedsIn [m]) marks
      ((f.addText s).addContent text es)) :
    f.Builds file feeds (m :: marks) (f.addContent (s ++ text) es) := by
  rw [feedsIn_singleton, addContent_addText] at h
  exact .cons (hm _) h

/-- A mark that stands for nothing is passed over. -/
theorem builds_aside {m : Mark} {marks : List Mark} {f f' : Forest} {feeds : Nat}
    (hm : m.piece = .aside) (h : f.Builds file (feeds + feedsIn [m]) marks f') :
    f.Builds file feeds (m :: marks) f' := by
  rw [feedsIn_singleton] at h
  refine .cons ?_ h
  rw [hm]
  exact .aside

theorem takes_opening {f : Forest} (feeds : Nat) (name : PlainName)
    (attributes : List NamedValue) (h : f.stack.length < maxNesting) :
    f.Takes file (min maxLine (1 + feeds)) (Mark.opening name attributes).piece
      { f with stack :=
          { tag := .ofSpelling (String.ofList name.chars)
            attributes := attributes.map NamedValue.toAttribute
            origin := { file, line := min maxLine (1 + feeds) } } :: f.stack } :=
  .opening h (openElement_tagContent name attributes _)

theorem takes_closing {f : Forest} {top : OpenElement} {e : Element} {name : PlainName}
    {line : Nat} (htag : top.tag = .ofSpelling (String.ofList name.chars))
    (hclose : top.close = e) :
    Forest.Takes file line { f with stack := top :: f.stack } (Mark.closing name).piece
      (f.attach e) := by
  rw [← hclose]
  refine .closing rfl ?_
  rw [htag, Tag.spelling_ofSpelling, closingName_chars]

/-- The marks of an element, taken in one after the other, finish that element. -/
theorem builds_element {name : PlainName} {attributes : List NamedValue} {content : List Node}
    {f : Forest} {feeds : Nat} (short : Bool) (hnesting : f.stack.length < maxNesting)
    (hcontent : ∀ f' : Forest, f'.stack.length = f.stack.length + 1 →
      f'.Builds file (feeds + feedsIn [.opening name attributes]) (marksOf content)
        (f'.addContent (ownText content)
          (elementsIn file (feeds + feedsIn [.opening name attributes]) content))) :
    f.Builds file feeds (Node.element name attributes content short).marks
      (((Node.element name attributes content short).elements file feeds).foldl
        Forest.attach f) := by
  rw [Node.marks, Node.elements]
  split
  · rename_i hshort
    have hempty : content = [] := by
      simp only [Bool.and_eq_true, List.isEmpty_iff] at hshort
      exact hshort.2
    subst hempty
    exact .cons (.selfClosing (openElement_tagContent name attributes _)) .nil
  · refine .cons (takes_opening feeds name attributes hnesting) ?_
    rw [← feedsIn_singleton]
    refine (hcontent _ rfl).append (.cons ?_ .nil)
    rw [addContent_cons]
    exact takes_closing rfl (by simp [OpenElement.close])

/-- The marks of content, taken in one after the other, add that content. -/
theorem builds_content (ns : List Node) (f : Forest) (feeds : Nat)
    (hnesting : nestingOf ns + f.stack.length ≤ maxNesting) :
    f.Builds file feeds (marksOf ns) (f.addContent (ownText ns) (elementsIn file feeds ns)) := by
  induction ns using content_induction generalizing f feeds with
  | nil =>
    rw [ownText, elementsIn, Forest.addContent, List.foldl_nil, addText_nil]
    exact .nil
  | text s ns ih =>
    apply builds_leaf fun _ => takes_text_iff.mpr rfl
    apply ih
    rw [length_stack_addText]
    simpa [nestingOf, Node.nesting] using hnesting
  | cdata d ns ih =>
    apply builds_leaf fun _ => .cdata
    apply ih
    rw [length_stack_addText]
    simpa [nestingOf, Node.nesting] using hnesting
  | comment c ns ih =>
    apply builds_aside rfl
    apply ih
    simpa [nestingOf, Node.nesting] using hnesting
  | instruction i ns ih =>
    apply builds_aside rfl
    apply ih
    simpa [nestingOf, Node.nesting] using hnesting
  | element name attributes content short ns ihc ihns =>
    have hlevels : nestingOf content + 1 + f.stack.length ≤ maxNesting ∧
        nestingOf ns + f.stack.length ≤ maxNesting := by
      simp only [nestingOf, Node.nesting] at hnesting
      omega
    have helement : f.Builds file feeds (Node.element name attributes content short).marks _ :=
      builds_element short (by omega) fun f' hf' => ihc f' _ (by omega)
    have hrest := ihns (((Node.element name attributes content short).elements file
      feeds).foldl Forest.attach f)
      (feeds + feedsIn (Node.element name attributes content short).marks) (by
        rw [Node.elements, List.foldl_cons, List.foldl_nil, length_stack_attach]
        exact hlevels.2)
    rw [marksOf, elementsIn, Forest.addContent, List.foldl_append]
    exact helement.append hrest

/-- A written document begins with a blank or with a less-than sign. -/
theorem head_of_written {ns : List Node} (htop : ∀ n ∈ ns, n.IsTop) {c : Char}
    (hc : (writtenAll (marksOf ns)).head? = some c) : c = ' ' ∨ c = '\n' ∨ c = '<' := by
  induction ns with
  | nil => contradiction
  | cons n ns ih =>
    have hrest := ih fun n' hn' => htop n' (List.mem_cons_of_mem n hn')
    cases n with
    | text s =>
      cases s with
      | nil => exact hrest hc
      | cons d s =>
        have hd : d = ' ' ∨ d = '\n' := htop _ List.mem_cons_self d List.mem_cons_self
        rcases hd with rfl | rfl
        · exact .inl (Option.some.inj hc).symm
        · exact .inr (.inl (Option.some.inj hc).symm)
    | element name attributes content short =>
      have hsign : (writtenAll (marksOf (.element name attributes content short :: ns))).head? =
          some '<' := by
        rw [marksOf, Node.marks]
        split <;> rfl
      rw [hsign] at hc
      exact .inr (.inr (Option.some.inj hc).symm)
    | _ => exact .inr (.inr (Option.some.inj hc).symm)

theorem dropMark_written (d : Document) : dropMark d.written = d.written := by
  cases hwritten : d.written with
  | nil => rfl
  | cons c cs =>
    have hhead : (writtenAll (marksOf d.nodes)).head? = some c := by
      rw [← Document.written, hwritten]
      rfl
    have hmark : c.toNat ≠ 0xFEFF := by
      rcases head_of_written d.top hhead with rfl | rfl | rfl <;> decide
    rw [dropMark, if_neg hmark]

/-- Every written document is read back: names, attributes, texts, the order and
nesting of the elements, and their lines. -/
theorem parse_written (file : String) (d : Document) :
    parse file (String.ofList d.written) = .ok (d.elements file) := by
  have hbuilds : Forest.Builds file 0 { stack := [], roots := [] } (marksOf d.nodes)
      { stack := [], roots := (d.elements file).reverse } := by
    have hcontent : Forest.Builds file 0 { stack := [], roots := [] } (marksOf d.nodes) _ :=
      builds_content d.nodes { stack := [], roots := [] } 0 d.nested
    rw [addContent_nil, List.append_nil] at hcontent
    exact hcontent
  obtain ⟨tokens, hscans, htakes⟩ := exists_tokens_of_builds (builds_joined hbuilds)
    (apart_joined _) 0 [] rfl (fun _ => rfl)
  rw [writtenAll_joined] at hscans htakes
  have hscan : scanned (String.ofList d.written) = { tokens := tokens } := by
    rw [scanned, String.toList_ofList, dropMark_written]
    exact scanFrom_of_scans hscans (Nat.le_refl _)
  rw [parse_eq_ok_iff, hscan, String.toList_ofList]
  exact ⟨rfl, htakes⟩

def letter (c : Char) (h : isNameChar c = true) : PlainName where
  chars := [c]
  ne_nil := List.cons_ne_nil c []
  plain := fun d hd => by rw [List.mem_singleton.mp hd, h]

/-- Two elements on two lines, one in the other. -/
def sampleDocument : Document where
  nodes := [
    .element (letter 'A' rfl) [⟨letter 'k' rfl, ['<', '\n']⟩] [
      .text ['x'],
      .comment ⟨['y'], by simp⟩,
      .element (letter 'B' rfl) [] [] true,
      .cdata ⟨['&'], by decide⟩] false,
    .text ['\n']]
  top := by simp [Node.IsTop]
  nested := by decide

example : sampleDocument.written = "<A k=\"&lt;\n\">x<!--y--><B/><![CDATA[&]]></A>\n".toList :=
  by rfl

example : sampleDocument.elements "f" =
    [{ tag := .unknown "A", text := some "x&", attributes := [⟨"k", "<\n"⟩],
       children := [{ tag := .unknown "B", origin := ⟨"f", 2⟩ }], origin := ⟨"f", 1⟩ }] := by
  rfl

end Content

end DeskConfig.Markup
