import DeskConfig.Markup.Document
import DeskConfig.Proofs.Markup.Lines

/-!
Reading without a cursor. Each token of a text changes the elements under
construction in one way, which depends on the token and on the line it stands on. A
text is accepted exactly when it can be scanned to its end and its tokens, taken in
one after the other, leave no element open.
-/

namespace DeskConfig.Markup

open Text

/-- What the forest becomes when it takes in a piece; a tag is on the given line. -/
inductive Forest.Takes (file : String) (line : Nat) (f : Forest) : Piece → Forest → Prop
  | opening {content opened} : f.stack.length < maxNesting →
      openElement content { file, line } = .ok opened →
      Takes file line f (.opening content) { f with stack := opened :: f.stack }
  | selfClosing {content opened} : openElement content { file, line } = .ok opened →
      Takes file line f (.selfClosing content) (f.attach opened.close)
  | closing {content top below} : f.stack = top :: below →
      top.tag.spelling = String.ofList (closingName content) →
      Takes file line f (.closing content) (Forest.attach { f with stack := below } top.close)
  | text {raw text} : f.stack ≠ [] → unescape raw = .ok text →
      Takes file line f (.text raw) (f.addText text)
  | outside {raw} : f.stack = [] → Takes file line f (.text raw) f
  | cdata {body} : Takes file line f (.cdata body) (f.addText body)
  | aside : Takes file line f .aside f

/-- The forest takes in the tokens of a text one after the other. -/
inductive Forest.TakesAll (file : String) (text : List Char) :
    Forest → List Token → Forest → Prop
  | nil {f} : TakesAll file text f [] f
  | cons {f f' f'' token tokens} :
      f.Takes file (tagLineOf text token.stop) token.piece f' →
      TakesAll file text f' tokens f'' → TakesAll file text f (token :: tokens) f''

theorem length_stack_attach (f : Forest) (e : Element) :
    (f.attach e).stack.length = f.stack.length := by
  obtain ⟨stack, roots⟩ := f
  cases stack <;> rfl

theorem length_stack_addText (f : Forest) (s : List Char) :
    (f.addText s).stack.length = f.stack.length := by
  obtain ⟨stack, roots⟩ := f
  cases stack <;> rfl

section Adding

variable {file : String} {text : List Char} {lines : LineCursor} {f f' : Forest}

/-- The cursor stays in the text, whatever comes of the token. -/
theorem add_in (file : String) (f : Forest) (hlines : lines.In text) (token : Token) :
    (f.add file token lines).2.In text := by
  obtain ⟨piece, stop⟩ := token
  have htag := (hlines.tagLine stop).1
  cases piece with
  | opening content =>
    simp only [Forest.add]
    split
    · exact htag
    · split <;> exact htag
  | selfClosing content =>
    simp only [Forest.add]
    split <;> exact htag
  | closing content =>
    simp only [Forest.add]
    split
    · exact (hlines.lineAt _).1
    · split
      · exact hlines
      · exact (hlines.lineAt _).1
  | text raw =>
    simp only [Forest.add]
    split
    · exact hlines
    · split <;> exact (hlines.lineAt stop).1
  | cdata body => exact hlines
  | aside => exact hlines

/-- A token that causes no fault does what its piece does. -/
theorem takes_of_add (hlines : lines.In text) {token : Token}
    (h : (f.add file token lines).1 = .ok f') :
    f.Takes file (tagLineOf text token.stop) token.piece f' := by
  obtain ⟨piece, stop⟩ := token
  have htag := (hlines.tagLine stop).2
  cases piece with
  | opening content =>
    simp only [Forest.add, htag] at h
    split at h
    · contradiction
    · rename_i hdepth
      split at h
      · contradiction
      · rename_i opened hopened
        cases h
        exact .opening (Nat.not_le.mp hdepth) hopened
  | selfClosing content =>
    simp only [Forest.add, htag] at h
    split at h
    · contradiction
    · rename_i opened hopened
      cases h
      exact .selfClosing hopened
  | closing content =>
    simp only [Forest.add] at h
    split at h
    · contradiction
    · rename_i top below hstack
      split at h
      · rename_i hname
        cases h
        exact .closing hstack hname
      · contradiction
  | text raw =>
    simp only [Forest.add] at h
    split at h
    · rename_i hstack
      cases h
      exact .outside hstack
    · rename_i top below hstack
      split at h
      · contradiction
      · rename_i decoded hdecoded
        cases h
        exact .text (by simp [hstack]) hdecoded
  | cdata body =>
    cases h
    exact .cdata
  | aside =>
    cases h
    exact .aside

theorem add_of_takes (hlines : lines.In text) {token : Token}
    (h : f.Takes file (tagLineOf text token.stop) token.piece f') :
    (f.add file token lines).1 = .ok f' := by
  obtain ⟨piece, stop⟩ := token
  have htag := (hlines.tagLine stop).2
  cases h with
  | opening hdepth hopened =>
    simp only [Forest.add, htag, if_neg (Nat.not_le.mpr hdepth), hopened]
  | selfClosing hopened => simp only [Forest.add, htag, hopened]
  | closing hstack hname => simp only [Forest.add, hstack, if_pos hname]
  | text hstack hdecoded =>
    obtain ⟨top, below, hcons⟩ := List.exists_cons_of_ne_nil hstack
    simp only [Forest.add, hcons, hdecoded]
  | outside hstack => simp only [Forest.add, hstack]
  | cdata => rfl
  | aside => rfl

theorem takesAll_of_addAll (hlines : lines.In text) {tokens : List Token}
    (h : (f.addAll file tokens lines).1 = .ok f') : f.TakesAll file text tokens f' := by
  induction tokens generalizing f lines with
  | nil =>
    cases h
    exact .nil
  | cons token tokens ih =>
    have hin := add_in file f hlines token
    rw [Forest.addAll] at h
    cases hadd : f.add file token lines with
    | mk result lines' =>
      rw [hadd] at h hin
      cases result with
      | error fault => contradiction
      | ok f₁ => exact .cons (takes_of_add hlines (by rw [hadd])) (ih hin h)

theorem addAll_of_takesAll (hlines : lines.In text) {tokens : List Token}
    (h : f.TakesAll file text tokens f') : (f.addAll file tokens lines).1 = .ok f' := by
  induction h generalizing lines with
  | nil => rfl
  | @cons f f₁ f' token tokens htakes _ ih =>
    have hin := add_in file f hlines token
    have hok := add_of_takes hlines htakes
    rw [Forest.addAll]
    cases hadd : f.add file token lines with
    | mk result lines' =>
      rw [hadd] at hok hin
      cases hok
      exact ih hin

end Adding

theorem finish_eq_ok_iff {f : Forest} {failure : Option (ScanError × Nat)} {size : Nat}
    {lines : LineCursor} {es : List Element} :
    f.finish failure size lines = .ok es ↔
      failure = none ∧ f = { stack := [], roots := es.reverse } := by
  obtain ⟨stack, roots⟩ := f
  cases failure with
  | some failure => simp [Forest.finish]
  | none =>
    cases stack with
    | cons top below => simp [Forest.finish]
    | nil => simp [Forest.finish, List.reverse_eq_iff]

/-- The tokens of a text, without a byte order mark. -/
def scanned (text : String) : Scan := scan (dropMark text.toList)

/-- A text is accepted exactly when it can be scanned to its end and its tokens leave
no element open. -/
theorem parse_eq_ok_iff {file text : String} {es : List Element} :
    parse file text = .ok es ↔
      (scanned text).failure = none ∧
        Forest.TakesAll file text.toList { stack := [], roots := [] } (scanned text).tokens
          { stack := [], roots := es.reverse } := by
  have hstart := LineCursor.start_in text.toList
  unfold parse elementsOf scanned
  constructor
  · intro h
    cases hall : Forest.addAll file (scan (dropMark text.toList)).tokens
        { stack := [], roots := [] } (LineCursor.start text.toList) with
    | mk result lines =>
      simp only [hall] at h
      cases result with
      | error fault => contradiction
      | ok f =>
        simp only at h
        cases hfinish : f.finish (scan (dropMark text.toList)).failure (byteSize text.toList)
            lines with
        | error fault =>
          rw [hfinish] at h
          contradiction
        | ok found =>
          rw [hfinish] at h
          cases h
          obtain ⟨hfailure, rfl⟩ := finish_eq_ok_iff.mp hfinish
          exact ⟨hfailure, takesAll_of_addAll hstart (by rw [hall])⟩
  · rintro ⟨hfailure, htakes⟩
    have hok := addAll_of_takesAll hstart htakes
    cases hall : Forest.addAll file (scan (dropMark text.toList)).tokens
        { stack := [], roots := [] } (LineCursor.start text.toList) with
    | mk result lines =>
      rw [hall] at hok
      cases hok
      simp only [hall, finish_eq_ok_iff.mpr ⟨hfailure, rfl⟩]

end DeskConfig.Markup
