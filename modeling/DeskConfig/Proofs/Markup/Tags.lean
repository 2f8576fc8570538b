import DeskConfig.Proofs.Markup.Events
import Mathlib.Data.List.Forall2

/-!
The tags of a text and the elements that they open. Seen in document order, the elements of an
accepted text are those that its tags open, one for each tag, with as many elements around it
as are open when the tag is met. What is seen of an element when its tag is met does not change
when it is closed or when its parent takes it in, and this is the invariant of the proof.
-/

namespace DeskConfig.Markup

open Text

/-- A tag that opens an element, and how many elements are open before it. -/
structure OpeningTag where
  depth : Nat
  content : List Char
  selfClosing : Bool
  /-- The byte position behind the tag. -/
  stop : Nat
deriving DecidableEq, Repr

/-- The tag that a token is when `depth` elements are open, if it opens an element. -/
def Token.tag? (depth : Nat) (token : Token) : Option OpeningTag :=
  match token.piece with
  | .opening content => some { depth, content, selfClosing := false, stop := token.stop }
  | .selfClosing content => some { depth, content, selfClosing := true, stop := token.stop }
  | _ => none

/-- How many elements are open behind a piece. -/
def Piece.depthAfter (depth : Nat) : Piece → Nat
  | .opening _ => depth + 1
  | .closing _ => depth - 1
  | _ => depth

/-- The tags that open elements, in the order of the text, when `depth` elements are open. -/
def openingTags : (depth : Nat) → List Token → List OpeningTag
  | _, [] => []
  | depth, token :: tokens =>
    (token.tag? depth).toList ++ openingTags (token.piece.depthAfter depth) tokens

def tagsOf (text : String) : List OpeningTag := openingTags 0 (scanned text).tokens

namespace Element

/-- An element without what stands inside it. -/
def bare (e : Element) : Element := { e with text := none, children := [] }

theorem walkFrom_eq (depth : Nat) (e : Element) :
    walkFrom depth e = (depth, e) :: walkAllFrom (depth + 1) e.children := by
  obtain ⟨tag, text, attributes, children, origin⟩ := e
  rw [walkFrom]

theorem walkAllFrom_append (depth : Nat) (xs ys : List Element) :
    walkAllFrom depth (xs ++ ys) = walkAllFrom depth xs ++ walkAllFrom depth ys := by
  induction xs with
  | nil => rfl
  | cons e xs ih => rw [List.cons_append, walkAllFrom, walkAllFrom, ih, List.append_assoc]

end Element

/-- The elements of a forest in document order, as they were when their tags were met. -/
def seenFrom (depth : Nat) (es : List Element) : List (Nat × Element) :=
  (Element.walkAllFrom depth es).map fun p => (p.1, p.2.bare)

theorem seenFrom_concat (depth : Nat) (es : List Element) (e : Element) :
    seenFrom depth (es ++ [e]) =
      seenFrom depth es ++ (depth, e.bare) :: seenFrom (depth + 1) e.children := by
  simp only [seenFrom, Element.walkAllFrom_append, Element.walkAllFrom, Element.walkFrom_eq,
    List.append_nil, List.map_append, List.map_cons]

/-- What the tag of an open element has told of it. -/
def OpenElement.bare (o : OpenElement) : Element where
  tag := o.tag
  attributes := o.attributes
  origin := o.origin

/-- The elements that are open, the outermost first, each with what is inside it by now. -/
def seenOpen : List OpenElement → List (Nat × Element)
  | [] => []
  | o :: below =>
    seenOpen below ++ (below.length, o.bare) :: seenFrom (below.length + 1) o.children.reverse

def Forest.seen (f : Forest) : List (Nat × Element) :=
  seenFrom 0 f.roots.reverse ++ seenOpen f.stack

/-- A tag and what is seen of an element with some number of others around it: the tag opens
that element there, on the line of the last less-than sign before its end. -/
def OpeningTag.Opens (file : String) (text : List Char) (t : OpeningTag) (p : Nat × Element) :
    Prop :=
  p.1 = t.depth ∧ ∃ opened,
    openElement t.content { file, line := tagLineOf text t.stop } = .ok opened ∧
    p.2.bare = opened.bare

section Seen

variable {f f' : Forest}

theorem OpenElement.bare_close (o : OpenElement) : o.close.bare = o.bare := rfl

theorem seen_attach (f : Forest) (e : Element) :
    (f.attach e).seen =
      f.seen ++ (f.stack.length, e.bare) :: seenFrom (f.stack.length + 1) e.children := by
  obtain ⟨stack, roots⟩ := f
  cases stack with
  | nil => simp [Forest.seen, Forest.attach, seenOpen, seenFrom_concat]
  | cons top below =>
    simp [Forest.seen, Forest.attach, seenOpen, seenFrom_concat, OpenElement.bare]

theorem seen_addText (f : Forest) (cs : List Char) : (f.addText cs).seen = f.seen := by
  obtain ⟨stack, roots⟩ := f
  cases stack <;> rfl

theorem Forest.Takes.length_stack {file : String} {line : Nat} {piece : Piece}
    (h : f.Takes file line piece f') :
    f'.stack.length = piece.depthAfter f.stack.length := by
  cases h with
  | opening => rfl
  | selfClosing => exact length_stack_attach f _
  | closing hstack => simp [length_stack_attach, Piece.depthAfter, hstack]
  | text => exact length_stack_addText f _
  | outside => rfl
  | cdata => exact length_stack_addText f _
  | aside => rfl

/-- A token shows the element that it opens, if any, behind those that were seen before. -/
theorem Forest.Takes.seen {file : String} {text : List Char} {token : Token}
    (h : f.Takes file (tagLineOf text token.stop) token.piece f') :
    ∃ shown, f'.seen = f.seen ++ shown ∧
      List.Forall₂ (OpeningTag.Opens file text) (token.tag? f.stack.length).toList shown := by
  obtain ⟨piece, stop⟩ := token
  cases h with
  | @opening content opened _ hopened =>
    have hchildren := (openElement_eq_ok hopened).2.2.2
    refine ⟨[(f.stack.length, opened.bare)], ?_, .cons ⟨rfl, opened, hopened, rfl⟩ .nil⟩
    simp [Forest.seen, seenOpen, hchildren, seenFrom, Element.walkAllFrom]
  | @selfClosing content opened hopened =>
    have hchildren := (openElement_eq_ok hopened).2.2.2
    refine ⟨[(f.stack.length, opened.bare)], ?_, .cons ⟨rfl, opened, hopened, rfl⟩ .nil⟩
    rw [seen_attach, OpenElement.bare_close]
    simp [OpenElement.close, hchildren, seenFrom, Element.walkAllFrom]
  | @closing content top below hstack _ =>
    refine ⟨[], ?_, .nil⟩
    rw [seen_attach, OpenElement.bare_close]
    simp [Forest.seen, hstack, seenOpen, OpenElement.close]
  | text => exact ⟨[], by rw [seen_addText, List.append_nil], .nil⟩
  | outside => exact ⟨[], (List.append_nil _).symm, .nil⟩
  | cdata => exact ⟨[], by rw [seen_addText, List.append_nil], .nil⟩
  | aside => exact ⟨[], (List.append_nil _).symm, .nil⟩

theorem Forest.TakesAll.seen {file : String} {text : List Char} {tokens : List Token}
    (h : f.TakesAll file text tokens f') :
    ∃ shown, f'.seen = f.seen ++ shown ∧
      List.Forall₂ (OpeningTag.Opens file text) (openingTags f.stack.length tokens) shown := by
  induction h with
  | nil => exact ⟨[], (List.append_nil _).symm, .nil⟩
  | cons htakes _ ih =>
    obtain ⟨shown, hseen, hopens⟩ := htakes.seen
    obtain ⟨later, hlater, hrest⟩ := ih
    rw [htakes.length_stack] at hrest
    refine ⟨shown ++ later, ?_, List.rel_append hopens hrest⟩
    rw [hlater, hseen, List.append_assoc]

end Seen

theorem origin_of_openElement {content : List Char} {origin : Origin} {opened : OpenElement}
    (h : openElement content origin = .ok opened) : opened.origin = origin := by
  unfold openElement at h
  cases hattributes : readAttributes content with
  | error fault =>
    rw [hattributes] at h
    contradiction
  | ok attributes =>
    rw [hattributes] at h
    cases h
    rfl

theorem OpeningTag.Opens.origin {file : String} {text : List Char} {t : OpeningTag}
    {p : Nat × Element} (h : t.Opens file text p) :
    p.2.origin = { file, line := tagLineOf text t.stop } := by
  obtain ⟨-, opened, hopened, hbare⟩ := h
  have horigin : p.2.origin = opened.origin := congrArg Element.origin hbare
  rw [horigin, origin_of_openElement hopened]

theorem map_depth_of_opens {file : String} {text : List Char} {ts : List OpeningTag}
    {ps : List (Nat × Element)} (h : List.Forall₂ (OpeningTag.Opens file text) ts ps) :
    ps.map (·.1) = ts.map (·.depth) := by
  induction h with
  | nil => rfl
  | cons hopens _ ih => rw [List.map_cons, List.map_cons, hopens.1, ih]

/-- The elements of an accepted text are, in document order, those that its tags open. -/
theorem opens_of_parse {file text : String} {es : List Element} (h : parse file text = .ok es) :
    List.Forall₂ (OpeningTag.Opens file text.toList) (tagsOf text) (Element.walk es) := by
  obtain ⟨-, htakes⟩ := parse_eq_ok_iff.mp h
  obtain ⟨shown, hseen, hopens⟩ := htakes.seen
  have hshown : (Element.walk es).map (fun p => (p.1, p.2.bare)) = shown := by
    simpa [Forest.seen, seenOpen, seenFrom, Element.walk, Element.walkAllFrom] using hseen
  rw [← hshown, List.forall₂_map_right_iff] at hopens
  exact hopens

end DeskConfig.Markup
