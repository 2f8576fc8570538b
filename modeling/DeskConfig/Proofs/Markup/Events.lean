import DeskConfig.Proofs.Markup.Reading

/-!
Nothing is lost between the tokens of a text and its elements. Walking through the
elements, with a stop before and after the children of each one, comes by the opening
and closing tags in the order of the text, with their attributes and with the text
directly inside. The invariant of the proof is what the elements under construction
and the tokens to come amount to.
-/

namespace DeskConfig.Markup

open Text

/-- An element is opened, with its attributes and all of its own text, and closed. -/
inductive Event where
  | opened (name : String) (attributes : List Attribute) (text : Option String)
  | closed (name : String)
deriving DecidableEq, Repr

mutual

/-- What a walk through an element comes by. -/
def eventsOfElement : Element → List Event
  | ⟨tag, text, attributes, children, _⟩ =>
    .opened tag.spelling attributes text :: eventsOf children ++ [.closed tag.spelling]

def eventsOf : List Element → List Event
  | [] => []
  | e :: es => eventsOfElement e ++ eventsOf es

end

theorem eventsOf_append (xs ys : List Element) :
    eventsOf (xs ++ ys) = eventsOf xs ++ eventsOf ys := by
  induction xs with
  | nil => rfl
  | cons e xs ih => rw [List.cons_append, eventsOf, eventsOf, ih, List.append_assoc]

theorem eventsOf_singleton (e : Element) : eventsOf [e] = eventsOfElement e := by
  rw [eventsOf, eventsOf, List.append_nil]

/-- The attributes of a tag as they are written, with their values decoded. -/
def attributesIn? (content : List Char) : Option (List Attribute) :=
  (scanAttributes content).attributes.mapM fun raw => do
    let value ← (unescape raw.value).toOption
    return { name := String.ofList raw.name, value := String.ofList value }

/-- The text and character data in front of the closing tag of an element that was
opened before, `depth` elements around, without what is inside other elements. -/
def directText? : (depth : Nat) → List Piece → Option (List Char)
  | _, [] => none
  | depth, .opening _ :: pieces => directText? (depth + 1) pieces
  | 0, .closing _ :: _ => some []
  | depth + 1, .closing _ :: pieces => directText? depth pieces
  | 0, .text raw :: pieces => do
    let text ← (unescape raw).toOption
    return text ++ (← directText? 0 pieces)
  | 0, .cdata body :: pieces => do return body ++ (← directText? 0 pieces)
  | depth, _ :: pieces => directText? depth pieces

/-- The opening and closing tags among the pieces of a text, each opening tag with what
stands directly in its element. -/
def readEvents? : List Piece → Option (List Event)
  | [] => some []
  | .opening content :: pieces => do
    let attributes ← attributesIn? content
    let text ← directText? 0 pieces
    return .opened (String.ofList (tagName content)) attributes (trimmedText text) ::
      (← readEvents? pieces)
  | .selfClosing content :: pieces => do
    let attributes ← attributesIn? content
    let name := String.ofList (tagName content)
    return .opened name attributes none :: .closed name :: (← readEvents? pieces)
  | .closing content :: pieces => do
    return .closed (String.ofList (closingName content)) :: (← readEvents? pieces)
  | _ :: pieces => readEvents? pieces

section DirectText

variable (depth : Nat) (pieces : List Piece)

theorem directText?_selfClosing (content : List Char) :
    directText? depth (.selfClosing content :: pieces) = directText? depth pieces := by
  rw [directText?] <;> simp

theorem directText?_aside : directText? depth (.aside :: pieces) = directText? depth pieces := by
  rw [directText?] <;> simp

theorem directText?_text_succ (raw : List Char) :
    directText? (depth + 1) (.text raw :: pieces) = directText? (depth + 1) pieces := by
  rw [directText?] <;> simp

theorem directText?_cdata_succ (body : List Char) :
    directText? (depth + 1) (.cdata body :: pieces) = directText? (depth + 1) pieces := by
  rw [directText?] <;> simp

end DirectText

section Attributes

theorem mapM_of_decodeAttributes {failure : Option AttributeError}
    {raws : List RawAttribute} {attributes : List Attribute}
    (h : decodeAttributes failure raws = .ok attributes) :
    raws.mapM (fun raw => do
      let value ← (unescape raw.value).toOption
      return { name := String.ofList raw.name, value := String.ofList value }) =
        some attributes := by
  induction raws generalizing attributes with
  | nil =>
    cases failure with
    | some cause => contradiction
    | none =>
      cases h
      rfl
  | cons raw raws ih =>
    rw [decodeAttributes] at h
    cases hvalue : unescape raw.value with
    | error cause =>
      rw [hvalue] at h
      contradiction
    | ok value =>
      rw [hvalue] at h
      cases hrest : decodeAttributes failure raws with
      | error fault =>
        simp only [hrest] at h
        contradiction
      | ok rest =>
        simp only [hrest] at h
        cases h
        rw [List.mapM_cons, ih hrest, hvalue]
        rfl

/-- An element that a tag opens has the attributes of the tag and nothing inside yet. -/
theorem openElement_eq_ok {content : List Char} {origin : Origin} {opened : OpenElement}
    (h : openElement content origin = .ok opened) :
    attributesIn? content = some opened.attributes ∧
      opened.tag.spelling = String.ofList (tagName content) ∧ opened.text = [] ∧
      opened.children = [] := by
  unfold openElement readAttributes at h
  cases hattributes : decodeAttributes (scanAttributes content).failure
      (scanAttributes content).attributes with
  | error fault =>
    simp only [hattributes] at h
    contradiction
  | ok attributes =>
    simp only [hattributes] at h
    cases h
    exact ⟨mapM_of_decodeAttributes hattributes, Tag.spelling_ofSpelling _, rfl, rfl⟩

end Attributes

section Expected

/-- The events of the open elements, innermost first, up to where the text stands now.
The texts of the elements also hold what is still to come in them. -/
def openEvents? (depth : Nat) (pieces : List Piece) : List OpenElement → Option (List Event)
  | [] => some []
  | o :: below => do
    let around ← openEvents? (depth + 1) pieces below
    let later ← directText? depth pieces
    return around ++ .opened o.tag.spelling o.attributes (trimmedText (o.text ++ later)) ::
      eventsOf o.children.reverse

/-- The events that a forest amounts to once it has taken in the given pieces. -/
def expectedEvents? (f : Forest) (pieces : List Piece) : Option (List Event) := do
  let around ← openEvents? 0 pieces f.stack
  return eventsOf f.roots.reverse ++ around ++ (← readEvents? pieces)

variable {file : String} {line : Nat} {f f' : Forest} {piece : Piece} {pieces : List Piece}

/-- Only the texts that are still to come matter for the open elements. -/
theorem openEvents?_congr {depth depth' : Nat} {pieces' : List Piece}
    (h : ∀ n, directText? (depth + n) pieces = directText? (depth' + n) pieces')
    (stack : List OpenElement) :
    openEvents? depth pieces stack = openEvents? depth' pieces' stack := by
  induction stack generalizing depth depth' with
  | nil => rfl
  | cons o below ih =>
    have hbelow : openEvents? (depth + 1) pieces below =
        openEvents? (depth' + 1) pieces' below := by
      apply ih
      intro n
      rw [Nat.add_assoc, Nat.add_assoc]
      exact h (1 + n)
    have hhere := h 0
    rw [Nat.add_zero, Nat.add_zero] at hhere
    rw [openEvents?, openEvents?, hbelow, hhere]

theorem eventsOf_close (o : OpenElement) :
    eventsOfElement o.close =
      .opened o.tag.spelling o.attributes (trimmedText o.text) ::
        eventsOf o.children.reverse ++ [.closed o.tag.spelling] := by
  rw [OpenElement.close, eventsOfElement]

/-- A finished element adds its events behind all others. -/
theorem expectedEvents?_attach (e : Element) :
    expectedEvents? (f.attach e) pieces = do
      let around ← openEvents? 0 pieces f.stack
      return eventsOf f.roots.reverse ++ around ++ eventsOfElement e ++
        (← readEvents? pieces) := by
  obtain ⟨stack, roots⟩ := f
  cases stack with
  | nil =>
    simp [expectedEvents?, Forest.attach, openEvents?, eventsOf_append, eventsOf_singleton]
  | cons top below =>
    simp [expectedEvents?, Forest.attach, openEvents?, eventsOf_append, eventsOf_singleton,
      Option.bind_assoc]

theorem roots_addText (text : List Char) : (f.addText text).roots = f.roots := by
  obtain ⟨stack, roots⟩ := f
  cases stack <;> rfl

/-- Text that is taken in is text that is no longer to come. -/
theorem openEvents?_addText {text : List Char}
    (hhere : directText? 0 (piece :: pieces) = (directText? 0 pieces).map (text ++ ·))
    (haround : ∀ n, directText? (n + 1) (piece :: pieces) = directText? (n + 1) pieces) :
    openEvents? 0 (piece :: pieces) f.stack = openEvents? 0 pieces (f.addText text).stack := by
  obtain ⟨stack, roots⟩ := f
  cases stack with
  | nil => rfl
  | cons top below =>
    have hbelow : openEvents? 1 (piece :: pieces) below = openEvents? 1 pieces below := by
      apply openEvents?_congr
      intro n
      rw [Nat.add_comm 1]
      exact haround n
    simp only [openEvents?, Forest.addText, Nat.zero_add, hbelow, hhere]
    cases directText? 0 pieces with
    | none => rfl
    | some later => simp

/-- What a forest amounts to stays the same when it takes in the next piece. -/
theorem expectedEvents?_cons (h : f.Takes file line piece f') :
    expectedEvents? f (piece :: pieces) = expectedEvents? f' pieces := by
  cases h with
  | @opening content opened hdepth hopened =>
    obtain ⟨hattributes, hname, htext, hchildren⟩ := openElement_eq_ok hopened
    have hshift : openEvents? 0 (.opening content :: pieces) f.stack =
        openEvents? 1 pieces f.stack :=
      openEvents?_congr (fun n => by rw [Nat.zero_add, directText?, Nat.add_comm]) _
    simp [expectedEvents?, openEvents?, readEvents?, hshift, hattributes, hname, htext,
      hchildren, eventsOf, Option.bind_assoc]
  | @selfClosing content opened hopened =>
    obtain ⟨hattributes, hname, htext, hchildren⟩ := openElement_eq_ok hopened
    have hshift : openEvents? 0 (.selfClosing content :: pieces) f.stack =
        openEvents? 0 pieces f.stack :=
      openEvents?_congr (fun n => directText?_selfClosing _ _ _) _
    have hnone : trimmedText [] = none := rfl
    rw [expectedEvents?_attach]
    simp [expectedEvents?, readEvents?, hshift, hattributes, hname, htext,
      hchildren, hnone, eventsOf, eventsOf_close, Option.bind_assoc]
  | @closing content top below hstack hname =>
    have hshift : openEvents? 1 (.closing content :: pieces) below =
        openEvents? 0 pieces below :=
      openEvents?_congr (fun n => by rw [Nat.add_comm, directText?, Nat.zero_add]) _
    rw [expectedEvents?_attach]
    simp [expectedEvents?, openEvents?, readEvents?, hstack, hshift, directText?, hname,
      eventsOf_close, Option.bind_assoc]
  | @text raw text hstack hdecoded =>
    have hopen : openEvents? 0 (.text raw :: pieces) f.stack =
        openEvents? 0 pieces (f.addText text).stack := by
      apply openEvents?_addText
      · rw [directText?, hdecoded]
        cases directText? 0 pieces <;> rfl
      · intro n
        exact directText?_text_succ n pieces raw
    simp [expectedEvents?, readEvents?, hopen, roots_addText]
  | outside hstack => simp [expectedEvents?, openEvents?, readEvents?, hstack]
  | @cdata body =>
    have hopen : openEvents? 0 (.cdata body :: pieces) f.stack =
        openEvents? 0 pieces (f.addText body).stack := by
      apply openEvents?_addText
      · rw [directText?]
        cases directText? 0 pieces <;> rfl
      · intro n
        exact directText?_cdata_succ n pieces body
    simp [expectedEvents?, readEvents?, hopen, roots_addText]
  | aside =>
    have hopen : openEvents? 0 (.aside :: pieces) f.stack = openEvents? 0 pieces f.stack :=
      openEvents?_congr (fun n => directText?_aside _ _) _
    simp [expectedEvents?, readEvents?, hopen]

end Expected

/-- What a forest amounts to stays the same until all tokens have been taken in. -/
theorem expectedEvents?_takesAll {file : String} {text : List Char} {f f' : Forest}
    {tokens : List Token} (h : f.TakesAll file text tokens f') :
    expectedEvents? f (tokens.map (·.piece)) = expectedEvents? f' [] := by
  induction h with
  | nil => rfl
  | cons htakes _ ih => rw [List.map_cons, expectedEvents?_cons htakes, ih]

def piecesOf (text : String) : List Piece := (scanned text).tokens.map (·.piece)

/-- The pieces that count: asides do not, nor does text with no element around it. -/
def inside : (depth : Nat) → List Piece → List Piece
  | _, [] => []
  | depth, .opening content :: pieces => .opening content :: inside (depth + 1) pieces
  | depth, .closing content :: pieces => .closing content :: inside (depth - 1) pieces
  | depth, .selfClosing content :: pieces => .selfClosing content :: inside depth pieces
  | 0, .text _ :: pieces => inside 0 pieces
  | 0, .cdata _ :: pieces => inside 0 pieces
  | depth + 1, .text raw :: pieces => .text raw :: inside (depth + 1) pieces
  | depth + 1, .cdata body :: pieces => .cdata body :: inside (depth + 1) pieces
  | depth, .aside :: pieces => inside depth pieces

theorem inside_aside (depth : Nat) (pieces : List Piece) :
    inside depth (.aside :: pieces) = inside depth pieces := by
  cases depth <;> rw [inside]

/-- Inside an element, its text and that of the elements around it count. -/
theorem directText?_inside (pieces : List Piece) {depth around : Nat} (h : depth < around) :
    directText? depth (inside around pieces) = directText? depth pieces := by
  induction pieces generalizing depth around with
  | nil => rfl
  | cons piece pieces ih =>
    obtain ⟨around, rfl⟩ : ∃ n, around = n + 1 := ⟨around - 1, by omega⟩
    have hrest := ih h
    cases piece with
    | opening content => rw [inside, directText?, directText?, ih (by omega)]
    | selfClosing content =>
      rw [inside, directText?_selfClosing, directText?_selfClosing, hrest]
    | closing content =>
      cases depth with
      | zero => rfl
      | succ depth => rw [inside, directText?, directText?, ih (by omega)]
    | text raw =>
      cases depth with
      | zero => rw [inside, directText?, directText?, hrest]
      | succ depth => rw [inside, directText?_text_succ, directText?_text_succ, hrest]
    | cdata body =>
      cases depth with
      | zero => rw [inside, directText?, directText?, hrest]
      | succ depth => rw [inside, directText?_cdata_succ, directText?_cdata_succ, hrest]
    | aside => rw [inside_aside, directText?_aside, hrest]

theorem readEvents?_inside (around : Nat) (pieces : List Piece) :
    readEvents? (inside around pieces) = readEvents? pieces := by
  induction pieces generalizing around with
  | nil => rfl
  | cons piece pieces ih =>
    cases piece with
    | opening content =>
      rw [inside, readEvents?, readEvents?, directText?_inside pieces (Nat.succ_pos _), ih]
    | selfClosing content => rw [inside, readEvents?, readEvents?, ih]
    | closing content => rw [inside, readEvents?, readEvents?, ih]
    | text raw => cases around <;> simp only [inside, readEvents?, ih]
    | cdata body => cases around <;> simp only [inside, readEvents?, ih]
    | aside => rw [inside_aside, readEvents?, ih] <;> simp

/-- Whether every closing tag names the innermost element that is open, and no element
stays open. -/
def closesAll : (names : List String) → List Event → Bool
  | names, [] => names.isEmpty
  | names, .opened name _ _ :: events => closesAll (name :: names) events
  | [], .closed _ :: _ => false
  | name :: names, .closed name' :: events => name == name' && closesAll names events

theorem closesAll_eventsOf (es : List Element) (names : List String) (events : List Event) :
    closesAll names (eventsOf es ++ events) = closesAll names events := by
  induction es using forest_induction generalizing names events with
  | nil => rfl
  | cons e es ihe ihs =>
    obtain ⟨tag, text, attributes, children, origin⟩ := e
    simp only [eventsOf, eventsOfElement, List.cons_append, List.nil_append, List.append_assoc,
      closesAll, ihe, ihs, beq_self_eq_true, Bool.true_and]

/-- The elements of an accepted text are what its tags say, in the same order and each
with its own attributes and text. Asides and text outside all elements do not count. -/
theorem parse_keeps_events {file text : String} {es : List Element}
    (h : parse file text = .ok es) :
    readEvents? (piecesOf text) = some (eventsOf es) ∧
      readEvents? (inside 0 (piecesOf text)) = some (eventsOf es) ∧
      closesAll [] (eventsOf es) = true := by
  obtain ⟨-, htakes⟩ := parse_eq_ok_iff.mp h
  have hevents : readEvents? (piecesOf text) = some (eventsOf es) := by
    have hexpected := expectedEvents?_takesAll htakes
    simpa [expectedEvents?, openEvents?, eventsOf, readEvents?, piecesOf] using hexpected
  refine ⟨hevents, ?_, ?_⟩
  · rw [readEvents?_inside, hevents]
  · have hclosed := closesAll_eventsOf es [] []
    rw [List.append_nil] at hclosed
    exact hclosed

def sampleText : String :=
  "<?xml?> top <A k=\"1\" k='&lt;'> x<B/>y<!-- aside --><![CDATA[ z]]></A> end"

/-- Text around a child is put together, and what is outside is not there. -/
theorem parse_keeps_events_sample :
    readEvents? (piecesOf sampleText) =
      some [.opened "A" [⟨"k", "1"⟩, ⟨"k", "<"⟩] (some "xy z"), .opened "B" [] none,
        .closed "B", .closed "A"] ∧
    readEvents? (inside 0 (piecesOf sampleText)) =
      some [.opened "A" [⟨"k", "1"⟩, ⟨"k", "<"⟩] (some "xy z"), .opened "B" [] none,
        .closed "B", .closed "A"] ∧
    closesAll [] [.opened "A" [⟨"k", "1"⟩, ⟨"k", "<"⟩] (some "xy z"), .opened "B" [] none,
      .closed "B", .closed "A"] = true := by
  have hparse : parse "f" sampleText =
      .ok [{ tag := .unknown "A", text := some "xy z",
             attributes := [⟨"k", "1"⟩, ⟨"k", "<"⟩],
             children := [{ tag := .unknown "B", origin := ⟨"f", 1⟩ }],
             origin := ⟨"f", 1⟩ }] := by
    rfl
  exact parse_keeps_events hparse

end DeskConfig.Markup
