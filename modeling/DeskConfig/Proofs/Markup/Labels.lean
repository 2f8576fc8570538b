import DeskConfig.Markup.Document

/-!
Labels are carried, not read. An element remembers the label of its document, and nothing else
that is read off a text depends on that label: under another label the same text gives the same
elements, or the same fault on the same line.
-/

namespace DeskConfig.Markup

variable (f : String → String)

/-- The same place under another label. -/
def Origin.relabel (o : Origin) : Origin := { o with file := f o.file }

namespace Element

mutual

/-- The element with all inside it, under another label. -/
def relabel : Element → Element
  | ⟨tag, text, attributes, children, origin⟩ =>
    ⟨tag, text, attributes, relabelAll children, origin.relabel f⟩

def relabelAll : List Element → List Element
  | [] => []
  | e :: es => relabel e :: relabelAll es

end

theorem relabelAll_eq (es : List Element) : relabelAll f es = es.map (·.relabel f) := by
  induction es with
  | nil => rfl
  | cons e es ih => rw [relabelAll, ih, List.map_cons]

section Fields

variable (e : Element)

@[simp] theorem tag_relabel : (e.relabel f).tag = e.tag := by
  cases e
  rw [relabel]

@[simp] theorem name_relabel : (e.relabel f).name = e.name := by
  simp only [name, tag_relabel]

@[simp] theorem text_relabel : (e.relabel f).text = e.text := by
  cases e
  rw [relabel]

@[simp] theorem attribute?_relabel (name : String) :
    (e.relabel f).attribute? name = e.attribute? name := by
  cases e
  rw [relabel]
  rfl

@[simp] theorem children_relabel : (e.relabel f).children = e.children.map (·.relabel f) := by
  cases e
  rw [relabel, relabelAll_eq]

@[simp] theorem origin_relabel : (e.relabel f).origin = e.origin.relabel f := by
  cases e
  rw [relabel]

end Fields

/-- Elements that keep their labels are the same. -/
theorem map_relabel_id (es : List Element) : es.map (·.relabel id) = es := by
  induction es using forest_induction with
  | nil => rfl
  | cons e es ihe ihs =>
    obtain ⟨tag, text, attributes, children, origin⟩ := e
    rw [List.map_cons, ihs, relabel, relabelAll_eq, ihe]
    rfl

@[simp] theorem relabel_id (e : Element) : e.relabel id = e :=
  List.cons_eq_cons.mp (map_relabel_id [e]) |>.1

end Element

def MarkupError.relabel (e : MarkupError) : MarkupError := { e with origin := e.origin.relabel f }

namespace OpenElement

def relabel (o : OpenElement) : OpenElement :=
  { o with origin := o.origin.relabel f, children := o.children.map (·.relabel f) }

theorem close_relabel (o : OpenElement) : (o.relabel f).close = o.close.relabel f := by
  simp only [close, relabel, Element.relabel, Element.relabelAll_eq, List.map_reverse]

end OpenElement

theorem openElement_relabel (content : List Char) (o : Origin) :
    openElement content (o.relabel f) = (openElement content o).map (·.relabel f) := by
  unfold openElement
  cases readAttributes content <;> rfl

namespace Forest

def relabel (forest : Forest) : Forest where
  stack := forest.stack.map (·.relabel f)
  roots := forest.roots.map (·.relabel f)

variable (forest : Forest)

theorem attach_relabel (e : Element) :
    (forest.relabel f).attach (e.relabel f) = (forest.attach e).relabel f := by
  obtain ⟨stack, roots⟩ := forest
  cases stack <;> rfl

theorem addText_relabel (cs : List Char) :
    (forest.relabel f).addText cs = (forest.addText cs).relabel f := by
  obtain ⟨stack, roots⟩ := forest
  cases stack <;> rfl

theorem add_relabel (file : String) (token : Token) (lines : LineCursor) :
    (forest.relabel f).add (f file) token lines =
      ((forest.add file token lines).1.map (·.relabel f), (forest.add file token lines).2) := by
  have hopen : ∀ content line, openElement content { file := f file, line } =
      (openElement content { file, line }).map (·.relabel f) :=
    fun content line => openElement_relabel f content { file, line }
  obtain ⟨stack, roots⟩ := forest
  obtain ⟨piece, stop⟩ := token
  cases piece with
  | opening content =>
    simp only [add, hopen, relabel, List.length_map]
    split
    · rfl
    · cases openElement content { file, line := (lines.tagLine stop).1 } <;> rfl
  | selfClosing content =>
    simp only [add, hopen]
    cases openElement content { file, line := (lines.tagLine stop).1 } with
    | error fault => rfl
    | ok opened =>
      simp only [Except.map, OpenElement.close_relabel, attach_relabel]
  | closing content =>
    cases stack with
    | nil => rfl
    | cons top below =>
      have hattach := attach_relabel f { stack := below, roots } top.close
      rw [← OpenElement.close_relabel] at hattach
      by_cases hname : top.tag.spelling = String.ofList (closingName content)
      · have hname' : (top.relabel f).tag.spelling = String.ofList (closingName content) := hname
        simp only [add, relabel, List.map_cons, if_pos hname, if_pos hname', Except.map]
          at hattach ⊢
        rw [hattach]
      · have hname' : (top.relabel f).tag.spelling ≠ String.ofList (closingName content) := hname
        simp only [add, relabel, List.map_cons, if_neg hname, if_neg hname']
        rfl
  | text raw =>
    cases stack with
    | nil => rfl
    | cons top below =>
      simp only [add, relabel, List.map_cons]
      cases unescape raw <;> rfl
  | cdata body =>
    simp only [add, addText_relabel, Except.map]
  | aside => rfl

theorem addAll_relabel (file : String) (tokens : List Token) (lines : LineCursor) :
    (forest.relabel f).addAll (f file) tokens lines =
      ((forest.addAll file tokens lines).1.map (·.relabel f),
        (forest.addAll file tokens lines).2) := by
  induction tokens generalizing forest lines with
  | nil => rfl
  | cons token tokens ih =>
    have hadd := add_relabel f forest file token lines
    rw [addAll, addAll, hadd]
    obtain ⟨result, lines⟩ := forest.add file token lines
    cases result with
    | error fault => rfl
    | ok forest => exact ih forest lines

theorem finish_relabel (failure : Option (ScanError × Nat)) (size : Nat) (lines : LineCursor) :
    (forest.relabel f).finish failure size lines =
      (forest.finish failure size lines).map (·.map (·.relabel f)) := by
  obtain ⟨stack, roots⟩ := forest
  cases failure with
  | some failure => rfl
  | none =>
    cases stack with
    | nil => simp only [finish, relabel, List.map_nil, Except.map, List.map_reverse]
    | cons top below => rfl

end Forest

theorem elementsOf_relabel (file : String) (text : List Char) :
    elementsOf (f file) text = (elementsOf file text).map (·.map (·.relabel f)) := by
  have hadd := Forest.addAll_relabel f { stack := [], roots := [] } file
    (scan (dropMark text)).tokens (LineCursor.start text)
  simp only [Forest.relabel, List.map_nil] at hadd
  rw [elementsOf, elementsOf, hadd]
  obtain ⟨result, lines⟩ := Forest.addAll file (scan (dropMark text)).tokens
    { stack := [], roots := [] } (LineCursor.start text)
  cases result with
  | error fault => rfl
  | ok forest => exact Forest.finish_relabel f forest _ _ _

/-- Under another label a text is the same elements, or has the same fault, under that label. -/
theorem parse_relabel (file text : String) :
    parse (f file) text =
      ((parse file text).map (·.map (·.relabel f))).mapError (·.relabel f) := by
  unfold parse
  rw [elementsOf_relabel]
  cases elementsOf file text.toList <;> rfl

variable {f} in
/-- One text under two labels that are not told apart has the same fault on the same line, or is
the same elements up to labels. -/
theorem parse_of_labels {file file' : String} (h : f file' = f file) (text : String) :
    (∃ cause cause', parse file text = .error cause ∧ parse file' text = .error cause' ∧
      cause'.relabel f = cause.relabel f) ∨
    ∃ es es', parse file text = .ok es ∧ parse file' text = .ok es' ∧
      es'.map (·.relabel f) = es.map (·.relabel f) := by
  have hparse := parse_relabel f file text
  have hparse' := parse_relabel f file' text
  rw [h, hparse] at hparse'
  cases hes : parse file text with
  | error cause =>
    cases hes' : parse file' text with
    | error cause' =>
      rw [hes, hes'] at hparse'
      exact .inl ⟨cause, cause', rfl, rfl, (Except.error.inj hparse').symm⟩
    | ok es' =>
      rw [hes, hes'] at hparse'
      cases hparse'
  | ok es =>
    cases hes' : parse file' text with
    | error cause' =>
      rw [hes, hes'] at hparse'
      cases hparse'
    | ok es' =>
      rw [hes, hes'] at hparse'
      exact .inr ⟨es, es', rfl, rfl, (Except.ok.inj hparse').symm⟩

end DeskConfig.Markup
