import DeskConfig.Proofs.Markup.Reading

/-!
The elements of a document, however deep inside others. Each of them was opened by a tag of
the text and closed later on, whatever was put into it in between.
-/

namespace DeskConfig.Markup

/-- An element of a forest, at any depth. -/
inductive Inside : Element → List Element → Prop
  | top {e es} : e ∈ es → Inside e es
  | child {e e' es} : e' ∈ es → Inside e e'.children → Inside e es

theorem Inside.descend {e e' : Element} {es : List Element} (h : Inside e es)
    (he' : e' ∈ e.children) : Inside e' es := by
  induction h with
  | top hmem => exact .child hmem (.top he')
  | child hmem _ ih => exact .child hmem ih

/-- What can become of a tag: it was opened on the line of some position, and closed. -/
def Element.ReadFrom (file : String) (text : List Char) (e : Element) : Prop :=
  ∃ (o : OpenElement) (stop : Nat), o.origin = { file, line := tagLineOf text stop } ∧ e = o.close

/-- All elements of a forest were read from a text. -/
def AllRead (file : String) (text : List Char) (es : List Element) : Prop :=
  ∀ e, Inside e es → e.ReadFrom file text

section Forests

variable {file : String} {text : List Char} {e : Element} {es es' : List Element}

theorem AllRead.nil : AllRead file text [] := by
  intro e he
  cases he with
  | top hmem => contradiction
  | child hmem _ => contradiction

theorem AllRead.of_subset (h : AllRead file text es) (hes : es' ⊆ es) : AllRead file text es' := by
  intro e he
  cases he with
  | top hmem => exact h e (.top (hes hmem))
  | child hmem hin => exact h e (.child (hes hmem) hin)

theorem AllRead.cons (he : e.ReadFrom file text) (hchildren : AllRead file text e.children)
    (hes : AllRead file text es) : AllRead file text (e :: es) := by
  intro e' he'
  cases he' with
  | top hmem =>
    rcases List.mem_cons.mp hmem with rfl | hmem
    · exact he
    · exact hes e' (.top hmem)
  | child hmem hin =>
    rcases List.mem_cons.mp hmem with rfl | hmem
    · exact hchildren e' hin
    · exact hes e' (.child hmem hin)

end Forests

/-- An element under construction: where its tag was, and what is inside it by now. -/
structure OpenElement.Read (file : String) (text : List Char) (o : OpenElement) : Prop where
  origin : ∃ stop, o.origin = { file, line := tagLineOf text stop }
  children : AllRead file text o.children

/-- All elements of a forest were read from a text, the open ones as far as they go. -/
structure Forest.Read (file : String) (text : List Char) (f : Forest) : Prop where
  roots : AllRead file text f.roots
  stack : ∀ o ∈ f.stack, o.Read file text

section Taking

variable {file : String} {text : List Char} {f f' : Forest}

theorem OpenElement.Read.close {o : OpenElement} (h : o.Read file text) :
    o.close.ReadFrom file text := by
  obtain ⟨stop, horigin⟩ := h.origin
  exact ⟨o, stop, horigin, rfl⟩

theorem read_of_openElement {content : List Char} {stop : Nat} {o : OpenElement}
    (h : openElement content { file, line := tagLineOf text stop } = .ok o) :
    o.Read file text := by
  unfold openElement at h
  cases hattributes : readAttributes content with
  | error fault =>
    rw [hattributes] at h
    contradiction
  | ok attributes =>
    rw [hattributes] at h
    cases h
    exact ⟨⟨stop, rfl⟩, .nil⟩

namespace Forest.Read

theorem below (h : f.Read file text) {top : OpenElement} {below : List OpenElement}
    (hstack : f.stack = top :: below) :
    top.Read file text ∧ ∀ o ∈ below, o.Read file text :=
  List.forall_mem_cons.mp (hstack ▸ h.stack)

theorem attach_close (h : f.Read file text) {o : OpenElement} (ho : o.Read file text) :
    (f.attach o.close).Read file text := by
  have hchildren : AllRead file text o.close.children :=
    ho.children.of_subset fun _ he => List.mem_reverse.mp he
  unfold Forest.attach
  split
  · exact ⟨.cons ho.close hchildren h.roots, h.stack⟩
  · rename_i hstack
    obtain ⟨htop, hbelow⟩ := h.below hstack
    have hadded : AllRead file text (o.close :: _) := .cons ho.close hchildren htop.children
    exact ⟨h.roots, List.forall_mem_cons.mpr ⟨⟨htop.origin, hadded⟩, hbelow⟩⟩

theorem addText (h : f.Read file text) (cs : List Char) : (f.addText cs).Read file text := by
  unfold Forest.addText
  split
  · exact h
  · rename_i hstack
    obtain ⟨htop, hbelow⟩ := h.below hstack
    exact ⟨h.roots, List.forall_mem_cons.mpr ⟨⟨htop.origin, htop.children⟩, hbelow⟩⟩

end Forest.Read

/-- Whatever piece a forest takes in, its elements were read from the text. -/
theorem Forest.Takes.read {stop : Nat} {piece : Piece}
    (h : f.Takes file (tagLineOf text stop) piece f') (hf : f.Read file text) :
    f'.Read file text := by
  cases h with
  | opening _ hopened =>
    exact ⟨hf.roots, List.forall_mem_cons.mpr ⟨read_of_openElement hopened, hf.stack⟩⟩
  | selfClosing hopened => exact hf.attach_close (read_of_openElement hopened)
  | @closing content top below hstack _ =>
    obtain ⟨htop, hbelow⟩ := hf.below hstack
    have hrest : Forest.Read file text { f with stack := below } := ⟨hf.roots, hbelow⟩
    exact hrest.attach_close htop
  | text => exact hf.addText _
  | outside => exact hf
  | cdata => exact hf.addText _
  | aside => exact hf

theorem Forest.TakesAll.read {tokens : List Token} (h : f.TakesAll file text tokens f')
    (hf : f.Read file text) : f'.Read file text := by
  induction h with
  | nil => exact hf
  | cons htakes _ ih => exact ih (htakes.read hf)

end Taking

theorem allRead_of_parse {file text : String} {es : List Element}
    (h : parse file text = .ok es) : AllRead file text.toList es := by
  obtain ⟨-, htakes⟩ := parse_eq_ok_iff.mp h
  have hstart : Forest.Read file text.toList { stack := [], roots := [] } :=
    ⟨.nil, fun _ ho => nomatch ho⟩
  exact (htakes.read hstart).roots.of_subset fun _ he => List.mem_reverse.mpr he

end DeskConfig.Markup
