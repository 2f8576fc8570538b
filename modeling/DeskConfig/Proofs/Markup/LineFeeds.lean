import DeskConfig.Proofs.Markup.Faults
import DeskConfig.Proofs.Markup.TagLines

/-!
Line feeds in markup. The name of a tag ends at the first blank, so no element has a name with
a line feed in it. What is reported of a text that is no document shows names of tags and parts
of the text, and has a line feed in it only if the text has one.
-/

namespace DeskConfig.Markup

open Text

/-- What a piece has of the text. -/
def Piece.content : Piece → List Char
  | .opening content => content
  | .selfClosing content => content
  | .closing content => content
  | .text raw => raw
  | .cdata body => body
  | .aside => []

/-- All that scanning finds is part of a text. -/
structure Scan.Within (cs : List Char) (s : Scan) : Prop where
  contents : ∀ token ∈ s.tokens, token.piece.content ⊆ cs
  failure : ∀ cause place, s.failure = some (cause, place) → Fault.TellsOf cs (.scan cause)

section Tokens

variable {pos : Nat} {cs rest : List Char} {token : Token}

theorem content_subset_of_section {kind : Section} {content : List Char} {piece : Piece}
    (h : kind.piece content = .ok piece) : piece.content ⊆ content := by
  unfold Section.piece at h
  split at h <;> split at h
  · cases h
    exact List.nil_subset _
  · contradiction
  · cases h
    refine List.Subset.trans (List.dropLast_subset _) ?_
    exact List.Subset.trans (List.dropLast_subset _) (List.drop_subset _ _)
  · contradiction
  · split at h
    · contradiction
    · cases h
      exact List.nil_subset _
  · contradiction

theorem quotes_of_section {kind : Section} {content : List Char} {cause : ScanError}
    (h : kind.piece content = .error cause) : cause.quotes = [] := by
  unfold Section.piece at h
  split at h <;> split at h
  · contradiction
  · cases h
    rfl
  · contradiction
  · cases h
    rfl
  · split at h <;> cases h
    rfl
  · cases h
    rfl

theorem subset_of_cutSection {kind : Section} {content : List Char}
    (h : cutSection kind [] cs = some (content, rest)) : content ⊆ cs := by
  have hcs : cs = content ++ '>' :: rest := eq_of_cutSection h
  exact hcs ▸ List.subset_append_left _ _

theorem subset_of_cutTag {content : List Char} (h : cutTag none cs = some (content, rest)) :
    content ⊆ cs :=
  eq_of_cutTag h ▸ List.subset_append_left _ _

theorem subset_of_cutOrAll (cs : List Char) : (cutOrAll cs).1 ⊆ cs := by
  induction cs with
  | nil => exact List.nil_subset _
  | cons c cs ih =>
    rw [cutOrAll]
    split
    · exact List.nil_subset _
    · exact List.cons_subset_cons c ih

theorem content_subset_of_step (h : step pos cs = .token token rest) :
    token.piece.content ⊆ cs := by
  unfold step at h
  split at h
  · contradiction
  · contradiction
  · unfold sectionStep at h
    split at h
    · contradiction
    split at h
    · contradiction
    split at h
    · contradiction
    next hcut =>
    split at h
    · next hpiece =>
      cases h
      have hcontent :=
        List.Subset.trans (content_subset_of_section hpiece) (subset_of_cutSection hcut)
      exact List.Subset.trans hcontent (List.subset_cons_self _ _)
    · contradiction
  · next cs =>
    unfold closingStep at h
    cases h
    have hcontent := List.Subset.trans (subset_of_cutOrAll cs) (List.subset_cons_self '/' cs)
    exact List.Subset.trans hcontent (List.subset_cons_self _ _)
  · unfold instructionStep at h
    simp only at h
    split at h
    · cases h
      exact List.nil_subset _
    · contradiction
  · unfold tagStep at h
    split at h
    · contradiction
    next hcut =>
    have hcontent := List.Subset.trans (subset_of_cutTag hcut) (List.subset_cons_self '<' _)
    split at h
    · cases h
      exact List.Subset.trans (List.dropLast_subset _) hcontent
    · cases h
      exact hcontent
  · unfold textStep at h
    cases h
    exact List.takeWhile_subset _

theorem tellsOf_of_failed {cause : ScanError} {place : Nat}
    (h : step pos cs = .failed cause place) : Fault.TellsOf cs (.scan cause) := by
  unfold step at h
  split at h
  · contradiction
  · contradiction
  · unfold sectionStep at h
    split at h
    · cases h
      exact .of_nothing rfl rfl
    next c _ hafter =>
    split at h
    · cases h
      have hc : c ∈ List.drop 1 _ := hafter ▸ List.mem_cons_self
      refine .of_char rfl rfl fun hlead => ?_
      rw [← leadChar_eq_feed_iff.mp hlead]
      exact List.mem_cons_of_mem _ (List.drop_subset _ _ hc)
    split at h
    · cases h
      exact .of_nothing rfl rfl
    split at h
    · contradiction
    · next hpiece =>
      cases h
      exact .of_nothing rfl (quotes_of_section hpiece)
  · contradiction
  · unfold instructionStep at h
    simp only at h
    split at h
    · contradiction
    · cases h
      exact .of_nothing rfl rfl
  · unfold tagStep at h
    split at h
    · cases h
      exact .of_nothing rfl rfl
    · split at h <;> contradiction
  · contradiction

theorem within_scanFrom (count pos : Nat) (cs : List Char) : (scanFrom count pos cs).Within cs := by
  induction count generalizing pos cs with
  | zero => exact ⟨List.forall_mem_nil _, fun cause place h => by contradiction⟩
  | succ count ih =>
    rw [scanFrom]
    cases hstep : step pos cs with
    | finished => exact ⟨List.forall_mem_nil _, fun cause place h => by contradiction⟩
    | failed cause place =>
      refine ⟨List.forall_mem_nil _, ?_⟩
      rintro _ _ ⟨⟩
      exact tellsOf_of_failed hstep
    | token token rest =>
      obtain ⟨taken, hcs, -⟩ := exists_taken hstep
      have hrest : rest ⊆ cs := hcs ▸ List.subset_append_right _ _
      have hlater := ih token.stop rest
      exact ⟨List.forall_mem_cons.mpr ⟨content_subset_of_step hstep,
          fun token ht => List.Subset.trans (hlater.contents token ht) hrest⟩,
        fun cause place hfailure => (hlater.failure cause place hfailure).of_subset hrest⟩

theorem within_scanned (text : String) : (scanned text).Within text.toList := by
  have hmark : dropMark text.toList ⊆ text.toList := by
    conv => rhs; rw [← leadingMark_append text.toList]
    exact List.subset_append_right _ _
  obtain ⟨hcontents, hfailure⟩ := within_scanFrom (dropMark text.toList).length 0
    (dropMark text.toList)
  exact ⟨fun token ht => List.Subset.trans (hcontents token ht) hmark,
    fun cause place h => (hfailure cause place h).of_subset hmark⟩

end Tokens

/-- The open elements have names without line feeds. -/
def Forest.Spelled (f : Forest) : Prop := ∀ o ∈ f.stack, OneLine o.tag.spelling

section Faults

variable {file label : String} {text : List Char} {lines : LineCursor} {f f' : Forest}
  {line : Nat} {fault : Fault}

theorem Forest.Spelled.retop {o o' : OpenElement} {below : List OpenElement}
    (hf : f.Spelled) (hstack : f.stack = o :: below) (htag : o'.tag = o.tag) :
    Forest.Spelled { f with stack := o' :: below } := by
  rw [Spelled, hstack] at hf
  obtain ⟨htop, hbelow⟩ := List.forall_mem_cons.mp hf
  exact List.forall_mem_cons.mpr ⟨htag ▸ htop, hbelow⟩

theorem Forest.Spelled.attach (hf : f.Spelled) (e : Element) : (f.attach e).Spelled := by
  unfold Forest.attach
  split
  · exact hf
  · next hstack => exact hf.retop hstack rfl

theorem Forest.Spelled.addText (hf : f.Spelled) (cs : List Char) : (f.addText cs).Spelled := by
  unfold Forest.addText
  split
  · exact hf
  · next hstack => exact hf.retop hstack rfl

theorem Forest.Takes.spelled {piece : Piece} (h : f.Takes file line piece f') (hf : f.Spelled) :
    f'.Spelled := by
  cases h with
  | opening _ hopened => exact List.forall_mem_cons.mpr ⟨oneLine_of_openElement hopened, hf⟩
  | selfClosing => exact hf.attach _
  | @closing content top below hstack _ =>
    have hbelow : Forest.Spelled { f with stack := below } :=
      fun o ho => hf o (hstack ▸ List.mem_cons_of_mem top ho)
    exact hbelow.attach _
  | text => exact hf.addText _
  | outside => exact hf
  | cdata => exact hf.addText _
  | aside => exact hf

theorem closingName_subset (content : List Char) : closingName content ⊆ content := by
  unfold closingName
  split
  · exact List.Subset.refl _
  · intro c hc
    exact List.mem_reverse.mp (List.dropWhile_subset _ (List.mem_reverse.mp hc))

/-- A fault in a piece shows the name of an open element and parts of the piece. -/
theorem tellsOf_of_add (hf : f.Spelled) {token : Token}
    (h : (f.add file token lines).1 = .error (line, fault)) :
    fault.TellsOf token.piece.content := by
  obtain ⟨piece, stop⟩ := token
  cases piece with
  | opening content =>
    simp only [Forest.add] at h
    split at h
    · cases h
      exact ⟨List.forall_mem_nil _, fun _ => List.forall_mem_nil _⟩
    split at h
    · next hopened =>
      cases h
      exact tellsOf_of_openElement hopened
    · contradiction
  | selfClosing content =>
    simp only [Forest.add] at h
    split at h
    · next hopened =>
      cases h
      exact tellsOf_of_openElement hopened
    · contradiction
  | closing content =>
    have hmismatch : ∀ {expected : String} {found : List Char}, OneLine expected →
        found ⊆ content → Fault.TellsOf content (.mismatch expected (String.ofList found)) := by
      intro expected found hexpected hfound
      refine ⟨List.forall_mem_singleton.mpr hexpected, fun hfeed => ?_⟩
      exact List.forall_mem_singleton.mpr (oneLine_ofList.mpr fun hc => hfeed (hfound hc))
    simp only [Forest.add] at h
    split at h
    · cases h
      exact hmismatch (by decide) (List.Subset.refl _)
    · next top below hstack =>
      split at h
      · contradiction
      · cases h
        exact hmismatch (hf top (hstack ▸ List.mem_cons_self)) (closingName_subset content)
  | text raw =>
    simp only [Forest.add] at h
    split at h
    · contradiction
    split at h
    · next hunescaped =>
      cases h
      exact tellsOf_of_unescape hunescaped
    · contradiction
  | cdata body => contradiction
  | aside => contradiction

theorem tellsOf_of_addAll (hlines : lines.In text) (hf : f.Spelled) {tokens : List Token}
    (hcontents : ∀ token ∈ tokens, token.piece.content ⊆ text)
    (h : (f.addAll file tokens lines).1 = .error (line, fault)) : fault.TellsOf text := by
  induction tokens generalizing f lines with
  | nil => contradiction
  | cons token tokens ih =>
    obtain ⟨hcontent, hlater⟩ := List.forall_mem_cons.mp hcontents
    have hin := add_in file f hlines token
    rw [Forest.addAll] at h
    cases hadd : f.add file token lines with
    | mk result lines' =>
      rw [hadd] at h hin
      cases result with
      | error found =>
        exact (tellsOf_of_add hf ((congrArg Prod.fst hadd).trans h)).of_subset hcontent
      | ok f' =>
        exact ih hin ((takes_of_add hlines (congrArg Prod.fst hadd)).spelled hf) hlater h

theorem spelled_of_addAll (hlines : lines.In text) (hf : f.Spelled) {tokens : List Token}
    (h : (f.addAll file tokens lines).1 = .ok f') : f'.Spelled := by
  have htakes := takesAll_of_addAll hlines h
  clear h
  induction htakes with
  | nil => exact hf
  | cons htakes _ ih => exact ih (htakes.spelled hf)

theorem tellsOf_of_finish (hf : f.Spelled) {failure : Option (ScanError × Nat)} {size : Nat}
    (hfailure : ∀ cause place, failure = some (cause, place) → Fault.TellsOf text (.scan cause))
    (h : f.finish failure size lines = .error (line, fault)) : fault.TellsOf text := by
  unfold Forest.finish at h
  split at h
  · cases h
    exact hfailure _ _ rfl
  · next top below hstack =>
    cases h
    refine ⟨List.forall_mem_singleton.mpr ?_, fun _ => List.forall_mem_nil _⟩
    exact hf top (hstack ▸ List.mem_cons_self)
  · contradiction

/-- What is reported of a text that is no document tells of that text. -/
theorem tellsOf_of_error {label text : String} {cause : MarkupError}
    (h : parse label text = .error cause) : cause.fault.TellsOf text.toList := by
  have hstart := LineCursor.start_in text.toList
  have hempty : Forest.Spelled { stack := [], roots := [] } := List.forall_mem_nil _
  obtain ⟨hcontents, hfailure⟩ := within_scanned text
  unfold parse elementsOf at h
  simp only at h
  cases hall : Forest.addAll label (scanned text).tokens { stack := [], roots := [] }
      (LineCursor.start text.toList) with
  | mk result lines =>
    rw [scanned] at hall
    rw [hall] at h
    cases result with
    | error found =>
      cases h
      exact tellsOf_of_addAll hstart hempty hcontents (congrArg Prod.fst hall)
    | ok f =>
      have hspelled := spelled_of_addAll hstart hempty (congrArg Prod.fst hall)
      cases hfinish : f.finish (scan (dropMark text.toList)).failure (byteSize text.toList)
          lines with
      | ok es =>
        simp only [hfinish] at h
        contradiction
      | error found =>
        simp only [hfinish] at h
        cases h
        exact tellsOf_of_finish hspelled hfailure hfinish

end Faults

section Names

variable {file label text : String} {es : List Element} {e : Element}

theorem exists_mem_walkAllFrom (he : Inside e es) (depth : Nat) :
    ∃ d, (d, e) ∈ Element.walkAllFrom depth es := by
  induction he generalizing depth with
  | @top es hmem =>
    obtain ⟨before, after, rfl⟩ := List.append_of_mem hmem
    refine ⟨depth, ?_⟩
    simp [Element.walkAllFrom_append, Element.walkAllFrom, Element.walkFrom_eq]
  | @child e' es hmem _ ih =>
    obtain ⟨before, after, rfl⟩ := List.append_of_mem hmem
    obtain ⟨d, hd⟩ := ih (depth + 1)
    refine ⟨d, ?_⟩
    simp [Element.walkAllFrom_append, Element.walkAllFrom, Element.walkFrom_eq, hd]

theorem OpeningTag.Opens.oneLine {text : List Char} {t : OpeningTag} {p : Nat × Element}
    (h : t.Opens file text p) : OneLine p.2.name := by
  obtain ⟨-, opened, hopened, hbare⟩ := h
  have htag : p.2.tag = opened.tag := congrArg Element.tag hbare
  rw [Element.name, htag]
  exact oneLine_of_openElement hopened

/-- No element of a document has a name with a line feed in it. -/
theorem oneLine_name_of_inside (h : parse label text = .ok es) (he : Inside e es) :
    OneLine e.name := by
  obtain ⟨d, hd⟩ := exists_mem_walkAllFrom he 0
  have hopens : ∀ p ∈ Element.walk es, OneLine p.2.name := by
    have hall := opens_of_parse h
    generalize tagsOf text = tags at hall
    generalize Element.walk es = seen at hall
    induction hall with
    | nil => exact List.forall_mem_nil _
    | cons hopens _ ih => exact List.forall_mem_cons.mpr ⟨hopens.oneLine, ih⟩
  exact hopens _ hd

end Names

end DeskConfig.Markup
