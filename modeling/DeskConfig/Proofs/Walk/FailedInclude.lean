import DeskConfig.Proofs.Menus.InPlace

/-!
Includes that fail. Before anything of a document is used, its include has to have a text
that names a source, the source has to be readable, all of its content has to be markup, and
the document has to hold an element of the right tag. An include that fails in one of these
ways is reported and leaves everything else as it was.
-/

namespace DeskConfig

open Markup (Element Tag)

namespace Include

/-- The ways in which an include can fail, in the order they are found out. -/
inductive Failure where
  | textless
  | sourceless (cause : IncludeError)
  | unreadable (source : Source) (cause : IncludeError)
  | malformed (reference : String) (source : Source) (cause : Markup.MarkupError)
  | rootless (reference : String) (document : List Element)

/-- How sources are named in a place, and which documents are of use there. -/
structure Kind where
  sourceOf : World → String → Except IncludeError Source
  accepts : List Element → Prop

/-- Includes in documents: the document has to hold a top-level element of the right tag. -/
def inDocument : Kind where
  sourceOf := Source.ofReference
  accepts document := ∃ top ∈ document, top.tag = .jwm

/-- Includes in menus: the first element of the document has to be a menu. -/
def inMenu : Kind where
  sourceOf := Source.ofMenuReference
  accepts document := ∃ top rest, document = top :: rest ∧ top.tag = .menu

/-- The content of a source: the text of a file, or what a command prints. -/
def content (world : World) (shell : String) (history : List Call) :
    Source → Except IncludeError String
  | .file path => world.readText history path
  | .command line =>
    match world.run history { shell, command := line } with
    | some r => .ok r.output
    | none => .error (.notStarted line)

section

variable (kind : Kind) (world : World) (shell : String) (history : List Call) (e : Element)

/-- An include fails in the given way. -/
inductive Fails : Failure → Prop
  | textless : e.text = none → Fails .textless
  | sourceless {reference cause} : e.text = some reference →
      kind.sourceOf world reference = .error cause → Fails (.sourceless cause)
  | unreadable {reference source cause} : e.text = some reference →
      kind.sourceOf world reference = .ok source →
      content world shell history source = .error cause → Fails (.unreadable source cause)
  | malformed {reference source text cause} : e.text = some reference →
      kind.sourceOf world reference = .ok source →
      content world shell history source = .ok text →
      Markup.parse source.label text = .error cause → Fails (.malformed reference source cause)
  | rootless {reference source text document} : e.text = some reference →
      kind.sourceOf world reference = .ok source →
      content world shell history source = .ok text →
      Markup.parse source.label text = .ok document → ¬ kind.accepts document →
      Fails (.rootless reference document)

/-- An include names a document that is of use. -/
def Finds (document : List Element) : Prop :=
  ∃ reference source text, e.text = some reference ∧ kind.sourceOf world reference = .ok source ∧
    content world shell history source = .ok text ∧
    Markup.parse source.label text = .ok document ∧ kind.accepts document

/-- There is no other way to fail. -/
theorem fails_or_finds :
    (∃ failure, Fails kind world shell history e failure) ∨
      ∃ document, Finds kind world shell history e document := by
  cases htext : e.text with
  | none => exact .inl ⟨_, .textless htext⟩
  | some reference =>
    cases hsource : kind.sourceOf world reference with
    | error cause => exact .inl ⟨_, .sourceless htext hsource⟩
    | ok source =>
      cases hcontent : content world shell history source with
      | error cause => exact .inl ⟨_, .unreadable htext hsource hcontent⟩
      | ok text =>
        cases hparse : Markup.parse source.label text with
        | error cause => exact .inl ⟨_, .malformed htext hsource hcontent hparse⟩
        | ok document =>
          by_cases hdocument : kind.accepts document
          · exact .inr ⟨document, reference, source, text, htext, hsource, hcontent, hparse,
              hdocument⟩
          · exact .inl ⟨_, .rootless htext hsource hcontent hparse hdocument⟩

end

/-- What is reported of a failed include in a document. Of a document without an element of
the right tag, each element is reported. -/
def documentReport (e : Element) : Failure → List Diagnostic
  | .textless => [.located e.origin (.missingText e.name)]
  | .sourceless cause => [.located e.origin (.failedInclude cause)]
  | .unreadable source _ => [.located e.origin (.unreadableInclude source.label)]
  | .malformed _ _ cause => [.ofMarkup cause]
  | .rootless _ document =>
    document.map fun top => .located top.origin (.invalidStartTag top.name)

/-- What is reported of a failed include in a menu. A fault in the markup is reported at its
own place and at that of the include. -/
def menuReport (e : Element) : Failure → List Diagnostic
  | .textless => [.located e.origin (.missingText e.name)]
  | .sourceless cause => [.located e.origin (.failedInclude cause)]
  | .unreadable _ cause => [.located e.origin (.failedInclude cause)]
  | .malformed reference _ cause => [.ofMarkup cause, .located e.origin (.invalidMenu reference)]
  | .rootless reference _ => [.located e.origin (.invalidMenu reference)]

section Resolve

variable {world : World} {shell : String} {history : List Call} {source : Source}

/-- What a source comes to is its content as markup. -/
theorem resolve_eq (world : World) (shell : String) (history : List Call) (source : Source) :
    (resolve world shell history source).1 =
      content world shell history source >>= parseSource source.label := by
  cases source with
  | file path =>
    simp only [resolve, content]
    cases world.readText history path <;> rfl
  | command line =>
    simp only [resolve, content]
    cases world.run history { shell, command := line } <;> rfl

theorem resolve_of_content {text : String} (h : content world shell history source = .ok text) :
    (resolve world shell history source).1 = parseSource source.label text := by
  rw [resolve_eq, h]
  rfl

/-- A source that cannot be read is not one with bad markup. -/
theorem ne_markup_of_content {cause : IncludeError}
    (h : content world shell history source = .error cause) (fault : Markup.MarkupError) :
    cause ≠ .markup fault := by
  rintro rfl
  cases source with
  | file path =>
    simp only [content, World.readText] at h
    split at h <;> cases h
  | command line =>
    simp only [content] at h
    split at h <;> cases h

theorem resolve_of_unreadable {cause : IncludeError}
    (h : content world shell history source = .error cause) :
    (resolve world shell history source).1 = .error cause := by
  rw [resolve_eq, h]
  rfl

end Resolve

/-- Below the limit an include is entered. -/
theorem exists_enter? {limit depth : Nat} (h : depth < limit) :
    ∃ next, enter? limit depth = some next :=
  ⟨_, enter?_eq_some_iff.mpr ⟨rfl, by omega⟩⟩

/-- Elements of a wrong tag are reported one by one. -/
theorem walkDocument_of_rootless (world : World) (includes : Includes) (es : List Element)
    (hes : ∀ top ∈ es, top.tag ≠ .jwm) (c : Config) (history : List Call) :
    walkDocument world includes es c history =
      { config := c
        journal := .ofWarnings (es.map fun top =>
          .located top.origin (.invalidStartTag top.name)) } := by
  induction es with
  | nil => rfl
  | cons top es ih =>
    have hrest := ih fun e he => hes e (List.mem_cons_of_mem _ he)
    rw [walkDocument]
    simp only [if_neg (hes top List.mem_cons_self)]
    rw [Progress.andThen_of_not_stopped rfl, Progress.calls_ofWarning, List.append_nil,
      Progress.config_ofWarning, hrest]
    rfl

section Documents

variable {world : World} {limits : Limits} {depth : Nat} {history : List Call} {e : Element}
  {failure : Failure}

/-- A failed include in a document is reported and does nothing else. -/
theorem documentInclude_of_fails (h : Fails inDocument world limits.shell history e failure)
    (hdepth : depth < limits.includeDepth) (budget : Nat) (c : Config) :
    let p := documentInclude world limits (budget + 1) depth e c history
    p.config = c ∧ p.stopped = false ∧ p.journal.diagnostics = documentReport e failure := by
  obtain ⟨next, hn⟩ := exists_enter? hdepth
  have hnoting : ∀ (source : Source) (p : Progress), (p.noting (.including source.label next ::
      (resolve world limits.shell history source).2)).journal.diagnostics =
        p.journal.diagnostics := by
    intro source p
    simp [Progress.noting, diagnostics_resolve]
  cases h with
  | textless htext =>
    rw [documentInclude_of_no_text htext]
    exact ⟨rfl, rfl, rfl⟩
  | sourceless htext hsource =>
    rw [documentInclude_of_no_source htext hn hsource]
    exact ⟨rfl, rfl, rfl⟩
  | @unreadable _ source cause htext hsource hcontent =>
    -- Bad markup would be reported at its own place instead.
    have hmarkup := ne_markup_of_content hcontent
    rw [documentInclude_of_source htext hn hsource, resolve_of_unreadable hcontent]
    refine ⟨?_, ?_, ?_⟩
    · cases cause <;> rfl
    · cases cause <;> rfl
    · rw [hnoting]
      cases cause with
      | markup fault => exact absurd rfl (hmarkup fault)
      | _ => rfl
  | malformed htext hsource hcontent hparse =>
    rw [documentInclude_of_source htext hn hsource, resolve_of_content hcontent, parseSource,
      hparse]
    exact ⟨rfl, rfl, hnoting _ _⟩
  | @rootless _ _ _ document htext hsource hcontent hparse hdocument =>
    have htags : ∀ top ∈ document, top.tag ≠ .jwm := fun top htop htag => hdocument ⟨top, htop, htag⟩
    rw [documentInclude_of_source htext hn hsource, resolve_of_content hcontent, parseSource,
      hparse]
    simp only [includedDocument, walkDocument_of_rootless _ _ _ htags]
    refine ⟨rfl, rfl, ?_⟩
    rw [hnoting]
    exact Journal.diagnostics_ofWarnings _

/-- A failed include in a menu is reported and does nothing else. -/
theorem menuInclude_of_fails {shell : String} {limit : Nat}
    (h : Fails inMenu world shell history e failure) (hdepth : depth < limit)
    (budget level height : Nat) :
    let y := menuInclude world shell limit (budget + 1) depth e level height history
    y.items = [] ∧ y.confirm = none ∧ y.stopped = false ∧
      y.journal.diagnostics = menuReport e failure := by
  obtain ⟨next, hn⟩ := exists_enter? hdepth
  have hnoting : ∀ (source : Source) (y : MenuYield), (y.noting (.includingMenu source.label next ::
      (resolve world shell history source).2)).journal.diagnostics = y.journal.diagnostics := by
    intro source y
    simp [MenuYield.noting, diagnostics_resolve]
  cases h with
  | textless htext =>
    rw [menuInclude_of_no_text htext]
    exact ⟨rfl, rfl, rfl, rfl⟩
  | sourceless htext hsource =>
    rw [menuInclude_of_no_source htext hn hsource]
    exact ⟨rfl, rfl, rfl, rfl⟩
  | @unreadable _ source cause htext hsource hcontent =>
    have hmarkup := ne_markup_of_content hcontent
    have hincluded : ∀ items reference history,
        includedItems items e reference history (.error cause) =
          .ofWarning e (.failedInclude cause) := by
      intro items reference history
      cases cause with
      | markup fault => exact absurd rfl (hmarkup fault)
      | _ => rfl
    rw [menuInclude_of_source htext hn hsource, resolve_of_unreadable hcontent, hincluded]
    exact ⟨rfl, rfl, rfl, hnoting _ _⟩
  | malformed htext hsource hcontent hparse =>
    rw [menuInclude_of_source htext hn hsource, resolve_of_content hcontent, parseSource, hparse]
    exact ⟨rfl, rfl, rfl, hnoting _ _⟩
  | @rootless reference _ _ document htext hsource hcontent hparse hdocument =>
    have hincluded : ∀ items history, includedItems items e reference history (.ok document) =
        .ofWarning e (.invalidMenu reference) := by
      intro items history
      cases document with
      | nil => rfl
      | cons top rest =>
        have htop : top.tag ≠ .menu := fun htag => hdocument ⟨top, rest, rfl, htag⟩
        simp only [includedItems, if_neg htop]
    rw [menuInclude_of_source htext hn hsource, resolve_of_content hcontent, parseSource, hparse,
      hincluded]
    exact ⟨rfl, rfl, rfl, hnoting _ _⟩

end Documents

theorem buildItem_of_fails {world : World} {shell : String} {limit depth : Nat} {e : Element}
    {failure : Failure} {b : Building} (h : Fails inMenu world shell b.journal.calls e failure)
    (he : e.tag = .include) (hdepth : depth < limit) (budget level height : Nat)
    (hb : b.stopped = false) :
    let b' := buildItem (buildInclude world shell limit (budget + 1) depth) level height b e
    b'.stopped = false ∧ b'.config = b.config ∧ b'.items = b.items ∧
      b'.journal.diagnostics = b.journal.diagnostics ++ menuReport e failure := by
  obtain ⟨hitems, hconfirm, hstopped, hdiagnostics⟩ :=
    menuInclude_of_fails h hdepth budget level height
  have hbuild : ∀ build : BuildInclude, buildItem build level height b e =
      build e level height b := by
    intro build
    obtain ⟨tag, text, attributes, children, origin⟩ := e
    cases he
    rw [buildItem]
  rw [hbuild, buildInclude_leadsTo world shell limit (budget + 1) depth e level height b hb]
  simp [Building.after, hb, hitems, hconfirm, hstopped, hdiagnostics]

/-- A fault in markup lies in the document it was found in. -/
theorem file_of_malformed {kind : Kind} {world : World} {shell : String} {history : List Call}
    {e : Element} {reference : String} {source : Source} {cause : Markup.MarkupError}
    (h : Fails kind world shell history e (.malformed reference source cause)) :
    cause.origin.file = source.label := by
  cases h with
  | malformed _ _ _ hparse =>
    unfold Markup.parse at hparse
    split at hparse
    · contradiction
    · cases hparse
      rfl

end Include

open Include (Failure Fails Finds inDocument inMenu documentReport menuReport)

/-- An include fails in one of five ways or names a document that is of use. One that fails
below the include limit, in a document or in a menu of any level, lets the walk go on and
leaves the configuration and the items of the menu as they were, whatever else the document
holds; all that is added is its report. That is one warning, but two for bad markup in a menu,
the first of them at the fault itself, and one for each element of a document that is of no
use in the place of a document. -/
theorem failed_includes_are_local :
    (∀ kind world shell history e, (∃ failure, Fails kind world shell history e failure) ∨
      ∃ document, Finds kind world shell history e document) ∧
    (∀ (world : World) (limits : Limits) (budget depth : Nat) (c : Config) (history : List Call)
      (e : Element) (failure : Failure), e.tag = .include → depth < limits.includeDepth →
      Fails inDocument world limits.shell history e failure →
      let p := walkElement world (includesAt world limits (budget + 1) depth) .jwm e c history
      p.stopped = false ∧ p.config = c ∧ p.journal.diagnostics = documentReport e failure) ∧
    (∀ (world : World) (limits : Limits) (budget depth level height : Nat)
      (e : Element) (failure : Failure), e.tag = .include → depth < limits.includeDepth →
      (∀ history, Fails inMenu world limits.shell history e failure →
        let y := itemOf (includesAt world limits (budget + 1) depth).inMenu level height history e
        y.stopped = false ∧ y.items = [] ∧ y.confirm = none ∧
          y.journal.diagnostics = menuReport e failure) ∧
      ∀ b : Building, b.stopped = false →
        Fails inMenu world limits.shell b.journal.calls e failure →
        let build := buildInclude world limits.shell limits.includeDepth (budget + 1) depth
        let b' := buildItem build level height b e
        b'.stopped = false ∧ b'.config = b.config ∧ b'.items = b.items ∧
          b'.journal.diagnostics = b.journal.diagnostics ++ menuReport e failure) ∧
    (∀ e failure,
      (documentReport e failure).length =
        (match failure with
          | .rootless _ document => document.length
          | _ => 1) ∧
      (menuReport e failure).length =
        (match failure with
          | .malformed .. => 2
          | _ => 1)) ∧
    ∀ kind world shell history e reference source cause,
      Fails kind world shell history e (.malformed reference source cause) →
      cause.origin.file = source.label := by
  refine ⟨Include.fails_or_finds, ?_, ?_, ?_, ?_⟩
  · intro world limits budget depth c history e failure he hdepth hfails
    obtain ⟨hconfig, hstopped, hdiagnostics⟩ :=
      Include.documentInclude_of_fails hfails hdepth budget c
    rw [walkElement_include he]
    exact ⟨hstopped, hconfig, hdiagnostics⟩
  · intro world limits budget depth level height e failure he hdepth
    refine ⟨?_, ?_⟩
    · intro history hfails
      obtain ⟨hitems, hconfirm, hstopped, hdiagnostics⟩ :=
        Include.menuInclude_of_fails hfails hdepth budget level height
      rw [itemOf_include he]
      exact ⟨hstopped, hitems, hconfirm, hdiagnostics⟩
    · intro b hb hfails
      exact Include.buildItem_of_fails hfails he hdepth budget level height hb
  · intro e failure
    cases failure <;> simp [documentReport, menuReport]
  · intro kind world shell history e reference source cause hfails
    exact Include.file_of_malformed hfails

/-- A menu that has an item before it ends too soon. -/
def brokenText : String := "<Menu><Separator/>"

/-- The item is not put in, and the fault is reported twice. -/
theorem failed_includes_are_local_broken :
    let world := World.holding "/broken" brokenText
    let e := madeIn "jwmrc" .include (some "/broken")
    let y := itemOf (includesAt world ⟨"/bin/sh", 8⟩ 8 0).inMenu 0 0 [] e
    y.stopped = false ∧ y.items = [] ∧ y.journal.diagnostics =
      [.located ⟨"/broken", 1⟩ (.markup (.unclosed "Menu")),
        .located ⟨"jwmrc", 1⟩ (.invalidMenu "/broken")] := by
  intro world e y
  have hascii : Text.isAscii brokenText.toList = true := by decide +kernel
  have hfile : world.readText [] "/broken" = .ok brokenText := World.readText_holding hascii []
  have hcontent : Include.content world "/bin/sh" [] (.file "/broken") = .ok brokenText := hfile
  have hparse : Markup.parse "/broken" brokenText =
      .error ⟨⟨"/broken", 1⟩, .unclosed "Menu"⟩ := by
    rfl
  have hfails : Fails inMenu world "/bin/sh" [] e
      (.malformed "/broken" (.file "/broken") ⟨⟨"/broken", 1⟩, .unclosed "Menu"⟩) :=
    .malformed rfl rfl hcontent hparse
  obtain ⟨hstopped, hitems, -, hdiagnostics⟩ :=
    (failed_includes_are_local.2.2.1 world ⟨"/bin/sh", 8⟩ 7 0 0 0 e _ rfl (by decide)).1 []
      hfails
  exact ⟨hstopped, hitems, hdiagnostics⟩

end DeskConfig
