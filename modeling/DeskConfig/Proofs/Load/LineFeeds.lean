import DeskConfig.Proofs.Load.Provenance

/-!
Line feeds in warnings. A warning is shown on a line of its own, but what it quotes is put in as
it stands: the text of an element or the value of an attribute may have line feeds in it, and
the warning then takes more lines than one. Nothing else can break a warning up, as long as
there are no line feeds in the paths, commands and labels that it shows: element names have
none, and a report of bad markup has one only if the text itself does.
-/

namespace DeskConfig

open Markup (Element)
open Text (OneLine)

/-- Where the line feeds in the warnings of a load come from. -/
structure Load.LineFeeds (world : World) (roots : List SourceText) (l : Load) : Prop where
  /-- Names of elements do not matter. -/
  exact : ∀ d ∈ l.diagnostics, OneLine d.render ↔
    (∀ s ∈ d.sources, OneLine s) ∧ ∀ q ∈ d.problem.quotes, OneLine q
  /-- What is quoted is part of what the element at the place of the warning holds, or it stands
  in a text that is no document. -/
  quoted : ∀ d ∈ l.diagnostics, ∀ q ∈ d.problem.quotes,
    (∃ e : Element, e.StandsIn (roots ++ l.journal.sourceTexts world []) ∧
      d.origin = some e.origin ∧ ∃ v, e.Holds v ∧ q.toList <:+: v.toList) ∨
    ∃ t ∈ roots ++ l.journal.sourceTexts world [], ∃ cause,
      Markup.parse t.label t.text = .error cause ∧ d = .ofMarkup cause ∧
        (OneLine t.text → OneLine q)
  /-- Without line feeds in names, values and malformed texts, each warning is on one line. -/
  single : (∀ d ∈ l.diagnostics, ∀ s ∈ d.sources, OneLine s) →
    (∀ e : Element, e.StandsIn (roots ++ l.journal.sourceTexts world []) →
      ∀ v, e.Holds v → OneLine v) →
    (∀ t ∈ roots ++ l.journal.sourceTexts world [], OneLine t.text ∨
      ∃ es, Markup.parse t.label t.text = .ok es) →
    ∀ d ∈ l.diagnostics, OneLine d.render

theorem Diagnostic.About.oneLine_names {texts : List SourceText} {d : Diagnostic}
    (h : d.About texts) : ∀ n ∈ d.problem.names, OneLine n := by
  cases h with
  | element _ hregards => exact hregards.names
  | markup _ hparse => exact (Markup.tellsOf_of_error hparse).names

section Loads

variable {world : World} {o : Options} {roots : List SourceText} {label text : String} {l : Load}

theorem lineFeeds_of_about (h : ∀ d ∈ l.diagnostics,
      d.About (roots ++ l.journal.sourceTexts world []) ∨ ∃ cause, d = .ofLoadError cause) :
    l.LineFeeds world roots := by
  have hexact : ∀ d ∈ l.diagnostics, OneLine d.render ↔
      (∀ s ∈ d.sources, OneLine s) ∧ ∀ q ∈ d.problem.quotes, OneLine q := by
    intro d hd
    have hnames : ∀ n ∈ d.problem.names, OneLine n := by
      obtain habout | ⟨cause, rfl⟩ := h d hd
      · exact habout.oneLine_names
      · exact List.forall_mem_nil _
    rw [d.oneLine_render_iff, and_iff_right hnames]
  have hquoted : ∀ d ∈ l.diagnostics, ∀ q ∈ d.problem.quotes,
      (∃ e : Element, e.StandsIn (roots ++ l.journal.sourceTexts world []) ∧
        d.origin = some e.origin ∧ ∃ v, e.Holds v ∧ q.toList <:+: v.toList) ∨
      ∃ t ∈ roots ++ l.journal.sourceTexts world [], ∃ cause,
        Markup.parse t.label t.text = .error cause ∧ d = .ofMarkup cause ∧
          (OneLine t.text → OneLine q) := by
    intro d hd q hq
    obtain habout | ⟨cause, rfl⟩ := h d hd
    · cases habout with
      | element he hregards => exact .inl ⟨_, he, rfl, hregards.quotes q hq⟩
      | markup ht hparse =>
        have htells := Markup.tellsOf_of_error hparse
        exact .inr ⟨_, ht, _, hparse, rfl, fun htext => htells.quotes htext q hq⟩
    · contradiction
  refine ⟨hexact, hquoted, fun hsources hheld hparsed d hd => ?_⟩
  refine (hexact d hd).mpr ⟨hsources d hd, fun q hq => ?_⟩
  obtain ⟨e, he, -, v, hv, hpart⟩ | ⟨t, ht, cause, hparse, -, hshown⟩ := hquoted d hd q hq
  · exact (hheld e he v hv).of_within hpart
  · refine hshown ((hparsed t ht).resolve_right ?_)
    rintro ⟨es, hes⟩
    rw [hparse] at hes
    contradiction

theorem LoadOf.lineFeeds (h : LoadOf world o label text l) :
    l.LineFeeds world [{ label, text }] := by
  obtain ⟨hloaded, hfailed⟩ := h.about
  refine lineFeeds_of_about fun d hd => ?_
  cases hoc : l.outcome with
  | ok loaded => exact .inl (hloaded loaded hoc d hd)
  | error cause =>
    obtain ⟨warnings, hdiagnostics, hwarnings⟩ := hfailed cause hoc
    rw [hdiagnostics] at hd
    rcases List.mem_append.mp hd with hd | hd
    · exact .inl (hwarnings d hd)
    · exact .inr ⟨cause, List.mem_singleton.mp hd⟩

end Loads

/-- Warnings are put on lines of their own, but they quote what documents hold as it stands, and
line feeds in it go with it. There are none in a warning but these and those of the paths,
commands and labels that it shows, so a load warns in single lines if the values in its documents
have none. -/
theorem line_feeds_are_quoted (world : World) (o : Options) :
    (∀ label text l, LoadOf world o label text l → l.LineFeeds world [{ label, text }]) ∧
    ∀ primary fallback, world.readText [] o.configPath = .error primary →
      world.readText [] o.fallbackPath = .error fallback → (load world o).LineFeeds world [] := by
  refine ⟨fun label text l h => h.lineFeeds, fun primary fallback hprimary hfallback => ?_⟩
  obtain ⟨-, hdiagnostics, -⟩ := load_of_unreadable hprimary hfallback
  refine lineFeeds_of_about fun d hd => .inr ?_
  rw [hdiagnostics] at hd
  exact ⟨_, List.mem_singleton.mp hd⟩

/-- A focus model that there is not. -/
def unknownText : String := "<JWM><FocusModel>strict</FocusModel></JWM>"

/-- Its name is quoted, and the warning is on one line like the name. -/
theorem line_feeds_are_quoted_unknown :
    let l := loadText (World.holding "" "") twoFiles "jwmrc" unknownText
    LoadOf (World.holding "" "") twoFiles "jwmrc" unknownText l ∧
      l.diagnostics = [.located ⟨"jwmrc", 1⟩ (.invalidValue "focus model" "strict")] ∧
      (∀ d ∈ l.diagnostics, OneLine d.render) ∧
      (load (World.holding "" "") twoFiles).LineFeeds (World.holding "" "") [] := by
  intro l
  have hdiagnostics : l.diagnostics =
      [.located ⟨"jwmrc", 1⟩ (.invalidValue "focus model" "strict")] := by decide +kernel
  have htexts : l.journal.sourceTexts (World.holding "" "") [] = [] := by decide +kernel
  have hparsed : Markup.parse "jwmrc" unknownText =
      .ok [madeIn "jwmrc" .jwm none [madeIn "jwmrc" .focusModel (some "strict")]] := by rfl
  obtain ⟨hheld, hmissing⟩ := line_feeds_are_quoted (World.holding "" "") twoFiles
  have hfeeds := hheld "jwmrc" unknownText l (.held _ _)
  refine ⟨.held _ _, hdiagnostics, hfeeds.single ?_ ?_ ?_, hmissing _ _ rfl rfl⟩
  · rw [hdiagnostics]
    decide
  · rw [htexts]
    rintro e ⟨t, ht, es, hparse, hinside⟩ v hv
    obtain rfl := List.mem_singleton.mp ht
    rw [hparsed] at hparse
    cases hparse
    cases hinside with
    | top hmem =>
      obtain rfl := List.mem_singleton.mp hmem
      obtain hv | ⟨a, ha, -⟩ := hv <;> contradiction
    | child hmem hinside =>
      obtain rfl := List.mem_singleton.mp hmem
      cases hinside with
      | top hmem =>
        obtain rfl := List.mem_singleton.mp hmem
        obtain hv | ⟨a, ha, -⟩ := hv
        · cases hv
          decide
        · contradiction
      | child hmem hinside =>
        obtain rfl := List.mem_singleton.mp hmem
        cases hinside <;> contradiction
  · rw [htexts]
    exact List.forall_mem_singleton.mpr (.inr ⟨_, hparsed⟩)

/-- A focus model of two lines. -/
def twoLineText : String := "<JWM><FocusModel>a\nb</FocusModel></JWM>"

/-- The warning that there is none of that name has two lines too, although no path, command or
label has a line feed. -/
theorem quoted_line_feed_breaks_warning :
    let l := loadText (World.holding "" "") twoFiles "jwmrc" twoLineText
    (∃ loaded, l.outcome = .ok loaded) ∧ l.journal.paths = [] ∧ l.calls = [] ∧
      OneLine "jwmrc" ∧
      l.diagnostics.map Diagnostic.render = ["jwmrc[1]: invalid focus model: \"a\nb\""] ∧
      ¬ ∀ d ∈ l.diagnostics, OneLine d.render := by
  intro l
  have hstopped : (Load.walkText (World.holding "" "") twoFiles "jwmrc" twoLineText).stopped =
      false := by decide +kernel
  have hdiagnostics : l.diagnostics =
      [.located ⟨"jwmrc", 1⟩ (.invalidValue "focus model" "a\nb")] := by decide +kernel
  refine ⟨exists_loaded_of_not_stopped hstopped, by decide +kernel, by decide +kernel, by decide,
    ?_, ?_⟩
  · rw [hdiagnostics]
    decide +kernel
  · rw [hdiagnostics]
    decide +kernel

end DeskConfig
