import DeskConfig.Proofs.Markup.LineFeeds
import DeskConfig.Proofs.Settings.Warnings
import DeskConfig.Proofs.Walk.Include

/-!
The texts that are read. A journal tells which files were read and which commands were run,
and the world tells what texts these gave, so the texts of a load are those of its journal. A
warning is about an element that stands in one of them and shows what that holds, or it is about
the markup of one of them.
-/

namespace DeskConfig

open Markup (Element)

/-- A text that was read, with the label of its source. -/
structure SourceText where
  label : String
  text : String
deriving DecidableEq, Repr

/-- The text that an event tells of, after the given calls. -/
def Event.sourceText? (world : World) (history : List Call) : Event → Option SourceText
  | .reading path =>
    match world.readText history path with
    | .ok text => some { label := path, text }
    | .error _ => none
  | .ran call => (world.run history call).map fun r => { label := call.command, text := r.output }
  | _ => none

/-- The texts that were read, in order. `history` holds the commands run before. -/
def Journal.sourceTexts (world : World) : (history : List Call) → Journal → List SourceText
  | _, [] => []
  | history, event :: j =>
    (event.sourceText? world history).toList ++
      sourceTexts world (history ++ event.call?.toList) j

/-- An element of a document that one of the texts is, however deep inside others. -/
def Markup.Element.StandsIn (texts : List SourceText) (e : Element) : Prop :=
  ∃ t ∈ texts, ∃ es, Markup.parse t.label t.text = .ok es ∧ Markup.Inside e es

/-- What a warning is about: an element of a text, or the markup of a text that is no
document. -/
inductive Diagnostic.About (texts : List SourceText) : Diagnostic → Prop
  | element {e : Element} {problem : Problem} : e.StandsIn texts → problem.Regards e →
      About texts (.located e.origin problem)
  | markup {t cause} : t ∈ texts → Markup.parse t.label t.text = .error cause →
      About texts (.ofMarkup cause)

/-- The warning is at a place in one of the texts. -/
def Diagnostic.PointsInto (texts : List SourceText) (d : Diagnostic) : Prop :=
  ∃ t ∈ texts, ∃ origin, d.origin = some origin ∧ origin.PointsInto t.label t.text

section Texts

variable {texts texts' : List SourceText} {e : Element} {d : Diagnostic}

theorem Markup.Element.StandsIn.mono (h : e.StandsIn texts) (htexts : texts ⊆ texts') :
    e.StandsIn texts' := by
  obtain ⟨t, ht, hstands⟩ := h
  exact ⟨t, htexts ht, hstands⟩

theorem Markup.Element.StandsIn.child (h : e.StandsIn texts) :
    ∀ e' ∈ e.children, e'.StandsIn texts := by
  obtain ⟨t, ht, es, hparse, hinside⟩ := h
  exact fun e' he' => ⟨t, ht, es, hparse, hinside.descend he'⟩

theorem Markup.Element.StandsIn.oneLine_name (h : e.StandsIn texts) : Text.OneLine e.name := by
  obtain ⟨t, ht, es, hparse, hinside⟩ := h
  exact Markup.oneLine_name_of_inside hparse hinside

theorem standsIn_of_mem {t : SourceText} {es : List Element} (ht : t ∈ texts)
    (hparse : Markup.parse t.label t.text = .ok es) : ∀ e ∈ es, e.StandsIn texts :=
  fun _ he => ⟨t, ht, es, hparse, .top he⟩

theorem Markup.Element.StandsIn.pointsInto (h : e.StandsIn texts) (problem : Problem) :
    Diagnostic.PointsInto texts (.located e.origin problem) := by
  obtain ⟨t, ht, es, hparse, hinside⟩ := h
  exact ⟨t, ht, e.origin, rfl, Markup.pointsInto_of_inside hparse hinside⟩

theorem Diagnostic.About.mono (h : d.About texts) (htexts : texts ⊆ texts') :
    d.About texts' := by
  cases h with
  | element he hregards => exact .element (he.mono htexts) hregards
  | markup ht hparse => exact .markup (htexts ht) hparse

theorem Diagnostic.About.pointsInto (h : d.About texts) : d.PointsInto texts := by
  cases h with
  | element he => exact he.pointsInto _
  | markup ht hparse => exact ⟨_, ht, _, rfl, Markup.pointsInto_of_error hparse⟩

end Texts

section Journals

variable (world : World) (history : List Call)

theorem Journal.sourceTexts_append (i j : Journal) :
    sourceTexts world history (i ++ j) =
      sourceTexts world history i ++ sourceTexts world (history ++ i.calls) j := by
  induction i generalizing history with
  | nil => simp [sourceTexts, calls]
  | cons event i ih =>
    have hcalls : calls (event :: i) = event.call?.toList ++ calls i := by
      cases hcall : event.call? <;> simp [calls, hcall]
    rw [List.cons_append, sourceTexts, sourceTexts, ih, hcalls, List.append_assoc,
      List.append_assoc]

/-- Entering an include reads nothing yet. -/
theorem Journal.sourceTexts_cons_of_none {event : Event} (j : Journal)
    (htext : event.sourceText? world history = none) (hcall : event.call? = none) :
    sourceTexts world history (event :: j) = sourceTexts world history j := by
  rw [sourceTexts, htext, hcall]
  simp

end Journals

/-- What can come of an include, given the texts that were read: a document, a text that is
none, or no text at all, where the source is shown and nothing else. -/
inductive Resolved (texts : List SourceText) : Except IncludeError (List Element) → Prop
  | document {es : List Element} : (∀ e ∈ es, e.StandsIn texts) → Resolved texts (.ok es)
  | markup {t cause} : t ∈ texts → Markup.parse t.label t.text = .error cause →
      Resolved texts (.error (.markup cause))
  | nothing {cause : IncludeError} : (∀ fault, cause ≠ .markup fault) → cause.names = [] →
      cause.quotes = [] → Resolved texts (.error cause)

section Resolving

variable {texts texts' : List SourceText} {document : Except IncludeError (List Element)}

theorem Resolved.mono (h : Resolved texts document) (htexts : texts ⊆ texts') :
    Resolved texts' document := by
  cases h with
  | document hes => exact .document fun e he => (hes e he).mono htexts
  | markup ht hparse => exact .markup (htexts ht) hparse
  | nothing hcause hnames hquotes => exact .nothing hcause hnames hquotes

theorem resolved_parseSource {t : SourceText} (ht : t ∈ texts) :
    Resolved texts (parseSource t.label t.text) := by
  unfold parseSource
  split
  · next es hparse => exact .document (standsIn_of_mem ht hparse)
  · next cause hparse => exact .markup ht hparse

/-- How a command ended is no text. -/
theorem sourceTexts_exitNote (world : World) (history : List Call) (line : String)
    (r : CommandResult) : Journal.sourceTexts world history (exitNote line r) = [] := by
  unfold exitNote
  split <;> rfl

/-- What is read for a source has its label. -/
theorem label_of_mem_resolve {world : World} {shell : String} {history : List Call}
    {source : Source} {t : SourceText}
    (ht : t ∈ (resolve world shell history source).2.sourceTexts world history) :
    t.label = source.label := by
  cases source with
  | file path =>
    cases hread : world.readText history path <;>
      simp [resolve, hread, Journal.sourceTexts, Event.sourceText?] at ht
    rw [ht]
    rfl
  | command line =>
    cases hrun : world.run history { shell, command := line } <;>
      simp [resolve, hrun, Journal.sourceTexts, Event.sourceText?, sourceTexts_exitNote] at ht
    rw [ht]
    rfl

/-- An include is resolved from the text that its source gives. -/
theorem resolved_resolve (world : World) (shell : String) (history : List Call)
    (source : Source) :
    Resolved ((resolve world shell history source).2.sourceTexts world history)
      (resolve world shell history source).1 := by
  cases source with
  | file path =>
    cases hread : world.readText history path with
    | ok text =>
      have ht : SourceText.mk path text ∈ Journal.sourceTexts world history [.reading path] := by
        simp [Journal.sourceTexts, Event.sourceText?, hread]
      simpa only [resolve, hread, Source.label] using resolved_parseSource ht
    | error cause =>
      simp only [resolve, hread]
      unfold World.readText at hread
      split at hread <;> cases hread
      refine .nothing (fun fault hfault => ?_) rfl rfl
      contradiction
  | command line =>
    cases hrun : world.run history { shell, command := line } with
    | some r =>
      have ht : SourceText.mk line r.output ∈ Journal.sourceTexts world history
          (.ran { shell, command := line } :: exitNote line r) := by
        simp [Journal.sourceTexts, Event.sourceText?, hrun]
      simpa only [resolve, hrun, Source.label] using resolved_parseSource ht
    | none =>
      simp only [resolve, hrun]
      refine .nothing (fun fault hfault => ?_) rfl rfl
      contradiction

end Resolving

end DeskConfig
