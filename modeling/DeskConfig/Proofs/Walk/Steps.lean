import DeskConfig.Load
import DeskConfig.Proofs.Walk.Include

/-!
The steps of a walk. Between its includes a walk takes one declaration or root menu after
the other, over all documents; these elements, in the order they are taken in, are its
steps. Each step starts out with the configuration that the step before it left, so what
every step keeps is kept by the walk.
-/

namespace DeskConfig

open Markup (Element Tag)

/-- An element that stands inside a top-level element of a document. -/
def Markup.Element.Placed (e : Element) : Prop :=
  ∃ label text document top, Markup.parse label text = .ok document ∧ top ∈ document ∧
    e ∈ top.children

/-- An element that a walk takes in, and what the walk knows when it comes to it. -/
structure Step where
  element : Element
  includes : Includes
  config : Config
  history : List Call

/-- The steps inside an include of a document. -/
abbrev IncludeSteps := Element → Config → (history : List Call) → List Step

/-- The steps after those of a part of a walk, unless that was stopped. -/
def Progress.stepsAfter (p : Progress) (history : List Call)
    (next : Config → List Call → List Step) : List Step :=
  if p.stopped then [] else next p.config (history ++ p.journal.calls)

def stepsOfElement (includes : Includes) (inside : IncludeSteps) : IncludeSteps :=
  fun e c history =>
    if e.tag = .include then inside e c history
    else [{ element := e, includes, config := c, history }]

def stepsOfElements (world : World) (includes : Includes) (inside : IncludeSteps) :
    List Element → Config → (history : List Call) → List Step
  | [], _, _ => []
  | e :: es, c, history =>
    stepsOfElement includes inside e c history ++
      (walkElement world includes .jwm e c history).stepsAfter history
        (stepsOfElements world includes inside es)

def stepsOfDocument (world : World) (includes : Includes) (inside : IncludeSteps) :
    List Element → Config → (history : List Call) → List Step
  | [], _, _ => []
  | e :: es, c, history =>
    if e.tag = .jwm then
      stepsOfElements world includes inside e.children c history ++
        (walkRoot world includes e c history).stepsAfter history
          (stepsOfDocument world includes inside es)
    else stepsOfDocument world includes inside es c history

/-- The steps of the document that an include names, if it is entered and can be read. -/
def stepsOfInclude (world : World) (limits : Limits) : (budget depth : Nat) → IncludeSteps
  | 0, _, _, _, _ => []
  | budget + 1, depth, e, c, history =>
    match e.text with
    | none => []
    | some reference =>
      match enter? limits.includeDepth depth with
      | none => []
      | some next =>
        match Source.ofReference world reference with
        | .error _ => []
        | .ok source =>
          match (resolve world limits.shell history source).1 with
          | .error _ => []
          | .ok document =>
            stepsOfDocument world (includesAt world limits budget next)
              (stepsOfInclude world limits budget next) document c
              (history ++ source.calls limits.shell)

/-- The steps of the walk over a root document. -/
def Load.steps (world : World) (o : Options) (label text : String) : List Step :=
  match Markup.parse label text with
  | .ok es =>
    stepsOfDocument world (includesAt world o.limits (o.limits.budget 0) 0)
      (stepsOfInclude world o.limits (o.limits.budget 0) 0) es {} []
  | .error _ => []

/-- A document that was taken in was parsed from some text. -/
theorem exists_parse_of_resolve {world : World} {shell : String} {history : List Call}
    {source : Source} {document : List Element}
    (h : (resolve world shell history source).1 = .ok document) :
    ∃ text, Markup.parse source.label text = .ok document := by
  have hparse : ∀ {label text : String}, parseSource label text = .ok document →
      Markup.parse label text = .ok document := by
    intro label text hsource
    unfold parseSource at hsource
    split at hsource
    · cases hsource
      assumption
    · contradiction
  cases source with
  | file path =>
    simp only [resolve] at h
    split at h
    · exact ⟨_, hparse h⟩
    · contradiction
  | command line =>
    simp only [resolve] at h
    split at h
    · exact ⟨_, hparse h⟩
    · contradiction

namespace Step

/-- What comes of a step. -/
def result (world : World) (s : Step) : Progress :=
  walkElement world s.includes .jwm s.element s.config s.history

/-- Where a step can come from. -/
structure Arises (world : World) (limits : Limits) (s : Step) : Prop where
  placed : s.element.Placed
  not_include : s.element.tag ≠ .include
  includes : ∃ budget depth, s.includes = includesAt world limits budget depth

end Step

/-- Steps one after the other, from a configuration to the one that the last step leaves. -/
inductive Follows (world : World) : Config → List Step → Config → Prop
  | nil {c} : Follows world c [] c
  | cons {s steps c} : Follows world (s.result world).config steps c →
      Follows world s.config (s :: steps) c

namespace Follows

variable {world : World} {steps steps' : List Step} {c c' c'' : Config}

theorem append (h : Follows world c steps c') (h' : Follows world c' steps' c'') :
    Follows world c (steps ++ steps') c'' := by
  induction h with
  | nil => exact h'
  | cons _ ih => exact .cons (ih h')

/-- What every step keeps holds all along. -/
theorem keeps {P : Config → Prop} (h : Follows world c steps c')
    (hstep : ∀ s ∈ steps, P s.config → P (s.result world).config) (hc : P c) :
    P c' ∧ ∀ s ∈ steps, P s.config := by
  induction h with
  | nil => exact ⟨hc, fun s hs => nomatch hs⟩
  | @cons s steps c' _ ih =>
    have hnext := hstep s List.mem_cons_self hc
    obtain ⟨hlast, hall⟩ := ih (fun s' hs' => hstep s' (List.mem_cons_of_mem _ hs')) hnext
    refine ⟨hlast, ?_⟩
    intro s' hs'
    rcases List.mem_cons.mp hs' with rfl | hs'
    · exact hc
    · exact hall s' hs'

end Follows

/-- The given steps are those of a part of a walk. -/
structure Traces (world : World) (limits : Limits) (c : Config) (steps : List Step)
    (p : Progress) : Prop where
  follows : Follows world c steps p.config
  through : p.stopped = false → ∀ s ∈ steps, (s.result world).stopped = false
  arises : ∀ s ∈ steps, s.Arises world limits
  warned : (steps.flatMap fun s => (s.result world).journal.diagnostics).Sublist
    p.journal.diagnostics

namespace Traces

variable {world : World} {limits : Limits} {c : Config} {steps : List Step} {p : Progress}

/-- A part of a walk that leaves the configuration alone has no steps. -/
theorem nothing (hp : p.config = c) : Traces world limits c [] p where
  follows := hp ▸ .nil
  through := fun _ _ hs => nomatch hs
  arises := fun _ hs => nomatch hs
  warned := List.nil_sublist _

theorem single (s : Step) (hs : s.Arises world limits) :
    Traces world limits s.config [s] (s.result world) where
  follows := .cons .nil
  through := fun hresult _ hs' => List.mem_singleton.mp hs' ▸ hresult
  arises := fun _ hs' => List.mem_singleton.mp hs' ▸ hs
  warned := by simp

theorem noting (h : Traces world limits c steps p) (events : Journal) :
    Traces world limits c steps (p.noting events) where
  follows := h.follows
  through := h.through
  arises := h.arises
  warned := by
    rw [Progress.noting, Journal.diagnostics_append]
    exact h.warned.trans (List.sublist_append_right _ _)

theorem andThen {next : Config → List Call → Progress}
    {steps' : Config → List Call → List Step} (h : Traces world limits c steps p)
    (history : List Call)
    (h' : ∀ c history, Traces world limits c (steps' c history) (next c history)) :
    Traces world limits c (steps ++ p.stepsAfter history steps') (p.andThen history next) := by
  cases hp : p.stopped with
  | true =>
    rw [Progress.andThen_of_stopped hp, Progress.stepsAfter, if_pos hp, List.append_nil]
    exact h
  | false =>
    have hnext := h' p.config (history ++ p.journal.calls)
    rw [Progress.andThen_of_not_stopped hp, Progress.stepsAfter, hp]
    refine ⟨h.follows.append hnext.follows, ?_, ?_, ?_⟩
    · intro hs s hmem
      rcases List.mem_append.mp hmem with hmem | hmem
      · exact h.through hp s hmem
      · exact hnext.through hs s hmem
    · intro s hmem
      rcases List.mem_append.mp hmem with hmem | hmem
      · exact h.arises s hmem
      · exact hnext.arises s hmem
    · rw [List.flatMap_append, Progress.noting, Journal.diagnostics_append]
      exact h.warned.append hnext.warned

end Traces

section Walks

variable {world : World} {limits : Limits} {budget depth : Nat}

/-- The steps inside the includes of documents at `depth` are told right. -/
def TracesIncludes (world : World) (limits : Limits) (budget depth : Nat) : Prop :=
  ∀ e c history, Traces world limits c (stepsOfInclude world limits budget depth e c history)
    ((includesAt world limits budget depth).inDocument e c history)

theorem traces_element (hinc : TracesIncludes world limits budget depth) {e : Element}
    (he : e.Placed) (c : Config) (history : List Call) :
    Traces world limits c
      (stepsOfElement (includesAt world limits budget depth)
        (stepsOfInclude world limits budget depth) e c history)
      (walkElement world (includesAt world limits budget depth) .jwm e c history) := by
  by_cases hi : e.tag = .include
  · rw [stepsOfElement, if_pos hi, walkElement_include hi]
    exact hinc e c history
  · rw [stepsOfElement, if_neg hi]
    exact .single ⟨e, includesAt world limits budget depth, c, history⟩
      ⟨he, hi, budget, depth, rfl⟩

theorem traces_elements (hinc : TracesIncludes world limits budget depth)
    (es : List Element) (hes : ∀ e ∈ es, e.Placed) (c : Config) (history : List Call) :
    Traces world limits c
      (stepsOfElements world (includesAt world limits budget depth)
        (stepsOfInclude world limits budget depth) es c history)
      (walkElements world (includesAt world limits budget depth) .jwm es c history) := by
  induction es generalizing c history with
  | nil => exact .nothing rfl
  | cons e es ih =>
    rw [stepsOfElements, walkElements]
    exact (traces_element hinc (hes e List.mem_cons_self) c history).andThen history
      (ih fun e' he' => hes e' (List.mem_cons_of_mem _ he'))

theorem traces_document (hinc : TracesIncludes world limits budget depth)
    (es : List Element) (hes : ∀ top ∈ es, ∀ e ∈ top.children, e.Placed) (c : Config)
    (history : List Call) :
    Traces world limits c
      (stepsOfDocument world (includesAt world limits budget depth)
        (stepsOfInclude world limits budget depth) es c history)
      (walkDocument world (includesAt world limits budget depth) es c history) := by
  induction es generalizing c history with
  | nil => exact .nothing rfl
  | cons top es ih =>
    have hrest := ih fun e he => hes e (List.mem_cons_of_mem _ he)
    rw [stepsOfDocument, walkDocument]
    by_cases htop : top.tag = .jwm
    · have hchildren := traces_elements hinc top.children (hes top List.mem_cons_self) c history
      simp only [if_pos htop]
      refine Traces.andThen ?_ history hrest
      rw [walkRoot, htop]
      exact hchildren
    · simp only [if_neg htop]
      have hskip : Traces world limits c [] (.ofWarning c top (.invalidStartTag top.name)) :=
        .nothing rfl
      simpa [Progress.stepsAfter] using hskip.andThen history hrest

/-- The induction is on the includes that can still be entered one inside the other. -/
theorem traces_include : TracesIncludes world limits budget depth := by
  induction budget generalizing depth with
  | zero =>
    intro e c history
    refine .nothing ?_
    change (documentInclude world limits 0 depth e c history).config = c
    cases ht : e.text with
    | none => rw [documentInclude_of_no_text ht, Progress.config_ofWarning]
    | some reference => rw [documentInclude_of_no_budget ht]
  | succ budget ih =>
    intro e c history
    change Traces world limits c _ (documentInclude world limits (budget + 1) depth e c history)
    cases ht : e.text with
    | none =>
      rw [documentInclude_of_no_text ht]
      simp only [stepsOfInclude, ht]
      exact .nothing rfl
    | some reference =>
      cases hn : enter? limits.includeDepth depth with
      | none =>
        rw [documentInclude_of_limit ht hn]
        simp only [stepsOfInclude, ht, hn]
        exact .nothing rfl
      | some next =>
        cases hsource : Source.ofReference world reference with
        | error cause =>
          rw [documentInclude_of_no_source ht hn hsource]
          simp only [stepsOfInclude, ht, hn, hsource]
          exact .nothing rfl
        | ok source =>
          rw [documentInclude_of_source ht hn hsource]
          simp only [stepsOfInclude, ht, hn, hsource]
          refine Traces.noting ?_ _
          cases hdocument : (resolve world limits.shell history source).1 with
          | error cause => cases cause <;> exact .nothing rfl
          | ok document =>
            obtain ⟨text, hparse⟩ := exists_parse_of_resolve hdocument
            exact traces_document ih document
              (fun top htop e he => ⟨_, text, document, top, hparse, htop, he⟩) c _

theorem traces_walkText (world : World) (o : Options) (label text : String) :
    Traces world o.limits {} (Load.steps world o label text)
      (Load.walkText world o label text) := by
  unfold Load.steps Load.walkText
  cases hparse : Markup.parse label text with
  | error cause => exact .nothing rfl
  | ok es =>
    exact traces_document traces_include es
      (fun top htop e he => ⟨label, text, es, top, hparse, htop, he⟩) {} []

end Walks

end DeskConfig
