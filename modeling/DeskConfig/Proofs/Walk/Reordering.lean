import DeskConfig.Proofs.Include.TextFiles
import DeskConfig.Proofs.Load.Result
import DeskConfig.Proofs.Menus.Binding
import DeskConfig.Proofs.Settings.Parts

/-!
The order of sections. An element of a document that is no include reads and sets the part
of the configuration that belongs to its tag, and only a root menu runs commands. Two
elements of different tags that stand side by side may therefore change places, and with
them any run of elements, as long as those of each tag keep their order: what comes of it
is the same, and what happened on the way is the same in another order.
-/

namespace DeskConfig

open Markup (Element Tag)

/-- The same elements in another order, those of each tag in their old order. -/
def Markup.Reordered (es es' : List Element) : Prop :=
  ∀ tag, es'.filter (·.tag = tag) = es.filter (·.tag = tag)

namespace Progress

/-- How far a walk has come in the part of a tag. -/
def only (tag : Tag) (p : Progress) : Progress := { p with config := p.config.only tag }

/-- The two walks come to the same; what happened on the way differs in its order, but the
commands were run in the same order. -/
structure Shuffled (p q : Progress) : Prop where
  config : q.config = p.config
  journal : q.journal.Perm p.journal
  calls : q.journal.calls = p.journal.calls
  stopped : q.stopped = p.stopped

namespace Shuffled

variable {p q r : Progress}

theorem refl (p : Progress) : p.Shuffled p := ⟨rfl, .refl _, rfl, rfl⟩

theorem trans (h : p.Shuffled q) (h' : q.Shuffled r) : p.Shuffled r where
  config := h'.config.trans h.config
  journal := h'.journal.trans h.journal
  calls := h'.calls.trans h.calls
  stopped := h'.stopped.trans h.stopped

theorem noting (h : p.Shuffled q) (events : Journal) :
    (p.noting events).Shuffled (q.noting events) where
  config := h.config
  journal := h.journal.append_left events
  calls := by simp [Progress.noting, h.calls]
  stopped := h.stopped

/-- What follows does not notice. -/
theorem andThen (h : p.Shuffled q) (history : List Call)
    (next : Config → List Call → Progress) :
    (p.andThen history next).Shuffled (q.andThen history next) := by
  cases hp : p.stopped with
  | true =>
    rw [andThen_of_stopped hp, andThen_of_stopped (h.stopped.trans hp)]
    exact h
  | false =>
    rw [andThen_of_not_stopped hp, andThen_of_not_stopped (h.stopped.trans hp), h.config, h.calls]
    refine ⟨rfl, h.journal.append_right _, ?_, rfl⟩
    simp [Progress.noting, h.calls]

theorem andThen_left {f g : Config → List Call → Progress} {history : List Call}
    (h : p.stopped = false → (f p.config (history ++ p.journal.calls)).Shuffled
      (g p.config (history ++ p.journal.calls))) :
    (p.andThen history f).Shuffled (p.andThen history g) := by
  cases hp : p.stopped with
  | true =>
    rw [andThen_of_stopped hp, andThen_of_stopped hp]
    exact .refl p
  | false =>
    rw [andThen_of_not_stopped hp, andThen_of_not_stopped hp]
    exact (h hp).noting p.journal

end Shuffled

end Progress

section Element

variable {world : World} {includes : Includes} {parent : Tag} {e e' : Element}

theorem journal_rootMenu (onInclude : MenuInclude) (e : Element) (c c' : Config)
    (history : List Call) :
    (rootMenu onInclude e c history).journal = (rootMenu onInclude e c' history).journal := by
  unfold rootMenu
  cases hs : (itemsOf onInclude 0 (Menu.heightOf e 0).value history e.children).stopped <;>
    simp [MenuYield.noting, hs]

/-- An element finds and leaves the part of its tag as if there were nothing else. -/
theorem only_walkElement (hi : e.tag ≠ .include) (c : Config) (history : List Call) :
    (walkElement world includes parent e c history).only e.tag =
      walkElement world includes parent e (c.only e.tag) history := by
  by_cases hm : e.tag = .rootMenu
  · simp only [walkElement_rootMenu hm, hm]
    have hstopped : (rootMenu includes.inMenu e c history).stopped =
        (rootMenu includes.inMenu e (c.only .rootMenu) history).stopped := by
      rw [stopped_rootMenu, stopped_rootMenu]
    have hconfig : (rootMenu includes.inMenu e c history).config.only .rootMenu =
        (rootMenu includes.inMenu e (c.only .rootMenu) history).config := by
      rw [config_rootMenu, config_rootMenu, hstopped]
      rfl
    rw [Progress.only, hconfig, hstopped, journal_rootMenu _ e c (c.only .rootMenu)]
  · have hvalue := Config.only_declare world parent e c e.tag
    rw [if_pos rfl] at hvalue
    simp only [walkElement_declaration hm hi, Progress.ofReading, Progress.only, hvalue,
      Config.warnings_declare world parent e c]

/-- An element leaves the parts of the other tags. -/
theorem only_config_walkElement (hi : e.tag ≠ .include) {tag : Tag} (ht : e.tag ≠ tag)
    (c : Config) (history : List Call) :
    (walkElement world includes parent e c history).config.only tag = c.only tag := by
  by_cases hm : e.tag = .rootMenu
  · rw [walkElement_rootMenu hm, config_rootMenu]
    rw [hm] at ht
    simp only [Config.only, if_neg (Ne.symm ht)]
  · have hvalue := Config.only_declare world parent e c tag
    rw [if_neg ht] at hvalue
    rw [walkElement_declaration hm hi]
    exact hvalue

theorem calls_walkElement (hi : e.tag ≠ .include) (hm : e.tag ≠ .rootMenu) (c : Config)
    (history : List Call) :
    (walkElement world includes parent e c history).journal.calls = [] := by
  rw [walkElement_declaration hm hi]
  exact Journal.calls_ofWarnings _

/-- Behind an element of another tag, an element does to its part what it would do in front
of it. -/
theorem walkElement_behind (world : World) (includes : Includes) (parent : Tag)
    (hi : e.tag ≠ .include) (hi' : e'.tag ≠ .include)
    (hne : e.tag ≠ e'.tag) (c : Config) (history : List Call) :
    let p := walkElement world includes parent e c history
    (walkElement world includes parent e' p.config (history ++ p.journal.calls)).only e'.tag =
      (walkElement world includes parent e' c history).only e'.tag := by
  intro p
  have hpart : p.config.only e'.tag = c.only e'.tag := only_config_walkElement hi hne c history
  rw [only_walkElement hi', only_walkElement hi', hpart]
  by_cases hm : e'.tag = .rootMenu
  · have hcalls : p.journal.calls = [] := calls_walkElement hi (hm ▸ hne) c history
    rw [hcalls, List.append_nil]
  · rw [walkElement_declaration hm hi', walkElement_declaration hm hi']

theorem walkElements_pair (c : Config) (history : List Call) :
    walkElements world includes parent [e, e'] c history =
      (walkElement world includes parent e c history).andThen history
        (walkElement world includes parent e') := by
  have hlast : walkElements world includes parent [e'] = walkElement world includes parent e' := by
    funext c history
    rw [walkElements]
    cases hs : (walkElement world includes parent e' c history).stopped with
    | true => rw [Progress.andThen_of_stopped hs]
    | false => simp [Progress.andThen_of_not_stopped hs, Progress.noting, walkElements, ← hs]
  rw [walkElements, hlast]

/-- What two elements of different tags leave does not tell which of them came first. -/
theorem config_walkElement_comm (world : World) (includes : Includes) (parent : Tag)
    (hi : e.tag ≠ .include) (hi' : e'.tag ≠ .include) (hne : e.tag ≠ e'.tag) (c : Config)
    (history : List Call) :
    let p := walkElement world includes parent e c history
    let q := walkElement world includes parent e' c history
    (walkElement world includes parent e q.config (history ++ q.journal.calls)).config =
      (walkElement world includes parent e' p.config (history ++ p.journal.calls)).config := by
  intro p q
  have hbehind := walkElement_behind world includes parent hi hi' hne c history
  have hbehind' := walkElement_behind world includes parent hi' hi hne.symm c history
  refine Config.eq_of_only fun tag => ?_
  by_cases ht : e.tag = tag
  · subst ht
    rw [only_config_walkElement hi' hne.symm]
    exact congrArg (·.config) hbehind'
  by_cases ht' : e'.tag = tag
  · subst ht'
    rw [only_config_walkElement hi hne]
    exact (congrArg (·.config) hbehind).symm
  · rw [only_config_walkElement hi ht, only_config_walkElement hi' ht',
      only_config_walkElement hi' ht', only_config_walkElement hi ht]

/-- Elements of different tags may change places. -/
theorem walkElements_swap (hi : e.tag ≠ .include) (hi' : e'.tag ≠ .include)
    (hne : e.tag ≠ e'.tag) {c : Config} {history : List Call}
    (hs : (walkElements world includes parent [e, e'] c history).stopped = false) :
    (walkElements world includes parent [e, e'] c history).Shuffled
      (walkElements world includes parent [e', e] c history) := by
  have hbehind := walkElement_behind world includes parent hi hi' hne c history
  have hbehind' := walkElement_behind world includes parent hi' hi hne.symm c history
  have hconfig := config_walkElement_comm world includes parent hi hi' hne c history
  -- Only root menus run commands, and one of the two at most is one.
  have hcalls : (walkElement world includes parent e c history).journal.calls = [] ∨
      (walkElement world includes parent e' c history).journal.calls = [] := by
    by_cases hm : e.tag = .rootMenu
    · exact .inr (calls_walkElement hi' (hm ▸ hne.symm) c history)
    · exact .inl (calls_walkElement hi hm c history)
  rw [walkElements_pair] at hs ⊢
  rw [walkElements_pair]
  obtain ⟨hp, hr⟩ := Progress.stopped_andThen_eq_false.mp hs
  generalize walkElement world includes parent e c history = p at *
  generalize walkElement world includes parent e' c history = q at *
  have hq : q.stopped = false := (congrArg (·.stopped) hbehind).symm.trans hr
  rw [Progress.andThen_of_not_stopped hp, Progress.andThen_of_not_stopped hq]
  have hjournal := congrArg (·.journal) hbehind
  have hjournal' := congrArg (·.journal) hbehind'
  have hstopped' := congrArg (·.stopped) hbehind'
  simp only [Progress.only] at hjournal hjournal' hstopped'
  refine ⟨hconfig, ?_, ?_, ?_⟩
  · simp only [Progress.noting, hjournal, hjournal']
    exact List.perm_append_comm
  · simp only [Progress.noting, hjournal, hjournal', Journal.calls_append]
    rcases hcalls with hnone | hnone <;> simp [hnone]
  · simp only [Progress.noting]
    rw [hstopped', hp, hr]

end Element

section Runs

variable {world : World} {includes : Includes} {parent : Tag} {e : Element}
  {as bs run run' : List Element} {c : Config} {history : List Call}

/-- An element may go in front of elements of other tags: it changes places with the one
before it, over and over. -/
theorem walkElements_front (hi : e.tag ≠ .include) (has : ∀ a ∈ as, a.tag ≠ .include)
    (hne : ∀ a ∈ as, a.tag ≠ e.tag)
    (hs : (walkElements world includes parent (as ++ e :: bs) c history).stopped = false) :
    (walkElements world includes parent (as ++ e :: bs) c history).Shuffled
      (walkElements world includes parent (e :: (as ++ bs)) c history) := by
  induction as generalizing c history with
  | nil => exact .refl _
  | cons a as ih =>
    have hlater : (walkElements world includes parent (a :: (as ++ e :: bs)) c history).Shuffled
        (walkElements world includes parent (a :: e :: (as ++ bs)) c history) := by
      rw [List.cons_append, walkElements] at hs
      rw [walkElements, walkElements]
      refine .andThen_left fun _ => ?_
      exact ih (fun a' h' => has a' (List.mem_cons_of_mem _ h'))
        (fun a' h' => hne a' (List.mem_cons_of_mem _ h'))
        (Progress.stopped_andThen_eq_false.mp hs).2
    refine hlater.trans ?_
    have hpair : (walkElements world includes parent ([a, e] ++ (as ++ bs)) c history).stopped =
        false := hlater.stopped.trans hs
    rw [walkElements_append] at hpair
    have hswap := walkElements_swap (has a List.mem_cons_self) hi (hne a List.mem_cons_self)
      (Progress.stopped_andThen_eq_false.mp hpair).1
    have hrest := hswap.andThen history (walkElements world includes parent (as ++ bs))
    rw [← walkElements_append, ← walkElements_append] at hrest
    exact hrest

/-- What is left of a reordered run when its first element is taken away. -/
theorem Markup.Reordered.uncons (h : Reordered run (e :: run')) :
    ∃ as bs, run = as ++ e :: bs ∧ (∀ a ∈ as, a.tag ≠ e.tag) ∧ Reordered (as ++ bs) run' := by
  have hown := h e.tag
  simp only [decide_true, List.filter_cons_of_pos] at hown
  obtain ⟨as, bs, rfl, has, -, -⟩ := List.filter_eq_cons_iff.mp hown.symm
  have hne : ∀ a ∈ as, a.tag ≠ e.tag := fun a ha => by simpa using has a ha
  refine ⟨as, bs, rfl, hne, fun tag => ?_⟩
  have htag := h tag
  rw [List.filter_append] at htag ⊢
  by_cases ht : e.tag = tag
  · have hnone : as.filter (·.tag = tag) = [] := by
      simpa [← ht, List.filter_eq_nil_iff] using hne
    simpa [ht, hnone] using htag
  · simpa [ht] using htag

/-- A run without includes may be reordered. -/
theorem walkElements_reordered (hi : ∀ e ∈ run, e.tag ≠ .include) (h : Markup.Reordered run run')
    (hs : (walkElements world includes parent run c history).stopped = false) :
    (walkElements world includes parent run c history).Shuffled
      (walkElements world includes parent run' c history) := by
  -- The induction is on the new order: its first element goes to the front of the old one.
  induction run' generalizing run c history with
  | nil =>
    have hnone : run = [] := by
      refine List.eq_nil_iff_forall_not_mem.mpr fun e he => ?_
      have hmem : e ∈ run.filter (·.tag = e.tag) := List.mem_filter.mpr ⟨he, by simp⟩
      rw [← h e.tag] at hmem
      exact List.not_mem_nil hmem
    rw [hnone]
    exact .refl _
  | cons e run' ih =>
    obtain ⟨as, bs, rfl, hne, hrest⟩ := h.uncons
    have hfront := walkElements_front (hi e (by simp)) (fun a ha => hi a (by simp [ha])) hne hs
    refine hfront.trans ?_
    have hs' := hfront.stopped.trans hs
    rw [walkElements] at hs'
    rw [walkElements, walkElements]
    refine .andThen_left fun _ => ih (fun a ha => hi a ?_) hrest
      (Progress.stopped_andThen_eq_false.mp hs').2
    rcases List.mem_append.mp ha with ha | ha <;> simp [ha]

theorem Markup.reordered_swap {e e' : Element} (hne : e.tag ≠ e'.tag) :
    Reordered [e, e'] [e', e] := by
  intro tag
  by_cases he : e.tag = tag
  · have he' : e'.tag ≠ tag := he ▸ hne.symm
    simp [he, he']
  · by_cases he' : e'.tag = tag <;> simp [he, he']

end Runs

section Documents

variable {world : World}

/-- The same for a run inside a top-level element of a document. -/
theorem walkDocument_reordered {includes : Includes} {top : Element} (htop : top.tag = .jwm)
    {run run' : List Element} (hi : ∀ e ∈ run, e.tag ≠ .include) (h : Markup.Reordered run run')
    (before after : List Element) (xs ys : List Element) {c : Config} {history : List Call}
    (hs : (walkDocument world includes
      (before ++ { top with children := xs ++ run ++ ys } :: after) c history).stopped = false) :
    (walkDocument world includes
        (before ++ { top with children := xs ++ run ++ ys } :: after) c history).Shuffled
      (walkDocument world includes
        (before ++ { top with children := xs ++ run' ++ ys } :: after) c history) := by
  rw [walkDocument_append] at hs ⊢
  rw [walkDocument_append]
  refine .andThen_left fun hbefore => ?_
  have htopElement := (Progress.stopped_andThen_eq_false.mp hs).2
  simp only [walkDocument, htop, if_true] at htopElement ⊢
  refine .andThen ?_ _ _
  have hchildren := (Progress.stopped_andThen_eq_false.mp htopElement).1
  simp only [walkRoot, walkElements_append] at hchildren ⊢
  have hfirst := (Progress.stopped_andThen_eq_false.mp hchildren).1
  refine .andThen (.andThen_left fun hxs => ?_) _ _
  exact walkElements_reordered hi h (Progress.stopped_andThen_eq_false.mp hfirst).2

end Documents

/-- Two loads that come to the same and ran the same commands; their warnings differ in
their order. -/
structure Load.Shuffled (l l' : Load) : Prop where
  outcome : l'.outcome = l.outcome
  calls : l'.calls = l.calls
  diagnostics : l'.diagnostics.Perm l.diagnostics

/-- The checks at the end of a load look at nothing but the configuration. -/
theorem Progress.Shuffled.load {p q : Progress} (h : p.Shuffled q) (o : Options)
    (source : String) : (Load.ofProgress o source p).Shuffled (.ofProgress o source q) := by
  have hdiagnostics : q.journal.diagnostics.Perm p.journal.diagnostics :=
    h.journal.filterMap _
  obtain ⟨houtcome, closing, hp, hq⟩ := Load.ofProgress_congr source o h.config h.stopped
  refine ⟨houtcome, by simp [h.calls], ?_⟩
  rw [hp, hq]
  exact hdiagnostics.append_right closing

/-- A run of elements without includes, anywhere among the children of a top-level element,
may be put in any order that keeps the elements of each tag in theirs: wherever and
whenever the document is walked, what comes of a walk that goes through, of the load that it
may be the whole of, and the commands that are run stay the same, and the warnings are the
same in another order. -/
theorem sections_may_be_reordered (top : Element) (htop : top.tag = .jwm)
    {run run' : List Element} (hrun : ∀ e ∈ run, e.tag ≠ .include)
    (horder : Markup.Reordered run run') (before after : List Element) (xs ys : List Element) :
    let document (run : List Element) :=
      before ++ { top with children := xs ++ run ++ ys } :: after
    (∀ (world : World) (limits : Limits) (budget depth : Nat) (c : Config) (history : List Call),
      let walk (run : List Element) :=
        walkDocument world (includesAt world limits budget depth) (document run) c history
      (walk run).stopped = false →
        (walk run).Shuffled (walk run') ∧
        ∀ o source, (Load.ofProgress o source (walk run)).Shuffled
          (.ofProgress o source (walk run'))) ∧
    ∀ (world : World) (o : Options) (label text text' : String),
      Markup.parse label text = .ok (document run) →
      Markup.parse label text' = .ok (document run') →
      ∀ loaded, (loadText world o label text).outcome = .ok loaded →
        (loadText world o label text').outcome = .ok loaded ∧
        (loadText world o label text').calls = (loadText world o label text).calls ∧
        (loadText world o label text').diagnostics.Perm
          (loadText world o label text).diagnostics := by
  intro document
  refine ⟨?_, ?_⟩
  · intro world limits budget depth c history walk hs
    have hwalk : (walk run).Shuffled (walk run') :=
      walkDocument_reordered htop hrun horder before after xs ys hs
    exact ⟨hwalk, hwalk.load⟩
  · intro world o label text text' hparse hparse' loaded hok
    have hs := ((LoadOf.held label text).walked hok).1
    have hwalk : (Load.walkText world o label text).Shuffled
        (Load.walkText world o label text') := by
      rw [Load.walkText, hparse] at hs ⊢
      rw [Load.walkText, hparse']
      exact walkDocument_reordered htop hrun horder before after xs ys hs
    have hload := hwalk.load o label
    exact ⟨hload.outcome.trans hok, hload.calls, hload.diagnostics⟩

/-- A root menu that takes its items from a command. -/
def listingMenu : Element :=
  madeIn "jwmrc" .rootMenu none [madeIn "jwmrc" .include (some "exec:ls")]

/-- The command is run and the key is reported, whichever of them stands first. -/
theorem sections_may_be_reordered_listing :
    let walk (run : List Element) :=
      walkDocument (World.holding "" "") (includesAt (World.holding "" "") ⟨"/bin/sh", 8⟩ 8 0)
        [madeIn "jwmrc" .jwm none run] {} []
    let key := madeIn "jwmrc" .key none
    (walk [key, listingMenu]).config = (walk [listingMenu, key]).config ∧
      (walk [key, listingMenu]).journal.calls = [⟨"/bin/sh", "ls"⟩] ∧
      (walk [key, listingMenu]).journal.diagnostics.Perm
        [.located ⟨"jwmrc", 1⟩ (.failedInclude (.notStarted "ls")),
          .located ⟨"jwmrc", 1⟩ .missingAction] := by
  intro walk key
  have hfirst : (walk [listingMenu, key]).stopped = false ∧
      (walk [listingMenu, key]).journal.calls = [⟨"/bin/sh", "ls"⟩] ∧
      (walk [listingMenu, key]).journal.diagnostics =
        [.located ⟨"jwmrc", 1⟩ (.failedInclude (.notStarted "ls")),
          .located ⟨"jwmrc", 1⟩ .missingAction] := by
    decide +kernel
  obtain ⟨hs, hcalls, hdiagnostics⟩ := hfirst
  have hrun : ∀ e ∈ [listingMenu, key], e.tag ≠ .include := by decide
  have horder : Markup.Reordered [listingMenu, key] [key, listingMenu] :=
    Markup.reordered_swap (by decide)
  have hwalk := ((sections_may_be_reordered (madeIn "jwmrc" .jwm none) rfl hrun horder
    [] [] [] []).1 (World.holding "" "") ⟨"/bin/sh", 8⟩ 8 0 {} [] hs).1
  exact ⟨hwalk.config, hwalk.calls.trans hcalls, hdiagnostics ▸ hwalk.journal.filterMap _⟩

end DeskConfig
