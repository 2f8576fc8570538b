import DeskConfig.Load
import DeskConfig.Proofs.Menus.Binding
import DeskConfig.Proofs.Settings.Declarations
import DeskConfig.Proofs.Settings.Keys
import DeskConfig.Proofs.Settings.Trays
import DeskConfig.Proofs.Walk.Sources

/-!
What a walk warns of. A walk knows its elements from the texts that were read, so it warns of
nothing else, and what a configuration remembers of key bindings and tray buttons is what such
elements hold. The one kind of problem that no walk meets is a wrong reference to root menus.
-/

namespace DeskConfig

open Markup (Element)

/-- The journal tells that an include with the given label was entered. -/
def Journal.Enters (j : Journal) (label : String) : Prop :=
  ∃ depth, .including label depth ∈ j ∨ .includingMenu label depth ∈ j

/-- What can happen in a walk. Looking for a root document and being done with it cannot. -/
def Event.isOfWalk : Event → Bool
  | .warned _ | .including _ _ | .includingMenu _ _ | .reading _ | .ran _ | .exited _ _ => true
  | .loading _ | .unreadableRoot _ | .fellBack _ _ | .loaded _ _ => false

/-- All warnings are about the given texts or about those that were read for includes, and
nothing is told of but what can happen in a walk. -/
structure Journal.Sound (world : World) (texts : List SourceText) (history : List Call)
    (j : Journal) : Prop where
  included : ∀ t ∈ j.sourceTexts world history, j.Enters t.label
  about : ∀ d ∈ j.diagnostics, d.About (texts ++ j.sourceTexts world history)
  early : ∀ d ∈ j.diagnostics, d.problem.isMenuReference = false
  walked : ∀ event ∈ j, event.isOfWalk = true

/-- Key bindings and tray buttons come from elements that stand in the texts. -/
structure Config.Recalls (texts : List SourceText) (c : Config) : Prop where
  keys : ∀ b ∈ c.keys, ∃ e : Element, e.StandsIn texts ∧ (KeyBinding.read e).value = some b
  buttons : ∀ b ∈ c.trays.flatMap Tray.buttons, ∃ e : Element, e.StandsIn texts ∧
    b.action = e.text ∧ b.origin = e.origin

/-- A part of a walk that starts out with the given texts. -/
structure Progress.Sound (world : World) (texts : List SourceText) (history : List Call)
    (p : Progress) : Prop where
  journal : p.journal.Sound world texts history
  config : p.config.Recalls (texts ++ p.journal.sourceTexts world history)

section Journals

variable {world : World} {texts : List SourceText} {history : List Call} {i j : Journal}
  {e : Element}

namespace Journal

theorem Enters.append {label : String} (h : i.Enters label ∨ j.Enters label) :
    Enters (i ++ j) label := by
  obtain ⟨depth, h⟩ | ⟨depth, h⟩ := h
  · exact ⟨depth, h.imp (List.mem_append_left j) (List.mem_append_left j)⟩
  · exact ⟨depth, h.imp (List.mem_append_right i) (List.mem_append_right i)⟩

theorem sound_nil : Sound world texts history [] :=
  ⟨fun _ ht => (nomatch ht), fun _ hd => (nomatch hd), fun _ hd => (nomatch hd),
    fun _ hevent => (nomatch hevent)⟩

theorem Sound.append (hi : i.Sound world texts history)
    (hj : j.Sound world (texts ++ i.sourceTexts world history) (history ++ i.calls)) :
    Sound world texts history (i ++ j) := by
  constructor
  · intro t ht
    rw [sourceTexts_append] at ht
    exact .append ((List.mem_append.mp ht).imp (hi.included t) (hj.included t))
  · intro d hd
    rw [diagnostics_append] at hd
    rw [sourceTexts_append, ← List.append_assoc]
    rcases List.mem_append.mp hd with hd | hd
    · exact (hi.about d hd).mono (List.subset_append_left _ _)
    · exact hj.about d hd
  · intro d hd
    rw [diagnostics_append] at hd
    exact (List.mem_append.mp hd).elim (hi.early d) (hj.early d)
  · intro event hevent
    exact (List.mem_append.mp hevent).elim (hi.walked event) (hj.walked event)

/-- What warnings are made of is no text. -/
theorem sourceTexts_ofWarnings (ds : List Diagnostic) :
    (ofWarnings ds).sourceTexts world history = [] := by
  induction ds generalizing history with
  | nil => rfl
  | cons d ds ih => exact (sourceTexts_cons_of_none world history _ rfl rfl).trans ih

theorem sound_ofDiagnostics {ds : List Diagnostic}
    (h : ∀ d ∈ ds, d.About texts ∧ d.problem.isMenuReference = false) :
    (ofWarnings ds).Sound world texts history where
  included := by
    rw [sourceTexts_ofWarnings]
    exact fun _ ht => nomatch ht
  about := by
    rw [diagnostics_ofWarnings]
    exact fun d hd => (h d hd).1.mono (List.subset_append_left _ _)
  early := by
    rw [diagnostics_ofWarnings]
    exact fun d hd => (h d hd).2
  walked := by
    intro event hevent
    obtain ⟨d, -, rfl⟩ := List.mem_map.mp hevent
    rfl

theorem sound_ofWarning {problem : Problem} (he : e.StandsIn texts)
    (hearly : problem.isMenuReference = false) (hregards : problem.Regards e) :
    Sound world texts history [.warned (.located e.origin problem)] :=
  sound_ofDiagnostics (List.forall_mem_singleton.mpr ⟨.element he hregards, hearly⟩)

theorem sound_ofMarkup {t : SourceText} {cause : Markup.MarkupError} (ht : t ∈ texts)
    (hparse : Markup.parse t.label t.text = .error cause) :
    Sound world texts history [.warned (.ofMarkup cause)] :=
  sound_ofDiagnostics (List.forall_mem_singleton.mpr ⟨.markup ht hparse, rfl⟩)

/-- Whatever reading elements of the texts warns of. -/
theorem sound_ofWarnings {α : Type} {r : Reading α} {es : List Element} (hr : r.Concerns es)
    (hes : ∀ e ∈ es, e.StandsIn texts) : (ofWarnings r.warnings).Sound world texts history := by
  refine sound_ofDiagnostics fun d hd => ?_
  obtain ⟨e, he, problem, hearly, hregards, rfl⟩ := hr d hd
  exact ⟨.element (hes e he) (hregards fun e he => (hes e he).oneLine_name), hearly⟩

/-- The warnings of a reading may go before. -/
theorem Sound.after_ofWarnings {α : Type} {r : Reading α} {es : List Element}
    (hj : j.Sound world texts history) (hr : r.Concerns es) (hes : ∀ e ∈ es, e.StandsIn texts) :
    (ofWarnings r.warnings ++ j).Sound world texts history := by
  refine (sound_ofWarnings hr hes).append ?_
  rw [sourceTexts_ofWarnings, calls_ofWarnings, List.append_nil, List.append_nil]
  exact hj

end Journal

theorem MenuYield.sound_andThen {y : MenuYield} {next : List Call → MenuYield}
    (hy : y.journal.Sound world texts history)
    (hnext : ∀ history', (next history').journal.Sound world
      (texts ++ y.journal.sourceTexts world history) history') :
    (y.andThen history next).journal.Sound world texts history := by
  cases hs : y.stopped with
  | true =>
    rw [andThen_of_stopped hs]
    exact hy
  | false =>
    rw [andThen_of_not_stopped hs]
    exact hy.append (hnext _)

theorem Config.Recalls.mono {texts' : List SourceText} {c : Config} (h : c.Recalls texts)
    (htexts : texts ⊆ texts') : c.Recalls texts' := by
  constructor
  · intro b hb
    obtain ⟨e, he, hread⟩ := h.keys b hb
    exact ⟨e, he.mono htexts, hread⟩
  · intro b hb
    obtain ⟨e, he, hsame⟩ := h.buttons b hb
    exact ⟨e, he.mono htexts, hsame⟩

/-- A step that reads nothing and keeps what is remembered. -/
theorem Progress.Sound.of_recalls {p : Progress} (hj : p.journal.Sound world texts history)
    (hc : p.config.Recalls texts) : p.Sound world texts history :=
  ⟨hj, hc.mono (List.subset_append_left _ _)⟩

theorem Progress.Sound.andThen {p : Progress} {next : Config → List Call → Progress}
    (hp : p.Sound world texts history)
    (hnext : ∀ c history', c.Recalls (texts ++ p.journal.sourceTexts world history) →
      (next c history').Sound world (texts ++ p.journal.sourceTexts world history) history') :
    (p.andThen history next).Sound world texts history := by
  cases hs : p.stopped with
  | true =>
    rw [andThen_of_stopped hs]
    exact hp
  | false =>
    have hrest := hnext p.config (history ++ p.journal.calls) hp.config
    rw [andThen_of_not_stopped hs]
    refine ⟨hp.journal.append hrest.journal, ?_⟩
    have hconfig := hrest.config
    rw [List.append_assoc, ← Journal.sourceTexts_append] at hconfig
    exact hconfig

theorem Progress.Sound.noting {p : Progress} (hi : i.Sound world texts history)
    (hp : p.Sound world (texts ++ i.sourceTexts world history) (history ++ i.calls)) :
    (p.noting i).Sound world texts history := by
  refine ⟨hi.append hp.journal, ?_⟩
  have hconfig := hp.config
  rw [List.append_assoc, ← Journal.sourceTexts_append] at hconfig
  exact hconfig

end Journals

section Declarations

variable {texts : List SourceText} {e : Element} {c : Config}

theorem exists_of_mem_buttons {before : List Tray} {b : TrayButton} (he : e.StandsIn texts)
    (htag : e.tag = .tray) (hb : b ∈ (Tray.read before e).value.buttons) :
    ∃ e' : Element, e'.StandsIn texts ∧ b.action = e'.text ∧ b.origin = e'.origin := by
  obtain ⟨component, hcomponent, hbutton⟩ := List.mem_filterMap.mp hb
  obtain rfl := TrayComponent.button?_eq_some_iff.mp hbutton
  rw [Tray.components_read htag] at hcomponent
  obtain ⟨p, hp, hkept⟩ := List.mem_filterMap.mp hcomponent
  have hchild : p.element ∈ e.children :=
    Tray.map_element_placings (before.flatMap (·.components)) e.children ▸ List.mem_map_of_mem hp
  exact ⟨p.element, he.child _ hchild, (Tray.Placing.button_of_kept? hkept).2⟩

/-- A declaration remembers what its element holds, or what the elements in it do. -/
theorem Config.Recalls.declare (hc : c.Recalls texts) (he : e.StandsIn texts) (world : World)
    (parent : Markup.Tag) : (c.declare world parent e).value.Recalls texts := by
  have hdeclares := Config.declares world parent e c
  generalize (c.declare world parent e).value = c' at hdeclares
  cases hdeclares with
  | key =>
    refine ⟨?_, hc.buttons⟩
    intro b hb
    rcases List.mem_append.mp hb with hb | hb
    · exact hc.keys b hb
    · exact ⟨e, he, Option.mem_toList.mp hb⟩
  | tray htag =>
    refine ⟨hc.keys, ?_⟩
    intro b hb
    rw [List.flatMap_append, List.flatMap_singleton] at hb
    rcases List.mem_append.mp hb with hb | hb
    · exact hc.buttons b hb
    · exact exists_of_mem_buttons he htag hb
  | _ => exact ⟨hc.keys, hc.buttons⟩

end Declarations

section Menus

variable {world : World} {texts : List SourceText} {history : List Call} {e : Element}

/-- An include in a menu warns of the texts that are known and of those that it reads. -/
def MenuInclude.Sound (world : World) (onInclude : MenuInclude) : Prop :=
  ∀ texts e level height history, e.StandsIn texts →
    (onInclude e level height history).journal.Sound world texts history

theorem sound_itemsOf {onInclude : MenuInclude} (hinc : onInclude.Sound world)
    (es : List Element) (hes : ∀ e ∈ es, e.StandsIn texts) (level height : Nat)
    (history : List Call) :
    (itemsOf onInclude level height history es).journal.Sound world texts history := by
  induction es using Markup.forest_induction generalizing texts level height history with
  | nil =>
    rw [itemsOf_nil]
    exact Journal.sound_nil
  | cons e es ihe ihs =>
    obtain ⟨he, hrest⟩ := List.forall_mem_cons.mp hes
    have hself : ∀ e' ∈ [e], e'.StandsIn texts := List.forall_mem_singleton.mpr he
    rw [itemsOf_cons]
    refine MenuYield.sound_andThen ?_ fun history' => ihs
      (fun e' he' => (hrest e' he').mono (List.subset_append_left _ _)) level height history'
    by_cases hi : e.tag = .include
    · rw [itemOf_include hi]
      exact hinc texts e level height history he
    by_cases hm : e.tag = .menu
    · by_cases hl : level < Menu.maxLevel
      · have hitems := ihe he.child (level + 1) (Menu.heightOf e height).value history
        rw [itemOf_menu hm hl]
        exact hitems.after_ofWarnings (concerns_heightOf List.mem_cons_self height) hself
      · rw [itemOf_menu_of_deep hm (Nat.not_lt.mp hl)]
        exact Journal.sound_ofWarning he rfl (.of_plain rfl rfl)
    · rw [itemOf_leaf hi hm]
      exact Journal.sound_ofWarnings (concerns_leafItem List.mem_cons_self) hself

theorem sound_includedItems {items : List Call → List Element → MenuYield}
    (hitems : ∀ texts history es, (∀ e ∈ es, e.StandsIn texts) →
      (items history es).journal.Sound world texts history)
    (he : e.StandsIn texts) {document : Except IncludeError (List Element)}
    (hdocument : Resolved texts document) {reference : String} (htext : e.text = some reference)
    (history : List Call) :
    (includedItems items e reference history document).journal.Sound world texts history := by
  have hreference : (Problem.invalidMenu reference).Regards e :=
    .of_quote rfl rfl (Markup.Element.Holds.shows (.inl htext))
  cases hdocument with
  | markup ht hparse =>
    have hmarkup : Journal.Sound world texts history _ := Journal.sound_ofMarkup ht hparse
    refine hmarkup.append (Journal.sound_ofWarning (he.mono ?_) rfl hreference)
    exact List.subset_append_left _ _
  | @nothing cause hcause hnames hquotes =>
    cases cause with
    | markup fault => exact absurd rfl (hcause fault)
    | _ => exact Journal.sound_ofWarning he rfl (.of_plain hnames hquotes)
  | @document es hes =>
    cases es with
    | nil => exact Journal.sound_ofWarning he rfl hreference
    | cons root rest =>
      simp only [includedItems]
      split
      · exact hitems texts history root.children (hes root List.mem_cons_self).child
      · exact Journal.sound_ofWarning he rfl hreference

theorem isOfWalk_of_mem_resolve {shell : String} {source : Source} {event : Event}
    (hevent : event ∈ (resolve world shell history source).2) : event.isOfWalk = true := by
  have hexit : ∀ line r, ∀ event ∈ exitNote line r, event.isOfWalk = true := by
    intro line r event h
    unfold exitNote at h
    split at h
    · contradiction
    · exact List.mem_singleton.mp h ▸ rfl
  unfold resolve at hevent
  cases source with
  | file path =>
    simp only at hevent
    split at hevent <;> exact List.mem_singleton.mp hevent ▸ rfl
  | command line =>
    simp only at hevent
    split at hevent
    · rcases List.mem_cons.mp hevent with rfl | hevent
      · rfl
      · exact hexit line _ event hevent
    · exact List.mem_singleton.mp hevent ▸ rfl

/-- That an include is entered, and what is read for it, stands in the journal before what
comes of it. -/
theorem Journal.sound_resolve (shell : String) (source : Source) {event : Event}
    (hentry : ∃ depth, event = .including source.label depth ∨
      event = .includingMenu source.label depth) :
    Sound world texts history (event :: (resolve world shell history source).2) := by
  have hquiet : diagnostics (event :: (resolve world shell history source).2) = [] := by
    have hread := diagnostics_resolve world shell history source
    obtain ⟨depth, rfl | rfl⟩ := hentry <;> exact hread
  have htexts : sourceTexts world history (event :: (resolve world shell history source).2) =
      sourceTexts world history (resolve world shell history source).2 := by
    obtain ⟨depth, rfl | rfl⟩ := hentry <;> exact sourceTexts_cons_of_none world history _ rfl rfl
  constructor
  · intro t ht
    rw [htexts] at ht
    rw [label_of_mem_resolve ht]
    obtain ⟨depth, rfl | rfl⟩ := hentry
    · exact ⟨depth, .inl List.mem_cons_self⟩
    · exact ⟨depth, .inr List.mem_cons_self⟩
  · rw [hquiet]
    exact fun _ hd => nomatch hd
  · rw [hquiet]
    exact fun _ hd => nomatch hd
  · intro event' hevent
    rcases List.mem_cons.mp hevent with rfl | hevent
    · obtain ⟨depth, rfl | rfl⟩ := hentry <;> rfl
    · exact isOfWalk_of_mem_resolve hevent

/-- An include that is not entered is warned of with what is wrong with its reference. -/
theorem sound_includeProblem {sourceOf : String → Except IncludeError Source}
    {problem : Problem} (he : e.StandsIn texts)
    (hregards : ∀ reference cause, e.text = some reference → sourceOf reference = .error cause →
      (Problem.failedInclude cause).Regards e) (h : IncludeProblem sourceOf e problem) :
    Journal.Sound world texts history [.warned (.located e.origin problem)] := by
  cases h with
  | missingText => exact Journal.sound_ofWarning he rfl (.missingText he.oneLine_name)
  | failedInclude htext hcause =>
    exact Journal.sound_ofWarning he rfl (hregards _ _ htext hcause)

theorem regards_of_ofReference {reference : String} {cause : IncludeError}
    (htext : e.text = some reference) (h : Source.ofReference world reference = .error cause) :
    (Problem.failedInclude cause).Regards e := by
  unfold Source.ofReference at h
  cases hpath : world.expandPath reference with
  | ok path =>
    rw [hpath] at h
    contradiction
  | error found =>
    rw [hpath] at h
    cases h
    exact regards_of_expandPath htext hpath

theorem regards_of_ofMenuReference {reference : String} {cause : IncludeError}
    (htext : e.text = some reference)
    (h : Source.ofMenuReference world reference = .error cause) :
    (Problem.failedInclude cause).Regards e := by
  unfold Source.ofMenuReference at h
  split at h
  · contradiction
  · exact regards_of_ofReference htext h

/-- The induction is on the includes that can still be entered. -/
theorem sound_menuInclude (world : World) (shell : String) (limit budget depth : Nat) :
    (menuInclude world shell limit budget depth).Sound world := by
  induction budget using Nat.strongRecOn generalizing depth with
  | ind budget ih =>
    intro texts e level height history he
    obtain ⟨problem, hproblem, hwarned⟩ | hstopped |
        ⟨budget, next, reference, source, rfl, htext, -, htaken⟩ :=
      menuInclude_cases world shell limit budget depth e level height history
    · rw [hwarned]
      refine sound_includeProblem he ?_ hproblem
      exact fun reference cause htext hcause => regards_of_ofMenuReference htext hcause
    · rw [hstopped]
      exact Journal.sound_nil
    · have hinc := ih budget (Nat.lt_succ_self budget) next
      rw [htaken]
      refine (Journal.sound_resolve shell source ⟨next, .inr rfl⟩).append ?_
      rw [Journal.sourceTexts_cons_of_none world history _ rfl rfl,
        Journal.calls_includingMenu, calls_resolve]
      refine sound_includedItems ?_ (he.mono (List.subset_append_left _ _)) ?_ htext _
      · exact fun _ history es hes => sound_itemsOf hinc es hes level height history
      -- What is resolved is known from the texts that were just read.
      exact (resolved_resolve world shell history source).mono (List.subset_append_right _ _)

end Menus

/-- Includes of either kind warn like includes in menus. -/
structure Includes.Sound (world : World) (includes : Includes) : Prop where
  inMenu : includes.inMenu.Sound world
  inDocument : ∀ texts e c history, e.StandsIn texts → c.Recalls texts →
    (includes.inDocument e c history).Sound world texts history

section Documents

variable {world : World} {includes : Includes} (hinc : includes.Sound world)
  {texts : List SourceText} {e : Element} {c : Config}

include hinc

theorem sound_rootMenu (he : e.StandsIn texts) (hc : c.Recalls texts) (history : List Call) :
    (rootMenu includes.inMenu e c history).Sound world texts history := by
  have hself : ∀ e' ∈ [e], e'.StandsIn texts := List.forall_mem_singleton.mpr he
  have hitems := sound_itemsOf hinc.inMenu e.children he.child 0 (Menu.heightOf e 0).value history
  have hnoted := hitems.after_ofWarnings (concerns_heightOf List.mem_cons_self 0) hself
  refine .of_recalls ?_ ?_
  · simp only [rootMenu]
    split
    · exact hnoted
    · have hslots : (Menu.slotsOf e).Concerns [e] := concerns_slotsOf List.mem_cons_self
      refine hnoted.append (Journal.sound_ofWarnings hslots ?_)
      exact fun e' he' => (hself e' he').mono (List.subset_append_left _ _)
  · rw [config_rootMenu]
    exact ⟨hc.keys, hc.buttons⟩

theorem sound_walkElement (he : e.StandsIn texts) (hc : c.Recalls texts)
    {parent : Markup.Tag} (hparent : Text.OneLine parent.spelling) (history : List Call) :
    (walkElement world includes parent e c history).Sound world texts history := by
  by_cases hi : e.tag = .include
  · rw [walkElement_include hi]
    exact hinc.inDocument texts e c history he hc
  by_cases hm : e.tag = .rootMenu
  · rw [walkElement_rootMenu hm]
    exact sound_rootMenu hinc he hc history
  · rw [walkElement_declaration hm hi]
    refine .of_recalls ?_ (hc.declare he world parent)
    exact Journal.sound_ofWarnings (Config.concerns_declare world hparent e c)
      (List.forall_mem_cons.mpr ⟨he, he.child⟩)

theorem sound_walkElements {parent : Markup.Tag} (hparent : Text.OneLine parent.spelling)
    (es : List Element) (hes : ∀ e ∈ es, e.StandsIn texts) (hc : c.Recalls texts)
    (history : List Call) :
    (walkElements world includes parent es c history).Sound world texts history := by
  induction es generalizing texts c history with
  | nil => exact .of_recalls (Journal.sound_nil) hc
  | cons e es ih =>
    obtain ⟨he, hrest⟩ := List.forall_mem_cons.mp hes
    rw [walkElements]
    refine (sound_walkElement hinc he hc hparent history).andThen fun c' history' hc' => ?_
    exact ih (fun e' he' => (hrest e' he').mono (List.subset_append_left _ _)) hc' history'

theorem sound_walkDocument (es : List Element) (hes : ∀ e ∈ es, e.StandsIn texts)
    (hc : c.Recalls texts) (history : List Call) :
    (walkDocument world includes es c history).Sound world texts history := by
  induction es generalizing texts c history with
  | nil => exact .of_recalls (Journal.sound_nil) hc
  | cons top es ih =>
    obtain ⟨htop, hrest⟩ := List.forall_mem_cons.mp hes
    rw [walkDocument]
    refine Progress.Sound.andThen ?_ fun c' history' hc' =>
      ih (fun e' he' => (hrest e' he').mono (List.subset_append_left _ _)) hc' history'
    split
    · exact sound_walkElements hinc htop.oneLine_name top.children htop.child hc history
    · refine .of_recalls (Journal.sound_ofWarning htop rfl ?_) hc
      exact ⟨List.forall_mem_singleton.mpr htop.oneLine_name, List.forall_mem_nil _⟩

theorem sound_includedDocument (he : e.StandsIn texts) (hc : c.Recalls texts)
    {document : Except IncludeError (List Element)} (hdocument : Resolved texts document)
    (label : String) (history : List Call) :
    (includedDocument (walkDocument world includes) e label c history document).Sound world texts
      history := by
  cases hdocument with
  | markup ht hparse => exact .of_recalls (Journal.sound_ofMarkup ht hparse) hc
  | @nothing cause hcause =>
    cases cause with
    | markup fault => exact absurd rfl (hcause fault)
    | _ => exact .of_recalls (Journal.sound_ofWarning he rfl (.of_plain rfl rfl)) hc
  | document hes => exact sound_walkDocument hinc _ hes hc history

end Documents

/-- Like in menus, the induction is on the includes that can still be entered. -/
theorem sound_includesAt (world : World) (limits : Limits) (budget depth : Nat) :
    (includesAt world limits budget depth).Sound world := by
  refine ⟨sound_menuInclude world limits.shell limits.includeDepth budget depth, ?_⟩
  change ∀ texts e c history, e.StandsIn texts → c.Recalls texts →
    (documentInclude world limits budget depth e c history).Sound world texts history
  induction budget using Nat.strongRecOn generalizing depth with
  | ind budget ih =>
    intro texts e c history he hc
    obtain ⟨problem, hproblem, hwarned⟩ | hstopped | ⟨budget, next, source, rfl, -, htaken⟩ :=
      documentInclude_cases world limits budget depth e c history
    · rw [hwarned]
      refine .of_recalls (sound_includeProblem he ?_ hproblem) hc
      exact fun reference cause htext hcause => regards_of_ofReference htext hcause
    · rw [hstopped]
      exact .of_recalls (Journal.sound_nil) hc
    · have hinc : (includesAt world limits budget next).Sound world :=
        ⟨sound_menuInclude world limits.shell limits.includeDepth budget next,
          ih budget (Nat.lt_succ_self budget) next⟩
      rw [htaken]
      refine .noting (Journal.sound_resolve limits.shell source ⟨next, .inl rfl⟩) ?_
      rw [Journal.sourceTexts_cons_of_none world history _ rfl rfl, Journal.calls_including,
        calls_resolve]
      refine sound_includedDocument hinc (he.mono (List.subset_append_left _ _))
        (hc.mono (List.subset_append_left _ _)) ?_ _ _
      exact (resolved_resolve world limits.shell history source).mono
        (List.subset_append_right _ _)

/-- All warnings of a walk are about its root document and the texts that it reads. -/
theorem sound_walkText (world : World) (o : Options) (label text : String) :
    (Load.walkText world o label text).Sound world [{ label, text }] [] := by
  have hroot : SourceText.mk label text ∈ [SourceText.mk label text] := List.mem_singleton_self _
  have hstart : Config.Recalls [{ label, text }] {} :=
    ⟨fun _ hb => (nomatch hb), fun _ hb => (nomatch hb)⟩
  unfold Load.walkText
  split
  · next es hparse =>
    exact sound_walkDocument (sound_includesAt _ _ _ _) es (standsIn_of_mem hroot hparse) hstart []
  · next cause hparse => exact .of_recalls (Journal.sound_ofMarkup hroot hparse) hstart

end DeskConfig
