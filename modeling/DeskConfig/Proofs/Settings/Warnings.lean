import DeskConfig.Proofs.Include.Variables
import DeskConfig.Proofs.Settings.Declarations
import DeskConfig.Proofs.Settings.Quotes

/-!
What reading warns of. A reading warns of the element that it reads and of those right inside
it, each at its own place, and shows of it no more than its name and what it holds. It never
warns of references to root menus: these cannot be told to be wrong before the load is over.
-/

namespace DeskConfig

open Markup (Element Tag Spelled)
open Text (OneLine)

/-- Whether a problem is one of a reference to root menus. -/
def Problem.isMenuReference : Problem → Bool
  | .missingMenu _ _ => true
  | _ => false

namespace Reading

/-- All warnings are about the given elements, and none is about a reference to root menus. -/
def Concerns (es : List Element) (r : Reading α) : Prop :=
  ∀ d ∈ r.warnings, ∃ e ∈ es, ∃ problem : Problem, problem.isMenuReference = false ∧
    (Spelled es → problem.Regards e) ∧ d = .located e.origin problem

variable {α β : Type} {es es' : List Element} {e : Element}

theorem Concerns.pure (a : α) : Concerns es (pure a : Reading α) := fun _ hd => nomatch hd

theorem Concerns.bind {r : Reading α} {f : α → Reading β} (h : r.Concerns es)
    (h' : (f r.value).Concerns es) : (r >>= f).Concerns es := by
  intro d hd
  rw [warnings_bind] at hd
  exact (List.mem_append.mp hd).elim (h d) (h' d)

theorem Concerns.map {r : Reading α} (h : r.Concerns es) (g : α → β) :
    (g <$> r).Concerns es := by
  intro d hd
  rw [warnings_map] at hd
  exact h d hd

section Attributes

variable (he : e ∈ es)

include he

theorem concerns_warn {problem : Problem} (h : problem.isMenuReference = false)
    (hproblem : Spelled es → problem.Regards e) : (warn e problem).Concerns es := by
  intro d hd
  exact ⟨e, he, problem, h, hproblem, List.mem_singleton.mp hd⟩

theorem concerns_invalidTag {parent : Tag} (hparent : Spelled es → OneLine parent.spelling) :
    (invalidTag parent e).Concerns es :=
  concerns_warn he rfl fun hes => .invalidTag (hparent hes) (hes e he)

theorem concerns_requiredText : (requiredText e).Concerns es := by
  unfold requiredText
  split
  · exact .pure _
  · exact (concerns_warn he rfl fun hes => .missingText (hes e he)).bind (.pure _)

theorem concerns_natural {what value : String} (hwhat : Spelled es → OneLine what)
    (hvalue : e.Holds value) (low high : Nat) : (natural e what value low high).Concerns es := by
  unfold natural
  split
  · exact .pure _
  · exact (concerns_warn he rfl fun hes => .invalidValue (hwhat hes) hvalue).bind (.pure _)

theorem concerns_integer {what value : String} (hwhat : Spelled es → OneLine what)
    (hvalue : e.Holds value) (low high : Int) : (integer e what value low high).Concerns es := by
  unfold integer
  split
  · exact .pure _
  · exact (concerns_warn he rfl fun hes => .invalidValue (hwhat hes) hvalue).bind (.pure _)

theorem concerns_naturalAttribute {name : String} (hname : OneLine name)
    (low high default : Nat) : (naturalAttribute e name low high default).Concerns es := by
  unfold naturalAttribute
  split
  · exact .pure _
  · next hvalue =>
    have hwhat : Spelled es → OneLine s!"{e.name} {name}" := fun hes =>
      oneLine_attribute (hes e he) hname
    exact (concerns_natural he hwhat (.of_attribute hvalue) _ _).bind (.pure _)

theorem concerns_integerAttribute {name : String} (hname : OneLine name)
    (low high default : Int) : (integerAttribute e name low high default).Concerns es := by
  unfold integerAttribute
  split
  · exact .pure _
  · next hvalue =>
    have hwhat : Spelled es → OneLine s!"{e.name} {name}" := fun hes =>
      oneLine_attribute (hes e he) hname
    exact (concerns_integer he hwhat (.of_attribute hvalue) _ _).bind (.pure _)

theorem concerns_choiceAttribute (name : String) {what : String} (hwhat : OneLine what)
    (choose : String → Option α) (default : α) :
    (choiceAttribute e name what choose default).Concerns es := by
  unfold choiceAttribute
  split
  · exact .pure _
  · next hvalue =>
    split
    · exact .pure _
    · exact (concerns_warn he rfl fun _ => .invalidValue hwhat (.of_attribute hvalue)).bind
        (.pure _)

end Attributes

end Reading

section Blocks

variable {e : Element} {es : List Element}

theorem holds_of_requiredText {v : String} (h : (Reading.requiredText e).value = some v) :
    e.Holds v := .inl (Reading.value_requiredText e ▸ h)

/-- The variable that is missing stands in the text of the element. -/
theorem regards_of_expandPath {world : World} {reference : String} {cause : IncludeError}
    (htext : e.text = some reference) (h : world.expandPath reference = .error cause) :
    (Problem.failedInclude cause).Regards e := by
  unfold World.expandPath at h
  split at h
  · contradiction
  · next name hname =>
    cases h
    have hholds : e.Holds reference := .inl htext
    refine ⟨List.forall_mem_nil _, List.forall_mem_cons.mpr ⟨hholds.shows, ?_⟩⟩
    exact List.forall_mem_singleton.mpr ⟨reference, hholds, Reference.infix_of_expand hname⟩

theorem concerns_style_apply (he : e ∈ es) (s : Style) (setting : Style.Setting) :
    (s.apply e setting).Concerns es := by
  unfold Style.apply
  refine (Reading.concerns_requiredText he).bind ?_
  split
  · exact .pure _
  next htext =>
  have hvalue := holds_of_requiredText htext
  split
  · exact .pure _
  · exact .pure _
  · exact (Reading.concerns_natural he (fun _ => by decide) hvalue _ _).bind (.pure _)
  · exact (Reading.concerns_natural he (fun _ => by decide) hvalue _ _).bind (.pure _)

theorem concerns_style_applyAll {block : Tag} (hblock : Spelled es → OneLine block.spelling)
    (settings : List (Tag × Style.Setting)) (inside : List Element) (hes : inside ⊆ es)
    (s : Style) : (Style.applyAll block settings inside s).Concerns es := by
  induction inside generalizing s with
  | nil => exact .pure _
  | cons e inside ih =>
    obtain ⟨he, hinside⟩ := List.cons_subset.mp hes
    rw [Style.applyAll]
    split
    · exact (concerns_style_apply he s _).bind (ih hinside _)
    · exact (Reading.concerns_invalidTag he hblock).bind (ih hinside s)

theorem concerns_style (e : Element) (s : Style) :
    (Style.read e s).Concerns (e :: e.children) := by
  have he : e ∈ e :: e.children := List.mem_cons_self
  unfold Style.read
  split
  · exact .pure _
  refine .bind ?_ (concerns_style_applyAll (fun hes => hes e he) _ _
    (List.subset_cons_self _ _) _)
  unfold Style.readAttributes
  split
  · exact (Reading.concerns_choiceAttribute he _ (by decide) _ _).bind (.pure _)
  · refine (Reading.concerns_choiceAttribute he _ (by decide) _ _).bind (.bind ?_ (.pure _))
    unfold Style.readDelay
    split
    · exact .pure _
    · next hvalue =>
      have hwhat : OneLine "popup delay" := by decide
      exact (Reading.concerns_natural he (fun _ => hwhat) (.of_attribute hvalue) _ _).bind
        (.pure _)
  · exact .pure _

theorem concerns_desktops_readNamesFrom {parent : Tag}
    (hparent : Spelled es → OneLine parent.spelling) (index : Nat) (inside : List Element)
    (hes : inside ⊆ es) (d : Desktops) :
    (Desktops.readNamesFrom parent index inside d).Concerns es := by
  induction inside generalizing index d with
  | nil => exact .pure _
  | cons e inside ih =>
    obtain ⟨he, hinside⟩ := List.cons_subset.mp hes
    rw [Desktops.readNamesFrom]
    split
    · exact .pure _
    split
    · refine (Reading.concerns_requiredText he).bind ?_
      split
      · exact ih _ hinside _
      · exact ih _ hinside _
    · exact (Reading.concerns_invalidTag he hparent).bind (ih _ hinside d)

theorem concerns_desktops (e : Element) (d : Desktops) :
    (Desktops.read e d).Concerns (e :: e.children) :=
  (Reading.concerns_naturalAttribute List.mem_cons_self (by decide) _ _ _).bind
    (concerns_desktops_readNamesFrom (fun hes => hes e List.mem_cons_self) _ _
      (List.subset_cons_self _ _) _)

theorem concerns_group_readChild (he : e ∈ es) {parent : Tag}
    (hparent : Spelled es → OneLine parent.spelling) (g : Group) :
    (Group.readChild parent e g).Concerns es := by
  unfold Group.readChild
  split
  iterate 2
    · refine (Reading.concerns_requiredText he).bind ?_
      split <;> exact .pure _
  · refine (Reading.concerns_requiredText he).bind ?_
    split
    · exact .pure _
    next htext =>
    split
    · exact .pure _
    · exact (Reading.concerns_warn he rfl fun _ =>
        .of_quote rfl rfl (holds_of_requiredText htext).shows).bind (.pure _)
  · exact (Reading.concerns_invalidTag he hparent).bind (.pure _)

theorem concerns_group_readChildren {parent : Tag}
    (hparent : Spelled es → OneLine parent.spelling) (inside : List Element)
    (hes : inside ⊆ es) (g : Group) : (Group.readChildren parent inside g).Concerns es := by
  induction inside generalizing g with
  | nil => exact .pure _
  | cons e inside ih =>
    obtain ⟨he, hinside⟩ := List.cons_subset.mp hes
    exact (concerns_group_readChild he hparent g).bind (ih hinside _)

theorem concerns_tray_readSize (he : e ∈ es) : (Tray.readSize e).Concerns es :=
  (Reading.concerns_naturalAttribute he (by decide) _ _ _).bind
    ((Reading.concerns_naturalAttribute he (by decide) _ _ _).bind (.pure _))

theorem concerns_tray_readComponent (he : e ∈ es) {parent : Tag}
    (hparent : Spelled es → OneLine parent.spelling) (earlier : List TrayComponent) :
    (Tray.readComponent parent earlier e).Concerns es := by
  have hsize := concerns_tray_readSize he
  unfold Tray.readComponent
  split
  · exact .pure _
  · refine .map ?_ _
    unfold Tray.readTaskList
    split
    · exact .pure _
    · next hvalue =>
      have hwhat : OneLine "maxwidth for TaskList" := by decide
      exact (Reading.concerns_natural he (fun _ => hwhat) (.of_attribute hvalue) _ _).bind
        (.pure _)
  · unfold Tray.readSwallow
    split
    · exact (Reading.concerns_warn he rfl fun _ => .of_plain rfl rfl).bind (.pure _)
    next hname =>
    split
    · have hholds : e.Holds _ :=
        (Option.or_eq_some_iff.mp hname).elim .of_attribute fun h => .inl h.2
      exact (Reading.concerns_warn he rfl fun _ => .of_quote rfl rfl hholds.shows).bind (.pure _)
    · exact hsize.bind (.pure _)
  · simp only [Tray.readButton]
    split
    · exact (Reading.concerns_warn he rfl fun _ => .of_plain rfl rfl).bind (.pure _)
    · exact hsize.bind (.pure _)
  · refine .map ?_ _
    exact hsize.bind (.pure _)
  · unfold Tray.readDock
    split
    · exact (Reading.concerns_warn he rfl fun _ => .of_plain rfl rfl).bind (.pure _)
    · exact .pure _
  · exact (Reading.concerns_invalidTag he hparent).bind (.pure _)

theorem concerns_tray_readComponents {parent : Tag}
    (hparent : Spelled es → OneLine parent.spelling) (earlier : List TrayComponent)
    (inside : List Element) (hes : inside ⊆ es) :
    (Tray.readComponents parent earlier inside).Concerns es := by
  induction inside generalizing earlier with
  | nil => exact .pure _
  | cons e inside ih =>
    obtain ⟨he, hinside⟩ := List.cons_subset.mp hes
    exact (concerns_tray_readComponent he hparent earlier).bind ((ih _ hinside).bind (.pure _))

theorem concerns_tray (before : List Tray) (e : Element) :
    (Tray.read before e).Concerns (e :: e.children) := by
  have he : e ∈ e :: e.children := List.mem_cons_self
  unfold Tray.read
  refine (Reading.concerns_integerAttribute he (by decide) _ _ _).bind ?_
  refine (Reading.concerns_integerAttribute he (by decide) _ _ _).bind ?_
  refine (concerns_tray_readSize he).bind ?_
  refine (Reading.concerns_naturalAttribute he (by decide) _ _ _).bind ?_
  refine (Reading.concerns_naturalAttribute he (by decide) _ _ _).bind ?_
  refine (Reading.concerns_choiceAttribute he _ (by decide) _ _).bind ?_
  refine (Reading.concerns_choiceAttribute he _ (by decide) _ _).bind ?_
  refine (Reading.concerns_choiceAttribute he _ (by decide) _ _).bind ?_
  exact (concerns_tray_readComponents (fun hes => hes e he) _ _
    (List.subset_cons_self _ _)).bind (.pure _)

end Blocks

section Values

variable {e : Element} {es : List Element} (he : e ∈ es)

include he

theorem concerns_readMode {what : String} (hwhat : OneLine what) (choose : String → Option α) :
    (readMode e what choose).Concerns es := by
  unfold readMode
  split
  · have hmode : OneLine (what ++ " mode") := Text.oneLine_append.mpr ⟨hwhat, by decide⟩
    exact (Reading.concerns_warn he rfl fun _ => .missingMode hmode).bind (.pure _)
  · next htext =>
    split
    · exact .pure _
    · exact (Reading.concerns_warn he rfl fun _ => .invalidMode hwhat (.inl htext)).bind (.pure _)

theorem concerns_focusModel (f : FocusModel) : (FocusModel.read e f).Concerns es := by
  unfold FocusModel.read
  split
  · exact (Reading.concerns_warn he rfl fun _ => .missingMode (by decide)).bind (.pure _)
  · next htext =>
    split
    · exact .pure _
    · exact (Reading.concerns_warn he rfl fun _ => .invalidValue (by decide) (.inl htext)).bind
        (.pure _)

theorem concerns_snap (s : Snap) : (Snap.read e s).Concerns es :=
  (Reading.concerns_naturalAttribute he (by decide) _ _ _).bind
    ((concerns_readMode he (by decide) _).bind (.pure _))

theorem concerns_drag {what : String} (hwhat : OneLine what) (d : Drag) :
    (Drag.read what e d).Concerns es := by
  refine .bind ?_ ((concerns_readMode he hwhat _).bind (.pure _))
  unfold Drag.readCoordinates
  split
  · exact .pure _
  · exact Reading.concerns_choiceAttribute he _ (by decide) _ _

theorem concerns_doubleClick_readNumber {what : String} (hwhat : OneLine what)
    (low high : Nat) : (DoubleClick.readNumber e what low high).Concerns es := by
  refine (Reading.concerns_requiredText he).bind ?_
  split
  · exact .pure _
  · next htext =>
    exact Reading.concerns_natural he (fun _ => hwhat) (holds_of_requiredText htext) _ _

theorem concerns_readPath (world : World) : (Config.readPath world e).Concerns es := by
  refine (Reading.concerns_requiredText he).bind ?_
  split
  · exact .pure _
  next htext =>
  split
  · exact .pure _
  · next hpath =>
    rw [Reading.value_requiredText] at htext
    exact (Reading.concerns_warn he rfl fun _ => regards_of_expandPath htext hpath).bind (.pure _)

theorem concerns_keyBinding : (KeyBinding.read e).Concerns es := by
  unfold KeyBinding.read
  split
  · exact (Reading.concerns_warn he rfl fun _ => .of_plain rfl rfl).bind (.pure _)
  next htext =>
  split
  · exact (Reading.concerns_warn he rfl fun _ => .invalidValue (by decide) (.inl htext)).bind
      (.pure _)
  · exact .pure _

theorem concerns_heightOf (inherited : Nat) : (Menu.heightOf e inherited).Concerns es :=
  Reading.concerns_naturalAttribute he (by decide) _ _ _

theorem concerns_slotsFrom (found : List Nat) (cs : List Char)
    (hcs : ∀ c ∈ cs, e.Shows (toString c)) : (Menu.slotsFrom e found cs).Concerns es := by
  induction cs generalizing found with
  | nil => exact .pure _
  | cons c cs ih =>
    obtain ⟨hc, hcs⟩ := List.forall_mem_cons.mp hcs
    rw [Menu.slotsFrom]
    split
    · split
      · exact ih _ hcs
      · exact ih _ hcs
    · exact (Reading.concerns_warn he rfl fun _ => .of_quote rfl rfl hc).bind (ih _ hcs)

theorem concerns_slotsOf : (Menu.slotsOf e).Concerns es := by
  cases htext : e.attribute? "onroot" with
  | none =>
    -- The slots of a menu that does not name any are in order.
    have hquiet : (Menu.slotsOf e).warnings = [] := by
      simp only [Menu.slotsOf, htext]
      rfl
    intro d hd
    rw [hquiet] at hd
    contradiction
  | some text =>
    have hholds : e.Holds text := .of_attribute htext
    simp only [Menu.slotsOf, htext, Option.getD_some]
    refine (concerns_slotsFrom he _ _ fun c hc => hholds.shows_char hc).bind ?_
    split
    · exact (Reading.concerns_warn he rfl fun _ => .of_quote rfl rfl hholds.shows).bind (.pure _)
    · exact .pure _

theorem concerns_leafItem : (Menu.leafItem e).Concerns es := by
  unfold Menu.leafItem
  split
  iterate 4
    · exact .pure _
  split
  · exact .pure _
  · exact (Reading.concerns_invalidTag he fun _ => by decide).bind (.pure _)

end Values

/-- What a declaration warns of. -/
theorem Config.concerns_declare (world : World) {parent : Tag} (hparent : OneLine parent.spelling)
    (e : Element) (c : Config) : (c.declare world parent e).Concerns (e :: e.children) := by
  have he : e ∈ e :: e.children := List.mem_cons_self
  unfold declare
  split
  iterate 8
    · exact (concerns_style e _).bind (.pure _)
  · exact (concerns_desktops e _).bind (.pure _)
  · exact ((concerns_doubleClick_readNumber he (by decide) _ _).bind (.pure _)).bind (.pure _)
  · exact ((concerns_doubleClick_readNumber he (by decide) _ _).bind (.pure _)).bind (.pure _)
  · exact (concerns_focusModel he _).bind (.pure _)
  · exact (concerns_snap he _).bind (.pure _)
  · exact (concerns_drag he (by decide) _).bind (.pure _)
  · exact (concerns_drag he (by decide) _).bind (.pure _)
  · exact (concerns_group_readChildren (fun hes => hes e he) _ (List.subset_cons_self _ _) _).bind
      (.pure _)
  · exact (concerns_keyBinding he).bind (.pure _)
  · exact .pure _
  · exact (concerns_tray _ e).bind (.pure _)
  · exact (concerns_readPath he world).bind (.pure _)
  · exact (concerns_readPath he world).bind (.pure _)
  iterate 4
    · exact (Reading.concerns_requiredText he).bind (.pure _)
  · exact (Reading.concerns_invalidTag he fun _ => hparent).bind (.pure _)

end DeskConfig
