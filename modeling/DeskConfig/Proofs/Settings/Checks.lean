import DeskConfig.Proofs.Settings.MenuReferences

/-!
What the checks at the end show. A key binding and a tray button hold what their elements do,
so the checks are about these elements like reading them was, and show nothing else.
-/

namespace DeskConfig

open Markup (Element)

section References

variable {e : Element} {menus : RootMenus} {mark slots : String}

/-- What follows a mark in the text of an element. -/
theorem shows_of_mark (h : e.text = some (mark ++ slots)) : e.Shows slots := by
  refine ⟨mark ++ slots, .inl h, ?_⟩
  rw [String.toList_append]
  exact (List.suffix_append _ _).isInfix

theorem regards_of_misses {cause : MissingMenu} (hslots : e.Shows slots)
    (h : menus.Misses slots cause) (referrer : Referrer) :
    (Problem.missingMenu referrer cause).Regards e := by
  cases h with
  | noneGiven => exact .of_plain rfl rfl
  | @undefined _ before after c hc _ _ =>
    obtain ⟨v, hv, hpart⟩ := hslots
    refine .of_quote rfl rfl (hv.shows_char (hpart.subset ?_))
    exact hc ▸ List.mem_append_right _ List.mem_cons_self

end References

namespace KeyBinding

variable {e : Element} {b : KeyBinding} {d : Diagnostic} {menus : RootMenus}

theorem Lacks.regards {problem : Problem} (h : Lacks e problem) : problem.Regards e := by
  cases h with
  | text => exact .of_plain rfl rfl
  | action htext => exact .invalidValue (by decide) (.inl htext)
  | key => exact .of_plain rfl rfl
  | number _ _ hcode => exact .invalidValue (by decide) (.of_attribute hcode)

theorem exists_regards_of_check (hread : (read e).value = some b)
    (hd : d ∈ (check menus b).warnings) :
    ∃ problem : Problem, problem.Regards e ∧ d = .located e.origin problem := by
  obtain ⟨⟨text, htext, hnames⟩, hmask, -, -, horigin⟩ := value_read_eq_some_iff.mp hread
  rw [← horigin]
  unfold check at hd
  split at hd
  · next flaw hflaw =>
    exact ⟨flaw, (lacks_of_flaw hread hflaw).regards, List.mem_singleton.mp hd⟩
  obtain ⟨problem, hproblem, rfl⟩ := List.mem_map.mp hd
  refine ⟨problem, ?_, rfl⟩
  rcases List.mem_append.mp hproblem with hmodifier | hmissing
  · obtain ⟨c, hc, rfl⟩ := List.mem_map.mp hmodifier
    have hc := List.mem_of_mem_filter hc
    cases hgiven : b.mask with
    | none =>
      rw [hgiven] at hc
      contradiction
    | some mask =>
      rw [hgiven] at hc
      have hholds : e.Holds mask := .of_attribute (hmask ▸ hgiven)
      exact .of_quote rfl rfl (hholds.shows_char hc)
  · have hmissing := Option.mem_toList.mp hmissing
    unfold missingMenu? at hmissing
    split at hmissing
    · next haction =>
      obtain ⟨cause, hcause, rfl⟩ := Option.map_eq_some_iff.mp hmissing
      rw [haction] at hnames
      generalize b.command = command at hnames hcause
      cases hnames with
      | root slots =>
        exact regards_of_misses (shows_of_mark htext) (missingMenu?_eq_some_iff.mp hcause) _
      | word hword => simp [KeyAction.words] at hword
    · contradiction

end KeyBinding

/-- The text of a tray button's element is its action. -/
theorem TrayButton.exists_regards_of_missingMenu? {e : Element} {b : TrayButton}
    {d : Diagnostic} {menus : RootMenus} (haction : b.action = e.text)
    (horigin : b.origin = e.origin) (hd : b.missingMenu? menus = some d) :
    ∃ problem : Problem, problem.Regards e ∧ d = .located e.origin problem := by
  rw [missingMenu?_eq, Option.bind_eq_some_iff] at hd
  obtain ⟨r, hr, hwarning⟩ := hd
  obtain ⟨slots, htext, rfl⟩ := menuReference?_eq_some_iff.mp hr
  obtain ⟨cause, hmisses, rfl⟩ := MenuReference.warning?_eq_some_iff.mp hwarning
  exact ⟨_, regards_of_misses (shows_of_mark (haction ▸ htext)) hmisses _, by rw [← horigin]⟩

end DeskConfig
