import DeskConfig.Proofs.Walk.Sequence

/-!
What an include with text does, case by case. It is entered unless its document stands
at the limit, and one that was entered is what its source holds, with the commands that
reading the source ran before it.
-/

namespace DeskConfig

open Markup (Element Tag)

namespace Journal

@[simp] theorem calls_including (label : String) (depth : Nat) (j : Journal) :
    calls (.including label depth :: j) = calls j := rfl

@[simp] theorem calls_includingMenu (label : String) (depth : Nat) (j : Journal) :
    calls (.includingMenu label depth :: j) = calls j := rfl

@[simp] theorem diagnostics_including (label : String) (depth : Nat) (j : Journal) :
    diagnostics (.including label depth :: j) = diagnostics j := rfl

@[simp] theorem diagnostics_includingMenu (label : String) (depth : Nat) (j : Journal) :
    diagnostics (.includingMenu label depth :: j) = diagnostics j := rfl

end Journal

theorem diagnostics_exitNote (line : String) (r : CommandResult) :
    Journal.diagnostics (exitNote line r) = [] := by
  unfold exitNote
  split <;> rfl

theorem calls_exitNote (line : String) (r : CommandResult) :
    Journal.calls (exitNote line r) = [] := by
  unfold exitNote
  split <;> rfl

/-- The commands that reading a source runs: itself, if it is one. -/
def Source.calls (shell : String) : Source → List Call
  | .file _ => []
  | .command line => [{ shell, command := line }]

theorem calls_resolve (world : World) (shell : String) (history : List Call)
    (source : Source) :
    (resolve world shell history source).2.calls = source.calls shell := by
  cases source with
  | file path =>
    simp only [resolve]
    split <;> rfl
  | command line =>
    simp only [resolve]
    split
    · exact congrArg _ (calls_exitNote line _)
    · rfl

/-- Taking content in never warns by itself. -/
theorem diagnostics_resolve (world : World) (shell : String) (history : List Call)
    (source : Source) : (resolve world shell history source).2.diagnostics = [] := by
  cases source with
  | file path =>
    simp only [resolve]
    split <;> rfl
  | command line =>
    simp only [resolve]
    split
    · exact diagnostics_exitNote line _
    · rfl

theorem enter?_eq_none_iff {limit depth : Nat} :
    enter? limit depth = none ↔ limit < min (depth + 1) Text.maxWord := by
  unfold enter?
  simp only
  split <;> simp_all

theorem enter?_eq_some_iff {limit depth next : Nat} :
    enter? limit depth = some next ↔
      next = min (depth + 1) Text.maxWord ∧ next ≤ limit := by
  unfold enter?
  simp only
  split
  · simp only [reduceCtorEq, false_iff, not_and]
    omega
  · simp only [Option.some.injEq]
    omega

/-- A smaller depth is entered wherever a larger one is. Depths past the largest
32-bit number all count as that number. -/
theorem enter?_of_le {limit limit' depth depth' next : Nat} (hlimit : limit ≤ limit')
    (hdepth : min depth' Text.maxWord ≤ depth) (h : enter? limit depth = some next) :
    ∃ next', enter? limit' depth' = some next' ∧ min next' Text.maxWord ≤ next := by
  obtain ⟨hnext, hle⟩ := enter?_eq_some_iff.mp h
  refine ⟨min (depth' + 1) Text.maxWord, enter?_eq_some_iff.mpr ⟨rfl, ?_⟩, ?_⟩
  · omega
  · omega

/-- Whatever can be entered from a document can be entered from the one around it. -/
theorem min_depth_le_of_enter? {limit depth next : Nat} (h : enter? limit depth = some next) :
    min depth Text.maxWord ≤ next := by
  obtain ⟨hnext, -⟩ := enter?_eq_some_iff.mp h
  omega

/-- What an include that is not entered can be warned of, given how its reference is taken. -/
inductive IncludeProblem (sourceOf : String → Except IncludeError Source) (e : Element) :
    Problem → Prop
  | missingText : e.text = none → IncludeProblem sourceOf e (.missingText e.name)
  | failedInclude {reference cause} : e.text = some reference →
      sourceOf reference = .error cause → IncludeProblem sourceOf e (.failedInclude cause)

section Menus

variable {world : World} {shell : String} {limit budget depth next level height : Nat}
  {history : List Call} {e : Element} {reference : String} {source : Source}

theorem menuInclude_of_limit (h : e.text = some reference)
    (hn : enter? limit depth = none) :
    menuInclude world shell limit budget depth e level height history =
      { stopped := true } := by
  rw [menuInclude]
  simp only [h, hn]

theorem menuInclude_of_no_budget (h : e.text = some reference) :
    menuInclude world shell limit 0 depth e level height history = { stopped := true } := by
  rw [menuInclude]
  simp only [h]
  split <;> first | rfl | contradiction

theorem menuInclude_of_no_source {cause : IncludeError} (h : e.text = some reference)
    (hn : enter? limit depth = some next)
    (hs : Source.ofMenuReference world reference = .error cause) :
    menuInclude world shell limit (budget + 1) depth e level height history =
      .ofWarning e (.failedInclude cause) := by
  rw [menuInclude]
  simp only [h, hn, hs]

theorem menuInclude_of_source (h : e.text = some reference)
    (hn : enter? limit depth = some next)
    (hs : Source.ofMenuReference world reference = .ok source) :
    menuInclude world shell limit (budget + 1) depth e level height history =
      (includedItems (itemsOf (menuInclude world shell limit budget next) level height) e
          reference (history ++ source.calls shell)
          (resolve world shell history source).1).noting
        (.includingMenu source.label next :: (resolve world shell history source).2) := by
  rw [menuInclude]
  simp only [h, hn, hs, calls_resolve]

/-- All that an include can come to: a warning, a stop, or what its source holds. -/
theorem menuInclude_cases (world : World) (shell : String) (limit budget depth : Nat)
    (e : Element) (level height : Nat) (history : List Call) :
    (∃ problem, IncludeProblem (Source.ofMenuReference world) e problem ∧
      menuInclude world shell limit budget depth e level height history =
        .ofWarning e problem) ∨
    menuInclude world shell limit budget depth e level height history = { stopped := true } ∨
    ∃ budget' next reference source, budget = budget' + 1 ∧ e.text = some reference ∧
      enter? limit depth = some next ∧
      menuInclude world shell limit budget depth e level height history =
        (includedItems (itemsOf (menuInclude world shell limit budget' next) level height) e
            reference (history ++ source.calls shell)
            (resolve world shell history source).1).noting
          (.includingMenu source.label next :: (resolve world shell history source).2) := by
  cases ht : e.text with
  | none => exact .inl ⟨_, .missingText ht, menuInclude_of_no_text ht⟩
  | some reference =>
    cases hn : enter? limit depth with
    | none => exact .inr (.inl (menuInclude_of_limit ht hn))
    | some next =>
      cases budget with
      | zero => exact .inr (.inl (menuInclude_of_no_budget ht))
      | succ budget =>
        cases hs : Source.ofMenuReference world reference with
        | error cause =>
          exact .inl ⟨_, .failedInclude ht hs, menuInclude_of_no_source ht hn hs⟩
        | ok source =>
          exact .inr (.inr ⟨budget, next, reference, source, rfl, rfl, rfl,
            menuInclude_of_source ht hn hs⟩)

/-- A document that starts with a menu puts the items of that menu in. -/
theorem includedItems_of_menu (items : List Call → List Element → MenuYield) {root : Element}
    (hroot : root.tag = .menu) (rest : List Element) :
    includedItems items e reference history (.ok (root :: rest)) =
      items history root.children := by
  simp only [includedItems, if_pos hroot]

end Menus

section Documents

variable {world : World} {limits : Limits} {budget depth next : Nat} {c : Config}
  {history : List Call} {e : Element} {reference : String} {source : Source}

theorem documentInclude_of_limit (h : e.text = some reference)
    (hn : enter? limits.includeDepth depth = none) :
    documentInclude world limits budget depth e c history =
      { config := c, stopped := true } := by
  rw [documentInclude]
  simp only [h, hn]

theorem documentInclude_of_no_budget (h : e.text = some reference) :
    documentInclude world limits 0 depth e c history = { config := c, stopped := true } := by
  rw [documentInclude]
  simp only [h]
  split <;> first | rfl | contradiction

theorem documentInclude_of_no_source {cause : IncludeError} (h : e.text = some reference)
    (hn : enter? limits.includeDepth depth = some next)
    (hs : Source.ofReference world reference = .error cause) :
    documentInclude world limits (budget + 1) depth e c history =
      .ofWarning c e (.failedInclude cause) := by
  rw [documentInclude]
  simp only [h, hn, hs]

theorem documentInclude_of_source (h : e.text = some reference)
    (hn : enter? limits.includeDepth depth = some next)
    (hs : Source.ofReference world reference = .ok source) :
    documentInclude world limits (budget + 1) depth e c history =
      (includedDocument (walkDocument world (includesAt world limits budget next)) e
          source.label c (history ++ source.calls limits.shell)
          (resolve world limits.shell history source).1).noting
        (.including source.label next :: (resolve world limits.shell history source).2) := by
  rw [documentInclude]
  simp only [h, hn, hs, calls_resolve, includesAt]

/-- All that an include of a document can come to, like in a menu. -/
theorem documentInclude_cases (world : World) (limits : Limits) (budget depth : Nat)
    (e : Element) (c : Config) (history : List Call) :
    (∃ problem, IncludeProblem (Source.ofReference world) e problem ∧
      documentInclude world limits budget depth e c history = .ofWarning c e problem) ∨
    documentInclude world limits budget depth e c history = { config := c, stopped := true } ∨
    ∃ budget' next source, budget = budget' + 1 ∧
      enter? limits.includeDepth depth = some next ∧
      documentInclude world limits budget depth e c history =
        (includedDocument (walkDocument world (includesAt world limits budget' next)) e
            source.label c (history ++ source.calls limits.shell)
            (resolve world limits.shell history source).1).noting
          (.including source.label next :: (resolve world limits.shell history source).2) := by
  cases ht : e.text with
  | none => exact .inl ⟨_, .missingText ht, documentInclude_of_no_text ht⟩
  | some reference =>
    cases hn : enter? limits.includeDepth depth with
    | none => exact .inr (.inl (documentInclude_of_limit ht hn))
    | some next =>
      cases budget with
      | zero => exact .inr (.inl (documentInclude_of_no_budget ht))
      | succ budget =>
        cases hs : Source.ofReference world reference with
        | error cause =>
          exact .inl ⟨_, .failedInclude ht hs, documentInclude_of_no_source ht hn hs⟩
        | ok source =>
          exact .inr (.inr ⟨budget, next, source, rfl, rfl, documentInclude_of_source ht hn hs⟩)

end Documents

end DeskConfig
