import DeskConfig.Proofs.Include.TextFiles
import DeskConfig.Proofs.Walk.IncludeLimit
import DeskConfig.Proofs.Walk.Reach

/-!
How deep a walk recurs. The items of a menu call for the items of its submenus and of the menus
that it includes, and a top-level element calls for the items of its root menus and for the
top-level elements of the documents that it includes. Each of these calls comes with a smaller
allowance: a submenu takes one level and an include takes one depth. So a walk that may nest no
more calls than the two limits allow together never comes to the end of them, whatever the
files hold, and gives what a walk without such an end gives.
-/

namespace DeskConfig

open Markup (Element Tag)

/-- How calls for the items of a menu are answered, given the include depth of the document and
the level and the height that the items have. -/
abbrev ItemsCall := (depth level height : Nat) → (history : List Call) → List Element → MenuYield

/-- How calls for what is in a top-level element are answered. -/
abbrev RootCall := (depth : Nat) → Element → Config → (history : List Call) → Progress

section Bodies

variable (world : World) (limits : Limits)

/-- An include in a menu. The items of the menu it names are called for. -/
def includeBody (items : ItemsCall) (depth level height : Nat) (history : List Call)
    (e : Element) : MenuYield :=
  match e.text with
  | none => .ofWarning e (.missingText e.name)
  | some reference =>
    match enter? limits.includeDepth depth with
    | none => { stopped := true }
    | some next =>
      match Source.ofMenuReference world reference with
      | .error cause => .ofWarning e (.failedInclude cause)
      | .ok source =>
        let (document, events) := resolve world limits.shell history source
        (includedItems (items next level height) e reference (history ++ Journal.calls events)
          document).noting (.includingMenu source.label next :: events)

/-- One element of a menu. The items of a submenu are called for. -/
def itemBody (items : ItemsCall) (depth level height : Nat) (history : List Call)
    (e : Element) : MenuYield :=
  if e.tag = .include then includeBody world limits items depth level height history e
  else if e.tag = .menu then
    if Menu.maxLevel ≤ level then .ofWarning e (.menuTooDeep Menu.maxLevel)
    else
      let itemHeight := Menu.heightOf e height
      ((items depth (level + 1) itemHeight.value history e.children).asSubmenu e
        itemHeight.value).noting (.ofWarnings itemHeight.warnings)
  else { MenuYield.ofReading (Menu.leafItem e) with confirm := Menu.confirmation? e }

/-- The items of a menu, one after the other. -/
def itemsBody (items : ItemsCall) (depth level height : Nat) :
    (history : List Call) → List Element → MenuYield
  | _, [] => {}
  | history, e :: es =>
    (itemBody world limits items depth level height history e).andThen history fun history =>
      itemsBody items depth level height history es

/-- A root menu. Its items are called for. -/
def rootMenuBody (items : ItemsCall) (depth : Nat) (e : Element) (c : Config)
    (history : List Call) : Progress :=
  let height := Menu.heightOf e 0
  let y := (items depth 0 height.value history e.children).noting (.ofWarnings height.warnings)
  let c := { c with confirmExit := y.confirm.getD c.confirmExit }
  if y.stopped then { config := c, journal := y.journal, stopped := true }
  else
    let slots := Menu.slotsOf e
    { config := c.bindMenu slots.value
        { label := Menu.titleOf e, itemHeight := height.value, items := y.items }
      journal := y.journal ++ .ofWarnings slots.warnings }

/-- The top-level elements of a document. What is in those of the right tag is called for. -/
def documentBody (root : Element → Config → (history : List Call) → Progress) :
    List Element → Config → (history : List Call) → Progress
  | [], c, _ => { config := c }
  | e :: es, c, history =>
    let p := if e.tag = .jwm then root e c history
      else .ofWarning c e (.invalidStartTag e.name)
    p.andThen history (documentBody root es)

/-- An include in a document. -/
def documentIncludeBody (root : RootCall) (depth : Nat) (e : Element) (c : Config)
    (history : List Call) : Progress :=
  match e.text with
  | none => .ofWarning c e (.missingText e.name)
  | some reference =>
    match enter? limits.includeDepth depth with
    | none => { config := c, stopped := true }
    | some next =>
      match Source.ofReference world reference with
      | .error cause => .ofWarning c e (.failedInclude cause)
      | .ok source =>
        let (document, events) := resolve world limits.shell history source
        (includedDocument (documentBody (root next)) e source.label c
            (history ++ Journal.calls events) document).noting
          (.including source.label next :: events)

/-- One element inside a top-level element. -/
def elementBody (items : ItemsCall) (root : RootCall) (depth : Nat) (parent : Tag) (e : Element)
    (c : Config) (history : List Call) : Progress :=
  if e.tag = .rootMenu then rootMenuBody items depth e c history
  else if e.tag = .include then documentIncludeBody world limits root depth e c history
  else .ofReading (c.declare world parent e)

def elementsBody (items : ItemsCall) (root : RootCall) (depth : Nat) (parent : Tag) :
    List Element → Config → (history : List Call) → Progress
  | [], c, _ => { config := c }
  | e :: es, c, history =>
    (elementBody world limits items root depth parent e c history).andThen history
      (elementsBody items root depth parent es)

/-- What is in a top-level element. -/
def rootBody (items : ItemsCall) (root : RootCall) (depth : Nat) (e : Element) :
    Config → (history : List Call) → Progress :=
  elementsBody world limits items root depth e.tag e.children

/-- The items of a menu with at most so many calls one inside the other, the one for these items
included. Calls past that number are answered by `beyond`. -/
def itemsWithin (beyond : ItemsCall) : (calls : Nat) → ItemsCall
  | 0 => beyond
  | calls + 1 => itemsBody world limits (itemsWithin beyond calls)

/-- What is in a top-level element, with calls limited in the same way. -/
def rootWithin (beyondItems : ItemsCall) (beyondRoot : RootCall) : (calls : Nat) → RootCall
  | 0 => beyondRoot
  | calls + 1 =>
    rootBody world limits (itemsWithin world limits beyondItems calls)
      (rootWithin beyondItems beyondRoot calls)

end Bodies

/-- The walk over a root document that nests calls only so far. -/
def Load.walkTextWithin (world : World) (o : Options) (beyondItems : ItemsCall)
    (beyondRoot : RootCall) (calls : Nat) (label text : String) : Progress :=
  match Markup.parse label text with
  | .ok es =>
    documentBody (rootWithin world o.limits beyondItems beyondRoot calls 0) es {} []
  | .error cause => { config := {}, journal := [.warned (.ofMarkup cause)] }

/-- How many includes and submenus may still come one inside the other. -/
def Limits.allowance (limits : Limits) (depth level : Nat) : Nat :=
  (limits.includeDepth - depth) + (Menu.maxLevel - level)

section Decrease

variable {world : World} {limits : Limits} {depth level : Nat}
  (hlimit : limits.includeDepth < Text.maxWord)

include hlimit

theorem depth_lt_of_enter? {next : Nat} (h : enter? limits.includeDepth depth = some next) :
    next = depth + 1 ∧ depth < limits.includeDepth := by
  obtain ⟨hnext, hle⟩ := enter?_eq_some_iff.mp h
  omega

/-- The items of a menu call for nothing but items with a smaller allowance. -/
theorem itemsBody_congr {items items' : ItemsCall}
    (h : ∀ depth' level', limits.allowance depth' level' < limits.allowance depth level →
      items depth' level' = items' depth' level') :
    itemsBody world limits items depth level = itemsBody world limits items' depth level := by
  have hitem : ∀ height history e, itemBody world limits items depth level height history e =
      itemBody world limits items' depth level height history e := by
    intro height history e
    unfold itemBody
    split
    · unfold includeBody
      split
      · rfl
      split
      · rfl
      · next next hnext =>
        obtain ⟨rfl, hdepth⟩ := depth_lt_of_enter? hlimit hnext
        rw [h (depth + 1) level (by unfold Limits.allowance; omega)]
    split
    · split
      · rfl
      · next hlevel =>
        rw [h depth (level + 1) (by unfold Limits.allowance; omega)]
    · rfl
  funext height history es
  induction es generalizing history with
  | nil => rfl
  | cons e es ih =>
    simp only [itemsBody, hitem, ih]

/-- A top-level element calls for the items of its root menus and, for the rest, for nothing but
elements of documents included from its own. -/
theorem rootBody_congr {items items' : ItemsCall} {root root' : RootCall}
    (hitems : items depth 0 = items' depth 0)
    (hroot : ∀ depth', limits.includeDepth - depth' < limits.includeDepth - depth →
      root depth' = root' depth') :
    rootBody world limits items root depth = rootBody world limits items' root' depth := by
  have helement : ∀ parent e c history,
      elementBody world limits items root depth parent e c history =
        elementBody world limits items' root' depth parent e c history := by
    intro parent e c history
    unfold elementBody
    split
    · unfold rootMenuBody
      rw [hitems]
    split
    · unfold documentIncludeBody
      split
      · rfl
      split
      · rfl
      · next next hnext =>
        obtain ⟨rfl, hdepth⟩ := depth_lt_of_enter? hlimit hnext
        rw [hroot (depth + 1) (by omega)]
    · rfl
  have helements : ∀ parent es, elementsBody world limits items root depth parent es =
      elementsBody world limits items' root' depth parent es := by
    intro parent es
    induction es with
    | nil => rfl
    | cons e es ih =>
      funext c history
      simp only [elementsBody, helement, ih]
  funext e
  exact helements e.tag e.children

end Decrease

section Walks

variable (world : World) (limits : Limits)

/-- The answers that a walk gives itself. -/
def itemsAnswer : ItemsCall := fun depth level =>
  itemsOf (loadIncludes world limits depth).inMenu level

def rootAnswer : RootCall := fun depth => walkRoot world (loadIncludes world limits depth)

variable {world limits} {depth level : Nat} (hlimit : limits.includeDepth < Text.maxWord)

include hlimit

theorem includeBody_itemsAnswer (height : Nat) (history : List Call) (e : Element) :
    includeBody world limits (itemsAnswer world limits) depth level height history e =
      (loadIncludes world limits depth).inMenu e level height history := by
  cases htext : e.text with
  | none =>
    simp only [includeBody, htext]
    exact (menuInclude_of_no_text htext).symm
  | some reference =>
    cases hnext : enter? limits.includeDepth depth with
    | none =>
      simp only [includeBody, htext, hnext]
      exact (menuInclude_of_limit htext hnext).symm
    | some next =>
      obtain ⟨rfl, hdepth⟩ := depth_lt_of_enter? hlimit hnext
      cases hsource : Source.ofMenuReference world reference with
      | error cause =>
        rw [loadIncludes, budget_of_lt hlimit hdepth]
        simp only [includeBody, htext, hnext, hsource]
        exact (menuInclude_of_no_source htext hnext hsource).symm
      | ok source =>
        rw [inMenu_of_source hlimit hdepth htext hsource]
        simp only [includeBody, htext, hnext, hsource, calls_resolve]
        rfl

/-- The items that a walk builds are those that the items of a menu come to, if it answers the
calls for them itself. -/
theorem itemsBody_itemsAnswer :
    itemsBody world limits (itemsAnswer world limits) depth level =
      itemsAnswer world limits depth level := by
  have hitem : ∀ height history e,
      itemBody world limits (itemsAnswer world limits) depth level height history e =
        itemOf (loadIncludes world limits depth).inMenu level height history e := by
    intro height history e
    unfold itemBody
    split
    · next hi => rw [itemOf_include hi, includeBody_itemsAnswer hlimit]
    split
    · next hm =>
      split
      · next hlevel => rw [itemOf_menu_of_deep hm hlevel]
      · next hlevel =>
        rw [itemOf_menu hm (Nat.not_le.mp hlevel)]
        rfl
    · next hi hm => rw [itemOf_leaf hi hm]
  funext height history es
  change _ = itemsOf (loadIncludes world limits depth).inMenu level height history es
  induction es generalizing history with
  | nil => rw [itemsBody, itemsOf_nil]
  | cons e es ih => simp only [itemsBody, itemsOf_cons, hitem, ih]

omit hlimit in
theorem documentBody_walkRoot (includes : Includes) :
    documentBody (walkRoot world includes) = walkDocument world includes := by
  funext es
  induction es with
  | nil => rfl
  | cons e es ih =>
    funext c history
    simp only [documentBody, walkDocument, ih]

theorem documentIncludeBody_rootAnswer (e : Element) (c : Config) (history : List Call) :
    documentIncludeBody world limits (rootAnswer world limits) depth e c history =
      (loadIncludes world limits depth).inDocument e c history := by
  cases htext : e.text with
  | none =>
    simp only [documentIncludeBody, htext]
    exact (documentInclude_of_no_text htext).symm
  | some reference =>
    cases hnext : enter? limits.includeDepth depth with
    | none =>
      simp only [documentIncludeBody, htext, hnext]
      exact (documentInclude_of_limit htext hnext).symm
    | some next =>
      obtain ⟨rfl, hdepth⟩ := depth_lt_of_enter? hlimit hnext
      cases hsource : Source.ofReference world reference with
      | error cause =>
        rw [loadIncludes, budget_of_lt hlimit hdepth]
        simp only [documentIncludeBody, htext, hnext, hsource]
        exact (documentInclude_of_no_source htext hnext hsource).symm
      | ok source =>
        rw [inDocument_of_source hlimit hdepth htext hsource]
        simp only [documentIncludeBody, htext, hnext, hsource, calls_resolve, rootAnswer,
          documentBody_walkRoot]

theorem rootBody_answers :
    rootBody world limits (itemsAnswer world limits) (rootAnswer world limits) depth =
      rootAnswer world limits depth := by
  have helement : ∀ parent e c history,
      elementBody world limits (itemsAnswer world limits) (rootAnswer world limits) depth parent
          e c history =
        walkElement world (loadIncludes world limits depth) parent e c history := by
    intro parent e c history
    unfold elementBody
    split
    · next hm =>
      rw [walkElement_rootMenu hm]
      rfl
    split
    · next hi => rw [walkElement_include hi, documentIncludeBody_rootAnswer hlimit]
    · next hm hi => rw [walkElement_declaration hm hi]
  have helements : ∀ parent es,
      elementsBody world limits (itemsAnswer world limits) (rootAnswer world limits) depth parent
          es =
        walkElements world (loadIncludes world limits depth) parent es := by
    intro parent es
    induction es with
    | nil => rfl
    | cons e es ih =>
      funext c history
      simp only [elementsBody, walkElements, helement, ih]
  funext e
  exact helements e.tag e.children

/-- As many nested calls as the allowance says are enough for the items of a menu. -/
theorem itemsWithin_of_allowance (beyond : ItemsCall) {calls : Nat}
    (h : limits.allowance depth level < calls) :
    itemsWithin world limits beyond calls depth level = itemsAnswer world limits depth level := by
  -- Both sides are bodies, and these only differ in how calls are answered.
  induction calls generalizing depth level with
  | zero => omega
  | succ calls ih =>
    rw [itemsWithin, ← itemsBody_itemsAnswer hlimit]
    exact itemsBody_congr hlimit fun depth' level' hless => ih (by omega)

/-- For a top-level element there have to be two more: one for itself, and one for the items of
a root menu. -/
theorem rootWithin_of_allowance (beyondItems : ItemsCall) (beyondRoot : RootCall) {calls : Nat}
    (h : limits.allowance depth 0 + 1 < calls) :
    rootWithin world limits beyondItems beyondRoot calls depth = rootAnswer world limits depth := by
  induction calls generalizing depth with
  | zero => omega
  | succ calls ih =>
    rw [rootWithin, ← rootBody_answers hlimit]
    refine rootBody_congr hlimit (itemsWithin_of_allowance hlimit beyondItems (by omega)) ?_
    intro depth' hless
    refine ih ?_
    unfold Limits.allowance at h ⊢
    omega

end Walks

/-- A walk nests at most as many calls as there are includes and submenus allowed, and two more
for the root document and its root menus. Whatever is done where a further call would be nested,
the walk that ends there comes to the same, for every text, all files and all commands, and so
does the load. For every call that is made on the way has less in front of it than the one that
makes it: what the items of a menu come to only depends on calls for items with a smaller
allowance, and what is in a top-level element comes to only depends on calls for the items of
its own root menus and for elements of documents that stand nearer to the include limit. -/
theorem nested_calls_are_limited (world : World) (o : Options)
    (hlimit : o.includeDepth < Text.maxWord) :
    (∀ beyondItems beyondRoot label text,
      let p := Load.walkTextWithin world o beyondItems beyondRoot (o.includeDepth + 66) label text
      p = Load.walkText world o label text ∧
        Load.ofProgress o label p = loadText world o label text) ∧
    (∀ depth level (items items' : ItemsCall),
      (∀ depth' level',
        (o.includeDepth - depth') + (Menu.maxLevel - level') <
          (o.includeDepth - depth) + (Menu.maxLevel - level) →
        items depth' level' = items' depth' level') →
      itemsBody world o.limits items depth level = itemsBody world o.limits items' depth level) ∧
    (∀ depth (items items' : ItemsCall) (root root' : RootCall),
      items depth 0 = items' depth 0 →
      (∀ depth', o.includeDepth - depth' < o.includeDepth - depth →
        root depth' = root' depth') →
      rootBody world o.limits items root depth = rootBody world o.limits items' root' depth) ∧
    ∀ depth level,
      itemsBody world o.limits (itemsAnswer world o.limits) depth level =
        itemsAnswer world o.limits depth level ∧
      rootBody world o.limits (itemsAnswer world o.limits) (rootAnswer world o.limits) depth =
        rootAnswer world o.limits depth := by
  have hlimit' : o.limits.includeDepth < Text.maxWord := hlimit
  have hwalk : ∀ beyondItems beyondRoot label text,
      Load.walkTextWithin world o beyondItems beyondRoot (o.includeDepth + 66) label text =
        Load.walkText world o label text := by
    intro beyondItems beyondRoot label text
    have hcalls : o.limits.allowance 0 0 + 1 < o.includeDepth + 66 := by
      change o.includeDepth - 0 + (64 - 0) + 1 < o.includeDepth + 66
      omega
    have hroot : documentBody
        (rootWithin world o.limits beyondItems beyondRoot (o.includeDepth + 66) 0) =
          walkDocument world (loadIncludes world o.limits 0) :=
      (congrArg documentBody
        (rootWithin_of_allowance hlimit' beyondItems beyondRoot hcalls)).trans
          (documentBody_walkRoot _)
    unfold Load.walkTextWithin Load.walkText
    cases Markup.parse label text with
    | error cause => rfl
    | ok es => exact congrFun (congrFun (congrFun hroot es) {}) []
  refine ⟨?_, ?_, ?_, ?_⟩
  · intro beyondItems beyondRoot label text
    exact ⟨hwalk _ _ _ _, congrArg (Load.ofProgress o label) (hwalk _ _ _ _)⟩
  · intro depth level items items' h
    exact itemsBody_congr hlimit' h
  · intro depth items items' root root' hitems hroot
    exact rootBody_congr hlimit' hitems hroot
  · intro depth level
    exact ⟨itemsBody_itemsAnswer hlimit', rootBody_answers hlimit'⟩

/-- Under a limit of two, a file that includes itself nests no more than 68 calls. -/
theorem nested_calls_are_limited_loop :
    (limited 2).includeDepth < Text.maxWord ∧
      Load.walkTextWithin (World.holding "a" loopText) (limited 2)
          (fun _ _ _ _ _ => { stopped := true }) (fun _ _ c _ => { config := c }) 68 "a" loopText =
        Load.walkText (World.holding "a" loopText) (limited 2) "a" loopText :=
  ⟨by decide, ((nested_calls_are_limited (World.holding "a" loopText) (limited 2)
    (by decide)).1 _ _ "a" loopText).1⟩

end DeskConfig
