import DeskConfig.Proofs.Walk.Reach

/-!
Chains of includes. An include leads to a piece of another document, where the next
one can stand, so includes form paths, and cycles where a path comes back. A walk
follows every path that it comes to until it is at the limit, or until there are more
submenus around an include than a menu may nest.
-/

namespace DeskConfig

open Markup (Element Tag)

/-- A piece of a document, without the state of a walk that comes to it. -/
inductive Stretch where
  | document (es : List Element)
  | children (es : List Element)
  | items (es : List Element)

namespace Place

def stretch : Place → Stretch
  | .document _ es => .document es
  | .children _ es => .children es
  | .items _ _ es => .items es

/-- How many submenus the menu at a place stands in. -/
def level : Place → Nat
  | .document _ _ => 0
  | .children _ _ => 0
  | .items level _ _ => level

end Place

/-- An include among declarations names a document of its own; one in a menu names
more items. -/
inductive IncludeKind where
  | document
  | menu

/-- An include somewhere in a piece of a document, `rise` submenus down. -/
inductive Holds (e : Element) : IncludeKind → (rise : Nat) → Stretch → Prop
  | child {es} : e ∈ es → e.tag = .include → Holds e .document 0 (.children es)
  | item {es} : e ∈ es → e.tag = .include → Holds e .menu 0 (.items es)
  | submenu {m es kind rise} : m ∈ es → m.tag = .menu →
      Holds e kind rise (.items m.children) → Holds e kind (rise + 1) (.items es)
  | rootMenu {m es kind rise} : m ∈ es → m.tag = .rootMenu →
      Holds e kind rise (.items m.children) → Holds e kind rise (.children es)
  | top {m es kind rise} : m ∈ es → m.tag = .jwm →
      Holds e kind rise (.children m.children) → Holds e kind rise (.document es)

/-- What an include puts in its place when it is carried out after `history`. -/
inductive Leads (world : World) (shell : String) (history : List Call) (e : Element) :
    IncludeKind → Stretch → Prop
  | document {reference source document} : e.text = some reference →
      Source.ofReference world reference = .ok source →
      (resolve world shell history source).1 = .ok document →
      Leads world shell history e .document (.document document)
  | menu {reference source top rest} : e.text = some reference →
      Source.ofMenuReference world reference = .ok source →
      (resolve world shell history source).1 = .ok (top :: rest) → top.tag = .menu →
      Leads world shell history e .menu (.items top.children)

/-- A place where the given include comes next. -/
inductive Place.Faces (e : Element) : IncludeKind → (level : Nat) → Place → Prop
  | child {c es} : Faces e .document 0 (.children c (e :: es))
  | item {level height es} : Faces e .menu level (.items level height (e :: es))

section Nesting

variable (world : World) (limits : Limits) (root : List Element)

/-- The walk comes to an include after `history`. -/
def ComesTo (e : Element) (kind : IncludeKind) (history : List Call) : Prop :=
  ∃ depth place level, Reached world limits root depth history place ∧
    place.Faces e kind level

/-- Whenever the walk comes to an include, that leads to the given piece. -/
def AlwaysLeads (e : Element) (kind : IncludeKind) (s : Stretch) : Prop :=
  ∀ history, ComesTo world limits root e kind history →
    Leads world limits.shell history e kind s

/-- Includes that lead from one piece to another. The submenus around each of them are
counted. -/
inductive Path : (rises : List Nat) → Stretch → Stretch → Prop
  | nil {s} : Path [] s s
  | cons {e kind rise rises s s' s''} : Holds e kind rise s →
      AlwaysLeads world limits root e kind s' → Path rises s' s'' →
      Path (rise :: rises) s s''

/-- Includes nested one in the other. The last one needs text but no document. -/
def Chain (rises : List Nat) (s : Stretch) : Prop :=
  ∃ above last s' e kind, rises = above ++ [last] ∧ Path world limits root above s s' ∧
    Holds e kind last s' ∧ e.text ≠ none

/-- At most `n` includes with text are nested one in the other. -/
def Within : (n : Nat) → Stretch → Prop
  | 0, s => ∀ e kind rise, Holds e kind rise s → e.text = none
  | n + 1, s => ∀ e kind rise, Holds e kind rise s →
      ∀ history s', ComesTo world limits root e kind history →
        Leads world limits.shell history e kind s' → Within n s'

end Nesting

/-- The submenus around several includes, in all. -/
def submenus : List Nat → Nat
  | [] => 0
  | rise :: rises => rise + submenus rises

theorem submenus_append (rises rises' : List Nat) :
    submenus (rises ++ rises') = submenus rises + submenus rises' := by
  induction rises with
  | nil => rw [List.nil_append, submenus, Nat.zero_add]
  | cons rise rises ih => rw [List.cons_append, submenus, submenus, ih, Nat.add_assoc]

/-- The first `n` includes on the way round a cycle. -/
def around (rises : List Nat) (n : Nat) : List Nat :=
  ((List.replicate n rises).flatten).take n

theorem length_around {rises : List Nat} (h : rises ≠ []) (n : Nat) :
    (around rises n).length = n := by
  have hpos : 0 < rises.length := List.length_pos_iff.mpr h
  have hle : n ≤ n * rises.length := Nat.le_mul_of_pos_right n hpos
  simp only [around, List.length_take, List.length_flatten, List.map_replicate,
    List.sum_replicate_nat]
  omega

section Holds

variable {s : Stretch} {rise : Nat} {e : Element} {kind : IncludeKind} {es : List Element}

theorem Holds.tag_eq (h : Holds e kind rise s) : e.tag = .include := by
  induction h with
  | child _ htag => exact htag
  | item _ htag => exact htag
  | submenu _ _ _ ih => exact ih
  | rootMenu _ _ _ ih => exact ih
  | top _ _ _ ih => exact ih

theorem Holds.document_cons (x : Element) (h : Holds e kind rise (.document es)) :
    Holds e kind rise (.document (x :: es)) := by
  cases h with
  | top hm htag hholds => exact .top (List.mem_cons_of_mem x hm) htag hholds

theorem Holds.children_cons (x : Element) (h : Holds e kind rise (.children es)) :
    Holds e kind rise (.children (x :: es)) := by
  cases h with
  | child he htag => exact .child (List.mem_cons_of_mem x he) htag
  | rootMenu hm htag hholds => exact .rootMenu (List.mem_cons_of_mem x hm) htag hholds

theorem Holds.items_cons (x : Element) (h : Holds e kind rise (.items es)) :
    Holds e kind rise (.items (x :: es)) := by
  cases h with
  | item he htag => exact .item (List.mem_cons_of_mem x he) htag
  | submenu hm htag hholds => exact .submenu (List.mem_cons_of_mem x hm) htag hholds

end Holds

section Paths

variable {world : World} {limits : Limits} {root : List Element} {s s' s'' : Stretch}
  {rises rises' : List Nat}

theorem Path.append (h : Path world limits root rises s s')
    (h' : Path world limits root rises' s' s'') :
    Path world limits root (rises ++ rises') s s'' := by
  induction h with
  | nil => exact h'
  | cons hholds hleads _ ih => exact .cons hholds hleads (ih h')

theorem Path.take (h : Path world limits root rises s s') (n : Nat) :
    ∃ s'', Path world limits root (rises.take n) s s'' := by
  induction h generalizing n with
  | nil => exact ⟨_, by rw [List.take_nil]; exact .nil⟩
  | cons hholds hleads _ ih =>
    cases n with
    | zero => exact ⟨_, .nil⟩
    | succ n =>
      obtain ⟨s'', hpath⟩ := ih n
      exact ⟨s'', .cons hholds hleads hpath⟩

/-- A cycle can be followed any number of times. -/
theorem Path.rounds (h : Path world limits root rises s s) (n : Nat) :
    Path world limits root (List.replicate n rises).flatten s s := by
  induction n with
  | zero => exact .nil
  | succ n ih =>
    rw [List.replicate_succ, List.flatten_cons]
    exact h.append ih

theorem Path.around (h : Path world limits root rises s s) (n : Nat) :
    ∃ s', Path world limits root (around rises n) s s' :=
  (h.rounds n).take n

theorem Within.mono {n : Nat} (h : Within world limits root n s)
    (hsub : ∀ e kind rise, Holds e kind rise s' → ∃ rise', Holds e kind rise' s) :
    Within world limits root n s' := by
  cases n with
  | zero =>
    intro e kind rise hholds
    obtain ⟨rise', hholds'⟩ := hsub e kind rise hholds
    exact h e kind rise' hholds'
  | succ n =>
    intro e kind rise hholds
    obtain ⟨rise', hholds'⟩ := hsub e kind rise hholds
    exact h e kind rise' hholds'

end Paths

section Following

variable {world : World} {limits : Limits} {root : List Element} {depth : Nat}
  {history : List Call} {place : Place}

theorem Leads.text_ne_none {e : Element} {kind : IncludeKind} {shell : String}
    {s : Stretch} (h : Leads world shell history e kind s) : e.text ≠ none := by
  cases h with
  | document htext => simp [htext]
  | menu htext => simp [htext]

theorem Place.Faces.atInclude {e : Element} {kind : IncludeKind} {level : Nat}
    (hfaces : place.Faces e kind level) (htag : e.tag = .include) (htext : e.text ≠ none) :
    place.AtInclude := by
  cases hfaces with
  | child => exact ⟨e, _, rfl, htag, htext⟩
  | item => exact ⟨e, _, rfl, htag, htext⟩

/-- Facing an include, a walk goes into what that leads to. -/
theorem Reached.enter_of_leads {e : Element} {kind : IncludeKind} {level : Nat}
    {s : Stretch} (hr : Reached world limits root depth history place)
    (hfaces : place.Faces e kind level) (htag : e.tag = .include)
    (hdepth : depth < limits.includeDepth)
    (hleads : Leads world limits.shell history e kind s) :
    ∃ history' place', Reached world limits root (depth + 1) history' place' ∧
      place'.stretch = s ∧ place'.level = level := by
  cases hfaces with
  | child =>
    cases hleads with
    | document htext hsource hdocument =>
      exact ⟨_, _, hr.enterInclude htag htext hdepth hsource hdocument, rfl, rfl⟩
  | item =>
    cases hleads with
    | menu htext hsource hdocument htop =>
      exact ⟨_, _, hr.enterMenuInclude htag htext hdepth hsource hdocument htop, rfl, rfl⟩

section Along

variable (hlimit : limits.includeDepth < Text.maxWord)

include hlimit

/-- A walk comes to every top-level element, unless it is stopped before. -/
theorem blocked_or_reached_top {e : Element} (es : List Element) (c : Config)
    (history : List Call) (hr : Reached world limits root depth history (.document c es))
    (he : e ∈ es) (htag : e.tag = .jwm) :
    Blocked world limits root ∨ ∃ history' c',
      Reached world limits root depth history' (.children c' e.children) := by
  induction es generalizing c history with
  | nil => contradiction
  | cons x es ih =>
    rcases List.mem_cons.mp he with rfl | he
    · exact Or.inr ⟨history, c, hr.enterTop htag⟩
    by_cases hx : x.tag = .jwm
    · cases hs : (walkRoot world (loadIncludes world limits depth) x c history).stopped with
      | false => exact ih _ _ (hr.passTop hx hs) he
      | true =>
        refine Or.inl (blocked_of_stops hlimit _ history hr ?_)
        rw [stops_document_cons hx, hs, Bool.true_or]
    · exact ih c history (hr.skipTop hx) he

theorem blocked_or_reached_child {e : Element} (es : List Element) (c : Config)
    (history : List Call) (hr : Reached world limits root depth history (.children c es))
    (he : e ∈ es) :
    Blocked world limits root ∨ ∃ history' c' rest,
      Reached world limits root depth history' (.children c' (e :: rest)) := by
  induction es generalizing c history with
  | nil => contradiction
  | cons x es ih =>
    rcases List.mem_cons.mp he with rfl | he
    · exact Or.inr ⟨history, c, es, hr⟩
    cases hs : (walkElement world (loadIncludes world limits depth) .jwm x c
      history).stopped with
    | false => exact ih _ _ (hr.passChild hs) he
    | true =>
      refine Or.inl (blocked_of_stops hlimit _ history hr ?_)
      rw [stops_children_cons, hs, Bool.true_or]

theorem blocked_or_reached_item {e : Element} (es : List Element) (level height : Nat)
    (history : List Call)
    (hr : Reached world limits root depth history (.items level height es)) (he : e ∈ es) :
    Blocked world limits root ∨ ∃ history' rest,
      Reached world limits root depth history' (.items level height (e :: rest)) := by
  induction es generalizing history with
  | nil => contradiction
  | cons x es ih =>
    rcases List.mem_cons.mp he with rfl | he
    · exact Or.inr ⟨history, es, hr⟩
    cases hs : (itemOf (loadIncludes world limits depth).inMenu level height history
      x).stopped with
    | false => exact ih _ (hr.passItem hs) he
    | true =>
      refine Or.inl (blocked_of_stops hlimit _ history hr ?_)
      rw [stops_items_cons, hs, Bool.true_or]

/-- A walk comes to every include that is not below too many submenus, unless it is
stopped before. -/
theorem blocked_or_faces {e : Element} {kind : IncludeKind} {rise : Nat} {s : Stretch}
    (h : Holds e kind rise s) (place : Place) (history : List Call)
    (hr : Reached world limits root depth history place) (hplace : place.stretch = s)
    (hlevel : place.level + rise ≤ Menu.maxLevel) :
    Blocked world limits root ∨ ∃ history' place',
      Reached world limits root depth history' place' ∧
        place'.Faces e kind (place.level + rise) := by
  induction h generalizing place history with
  | child he _ =>
    cases place <;> simp only [Place.stretch, reduceCtorEq, Stretch.children.injEq] at hplace
    subst hplace
    refine (blocked_or_reached_child hlimit _ _ history hr he).imp_right ?_
    rintro ⟨history', c', rest, hr'⟩
    exact ⟨history', _, hr', .child⟩
  | item he _ =>
    cases place <;> simp only [Place.stretch, reduceCtorEq, Stretch.items.injEq] at hplace
    subst hplace
    refine (blocked_or_reached_item hlimit _ _ _ history hr he).imp_right ?_
    rintro ⟨history', rest, hr'⟩
    exact ⟨history', _, hr', .item⟩
  | @submenu m es kind rise hm htag _ ih =>
    cases place <;> simp only [Place.stretch, reduceCtorEq, Stretch.items.injEq] at hplace
    subst hplace
    simp only [Place.level] at hlevel ⊢
    rcases blocked_or_reached_item hlimit _ _ _ history hr hm with hb | ⟨history', rest, hr'⟩
    · exact Or.inl hb
    · have hfaces := ih _ history' (hr'.enterSubmenu htag (by omega)) rfl
        (by simp only [Place.level]; omega)
      simpa only [Place.level, Nat.add_right_comm, Nat.add_assoc, Nat.add_comm 1] using hfaces
  | @rootMenu m es kind rise hm htag _ ih =>
    cases place <;> simp only [Place.stretch, reduceCtorEq, Stretch.children.injEq] at hplace
    subst hplace
    simp only [Place.level] at hlevel ⊢
    rcases blocked_or_reached_child hlimit _ _ history hr hm with
      hb | ⟨history', c', rest, hr'⟩
    · exact Or.inl hb
    · exact ih _ history' (hr'.enterRootMenu htag) rfl hlevel
  | @top m es kind rise hm htag _ ih =>
    cases place <;> simp only [Place.stretch, reduceCtorEq, Stretch.document.injEq] at hplace
    subst hplace
    simp only [Place.level] at hlevel ⊢
    rcases blocked_or_reached_top hlimit _ _ history hr hm htag with hb | ⟨history', c', hr'⟩
    · exact Or.inl hb
    · exact ih _ history' hr' rfl hlevel

/-- A walk follows a path to its end, unless it is stopped before. -/
theorem blocked_or_followed {s s' : Stretch} {rises : List Nat}
    (h : Path world limits root rises s s') (place : Place) (history : List Call)
    (hr : Reached world limits root depth history place) (hplace : place.stretch = s)
    (hlevel : place.level + submenus rises ≤ Menu.maxLevel) :
    Blocked world limits root ∨ ∃ history' place',
      Reached world limits root (depth + rises.length) history' place' ∧
        place'.stretch = s' ∧ place'.level = place.level + submenus rises := by
  induction h generalizing depth place history with
  | nil => exact Or.inr ⟨history, place, hr, hplace, rfl⟩
  | @cons e kind rise rises s s' s'' hholds hleads _ ih =>
    rw [submenus] at hlevel ⊢
    rcases blocked_or_faces hlimit hholds place history hr hplace (by omega) with
      hb | ⟨history', place', hr', hfaces⟩
    · exact Or.inl hb
    have hlead := hleads history' ⟨depth, place', _, hr', hfaces⟩
    by_cases hlast : depth = limits.includeDepth
    · subst hlast
      exact Or.inl
        ⟨history', place', hr', hfaces.atInclude hholds.tag_eq hlead.text_ne_none⟩
    have hdepth := hr.depth_le
    obtain ⟨history'', place'', hr'', hstretch, hlevel'⟩ :=
      hr'.enter_of_leads hfaces hholds.tag_eq (by omega) hlead
    have hfollowed := ih place'' history'' hr'' hstretch (by omega)
    rw [hlevel', Nat.add_assoc, Nat.add_assoc, Nat.add_comm 1] at hfollowed
    exact hfollowed

/-- A path with more includes than the limit allows stops the walk. -/
theorem blocked_of_long_path {s : Stretch} {rises : List Nat}
    (h : Path world limits root rises place.stretch s)
    (hr : Reached world limits root depth history place)
    (hlong : limits.includeDepth < depth + rises.length)
    (hlevel : place.level + submenus rises ≤ Menu.maxLevel) : Blocked world limits root := by
  rcases blocked_or_followed hlimit h place history hr rfl hlevel with
    hb | ⟨history', place', hr', -, -⟩
  · exact hb
  · have hle := hr'.depth_le
    omega

theorem blocked_of_chain {rises : List Nat} (h : Chain world limits root rises place.stretch)
    (hr : Reached world limits root depth history place)
    (hlong : limits.includeDepth < depth + rises.length)
    (hlevel : place.level + submenus rises ≤ Menu.maxLevel) : Blocked world limits root := by
  obtain ⟨above, last, s', e, kind, rfl, hpath, hholds, htext⟩ := h
  rw [submenus_append, submenus, submenus] at hlevel
  rw [List.length_append, List.length_singleton] at hlong
  rcases blocked_or_followed hlimit hpath place history hr rfl (by omega) with
    hb | ⟨history', place', hr', hstretch, hlevel'⟩
  · exact hb
  have hle := hr'.depth_le
  have hlast : depth + above.length = limits.includeDepth := by omega
  rw [hlast] at hr'
  rcases blocked_or_faces hlimit hholds place' history' hr' hstretch (by omega) with
    hb | ⟨history'', place'', hr'', hfaces⟩
  · exact hb
  · exact ⟨history'', place'', hr'', hfaces.atInclude hholds.tag_eq htext⟩

end Along

/-- A walk stays among documents that nest no more includes than the limit leaves. -/
theorem Reached.within (hr : Reached world limits root depth history place)
    (h : Within world limits root limits.includeDepth (.document root)) :
    Within world limits root (limits.includeDepth - depth) place.stretch := by
  induction hr with
  | start => exact h
  | skipTop _ _ ih => exact ih.mono fun _ _ _ hholds => ⟨_, hholds.document_cons _⟩
  | passTop _ _ _ ih => exact ih.mono fun _ _ _ hholds => ⟨_, hholds.document_cons _⟩
  | enterTop _ htag ih =>
    exact ih.mono fun _ _ _ hholds => ⟨_, .top List.mem_cons_self htag hholds⟩
  | passChild _ _ ih => exact ih.mono fun _ _ _ hholds => ⟨_, hholds.children_cons _⟩
  | enterRootMenu _ htag ih =>
    exact ih.mono fun _ _ _ hholds => ⟨_, .rootMenu List.mem_cons_self htag hholds⟩
  | @enterInclude depth _ _ _ _ _ _ _ hr htag htext hdepth hsource hdocument ih =>
    have hspare : limits.includeDepth - depth = limits.includeDepth - (depth + 1) + 1 := by
      omega
    rw [hspare] at ih
    exact ih _ _ _ (.child List.mem_cons_self htag) _ _ ⟨depth, _, _, hr, .child⟩
      (.document htext hsource hdocument)
  | passItem _ _ ih => exact ih.mono fun _ _ _ hholds => ⟨_, hholds.items_cons _⟩
  | enterSubmenu _ htag _ ih =>
    exact ih.mono fun _ _ _ hholds => ⟨_, .submenu List.mem_cons_self htag hholds⟩
  | @enterMenuInclude depth _ _ _ _ _ _ _ _ _ hr htag htext hdepth hsource hdocument htop
      ih =>
    have hspare : limits.includeDepth - depth = limits.includeDepth - (depth + 1) + 1 := by
      omega
    rw [hspare] at ih
    exact ih _ _ _ (.item List.mem_cons_self htag) _ _ ⟨depth, _, _, hr, .item⟩
      (.menu htext hsource hdocument htop)

theorem not_blocked_of_within
    (h : Within world limits root limits.includeDepth (.document root)) :
    ¬Blocked world limits root := by
  rintro ⟨history, place, hr, hi⟩
  have hzero := hr.within h
  rw [Nat.sub_self] at hzero
  cases place with
  | document c es => exact hi
  | children c es =>
    obtain ⟨e, rest, rfl, htag, htext⟩ := hi
    exact htext (hzero e _ _ (.child List.mem_cons_self htag))
  | items level height es =>
    obtain ⟨e, rest, rfl, htag, htext⟩ := hi
    exact htext (hzero e _ _ (.item List.mem_cons_self htag))

end Following

end DeskConfig
