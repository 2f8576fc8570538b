import DeskConfig.Proofs.Include.TextFiles
import DeskConfig.Proofs.Walk.Likeness

/-!
Includes are transparent. When a walk goes through, an include in it can be replaced
by what it includes: the top-level children of the document it names, or the items
of the menu that document starts with. A generator in a menu is then no longer run,
so its answer has to be taken out of the world the second time.
-/

namespace DeskConfig

open Markup (Element Tag)

/-- The second world is the first one without the answer to a call that is made
after `history`: until then both answer alike, and from there on the second one
answers as the first one does once the call has been made. -/
structure World.Forgets (world : World) (history : List Call) (call : Call)
    (world' : World) : Prop where
  environment : world'.environment = world.environment
  files_before : ∀ done, done <+: history → world'.files done = world.files done
  run_before : ∀ done next, done ++ [next] <+: history →
    world'.run done next = world.run done next
  files_after : ∀ later, world'.files (history ++ later) = world.files (history ++ call :: later)
  run_after : ∀ later next,
    world'.run (history ++ later) next = world.run (history ++ call :: later) next

namespace World

/-- A world of fixed files that answers the successive commands from a list, and
cannot start any command when the list is used up. -/
def answering (files : String → Option (List UInt8)) (environment : Environment)
    (answers : List (Option CommandResult)) : World where
  files := fun _ => files
  environment := environment
  run := fun history _ => (answers[history.length]?).join

/-- A list of answers forgets a call when its answer is taken out of the list. -/
theorem answering_forgets (files : String → Option (List UInt8)) (environment : Environment)
    (answers : List (Option CommandResult)) (history : List Call) (call : Call) :
    (answering files environment answers).Forgets history call
      (answering files environment (answers.eraseIdx history.length)) where
  environment := rfl
  files_before := fun _ _ => rfl
  run_before := by
    intro done next hd
    have hlt : done.length < history.length := by
      have hle := hd.length_le
      simp only [List.length_append, List.length_cons, List.length_nil] at hle
      omega
    simp only [answering, List.getElem?_eraseIdx, if_pos hlt]
  files_after := fun _ => rfl
  run_after := by
    intro later next
    have hle : ¬ history.length + later.length < history.length := by omega
    simp only [answering, List.getElem?_eraseIdx, List.length_append, List.length_cons,
      if_neg hle, Nat.add_assoc]

variable {world world' : World} {history before calls : List Call} {call : Call}

theorem Forgets.alike_before (h : world.Forgets (history ++ before) call world') :
    World.Alike world world' history history before where
  environment := h.environment
  files := by
    intro done hd
    exact h.files_before _ ((List.prefix_append_right_inj history).mpr hd)
  outputs := by
    intro done next hd
    rw [h.run_before (history ++ done) next]
    rw [List.append_assoc]
    exact (List.prefix_append_right_inj history).mpr hd

theorem Forgets.alike_after (h : world.Forgets history call world') (calls : List Call) :
    World.Alike world world' (history ++ [call]) history calls where
  environment := h.environment
  files := by
    intro done _
    simpa only [List.append_assoc, List.singleton_append] using h.files_after done
  outputs := by
    intro done next _
    simp only [h.run_after, List.append_assoc, List.singleton_append]

end World

/-- What the second yield shows is what the first one shows, but for some commands
in the middle that only the first one ran. -/
structure MenuYield.AlikeWithout (y : MenuYield) (before own : List Call) (z : MenuYield) :
    Prop where
  items : z.items = y.items
  confirm : z.confirm = y.confirm
  diagnostics : z.journal.diagnostics = y.journal.diagnostics
  calls : ∃ after, y.journal.calls = before ++ own ++ after ∧
    z.journal.calls = before ++ after
  stopped : z.stopped = y.stopped

namespace MenuYield.AlikeWithout

variable {x x' y y' z z' : MenuYield} {before own : List Call}

theorem alike (h : y.AlikeWithout before [] z) : y.Alike z where
  items := h.items
  confirm := h.confirm
  diagnostics := h.diagnostics
  calls := by
    obtain ⟨after, hy, hz⟩ := h.calls
    rw [hy, hz, List.append_nil]
  stopped := h.stopped

theorem join_alike (hy : y.AlikeWithout before own y') (hz : z.Alike z') :
    (y.join z).AlikeWithout before own (y'.join z') where
  items := by simp only [MenuYield.join, hy.items, hz.items]
  confirm := by simp only [MenuYield.join, hy.confirm, hz.confirm]
  diagnostics := by
    simp only [MenuYield.join, Journal.diagnostics_append, hy.diagnostics, hz.diagnostics]
  calls := by
    obtain ⟨after, hcalls, hcalls'⟩ := hy.calls
    refine ⟨after ++ z.journal.calls, ?_, ?_⟩
    · simp only [MenuYield.join, Journal.calls_append, hcalls, List.append_assoc]
    · simp only [MenuYield.join, Journal.calls_append, hcalls', hz.calls, List.append_assoc]
  stopped := hz.stopped

theorem alike_join (hx : x.Alike x') (hy : y.AlikeWithout [] own y') :
    (x.join y).AlikeWithout x.journal.calls own (x'.join y') where
  items := by simp only [MenuYield.join, hx.items, hy.items]
  confirm := by simp only [MenuYield.join, hx.confirm, hy.confirm]
  diagnostics := by
    simp only [MenuYield.join, Journal.diagnostics_append, hx.diagnostics, hy.diagnostics]
  calls := by
    obtain ⟨after, hcalls, hcalls'⟩ := hy.calls
    rw [List.nil_append] at hcalls hcalls'
    refine ⟨after, ?_, ?_⟩
    · simp only [MenuYield.join, Journal.calls_append, hcalls, List.append_assoc]
    · simp only [MenuYield.join, Journal.calls_append, hcalls', hx.calls]
  stopped := hy.stopped

end MenuYield.AlikeWithout

/-- The items that elements of a document at `depth` build. -/
abbrev itemsAt (world : World) (limits : Limits) (budget depth level height : Nat)
    (history : List Call) (es : List Element) : MenuYield :=
  itemsOf (includesAt world limits budget depth).inMenu level height history es

section Menus

variable {world world' : World} {limits : Limits} {budget depth level height : Nat}
  {history before : List Call} {xs ys rest : List Element} {e root : Element}
  {reference : String} {source : Source}

/-- An include in a menu that goes through builds what the menu at the start of its
document builds. -/
theorem menuInclude_alikeWithout (htext : e.text = some reference)
    (hsource : Source.ofMenuReference world reference = .ok source)
    (hresolve : (resolve world limits.shell history source).1 = .ok (root :: rest))
    (hroot : root.tag = .menu)
    (hw : ∀ calls, World.Alike world world' (history ++ source.calls limits.shell) history
      calls)
    (hs : ((includesAt world limits budget depth).inMenu e level height history).stopped =
      false) :
    ((includesAt world limits budget depth).inMenu e level height history).AlikeWithout
      [] (source.calls limits.shell)
      (itemsAt world' limits budget depth level height history root.children) := by
  simp only [includesAt] at hs ⊢
  cases budget with
  | zero =>
    rw [menuInclude_of_no_budget htext] at hs
    contradiction
  | succ budget =>
    cases hn : enter? limits.includeDepth depth with
    | none =>
      rw [menuInclude_of_limit htext hn] at hs
      contradiction
    | some next =>
      rw [menuInclude_of_source htext hn hsource, hresolve,
        includedItems_of_menu _ hroot] at hs ⊢
      have hitems := itemsOf_alike
        (menuInclude_alike (Nat.le_refl limits.includeDepth) (Nat.le_succ budget)
          (min_depth_le_of_enter? hn))
        root.children level height _ _ hs (hw _)
      exact {
        items := hitems.items
        confirm := hitems.confirm
        diagnostics := by
          simp only [MenuYield.noting, Journal.diagnostics_append, diagnostics_resolve,
            Journal.diagnostics_includingMenu, List.nil_append]
          exact hitems.diagnostics
        calls := by
          refine ⟨_, ?_, hitems.calls⟩
          simp only [MenuYield.noting, Journal.calls_append, calls_resolve,
            Journal.calls_includingMenu, List.nil_append]
          rfl
        stopped := hitems.stopped }

/-- A menu with an include in it, and the menu with the included items in its place, in
a world where the commands of the include have been left out. -/
theorem itemsOf_splice (htag : e.tag = .include) (htext : e.text = some reference)
    (hsource : Source.ofMenuReference world reference = .ok source)
    (hbefore : (itemsAt world limits budget depth level height history xs).journal.calls =
      before)
    (hresolve : (resolve world limits.shell (history ++ before) source).1 =
      .ok (root :: rest))
    (hroot : root.tag = .menu)
    (hw : World.Alike world world' history history before)
    (hw' : ∀ calls, World.Alike world world'
      (history ++ before ++ source.calls limits.shell) (history ++ before) calls)
    (hs : (itemsAt world limits budget depth level height history (xs ++ [e] ++ ys)).stopped =
      false) :
    (itemsAt world limits budget depth level height history
      (xs ++ [e] ++ ys)).AlikeWithout before (source.calls limits.shell)
        (itemsAt world' limits budget depth level height history
          (xs ++ root.children ++ ys)) := by
  have hsame : MenuInclude.Alike world world' (includesAt world limits budget depth).inMenu
      (includesAt world' limits budget depth).inMenu :=
    menuInclude_alike (Nat.le_refl _) (Nat.le_refl _) (Nat.min_le_left _ _)
  subst hbefore
  simp only [itemsAt, List.append_assoc, List.singleton_append, itemsOf_append, itemsOf_cons,
    itemOf_include htag] at hs ⊢
  obtain ⟨hsx, hsrest⟩ := MenuYield.stopped_andThen_eq_false.mp hs
  obtain ⟨hse, hsy⟩ := MenuYield.stopped_andThen_eq_false.mp hsrest
  have hx := itemsOf_alike hsame xs level height history history hsx hw
  have he := menuInclude_alikeWithout htext hsource hresolve hroot hw' hse
  obtain ⟨after, hcalls, hcalls'⟩ := he.calls
  rw [List.nil_append] at hcalls hcalls'
  have hy := itemsOf_alike hsame ys level height _ _ hsy (by
    rw [hcalls, ← List.append_assoc]
    exact (hw' (after ++ _)).after)
  rw [← hcalls'] at hy
  rw [MenuYield.andThen_of_not_stopped hsx, MenuYield.andThen_of_not_stopped
    (hx.stopped.trans hsx), hx.calls, MenuYield.andThen_of_not_stopped hse,
    MenuYield.andThen_of_not_stopped (he.stopped.trans hse)]
  exact .alike_join hx (he.join_alike hy)

end Menus

section Documents

variable {world : World} {limits : Limits} {budget depth : Nat} {c : Config}
  {history : List Call} {xs ys document : List Element} {e : Element}
  {reference : String} {source : Source}

theorem calls_ofReference (hsource : Source.ofReference world reference = .ok source)
    (shell : String) : source.calls shell = [] := by
  unfold Source.ofReference at hsource
  cases hpath : world.expandPath reference with
  | error cause => simp [hpath, Except.map] at hsource
  | ok path =>
    simp only [hpath, Except.map, Except.ok.injEq] at hsource
    rw [← hsource]
    rfl

/-- An include in a document that goes through is walked like the children of the
top-level elements that it names. -/
theorem documentInclude_alike (htext : e.text = some reference)
    (hsource : Source.ofReference world reference = .ok source)
    (hresolve : (resolve world limits.shell history source).1 = .ok document)
    (hdocument : ∀ root ∈ document, root.tag = .jwm)
    (hs : ((includesAt world limits budget depth).inDocument e c history).stopped = false) :
    ((includesAt world limits budget depth).inDocument e c history).Alike
      (walkElements world (includesAt world limits budget depth) .jwm
        (document.flatMap (·.children)) c history) := by
  have hcalls := calls_ofReference hsource limits.shell
  simp only [includesAt] at hs ⊢
  cases budget with
  | zero =>
    rw [documentInclude_of_no_budget htext] at hs
    contradiction
  | succ budget =>
    cases hn : enter? limits.includeDepth depth with
    | none =>
      rw [documentInclude_of_limit htext hn] at hs
      contradiction
    | some next =>
      rw [documentInclude_of_source htext hn hsource, hresolve, hcalls, List.append_nil] at hs ⊢
      simp only [includedDocument, walkDocument_of_jwm _ _ _ _ _ hdocument,
        Progress.stopped_noting] at hs ⊢
      have hsame : Includes.Alike world world (includesAt world limits budget next)
          (includesAt world limits (budget + 1) depth) :=
        includesAt_alike rfl (Nat.le_refl _) (Nat.le_succ _) (min_depth_le_of_enter? hn)
      have hwalk := walkElements_alike hsame .jwm (document.flatMap (·.children)) c history
        history hs (.refl _ _ _)
      exact {
        config := hwalk.config
        diagnostics := by
          simp only [Progress.noting, Journal.diagnostics_append, diagnostics_resolve,
            Journal.diagnostics_including, List.nil_append]
          exact hwalk.diagnostics
        calls := by
          simp only [Progress.noting, Journal.calls_append, calls_resolve, hcalls,
            Journal.calls_including, List.nil_append]
          exact hwalk.calls
        stopped := hwalk.stopped }

/-- The children of a top-level element with an include among them, and the children
with the included ones in its place. -/
theorem walkElements_splice (htag : e.tag = .include) (htext : e.text = some reference)
    (hsource : Source.ofReference world reference = .ok source)
    (hresolve : (resolve world limits.shell
      (history ++ (walkElements world (includesAt world limits budget depth) .jwm xs c
        history).journal.calls) source).1 = .ok document)
    (hdocument : ∀ root ∈ document, root.tag = .jwm)
    (hs : (walkElements world (includesAt world limits budget depth) .jwm
      (xs ++ [e] ++ ys) c history).stopped = false) :
    (walkElements world (includesAt world limits budget depth) .jwm
      (xs ++ [e] ++ ys) c history).Alike
        (walkElements world (includesAt world limits budget depth) .jwm
          (xs ++ document.flatMap (·.children) ++ ys) c history) := by
  rw [List.append_assoc, walkElements_append, List.singleton_append] at hs ⊢
  rw [List.append_assoc, walkElements_append]
  obtain ⟨hsx, hsrest⟩ := Progress.stopped_andThen_eq_false.mp hs
  rw [walkElements, walkElement_include htag] at hsrest
  obtain ⟨hse, hsy⟩ := Progress.stopped_andThen_eq_false.mp hsrest
  refine Progress.Alike.andThen (.refl _) hsx ?_
  rw [walkElements_append, walkElements, walkElement_include htag]
  exact (documentInclude_alike htext hsource hresolve hdocument hse).andThen hse (.refl _)

end Documents

/-- A walk that goes through stays the same when an include in it is replaced by what
it includes. For an include among the children of a top-level element, these are the
children of the elements that its document consists of. For one in a menu, these are
the items of the menu that its document starts with; if that was a generator, the
second walk does not run it and takes place in a world without its answer. -/
theorem includes_are_transparent (world : World) (limits : Limits) (budget depth : Nat)
    (history : List Call) (xs ys : List Element) (e : Element) (reference : String)
    (source : Source) (htag : e.tag = .include) (htext : e.text = some reference) :
    (∀ (top : Element) (c : Config) (document : List Element),
      top.tag = .jwm → top.children = xs ++ [e] ++ ys →
      Source.ofReference world reference = .ok source →
      (resolve world limits.shell
        (history ++ (walkElements world (includesAt world limits budget depth) .jwm xs c
          history).journal.calls) source).1 = .ok document →
      (∀ root ∈ document, root.tag = .jwm) →
      (walkRoot world (includesAt world limits budget depth) top c history).stopped = false →
      (walkRoot world (includesAt world limits budget depth) top c history).Alike
        (walkRoot world (includesAt world limits budget depth)
          { top with children := xs ++ document.flatMap (·.children) ++ ys } c history)) ∧
    (∀ (level height : Nat) (root : Element) (rest : List Element) (before : List Call),
      Source.ofMenuReference world reference = .ok source →
      (itemsAt world limits budget depth level height history xs).journal.calls = before →
      (resolve world limits.shell (history ++ before) source).1 = .ok (root :: rest) →
      root.tag = .menu →
      (itemsAt world limits budget depth level height history (xs ++ [e] ++ ys)).stopped =
        false →
      (∀ path, source = .file path →
        (itemsAt world limits budget depth level height history (xs ++ [e] ++ ys)).Alike
          (itemsAt world limits budget depth level height history
            (xs ++ root.children ++ ys))) ∧
      (∀ line world', source = .command line →
        world.Forgets (history ++ before) { shell := limits.shell, command := line } world' →
        (itemsAt world limits budget depth level height history
          (xs ++ [e] ++ ys)).AlikeWithout
            before [{ shell := limits.shell, command := line }]
            (itemsAt world' limits budget depth level height history
              (xs ++ root.children ++ ys)))) := by
  refine ⟨?_, ?_⟩
  · intro top c document htop hchildren hsource hresolve hdocument hs
    simp only [walkRoot, htop, hchildren] at hs ⊢
    exact walkElements_splice htag htext hsource hresolve hdocument hs
  · intro level height root rest before hsource hbefore hresolve hroot hs
    refine ⟨?_, ?_⟩
    · intro path hpath
      subst hpath
      have hw : ∀ calls, World.Alike world world
          (history ++ before ++ (Source.file path).calls limits.shell) (history ++ before)
          calls := by
        intro calls
        rw [Source.calls, List.append_nil]
        exact .refl _ _ _
      exact (itemsOf_splice htag htext hsource hbefore hresolve hroot (.refl _ _ _) hw
        hs).alike
    · intro line world' hline hforgets
      subst hline
      exact itemsOf_splice htag htext hsource hbefore hresolve hroot hforgets.alike_before
        hforgets.alike_after hs

def themeText : String := "<JWM><Theme>plain</Theme></JWM>"

/-- A world with a file that sets a theme and generators that print the given texts. -/
def themeWorld (printed : List String) : World :=
  .answering (fun path =>
      if path = "theme" then some (Text.asciiBytes themeText.toList) else none)
    { entries := [] } (printed.map fun output => some { output })

theorem resolve_theme (printed : List String) :
    (resolve (themeWorld printed) "sh" [] (.file "theme")).1 =
      .ok [madeIn "theme" .jwm none [madeIn "theme" .theme (some "plain")]] := by
  have hfile : (themeWorld printed).files [] "theme" =
      some (Text.asciiBytes themeText.toList) := by
    simp only [themeWorld, World.answering, if_true]
  have htext := readText_of_ascii hfile (by decide +kernel)
  simp only [resolve, htext]
  rfl

/-- A theme is set the same by a document that includes it, and the items of the
second of two generators stand in its place when only the first one is asked. -/
theorem includes_are_transparent_theme :
    (walkRoot (themeWorld []) (includesAt (themeWorld []) ⟨"sh", 1⟩ 1 0)
        (madeIn "top" .jwm none ([] ++ [madeIn "top" .include (some "theme")] ++
          [madeIn "top" .mouse none])) {} []).Alike
      (walkRoot (themeWorld []) (includesAt (themeWorld []) ⟨"sh", 1⟩ 1 0)
        (madeIn "top" .jwm none ([] ++ [madeIn "theme" .theme (some "plain")] ++
          [madeIn "top" .mouse none])) {} []) ∧
    (itemsAt (themeWorld ["<Menu><Separator/></Menu>", "<Menu><Program>xterm</Program></Menu>"])
        ⟨"sh", 1⟩ 1 0 0 0 []
        ([madeIn "top" .include (some "exec:a")] ++ [madeIn "top" .include (some "exec:b")] ++
          [madeIn "top" .exit none])).AlikeWithout [⟨"sh", "a"⟩] [⟨"sh", "b"⟩]
      (itemsAt (themeWorld ["<Menu><Separator/></Menu>"]) ⟨"sh", 1⟩ 1 0 0 0 []
        ([madeIn "top" .include (some "exec:a")] ++
          [madeIn "b" .program (some "xterm")] ++ [madeIn "top" .exit none])) := by
  refine ⟨?_, ?_⟩
  · have hinclude : (documentInclude (themeWorld []) ⟨"sh", 1⟩ 1 0
        (madeIn "top" .include (some "theme")) {} []).stopped = false := by
      have hsource : Source.ofReference (themeWorld []) "theme" = .ok (.file "theme") := by
        rfl
      rw [documentInclude_of_source rfl rfl hsource]
      simp only [Source.calls, List.append_nil, resolve_theme]
      rfl
    exact (includes_are_transparent (themeWorld []) ⟨"sh", 1⟩ 1 0 [] []
      [madeIn "top" .mouse none] (madeIn "top" .include (some "theme")) "theme"
      (.file "theme") rfl rfl).1 _ {} _ rfl rfl rfl (resolve_theme []) (by decide)
      (Progress.stopped_andThen_eq_false.mpr ⟨hinclude, rfl⟩)
  · exact ((includes_are_transparent
      (themeWorld ["<Menu><Separator/></Menu>", "<Menu><Program>xterm</Program></Menu>"])
      ⟨"sh", 1⟩ 1 0 [] [madeIn "top" .include (some "exec:a")] [madeIn "top" .exit none]
      (madeIn "top" .include (some "exec:b")) "exec:b" (.command "b") rfl rfl).2 0 0
      (madeIn "b" .menu none [madeIn "b" .program (some "xterm")]) [] [⟨"sh", "a"⟩]
      (by rfl) (by decide +kernel) (by rfl) (by rfl) (by decide +kernel)).2 "b" _ rfl
      (World.answering_forgets _ _ _ [⟨"sh", "a"⟩] _)

end DeskConfig
