import DeskConfig.Proofs.Markup.Tags

/-!
How deep the elements of a document are nested. The limit is looked at where an element is
opened that has a closing tag of its own, so no such element has too many others around it.
An element that closes itself is not held up: where the limit is just reached, it still gets
in, one level further down than the others may be. It holds nothing, so that is as deep as a
document can get.
-/

namespace DeskConfig.Markup

open Text

section Limit

variable {file : String} {text : List Char} {f f' : Forest}

/-- What the limit leaves of a tag. -/
def OpeningTag.Admitted (t : OpeningTag) : Prop :=
  t.depth ≤ maxNesting ∧ (t.selfClosing = false → t.depth < maxNesting)

/-- The limit on the elements that are open is kept by every piece, and each tag was met
under it. -/
theorem Forest.Takes.admitted {line : Nat} {token : Token}
    (h : f.Takes file line token.piece f') (hf : f.stack.length ≤ maxNesting) :
    f'.stack.length ≤ maxNesting ∧
      ∀ t ∈ (token.tag? f.stack.length).toList, t.Admitted := by
  obtain ⟨piece, stop⟩ := token
  have hlength := h.length_stack
  cases h with
  | opening hdepth _ =>
    refine ⟨by rw [hlength]; exact hdepth, ?_⟩
    intro t ht
    cases List.mem_singleton.mp ht
    exact ⟨hf, fun _ => hdepth⟩
  | selfClosing _ =>
    refine ⟨by rw [hlength]; exact hf, ?_⟩
    intro t ht
    cases List.mem_singleton.mp ht
    exact ⟨hf, nofun⟩
  | closing _ _ =>
    refine ⟨?_, fun t ht => nomatch ht⟩
    rw [hlength]
    exact Nat.le_trans (Nat.sub_le _ _) hf
  | text => exact ⟨by rw [hlength]; exact hf, fun t ht => nomatch ht⟩
  | outside => exact ⟨hf, fun t ht => nomatch ht⟩
  | cdata => exact ⟨by rw [hlength]; exact hf, fun t ht => nomatch ht⟩
  | aside => exact ⟨hf, fun t ht => nomatch ht⟩

theorem Forest.TakesAll.admitted {tokens : List Token} (h : f.TakesAll file text tokens f')
    (hf : f.stack.length ≤ maxNesting) :
    ∀ t ∈ openingTags f.stack.length tokens, t.Admitted := by
  induction h with
  | nil => exact fun t ht => nomatch ht
  | cons htakes _ ih =>
    obtain ⟨hnext, hhere⟩ := htakes.admitted hf
    have hrest := ih hnext
    rw [htakes.length_stack] at hrest
    intro t ht
    exact (List.mem_append.mp ht).elim (hhere t) (hrest t)

end Limit

/-- The tags of an accepted text are all met under the limit. -/
theorem admitted_of_parse {file text : String} {es : List Element}
    (h : parse file text = .ok es) : ∀ t ∈ tagsOf text, t.Admitted :=
  (parse_eq_ok_iff.mp h).2.admitted (Nat.zero_le _)

/-- What stands in an element of a document is an element of it, one level further down. -/
theorem child_mem_walkAllFrom {depth d : Nat} {es : List Element} {e child : Element}
    (h : (d, e) ∈ Element.walkAllFrom depth es) (hchild : child ∈ e.children) :
    (d + 1, child) ∈ Element.walkAllFrom depth es := by
  have htop : ∀ {d : Nat} {es : List Element} {e : Element}, e ∈ es →
      (d, e) ∈ Element.walkAllFrom d es := by
    intro d es e he
    obtain ⟨before, after, rfl⟩ := List.append_of_mem he
    simp [Element.walkAllFrom_append, Element.walkAllFrom, Element.walkFrom_eq]
  induction es using forest_induction generalizing depth with
  | nil => contradiction
  | cons first es ihe ihs =>
    rw [Element.walkAllFrom, Element.walkFrom_eq, List.cons_append, List.mem_cons,
      List.mem_append] at h ⊢
    rcases h with h | h | h
    · cases h
      exact .inr (.inl (htop hchild))
    · exact .inr (.inl (ihe h))
    · exact .inr (.inr (ihs h))

/-- The elements of an accepted text are as deep as their tags. Those with closing tags of
their own have fewer others around them than the limit says; those that close themselves may
have as many, and then they hold nothing. So no element is nested past the limit exactly if
no tag that closes itself stands where no further element could be opened. -/
theorem nesting_is_limited {file text : String} {es : List Element}
    (h : parse file text = .ok es) :
    List.Forall₂ (OpeningTag.Opens file text.toList) (tagsOf text) (Element.walk es) ∧
    (∀ t ∈ tagsOf text,
      t.depth ≤ maxNesting ∧ (t.selfClosing = false → t.depth < maxNesting)) ∧
    (∀ p ∈ Element.walk es, p.1 ≤ maxNesting ∧ (p.1 = maxNesting → p.2.children = [])) ∧
    ((∀ p ∈ Element.walk es, p.1 < maxNesting) ↔
      ∀ t ∈ tagsOf text, t.selfClosing = true → t.depth < maxNesting) := by
  have hopens := opens_of_parse h
  have hadmitted := admitted_of_parse h
  have hdepths : ∀ P : Nat → Prop,
      (∀ p ∈ Element.walk es, P p.1) ↔ ∀ t ∈ tagsOf text, P t.depth := by
    intro P
    rw [← List.forall_mem_map (f := fun p : Nat × Element => p.1),
      ← List.forall_mem_map (f := OpeningTag.depth), map_depth_of_opens hopens]
  have hmost : ∀ p ∈ Element.walk es, p.1 ≤ maxNesting :=
    (hdepths (· ≤ maxNesting)).mpr fun t ht => (hadmitted t ht).1
  refine ⟨hopens, hadmitted, ?_, ?_⟩
  · rintro ⟨d, e⟩ hp
    refine ⟨hmost _ hp, ?_⟩
    rintro rfl
    refine List.eq_nil_iff_forall_not_mem.mpr fun child hchild => ?_
    have hbelow := hmost _ (child_mem_walkAllFrom hp hchild)
    simp only at hbelow
    omega
  · rw [hdepths (· < maxNesting)]
    constructor
    · exact fun hless t ht _ => hless t ht
    · intro hless t ht
      cases hself : t.selfClosing with
      | true => exact hless t ht hself
      | false => exact (hadmitted t ht).2 hself

/-- As many elements as may be open, and one more inside that closes itself. -/
def deepText : String :=
  String.ofList ((List.replicate maxNesting "<JWM>".toList).flatten ++ "<JWM/>".toList ++
    (List.replicate maxNesting "</JWM>".toList).flatten)

theorem exists_parse_deepText :
    ∃ es, parse "f" deepText = .ok es ∧ ∃ p ∈ Element.walk es, p.1 = maxNesting := by
  have hfound : (elementsOf "f" deepText.toList).toOption.any
      (fun es => (Element.walk es).any (·.1 == maxNesting)) = true := by
    rw [deepText, String.toList_ofList]
    decide +kernel
  cases helements : elementsOf "f" deepText.toList with
  | error fault =>
    rw [helements] at hfound
    contradiction
  | ok es =>
    rw [helements] at hfound
    obtain ⟨p, hp, hdeep⟩ := List.any_eq_true.mp hfound
    exact ⟨es, by rw [parse, helements], p, hp, eq_of_beq hdeep⟩

/-- An element that closes itself gets in one level further down than the limit says. -/
theorem deep_element_is_accepted :
    ∃ es, parse "f" deepText = .ok es ∧ ¬ ∀ p ∈ Element.walk es, p.1 < maxNesting := by
  obtain ⟨es, hparse, p, hp, hdeep⟩ := exists_parse_deepText
  refine ⟨es, hparse, fun hless => ?_⟩
  have hshallow := hless p hp
  omega

theorem nesting_is_limited_deep :
    ∃ es, parse "f" deepText = .ok es ∧
      (∀ p ∈ Element.walk es, p.1 ≤ maxNesting ∧ (p.1 = maxNesting → p.2.children = [])) ∧
      ∃ t ∈ tagsOf deepText, t.selfClosing = true ∧ t.depth = maxNesting := by
  obtain ⟨es, hparse, p, hp, hdeep⟩ := exists_parse_deepText
  obtain ⟨-, hadmitted, hmost, hexact⟩ := nesting_is_limited hparse
  refine ⟨es, hparse, hmost, ?_⟩
  by_contra hnone
  have hless := hexact.mpr fun t ht hself =>
    Nat.lt_of_le_of_ne (hadmitted t ht).1 fun heq => hnone ⟨t, ht, hself, heq⟩
  have hshallow := hless p hp
  omega

end DeskConfig.Markup
