import DeskConfig.Proofs.Markup.Events
import DeskConfig.Proofs.Text.OneLine

/-!
What is reported of bad markup. A report shows names of tags and parts of what was read, and it
is on one line exactly if these are. For bad escapes and attributes, and for the tags that they
stand in, what is shown has a line feed in it only if what was read has one.
-/

namespace DeskConfig.Markup

open Text

section Messages

/-- What is shown of the text as it stands there. -/
def ScanError.quotes : ScanError → List String
  | .unknownSection symbol => [toString symbol]
  | _ => []

def AttributeError.quotes : AttributeError → List String
  | .openQuote _ quote => [toString quote]
  | _ => []

/-- An unknown name is not shown as it stands there, but with its line feeds escaped. -/
def EscapeError.quotes : EscapeError → List String
  | .notDecimal c => [toString c]
  | .notHexadecimal c => [toString c]
  | _ => []

/-- The names of tags that are shown. -/
def Fault.names : Fault → List String
  | .mismatch expected _ => [expected]
  | .unclosed name => [name]
  | _ => []

def Fault.quotes : Fault → List String
  | .scan cause => cause.quotes
  | .attribute cause => cause.quotes
  | .escape cause => cause.quotes
  | .mismatch _ found => [found]
  | _ => []

theorem ScanError.oneLine_message_iff (cause : ScanError) :
    OneLine cause.message ↔ ∀ q ∈ cause.quotes, OneLine q := by
  unfold message quotes
  cases cause with
  | badSection kind => cases kind <;> simp [OneLine]
  | _ => simp [OneLine, toString_string]

theorem AttributeError.oneLine_message_iff (cause : AttributeError) :
    OneLine cause.message ↔ ∀ q ∈ cause.quotes, OneLine q := by
  unfold message quotes
  cases cause <;> simp [OneLine, toString_string, not_mem_toDigits]

theorem EscapeError.feed_mem_inRange_iff (start stop : Nat) (what : String) :
    '\n' ∈ (inRange start stop what).toList ↔ '\n' ∈ what.toList := by
  unfold inRange
  simp [toString_string, not_mem_toDigits]

theorem EscapeError.oneLine_message_iff (cause : EscapeError) :
    OneLine cause.message ↔ ∀ q ∈ cause.quotes, OneLine q := by
  unfold message quotes
  cases cause <;>
    simp [OneLine, feed_mem_inRange_iff, toString_string, not_mem_toDigits, not_mem_quoted]

/-- What is reported is on one line exactly if all that is shown in it is. -/
theorem Fault.oneLine_message_iff (fault : Fault) :
    OneLine fault.message ↔ ∀ s ∈ fault.names ++ fault.quotes, OneLine s := by
  match fault with
  | .scan cause => exact cause.oneLine_message_iff
  | .attribute cause => exact cause.oneLine_message_iff
  | .escape cause => exact cause.oneLine_message_iff
  | .mismatch expected found =>
    unfold message names quotes
    simp [OneLine, toString_string]
  | .tooDeep =>
    unfold message names quotes
    simp [OneLine, toString_string, not_mem_toDigits]
  | .unclosed name =>
    unfold message names quotes
    simp [OneLine, toString_string]

end Messages

/-- What may be told of a text: names of tags, which have no line feeds in them, and parts of
the text, which have none if the text has none. -/
structure Fault.TellsOf (cs : List Char) (fault : Fault) : Prop where
  names : ∀ n ∈ fault.names, OneLine n
  quotes : '\n' ∉ cs → ∀ q ∈ fault.quotes, OneLine q

theorem Fault.TellsOf.of_subset {cs cs' : List Char} {fault : Fault} (h : fault.TellsOf cs)
    (hcs : cs ⊆ cs') : fault.TellsOf cs' :=
  ⟨h.names, fun hfeed => h.quotes fun hc => hfeed (hcs hc)⟩

/-- Most faults show nothing. -/
theorem Fault.TellsOf.of_nothing {cs : List Char} {fault : Fault} (hnames : fault.names = [])
    (hquotes : fault.quotes = []) : fault.TellsOf cs := by
  refine ⟨?_, fun _ => ?_⟩
  · rw [hnames]
    exact List.forall_mem_nil _
  · rw [hquotes]
    exact List.forall_mem_nil _

theorem Fault.TellsOf.of_char {cs : List Char} {fault : Fault} {c : Char}
    (hnames : fault.names = []) (hquotes : fault.quotes = [toString c])
    (hc : c = '\n' → '\n' ∈ cs) : fault.TellsOf cs := by
  refine ⟨?_, fun hfeed => ?_⟩
  · rw [hnames]
    exact List.forall_mem_nil _
  · rw [hquotes, List.forall_mem_singleton, oneLine_char]
    exact mt hc hfeed

section Escapes

variable {cs : List Char} {start stop : Nat} {cause : EscapeError}

/-- The byte that a line feed is begins no other character. -/
theorem leadChar_eq_feed_iff {c : Char} : leadChar c = '\n' ↔ c = '\n' := by
  have hbyte : ∀ {n : Nat}, Char.ofNat n = '\n' → n = 10 := by
    intro n h
    by_cases hn : n.isValidChar
    · rw [Char.ofNat, dif_pos hn] at h
      exact congrArg Char.toNat h
    · rw [Char.ofNat, dif_neg hn] at h
      contradiction
  constructor
  · intro h
    have hlead := hbyte h
    unfold leadByte at hlead
    simp only at hlead
    split at hlead
    · exact Char.toNat_inj.mp hlead
    · split at hlead
      · omega
      · split at hlead <;> omega
  · rintro rfl
    decide

theorem tellsOf_of_codeFrom {base value : Nat} {digit? : Char → Option Nat}
    {wrong : Char → EscapeError} (hwrong : ∀ c, (wrong c).quotes = [toString c])
    (h : codeFrom base digit? wrong value cs = .error cause) :
    Fault.TellsOf cs (.escape cause) := by
  induction cs generalizing value with
  | nil => contradiction
  | cons c cs ih =>
    rw [codeFrom] at h
    split at h
    · exact (ih h).of_subset (List.subset_cons_self _ _)
    · cases h
      refine .of_char rfl (hwrong (leadChar c)) fun hlead => ?_
      exact leadChar_eq_feed_iff.mp hlead ▸ List.mem_cons_self

theorem tellsOf_of_decimalCode (h : decimalCode cs = .error cause) :
    Fault.TellsOf cs (.escape cause) := by
  unfold decimalCode at h
  split at h
  · cases h
    exact .of_nothing rfl rfl
  · exact tellsOf_of_codeFrom (fun _ => rfl) h

theorem tellsOf_of_hexadecimalCode (h : hexadecimalCode cs = .error cause) :
    Fault.TellsOf cs (.escape cause) := by
  unfold hexadecimalCode at h
  split at h
  · cases h
    exact .of_nothing rfl rfl
  · exact tellsOf_of_codeFrom (fun _ => rfl) h

theorem tellsOf_of_character {code : Nat} (h : character start stop code = .error cause) :
    Fault.TellsOf cs (.escape cause) := by
  unfold character at h
  split at h
  · cases h
    exact .of_nothing rfl rfl
  split at h
  · contradiction
  · cases h
    exact .of_nothing rfl rfl

theorem tellsOf_of_entity (h : entity start stop cs = .error cause) :
    Fault.TellsOf cs (.escape cause) := by
  unfold entity at h
  split at h
  · next digits =>
    cases hcode : hexadecimalCode digits with
    | error found =>
      rw [hcode] at h
      cases h
      exact (tellsOf_of_hexadecimalCode hcode).of_subset (by simp)
    | ok code =>
      rw [hcode] at h
      exact tellsOf_of_character h
  · next digits _ =>
    cases hcode : decimalCode digits with
    | error found =>
      rw [hcode] at h
      cases h
      exact (tellsOf_of_decimalCode hcode).of_subset (by simp)
    | ok code =>
      rw [hcode] at h
      exact tellsOf_of_character h
  · split at h
    · contradiction
    · cases h
      exact .of_nothing rfl rfl

/-- The name of an escape that is being read counts like what is still to be read. -/
theorem tellsOf_of_unescapeFrom {size pos : Nat} {open? : Option (Nat × List Char)}
    (h : unescapeFrom size open? pos cs = .error cause) :
    Fault.TellsOf ((open?.map (·.2)).getD [] ++ cs) (.escape cause) := by
  induction cs generalizing open? pos with
  | nil =>
    cases open? with
    | none => contradiction
    | some escape =>
      cases h
      exact .of_nothing rfl rfl
  | cons c cs ih =>
    have hlater : ∀ {pos : Nat} {decoded : Char},
        (do return decoded :: (← unescapeFrom size none pos cs)) = Except.error cause →
        Fault.TellsOf cs (.escape cause) := by
      intro pos decoded h
      cases hrest : unescapeFrom size none pos cs with
      | ok rest =>
        rw [hrest] at h
        contradiction
      | error found =>
        rw [hrest] at h
        cases h
        exact ih hrest
    -- Past an escape nothing of its name can be reported any more.
    cases open? with
    | none =>
      rw [unescapeFrom] at h
      split at h
      · exact (ih h).of_subset (by simp)
      · exact (hlater h).of_subset (by simp)
    | some escape =>
      obtain ⟨start, name⟩ := escape
      rw [unescapeFrom] at h
      split at h
      · cases h
        exact .of_nothing rfl rfl
      split at h
      · cases hentity : entity start pos name.reverse with
        | error found =>
          rw [hentity] at h
          cases h
          exact (tellsOf_of_entity hentity).of_subset (by simp)
        | ok decoded =>
          rw [hentity] at h
          exact (hlater h).of_subset (by simp)
      · exact (ih h).of_subset (by simp)

theorem tellsOf_of_unescape {raw : List Char}
    (h : unescape raw = .error cause) : Fault.TellsOf raw (.escape cause) :=
  tellsOf_of_unescapeFrom h

end Escapes

/-- What was read of an attribute before this state: its value and the quote in front of it. -/
def AttributeState.taken : AttributeState → List Char
  | .value _ quote cs => quote :: cs
  | _ => []

/-- All that scanning finds is part of a text. -/
structure AttributeScan.Within (cs : List Char) (s : AttributeScan) : Prop where
  values : ∀ a ∈ s.attributes, a.value ⊆ cs
  failure : ∀ cause, s.failure = some cause → Fault.TellsOf cs (.attribute cause)

section Attributes

variable {cs cs' content : List Char} {s : AttributeScan}

theorem AttributeScan.Within.of_subset (h : s.Within cs) (hcs : cs ⊆ cs') : s.Within cs' :=
  ⟨fun a ha => List.Subset.trans (h.values a ha) hcs,
    fun cause hcause => (h.failure cause hcause).of_subset hcs⟩

theorem AttributeScan.Within.cons {a : RawAttribute} (ha : a.value ⊆ cs) (h : s.Within cs) :
    (s.cons a).Within cs :=
  ⟨List.forall_mem_cons.mpr ⟨ha, h.values⟩, h.failure⟩

/-- Nothing was found but an error of which nothing is shown. -/
theorem within_of_failure {cause : AttributeError} (h : cause.quotes = []) :
    AttributeScan.Within cs { attributes := [], failure := some cause } := by
  refine ⟨List.forall_mem_nil _, ?_⟩
  rintro _ ⟨⟩
  exact .of_nothing rfl h

theorem within_unfinished (size : Nat) (state : AttributeState) :
    AttributeScan.Within state.taken { attributes := [], failure := state.unfinished? size } := by
  cases state with
  | between => exact ⟨List.forall_mem_nil _, nofun⟩
  | value name quote value =>
    refine ⟨List.forall_mem_nil _, ?_⟩
    rintro _ ⟨⟩
    exact .of_char rfl rfl fun hquote => hquote ▸ List.mem_cons_self
  | _ => exact within_of_failure rfl

theorem within_scanAttributesFrom (size : Nat) (state : AttributeState) (pos : Nat) :
    (scanAttributesFrom size state pos cs).Within (state.taken ++ cs) := by
  induction cs generalizing state pos with
  | nil =>
    rw [scanAttributesFrom, List.append_nil]
    exact within_unfinished size state
  | cons c cs ih =>
    cases state with
    | between =>
      rw [scanAttributesFrom]
      split <;> exact (ih _ _).of_subset (List.subset_cons_self _ _)
    | name name =>
      rw [scanAttributesFrom]
      split
      · exact (ih _ _).of_subset (List.subset_cons_self _ _)
      split <;> exact (ih _ _).of_subset (List.subset_cons_self _ _)
    | beforeEquals name =>
      rw [scanAttributesFrom]
      split
      · exact (ih _ _).of_subset (List.subset_cons_self _ _)
      split
      · exact (ih _ _).of_subset (List.subset_cons_self _ _)
      · exact within_of_failure rfl
    | beforeValue name =>
      rw [scanAttributesFrom]
      split
      · exact (ih _ _).of_subset (List.subset_cons_self _ _)
      split
      · exact ih (.value name c []) _
      · exact within_of_failure rfl
    | value name quote value =>
      rw [scanAttributesFrom]
      split
      · refine .cons ?_ ((ih .between _).of_subset ?_)
        · simp [AttributeState.taken]
        · exact List.subset_append_of_subset_right _ (List.subset_cons_self _ _)
      · refine (ih (.value name quote (c :: value)) _).of_subset fun _ hc => ?_
        simp only [AttributeState.taken, List.mem_append, List.mem_cons] at hc ⊢
        grind

theorem tellsOf_of_decodeAttributes {failure : Option AttributeError} {raws : List RawAttribute}
    {fault : Fault} (hscan : AttributeScan.Within cs { attributes := raws, failure })
    (h : decodeAttributes failure raws = .error fault) : fault.TellsOf cs := by
  induction raws with
  | nil =>
    cases failure with
    | none => contradiction
    | some cause =>
      cases h
      exact hscan.failure cause rfl
  | cons raw raws ih =>
    obtain ⟨hraw, hraws⟩ := List.forall_mem_cons.mp hscan.values
    rw [decodeAttributes] at h
    cases hvalue : unescape raw.value with
    | error cause =>
      rw [hvalue] at h
      cases h
      exact (tellsOf_of_unescape hvalue).of_subset hraw
    | ok value =>
      rw [hvalue] at h
      cases hrest : decodeAttributes failure raws with
      | ok rest =>
        rw [hrest] at h
        contradiction
      | error found =>
        rw [hrest] at h
        cases h
        exact ih ⟨hraws, hscan.failure⟩ hrest

theorem tellsOf_of_openElement {origin : Origin} {fault : Fault}
    (h : openElement content origin = .error fault) : fault.TellsOf content := by
  have hscan : (scanAttributes content).Within content :=
    (within_scanAttributesFrom _ .between _).of_subset (List.dropWhile_subset _)
  unfold openElement readAttributes at h
  cases hattributes : decodeAttributes (scanAttributes content).failure
      (scanAttributes content).attributes with
  | ok attributes =>
    simp only [hattributes] at h
    contradiction
  | error found =>
    simp only [hattributes] at h
    cases h
    exact tellsOf_of_decodeAttributes hscan hattributes

/-- The name of an element ends at the first blank. -/
theorem oneLine_of_openElement {origin : Origin} {opened : OpenElement}
    (h : openElement content origin = .ok opened) : OneLine opened.tag.spelling := by
  obtain ⟨-, hname, -⟩ := openElement_eq_ok h
  rw [hname, oneLine_ofList]
  intro hfeed
  have hblank := List.all_eq_true.mp List.all_takeWhile _ hfeed
  contradiction

end Attributes

end DeskConfig.Markup
