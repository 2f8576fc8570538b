import DeskConfig.Diagnostic
import DeskConfig.Proofs.Markup.Faults

/-!
What a warning shows. Its message puts three kinds of things into fixed words: names, of tags
and of what is read; sources, that is paths, commands and labels; and quotes, which come as they
are from the texts and the attribute values of elements or from bad markup. A warning is on one
line exactly if all that it shows is.
-/

namespace DeskConfig

open Markup (Element)
open Text (OneLine)

theorem oneLine_place_iff (file : String) (line : Nat) :
    OneLine s!"{file}[{line}]: " ↔ OneLine file := by
  simp [OneLine, Text.toString_string, Text.not_mem_toDigits]

namespace IncludeError

def names : IncludeError → List String
  | .markup cause => cause.fault.names
  | _ => []

def sources : IncludeError → List String
  | .undefinedVariable _ _ => []
  | .unreadable path => [path]
  | .notStarted command => [command]
  | .markup cause => [cause.origin.file]

def quotes : IncludeError → List String
  | .undefinedVariable reference name => [reference, name]
  | .markup cause => cause.fault.quotes
  | _ => []

theorem oneLine_message_iff (cause : IncludeError) :
    OneLine cause.message ↔ ∀ s ∈ cause.names ++ cause.sources ++ cause.quotes, OneLine s := by
  cases cause with
  | undefinedVariable reference name =>
    unfold message expansionMessage undefinedMessage names sources quotes
    simp [OneLine, Text.toString_string]
  | markup cause =>
    change OneLine (s!"{cause.origin.file}[{cause.origin.line}]: " ++ cause.fault.message) ↔
      ∀ s ∈ cause.fault.names ++ [cause.origin.file] ++ cause.fault.quotes, OneLine s
    rw [Text.oneLine_append, oneLine_place_iff, cause.fault.oneLine_message_iff]
    simp only [List.forall_mem_append, List.forall_mem_singleton]
    rw [and_left_comm, and_assoc]
  | unreadable path =>
    unfold message names sources quotes
    simp [OneLine, Text.toString_string]
  | notStarted command =>
    unfold message names sources quotes
    simp [OneLine, Text.toString_string]

end IncludeError

namespace Problem

/-- The names that are shown: those of elements, and the words for what is read. -/
def names : Problem → List String
  | .invalidStartTag name => [name]
  | .invalidTag parent name => [parent, name]
  | .missingText name => [name]
  | .invalidValue what _ => [what]
  | .invalidMode what _ => [what]
  | .missingMode what => [what]
  | .failedInclude cause => cause.names
  | .markup cause => cause.names
  | _ => []

/-- The paths, commands and labels that are shown. -/
def sources : Problem → List String
  | .unreadableInclude label => [label]
  | .failedInclude cause => cause.sources
  | .fatal (.noRootConfig primary fallback) => [primary, fallback]
  | _ => []

/-- What is shown as it stands in a document. -/
def quotes : Problem → List String
  | .invalidValue _ value => [value]
  | .invalidMode _ value => [value]
  | .invalidOption text => [text]
  | .invalidModifier c => [toString c]
  | .missingMenu _ (.undefined slot) => [toString slot]
  | .invalidSlot c => [toString c]
  | .noSlots text => [text]
  | .invalidMenu reference => [reference]
  | .failedInclude cause => cause.quotes
  | .markup cause => cause.quotes
  | .repeatedSwallow name => [name]
  | _ => []

theorem oneLine_message_iff (p : Problem) :
    OneLine p.message ↔ ∀ s ∈ p.names ++ p.sources ++ p.quotes, OneLine s := by
  cases p with
  | missingMenu referrer cause =>
    cases referrer <;> cases cause <;> unfold message MissingMenu.message names sources quotes <;>
      simp [OneLine, Text.toString_string]
  | failedInclude cause => exact cause.oneLine_message_iff
  | markup cause =>
    change OneLine cause.message ↔ ∀ s ∈ cause.names ++ [] ++ cause.quotes, OneLine s
    rw [List.append_nil, cause.oneLine_message_iff]
  | fatal cause =>
    cases cause <;> unfold message LoadError.message names sources quotes <;>
      simp [OneLine, Text.toString_string, Text.not_mem_toDigits]
  | _ =>
    unfold message names sources quotes
    simp [OneLine, Text.toString_string, Text.not_mem_toDigits]

end Problem

namespace Diagnostic

def sources (d : Diagnostic) : List String :=
  (d.origin.map (·.file)).toList ++ d.problem.sources

/-- A warning is on one line exactly if all that it shows is. -/
theorem oneLine_render_iff (d : Diagnostic) :
    OneLine d.render ↔ (∀ n ∈ d.problem.names, OneLine n) ∧ (∀ s ∈ d.sources, OneLine s) ∧
      ∀ q ∈ d.problem.quotes, OneLine q := by
  obtain ⟨origin, problem⟩ := d
  have hmessage := problem.oneLine_message_iff
  simp only [List.forall_mem_append, and_assoc] at hmessage
  cases origin with
  | none =>
    change OneLine ("configuration error: " ++ problem.message) ↔ _
    rw [Text.oneLine_append, hmessage]
    simp [sources, OneLine]
  | some o =>
    change OneLine (s!"{o.file}[{o.line}]: " ++ problem.message) ↔ _
    rw [Text.oneLine_append, oneLine_place_iff, hmessage]
    simp [sources, and_left_comm, and_assoc]

end Diagnostic

/-- No element has a name with a line feed in it. -/
def Markup.Spelled (es : List Element) : Prop := ∀ e ∈ es, OneLine e.name

/-- The text of an element or the value of one of its attributes. -/
def Markup.Element.Holds (e : Element) (v : String) : Prop :=
  e.text = some v ∨ ∃ a ∈ e.attributes, a.value = v

/-- What stands in something that an element holds. -/
def Markup.Element.Shows (e : Element) (s : String) : Prop :=
  ∃ v, e.Holds v ∧ s.toList <:+: v.toList

/-- A problem of an element shows no names but those on one line, and quotes what the element
holds. -/
structure Problem.Regards (e : Element) (p : Problem) : Prop where
  names : ∀ n ∈ p.names, OneLine n
  quotes : ∀ q ∈ p.quotes, e.Shows q

section Elements

variable {e : Element} {v what : String}

theorem Markup.Element.Holds.of_attribute {name : String} (h : e.attribute? name = some v) :
    e.Holds v := by
  obtain ⟨a, ha, rfl⟩ := Option.map_eq_some_iff.mp h
  exact .inr ⟨a, List.mem_of_find?_eq_some ha, rfl⟩

theorem Markup.Element.Holds.shows (h : e.Holds v) : e.Shows v := ⟨v, h, List.infix_rfl⟩

theorem Markup.Element.Holds.shows_char (h : e.Holds v) {c : Char} (hc : c ∈ v.toList) :
    e.Shows (toString c) := by
  obtain ⟨before, after, hv⟩ := List.append_of_mem hc
  refine ⟨v, h, before, after, ?_⟩
  rw [hv, Text.toList_char, List.append_assoc, List.singleton_append]

/-- The words for an attribute. -/
theorem oneLine_attribute {name : String} (he : OneLine e.name) (hname : OneLine name) :
    OneLine s!"{e.name} {name}" := by
  simp only [Text.oneLine_append, Text.toString_string]
  exact ⟨⟨he, by decide⟩, hname⟩

namespace Problem.Regards

theorem of_plain {p : Problem} (hnames : p.names = []) (hquotes : p.quotes = []) :
    p.Regards e := by
  constructor
  · rw [hnames]
    exact List.forall_mem_nil _
  · rw [hquotes]
    exact List.forall_mem_nil _

theorem of_quote {p : Problem} {q : String} (hnames : p.names = []) (hquotes : p.quotes = [q])
    (hq : e.Shows q) : p.Regards e := by
  constructor
  · rw [hnames]
    exact List.forall_mem_nil _
  · rw [hquotes]
    exact List.forall_mem_singleton.mpr hq

theorem invalidTag {parent : Markup.Tag} (hparent : OneLine parent.spelling)
    (he : OneLine e.name) : (Problem.invalidTag parent.spelling e.name).Regards e where
  names := List.forall_mem_cons.mpr ⟨hparent, List.forall_mem_singleton.mpr he⟩
  quotes := List.forall_mem_nil _

theorem missingText (he : OneLine e.name) : (Problem.missingText e.name).Regards e where
  names := List.forall_mem_singleton.mpr he
  quotes := List.forall_mem_nil _

theorem invalidValue (hwhat : OneLine what) (hv : e.Holds v) :
    (Problem.invalidValue what v).Regards e where
  names := List.forall_mem_singleton.mpr hwhat
  quotes := List.forall_mem_singleton.mpr hv.shows

theorem invalidMode (hwhat : OneLine what) (hv : e.Holds v) :
    (Problem.invalidMode what v).Regards e where
  names := List.forall_mem_singleton.mpr hwhat
  quotes := List.forall_mem_singleton.mpr hv.shows

theorem missingMode (hwhat : OneLine what) : (Problem.missingMode what).Regards e where
  names := List.forall_mem_singleton.mpr hwhat
  quotes := List.forall_mem_nil _

end Problem.Regards

end Elements

end DeskConfig
