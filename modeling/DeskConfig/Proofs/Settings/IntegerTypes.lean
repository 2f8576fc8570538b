import DeskConfig.Proofs.Markup.Trimming
import DeskConfig.Proofs.Text.FixedWidth
import DeskConfig.Reading

/-!
Numbers of a type. A setting has a type of integers and a range within it, and its number is
read into the type before it is compared with the range. The settings are read without a width:
whatever the type is, that comes to the same number, the same fallback and the same warnings.
-/

namespace DeskConfig

open Markup (Element)

namespace Text

section Numerals

variable {signed negative : Bool} {cs ds : List Char} {n : Int}

theorem isBlank_of_isDigit {c : Char} (h : c.isDigit = true) : isBlank c = false := by
  simp only [Char.isDigit, Bool.and_eq_true, decide_eq_true_eq, ge_iff_le,
    UInt32.le_iff_toNat_le] at h
  change 48 ≤ c.toNat ∧ c.toNat ≤ 57 at h
  simp only [isBlank, Bool.or_eq_false_iff, Bool.and_eq_false_iff, decide_eq_false_iff_not,
    beq_eq_false_iff_ne]
  omega

theorem Digits.trimmed (h : Digits negative ds n) : Trimmed ds := by
  obtain ⟨hne, hdigits, -⟩ := h
  constructor
  · obtain ⟨c, rest, rfl⟩ := List.exists_cons_of_ne_nil hne
    exact ⟨c, rfl, isBlank_of_isDigit (hdigits c List.mem_cons_self)⟩
  · exact ⟨ds.getLast hne, List.getLast?_eq_some_getLast hne,
      isBlank_of_isDigit (hdigits _ (List.getLast_mem hne))⟩

theorem Trimmed.cons {c : Char} (h : Trimmed cs) (hc : isBlank c = false) : Trimmed (c :: cs) := by
  obtain ⟨d, hd, hblank⟩ := h.last
  exact ⟨⟨c, rfl, hc⟩, d, by rw [List.getLast?_cons, hd]; rfl, hblank⟩

theorem IntegerNumeral.trimmed (h : IntegerNumeral signed cs n) : Trimmed cs := by
  cases h with
  | bare hdigits => exact hdigits.trimmed
  | plus hdigits => exact hdigits.trimmed.cons (by decide)
  | minus _ hdigits => exact hdigits.trimmed.cons (by decide)

end Numerals

namespace IntegerType

/-- A text that writes an integer, with nothing but blanks around it. -/
def Writes (t : IntegerType) (value : String) (n : Int) : Prop :=
  ∃ cs, Padded cs value.toList ∧ IntegerNumeral t.signed cs n

theorem writes_iff {t : IntegerType} {value : String} {n : Int} :
    t.Writes value n ↔ IntegerNumeral t.signed (trim value.toList) n := by
  constructor
  · rintro ⟨cs, hpadded, hnumeral⟩
    rwa [hpadded.trim_eq hnumeral.trimmed]
  · exact fun hnumeral => ⟨_, padded_trim _, hnumeral⟩

end IntegerType

end Text

namespace Reading

open Text (IntegerType)

section Maps

variable {α β : Type}

/-- What was read, or a warning if it was not. -/
def orWarn (e : Element) (problem : Problem) (found : Option α) : Reading (Option α) :=
  match found with
  | some a => pure (some a)
  | none => do
    warn e problem
    return none

theorem map_orWarn (f : α → β) (e : Element) (problem : Problem) (found : Option α) :
    Option.map f <$> orWarn e problem found = orWarn e problem (found.map f) := by
  cases found <;> rfl

theorem value_orWarn (e : Element) (problem : Problem) (found : Option α) :
    (orWarn e problem found).value = found := by
  cases found <;> rfl

theorem warnings_orWarn (e : Element) (problem : Problem) (found : Option α) :
    (orWarn e problem found).warnings =
      if found.isSome then [] else [.located e.origin problem] := by
  cases found <;> rfl

theorem natural_eq (e : Element) (what value : String) (low high : Nat) :
    natural e what value low high = orWarn e (.invalidValue what value)
      (Text.naturalIn? low high (Text.trim value.toList)) := by
  unfold natural
  cases Text.naturalIn? low high (Text.trim value.toList) <;> rfl

theorem integer_eq (e : Element) (what value : String) (low high : Int) :
    integer e what value low high = orWarn e (.invalidValue what value)
      (Text.integerIn? low high (Text.trim value.toList)) := by
  unfold integer
  cases Text.integerIn? low high (Text.trim value.toList) <;> rfl

theorem map_getD (f : α → β) (r : Reading (Option α)) (default : α) :
    f <$> (do return (← r).getD default : Reading α) =
      (do return (← Option.map f <$> r).getD (f default) : Reading β) := by
  obtain ⟨value, warnings⟩ := r
  cases value <;> rfl

end Maps

/-- A number of the type between `low` and `high`. -/
def ranged (t : IntegerType) (e : Element) (what value : String) (low high : t.Value) :
    Reading (Option t.Value) :=
  orWarn e (.invalidValue what value) (t.readIn? low high (Text.trim value.toList))

/-- A number attribute of the type, or `default` if it is absent or bad. -/
def rangedAttribute (t : IntegerType) (e : Element) (name : String) (low high default : t.Value) :
    Reading t.Value :=
  match e.attribute? name with
  | none => pure default
  | some value => do
    return (← ranged t e s!"{e.name} {name}" value low high).getD default

section Types

variable {t : IntegerType} {e : Element} {what value name : String} {low high default : t.Value}

theorem value_ranged_eq_some_iff {n : Int} :
    (ranged t e what value low high).value.map (·.val) = some n ↔
      t.Writes value n ∧ low.val ≤ n ∧ n ≤ high.val := by
  rw [ranged, value_orWarn, IntegerType.readIn?_eq_some_iff, IntegerType.writes_iff]

/-- Reading a type with signs is reading an integer of any width. -/
theorem integer_eq_map_ranged (hsigned : t.signed = true) (e : Element) (what value : String)
    (low high : t.Value) : integer e what value low.val high.val =
      Option.map IntegerType.Value.val <$> ranged t e what value low high := by
  have hread : (t.readIn? low high (Text.trim value.toList)).map (·.val) =
      Text.integerIn? low.val high.val (Text.trim value.toList) := by
    refine Option.ext fun n => ?_
    rw [IntegerType.readIn?_eq_some_iff, Text.integerIn?_eq_some_iff, hsigned]
  rw [ranged, integer_eq, map_orWarn, hread]

theorem val_nonneg (hsigned : t.signed = false) (v : t.Value) : 0 ≤ v.val := by
  have hleast : t.least ≤ v.val := v.holds.1
  rwa [IntegerType.least, hsigned, if_neg Bool.false_ne_true] at hleast

/-- Reading a type without signs is reading a natural of any width. -/
theorem natural_eq_map_ranged (hsigned : t.signed = false) (e : Element) (what value : String)
    (low high : t.Value) :
    Option.map Nat.cast <$> natural e what value low.val.toNat high.val.toNat =
      Option.map IntegerType.Value.val <$> ranged t e what value low high := by
  have hread : (t.readIn? low high (Text.trim value.toList)).map (·.val) =
      (Text.naturalIn? low.val.toNat high.val.toNat (Text.trim value.toList)).map Nat.cast := by
    refine Option.ext fun n => ?_
    rw [IntegerType.readIn?_eq_some_iff, hsigned, Text.integerNumeral_false_iff]
    simp only [Option.map_eq_some_iff, Text.naturalIn?_eq_some_iff, Int.toNat_le,
      Int.le_toNat (val_nonneg hsigned high)]
    constructor
    · rintro ⟨⟨m, hnumeral, rfl⟩, hrange⟩
      exact ⟨m, ⟨hnumeral, hrange⟩, rfl⟩
    · rintro ⟨m, ⟨hnumeral, hrange⟩, rfl⟩
      exact ⟨⟨m, hnumeral, rfl⟩, hrange⟩
  rw [ranged, natural_eq, map_orWarn, map_orWarn, hread]

theorem integerAttribute_eq_map_ranged (hsigned : t.signed = true) (e : Element) (name : String)
    (low high default : t.Value) : integerAttribute e name low.val high.val default.val =
      IntegerType.Value.val <$> rangedAttribute t e name low high default := by
  unfold integerAttribute rangedAttribute
  cases e.attribute? name with
  | none => rfl
  | some value =>
    simp only [integer_eq_map_ranged hsigned]
    exact (map_getD _ _ _).symm

theorem naturalAttribute_eq_map_ranged (hsigned : t.signed = false) (e : Element) (name : String)
    (low high default : t.Value) :
    Nat.cast <$> naturalAttribute e name low.val.toNat high.val.toNat default.val.toNat =
      IntegerType.Value.val <$> rangedAttribute t e name low high default := by
  have hdefault : ((default.val.toNat : Nat) : Int) = default.val :=
    Int.toNat_of_nonneg (val_nonneg hsigned default)
  unfold naturalAttribute rangedAttribute
  cases e.attribute? name with
  | none => exact congrArg pure hdefault
  | some value =>
    refine (map_getD _ _ _).trans ?_
    simp only [natural_eq_map_ranged hsigned, hdefault]
    exact (map_getD _ _ _).symm

/-- The first attribute of a name is the one that counts. -/
theorem attribute?_of_first {before after : List Markup.Attribute} {given : Markup.Attribute}
    (h : e.attributes = before ++ given :: after) (hname : given.name = name)
    (hbefore : ∀ a ∈ before, a.name ≠ name) : e.attribute? name = some given.value := by
  have hskip : before.find? (·.name == name) = none :=
    List.find?_eq_none.mpr fun a ha => by simp [hbefore a ha]
  simp [Markup.Element.attribute?, h, List.find?_append, hskip, hname]

theorem attribute?_of_absent (h : ∀ a ∈ e.attributes, a.name ≠ name) :
    e.attribute? name = none := by
  have hnone : e.attributes.find? (·.name == name) = none :=
    List.find?_eq_none.mpr fun a ha => by simp [h a ha]
  rw [Markup.Element.attribute?, hnone, Option.map_none]

/-- A number of any type is read exactly. What comes of a value is the number that it writes as
digits behind a sign of the type, however many they are, with nothing but blanks around them, if
that number is in the range. Otherwise nothing comes of it but one warning at the element, which
quotes the value as it stands. The first attribute of a name is read in this way, and an
attribute that is missing or bad gives the default. The settings read their numbers without a
width and come to the same. -/
theorem numbers_are_read_exactly (t : IntegerType) (e : Element) (what value name : String)
    (low high default : t.Value) :
    let r := ranged t e what value low high
    let a := rangedAttribute t e name low high default
    (∀ n : Int, r.value.map (·.val) = some n ↔
      t.Writes value n ∧ low.val ≤ n ∧ n ≤ high.val) ∧
    (r.value ≠ none → r.warnings = []) ∧
    (r.value = none → ∃ d, r.warnings = [d] ∧ d.origin = some e.origin ∧
      d.message = "invalid " ++ what ++ ": \"" ++ value ++ "\"") ∧
    (∀ before given after, e.attributes = before ++ given :: after → given.name = name →
      (∀ b ∈ before, b.name ≠ name) →
      a = (·.getD default) <$> ranged t e (e.name ++ " " ++ name) given.value low high) ∧
    ((∀ given ∈ e.attributes, given.name ≠ name) → a = pure default) ∧
    (t.signed = true → integer e what value low.val high.val = Option.map (·.val) <$> r ∧
      integerAttribute e name low.val high.val default.val = (·.val) <$> a) ∧
    (t.signed = false →
      Option.map Nat.cast <$> natural e what value low.val.toNat high.val.toNat =
        Option.map (·.val) <$> r ∧
      Nat.cast <$> naturalAttribute e name low.val.toNat high.val.toNat default.val.toNat =
        (·.val) <$> a) := by
  refine ⟨fun n => value_ranged_eq_some_iff, fun hread => ?_, fun hread => ?_, ?_,
    fun habsent => ?_,
    fun hsigned => ⟨integer_eq_map_ranged hsigned _ _ _ _ _,
      integerAttribute_eq_map_ranged hsigned _ _ _ _ _⟩,
    fun hsigned => ⟨natural_eq_map_ranged hsigned _ _ _ _ _,
      naturalAttribute_eq_map_ranged hsigned _ _ _ _ _⟩⟩
  · rw [ranged, value_orWarn] at hread
    rw [ranged, warnings_orWarn, if_pos (Option.isSome_iff_ne_none.mpr hread)]
  · rw [ranged, value_orWarn] at hread
    refine ⟨.located e.origin (.invalidValue what value), ?_, rfl, rfl⟩
    rw [ranged, warnings_orWarn, hread]
    rfl
  · intro before given after hattributes hname hbefore
    simp only [rangedAttribute, attribute?_of_first hattributes hname hbefore]
    rfl
  · simp only [rangedAttribute, attribute?_of_absent habsent]

end Types

end Reading

end DeskConfig
