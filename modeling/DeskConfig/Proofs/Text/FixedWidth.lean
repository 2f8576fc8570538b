import DeskConfig.Proofs.Text.Numerals

/-!
Integers of a fixed width. A type of integers holds those of so many bits, with or without a
sign. A number is read into it one digit after the other, and each step of the arithmetic is
given up when the type does not hold its result. No digit that follows brings such a number
back, so what is given up is exactly what the type does not hold.
-/

namespace DeskConfig.Text

/-- A number with a minus before its digits or without one. -/
def withSign (negative : Bool) (n : Nat) : Int := if negative then -(n : Int) else n

/-- A run of digits that writes a number, behind a minus or not. -/
def Digits (negative : Bool) (ds : List Char) (n : Int) : Prop :=
  ds ≠ [] ∧ (∀ d ∈ ds, d.isDigit = true) ∧ withSign negative (decimal ds) = n

/-- A text that writes an integer. Only where there are signs may it have a minus. -/
inductive IntegerNumeral (signed : Bool) : List Char → Int → Prop
  | bare {ds : List Char} {n : Int} : Digits false ds n → IntegerNumeral signed ds n
  | plus {ds : List Char} {n : Int} : Digits false ds n → IntegerNumeral signed ('+' :: ds) n
  | minus {ds : List Char} {n : Int} : signed = true → Digits true ds n →
      IntegerNumeral signed ('-' :: ds) n

section Numerals

variable {signed negative : Bool} {cs ds : List Char} {n : Int}

theorem not_digits_cons {c : Char} (hc : c.isDigit = false) : ¬ Digits negative (c :: ds) n := by
  rintro ⟨-, hdigits, -⟩
  exact absurd (hdigits c List.mem_cons_self) (by simp [hc])

theorem integerNumeral_plus_iff :
    IntegerNumeral signed ('+' :: ds) n ↔ Digits false ds n := by
  constructor
  · intro h
    cases h with
    | bare hdigits => exact absurd hdigits (not_digits_cons (by decide))
    | plus hdigits => exact hdigits
  · exact .plus

theorem integerNumeral_minus_iff :
    IntegerNumeral signed ('-' :: ds) n ↔ signed = true ∧ Digits true ds n := by
  constructor
  · intro h
    cases h with
    | bare hdigits => exact absurd hdigits (not_digits_cons (by decide))
    | minus hsigned hdigits => exact ⟨hsigned, hdigits⟩
  · rintro ⟨hsigned, hdigits⟩
    exact .minus hsigned hdigits

theorem integerNumeral_bare_iff (hplus : ∀ ds, cs ≠ '+' :: ds) (hminus : ∀ ds, cs ≠ '-' :: ds) :
    IntegerNumeral signed cs n ↔ Digits false cs n := by
  constructor
  · intro h
    cases h with
    | bare hdigits => exact hdigits
    | plus => exact absurd rfl (hplus _)
    | minus => exact absurd rfl (hminus _)
  · exact .bare

/-- Without signs, the numerals are those of naturals. -/
theorem integerNumeral_false_iff :
    IntegerNumeral false cs n ↔ ∃ m : Nat, Numeral cs m ∧ (m : Int) = n := by
  constructor
  · intro h
    cases h with
    | bare hdigits => exact ⟨_, ⟨_, .inl rfl, hdigits.1, hdigits.2.1, rfl⟩, hdigits.2.2⟩
    | plus hdigits => exact ⟨_, ⟨_, .inr rfl, hdigits.1, hdigits.2.1, rfl⟩, hdigits.2.2⟩
    | minus hsigned => contradiction
  · rintro ⟨m, ⟨ds, rfl | rfl, hne, hdigits, rfl⟩, rfl⟩
    · exact .bare ⟨hne, hdigits, rfl⟩
    · exact .plus ⟨hne, hdigits, rfl⟩

theorem map_digits?_eq_some_iff :
    (digits? ds).map (withSign negative) = some n ↔ Digits negative ds n := by
  simp only [Option.map_eq_some_iff, digits?_eq_some_iff]
  constructor
  · rintro ⟨m, ⟨hne, hdigits, rfl⟩, hn⟩
    exact ⟨hne, hdigits, hn⟩
  · rintro ⟨hne, hdigits, hn⟩
    exact ⟨_, ⟨hne, hdigits, rfl⟩, hn⟩

theorem integerNumeral_of_ne (hminus : ∀ ds, cs ≠ '-' :: ds) :
    IntegerNumeral true cs n ↔ IntegerNumeral false cs n := by
  constructor
  · intro h
    cases h with
    | bare hdigits => exact .bare hdigits
    | plus hdigits => exact .plus hdigits
    | minus => exact absurd rfl (hminus _)
  · intro h
    cases h with
    | bare hdigits => exact .bare hdigits
    | plus hdigits => exact .plus hdigits
    | minus hsigned => contradiction

/-- Reading with a sign takes exactly the texts that write an integer. -/
theorem integer?_eq_some_iff : integer? cs = some n ↔ IntegerNumeral true cs n := by
  unfold integer?
  split
  · next ds =>
    rw [integerNumeral_minus_iff, ← map_digits?_eq_some_iff]
    cases digits? ds <;> simp [withSign]
  · next hminus =>
    simp only [integerNumeral_of_ne hminus, integerNumeral_false_iff, ← natural?_eq_some_iff]
    cases natural? cs <;> simp

end Numerals

theorem integerIn?_eq_some_iff {low high n : Int} {cs : List Char} :
    integerIn? low high cs = some n ↔ IntegerNumeral true cs n ∧ low ≤ n ∧ n ≤ high := by
  rw [integerIn?, Option.filter_eq_some_iff, integer?_eq_some_iff, Bool.and_eq_true,
    decide_eq_true_eq, decide_eq_true_eq]

/-- A type of integers: those of so many bits. -/
structure IntegerType where
  signed : Bool
  bits : Nat

namespace IntegerType

def least (t : IntegerType) : Int := if t.signed then -2 ^ (t.bits - 1) else 0

def greatest (t : IntegerType) : Int := if t.signed then 2 ^ (t.bits - 1) - 1 else 2 ^ t.bits - 1

example : (⟨true, 32⟩ : IntegerType).least = -2147483648 ∧
    (⟨false, 32⟩ : IntegerType).greatest = maxWord := by decide

def Holds (t : IntegerType) (n : Int) : Prop := t.least ≤ n ∧ n ≤ t.greatest

instance (t : IntegerType) (n : Int) : Decidable (t.Holds n) :=
  inferInstanceAs (Decidable (t.least ≤ n ∧ n ≤ t.greatest))

/-- A number that the type holds. -/
@[ext]
structure Value (t : IntegerType) where
  val : Int
  holds : t.Holds val

theorem holds_zero (t : IntegerType) : t.Holds 0 := by
  have hhalf : (0 : Int) < 2 ^ (t.bits - 1) := by positivity
  have hwhole : (0 : Int) < 2 ^ t.bits := by positivity
  unfold Holds least greatest
  cases t.signed with
  | true => simp only [if_true]; omega
  | false => simp only [Bool.false_eq_true, if_false]; omega

def zero (t : IntegerType) : t.Value := ⟨0, t.holds_zero⟩

/-- The result of a step of arithmetic, unless it overflows. -/
def checked? (t : IntegerType) (n : Int) : Option t.Value :=
  if h : t.Holds n then some ⟨n, h⟩ else none

/-- Puts a digit behind the number read so far. -/
def addDigit? (t : IntegerType) (negative : Bool) (value : t.Value) (d : Nat) :
    Option t.Value := do
  let shifted ← t.checked? (10 * value.val)
  t.checked? (if negative then shifted.val - d else shifted.val + d)

def digitsFrom (t : IntegerType) (negative : Bool) (value : t.Value) :
    List Char → Option t.Value
  | [] => some value
  | c :: cs => do
    let d ← digit? c
    let value ← t.addDigit? negative value d
    t.digitsFrom negative value cs

/-- The value of a non-empty run of digits behind a sign. -/
def digits? (t : IntegerType) (negative : Bool) : List Char → Option t.Value
  | [] => none
  | cs => t.digitsFrom negative t.zero cs

/-- Reads a number with the signs that the type has. -/
def read? (t : IntegerType) : List Char → Option t.Value
  | '+' :: cs => t.digits? false cs
  | '-' :: cs => if t.signed then t.digits? true cs else none
  | cs => t.digits? false cs

def readIn? (t : IntegerType) (low high : t.Value) (cs : List Char) : Option t.Value :=
  (t.read? cs).filter fun n => low.val ≤ n.val && n.val ≤ high.val

section Reading

variable {t : IntegerType} {negative : Bool} {value v low high : t.Value} {cs : List Char}

theorem checked?_eq_some_iff {n : Int} : t.checked? n = some v ↔ v.val = n := by
  unfold checked?
  split
  · next h =>
    rw [Option.some.injEq, Value.ext_iff]
    exact eq_comm
  · next h =>
    exact ⟨fun hv => (nomatch hv), fun hv => absurd (hv ▸ v.holds) h⟩

/-- A type that holds a number holds every number on the way to it from zero. -/
theorem Holds.of_le {m n : Nat} (h : t.Holds (withSign negative n)) (hle : m ≤ n) :
    t.Holds (withSign negative m) := by
  obtain ⟨hleast, hgreatest⟩ := t.holds_zero
  have hbetween : (withSign negative n ≤ withSign negative m ∧ withSign negative m ≤ 0) ∨
      (0 ≤ withSign negative m ∧ withSign negative m ≤ withSign negative n) := by
    cases negative <;> simp [withSign, hle]
  obtain ⟨hbelow, hzero⟩ | ⟨hzero, habove⟩ := hbetween
  · exact ⟨h.1.trans hbelow, hzero.trans hgreatest⟩
  · exact ⟨hleast.trans hzero, habove.trans h.2⟩

theorem addDigit?_eq_some_iff {n d : Nat} (hvalue : value.val = withSign negative n) :
    t.addDigit? negative value d = some v ↔ v.val = withSign negative (10 * n + d) := by
  have hshifted : 10 * value.val = withSign negative (10 * n) := by
    rw [hvalue]
    cases negative <;> simp [withSign]
  have hsum : (if negative then withSign negative (10 * n) - d
      else withSign negative (10 * n) + d) = withSign negative (10 * n + d) := by
    cases negative <;> simp [withSign]
    omega
  simp only [addDigit?, Option.bind_eq_bind, Option.bind_eq_some_iff, checked?_eq_some_iff,
    hshifted]
  constructor
  · rintro ⟨shifted, hshifted, hv⟩
    rw [hv, hshifted, hsum]
  · intro hv
    have hholds : t.Holds (withSign negative (10 * n)) :=
      (hv ▸ v.holds : t.Holds _).of_le (Nat.le_add_right _ _)
    exact ⟨⟨_, hholds⟩, rfl, hv.trans hsum.symm⟩

theorem digitsFrom_cons {c : Char} {n : Nat} (hvalue : value.val = withSign negative n)
    (hc : c.isDigit = true) :
    t.digitsFrom negative value (c :: cs) = some v ↔ ∃ next : t.Value,
      next.val = withSign negative (10 * n + digitValue c) ∧
        t.digitsFrom negative next cs = some v := by
  have hdigit : digit? c = some (digitValue c) := if_pos hc
  simp only [digitsFrom, hdigit, Option.bind_eq_bind, Option.bind_some, Option.bind_eq_some_iff,
    addDigit?_eq_some_iff hvalue]

/-- What has been read is worth more by a power of ten for each digit that follows. -/
theorem digitsFrom_eq_some_iff {n : Nat} (hvalue : value.val = withSign negative n) :
    t.digitsFrom negative value cs = some v ↔ (∀ c ∈ cs, c.isDigit = true) ∧
      v.val = withSign negative (n * 10 ^ cs.length + decimal cs) := by
  induction cs generalizing value n with
  | nil =>
    have hnil : n * 10 ^ ([] : List Char).length + decimal [] = n := by simp [decimal]
    rw [digitsFrom, hnil, ← hvalue, Option.some.injEq, Value.ext_iff, eq_comm]
    exact (and_iff_right (List.forall_mem_nil _)).symm
  | cons c cs ih =>
    cases hc : c.isDigit with
    | false => simp [digitsFrom, digit?, hc]
    | true =>
      have hworth : n * 10 ^ (c :: cs).length + decimal (c :: cs) =
          (10 * n + digitValue c) * 10 ^ cs.length + decimal cs := by
        rw [decimal_cons, List.length_cons, pow_succ]
        ring
      rw [digitsFrom_cons hvalue hc, hworth, List.forall_mem_cons, hc]
      constructor
      · rintro ⟨next, hnext, hrest⟩
        obtain ⟨hdigits, hv⟩ := (ih hnext).mp hrest
        exact ⟨⟨rfl, hdigits⟩, hv⟩
      · rintro ⟨⟨-, hdigits⟩, hv⟩
        -- The type holds the whole number and so what has been read of it, too.
        have hle : 10 * n + digitValue c ≤
            (10 * n + digitValue c) * 10 ^ cs.length + decimal cs :=
          (Nat.le_mul_of_pos_right _ (by positivity)).trans (Nat.le_add_right _ _)
        have hholds : t.Holds (withSign negative (10 * n + digitValue c)) :=
          (hv ▸ v.holds : t.Holds _).of_le hle
        exact ⟨⟨_, hholds⟩, rfl, (ih rfl).mpr ⟨hdigits, hv⟩⟩

theorem digits?_eq_some_iff : t.digits? negative cs = some v ↔ Digits negative cs v.val := by
  cases cs with
  | nil => simp [digits?, Digits]
  | cons c cs =>
    have hzero : t.zero.val = withSign negative 0 := by cases negative <;> rfl
    rw [digits?, digitsFrom_eq_some_iff hzero, Nat.zero_mul, Nat.zero_add, Digits,
      eq_comm (a := v.val)]
    · exact (and_iff_right (List.cons_ne_nil c cs)).symm
    · exact List.cons_ne_nil c cs

/-- A number is read exactly if the text writes one that the type holds. -/
theorem read?_eq_some_iff : t.read? cs = some v ↔ IntegerNumeral t.signed cs v.val := by
  unfold read?
  split
  · rw [digits?_eq_some_iff, integerNumeral_plus_iff]
  · rw [integerNumeral_minus_iff, ← digits?_eq_some_iff]
    split
    · next hsigned => rw [hsigned, eq_self, true_and]
    · next hsigned => simp [hsigned]
  · next hplus hminus => rw [digits?_eq_some_iff, integerNumeral_bare_iff hplus hminus]

example : ((⟨false, 8⟩ : IntegerType).read? "0255".toList).map Value.val = some 255 ∧
    ((⟨false, 8⟩ : IntegerType).read? "256".toList).isNone = true ∧
    ((⟨true, 8⟩ : IntegerType).read? "-128".toList).map Value.val = some (-128) := by decide

theorem readIn?_eq_some_iff {n : Int} : (t.readIn? low high cs).map Value.val = some n ↔
    IntegerNumeral t.signed cs n ∧ low.val ≤ n ∧ n ≤ high.val := by
  simp only [readIn?, Option.map_eq_some_iff, Option.filter_eq_some_iff, read?_eq_some_iff,
    Bool.and_eq_true, decide_eq_true_eq]
  constructor
  · rintro ⟨v, ⟨hnumeral, hrange⟩, rfl⟩
    exact ⟨hnumeral, hrange⟩
  · rintro ⟨hnumeral, hlow, hhigh⟩
    have hholds : t.Holds n := ⟨low.holds.1.trans hlow, hhigh.trans high.holds.2⟩
    exact ⟨⟨n, hholds⟩, ⟨hnumeral, hlow, hhigh⟩, rfl⟩

end Reading

end IntegerType

end DeskConfig.Text
