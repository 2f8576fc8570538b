import DeskConfig.Text.Numeral
import Mathlib.Data.Nat.Digits.Defs

/-!
Numerals. A number without a minus is written as one or more decimal digits, with or without
a plus in front of them. Reading takes exactly these texts, gives their value however long
they are, and only then compares it with the range.
-/

namespace DeskConfig.Text

def digitValue (c : Char) : Nat := c.toNat - '0'.toNat

/-- The number that a run of digits writes, the first one being worth most. -/
def decimal (ds : List Char) : Nat := Nat.ofDigits 10 (ds.reverse.map digitValue)

/-- A text that writes a number. -/
def Numeral (cs : List Char) (n : Nat) : Prop :=
  ∃ ds, (cs = ds ∨ cs = '+' :: ds) ∧ ds ≠ [] ∧ (∀ d ∈ ds, d.isDigit = true) ∧ decimal ds = n

theorem decimal_cons (c : Char) (cs : List Char) :
    decimal (c :: cs) = digitValue c * 10 ^ cs.length + decimal cs := by
  rw [decimal, List.reverse_cons, List.map_append, Nat.ofDigits_append, List.length_map,
    List.length_reverse, List.map_singleton, Nat.ofDigits_singleton, decimal]
  ring

/-- What has been read so far is worth more by a power of ten for each digit that follows. -/
theorem digitsFrom_eq_some_iff {value n : Nat} {cs : List Char} :
    digitsFrom value cs = some n ↔
      (∀ c ∈ cs, c.isDigit = true) ∧ value * 10 ^ cs.length + decimal cs = n := by
  induction cs generalizing value with
  | nil => simp [digitsFrom, decimal]
  | cons c cs ih =>
    cases hc : c.isDigit with
    | false => simp [digitsFrom, digit?, hc]
    | true =>
      have hvalue : (10 * value + digitValue c) * 10 ^ cs.length + decimal cs =
          value * 10 ^ (c :: cs).length + decimal (c :: cs) := by
        rw [decimal_cons, List.length_cons, pow_succ]
        ring
      have hnext : digitsFrom value (c :: cs) = digitsFrom (10 * value + digitValue c) cs := by
        simp only [digitsFrom, digit?, hc, if_true, Option.bind_some]
        rfl
      rw [hnext, ih, hvalue, List.forall_mem_cons, hc]
      simp

theorem digits?_eq_some_iff {n : Nat} {cs : List Char} :
    digits? cs = some n ↔ cs ≠ [] ∧ (∀ c ∈ cs, c.isDigit = true) ∧ decimal cs = n := by
  cases cs with
  | nil => simp [digits?]
  | cons c cs =>
    rw [digits?, digitsFrom_eq_some_iff, Nat.zero_mul, Nat.zero_add]
    · exact (and_iff_right (List.cons_ne_nil c cs)).symm
    · exact List.cons_ne_nil c cs

theorem natural?_eq_some_iff {n : Nat} {cs : List Char} :
    natural? cs = some n ↔ Numeral cs n := by
  unfold natural?
  split
  · next cs =>
    rw [digits?_eq_some_iff]
    constructor
    · exact fun h => ⟨cs, .inr rfl, h⟩
    · rintro ⟨ds, rfl | hds, hne, hdigits, hvalue⟩
      · exact absurd (hdigits '+' List.mem_cons_self) (by decide)
      · cases hds
        exact ⟨hne, hdigits, hvalue⟩
  · next hplus =>
    rw [digits?_eq_some_iff]
    constructor
    · exact fun h => ⟨cs, .inl rfl, h⟩
    · rintro ⟨ds, rfl | hds, h⟩
      · exact h
      · exact (hplus ds hds).elim

theorem naturalIn?_eq_some_iff {low high n : Nat} {cs : List Char} :
    naturalIn? low high cs = some n ↔ Numeral cs n ∧ low ≤ n ∧ n ≤ high := by
  rw [naturalIn?, Option.filter_eq_some_iff, natural?_eq_some_iff, Bool.and_eq_true,
    decide_eq_true_eq, decide_eq_true_eq]

end DeskConfig.Text
